import Bookclerk.Storage.Metadata
import Bookclerk.System.Run

namespace Bookclerk.Storage

open Str List Option

namespace Backend

variable {P : Type} [DecidableEq P] {B : Backend P} {fs : Files P} {key : Str}

lemma truthful_putFile_iff {f : Faults} {source : P} {info : ObjectMeta} (htruth : B.Truthful fs)
    (halone : B.putFileChange f key source info fs ≠ {} → B.Alone fs key)
    (hsource : B.linksFile f key source fs = true → B.sidecarChange f key info ≠ none → ¬ fs.SameFile (B.sidecarPlace key) source) :
    B.Truthful (B.putFile f key source info fs).2 ↔
      (B.putFileChange f key source info fs ≠ {} → B.ChangeDescribed fs key (B.putFileChange f key source info fs)) := by
  cases hready : (resolves (f .resolve) key && f .createDir = .done) with
  | false =>
    rw [B.putFile_files_of_not_ready hready, putFileChange, hready]
    simp [htruth]
  | true =>
    have hkey : ValidKey key := valid_of_resolves (Bool.and_eq_true_iff.mp hready).1
    cases hlink : B.linksFile f key source fs with
    | false =>
      rw [B.putFile_files_of_copy hlink hready]
      rcases eq_or_ne (B.putFileChange f key source info fs) {} with hnone | hsome
      · simp [hnone, Change.apply_empty, htruth]
      · rw [forall_prop_of_true hsome]
        exact truthful_apply_iff (halone hsome) hkey htruth
    | true =>
      obtain ⟨b, hb⟩ := B.linksFile_source hlink
      have hc : B.putFileChange f key source info fs = { body := some b, sidecar := B.sidecarChange f key info } := by
        rw [putFileChange, if_pos hready, if_pos hlink, hb]
      have hsome : B.putFileChange f key source info fs ≠ {} := fun h => by simp [hc] at h
      have hne : B.sidecarPlace key ≠ B.place key := fun heq => (halone hsome).1 (heq ▸ .refl _)
      rw [forall_prop_of_true hsome, B.putFile_files_of_link hlink hready, hc]
      refine truthful_sidecar_iff (c := { body := some b, sidecar := B.sidecarChange f key info }) hkey htruth (halone hsome)
        ?_ ?_ ?_
      · rw [Files.read_point, if_pos rfl, hb, some_or]
      · intro r hr
        rw [Files.read_point, if_neg (fun heq : r = B.place key => hr (heq ▸ .refl _))]
      · intro hside r hr
        have hapart := hsource hlink hside
        rcases eq_or_ne r (B.place key) with rfl | hr'
        · exact absurd (hr.of_point hne) hapart
        · exact ⟨hr', (Files.sameFile_point_of_ne hne hr').mp hr⟩

def TempFree (B : Backend P) (fs : Files P) (key : Str) (tmp : P) : Prop :=
  fs.inode tmp = none ∧ tmp ≠ B.place key ∧ tmp ≠ B.sidecarPlace key ∧
    ∀ k, ValidKey k → B.sidecarPlace k ≠ tmp ∧ (B.place k = tmp → fs.read (B.sidecarPlace k) = none)

omit [DecidableEq P] in
lemma Truthful.of_onlyTemp {tmp : P} {fs' : Files P} (htruth : B.Truthful fs) (hfree : B.TempFree fs key tmp)
    (h : OnlyTemp fs tmp fs') : B.Truthful fs' := by
  intro k hk
  obtain ⟨hside, hbody⟩ := hfree.2.2.2 k hk
  rw [h.2 _ hside]
  rcases eq_or_ne (B.place k) tmp with heq | hne
  · rw [hbody heq]
    exact described_of_none _
  · rw [h.2 _ hne]
    exact htruth k hk

lemma truthful_putStream_iff {f : Faults} {nonce : Nat} {body : Bytes} {info : ObjectMeta} (htruth : B.Truthful fs)
    (hfree : B.TempFree fs key (B.temp (B.place key) nonce)) (halone : B.streamChange f key body info ≠ {} → B.Alone fs key) :
    B.Truthful (B.putStream f nonce key body info fs).2 ↔
      (B.streamChange f key body info ≠ {} → B.ChangeDescribed fs key (B.streamChange f key body info)) := by
  rcases B.putStream_files body info hfree.1 hfree.2.1 with ⟨hnone, htemp⟩ | ⟨hbody, hfiles⟩
  · rw [hnone]
    simp [htruth.of_onlyTemp hfree htemp]
  · have hsome : B.streamChange f key body info ≠ {} := fun h => by simp [h] at hbody
    rw [forall_prop_of_true hsome, hfiles]
    have hq : B.sidecarPlace key ≠ B.place key := fun heq => (halone hsome).1 (heq ▸ .refl _)
    have htmp (r : P) (h : fs.SameFile (B.temp (B.place key) nonce) r) : B.temp (B.place key) nonce = r :=
      (onlyTemp_refl hfree.1).1 r h
    refine truthful_sidecar_iff (streamChange_valid hsome) htruth (halone hsome) ?_ ?_ ?_
    · rw [hbody, Files.read_remove, if_neg hfree.2.1.symm, Files.read_point, if_pos rfl, Files.read_write, if_pos (.refl _),
        some_or]
    · intro r hr
      rw [Files.read_remove]
      split_ifs with heq
      · rw [heq, eq_comm, Files.read_eq_none]
        exact hfree.1
      · rw [Files.read_point, if_neg (fun h : r = B.place key => hr (h ▸ .refl _)), Files.read_write, if_neg fun h => heq (htmp r h).symm]
    · intro _ r hr
      have hpoint := Files.sameFile_remove hr
      rcases eq_or_ne r (B.place key) with rfl | hr'
      · have hwritten := (Files.sameFile_write ..).mp (hpoint.of_point hq)
        exact absurd (htmp _ hwritten.symm) hfree.2.2.1
      · exact ⟨hr', (Files.sameFile_write ..).mp ((Files.sameFile_point_of_ne hq hr').mp hpoint)⟩

lemma read_delete {f : Faults} {p : P} (hbody : p ≠ B.place key) (hside : p ≠ B.sidecarPlace key) :
    (B.delete f key fs).2.read p = fs.read p := by
  have hkeep : Keeps (fun fs' => fs'.read p = fs.read p) (B.delete f key) := by
    refine B.keeps_delete f fun q hq fs' h => ?_
    have hne : p ≠ q := by
      rcases mem_pair.mp hq with rfl | rfl
      · exact hbody
      · exact hside
    rw [Files.read_remove, if_neg hne, h]
  exact hkeep fs rfl

lemma truthful_rename_iff {f g : Faults} {src dst : Str} (htruth : B.Truthful fs)
    (halone : B.copyChange f src dst fs ≠ {} → B.Alone fs dst)
    (hapart : B.copyChange f src dst fs ≠ {} → B.place src ≠ B.place dst ∧ B.place src ≠ B.sidecarPlace dst) :
    B.Truthful (B.rename f g src dst fs).2 ↔ (B.copyChange f src dst fs ≠ {} → B.ChangeDescribed fs dst (B.copyChange f src dst fs)) := by
  have hcopy := truthful_copy_iff htruth halone
  unfold rename
  split
  · next heq =>
      have hnone : B.copyChange f src dst fs = {} := by simp [copyChange, heq]
      simpa [hnone, Pure.pure] using htruth
  · rcases hmid : B.copy f src dst fs with ⟨e | u, mid⟩
    · rw [Io.bind_of_error hmid]
      simpa [hmid] using hcopy
    · rw [Io.bind_of_ok hmid]
      rw [hmid] at hcopy
      constructor
      · intro h hsome
        obtain ⟨-, hsrc, hdst⟩ := copyChange_valid hsome
        obtain ⟨hplace, hplaceSide⟩ := hapart hsome
        have hother := ((halone hsome).2 src hsrc).resolve_left fun halias => hplace halias.1
        have hsides : B.place dst ≠ B.sidecarPlace src := fun heq => hother.2.1 (heq ▸ .refl _)
        have hsides' : B.sidecarPlace dst ≠ B.sidecarPlace src := fun heq => hother.2.2.1 (heq ▸ .refl _)
        have hmidReads : (B.copy f src dst fs).2 = mid := congrArg Prod.snd hmid
        rw [copy_files, ← sidecarPlace] at hmidReads
        have hend := h dst hdst
        rw [read_delete hplace.symm hsides, read_delete hplaceSide.symm hsides', ← hmidReads] at hend
        rwa [Change.read_apply_body _ (halone hsome).1, Change.read_apply_sidecar _ (halone hsome).1] at hend
      · intro h
        exact keeps_truthful_delete g src mid (hcopy.mpr h)

section Runs

variable (B)

def fileStep (fs : Files P) (op : Op P) : Option (Files P) :=
  some (B.perform op fs).2

def target : Op P → Str
  | .put _ key _ _ => key
  | .putFile _ key _ _ => key
  | .putStream _ _ key _ _ => key
  | .copy _ _ dst => dst
  | .rename _ _ _ dst => dst
  | .delete _ key => key

def change (fs : Files P) : Op P → Change
  | .put f key data info => B.putChange f key data info
  | .putFile f key source info => B.putFileChange f key source info fs
  | .putStream f _ key body info => B.streamChange f key body info
  | .copy f src dst => B.copyChange f src dst fs
  | .rename f _ src dst => B.copyChange f src dst fs
  | .delete _ _ => {}

/-- An operation that changes an object leaves a sidecar beside it that describes the new bytes, or none. -/
def Refreshed (fs : Files P) (op : Op P) : Prop :=
  B.change fs op ≠ {} → B.ChangeDescribed fs (target op) (B.change fs op)

def Undisturbed (fs : Files P) (op : Op P) : Prop :=
  (B.change fs op ≠ {} → B.Alone fs (target op)) ∧
    match op with
    | .putFile f key source info =>
      B.linksFile f key source fs = true → B.sidecarChange f key info ≠ none → ¬ fs.SameFile (B.sidecarPlace key) source
    | .putStream _ nonce key _ _ => B.TempFree fs key (B.temp (B.place key) nonce)
    | .rename f _ src dst =>
      B.copyChange f src dst fs ≠ {} → B.place src ≠ B.place dst ∧ B.place src ≠ B.sidecarPlace dst
    | _ => True

variable {B}

lemma truthful_perform_iff {op : Op P} (htruth : B.Truthful fs) (h : B.Undisturbed fs op) :
    B.Truthful (B.perform op fs).2 ↔ B.Refreshed fs op := by
  cases op with
  | put f key data info => exact truthful_put_iff htruth h.1
  | putFile f key source info => exact truthful_putFile_iff htruth h.1 h.2
  | putStream f nonce key body info =>
    rw [perform, bind_pure_files]
    exact truthful_putStream_iff htruth h.2 h.1
  | copy f src dst => exact truthful_copy_iff htruth h.1
  | rename f g src dst => exact truthful_rename_iff htruth h.1 h.2
  | delete f key =>
    have hkept : B.Truthful (B.delete f key fs).2 := keeps_truthful_delete f key fs htruth
    exact iff_of_true hkept fun hchange => absurd rfl hchange

end Runs

def bookMeta : ObjectMeta where
  asin := some "B00".toList
  contentLength := some 2

def storeBook : Op Str :=
  .put noFaults "a.m4b".toList [1, 2] bookMeta

lemma sameFile_empty {p q : Str} : (Files.empty : Files Str).SameFile p q ↔ p = q := by
  simp [Files.SameFile, Files.empty]

lemma probesTruthful_empty : plainBackend.ProbesTruthful Files.empty := by
  rw [probesTruthful_iff]
  intro key _
  exact described_of_none _

lemma alone_in_empty {key : Str} (hshort : key.length < metaSuffix.length) : plainBackend.Alone Files.empty key := by
  have hlong (k : Str) : key ≠ k ++ metaSuffix := by
    rintro rfl
    rw [length_append] at hshort
    omega
  have hplace {k k' : Str} (h : plainBackend.place k = plainBackend.place k') : k = k' := append_cancel_left h
  refine ⟨fun h => hlong key (hplace (sameFile_empty.mp h)), fun k _ => ?_⟩
  rcases eq_or_ne k key with rfl | hne
  · exact .inl ⟨rfl, rfl⟩
  · refine .inr ⟨fun h => hne (hplace (sameFile_empty.mp h)).symm, fun h => hlong k (hplace (sameFile_empty.mp h)), fun h => ?_,
      fun _ => rfl⟩
    have hkeys : key ++ metaSuffix = k ++ metaSuffix := hplace (sameFile_empty.mp h)
    exact hne (append_cancel_right hkeys).symm

end Backend

end Bookclerk.Storage
