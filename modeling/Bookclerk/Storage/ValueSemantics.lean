import Bookclerk.Storage.LocalSpec
import Bookclerk.System.Run

namespace Bookclerk.Storage

open Str List Option

variable {P : Type}

structure Store (P : Type) where
  files : Files P
  sources : List P

def Op.source : Op P → Option P
  | .putFile _ _ source _ => some source
  | _ => none

variable [DecidableEq P]

namespace Backend

variable (B : Backend P)

def step (st : Store P) (op : Op P) : Option (Store P) :=
  some { files := (B.perform op st.files).2, sources := op.source.toList ++ st.sources }

def Copied (fs fs' : Files P) (src dst : P) : Prop :=
  fs'.read dst = fs.read src ∧ fs'.read src = fs.read src

def ValueStep (st : Store P) (op : Op P) : Prop :=
  (∀ s ∈ st.sources, (B.perform op st.files).2.read s = st.files.read s) ∧
    ((B.perform op st.files).1 = .ok () →
      match op with
      | .putFile _ key source _ => Copied st.files (B.perform op st.files).2 source (B.place key)
      | .copy _ src dst => Copied st.files (B.perform op st.files).2 (B.place src) (B.place dst)
      | _ => True)

def copiedSidecarPaths (fs : Files P) (src dst : Str) : List P :=
  if (fs.read (B.place (bookclerkMetaSidecarKey src))).isSome ∨ B.place (bookclerkMetaSidecarKey src) = B.place dst then
    [B.place (bookclerkMetaSidecarKey dst)]
  else []

def truncates (fs : Files P) : Op P → List P
  | .put _ key _ info => B.place key :: B.sidecarPaths key info
  | .putFile _ key _ info => B.place key :: B.sidecarPaths key info
  | .putStream _ nonce key _ info => B.temp (B.place key) nonce :: B.sidecarPaths key { info with sha256Hex := some [] }
  | .copy _ src dst => if src = dst then [] else B.place dst :: B.copiedSidecarPaths fs src dst
  | .rename _ _ src dst => if src = dst then [] else B.place dst :: B.copiedSidecarPaths fs src dst
  | .delete _ _ => []

def unlinks : Op P → List P
  | .putStream _ _ key _ _ => [B.place key]
  | .rename _ _ src dst => if src = dst then [] else [B.place src, B.place (bookclerkMetaSidecarKey src)]
  | .delete _ key => [B.place key, B.place (bookclerkMetaSidecarKey key)]
  | _ => []

/-- A copy onto a name of its own source loses nothing only where there is nothing to lose, and the sidecar
written after it is a file of its own. -/
def Apart (fs : Files P) (src dst : P) (sidecars : List P) : Prop :=
  (fs.SameFile dst src → (fs.read src).getD [] = []) ∧ ∀ p ∈ sidecars, ¬ fs.SameFile p src ∧ ¬ fs.SameFile p dst

def Separate (st : Store P) (op : Op P) : Prop :=
  (∀ s ∈ st.sources, (∀ p ∈ B.truncates st.files op, ¬ st.files.SameFile p s) ∧ s ∉ B.unlinks op) ∧
    match op with
    | .putFile _ key source info => Apart st.files source (B.place key) (B.sidecarPaths key info)
    | .copy _ src dst => src ≠ dst → Apart st.files (B.place src) (B.place dst) (B.copiedSidecarPaths st.files src dst)
    | _ => True

instance (st : Store P) : (op : Op P) → Decidable (B.Separate st op)
  | .putFile .. => inferInstanceAs (Decidable (_ ∧ _ ∧ _))
  | .copy .. => inferInstanceAs (Decidable (_ ∧ (_ → _ ∧ _)))
  | .put .. => inferInstanceAs (Decidable (_ ∧ True))
  | .putStream .. => inferInstanceAs (Decidable (_ ∧ True))
  | .rename .. => inferInstanceAs (Decidable (_ ∧ True))
  | .delete .. => inferInstanceAs (Decidable (_ ∧ True))

end Backend

def Frame (T : List P) (s : P) (v : Option Bytes) (fs : Files P) : Prop :=
  fs.read s = v ∧ ∀ p ∈ T, ¬ fs.SameFile p s

namespace Frame

variable {T : List P} {s : P} {v : Option Bytes} {fs : Files P}

section

variable (h : Frame T s v fs)
include h

lemma write {p : P} (hp : p ∈ T) (b : Bytes) : Frame T s v (fs.write p b) := by
  refine ⟨?_, fun q hq hsame => h.2 q hq ((Files.sameFile_write p q s b).mp hsame)⟩
  rw [Files.read_write, if_neg (h.2 p hp)]
  exact h.1

lemma remove {p : P} (hp : p ≠ s) : Frame T s v (fs.remove p) := by
  refine ⟨?_, fun q hq hsame => h.2 q hq (Files.sameFile_remove hsame)⟩
  rw [Files.read_remove, if_neg hp.symm]
  exact h.1

lemma point {p src : P} (hp : p ≠ s) (hsrc : ¬ fs.SameFile src s) : Frame T s v (fs.point p src) := by
  refine ⟨?_, fun q hq hsame => ?_⟩
  · rw [Files.read_point, if_neg hp.symm]
    exact h.1
  · rcases eq_or_ne q p with rfl | hne
    · exact hsrc (hsame.symm.of_point hp.symm).symm
    · exact h.2 q hq ((Files.sameFile_point_of_ne hne hp.symm).mp hsame)

lemma rename {src dst : P} (hdst : dst ≠ s) (hsrc : src ∈ T) {fs' : Files P}
    (hrename : fs.rename src dst = some fs') : Frame T s v fs' := by
  unfold Files.rename at hrename
  split_ifs at hrename
  · rwa [← some.inj hrename]
  · rw [← some.inj hrename]
    exact (h.point hdst (h.2 src hsrc)).remove fun heq => h.2 src hsrc (heq ▸ .refl src)

end

omit [DecidableEq P] in
lemma mono (h : Frame T s v fs) {T' : List P} (hsub : ∀ p ∈ T', p ∈ T) : Frame T' s v fs :=
  ⟨h.1, fun p hp => h.2 p (hsub p hp)⟩

lemma point_of_not_mem (h : Frame T s v fs) {p src : P} (hp : p ≠ s) (hT : p ∉ T) : Frame T s v (fs.point p src) := by
  refine ⟨?_, fun q hq hsame => ?_⟩
  · rw [Files.read_point, if_neg hp.symm]
    exact h.1
  · have hne : q ≠ p := fun heq => hT (heq ▸ hq)
    exact h.2 q hq ((Files.sameFile_point_of_ne hne hp.symm).mp hsame)

end Frame

namespace Backend

variable {B : Backend P} {st : Store P} {s : P}

lemma frame_putFile {f : Faults} {key : Str} {source : P} {info : ObjectMeta} {v : Option Bytes} {fs : Files P}
    (hapart : ∀ p ∈ B.sidecarPaths key info, ¬ fs.SameFile p (B.place key))
    (h : Frame (B.place key :: B.sidecarPaths key info) s v fs) :
    Frame (B.sidecarPaths key info) s v (B.putFile f key source info fs).2 := by
  have hsides : Frame (B.sidecarPaths key info) s v fs := h.mono fun p hp => mem_cons_of_mem _ hp
  have hdest : B.place key ≠ s := fun heq => h.2 _ mem_cons_self (heq ▸ .refl _)
  have hfresh : B.place key ∉ B.sidecarPaths key info := fun hmem => hapart _ hmem (.refl _)
  apply resolve_bind_at hsides
  apply attempt_bind_at hsides
  refine Keeps.bind_at ?_ fun _ =>
    B.keeps_writeLocalMetaSidecar f fun p hp fs b hframe => hframe.write hp b
  rcases linkOrCopy_effect (f .link) (f .body) ioError (.io .notFound) ioError source (B.place key) fs with heq | heq | ⟨b, heq⟩
  · rw [heq]
    exact hsides.point_of_not_mem hdest hfresh
  · rwa [heq]
  · rw [heq]
    exact (h.write mem_cons_self b).mono fun p hp => mem_cons_of_mem _ hp

def CopyFrame (B : Backend P) (src dst : Str) (fs₀ : Files P) (s : P) (v : Option Bytes) (fs : Files P) : Prop :=
  Frame (B.place dst :: B.copiedSidecarPaths fs₀ src dst) s v fs ∧
    (B.copiedSidecarPaths fs₀ src dst = [] →
      fs.read (B.place (bookclerkMetaSidecarKey src)) = none ∧ B.place (bookclerkMetaSidecarKey src) ≠ B.place dst)

namespace CopyFrame

variable {src dst : Str} {fs₀ fs : Files P} {v : Option Bytes}

lemma start (h : Frame (B.place dst :: B.copiedSidecarPaths fs₀ src dst) s v fs₀) : CopyFrame B src dst fs₀ s v fs₀ := by
  refine ⟨h, fun hnone => ?_⟩
  unfold copiedSidecarPaths at hnone
  split_ifs at hnone with hfound
  rw [not_or, Bool.not_eq_true, isSome_eq_false_iff, isNone_iff_eq_none] at hfound
  exact hfound

section

variable (h : CopyFrame B src dst fs₀ s v fs)
include h

lemma body (b : Bytes) : CopyFrame B src dst fs₀ s v (fs.write (B.place dst) b) := by
  refine ⟨h.1.write mem_cons_self b, fun hnone => ?_⟩
  obtain ⟨habsent, hne⟩ := h.2 hnone
  refine ⟨?_, hne⟩
  rw [Files.read_write, if_neg, habsent]
  rintro (heq | ⟨heq, hsome⟩)
  · exact hne heq.symm
  · exact hsome (heq.trans (Files.read_eq_none.mp habsent))

lemma sidecar (hfound : (fs.read (B.place (bookclerkMetaSidecarKey src))).isSome = true)
    (b : Bytes) : CopyFrame B src dst fs₀ s v (fs.write (B.place (bookclerkMetaSidecarKey dst)) b) := by
  have hsome : B.copiedSidecarPaths fs₀ src dst ≠ [] := by
    intro hnone
    rw [(h.2 hnone).1] at hfound
    exact absurd hfound Bool.false_ne_true
  have hmem : B.place (bookclerkMetaSidecarKey dst) ∈ B.copiedSidecarPaths fs₀ src dst := by
    unfold copiedSidecarPaths at hsome ⊢
    split_ifs at hsome ⊢
    · exact mem_cons_self
    · exact absurd rfl hsome
  exact ⟨h.1.write (mem_cons_of_mem _ hmem) b, fun hnone => absurd hnone hsome⟩

lemma remove {p : P} (hp : p ≠ s) : CopyFrame B src dst fs₀ s v (fs.remove p) := by
  refine ⟨h.1.remove hp, fun hnone => ?_⟩
  obtain ⟨habsent, hne⟩ := h.2 hnone
  refine ⟨?_, hne⟩
  rw [Files.read_remove, habsent, ite_self]

end

end CopyFrame

lemma read_source_of_separate {op : Op P} (h : B.Separate st op) (hs : s ∈ st.sources) :
    (B.perform op st.files).2.read s = st.files.read s := by
  obtain ⟨hfar, hlinks⟩ := h.1 s hs
  have hframe : Frame (B.truncates st.files op) s (st.files.read s) st.files := ⟨rfl, hfar⟩
  cases op with
  | put f key data info =>
    have hkeeps : Keeps (Frame (B.place key :: B.sidecarPaths key info) s (st.files.read s)) (B.put f key data info) :=
      B.keeps_put f data fun p hp fs b hkeep => hkeep.write hp b
    exact (hkeeps st.files hframe).1
  | putFile f key source info =>
    exact (frame_putFile (fun p hp => (h.2.2 p hp).2) hframe).1
  | putStream f nonce key body info =>
    have hpath : B.place key ≠ s := fun heq => hlinks (heq ▸ mem_cons_self)
    have htemp : B.temp (B.place key) nonce ≠ s := fun heq => hfar _ mem_cons_self (heq ▸ .refl _)
    have hkeeps : Keeps (Frame (B.temp (B.place key) nonce :: B.sidecarPaths key { info with sha256Hex := some [] }) s
        (st.files.read s)) (B.putStream f nonce key body info) :=
      B.keeps_putStream f body info (fun p hp fs b hkeep => hkeep.write hp b) (fun fs hkeep => hkeep.remove htemp)
        fun fs fs' hrename hkeep => hkeep.rename hpath mem_cons_self hrename
    exact (hkeeps.bind (fun _ => .pure ()) st.files hframe).1
  | copy f src dst =>
    rcases eq_or_ne src dst with heq | hne
    · simp [perform, copy, heq, Pure.pure]
    · rw [truncates, if_neg hne] at hframe
      exact (B.keeps_copy f (fun _ fs b hkeep => hkeep.body b) (fun _ fs b hfound hkeep => hkeep.sidecar hfound b)
        st.files (CopyFrame.start hframe)).1.1
  | rename f g src dst =>
    rcases eq_or_ne src dst with heq | hne
    · simp [perform, rename, heq, Pure.pure]
    · rw [truncates, if_neg hne] at hframe
      rw [unlinks, if_neg hne] at hlinks
      refine (B.keeps_rename f g (fun _ fs b hkeep => hkeep.body b) (fun _ fs b hfound hkeep => hkeep.sidecar hfound b)
        (fun _ p hp fs hkeep => hkeep.remove fun heq => ?_) st.files (CopyFrame.start hframe)).1.1
      exact hlinks (heq ▸ hp)
  | delete f key =>
    have hkeeps : Keeps (Frame [] s (st.files.read s)) (B.delete f key) :=
      B.keeps_delete f fun p hp fs hkeep => hkeep.remove fun heq => hlinks (heq ▸ hp)
    exact (hkeeps st.files hframe).1

section Copies

variable {fs mid : Files P} {src dst : P}

lemma Copied.write (h : Copied fs mid src dst) {p : P} (hsrc : ¬ mid.SameFile p src) (hdst : ¬ mid.SameFile p dst) (b : Bytes) :
    Copied fs (mid.write p b) src dst := by
  unfold Copied
  rw [Files.read_write, Files.read_write, if_neg hsrc, if_neg hdst]
  exact h

lemma Copied.sidecars (h : Copied fs mid src dst) {ps : List P} (b : Bytes)
    (hfar : ∀ p ∈ ps, ¬ mid.SameFile p src ∧ ¬ mid.SameFile p dst) : Copied fs (ps.foldl (fun fs p => fs.write p b) mid) src dst := by
  induction ps generalizing mid with
  | nil => exact h
  | cons p ps ih =>
    apply ih
    · exact h.write (hfar p mem_cons_self).1 (hfar p mem_cons_self).2 b
    · intro q hq
      simpa only [Files.sameFile_write] using hfar q (mem_cons_of_mem _ hq)

lemma copied_point (fs : Files P) (src dst : P) : Copied fs (fs.point dst src) src dst := by
  constructor
  · rw [Files.read_point, if_pos rfl]
  · rw [Files.read_point]
    split_ifs
    · rfl
    · rfl

lemma copied_write {b : Bytes} (hb : fs.read src = some b) (hempty : fs.SameFile dst src → (fs.read src).getD [] = []) :
    Copied fs (fs.write dst (((fs.write dst []).read src).getD [])) src dst := by
  have hcontent : ((fs.write dst []).read src).getD [] = b := by
    rw [Files.read_write]
    split_ifs with hsame
    · rw [getD_some, ← hempty hsame, hb, getD_some]
    · rw [hb, getD_some]
  rw [hcontent]
  constructor
  · rw [Files.read_write, if_pos (.refl dst), hb]
  · rw [Files.read_write, hb, ite_self]

end Copies

lemma copied_putFile {f : Faults} {key : Str} {source : P} {info : ObjectMeta} {fs fs' : Files P}
    (hapart : Apart fs source (B.place key) (B.sidecarPaths key info)) (h : B.putFile f key source info fs = (.ok (), fs')) :
    Copied fs fs' source (B.place key) := by
  obtain ⟨mid, hmid, hside⟩ := putFile_ok h
  rw [writeLocalMetaSidecar_ok hside]
  rcases hmid with rfl | ⟨b, hb, rfl⟩
  · refine (copied_point fs source (B.place key)).sidecars _ fun p hp => ?_
    obtain ⟨hsrc, hdst⟩ := hapart.2 p hp
    have hne : p ≠ B.place key := fun heq => hdst (heq ▸ .refl p)
    refine ⟨fun hsame => hsrc ?_, fun hsame => hsrc (hsame.of_point hne)⟩
    rcases eq_or_ne source (B.place key) with rfl | hsource
    · exact hsame.of_point hne
    · exact (Files.sameFile_point_of_ne hne hsource).mp hsame
  · refine (copied_write hb hapart.1).sidecars _ fun p hp => ?_
    simpa only [Files.sameFile_write] using hapart.2 p hp

lemma copied_copy {f : Faults} {src dst : Str} {fs fs' : Files P}
    (hapart : src ≠ dst → Apart fs (B.place src) (B.place dst) (B.copiedSidecarPaths fs src dst))
    (h : B.copy f src dst fs = (.ok (), fs')) : Copied fs fs' (B.place src) (B.place dst) := by
  rcases eq_or_ne src dst with rfl | hne
  · rw [copy, if_pos rfl] at h
    obtain rfl : fs = fs' := congrArg Prod.snd h
    exact ⟨rfl, rfl⟩
  · obtain ⟨b, hb, hside⟩ := copy_ok hne h
    have hbody := copied_write hb (hapart hne).1
    have heffect := B.copySidecar_effect f src dst
      (fs.write (B.place dst) (((fs.write (B.place dst) []).read (B.place src)).getD []))
    rw [hside] at heffect
    rcases heffect with rfl | ⟨hfound, b', rfl⟩
    · exact hbody
    · have hmem : B.place (bookclerkMetaSidecarKey dst) ∈ B.copiedSidecarPaths fs src dst := by
        unfold copiedSidecarPaths
        rw [if_pos]
        · exact mem_cons_self
        · rw [Files.read_write] at hfound
          split_ifs at hfound with hsame
          · rcases hsame with heq | ⟨heq, hsome⟩
            · exact .inr heq.symm
            · left
              rw [isSome_iff_ne_none, ne_eq, Files.read_eq_none, ← heq]
              exact hsome
          · exact .inl hfound
      obtain ⟨hsrc, hdst⟩ := (hapart hne).2 _ hmem
      apply hbody.write
      · simpa only [Files.sameFile_write] using hsrc
      · simpa only [Files.sameFile_write] using hdst

lemma valueStep_of_separate {op : Op P} (h : B.Separate st op) : B.ValueStep st op := by
  refine ⟨fun s hs => read_source_of_separate h hs, fun hok => ?_⟩
  cases op with
  | putFile f key source info => exact copied_putFile h.2 (Prod.ext hok rfl)
  | copy f src dst => exact copied_copy h.2 (Prod.ext hok rfl)
  | _ => trivial

theorem value_semantics_along_runs (B : Backend P) (st : Store P) (ops : List (Op P))
    (h : System.EveryStep B.step B.Separate st ops) : System.EveryStep B.step B.ValueStep st ops := by
  induction ops generalizing st with
  | nil => trivial
  | cons op ops ih => exact ⟨valueStep_of_separate h.1, fun st' hst => ih st' (h.2 st' hst)⟩

def importedStore : Store Str where
  files := Files.empty.write "/import/a.m4b".toList [1, 2]
  sources := []

def importFile (key : String) : Op Str :=
  .putFile noFaults key.toList "/import/a.m4b".toList {}

def importedRun : List (Op Str) :=
  [importFile "a.m4b", .put noFaults "b.m4b".toList [9] { asin := some ['B'] }, .copy noFaults "b.m4b".toList "c.m4b".toList]

theorem value_semantics_along_importedRun : System.EveryStep plainBackend.step plainBackend.ValueStep importedStore importedRun :=
  value_semantics_along_runs plainBackend importedStore importedRun (by decide +kernel)

theorem linked_source_is_overwritten :
    (System.run plainBackend.step importedStore [importFile "a.m4b", .put noFaults "a.m4b".toList [9] {}]).map
        (fun st => st.files.read "/import/a.m4b".toList) = some (some [9]) ∧
      (System.run plainBackend.step importedStore [importFile "a.m4b"]).map
        (fun st => ((plainBackend.perform (importFile "a.m4b") st.files).1.isOk,
          (plainBackend.perform (importFile "a.m4b") st.files).2.read "/import/a.m4b".toList)) =
        some (true, some []) := by
  decide +kernel

end Backend

end Bookclerk.Storage
