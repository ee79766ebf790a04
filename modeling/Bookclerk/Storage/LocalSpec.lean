import Bookclerk.Storage.Local

namespace Bookclerk.Storage

open Str List

variable {P α : Type} {I : Files P → Prop}
variable {f : Faults} {fs fs' : Files P} {info : ObjectMeta} {o : Outcome} {dst key src : Str} {u : Unit}

namespace Backend

variable {B : Backend P}

lemma resolve_ok {p : P} (h : B.resolve o key fs = (.ok p, fs')) : p = B.place key ∧ fs' = fs := by
  obtain ⟨_, _, hvalid, hrest⟩ := Io.bind_ok.mp h
  obtain ⟨-, rfl⟩ := Io.lift_ok.mp hvalid
  obtain ⟨_, _, hlinks, hplace⟩ := Io.bind_ok.mp hrest
  obtain ⟨-, rfl⟩ := Io.guard_ok.mp hlinks
  simpa [Pure.pure, eq_comm] using hplace

variable {k : P → Local P α}

lemma resolve_bind_ok {a : α} (h : (B.resolve o key >>= k) fs = (.ok a, fs')) : k (B.place key) fs = (.ok a, fs') := by
  obtain ⟨p, mid, hp, hk⟩ := Io.bind_ok.mp h
  obtain ⟨rfl, rfl⟩ := resolve_ok hp
  exact hk

lemma attempt_bind_ok {e : StorageError} {k : Unit → Local P α} {a : α}
    (h : (Io.attempt o e >>= k) fs = (.ok a, fs')) : k () fs = (.ok a, fs') := by
  obtain ⟨_, mid, ho, hk⟩ := Io.bind_ok.mp h
  obtain ⟨-, rfl⟩ := Io.guard_ok.mp ho
  exact hk

variable (B)

lemma keeps_resolve (o : Outcome) (key : Str) : Keeps I (B.resolve o key) := by
  exact .bind (.lift _) fun _ => .bind (.attempt _ _) fun _ => .pure _

variable {B}

lemma resolve_bind_at (h : I fs) (hk : I (k (B.place key) fs).2) (o : Outcome) : I ((B.resolve o key >>= k) fs).2 := by
  rcases hres : B.resolve o key fs with ⟨e | p, mid⟩
  · rw [Io.bind_of_error hres]
    simpa [hres] using B.keeps_resolve o key fs h
  · rw [Io.bind_of_ok hres]
    obtain ⟨rfl, rfl⟩ := resolve_ok hres
    exact hk

lemma attempt_bind_at {k : Unit → Local P α} (h : I fs) (hk : I (k () fs).2) (o : Outcome) (e : StorageError) :
    I ((Io.attempt o e >>= k) fs).2 := by
  rcases ho : Io.attempt o e fs with ⟨e' | u, mid⟩
  · rw [Io.bind_of_error ho]
    simpa [ho] using Keeps.attempt o e fs h
  · rw [Io.bind_of_ok ho]
    obtain ⟨-, rfl⟩ := Io.guard_ok.mp ho
    exact hk

variable (B)

lemma keeps_resolve_bind (hk : Keeps I (k (B.place key))) (o : Outcome) : Keeps I (B.resolve o key >>= k) :=
  fun fs h => resolve_bind_at h (hk fs h) o

variable [DecidableEq P]

def sidecarPaths (key : Str) (info : ObjectMeta) : List P :=
  if writesSidecar key info then [B.place (bookclerkMetaSidecarKey key)] else []

lemma keeps_writeLocalMetaSidecar (f : Faults)
    (hI : ∀ p ∈ B.sidecarPaths key info, ∀ fs b, I fs → I (fs.write p b)) : Keeps I (B.writeLocalMetaSidecar f key info) := by
  unfold writeLocalMetaSidecar
  unfold sidecarPaths at hI
  split
  · next hside =>
      rw [if_pos hside] at hI
      refine B.keeps_resolve_bind ?_ _
      exact .bind (.attempt _ _) fun _ => .writeFile (hI _ mem_cons_self) _ _ _
  · exact .pure ()

lemma keeps_put (f : Faults) (data : Bytes)
    (hI : ∀ p ∈ B.place key :: B.sidecarPaths key info, ∀ fs b, I fs → I (fs.write p b)) : Keeps I (B.put f key data info) := by
  refine .bind (.lift _) fun _ => .bind (.lift _) fun _ => ?_
  refine B.keeps_resolve_bind ?_ _
  refine .bind (.attempt _ _) fun _ => .bind (.writeFile (hI _ mem_cons_self) _ _ _) fun _ => ?_
  exact B.keeps_writeLocalMetaSidecar f fun p hp => hI p (mem_cons_of_mem _ hp)

lemma keeps_copyFoundSidecar (f : Faults)
    (hI : ∀ fs b, I fs → I (fs.write (B.place (bookclerkMetaSidecarKey dst)) b)) : Keeps I (B.copyFoundSidecar f src dst) := by
  refine B.keeps_resolve_bind (B.keeps_resolve_bind ?_ _) _
  exact .bind (.attempt _ _) fun _ => .ignore (.copyFile hI _ _ _ _)

lemma copySidecar_effect (f : Faults) (src dst : Str) (fs : Files P) :
    (B.copySidecar f src dst fs).2 = fs ∨
      (fs.read (B.place (bookclerkMetaSidecarKey src))).isSome = true ∧
        ∃ b, (B.copySidecar f src dst fs).2 = fs.write (B.place (bookclerkMetaSidecarKey dst)) b := by
  unfold copySidecar
  rcases hres : B.resolve (f .exists) (bookclerkMetaSidecarKey src) fs with ⟨e | side, mid⟩
  · have hmid := B.keeps_resolve (I := fun fs' => fs' = fs) (f .exists) (bookclerkMetaSidecarKey src) fs rfl
    rw [Io.bind_of_error hres]
    exact .inl (by simpa [hres] using hmid)
  · obtain ⟨rfl, rfl⟩ := resolve_ok hres
    rw [Io.bind_of_ok hres, Io.bind_of_ok (x := Io.tryExists _) rfl]
    split
    · next hfound =>
        let Changed (fs' : Files P) : Prop := fs' = mid ∨ ∃ b, fs' = mid.write (B.place (bookclerkMetaSidecarKey dst)) b
        have hkeep : Keeps Changed (B.copyFoundSidecar f src dst) := by
          refine B.keeps_copyFoundSidecar f ?_
          rintro fs' b (rfl | ⟨b', rfl⟩)
          · exact .inr ⟨b, rfl⟩
          · exact .inr ⟨b, Files.write_write ..⟩
        exact (hkeep mid (.inl rfl)).imp_right fun h => ⟨hfound, h⟩
    · exact .inl rfl

lemma keeps_copySidecar (f : Faults)
    (hI : ∀ fs b, (fs.read (B.place (bookclerkMetaSidecarKey src))).isSome = true → I fs →
      I (fs.write (B.place (bookclerkMetaSidecarKey dst)) b)) : Keeps I (B.copySidecar f src dst) := by
  intro fs h
  rcases B.copySidecar_effect f src dst fs with heq | ⟨hfound, b, heq⟩
  · rwa [heq]
  · rw [heq]
    exact hI fs b hfound h

lemma keeps_copy (f : Faults) (hbody : src ≠ dst → ∀ fs b, I fs → I (fs.write (B.place dst) b))
    (hside : src ≠ dst → ∀ fs b, (fs.read (B.place (bookclerkMetaSidecarKey src))).isSome = true → I fs →
      I (fs.write (B.place (bookclerkMetaSidecarKey dst)) b)) : Keeps I (B.copy f src dst) := by
  unfold copy
  split
  · exact .pure ()
  · next hne =>
      refine B.keeps_resolve_bind (B.keeps_resolve_bind ?_ _) _
      refine .bind (.attempt _ _) fun _ => .bind (.size _ _) fun len => .bind (.guard _ _) fun _ => ?_
      refine .bind (.attempt _ _) fun _ => .bind (.copyFile (hbody hne) _ _ _ _) fun _ => ?_
      exact B.keeps_copySidecar f (hside hne)

lemma keeps_deleteOne (hI : ∀ fs, I fs → I (fs.remove (B.place key))) (resolved removed : Outcome) :
    Keeps I (B.deleteOne resolved removed key) :=
  B.keeps_resolve_bind (.removeFile hI _ _) _

lemma keeps_delete (f : Faults)
    (hI : ∀ p ∈ [B.place key, B.place (bookclerkMetaSidecarKey key)], ∀ fs, I fs → I (fs.remove p)) : Keeps I (B.delete f key) := by
  refine .bind (B.keeps_deleteOne (hI _ mem_cons_self) _ _) fun _ => ?_
  split
  · exact .pure ()
  · exact .ignore (B.keeps_deleteOne (hI _ (mem_cons_of_mem _ mem_cons_self)) _ _)

lemma keeps_rename (f g : Faults)
    (hbody : src ≠ dst → ∀ fs b, I fs → I (fs.write (B.place dst) b))
    (hside : src ≠ dst → ∀ fs b, (fs.read (B.place (bookclerkMetaSidecarKey src))).isSome = true → I fs →
      I (fs.write (B.place (bookclerkMetaSidecarKey dst)) b))
    (hremove : src ≠ dst → ∀ p ∈ [B.place src, B.place (bookclerkMetaSidecarKey src)], ∀ fs, I fs → I (fs.remove p)) :
    Keeps I (B.rename f g src dst) := by
  unfold rename
  split
  · exact .pure ()
  · next hne => exact .bind (B.keeps_copy f hbody hside) fun _ => B.keeps_delete g (hremove hne)

lemma writesSidecar_sha256 (key : Str) (info : ObjectMeta) (digest : Str) :
    writesSidecar key { info with sha256Hex := some digest } = !endsWith key metaSuffix := by
  simp [writesSidecar]

lemma keeps_receive {tmp path : P} (f : Faults) (body : Bytes) (info : ObjectMeta)
    (hwrite : ∀ fs b, I fs → I (fs.write tmp b)) (hremove : ∀ fs, I fs → I (fs.remove tmp))
    (hrename : ∀ fs fs', fs.rename tmp path = some fs' → I fs → I fs') : Keeps I (B.receive f tmp path body info) := by
  refine .onError ?_ (.removeFile hremove _ _)
  refine .bind (.writeFile hwrite _ _ _) fun _ => .bind (.lift _) fun digest => ?_
  exact .bind (.renameFile hrename _ _) fun _ => .pure _

lemma keeps_putStream {nonce : Nat} (f : Faults) (body : Bytes) (info : ObjectMeta)
    (hwrite : ∀ p ∈ B.temp (B.place key) nonce :: B.sidecarPaths key { info with sha256Hex := some [] },
      ∀ fs b, I fs → I (fs.write p b))
    (hremove : ∀ fs, I fs → I (fs.remove (B.temp (B.place key) nonce)))
    (hrename : ∀ fs fs', fs.rename (B.temp (B.place key) nonce) (B.place key) = some fs' → I fs → I fs') :
    Keeps I (B.putStream f nonce key body info) := by
  refine .bind (.lift _) fun _ => B.keeps_resolve_bind ?_ _
  refine .bind (.attempt _ _) fun _ => ?_
  refine .bind (B.keeps_receive f body info (hwrite _ mem_cons_self) hremove hrename) fun digest => ?_
  refine .bind (B.keeps_writeLocalMetaSidecar f fun p hp => hwrite p (mem_cons_of_mem _ ?_)) fun _ => .pure _
  simpa only [sidecarPaths, writesSidecar_sha256] using hp

lemma linkOrCopy_effect (link body : Outcome) (e missing e' : StorageError) (src dst : P) (fs : Files P) :
    let fs' := ((Io.hardLink link e src dst).orElse (Io.copyFile body missing e' src dst) fs).2
    fs' = fs.point dst src ∨ fs' = fs ∨ ∃ b, fs' = fs.write dst b := by
  let Changed (fs' : Files P) : Prop := fs' = fs ∨ ∃ b, fs' = fs.write dst b
  have hcopy : Keeps Changed (Io.copyFile body missing e' src dst) := by
    refine .copyFile ?_ _ _ _ _
    rintro fs' b (rfl | ⟨b', rfl⟩)
    · exact .inr ⟨b, rfl⟩
    · exact .inr ⟨b, Files.write_write ..⟩
  unfold Io.orElse
  rcases hlink : Io.hardLink link e src dst fs with ⟨e | u, mid⟩
  · obtain rfl := Io.hardLink_error hlink
    exact .inr (hcopy mid (.inl rfl))
  · have hpoint := Io.hardLink_ok hlink
    unfold Files.link at hpoint
    split_ifs at hpoint
    exact .inl (Option.some.inj hpoint).symm

variable {B}

lemma putFile_ok {source : P}
    (h : B.putFile f key source info fs = (.ok u, fs')) :
    ∃ mid, (mid = fs.point (B.place key) source ∨
        ∃ b, fs.read source = some b ∧ mid = fs.write (B.place key) (((fs.write (B.place key) []).read source).getD [])) ∧
      B.writeLocalMetaSidecar f key info mid = (.ok u, fs') := by
  obtain ⟨_, mid, hbody, hside⟩ := Io.bind_ok.mp (attempt_bind_ok (resolve_bind_ok h))
  refine ⟨mid, ?_, hside⟩
  rcases Io.orElse_ok hbody with hlink | ⟨e, mid', hlink, hcopy⟩
  · have hpoint := Io.hardLink_ok hlink
    unfold Files.link at hpoint
    split_ifs at hpoint
    exact .inl (Option.some.inj hpoint).symm
  · obtain rfl := Io.hardLink_error hlink
    exact .inr (Io.copyFile_ok hcopy)

lemma copy_ok (hne : src ≠ dst)
    (h : B.copy f src dst fs = (.ok u, fs')) :
    ∃ b, fs.read (B.place src) = some b ∧
      B.copySidecar f src dst (fs.write (B.place dst) (((fs.write (B.place dst) []).read (B.place src)).getD [])) = (.ok u, fs') := by
  rw [copy, if_neg hne] at h
  have hresolved := attempt_bind_ok (resolve_bind_ok (resolve_bind_ok h))
  obtain ⟨len, mid, hsize, hrest⟩ := Io.bind_ok.mp hresolved
  obtain ⟨_, -, -, rfl⟩ := Io.size_ok hsize
  obtain ⟨_, mid', hguard, hfits⟩ := Io.bind_ok.mp hrest
  obtain ⟨-, rfl⟩ := Io.guard_ok.mp hguard
  have hready := attempt_bind_ok hfits
  obtain ⟨_, mid'', hcopy, hside⟩ := Io.bind_ok.mp hready
  obtain ⟨b, hb, rfl⟩ := Io.copyFile_ok hcopy
  exact ⟨b, hb, hside⟩

lemma writeLocalMetaSidecar_ok
    (h : B.writeLocalMetaSidecar f key info fs = (.ok u, fs')) :
    fs' = (B.sidecarPaths key info).foldl (fun fs p => fs.write p (B.encode info)) fs := by
  unfold writeLocalMetaSidecar at h
  unfold sidecarPaths
  split at h
  · next hside =>
      obtain ⟨-, rfl⟩ := Io.writeFile_ok.mp (attempt_bind_ok (resolve_bind_ok h))
      rw [if_pos hside, foldl_cons, foldl_nil]
  · next hside =>
      rw [if_neg hside]
      exact (congrArg Prod.snd h).symm

end Backend

end Bookclerk.Storage
