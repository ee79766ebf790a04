import Bookclerk.Storage.Files

namespace Bookclerk.Storage

inductive Outcome where
  | done
  | failed
  | cut (n : Nat)
deriving DecidableEq

def Io (ε P α : Type) :=
  Files P → Except ε α × Files P

namespace Io

variable {ε P α β : Type}

instance : Monad (Io ε P) where
  pure a fs := (.ok a, fs)
  bind x k fs :=
    match x fs with
    | (.ok a, fs) => k a fs
    | (.error e, fs) => (.error e, fs)

def raise (e : ε) : Io ε P α :=
  fun fs => (.error e, fs)

def guard (c : Bool) (e : ε) : Io ε P Unit :=
  if c then pure () else raise e

def attempt (o : Outcome) (e : ε) : Io ε P Unit :=
  guard (o = .done) e

def lift (x : Except ε α) : Io ε P α :=
  fun fs => (x, fs)

def orElse (x y : Io ε P α) : Io ε P α := fun fs =>
  match x fs with
  | (.ok a, fs) => (.ok a, fs)
  | (.error _, fs) => y fs

def ignore (x : Io ε P Unit) : Io ε P Unit :=
  fun fs => (.ok (), (x fs).2)

def result (x : Io ε P α) : Io ε P (Except ε α) :=
  fun fs => (.ok (x fs).1, (x fs).2)

def onError (x : Io ε P α) (cleanup : Io ε P Unit) : Io ε P α := fun fs =>
  match x fs with
  | (.ok a, fs) => (.ok a, fs)
  | (.error e, fs) => (.error e, (cleanup fs).2)

variable {x : Io ε P α}

lemma bind_of_ok {fs mid : Files P} {a : α} (h : x fs = (.ok a, mid)) (k : α → Io ε P β) : (x >>= k) fs = k a mid := by
  simp [Bind.bind, h]

variable {e : ε}

lemma bind_of_error {fs mid : Files P} (h : x fs = (.error e, mid)) (k : α → Io ε P β) : (x >>= k) fs = (.error e, mid) := by
  simp [Bind.bind, h]

variable {fs fs' : Files P}

lemma bind_ok {k : α → Io ε P β} {b : β} : (x >>= k) fs = (.ok b, fs') ↔ ∃ a mid, x fs = (.ok a, mid) ∧ k a mid = (.ok b, fs') := by
  rcases hx : x fs with ⟨e | a, mid⟩
  · simp [bind_of_error hx]
  · simp [bind_of_ok hx]

variable {u : Unit}

lemma guard_ok {c : Bool} : guard c e fs = (.ok u, fs') ↔ c = true ∧ fs' = fs := by
  cases c <;> simp [guard, raise, Pure.pure, eq_comm]

lemma lift_ok {x : Except ε α} {a : α} : lift x fs = (.ok a, fs') ↔ x = .ok a ∧ fs' = fs := by
  simp [lift, eq_comm]

def size (missing : ε) (p : P) : Io ε P Nat := fun fs =>
  match fs.read p with
  | some b => (.ok b.length, fs)
  | none => (.error missing, fs)

def readFile (o : Outcome) (missing e : ε) (p : P) : Io ε P Bytes := fun fs =>
  match fs.read p, o with
  | none, _ => (.error missing, fs)
  | some b, .done => (.ok b, fs)
  | some _, _ => (.error e, fs)

def tryExists (p : P) : Io ε P Bool :=
  fun fs => (.ok (fs.read p).isSome, fs)

lemma size_ok {p : P} {n : Nat} (h : size e p fs = (.ok n, fs')) : ∃ b, fs.read p = some b ∧ n = b.length ∧ fs' = fs := by
  unfold size at h
  split at h
  · next b hb =>
      obtain ⟨hn, hfs⟩ := Prod.mk.inj h
      exact ⟨b, hb, (Except.ok.inj hn).symm, hfs.symm⟩
  · simp at h

variable {o : Outcome}

lemma readFile_ok {missing e : ε} {p : P} {b : Bytes} (h : readFile o missing e p fs = (.ok b, fs')) : fs.read p = some b := by
  unfold readFile at h
  split at h
  · simp at h
  · next b' hb =>
      obtain ⟨hb', -⟩ := Prod.mk.inj h
      rw [hb, Except.ok.inj hb']
  · simp at h

lemma orElse_ok {x y : Io ε P α} {a : α} (h : x.orElse y fs = (.ok a, fs')) :
    x fs = (.ok a, fs') ∨ ∃ e mid, x fs = (.error e, mid) ∧ y mid = (.ok a, fs') := by
  unfold orElse at h
  split at h
  · next heq => exact .inl (heq.trans h)
  · next e mid heq => exact .inr ⟨e, mid, heq, h⟩

variable [DecidableEq P]

def writeFile (o : Outcome) (e : ε) (p : P) (b : Bytes) : Io ε P Unit := fun fs =>
  match o with
  | .done => (.ok (), fs.write p b)
  | .failed => (.error e, fs)
  | .cut n => (.error e, fs.write p (b.take n))

def copyFile (o : Outcome) (missing e : ε) (src dst : P) : Io ε P Unit := fun fs =>
  match fs.read src with
  | none => (.error missing, fs)
  | some _ => writeFile o e dst (((fs.write dst []).read src).getD []) fs

def hardLink (o : Outcome) (e : ε) (src dst : P) : Io ε P Unit := fun fs =>
  match o, fs.link src dst with
  | .done, some fs => (.ok (), fs)
  | _, _ => (.error e, fs)

def removeFile (o : Outcome) (e : ε) (p : P) : Io ε P Unit := fun fs =>
  match fs.inode p, o with
  | none, _ => (.ok (), fs)
  | some _, .done => (.ok (), fs.remove p)
  | some _, _ => (.error e, fs)

def renameFile (o : Outcome) (e : ε) (src dst : P) : Io ε P Unit := fun fs =>
  match o, fs.rename src dst with
  | .done, some fs => (.ok (), fs)
  | _, _ => (.error e, fs)

lemma writeFile_ok {p : P} {b : Bytes} : writeFile o e p b fs = (.ok u, fs') ↔ o = .done ∧ fs' = fs.write p b := by
  cases o <;> simp [writeFile, eq_comm]

variable {src dst : P}

lemma copyFile_ok {missing e : ε}
    (h : copyFile o missing e src dst fs = (.ok u, fs')) :
    ∃ b, fs.read src = some b ∧ fs' = fs.write dst (((fs.write dst []).read src).getD []) := by
  unfold copyFile at h
  split at h
  · simp at h
  · next b hb => exact ⟨b, hb, (writeFile_ok.mp h).2⟩

lemma hardLink_ok (h : hardLink o e src dst fs = (.ok u, fs')) : fs.link src dst = some fs' := by
  unfold hardLink at h
  split at h
  · next heq => rw [heq, (Prod.mk.inj h).2]
  · simp at h

lemma hardLink_error {e e' : ε} (h : hardLink o e src dst fs = (.error e', fs')) : fs' = fs := by
  unfold hardLink at h
  split at h
  · simp at h
  · exact (Prod.mk.inj h).2.symm

end Io

def Keeps {ε P α : Type} (I : Files P → Prop) (x : Io ε P α) : Prop :=
  ∀ fs, I fs → I (x fs).2

namespace Keeps

variable {ε P α β : Type} {I : Files P → Prop}

lemma pure (a : α) : Keeps I (Pure.pure a : Io ε P α) :=
  fun _ h => h

lemma raise (e : ε) : Keeps I (Io.raise e : Io ε P α) :=
  fun _ h => h

lemma lift (x : Except ε α) : Keeps I (Io.lift x : Io ε P α) :=
  fun _ h => h

lemma guard (c : Bool) (e : ε) : Keeps I (Io.guard c e : Io ε P Unit) := by
  unfold Io.guard
  split
  · exact pure ()
  · exact raise e

lemma attempt (o : Outcome) (e : ε) : Keeps I (Io.attempt o e : Io ε P Unit) :=
  guard _ e

variable {x : Io ε P α}

lemma bind_at {k : α → Io ε P β} {fs : Files P} (hx : I (x fs).2) (hk : ∀ a, Keeps I (k a)) : I ((x >>= k) fs).2 := by
  rcases heq : x fs with ⟨e | a, mid⟩
  · rw [Io.bind_of_error heq]
    simpa [heq] using hx
  · rw [Io.bind_of_ok heq]
    exact hk a mid (by simpa [heq] using hx)

lemma bind {k : α → Io ε P β} (hx : Keeps I x) (hk : ∀ a, Keeps I (k a)) : Keeps I (x >>= k) :=
  fun fs h => bind_at (hx fs h) hk

lemma ignore {x : Io ε P Unit} (hx : Keeps I x) : Keeps I x.ignore :=
  hx

lemma onError {cleanup : Io ε P Unit} (hx : Keeps I x) (hc : Keeps I cleanup) : Keeps I (x.onError cleanup) := by
  intro fs h
  have hmid := hx fs h
  unfold Io.onError
  split
  · next a fs' heq => simpa [heq] using hmid
  · next e fs' heq => exact hc fs' (by simpa [heq] using hmid)

lemma size (missing : ε) (p : P) : Keeps I (Io.size missing p) := by
  intro fs h
  unfold Io.size
  split <;> exact h

variable [DecidableEq P]

lemma writeFile {p : P} (hI : ∀ fs b, I fs → I (fs.write p b)) (o : Outcome) (e : ε) (b : Bytes) : Keeps I (Io.writeFile o e p b) := by
  intro fs h
  cases o with
  | done => exact hI fs b h
  | failed => exact h
  | cut n => exact hI fs (b.take n) h

lemma copyFile {dst : P} (hI : ∀ fs b, I fs → I (fs.write dst b)) (o : Outcome) (missing e : ε) (src : P) :
    Keeps I (Io.copyFile o missing e src dst) := by
  intro fs h
  unfold Io.copyFile
  split
  · exact h
  · exact writeFile hI o e _ fs h

lemma removeFile {p : P} (hI : ∀ fs, I fs → I (fs.remove p)) (o : Outcome) (e : ε) : Keeps I (Io.removeFile o e p) := by
  intro fs h
  unfold Io.removeFile
  split
  · exact h
  · exact hI fs h
  · exact h

lemma renameFile {src dst : P} (hI : ∀ fs fs', fs.rename src dst = some fs' → I fs → I fs') (o : Outcome) (e : ε) :
    Keeps I (Io.renameFile o e src dst) := by
  intro fs h
  unfold Io.renameFile
  split
  · next fs' hrename => exact hI fs fs' hrename h
  · exact h

end Keeps

end Bookclerk.Storage
