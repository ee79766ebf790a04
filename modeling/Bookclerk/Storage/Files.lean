import Bookclerk.Str.Chars

namespace Bookclerk.Storage

open List Function

abbrev Bytes := List UInt8

structure Files (P : Type) where
  inode : P → Option Nat
  data : Nat → Bytes
  next : Nat
  inode_lt : ∀ p i, inode p = some i → i < next

namespace Files

variable {P : Type} [DecidableEq P] (fs : Files P)

def empty : Files P where
  inode _ := none
  data _ := []
  next := 0
  inode_lt := nofun

omit [DecidableEq P] in
def read (p : P) : Option Bytes :=
  (fs.inode p).map fs.data

def SameFile (p q : P) : Prop :=
  p = q ∨ (fs.inode p = fs.inode q ∧ fs.inode p ≠ none)

instance (p q : P) : Decidable (fs.SameFile p q) :=
  inferInstanceAs (Decidable (_ ∨ _))

def write (p : P) (b : Bytes) : Files P :=
  match fs.inode p with
  | some i => { fs with data := Function.update fs.data i b }
  | none =>
    { inode := Function.update fs.inode p (some fs.next)
      data := Function.update fs.data fs.next b
      next := fs.next + 1
      inode_lt := by
        intro q i hi
        rcases eq_or_ne q p with rfl | hne
        · simp only [Function.update_self, Option.some.injEq] at hi
          exact hi ▸ Nat.lt_succ_self fs.next
        · rw [Function.update_of_ne hne] at hi
          exact Nat.lt_succ_of_lt (fs.inode_lt q i hi) }

/-- `p` stands for whatever `src` stands for; used where `p` has no file of its own to keep. -/
def point (p src : P) : Files P where
  inode := Function.update fs.inode p (fs.inode src)
  data := fs.data
  next := fs.next
  inode_lt := by
    intro q i hi
    rcases eq_or_ne q p with rfl | hne
    · rw [Function.update_self] at hi
      exact fs.inode_lt src i hi
    · rw [Function.update_of_ne hne] at hi
      exact fs.inode_lt q i hi

def remove (p : P) : Files P where
  inode := Function.update fs.inode p none
  data := fs.data
  next := fs.next
  inode_lt := by
    intro q i hi
    rcases eq_or_ne q p with rfl | hne
    · rw [Function.update_self] at hi
      exact absurd hi (Option.some_ne_none i).symm
    · rw [Function.update_of_ne hne] at hi
      exact fs.inode_lt q i hi

def link (src dst : P) : Option (Files P) :=
  if fs.inode src = none ∨ fs.inode dst ≠ none then none else some (fs.point dst src)

def rename (src dst : P) : Option (Files P) :=
  if fs.inode src = none then none
  else if fs.SameFile src dst then some fs
  else some ((fs.point dst src).remove src)

variable {fs}

omit [DecidableEq P] in
lemma SameFile.refl (p : P) : fs.SameFile p p :=
  .inl rfl

omit [DecidableEq P] in
lemma SameFile.symm {p q : P} (h : fs.SameFile p q) : fs.SameFile q p := by
  rcases h with rfl | ⟨heq, hne⟩
  · exact .inl rfl
  · exact .inr ⟨heq.symm, heq ▸ hne⟩

omit [DecidableEq P] in
lemma read_eq_none {p : P} : fs.read p = none ↔ fs.inode p = none := by
  simp [read]

omit [DecidableEq P] in
lemma sameFile_of_inode {p q : P} {i : Nat} (hp : fs.inode p = some i) (hq : fs.inode q = some i) : fs.SameFile p q :=
  .inr ⟨hp.trans hq.symm, hp ▸ Option.some_ne_none i⟩

@[simp]
lemma read_write (p q : P) (b : Bytes) : (fs.write p b).read q = if fs.SameFile p q then some b else fs.read q := by
  unfold write
  cases hp : fs.inode p with
  | some i =>
    split_ifs with hsame
    · have hq : fs.inode q = some i := by
        rcases hsame with rfl | ⟨heq, -⟩
        · exact hp
        · exact heq.symm.trans hp
      simp [read, hq]
    · cases hq : fs.inode q with
      | none => simp [read, hq]
      | some j =>
        have hne : j ≠ i := fun h => hsame (sameFile_of_inode hp (h ▸ hq))
        simp [read, hq, update_of_ne hne]
  | none =>
    split_ifs with hsame
    · obtain rfl : p = q := hsame.resolve_right fun h => h.2 hp
      simp [read]
    · have hne : q ≠ p := fun h => hsame (.inl h.symm)
      cases hq : fs.inode q with
      | none => simp [read, hq, update_of_ne hne]
      | some j =>
        have hj : j ≠ fs.next := (fs.inode_lt q j hq).ne
        simp [read, hq, update_of_ne hne, update_of_ne hj]

@[simp]
lemma sameFile_write (p q r : P) (b : Bytes) : (fs.write p b).SameFile q r ↔ fs.SameFile q r := by
  unfold write
  cases hp : fs.inode p with
  | some i => exact Iff.rfl
  | none =>
    have hfresh (x : P) : fs.inode x ≠ some fs.next := fun h => (fs.inode_lt x _ h).ne rfl
    unfold SameFile
    rcases eq_or_ne p q with hq | hq <;> rcases eq_or_ne p r with hr | hr
    · simp [← hq, ← hr]
    · simp [← hq, update_of_ne hr.symm, hp, Ne.symm (hfresh r)]
    · simp [← hr, update_of_ne hq.symm, hp, hfresh q]
    · simp [update_of_ne hq.symm, update_of_ne hr.symm]

lemma write_write (p : P) (a b : Bytes) : (fs.write p a).write p b = fs.write p b := by
  unfold write
  cases hp : fs.inode p with
  | some i => simp [hp]
  | none => simp

lemma inode_point_self (p src : P) : (fs.point p src).inode p = fs.inode src :=
  update_self ..

lemma inode_point_of_ne {p src q : P} (hq : q ≠ p) : (fs.point p src).inode q = fs.inode q :=
  update_of_ne hq ..

lemma inode_remove_self (p : P) : (fs.remove p).inode p = none :=
  update_self ..

lemma inode_remove_of_ne {p q : P} (hq : q ≠ p) : (fs.remove p).inode q = fs.inode q :=
  update_of_ne hq ..

@[simp]
lemma read_point (p src q : P) : (fs.point p src).read q = if q = p then fs.read src else fs.read q := by
  split_ifs with h
  · rw [h, read, inode_point_self, read, point]
  · rw [read, inode_point_of_ne h, read, point]

@[simp]
lemma read_remove (p q : P) : (fs.remove p).read q = if q = p then none else fs.read q := by
  split_ifs with h
  · rw [h, read_eq_none, inode_remove_self]
  · rw [read, inode_remove_of_ne h, read, remove]

lemma sameFile_point_of_ne {p src q r : P} (hq : q ≠ p) (hr : r ≠ p) : (fs.point p src).SameFile q r ↔ fs.SameFile q r := by
  rw [SameFile, SameFile, inode_point_of_ne hq, inode_point_of_ne hr]

lemma SameFile.of_point {p src q : P} (h : (fs.point p src).SameFile q p) (hq : q ≠ p) : fs.SameFile q src := by
  rcases h with heq | ⟨heq, hne⟩
  · exact absurd heq hq
  · rw [inode_point_of_ne hq] at heq hne
    exact .inr ⟨heq.trans (inode_point_self p src), hne⟩

lemma sameFile_remove {p q r : P} (h : (fs.remove p).SameFile q r) : fs.SameFile q r := by
  rcases h with rfl | ⟨heq, hne⟩
  · exact .refl q
  · rcases eq_or_ne q p with rfl | hq
    · exact absurd (inode_remove_self q) hne
    · rcases eq_or_ne r p with rfl | hr
      · exact absurd (heq.trans (inode_remove_self r)) hne
      · rw [inode_remove_of_ne hq] at heq hne
        rw [inode_remove_of_ne hr] at heq
        exact .inr ⟨heq, hne⟩

end Files

open Str

inductive IoKind where
  | notFound
  | invalidData
  | timedOut
  | other
deriving DecidableEq

inductive StorageError where
  | notFound (key : Str)
  | invalidKey (key : Str)
  | io (kind : IoKind)
  | s3
  | payloadTooLarge (msg : String)
  | integrity (msg : String)
  | invalidCursor (msg : String)
  | other
deriving DecidableEq

structure ObjectMeta where
  contentType : Option Str := none
  contentLength : Option Nat := none
  asin : Option Str := none
  title : Option Str := none
  creationTime : Option Str := none
  lastWriteTime : Option Str := none
  sha256Hex : Option Str := none
  commitToken : Option Str := none
deriving DecidableEq

structure ObjectProbe where
  key : Str
  size : Nat
  contentType : Option Str
  info : ObjectMeta
  etag : Option Str
deriving DecidableEq

def maxScalarObjectBytes : Nat :=
  262144

def maxSupportedObjectBytes : Nat :=
  8 * 1024 * 1024 * 10000

def metaSuffix : Str :=
  ".bookclerk-meta.json".toList

def bookclerkMetaSidecarKey (objectKey : Str) : Str :=
  objectKey ++ metaSuffix

def hexDigit (n : UInt8) : Char :=
  if n < 10 then Char.ofNat (48 + n.toNat) else Char.ofNat (87 + n.toNat)

def hexEncode (b : Bytes) : Str :=
  b.flatMap fun x => [hexDigit (x / 16), hexDigit (x % 16)]

def hexDecode : Str → Option Bytes
  | [] => some []
  | [_] => none
  | a :: b :: rest =>
    match toDigit 16 a, toDigit 16 b, hexDecode rest with
    | some hi, some lo, some bytes => some (UInt8.ofNat (16 * hi + lo) :: bytes)
    | _, _, _ => none

def parseSha256Hex (value : Str) : Except StorageError Bytes :=
  match hexDecode (trim value) with
  | none => .error (.integrity s!"sha256 is not hex: {String.ofList value}")
  | some raw =>
    if raw.length ≠ 32 then .error (.integrity s!"sha256 must be 32 bytes, got {raw.length}") else .ok raw

def ensureScalarLen (len limit : Nat) : Except StorageError Unit :=
  if limit < len then
    .error (.payloadTooLarge s!"scalar object of {len} bytes exceeds {limit} (use get_stream/put_stream)")
  else .ok ()

def validateKey (key : Str) : Except StorageError Unit :=
  if key = [] ∨ key.head? = some '/' ∨ "..".toList ∈ split '/' key then .error (.invalidKey key) else .ok ()

lemma validateKey_sidecar {key : Str} (h : validateKey key = .ok ()) : validateKey (bookclerkMetaSidecarKey key) = .ok () := by
  unfold validateKey at h ⊢
  split_ifs at h with hbad
  rw [not_or, not_or] at hbad
  obtain ⟨hempty, hslash, hparent⟩ := hbad
  have hslash' : '/' ∉ metaSuffix := by decide
  obtain ⟨init, last, hs, hst⟩ := split_append hslash' key
  rw [if_neg]
  rintro (hnil | hhead | hmem)
  · exact hempty (append_eq_nil_iff.mp hnil).1
  · rw [bookclerkMetaSidecarKey, head?_append_of_ne_nil _ hempty] at hhead
    exact hslash hhead
  · rw [bookclerkMetaSidecarKey, hst, mem_append, mem_singleton] at hmem
    rcases hmem with hmem | heq
    · exact hparent (hs ▸ mem_append_left _ hmem)
    · have hlen := congrArg length heq
      rw [length_append, show metaSuffix.length = 20 by decide, show "..".toList.length = 2 by decide] at hlen
      omega

end Bookclerk.Storage
