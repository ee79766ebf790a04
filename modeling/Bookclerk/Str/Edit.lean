import Bookclerk.Str.Chars

namespace Bookclerk.Str

open List Option

variable {c p sep : Char} {new s : Str}

def isControl (c : Char) : Bool :=
  c.toNat < 0x20 || (0x7F ≤ c.toNat && c.toNat ≤ 0x9F)

def trimStartMatches (c : Char) (s : Str) : Str :=
  s.dropWhile (· == c)

def trimMatches (c : Char) (s : Str) : Str :=
  trimEndMatches c (trimStartMatches c s)

def utf8Len (s : Str) : Nat :=
  (s.map Char.utf8Size).sum

@[simp]
lemma utf8Len_nil : utf8Len [] = 0 :=
  rfl

@[simp]
lemma utf8Len_cons (c : Char) (s : Str) : utf8Len (c :: s) = c.utf8Size + utf8Len s := by
  simp [utf8Len]

@[simp]
lemma utf8Len_append (s t : Str) : utf8Len (s ++ t) = utf8Len s + utf8Len t := by
  simp [utf8Len]

/-- The longest prefix of at most `n` bytes that ends between two characters. -/
def takeUtf8 : Nat → Str → Str
  | _, [] => []
  | n, c :: s => if c.utf8Size ≤ n then c :: takeUtf8 (n - c.utf8Size) s else []

lemma takeUtf8_isPrefix (n : Nat) (s : Str) : takeUtf8 n s <+: s := by
  induction s generalizing n with
  | nil => exact prefix_rfl
  | cons c s ih =>
    rw [takeUtf8]
    split
    · exact (cons_prefix_cons).mpr ⟨rfl, ih _⟩
    · exact nil_prefix

lemma prefix_takeUtf8 {n : Nat} {t : Str} (h : t <+: s) (hlen : utf8Len t ≤ n) : t <+: takeUtf8 n s := by
  induction t generalizing n s with
  | nil => exact nil_prefix
  | cons c t ih =>
    obtain ⟨rest, rfl⟩ := h
    rw [utf8Len_cons] at hlen
    rw [cons_append, takeUtf8, if_pos (by omega)]
    exact (cons_prefix_cons).mpr ⟨rfl, ih (prefix_append ..) (by omega)⟩

def replaceGo (pat new : Str) : Nat → Str → Str
  | _, [] => []
  | skip + 1, _ :: s => replaceGo pat new skip s
  | 0, c :: s =>
    if pat.isPrefixOf (c :: s) then new ++ replaceGo pat new (pat.length - 1) s else c :: replaceGo pat new 0 s

def replace (pat new s : Str) : Str :=
  replaceGo pat new 0 s

lemma mem_replaceGo {pat : Str} {skip : Nat} (h : c ∈ replaceGo pat new skip s) : c ∈ s ∨ c ∈ new := by
  induction s generalizing skip with
  | nil => simp [replaceGo] at h
  | cons d s ih =>
    cases skip with
    | succ skip =>
      exact (ih h).imp_left (mem_cons_of_mem d)
    | zero =>
      rw [replaceGo] at h
      split at h
      · rcases mem_append.mp h with hto | hrest
        · exact .inr hto
        · exact (ih hrest).imp_left (mem_cons_of_mem d)
      · rcases mem_cons.mp h with rfl | hrest
        · exact .inl mem_cons_self
        · exact (ih hrest).imp_left (mem_cons_of_mem d)

lemma mem_replace {pat : Str} (h : c ∈ replace pat new s) : c ∈ s ∨ c ∈ new :=
  mem_replaceGo h

lemma replace_char (p : Char) (new s : Str) : replace [p] new s = s.flatMap fun c => if c = p then new else [c] := by
  induction s with
  | nil => rfl
  | cons c s ih =>
    rw [flatMap_cons, ← ih]
    rcases eq_or_ne c p with rfl | hne
    · simp [replace, replaceGo]
    · simp [replace, replaceGo, hne, hne.symm]

lemma not_mem_replace_char (hto : p ∉ new) (s : Str) : p ∉ replace [p] new s := by
  rw [replace_char, mem_flatMap]
  rintro ⟨c, -, hc⟩
  split at hc
  · exact hto hc
  · next hne => exact hne (mem_singleton.mp hc).symm

lemma replace_char_of_not_mem (h : p ∉ s) (new : Str) : replace [p] new s = s := by
  induction s with
  | nil => rfl
  | cons c s ih =>
    rw [mem_cons, not_or] at h
    have hrest := ih h.2
    rw [replace_char] at hrest ⊢
    rw [flatMap_cons, if_neg (Ne.symm h.1), hrest, singleton_append]

def contains (pat : Str) : Str → Bool
  | [] => pat.isEmpty
  | c :: s => pat.isPrefixOf (c :: s) || contains pat s

def rsplitOnce (sep : Char) : Str → Option (Str × Str)
  | [] => none
  | c :: s =>
    match rsplitOnce sep s with
    | some p => some (c :: p.1, p.2)
    | none => if c = sep then some ([], s) else none

lemma rsplitOnce_of_not_mem (h : sep ∉ s) : rsplitOnce sep s = none := by
  induction s with
  | nil => rfl
  | cons c s ih =>
    rw [mem_cons, not_or] at h
    rw [rsplitOnce, ih h.2]
    exact if_neg (Ne.symm h.1)

lemma rsplitOnce_append {after : Str} (h : sep ∉ after) (before : Str) :
    rsplitOnce sep (before ++ sep :: after) = some (before, after) := by
  induction before with
  | nil =>
    rw [nil_append, rsplitOnce, rsplitOnce_of_not_mem h]
    exact if_pos rfl
  | cons c before ih => rw [cons_append, rsplitOnce, ih]

def splitLast (pat : Str) : Str → Option (Str × Str)
  | [] => none
  | c :: s =>
    match splitLast pat s with
    | some p => some (c :: p.1, p.2)
    | none => if pat.isPrefixOf (c :: s) then some ([], c :: s) else none

lemma append_of_splitLast {pat before found : Str} (h : splitLast pat s = some (before, found)) : before ++ found = s := by
  induction s generalizing before with
  | nil => simp [splitLast] at h
  | cons c s ih =>
    rw [splitLast] at h
    cases hs : splitLast pat s with
    | some p =>
      rw [hs] at h
      obtain ⟨rfl, rfl⟩ := Prod.mk.inj (some.inj h)
      rw [cons_append, ih hs]
    | none =>
      rw [hs] at h
      obtain ⟨-, hp⟩ := ite_none_right_eq_some.mp h
      obtain ⟨rfl, rfl⟩ := Prod.mk.inj (some.inj hp)
      rfl

lemma split_append_sep {p : Str} (hp : sep ∉ p) (s : Str) : split sep (p ++ sep :: s) = p :: split sep s := by
  induction p with
  | nil => exact split_sep sep s
  | cons c p ih =>
    rw [mem_cons, not_or] at hp
    exact split_cons_of_ne (Ne.symm hp.1) (ih hp.2)

lemma split_intercalate {parts : List Str} (hne : parts ≠ []) (h : ∀ p ∈ parts, sep ∉ p) : split sep ([sep].intercalate parts) = parts := by
  induction parts with
  | nil => exact absurd rfl hne
  | cons p parts ih =>
    have hp : sep ∉ p := h p mem_cons_self
    cases parts with
    | nil =>
      rw [intercalate_singleton]
      exact split_of_not_mem hp
    | cons q parts =>
      rw [intercalate_cons_cons, append_assoc, singleton_append, split_append_sep hp,
        ih (cons_ne_nil q parts) fun r hr => h r (mem_cons_of_mem p hr)]

end Bookclerk.Str
