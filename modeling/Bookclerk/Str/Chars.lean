import Mathlib.Data.Char
import Mathlib.Data.List.DropRight
import Mathlib.Data.List.Lex
import Mathlib.Tactic.IntervalCases

namespace Bookclerk.Str

open List Option

variable {c sep : Char} {n : Nat}

abbrev Str := List Char

instance : LawfulBEq Str := inferInstance

instance : IsTrans Str (· ≤ ·) := inferInstance

instance : @Std.Antisymm Str (· ≤ ·) := inferInstance

instance : @Std.Total Str (· ≤ ·) := inferInstance

def isWhitespace (c : Char) : Bool :=
  (0x09 ≤ c.toNat && c.toNat ≤ 0x0D) || c.toNat == 0x20 || c.toNat == 0x85 || c.toNat == 0xA0 ||
    c.toNat == 0x1680 || (0x2000 ≤ c.toNat && c.toNat ≤ 0x200A) || c.toNat == 0x2028 || c.toNat == 0x2029 ||
    c.toNat == 0x202F || c.toNat == 0x205F || c.toNat == 0x3000

def trimStart (s : Str) : Str :=
  s.dropWhile isWhitespace

def trimEnd (s : Str) : Str :=
  s.rdropWhile isWhitespace

def trim (s : Str) : Str :=
  trimEnd (trimStart s)

def trimEndMatches (c : Char) (s : Str) : Str :=
  s.rdropWhile (· == c)

def toAsciiLowercase (s : Str) : Str :=
  s.map Char.toLower

def eqIgnoreAsciiCase (s t : Str) : Bool :=
  toAsciiLowercase s == toAsciiLowercase t

def endsWith (s suffix : Str) : Bool :=
  suffix.isSuffixOf s

def splitOnce (sep : Char) : Str → Option (Str × Str)
  | [] => none
  | c :: s => if c = sep then some ([], s) else (splitOnce sep s).map fun p => (c :: p.1, p.2)

def split (sep : Char) : Str → List Str
  | [] => [[]]
  | c :: s =>
    if c = sep then [] :: split sep s
    else
      match split sep s with
      | [] => [[c]]
      | part :: parts => (c :: part) :: parts

lemma split_sep (sep : Char) (s : Str) : split sep (sep :: s) = [] :: split sep s := by
  rw [split, if_pos rfl]

variable {s : Str}

lemma split_cons_of_ne (hc : c ≠ sep) {part : Str} {parts : List Str} (h : split sep s = part :: parts) :
    split sep (c :: s) = (c :: part) :: parts := by
  rw [split, if_neg hc, h]

lemma split_of_not_mem (h : sep ∉ s) : split sep s = [s] := by
  induction s with
  | nil => rfl
  | cons c s ih =>
    rw [mem_cons, not_or] at h
    exact split_cons_of_ne (Ne.symm h.1) (ih h.2)

lemma split_append {t : Str} (ht : sep ∉ t) (s : Str) :
    ∃ init last, split sep s = init ++ [last] ∧ split sep (s ++ t) = init ++ [last ++ t] := by
  induction s with
  | nil => exact ⟨[], [], rfl, split_of_not_mem ht⟩
  | cons c s ih =>
    obtain ⟨init, last, hs, hst⟩ := ih
    rcases eq_or_ne c sep with rfl | hc
    · refine ⟨[] :: init, last, ?_, ?_⟩
      · rw [split_sep, hs, cons_append]
      · rw [cons_append, split_sep, hst, cons_append]
    · cases init with
      | nil => exact ⟨[], c :: last, split_cons_of_ne hc hs, split_cons_of_ne hc hst⟩
      | cons part init => exact ⟨(c :: part) :: init, last, split_cons_of_ne hc hs, split_cons_of_ne hc hst⟩

def toDigit (radix : Nat) (c : Char) : Option Nat :=
  let digit :=
    if '0' ≤ c ∧ c ≤ '9' then some (c.toNat - '0'.toNat)
    else if 'a' ≤ c ∧ c ≤ 'z' then some (c.toNat - 'a'.toNat + 10)
    else if 'A' ≤ c ∧ c ≤ 'Z' then some (c.toNat - 'A'.toNat + 10)
    else none
  digit.filter (· < radix)

def readDigits (radix : Nat) : Str → List Nat × Str
  | [] => ([], [])
  | c :: s =>
    match toDigit radix c with
    | some d => (d :: (readDigits radix s).1, (readDigits radix s).2)
    | none => ([], c :: s)

def digitsValue (radix : Nat) (digits : List Nat) : Nat :=
  digits.foldl (fun n d => n * radix + d) 0

def parseUnsigned (bound : Nat) (s : Str) : Option Nat :=
  let body := (s.dropPrefix? ['+']).getD s
  match readDigits 10 body with
  | (d :: ds, []) => if digitsValue 10 (d :: ds) < bound then some (digitsValue 10 (d :: ds)) else none
  | _ => none

lemma toLower_eq_self_or (c : Char) : c.toLower = c ∨ ∃ n, c = Char.ofNat n ∧ 65 ≤ n ∧ n ≤ 90 := by
  unfold Char.toLower
  split_ifs with h
  · obtain ⟨hlo, hhi⟩ := h
    exact Or.inr ⟨c.toNat, (Char.ofNat_toNat c).symm, UInt32.le_iff_toNat_le.mp hlo, UInt32.le_iff_toNat_le.mp hhi⟩
  · exact Or.inl rfl

lemma toDigit_toLower (c : Char) : toDigit 16 c.toLower = toDigit 16 c := by
  rcases toLower_eq_self_or c with h | ⟨n, rfl, hlo, hhi⟩
  · rw [h]
  · interval_cases n <;> decide

lemma isWhitespace_toLower (c : Char) : isWhitespace c.toLower = isWhitespace c := by
  rcases toLower_eq_self_or c with h | ⟨n, rfl, hlo, hhi⟩
  · rw [h]
  · interval_cases n <;> decide

lemma trim_toAsciiLowercase (s : Str) : trim (toAsciiLowercase s) = toAsciiLowercase (trim s) := by
  have hspace : isWhitespace ∘ Char.toLower = isWhitespace := funext isWhitespace_toLower
  simp only [trim, trimEnd, trimStart, toAsciiLowercase, rdropWhile, dropWhile_map, ← map_reverse, hspace]

def wholeNumber (radix : Nat) (s : Str) : Option Nat :=
  match readDigits radix s with
  | (d :: ds, []) => some (digitsValue radix (d :: ds))
  | _ => none

variable {radix : Nat}

lemma readDigits_of_wholeNumber (h : wholeNumber radix s = some n) :
    ∃ d ds, readDigits radix s = (d :: ds, []) ∧ digitsValue radix (d :: ds) = n := by
  unfold wholeNumber at h
  split at h
  · exact ⟨_, _, by assumption, some.inj h⟩
  · cases h

lemma isSome_toDigit_of_mem (h : (readDigits radix s).2 = []) (hc : c ∈ s) : (toDigit radix c).isSome := by
  induction s with
  | nil => cases hc
  | cons a s ih =>
    rw [readDigits] at h
    cases hdigit : toDigit radix a with
    | none =>
      rw [hdigit] at h
      cases h
    | some d =>
      rw [hdigit] at h
      rcases mem_cons.mp hc with rfl | hmem
      · rw [hdigit]
        rfl
      · exact ih h hmem

lemma range_of_toDigit (h : (toDigit radix c).isSome) :
    48 ≤ c.toNat ∧ c.toNat ≤ 57 ∨ 97 ≤ c.toNat ∧ c.toNat ≤ 122 ∨ 65 ≤ c.toNat ∧ c.toNat ≤ 90 := by
  unfold toDigit at h
  split_ifs at h with hdigit hlower hupper
  · exact Or.inl hdigit
  · exact Or.inr (Or.inl hlower)
  · exact Or.inr (Or.inr hupper)
  · cases h

lemma not_isWhitespace_of_toDigit (h : (toDigit radix c).isSome) : isWhitespace c = false := by
  have hrange := range_of_toDigit h
  cases hspace : isWhitespace c with
  | false => rfl
  | true =>
    simp only [isWhitespace, Bool.or_eq_true, Bool.and_eq_true, decide_eq_true_eq, beq_iff_eq] at hspace
    omega

lemma dropSign (h : wholeNumber radix s = some n) : (s.dropPrefix? ['+']).getD s = s := by
  obtain ⟨d, ds, hread, -⟩ := readDigits_of_wholeNumber h
  cases s with
  | nil => cases hread
  | cons a s =>
    have ha : a ≠ '+' := by
      rintro rfl
      have hrange := range_of_toDigit (isSome_toDigit_of_mem (by rw [hread]) (mem_cons_self))
      revert hrange
      decide
    simp [List.dropPrefix?, ha]

lemma parseUnsigned_of_wholeNumber (bound : Nat) (h : wholeNumber 10 s = some n) :
    parseUnsigned bound s = if n < bound then some n else none := by
  obtain ⟨d, ds, hread, rfl⟩ := readDigits_of_wholeNumber h
  simp only [parseUnsigned, dropSign h, hread]

lemma trim_between {before after : Str} (hbefore : ∀ c ∈ before, isWhitespace c = true) (hafter : ∀ c ∈ after, isWhitespace c = true)
    (hs : s ≠ []) (hinner : ∀ c ∈ s, isWhitespace c = false) : trim (before ++ s ++ after) = s := by
  obtain ⟨a, tail, rfl⟩ := exists_cons_of_ne_nil hs
  have hstart : trimStart (before ++ (a :: tail) ++ after) = a :: tail ++ after := by
    rw [trimStart, append_assoc, dropWhile_append_of_pos hbefore, cons_append,
      dropWhile_cons_of_neg (by rw [hinner a mem_cons_self]; exact Bool.false_ne_true)]
  rw [trim, hstart, trimEnd, rdropWhile, reverse_append, dropWhile_append_of_pos fun c hc => hafter c (mem_reverse.mp hc)]
  have hlast : (a :: tail).reverse ≠ [] := by simp
  obtain ⟨z, rest, hz⟩ := exists_cons_of_ne_nil hlast
  have hzmem : z ∈ a :: tail := mem_reverse.mp (hz ▸ mem_cons_self)
  rw [hz, dropWhile_cons_of_neg (by rw [hinner z hzmem]; exact Bool.false_ne_true), ← hz, reverse_reverse]

lemma mem_dropWhile {p : Char → Bool} (hc : c ∈ s) (hp : p c = false) : c ∈ s.dropWhile p := by
  have hsplit := takeWhile_append_dropWhile (p := p) (l := s)
  rw [← hsplit] at hc
  rcases mem_append.mp hc with htake | hdrop
  · exact absurd (mem_takeWhile_imp htake) (by rw [hp]; exact Bool.false_ne_true)
  · exact hdrop

lemma mem_trim_of_mem (hc : c ∈ s) (hblank : isWhitespace c = false) : c ∈ trim s := by
  rw [trim, trimEnd, rdropWhile, mem_reverse]
  exact mem_dropWhile (mem_reverse.mpr (mem_dropWhile hc hblank)) hblank

def utf8Bytes (s : Str) : List UInt8 :=
  s.flatMap String.utf8EncodeChar

def fromUtf8 (b : List UInt8) : Option Str :=
  b.toByteArray.utf8Decode?.map Array.toList

lemma fromUtf8_utf8Bytes (s : Str) : fromUtf8 (utf8Bytes s) = some s := by
  have hdecode : (utf8Bytes s).toByteArray.utf8Decode? = some s.toArray := List.utf8Decode?_utf8Encode
  rw [fromUtf8, hdecode, map_some]

lemma utf8Bytes_of_fromUtf8 {b : List UInt8} {s : Str} (h : fromUtf8 b = some s) : utf8Bytes s = b := by
  obtain ⟨chars, hchars, rfl⟩ := map_eq_some_iff.mp h
  have hvalid : b.toByteArray.IsValidUTF8 := ByteArray.isSome_utf8Decode?_iff.mp (by rw [hchars]; rfl)
  obtain ⟨l, hl⟩ := hvalid
  have hl' : b.toByteArray.utf8Decode? = some l.toArray := by
    rw [hl]
    exact List.utf8Decode?_utf8Encode
  obtain rfl := mem_unique hchars hl'
  exact toByteArray_inj.mp hl.symm

lemma ascii_of_mem_utf8EncodeChar {c : Char} {b : UInt8} (hb : b.toNat < 128) (h : b ∈ String.utf8EncodeChar c) : c.toNat = b.toNat := by
  rw [String.utf8EncodeChar.eq_1] at h
  have hbig : ∀ n : Nat, 128 ≤ n → n < 256 → b ≠ UInt8.ofNat n := by
    rintro n hn hlt rfl
    rw [UInt8.toNat_ofNat'] at hb
    omega
  split_ifs at h with h1 h2 h3
  · rw [mem_singleton] at h
    rw [h, UInt8.toNat_ofNat', Nat.mod_eq_of_lt (show c.val.toNat < 2 ^ 8 by omega)]
    rfl
  all_goals
    refine absurd h ?_
    simp only [mem_cons, not_mem_nil, or_false, not_or]
    and_intros <;> exact hbig _ (by omega) (by omega)

lemma mem_of_mem_utf8Bytes {s : Str} {c : Char} (hc : c.toNat < 128) (h : UInt8.ofNat c.toNat ∈ utf8Bytes s) : c ∈ s := by
  obtain ⟨d, hd, hmem⟩ := mem_flatMap.mp h
  have hvalue : (UInt8.ofNat c.toNat).toNat = c.toNat := by
    rw [UInt8.toNat_ofNat', Nat.mod_eq_of_lt (show c.toNat < 2 ^ 8 by omega)]
  have heq : d.toNat = c.toNat := by
    rw [ascii_of_mem_utf8EncodeChar (by rw [hvalue]; exact hc) hmem, hvalue]
  rwa [Char.toNat_inj.mp heq] at hd

end Bookclerk.Str
