import Bookclerk.Sql.LikeGlob
import Bookclerk.Str.Edit

namespace Bookclerk.Sql.Lower

open Lexical Str List

def likeMatch : Str → Str → Bool
  | [], t => t.isEmpty
  | p :: ps, t =>
    if p = '%' then t.tails.any (likeMatch ps)
    else
      match t with
      | [] => false
      | c :: t => (p = '_' || p = c) && likeMatch ps t

/-- The rest of a set in a `GLOB` of SQLite, up to its `]`: whether `c` is a member, and how much of the pattern it takes. -/
def setRest (c : Char) : (prior : Option Char) → (seen : Bool) → Str → Option (Bool × Nat)
  | _, _, [] => none
  | _, seen, [p] => if p = ']' then some (seen, 1) else none
  | prior, seen, p :: q :: ps =>
    let single := (setRest c (some p) (seen || c = p) (q :: ps)).map fun r => (r.1, r.2 + 1)
    if p = ']' then some (seen, 1)
    else if p = '-' ∧ q ≠ ']' then
      match prior with
      | some lo => (setRest c none (seen || (lo ≤ c && c ≤ q)) ps).map fun r => (r.1, r.2 + 2)
      | none => single
    else single

-- A `]` that comes first is a member.
def setStart (c : Char) : Str → Option (Bool × Nat)
  | ']' :: ps => (setRest c none (c = ']') ps).map fun r => (r.1, r.2 + 1)
  | ps => setRest c none false ps

def setMatch (c : Char) : Str → Option (Bool × Nat)
  | '^' :: ps => (setStart c ps).map fun r => (!r.1, r.2 + 1)
  | ps => setStart c ps

def globMatch : (skip : Nat) → Str → Str → Bool
  | _, [], t => t.isEmpty
  | k + 1, _ :: ps, t => globMatch k ps t
  | 0, p :: ps, t =>
    if p = '*' then t.tails.any (globMatch 0 ps)
    else
      match t with
      | [] => false
      | c :: t =>
        if p = '?' then globMatch 0 ps t
        else if p = '[' then
          match setMatch c ps with
          | some (true, n) => globMatch n ps t
          | _ => false
        else p = c && globMatch 0 ps t

def globReplacements : List (String × String) :=
  [("[", "[[]"), ("*", "[*]"), ("?", "[?]"), ("%", "*"), ("_", "?")]

def replaceCall (arg : Text) (r : String × String) : Text :=
  utf8 "replace(" ++ arg ++ utf8 ", '" ++ utf8 r.1 ++ utf8 "', '" ++ utf8 r.2 ++ utf8 "')"

def globPattern (p : Str) : Str :=
  globReplacements.foldl (fun p r => replace r.1.toList r.2.toList p) p

def globChar (c : Char) : Str :=
  if c = '[' ∨ c = '*' ∨ c = '?' then ['[', c, ']'] else if c = '%' then ['*'] else if c = '_' then ['?'] else [c]

lemma globPatternSql_eq_calls (pat : Text) : globPatternSql pat = globReplacements.foldl replaceCall (utf8 "(" ++ pat ++ utf8 ")") := by
  simp only [globReplacements, foldl_cons, replaceCall, append_assoc]
  rfl

-- No replacement finds what an earlier one has put there.
lemma globPattern_eq_flatMap (p : Str) : globPattern p = p.flatMap globChar := by
  have hset : "[[]".toList = ['[', '[', ']'] ∧ "[*]".toList = ['[', '*', ']'] ∧ "[?]".toList = ['[', '?', ']'] := by decide
  have hone : "[".toList = ['['] ∧ "*".toList = ['*'] ∧ "?".toList = ['?'] ∧ "%".toList = ['%'] ∧ "_".toList = ['_'] := by decide
  simp only [globPattern, globReplacements, foldl_cons, foldl_nil, hset, hone, replace_char, flatMap_assoc]
  congr 1
  funext c
  rw [globChar]
  by_cases h₁ : c = '['
  · simp [h₁]
  by_cases h₂ : c = '*'
  · simp [h₂]
  by_cases h₃ : c = '?'
  · simp [h₃]
  by_cases h₄ : c = '%'
  · simp [h₄]
  simp [h₁, h₂, h₃, h₄]

lemma setRest_close (c : Char) (prior : Option Char) (seen : Bool) (ps : Str) : setRest c prior seen (']' :: ps) = some (seen, 1) := by
  cases ps with
  | nil | cons _ _ => simp [setRest]

lemma setMatch_single {x : Char} (hx : x = '[' ∨ x = '*' ∨ x = '?') (c : Char) (ps : Str) :
    setMatch c (x :: ']' :: ps) = some (decide (c = x), 2) := by
  rcases hx with rfl | rfl | rfl
  all_goals simp [setMatch, setStart, setRest, setRest_close]

lemma globMatch_set {x : Char} (hx : x = '[' ∨ x = '*' ∨ x = '?') (ps t : Str) :
    globMatch 0 ('[' :: x :: ']' :: ps) t = (decide (t.head? = some x) && globMatch 0 ps t.tail) := by
  cases t with
  | nil => rfl
  | cons c t =>
    have hset := setMatch_single hx c ps
    by_cases hc : c = x
    · subst hc
      simp [globMatch, hset]
    · simp [globMatch, hset, hc]

theorem glob_pattern_matches_like :
    (∀ pat, globPatternSql pat = globReplacements.foldl replaceCall (utf8 "(" ++ pat ++ utf8 ")")) ∧
      ∀ p t, globMatch 0 (globPattern p) t = likeMatch p t := by
  refine ⟨globPatternSql_eq_calls, fun p t => ?_⟩
  rw [globPattern_eq_flatMap]
  induction p generalizing t with
  | nil => rfl
  | cons p ps ih =>
    rw [flatMap_cons, globChar]
    split_ifs with hset hall hone
    · have hp : p ≠ '%' ∧ p ≠ '_' := by
        rcases hset with rfl | rfl | rfl
        all_goals decide
      rw [cons_append, cons_append, singleton_append, globMatch_set hset, ih]
      cases t with
      | nil => simp [likeMatch, hp.1]
      | cons c t => simp [likeMatch, hp, eq_comm]
    · subst hall
      have hrest : globMatch 0 (ps.flatMap globChar) = likeMatch ps := funext ih
      simp [globMatch, likeMatch, hrest]
    · subst hone
      cases t with
      | nil => rfl
      | cons c t => simp [globMatch, likeMatch, ih]
    · rw [not_or, not_or] at hset
      cases t with
      | nil => simp [globMatch, likeMatch, hset.2.1, hall]
      | cons c t => simp [globMatch, likeMatch, hset, hall, hone, ih]

end Bookclerk.Sql.Lower
