import Bookclerk.Str.Edit

namespace Bookclerk.Naming

open Str List

variable {parts : List Str} {p s : Str}

structure ReplacementRule where
  find : Str
  replace : Str
deriving DecidableEq

def applyReplacement (out : Str) (rule : ReplacementRule) : Str :=
  if rule.find = [] then out else replace rule.find rule.replace out

def applyReplacements (rules : List ReplacementRule) (input : Str) : Str :=
  rules.foldl applyReplacement input

def rulesFromPairs (pairs : List (String × String)) : List ReplacementRule :=
  pairs.map fun p => ⟨p.1.toList, p.2.toList⟩

def posixReplacementCharacters : List ReplacementRule :=
  rulesFromPairs [("/", "_"), ("\\", "_")]

def windowsReplacementCharacters : List ReplacementRule :=
  rulesFromPairs
    [(":", "_"), ("*", "_"), ("?", "_"), ("\"", "'"), ("<", "("), (">", ")"), ("|", "_"), ("/", "_"), ("\\", "_")]

def s3ReplacementCharacters : List ReplacementRule :=
  rulesFromPairs
    [("\\", "_"), ("\x7b", "_"), ("\x7d", "_"), ("^", "_"), ("%", "_"), ("`", "_"), ("\"", "'"), ("<", "("), (">", ")"),
      ("[", "("), ("]", ")"), ("#", "_"), ("|", "_"), ("~", "_"), ("/", "_")]

inductive PathSanitizationMode where
  | auto
  | windows
  | posix
  | s3
  | none
deriving DecidableEq

def resolveReplacementCharacters (explicit : List ReplacementRule) (mode : PathSanitizationMode)
    (storageIsS3 hostIsWindows : Bool) : List ReplacementRule :=
  if explicit ≠ [] then explicit
  else
    match mode with
    | .none | .posix => posixReplacementCharacters
    | .windows => windowsReplacementCharacters
    | .s3 => s3ReplacementCharacters
    | .auto =>
      if storageIsS3 then s3ReplacementCharacters
      else if hostIsWindows then windowsReplacementCharacters
      else posixReplacementCharacters

def builtInRules (mode : PathSanitizationMode) (storageIsS3 hostIsWindows : Bool) : List ReplacementRule :=
  resolveReplacementCharacters [] mode storageIsS3 hostIsWindows

def clears (c : Char) : List ReplacementRule → Bool
  | [] => false
  | rule :: rules => clears c rules || (rule.find = [c] && c ∉ rule.replace && rules.all fun r => c ∉ r.replace)

lemma mem_applyReplacement {rule : ReplacementRule} {c : Char} (h : c ∈ applyReplacement s rule) : c ∈ s ∨ c ∈ rule.replace := by
  unfold applyReplacement at h
  split at h
  · exact .inl h
  · exact mem_replace h

variable {rules : List ReplacementRule}

lemma not_mem_applyReplacements {c : Char} (hs : c ∉ s) (h : ∀ r ∈ rules, c ∉ r.replace) : c ∉ applyReplacements rules s := by
  induction rules generalizing s with
  | nil => exact hs
  | cons rule rules ih =>
    apply ih
    · intro hmem
      exact (mem_applyReplacement hmem).elim hs (h rule mem_cons_self)
    · exact fun r hr => h r (mem_cons_of_mem rule hr)

lemma not_mem_of_clears {c : Char} (h : clears c rules = true) (s : Str) : c ∉ applyReplacements rules s := by
  induction rules generalizing s with
  | nil => simp [clears] at h
  | cons rule rules ih =>
    rw [clears, Bool.or_eq_true] at h
    rcases h with hlater | hnow
    · exact ih hlater _
    · simp only [Bool.and_eq_true, decide_eq_true_eq, all_eq_true] at hnow
      obtain ⟨⟨hfind, hreplace⟩, hrest⟩ := hnow
      apply not_mem_applyReplacements _ hrest
      rw [applyReplacement, hfind]
      exact not_mem_replace_char hreplace s

lemma builtInRules_clear_separators (mode : PathSanitizationMode) (storageIsS3 hostIsWindows : Bool) (s : Str) :
    '/' ∉ applyReplacements (builtInRules mode storageIsS3 hostIsWindows) s ∧
      '\\' ∉ applyReplacements (builtInRules mode storageIsS3 hostIsWindows) s := by
  constructor
  · apply not_mem_of_clears
    cases mode <;> cases storageIsS3 <;> cases hostIsWindows <;> rfl
  · apply not_mem_of_clears
    cases mode <;> cases storageIsS3 <;> cases hostIsWindows <;> rfl

def isBlank (part : Str) : Bool :=
  trim part = []

def doubleSpace : Str :=
  [' ', ' ']

def collapseGo : Nat → Str → Str
  | 0, s => s
  | fuel + 1, s => if contains doubleSpace s then collapseGo fuel (replace doubleSpace [' '] s) else s

def collapseSpaces (s : Str) : Str :=
  collapseGo s.length s

def collapseBorders : Str → List Str → List Str
  | prev, [] => [prev]
  | prev, part :: parts =>
    if prev.getLast? = some ' ' ∧ part.head? = some ' ' then
      if part.tail = [] then collapseBorders prev parts else prev :: collapseBorders part.tail parts
    else prev :: collapseBorders part parts

def trimFirst : List Str → List Str
  | [] => []
  | part :: parts => trimStart part :: parts

def trimLast : List Str → List Str
  | [] => []
  | [part] => [trimEnd part]
  | part :: parts => part :: trimLast parts

def removeSpaces (parts : List Str) : Str :=
  match (trimLast (trimFirst ((parts.dropWhile isBlank).rdropWhile isBlank))).map collapseSpaces with
  | [] => []
  | part :: rest => (collapseBorders part rest).flatten

variable {c : Char}

lemma mem_collapseGo {fuel : Nat} (h : c ∈ collapseGo fuel s) : c ∈ s ∨ c = ' ' := by
  induction fuel generalizing s with
  | zero => exact .inl h
  | succ fuel ih =>
    rw [collapseGo] at h
    split at h
    · rcases ih h with hmem | rfl
      · exact (mem_replace hmem).imp_right mem_singleton.mp
      · exact .inr rfl
    · exact .inl h

lemma mem_collapseBorders {prev : Str} (h : c ∈ (collapseBorders prev parts).flatten) : c ∈ prev ∨ ∃ part ∈ parts, c ∈ part := by
  induction parts generalizing prev with
  | nil => exact .inl (by simpa [collapseBorders] using h)
  | cons part parts ih =>
    rw [collapseBorders] at h
    split_ifs at h with hborder htail
    · rcases ih h with hprev | ⟨p, hp, hc⟩
      · exact .inl hprev
      · exact .inr ⟨p, mem_cons_of_mem part hp, hc⟩
    · rw [flatten_cons, mem_append] at h
      rcases h with hprev | hrest
      · exact .inl hprev
      · rcases ih hrest with htail | ⟨p, hp, hc⟩
        · exact .inr ⟨part, mem_cons_self, mem_of_mem_tail htail⟩
        · exact .inr ⟨p, mem_cons_of_mem part hp, hc⟩
    · rw [flatten_cons, mem_append] at h
      rcases h with hprev | hrest
      · exact .inl hprev
      · rcases ih hrest with hpart | ⟨p, hp, hc⟩
        · exact .inr ⟨part, mem_cons_self, hpart⟩
        · exact .inr ⟨p, mem_cons_of_mem part hp, hc⟩

lemma mem_trimFirst (hp : p ∈ trimFirst parts) (hc : c ∈ p) : ∃ q ∈ parts, c ∈ q := by
  cases parts with
  | nil => exact absurd hp not_mem_nil
  | cons part parts =>
    rcases mem_cons.mp hp with rfl | htail
    · exact ⟨part, mem_cons_self, (dropWhile_suffix _).mem hc⟩
    · exact ⟨p, mem_cons_of_mem part htail, hc⟩

lemma mem_trimLast (hp : p ∈ trimLast parts) (hc : c ∈ p) : ∃ q ∈ parts, c ∈ q := by
  induction parts with
  | nil => exact absurd hp not_mem_nil
  | cons part parts ih =>
    cases parts with
    | nil =>
      obtain rfl := mem_singleton.mp hp
      exact ⟨part, mem_cons_self, ( rdropWhile_prefix ..).mem hc⟩
    | cons next parts =>
      rcases mem_cons.mp hp with rfl | htail
      · exact ⟨p, mem_cons_self, hc⟩
      · obtain ⟨q, hq, hcq⟩ := ih htail
        exact ⟨q, mem_cons_of_mem part hq, hcq⟩

lemma mem_removeSpaces (h : c ∈ removeSpaces parts) : c = ' ' ∨ ∃ part ∈ parts, c ∈ part := by
  have hcollapsed {p : Str} (hp : p ∈ (trimLast (trimFirst ((parts.dropWhile isBlank).rdropWhile isBlank))).map collapseSpaces)
      (hc : c ∈ p) : c = ' ' ∨ ∃ part ∈ parts, c ∈ part := by
    obtain ⟨q, hq, rfl⟩ := mem_map.mp hp
    rcases mem_collapseGo hc with hmem | rfl
    · obtain ⟨r, hr, hcr⟩ := mem_trimLast hq hmem
      obtain ⟨t, ht, hct⟩ := mem_trimFirst hr hcr
      exact .inr ⟨t, (dropWhile_suffix _).mem (( rdropWhile_prefix ..).mem ht), hct⟩
    · exact .inl rfl
  unfold removeSpaces at h
  split at h
  · exact absurd h not_mem_nil
  · next part rest heq =>
      rcases mem_collapseBorders h with hpart | ⟨p, hp, hc⟩
      · exact hcollapsed (heq ▸ mem_cons_self) hpart
      · exact hcollapsed (heq ▸ mem_cons_of_mem part hp) hc

end Bookclerk.Naming
