import Mathlib.Algebra.BigOperators.Group.List.Basic
import Bookclerk.Str.Edit

namespace Bookclerk.Naming

open Str List

inductive PathLengthMeasure where
  | chars
  | utf8Bytes
deriving DecidableEq

/-- `0` lifts a limit. -/
structure PathLimits where
  maxFilenameLength : Nat := 255
  maxStorageKeyBytes : Nat := 0
  measure : PathLengthMeasure := .utf8Bytes
deriving DecidableEq

def pathLen (s : Str) : PathLengthMeasure → Nat
  | .chars => s.length
  | .utf8Bytes => utf8Len s

def truncatePathComponent (s : Str) (limit : Nat) (measure : PathLengthMeasure) : Str :=
  if limit = 0 ∨ pathLen s measure ≤ limit then s
  else
    match measure with
    | .chars => s.take limit
    | .utf8Bytes => takeUtf8 limit s

def splitBracketIdSuffix (stem : Str) : Option (Str × Str) :=
  (splitLast " [".toList stem).filter fun found => endsWith found.2 [']'] && 3 < utf8Len found.2

def stemLimit (ext : Str) (maxFilenameLength : Nat) (measure : PathLengthMeasure) : Nat :=
  maxFilenameLength - if trimStartMatches '.' ext = [] then 0 else pathLen (trimStartMatches '.' ext) measure + 1

def truncateStem (stem : Str) (limit : Nat) (measure : PathLengthMeasure) : Str :=
  if limit = 0 then []
  else if pathLen stem measure ≤ limit then stem
  else
    match splitBracketIdSuffix stem with
    | some (title, suffix) =>
      if pathLen suffix measure < limit then
        trimEnd (truncatePathComponent title (limit - pathLen suffix measure) measure) ++ suffix
      else truncatePathComponent stem limit measure
    | none => truncatePathComponent stem limit measure

def truncateFilenameStem (stem ext : Str) (maxFilenameLength : Nat) (measure : PathLengthMeasure) : Str :=
  if maxFilenameLength = 0 then stem else truncateStem stem (stemLimit ext maxFilenameLength measure) measure

def limitFile (limits : PathLimits) (file : Str) : Str :=
  match rsplitOnce '.' file with
  | some (stem, ext) => truncateFilenameStem stem ext limits.maxFilenameLength limits.measure ++ '.' :: ext
  | none => truncatePathComponent file limits.maxFilenameLength limits.measure

def limitSegments (limits : PathLimits) : List Str → List Str
  | [] => []
  | [file] => [limitFile limits file]
  | folder :: parts => truncatePathComponent folder limits.maxFilenameLength limits.measure :: limitSegments limits parts

def joinKey (parts : List Str) : Str :=
  ['/'].intercalate parts

def lastMaxIdx : List Nat → Option Nat
  | [] => none
  | n :: ns =>
    match lastMaxIdx ns with
    | some i => if n ≤ ns.getD i 0 then some (i + 1) else some 0
    | none => some 0

def shortenLongest (folders : List Str) : List Str :=
  match lastMaxIdx (folders.map utf8Len) with
  | some i => folders.modify i List.dropLast
  | none => folders

def fitFile (limit : Nat) (file : Str) : Str :=
  match rsplitOnce '.' file with
  | some (stem, ext) => truncatePathComponent stem (limit - (utf8Len ext + 1)) .utf8Bytes ++ '.' :: ext
  | none => truncatePathComponent file limit .utf8Bytes

def fitGo (limit : Nat) : Nat → List Str → List Str
  | 0, parts => parts
  | fuel + 1, parts =>
    match (parts.filter (· ≠ [])).getLast? with
    | none => []
    | some file =>
      let folders := (parts.filter (· ≠ [])).dropLast
      if utf8Len (joinKey (parts.filter (· ≠ []))) ≤ limit then parts.filter (· ≠ [])
      else if folders = [] then [fitFile limit file]
      else fitGo limit fuel (shortenLongest folders ++ [file])

def fitKey (limit : Nat) (parts : List Str) : List Str :=
  fitGo limit ((parts.map List.length).sum + 1) parts

def enforceParts (limits : PathLimits) (parts : List Str) : List Str :=
  let parts := if limits.maxFilenameLength = 0 then parts else limitSegments limits parts
  if limits.maxStorageKeyBytes = 0 then parts else fitKey limits.maxStorageKeyBytes parts

def enforceStorageKeyLimits (key : Str) (limits : PathLimits) : Str :=
  if limits.maxFilenameLength = 0 ∧ limits.maxStorageKeyBytes = 0 then key
  else joinKey (enforceParts limits (split '/' key))

lemma truncatePathComponent_isPrefix (s : Str) (limit : Nat) (measure : PathLengthMeasure) :
    truncatePathComponent s limit measure <+: s := by
  unfold truncatePathComponent
  split
  · exact prefix_rfl
  · cases measure with
    | chars => exact take_prefix ..
    | utf8Bytes => exact takeUtf8_isPrefix ..

lemma truncatePathComponent_zero (s : Str) (measure : PathLengthMeasure) : truncatePathComponent s 0 measure = s :=
  if_pos (.inl rfl)

lemma truncatePathComponent_cons {c : Char} {s : Str} {limit : Nat} {measure : PathLengthMeasure} :
    truncatePathComponent (c :: s) limit measure = [] ↔ limit ≠ 0 ∧ limit < pathLen [c] measure := by
  unfold truncatePathComponent
  split
  · next h =>
      simp only [reduceCtorEq, false_iff]
      rintro ⟨hne, hlt⟩
      have hle := h.resolve_left hne
      cases measure <;> simp [pathLen] at hle hlt <;> omega
  · next h =>
      cases measure with
      | chars =>
        simp only [pathLen, length_cons, length_nil, take_eq_nil_iff, reduceCtorEq, or_false]
        omega
      | utf8Bytes =>
        simp only [pathLen, utf8Len_cons, utf8Len_nil]
        rw [takeUtf8]
        split
        · simp only [reduceCtorEq, false_iff]
          omega
        · simp only [true_iff]
          omega

lemma mem_truncateFilenameStem {stem ext : Str} {limit : Nat} {measure : PathLengthMeasure} {c : Char}
    (h : c ∈ truncateFilenameStem stem ext limit measure) : c ∈ stem := by
  have hcut (n : Nat) (s : Str) (hc : c ∈ truncatePathComponent s n measure) : c ∈ s :=
    (truncatePathComponent_isPrefix s n measure).mem hc
  unfold truncateFilenameStem truncateStem at h
  split_ifs at h
  · exact h
  · exact absurd h not_mem_nil
  · exact h
  · split at h
    · next title suffix hsplit =>
        have hstem : title ++ suffix = stem := append_of_splitLast (Option.filter_eq_some_iff.mp hsplit).1
        split_ifs at h
        · rw [← hstem, mem_append]
          exact (mem_append.mp h).imp_left fun hc => hcut _ _ (( rdropWhile_prefix ..).mem hc)
        · exact hcut _ _ h
    · exact hcut _ _ h

lemma utf8Len_joinKey (folders : List Str) (file : Str) :
    utf8Len (joinKey (folders ++ [file])) = (folders.map utf8Len).sum + folders.length + utf8Len file := by
  induction folders with
  | nil => simp [joinKey]
  | cons folder folders ih =>
    obtain ⟨next, rest, hrest⟩ : ∃ next rest, folders ++ [file] = next :: rest :=
      exists_cons_of_ne_nil (append_ne_nil_of_right_ne_nil _ (cons_ne_nil file []))
    rw [joinKey, cons_append, hrest, intercalate_cons_cons, ← hrest, ← joinKey, utf8Len_append, utf8Len_append]
    have hslash : utf8Len ['/'] = 1 := by decide
    simp only [map_cons, sum_cons, length_cons]
    omega

variable {folders : List Str}

lemma joinKey_append (h : folders ≠ []) (file : Str) : joinKey (folders ++ [file]) = joinKey folders ++ '/' :: file := by
  induction folders with
  | nil => exact absurd rfl h
  | cons folder folders ih =>
    cases folders with
    | nil => simp [joinKey]
    | cons next folders =>
      have hrest := ih (cons_ne_nil next folders)
      simp only [joinKey, cons_append, intercalate_cons_cons, append_assoc] at hrest ⊢
      rw [hrest]

lemma lastMaxIdx_lt {ns : List Nat} (h : ns ≠ []) : ∃ i < ns.length, lastMaxIdx ns = some i := by
  induction ns with
  | nil => exact absurd rfl h
  | cons n ns ih =>
    rw [lastMaxIdx]
    rcases eq_or_ne ns [] with rfl | hne
    · exact ⟨0, Nat.zero_lt_one, rfl⟩
    · obtain ⟨i, hi, hmax⟩ := ih hne
      rw [hmax]
      dsimp only
      split_ifs
      · exact ⟨i + 1, Nat.succ_lt_succ hi, rfl⟩
      · exact ⟨0, Nat.succ_pos _, rfl⟩

lemma shortenLongest_split (h : folders ≠ []) :
    ∃ before folder after, folders = before ++ folder :: after ∧ shortenLongest folders = before ++ folder.dropLast :: after := by
  obtain ⟨i, hi, hmax⟩ := lastMaxIdx_lt (map_eq_nil_iff.not.mpr h : folders.map utf8Len ≠ [])
  rw [length_map] at hi
  obtain ⟨before, folder, after, hsplit, -, hmodify⟩ := exists_of_modify dropLast hi
  exact ⟨before, folder, after, hsplit, by rw [shortenLongest, hmax]; exact hmodify⟩

def kept (folders : List Str) : List Str :=
  folders.filter (· ≠ [])

lemma ne_nil_of_mem_kept {f : Str} (h : f ∈ kept folders) : f ≠ [] :=
  of_decide_eq_true (mem_filter.mp h).2

variable {file : Str} {folders : List Str} {fuel : Nat}

lemma fitGo_succ (limit : Nat) (hfile : file ≠ []) :
    fitGo limit (fuel + 1) (folders ++ [file]) =
      if utf8Len (joinKey (kept folders ++ [file])) ≤ limit then kept folders ++ [file]
      else if kept folders = [] then [fitFile limit file]
      else fitGo limit fuel (shortenLongest (kept folders) ++ [file]) := by
  have hfilter : (folders ++ [file]).filter (· ≠ []) = kept folders ++ [file] := by
    rw [filter_append, kept, filter_singleton, decide_eq_true hfile, cond_true]
  rw [fitGo, hfilter, getLast?_append_of_ne_nil _ (cons_ne_nil file []), dropLast_concat]
  rfl

def chars (folders : List Str) : Nat :=
  (folders.map List.length).sum

lemma sum_kept {size : Str → Nat} (hsize : size [] = 0) (folders : List Str) : ((kept folders).map size).sum = (folders.map size).sum := by
  induction folders with
  | nil => rfl
  | cons folder folders ih =>
    rcases eq_or_ne folder [] with rfl | hne
    · simpa [kept, hsize] using ih
    · simpa [kept, hne] using ih

lemma chars_shortenLongest (h : kept folders ≠ []) : chars (shortenLongest (kept folders)) < chars folders := by
  obtain ⟨before, folder, after, hsplit, hshort⟩ := shortenLongest_split h
  have hne : folder ≠ [] := ne_nil_of_mem_kept (hsplit ▸ mem_append_right before mem_cons_self)
  have hpos := length_pos_of_ne_nil hne
  rw [hshort, chars, chars, ← sum_kept length_nil folders, hsplit]
  simp
  omega

lemma fuel_enough (folders : List Str) (file : Str) : chars folders < ((folders ++ [file]).map List.length).sum + 1 := by
  rw [map_append, sum_append, chars]
  omega

lemma fitGo_folders (limit : Nat) (hfile : file ≠ []) (hfuel : chars folders < fuel) :
    ∃ rest file', fitGo limit fuel (folders ++ [file]) = rest ++ [file'] ∧ (file' = file ∨ file' = fitFile limit file) ∧
      rest.length ≤ folders.length ∧ ∀ f ∈ rest, f ≠ [] ∧ ∃ g ∈ folders, f <+: g := by
  induction fuel generalizing folders with
  | zero => exact absurd hfuel (Nat.not_lt_zero _)
  | succ fuel ih =>
    rw [fitGo_succ _ hfile]
    split_ifs with hfits hnone
    · exact ⟨kept folders, file, rfl, .inl rfl, length_filter_le .., fun f hf =>
        ⟨ne_nil_of_mem_kept hf, f, mem_of_mem_filter hf, prefix_rfl⟩⟩
    · exact ⟨[], fitFile limit file, rfl, .inr rfl, Nat.zero_le _, fun f hf => absurd hf not_mem_nil⟩
    · have hless : chars (shortenLongest (kept folders)) < fuel := (chars_shortenLongest hnone).trans_le (Nat.lt_succ_iff.mp hfuel)
      obtain ⟨rest, file', heq, hfile', hlength, hrest⟩ := ih hless
      obtain ⟨before, folder, after, hsplit, hshort⟩ := shortenLongest_split hnone
      refine ⟨rest, file', heq, hfile', ?_, fun f hf => ?_⟩
      · have hkept : (kept folders).length ≤ folders.length := length_filter_le ..
        rw [hshort] at hlength
        rw [hsplit] at hkept
        simp only [length_append, length_cons] at hlength hkept
        omega
      · obtain ⟨hne, g, hg, hhead⟩ := hrest f hf
        have hmem {q : Str} (hq : q ∈ before ++ folder :: after) : q ∈ folders :=
          mem_of_mem_filter (hsplit ▸ hq : q ∈ kept folders)
        rw [hshort, mem_append, mem_cons] at hg
        rcases hg with hbefore | rfl | hafter
        · exact ⟨hne, g, hmem (mem_append_left _ hbefore), hhead⟩
        · exact ⟨hne, folder, hmem (mem_append_right _ mem_cons_self), hhead.trans ( dropLast_prefix folder)⟩
        · exact ⟨hne, g, hmem (mem_append_right _ (mem_cons_of_mem folder hafter)), hhead⟩

lemma utf8Len_dropLast {s : Str} (h : s ≠ []) : utf8Len s.dropLast < utf8Len s := by
  have hpos := Char.utf8Size_pos (s.getLast h)
  have hwhole := congrArg utf8Len (dropLast_append_getLast h)
  rw [utf8Len_append, utf8Len_cons] at hwhole
  omega

lemma joinKey_shortenLongest (file : Str) (h : kept folders ≠ []) :
    utf8Len (joinKey (kept (shortenLongest (kept folders)) ++ [file])) < utf8Len (joinKey (kept folders ++ [file])) := by
  obtain ⟨before, folder, after, hsplit, hshort⟩ := shortenLongest_split h
  have hne : folder ≠ [] := ne_nil_of_mem_kept (hsplit ▸ mem_append_right before mem_cons_self)
  have hless := utf8Len_dropLast hne
  have hsum (fs : List Str) : ((kept fs).map utf8Len).sum + (kept fs).length ≤ (fs.map utf8Len).sum + fs.length := by
    have hlength : (kept fs).length ≤ fs.length := length_filter_le ..
    rw [sum_kept utf8Len_nil]
    omega
  have hkept := hsum (shortenLongest (kept folders))
  rw [utf8Len_joinKey, utf8Len_joinKey]
  rw [hshort] at hkept ⊢
  rw [hsplit]
  simp only [map_append, map_cons, sum_append, sum_cons, length_append, length_cons] at hkept ⊢
  omega

lemma exists_limit_dot (hfile : file ≠ []) (hfuel : chars folders < fuel) (hdot : ∃ f ∈ folders, ∃ t, f = '.' :: t) :
    ∃ k, 0 < k ∧ k ≤ utf8Len (joinKey (kept folders ++ [file])) ∧ ∃ rest file', fitGo k fuel (folders ++ [file]) = rest ++ [file'] ∧
      ['.'] ∈ rest := by
  induction fuel generalizing folders with
  | zero => exact absurd hfuel (Nat.not_lt_zero _)
  | succ fuel ih =>
    obtain ⟨f, hf, t, rfl⟩ := hdot
    have hkept : '.' :: t ∈ kept folders := mem_filter.mpr ⟨hf, decide_eq_true (cons_ne_nil '.' t)⟩
    by_cases hnow : ['.'] ∈ kept folders
    · refine ⟨_, ?_, le_rfl, kept folders, file, ?_, hnow⟩
      · rw [utf8Len_joinKey]
        have := length_pos_of_mem hnow
        omega
      · rw [fitGo_succ _ hfile, if_pos le_rfl]
    · have hnone : kept folders ≠ [] := ne_nil_of_mem hkept
      have hless : chars (shortenLongest (kept folders)) < fuel := (chars_shortenLongest hnone).trans_le (Nat.lt_succ_iff.mp hfuel)
      have hnext : ∃ g ∈ shortenLongest (kept folders), ∃ u, g = '.' :: u := by
        obtain ⟨before, folder, after, hsplit, hshort⟩ := shortenLongest_split hnone
        rw [hshort]
        rw [hsplit, mem_append, mem_cons] at hkept
        rcases hkept with hbefore | rfl | hafter
        · exact ⟨_, mem_append_left _ hbefore, t, rfl⟩
        · refine ⟨_, mem_append_right _ mem_cons_self, t.dropLast, ?_⟩
          apply dropLast_cons_of_ne_nil
          rintro rfl
          exact hnow (hsplit ▸ mem_append_right before mem_cons_self)
        · exact ⟨_, mem_append_right _ (mem_cons_of_mem _ hafter), t, rfl⟩
      obtain ⟨k, hpos, hle, rest, file', heq, hmem⟩ := ih hless hnext
      have hlt := joinKey_shortenLongest file hnone
      refine ⟨k, hpos, by omega, rest, file', ?_, hmem⟩
      rw [fitGo_succ _ hfile, if_neg (by omega), if_neg hnone, heq]

end Bookclerk.Naming
