import Bookclerk.Naming.Segments

namespace Bookclerk.Naming

open Str List

variable {c : Char} {maxFilenameLength : Nat} {measure : PathLengthMeasure}

def SafeSegment (s : Str) : Prop :=
  s ≠ [] ∧ s ≠ ['.'] ∧ s ≠ ['.', '.'] ∧ ∀ c ∈ s, c ≠ '\\' ∧ isControl c = false

/-- Every segment is safe, and there are at most `folders` of them before the file. -/
def SafeKey (folders : Nat) (key : Str) : Prop :=
  (∀ s ∈ split '/' key, SafeSegment s) ∧ (split '/' key).length ≤ folders + 1

/-- An extension as the callers pass it: without separators, control characters and inner dots. -/
def PlainExt (ext : Str) : Prop :=
  trimStartMatches '.' ext ≠ [] ∧ Clean (trimStartMatches '.' ext) ∧ '.' ∉ trimStartMatches '.' ext

/-- After hardening, the text is empty or starts with something that is not a dot and that the limit does not cut off. -/
def StartsSafe (maxFilenameLength : Nat) (measure : PathLengthMeasure) (raw : Str) : Prop :=
  ∀ c ∈ (hardenSegment raw).head?, c ≠ '.' ∧ (maxFilenameLength = 0 ∨ pathLen [c] measure ≤ maxFilenameLength)

instance (ext : Str) : Decidable (PlainExt ext) :=
  @instDecidableAnd _ _ _ (@instDecidableAnd _ _ (List.decidableBAll _ _) _)

instance (maxFilenameLength : Nat) (measure : PathLengthMeasure) (raw : Str) : Decidable (StartsSafe maxFilenameLength measure raw) :=
  Option.decidableForallMem _

section Parts

variable {name ext file : Str} {folders : List Str}

def FileOf (name ext file : Str) : Prop :=
  ∃ stem, file = stem ++ '.' :: ext ∧ ∀ c ∈ stem, c ∈ name

lemma FileOf.ne_nil (h : FileOf name ext file) : file ≠ [] := by
  obtain ⟨stem, rfl, -⟩ := h
  simp

lemma FileOf.limitFile (h : FileOf name ext file) (hdot : '.' ∉ ext) (limits : PathLimits) : FileOf name ext (limitFile limits file) := by
  obtain ⟨stem, rfl, hstem⟩ := h
  refine ⟨truncateFilenameStem stem ext limits.maxFilenameLength limits.measure, ?_, fun c hc => ?_⟩
  · rw [Naming.limitFile, rsplitOnce_append hdot]
  · exact hstem c (mem_truncateFilenameStem hc)

lemma FileOf.fitFile (h : FileOf name ext file) (hdot : '.' ∉ ext) (limit : Nat) : FileOf name ext (fitFile limit file) := by
  obtain ⟨stem, rfl, hstem⟩ := h
  refine ⟨truncatePathComponent stem (limit - (utf8Len ext + 1)) .utf8Bytes, ?_, fun c hc => ?_⟩
  · rw [Naming.fitFile, rsplitOnce_append hdot]
  · exact hstem c (( truncatePathComponent_isPrefix ..).mem hc)

lemma limitSegments_append (limits : PathLimits) (folders : List Str) (file : Str) :
    limitSegments limits (folders ++ [file]) =
      folders.map (truncatePathComponent · limits.maxFilenameLength limits.measure) ++ [limitFile limits file] := by
  induction folders with
  | nil => rfl
  | cons folder folders ih =>
    obtain ⟨next, rest, hrest⟩ : ∃ next rest, folders ++ [file] = next :: rest :=
      exists_cons_of_ne_nil (append_ne_nil_of_right_ne_nil _ (cons_ne_nil file []))
    rw [cons_append, hrest, limitSegments, ← hrest, ih]
    · rfl
    · exact cons_ne_nil next rest

lemma enforceParts_eq (maxFilenameLength : Nat) (measure : PathLengthMeasure) (folders : List Str) (hfile : FileOf name ext file)
    (hdot : '.' ∉ ext) :
    ∃ file', FileOf name ext file' ∧ ∀ budget,
      enforceParts ⟨maxFilenameLength, budget, measure⟩ (folders ++ [file]) =
        if budget = 0 then folders.map (truncatePathComponent · maxFilenameLength measure) ++ [file']
        else fitKey budget (folders.map (truncatePathComponent · maxFilenameLength measure) ++ [file']) := by
  rcases eq_or_ne maxFilenameLength 0 with rfl | hlimit
  · refine ⟨file, hfile, fun budget => ?_⟩
    simp [enforceParts, truncatePathComponent_zero]
  · refine ⟨limitFile ⟨maxFilenameLength, 0, measure⟩ file, hfile.limitFile hdot _, fun budget => ?_⟩
    simp only [enforceParts, hlimit, limitSegments_append]
    rfl

lemma FileOf.safe (h : FileOf name ext file) (hname : Clean name) (hext : Clean ext) (hne : ext ≠ []) (hdot : '.' ∉ ext) :
    SafeSegment file ∧ '/' ∉ file := by
  obtain ⟨stem, rfl, hstem⟩ := h
  have hmem (c : Char) (hc : c ∈ stem ++ '.' :: ext) : c ≠ '/' ∧ c ≠ '\\' ∧ isControl c = false := by
    rw [mem_append, mem_cons] at hc
    rcases hc with hc | rfl | hc
    · exact hname c (hstem c hc)
    · decide
    · exact hext c hc
  have hlast : (stem ++ '.' :: ext).getLast (by simp) ≠ '.' := by
    rw [getLast_append_of_ne_nil _ (cons_ne_nil '.' ext), getLast_cons hne]
    exact fun heq => hdot (heq ▸ getLast_mem hne)
  refine ⟨⟨by simp, fun heq => ?_, fun heq => ?_, fun c hc => (hmem c hc).2⟩, fun hc => (hmem '/' hc).1 rfl⟩
  · simp [heq] at hlast
  · simp [heq] at hlast

lemma safe_of_isPrefix {f t : Str} (hf : f <+: c :: t) (hne : f ≠ []) (hc : c ≠ '.') (hclean : Clean (c :: t)) :
    SafeSegment f ∧ '/' ∉ f := by
  have hmem (d : Char) (hd : d ∈ f) := hclean d (hf.mem hd)
  obtain ⟨d, u, rfl⟩ := exists_cons_of_ne_nil hne
  obtain ⟨rfl, -⟩ := cons_prefix_cons.mp hf
  refine ⟨⟨hne, fun heq => hc ?_, fun heq => hc ?_, fun e he => (hmem e he).2⟩, fun h => (hmem '/' h).1 rfl⟩
  · exact (List.cons.inj heq).1
  · exact (List.cons.inj heq).1

lemma enforceParts_shape (maxFilenameLength budget : Nat) (measure : PathLengthMeasure) (folders : List Str)
    (hfile : FileOf name ext file) (hdot : '.' ∉ ext) :
    ∃ rest file', enforceParts ⟨maxFilenameLength, budget, measure⟩ (folders ++ [file]) = rest ++ [file'] ∧
      FileOf name ext file' ∧ rest.length ≤ folders.length ∧
      ∀ f ∈ rest, (∃ g ∈ folders, f <+: g) ∧ ((∀ g ∈ folders, truncatePathComponent g maxFilenameLength measure ≠ []) → f ≠ []) := by
  obtain ⟨mid, hmid, heq⟩ := enforceParts_eq maxFilenameLength measure folders hfile hdot
  rw [heq]
  split_ifs with hbudget
  · refine ⟨_, mid, rfl, hmid, (length_map ..).le, fun f hf => ?_⟩
    obtain ⟨g, hg, rfl⟩ := mem_map.mp hf
    exact ⟨⟨g, hg, truncatePathComponent_isPrefix ..⟩, fun h => h g hg⟩
  · obtain ⟨rest, last, hfit, hlast, hlength, hrest⟩ :=
      fitGo_folders budget hmid.ne_nil (fuel_enough (folders.map (truncatePathComponent · maxFilenameLength measure)) mid)
    refine ⟨rest, last, hfit, ?_, hlength.trans (length_map ..).le, fun f hf => ?_⟩
    · rcases hlast with rfl | rfl
      · exact hmid
      · exact hmid.fitFile hdot budget
    · obtain ⟨hne, g, hg, hhead⟩ := hrest f hf
      obtain ⟨folder, hfolder, rfl⟩ := mem_map.mp hg
      exact ⟨⟨folder, hfolder, hhead.trans ( truncatePathComponent_isPrefix ..)⟩, fun _ => hne⟩

lemma starts_of_safe (hfile : FileOf name ext file) (hdot : '.' ∉ ext)
    (h : ∀ budget, ∀ s ∈ enforceParts ⟨maxFilenameLength, budget, measure⟩ (folders ++ [file]), SafeSegment s) {t : Str}
    (hmem : c :: t ∈ folders) : c ≠ '.' ∧ (maxFilenameLength = 0 ∨ pathLen [c] measure ≤ maxFilenameLength) := by
  obtain ⟨mid, hmid, heq⟩ := enforceParts_eq maxFilenameLength measure folders hfile hdot
  have hcut : truncatePathComponent (c :: t) maxFilenameLength measure ∈
      folders.map (truncatePathComponent · maxFilenameLength measure) := mem_map_of_mem hmem
  have hnonempty : truncatePathComponent (c :: t) maxFilenameLength measure ≠ [] := by
    refine (h 0 _ ?_).1
    rw [heq]
    exact mem_append_left _ hcut
  constructor
  · rintro rfl
    obtain ⟨d, u, hdu⟩ := exists_cons_of_ne_nil hnonempty
    obtain ⟨rfl, -⟩ : d = '.' ∧ u <+: t := cons_prefix_cons.mp (hdu ▸ truncatePathComponent_isPrefix ..)
    obtain ⟨budget, hpos, -, rest, last, hfit, hrest⟩ :=
      exists_limit_dot hmid.ne_nil (fuel_enough (folders.map (truncatePathComponent · maxFilenameLength measure)) mid)
        ⟨_, hcut, u, hdu⟩
    refine (h budget ['.'] ?_).2.1 rfl
    rw [heq, if_neg hpos.ne', fitKey, hfit]
    exact mem_append_left _ hrest
  · rw [Ne, truncatePathComponent_cons, not_and_or, not_not, Nat.not_lt] at hnonempty
    exact hnonempty

end Parts

section Keys

variable {name ext : Str} {folders : List Str}

lemma split_limitedKey {parts : List Str} (hne : parts ≠ []) (hparts : ∀ p ∈ parts, '/' ∉ p) (limits : PathLimits)
    (hlimited : enforceParts limits parts ≠ []) (h : ∀ p ∈ enforceParts limits parts, '/' ∉ p) :
    split '/' (enforceStorageKeyLimits (joinKey parts) limits) = enforceParts limits parts := by
  have hsplit : split '/' (joinKey parts) = parts := split_intercalate hne hparts
  unfold enforceStorageKeyLimits
  split_ifs with hlifted
  · rw [hsplit, enforceParts, if_pos hlifted.1]
    exact (if_pos hlifted.2).symm
  · rw [hsplit]
    exact split_intercalate hlimited h

lemma safe_key_iff (hname : Clean name) (hext : Clean ext) (hne : ext ≠ []) (hdot : '.' ∉ ext)
    (hfolders : ∀ f ∈ folders, f ≠ [] ∧ Clean f) {count : Nat} (hcount : folders.length ≤ count) (maxFilenameLength : Nat)
    (measure : PathLengthMeasure) :
    (∀ budget, SafeKey count (enforceStorageKeyLimits (joinKey (folders ++ [name ++ '.' :: ext])) ⟨maxFilenameLength, budget, measure⟩)) ↔
      ∀ c t, c :: t ∈ folders → c ≠ '.' ∧ (maxFilenameLength = 0 ∨ pathLen [c] measure ≤ maxFilenameLength) := by
  have hfile : FileOf name ext (name ++ '.' :: ext) := ⟨name, rfl, fun _ hc => hc⟩
  have hsplit (budget : Nat) : split '/' (enforceStorageKeyLimits (joinKey (folders ++ [name ++ '.' :: ext])) ⟨maxFilenameLength, budget, measure⟩) =
      enforceParts ⟨maxFilenameLength, budget, measure⟩ (folders ++ [name ++ '.' :: ext]) := by
    obtain ⟨rest, file', heq, hfile', -, hrest⟩ := enforceParts_shape maxFilenameLength budget measure folders hfile hdot
    refine split_limitedKey (by simp) ?_ _ (by simp [heq]) ?_
    · intro p hp
      rcases mem_append.mp hp with hfolder | hlast
      · exact fun hslash => ((hfolders p hfolder).2 '/' hslash).1 rfl
      · rw [mem_singleton.mp hlast]
        exact (hfile.safe hname hext hne hdot).2
    · intro p hp
      rw [heq] at hp
      rcases mem_append.mp hp with hfolder | hlast
      · obtain ⟨⟨g, hg, hhead⟩, -⟩ := hrest p hfolder
        exact fun hslash => ((hfolders g hg).2 '/' (hhead.mem hslash)).1 rfl
      · rw [mem_singleton.mp hlast]
        exact (hfile'.safe hname hext hne hdot).2
  constructor
  · intro h c t hmem
    refine starts_of_safe hfile hdot (fun budget s hs => ?_) hmem
    exact (h budget).1 s (hsplit budget ▸ hs)
  · intro h budget
    obtain ⟨rest, file', heq, hfile', hlength, hrest⟩ := enforceParts_shape maxFilenameLength budget measure folders hfile hdot
    rw [SafeKey, hsplit, heq]
    refine ⟨fun s hs => ?_, ?_⟩
    · rcases mem_append.mp hs with hfolder | hlast
      · obtain ⟨⟨g, hg, hhead⟩, hnonempty⟩ := hrest s hfolder
        obtain ⟨c, t, rfl⟩ := exists_cons_of_ne_nil (hfolders g hg).1
        refine (safe_of_isPrefix hhead (hnonempty fun f hf => ?_) (h c t hg).1 (hfolders _ hg).2).1
        obtain ⟨d, u, rfl⟩ := exists_cons_of_ne_nil (hfolders f hf).1
        rw [Ne, truncatePathComponent_cons, not_and_or, not_not, Nat.not_lt]
        exact (h d u hf).2
      · rw [mem_singleton.mp hlast]
        exact (hfile'.safe hname hext hne hdot).1
    · rw [length_append, length_singleton]
      omega

end Keys

namespace Formatters

variable (F : Formatters)

lemma startsSafe_iff {template : Str} {book : BookContext} {chapter : Option ChapterContext} {rules : List ReplacementRule} :
    (∀ c t, c :: t ∈ F.expandFolderSegments template book chapter rules → c ≠ '.' ∧
        (maxFilenameLength = 0 ∨ pathLen [c] measure ≤ maxFilenameLength)) ↔
      ∀ raw ∈ F.expandFolder template book chapter rules, StartsSafe maxFilenameLength measure raw := by
  constructor
  · intro h raw hraw c hc
    obtain ⟨t, hct⟩ := head?_eq_some_iff.mp hc
    exact h c t (mem_filter.mpr ⟨mem_map.mpr ⟨raw, hraw, hct⟩, by simp⟩)
  · intro h c t hmem
    obtain ⟨raw, hraw, hct⟩ := mem_map.mp (mem_of_mem_filter hmem)
    exact h raw hraw c (head?_eq_some_iff.mpr ⟨t, hct⟩)

lemma chapterKey_eq (folders : List Str) (file : Str) :
    (if folders = [] then file else joinKey folders ++ '/' :: file) = joinKey (folders ++ [file]) := by
  split_ifs with h
  · simp [h, joinKey]
  · exact (joinKey_append h file).symm

theorem storage_keys_safe_iff (folderCtx fileCtx : NamingContext) (folderTemplate fileTemplate : Option Str) (mode : PathSanitizationMode)
    (storageIsS3 hostIsWindows : Bool) (chapterNumber : Nat) (chapterTitle ext : Str) (hext : PlainExt ext) (maxFilenameLength : Nat)
    (measure : PathLengthMeasure) :
    ((∀ budget, SafeKey (literalSeparators (parseTemplate (folderTemplate.getD profileDefaults.folder)) + 1)
          (F.storageKeyWithContexts folderCtx fileCtx folderTemplate fileTemplate ext (builtInRules mode storageIsS3 hostIsWindows)
            ⟨maxFilenameLength, budget, measure⟩)) ↔
        ∀ raw ∈ F.expandFolder (folderTemplate.getD profileDefaults.folder) (toBookContext folderCtx) (toChapterContext folderCtx)
          (builtInRules mode storageIsS3 hostIsWindows), StartsSafe maxFilenameLength measure raw) ∧
      ((∀ budget, SafeKey (literalSeparators (parseTemplate (folderTemplate.getD profileDefaults.folder)) + 1)
          (F.chapterStorageKeyWithFolder folderCtx fileCtx folderTemplate fileTemplate (builtInRules mode storageIsS3 hostIsWindows)
            chapterNumber chapterTitle ext ⟨maxFilenameLength, budget, measure⟩)) ↔
        ∀ raw ∈ F.expandFolder (folderTemplate.getD profileDefaults.folder) (toBookContext folderCtx)
          (toChapterContext { fileCtx with chapterNumber := some (chapterNumber % 2 ^ 32), chapterTitle := some chapterTitle })
          (builtInRules mode storageIsS3 hostIsWindows), StartsSafe maxFilenameLength measure raw) := by
  have hrules := builtInRules_clear_separators mode storageIsS3 hostIsWindows
  obtain ⟨hne, hclean, hdot⟩ := hext
  constructor
  · rw [← startsSafe_iff]
    refine safe_key_iff ?_ hclean hne hdot (F.clean_expandFolderSegments _ _ _ hrules) (F.length_expandFolderSegments ..) ..
    split_ifs
    · exact clean_hardenSegment hrules _
    · exact F.clean_expandFileSegment _ _ _ hrules
  · rw [← startsSafe_iff]
    unfold chapterStorageKeyWithFolder
    simp only [chapterKey_eq]
    exact safe_key_iff (F.clean_expandFileSegment _ _ _ hrules) hclean hne hdot (F.clean_expandFolderSegments _ _ _ hrules)
      (F.length_expandFolderSegments ..) _ _

def plain : Formatters where
  text value _ := value
  number value _ := integer value
  wideNumber := integer
  minutes := integer
  date value _ := integer value
  name c _ := c.name
  nameList cs _ := ", ".toList.intercalate (cs.map Contributor.name)
  seriesName x _ := x.name
  seriesList xs _ := ", ".toList.intercalate (xs.map Series.name)
  seriesOrder order _ := order.getD []
  strings xs _ := ", ".toList.intercalate xs
  check _ _ _ := false

def dottedBook : NamingContext where
  asin := "B00X".toList
  title := ". .. .".toList

def plainBook : NamingContext where
  asin := "B00X".toList
  title := "Hello: World".toList
  authors := some "A/B".toList

theorem dotted_title_escapes :
    plain.storageKeyWithContexts dottedBook dottedBook (some "<title>".toList) (some "<id>".toList) "m4b".toList
      (builtInRules .posix false false) {} = "../B00X.m4b".toList := by
  decide +kernel

theorem storage_keys_safe_of_plainBook :
    SafeKey (literalSeparators (parseTemplate "<author>/<id>".toList) + 1)
      (plain.storageKeyWithContexts plainBook plainBook (some "<author>/<id>".toList) none "m4b".toList (builtInRules .windows false false)
        ⟨255, 1024, .utf8Bytes⟩) :=
  (plain.storage_keys_safe_iff plainBook plainBook (some "<author>/<id>".toList) none .windows false false 1 [] "m4b".toList (by decide +kernel) 255
    .utf8Bytes).1.mpr (by decide +kernel) 1024

end Formatters

end Bookclerk.Naming
