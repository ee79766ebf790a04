import Bookclerk.Chapters.Split
import Bookclerk.Naming.SafeKeys
import Bookclerk.Naming.Stem

namespace Bookclerk.Chapters

open Str Naming List Option Bool Nat

section Numbers

lemma decimal_isNumber (n : Nat) : IsNumber (decimal n) :=
  ⟨toDigits_ne_nil, fun _ hc => isDigit_of_mem_toDigits (by decide) (by decide) hc⟩

lemma padZeros_isNumber {s : Str} (h : IsNumber s) (width : Nat) : IsNumber (padZeros width s) := by
  refine ⟨append_ne_nil_of_right_ne_nil _ h.1, fun c hc => ?_⟩
  rcases mem_append.mp hc with hzero | hdigit
  · rw [eq_of_mem_replicate hzero]
    decide
  · exact h.2 c hdigit

lemma value_decimal (n : Nat) : ofDigitChars 10 (decimal n) 0 = n :=
  ofDigitChars_toDigits (by decide) (by decide)

lemma value_padZeros (width n : Nat) : ofDigitChars 10 (padZeros width (decimal n)) 0 = n := by
  have hzeros (k : Nat) (s : Str) : ofDigitChars 10 (replicate k '0' ++ s) 0 = ofDigitChars 10 s 0 := by
    induction k with
    | zero => rfl
    | succ k ih =>
      exact ih
  rw [padZeros, hzeros, value_decimal]

def numberText (profile : NamingProfile) (count number : Nat) : Str :=
  match profile with
  | .audiobookshelf => decimal number
  | .classic => padZeros (digits count) (decimal number)

lemma numberText_isNumber (profile : NamingProfile) (count number : Nat) : IsNumber (numberText profile count number) := by
  cases profile with
  | audiobookshelf => exact decimal_isNumber number
  | classic => exact padZeros_isNumber (decimal_isNumber number) _

lemma numberText_injective {profile : NamingProfile} {count m n : Nat} (h : numberText profile count m = numberText profile count n) :
    m = n := by
  have hvalue (k : Nat) : ofDigitChars 10 (numberText profile count k) 0 = k := by
    cases profile with
    | audiobookshelf => exact value_decimal k
    | classic => exact value_padZeros _ k
  rw [← hvalue m, h, hvalue]

end Numbers

section Stems

variable {rules : List ReplacementRule}

lemma applyReplacements_of_not_mem {s : Str} (h : ∀ r ∈ rules, ∃ p, r.find = [p] ∧ p ∉ s) : applyReplacements rules s = s := by
  induction rules with
  | nil => rfl
  | cons rule rules ih =>
    obtain ⟨p, hfind, hp⟩ := h rule mem_cons_self
    have hnow : applyReplacement s rule = s := by
      rw [applyReplacement, hfind, if_neg (cons_ne_nil p []), replace_char_of_not_mem hp]
    rw [applyReplacements, foldl_cons, hnow]
    exact ih fun r hr => h r (mem_cons_of_mem rule hr)

def sparesNumbers (rules : List ReplacementRule) : Bool :=
  rules.all fun r =>
    match r.find with
    | [p] => !p.isDigit && p ∉ dash
    | _ => false

lemma builtInRules_spare (mode : PathSanitizationMode) (storageIsS3 hostIsWindows : Bool) :
    sparesNumbers (builtInRules mode storageIsS3 hostIsWindows) = true := by
  cases mode <;> cases storageIsS3 <;> cases hostIsWindows <;> rfl

section

variable (h : sparesNumbers rules = true)
include h

lemma find_of_spares : ∀ r ∈ rules, ∃ p, r.find = [p] ∧ p.isDigit = false ∧ p ∉ dash := by
  intro r hr
  have hthis := List.all_eq_true.mp h r hr
  split at hthis
  · next p hfind =>
      simp only [and_eq_true, not_eq_true', decide_eq_true_eq] at hthis
      exact ⟨p, hfind, hthis⟩
  · exact absurd hthis (by simp)

lemma replace_number {n : Str} (hn : IsNumber n) : applyReplacements rules n = n := by
  refine applyReplacements_of_not_mem fun r hr => ?_
  obtain ⟨p, hfind, hdigit, -⟩ := find_of_spares h r hr
  exact ⟨p, hfind, hn.not_mem hdigit⟩

lemma replace_dash : applyReplacements rules dash = dash := by
  refine applyReplacements_of_not_mem fun r hr => ?_
  obtain ⟨p, hfind, -, hdash⟩ := find_of_spares h r hr
  exact ⟨p, hfind, hdash⟩

end

def chapterContext (fileCtx : NamingContext) (number : Nat) (title : Str) : NamingContext :=
  { fileCtx with chapterNumber := some (number % 2 ^ 32), chapterTitle := some title }

def frontParts (profile : NamingProfile) (rules : List ReplacementRule) (ctx : NamingContext) : List Str :=
  match profile with
  | .audiobookshelf => []
  | .classic => [titleWithSubtitle ctx.title ctx.subtitle, " [".toList, ctx.asin, "] - ".toList].map (applyReplacements rules)

def chapterStem (F : Formatters) (profile : NamingProfile) (rules : List ReplacementRule) (fileCtx : NamingContext) (number : Nat)
    (title : Str) : Str :=
  F.expandFileSegment profile.templates.chapterFile (toBookContext (chapterContext fileCtx number title))
    (toChapterContext (chapterContext fileCtx number title)) rules

lemma parse_audiobookshelf : parseTemplate NamingProfile.audiobookshelf.templates.chapterFile =
    [.property .chNumber none, .literal dash, .property .chTitle none] := by
  rfl

lemma parse_classic : parseTemplate NamingProfile.classic.templates.chapterFile =
    [.property .title none, .literal " [".toList, .property .id none, .literal "] - ".toList, .property .chNumberPadded none,
      .literal dash, .property .chTitle none] := by
  rfl

lemma integer_natCast (n : Nat) : integer n = decimal n :=
  if_neg (Int.not_lt.mpr (Int.natCast_nonneg n))

lemma chapterStem_eq (F : Formatters) (profile : NamingProfile) (hrules : sparesNumbers rules = true)
    (fileCtx : NamingContext) (number : Nat) (title : Str) :
    chapterStem F profile rules fileCtx number title =
      hardenSegment (removeSpaces (frontParts profile rules fileCtx ++
        [numberText profile (fileCtx.chapterCount.getD 0) (number % 2 ^ 32), dash, applyReplacements rules title])) := by
  have hnumber := replace_number hrules (numberText_isNumber profile (fileCtx.chapterCount.getD 0) (number % 2 ^ 32))
  have hdash := replace_dash hrules
  unfold chapterStem Formatters.expandFileSegment Formatters.expandFilename Formatters.evaluateParts
  cases profile with
  | audiobookshelf =>
    have hsmall : number % 2 ^ 32 < 10 ^ 15 := (mod_lt _ (by decide)).trans (by decide)
    have hwritten : F.floatFormatter ((number % 2 ^ 32 : Nat) : Int) none = decimal (number % 2 ^ 32) := by
      rw [Formatters.floatFormatter, Int.natAbs_natCast, if_pos hsmall, integer_natCast]
    have heval : F.evalNodes (toBookContext (chapterContext fileCtx number title))
          (toChapterContext (chapterContext fileCtx number title))
          [.property .chNumber none, .literal dash, .property .chTitle none] =
        [⟨F.floatFormatter ((number % 2 ^ 32 : Nat) : Int) none, false⟩, ⟨dash, true⟩, ⟨title, false⟩] := by
      rfl
    rw [parse_audiobookshelf, heval, hwritten, map_cons, map_cons, hdash]
    rw [numberText] at hnumber ⊢
    rw [hnumber]
    rfl
  | classic =>
    have heval : F.evalNodes (toBookContext (chapterContext fileCtx number title))
          (toChapterContext (chapterContext fileCtx number title))
          [.property .title none, .literal " [".toList, .property .id none, .literal "] - ".toList, .property .chNumberPadded none,
            .literal dash, .property .chTitle none] =
        [⟨titleWithSubtitle fileCtx.title fileCtx.subtitle, false⟩, ⟨" [".toList, true⟩, ⟨fileCtx.asin, false⟩,
          ⟨"] - ".toList, true⟩, ⟨numberText .classic (fileCtx.chapterCount.getD 0) (number % 2 ^ 32), false⟩, ⟨dash, true⟩,
          ⟨title, false⟩] := by
      rfl
    rw [parse_classic, heval]
    simp only [map_cons, map_nil, hnumber, hdash, frontParts, cons_append, nil_append]

end Stems

section Names

def NumberKept (F : Formatters) (profile : NamingProfile) (rules : List ReplacementRule) (fileCtx : NamingContext) (ext : Str)
    (number : Nat) (title : Str) : Prop :=
  utf8Len (hardenFront (frontOf (frontParts profile rules fileCtx)) ++ numberText profile (fileCtx.chapterCount.getD 0) (number % 2 ^ 32)) ≤
    frontRoom (chapterStem F profile rules fileCtx number title) (stemLimit (trimStartMatches '.' ext) 255 .utf8Bytes)

instance (F : Formatters) (profile : NamingProfile) (rules : List ReplacementRule) (fileCtx : NamingContext) (ext : Str) (number : Nat)
    (title : Str) : Decidable (NumberKept F profile rules fileCtx ext number title) :=
  inferInstanceAs (Decidable (_ ≤ _))

variable {F : Formatters} {profile : NamingProfile} {rules : List ReplacementRule} {fileCtx : NamingContext} {ext : Str} {number : Nat}
  {title : Str}

lemma limited_stem_number (hrules : sparesNumbers rules = true) (hkept : NumberKept F profile rules fileCtx ext number title) :
    ∃ rest, truncateFilenameStem (chapterStem F profile rules fileCtx number title) (trimStartMatches '.' ext) 255 .utf8Bytes =
        hardenFront (frontOf (frontParts profile rules fileCtx)) ++
          numberText profile (fileCtx.chapterCount.getD 0) (number % 2 ^ 32) ++ rest ∧ StopsNumber rest := by
  have hn := numberText_isNumber profile (fileCtx.chapterCount.getD 0) (number % 2 ^ 32)
  obtain ⟨tail, hspaces⟩ := removeSpaces_number hn (frontParts profile rules fileCtx) (applyReplacements rules title)
  obtain ⟨tail', hharden⟩ := hardenSegment_number hn (frontOf (frontParts profile rules fileCtx)) tail
  have hstem := chapterStem_eq F profile hrules fileCtx number title
  rw [hspaces, hharden] at hstem
  unfold NumberKept at hkept
  rw [hstem] at hkept ⊢
  exact truncateStem_number hn hkept

lemma last_segment {folders : List Str} {name : Str} (hfolders : ∀ f ∈ folders, Clean f) (hname : Clean name) (hext : Clean ext)
    (hne : ext ≠ []) (hdot : '.' ∉ ext) (d : Str) :
    (split '/' (enforceStorageKeyLimits (joinKey (folders ++ [name ++ '.' :: ext])) {})).getLastD d =
      truncateFilenameStem name ext 255 .utf8Bytes ++ '.' :: ext := by
  have hfile : FileOf name ext (name ++ '.' :: ext) := ⟨name, rfl, fun _ hc => hc⟩
  have henforced : enforceParts {} (folders ++ [name ++ '.' :: ext]) =
      folders.map (truncatePathComponent · 255 .utf8Bytes) ++ [limitFile {} (name ++ '.' :: ext)] :=
    limitSegments_append {} folders _
  have hsplit : split '/' (enforceStorageKeyLimits (joinKey (folders ++ [name ++ '.' :: ext])) {}) =
      enforceParts {} (folders ++ [name ++ '.' :: ext]) := by
    refine split_limitedKey (by simp) ?_ _ (by simp [henforced]) ?_
    · intro p hp
      rcases mem_append.mp hp with hfolder | hlast
      · exact fun hslash => (hfolders p hfolder '/' hslash).1 rfl
      · rw [mem_singleton.mp hlast]
        exact (hfile.safe hname hext hne hdot).2
    · intro p hp
      rw [henforced] at hp
      rcases mem_append.mp hp with hfolder | hlast
      · obtain ⟨f, hf, rfl⟩ := List.mem_map.mp hfolder
        exact fun hslash => (hfolders f hf '/' (( truncatePathComponent_isPrefix ..).mem hslash)).1 rfl
      · rw [mem_singleton.mp hlast]
        exact ((hfile.limitFile hdot {}).safe hname hext hne hdot).2
  rw [hsplit, henforced, List.getLastD_eq_getLast?, getLast?_concat, getD_some, limitFile, rsplitOnce_append hdot]

def builtInOptions (profile : NamingProfile) (folderTemplate : Str) (minutes : Nat) (rules : List ReplacementRule) : SplitOptions where
  minimumFileDurationMinutes := minutes
  folderTemplate := folderTemplate
  chapterFileTemplate := profile.templates.chapterFile
  replacementCharacters := rules
  pathLimits := {}

section

variable (hclear : ∀ s, '/' ∉ applyReplacements rules s ∧ '\\' ∉ applyReplacements rules s)
include hclear

lemma outputName_eq (hext : PlainExt ext)
    (folderCtx : NamingContext) (folderTemplate : Str) (minutes : Nat) :
    outputName F folderCtx fileCtx (builtInOptions profile folderTemplate minutes rules) ext number title =
      truncateFilenameStem (chapterStem F profile rules fileCtx number title) (trimStartMatches '.' ext) 255 .utf8Bytes ++
        '.' :: trimStartMatches '.' ext := by
  obtain ⟨hne, hclean, hdot⟩ := hext
  unfold outputName Formatters.chapterStorageKeyWithFolder
  dsimp only
  rw [Formatters.chapterKey_eq]
  exact last_segment (fun f hf => (F.clean_expandFolderSegments _ _ _ hclear f hf).2) (F.clean_expandFileSegment _ _ _ hclear) hclean hne
    hdot _

lemma number_eq_of_outputName {folderCtx : NamingContext} {folderTemplate : Str} {minutes number' : Nat} {title' : Str} (hrules : sparesNumbers rules = true)
    (hext : PlainExt ext) (hkept : NumberKept F profile rules fileCtx ext number title)
    (hkept' : NumberKept F profile rules fileCtx ext number' title')
    (h : outputName F folderCtx fileCtx (builtInOptions profile folderTemplate minutes rules) ext number title =
      outputName F folderCtx fileCtx (builtInOptions profile folderTemplate minutes rules) ext number' title') :
    number % 2 ^ 32 = number' % 2 ^ 32 := by
  obtain ⟨rest, hstem, hstops⟩ := limited_stem_number hrules hkept
  obtain ⟨rest', hstem', hstops'⟩ := limited_stem_number hrules hkept'
  rw [outputName_eq hclear hext, outputName_eq hclear hext, hstem, hstem'] at h
  simp only [append_assoc, append_cancel_left_eq] at h
  have hdigits := congrArg (takeWhile Char.isDigit) h
  rw [← append_assoc, takeWhile_number (numberText_isNumber ..) hstops, ← append_assoc,
    takeWhile_number (numberText_isNumber ..) hstops'] at hdigits
  exact numberText_injective hdigits

end

end Names

def NumbersKept (F : Formatters) (profile : NamingProfile) (rules : List ReplacementRule) (fileCtx : NamingContext) (ext : Str)
    (groups : List (List FlatChapter)) : Prop :=
  groups.length < 2 ^ 32 ∧ ∀ p ∈ groups.zipIdx, NumberKept F profile rules fileCtx ext (p.2 + 1) (groupTitle p.1)

instance (F : Formatters) (profile : NamingProfile) (rules : List ReplacementRule) (fileCtx : NamingContext) (ext : Str)
    (groups : List (List FlatChapter)) : Decidable (NumbersKept F profile rules fileCtx ext groups) :=
  inferInstanceAs (Decidable (_ ∧ ∀ p ∈ groups.zipIdx, _))

section Plan

variable {F : Formatters} {chapters : List FlatChapter} {total minutes : Nat} {folderCtx fileCtx : NamingContext}
  {profile : NamingProfile} {folderTemplate ext : Str} {rules : List ReplacementRule}

lemma splitAudio_ok {inputExt : Str} {options : SplitOptions} {files : List SplitChapterFile}
    (h : splitAudioByChapters F inputExt chapters total folderCtx fileCtx options ext = .ok files) :
    files = (groupChapters chapters total options.minimumFileDurationMinutes).mapIdx
      (splitGroup F chapters total folderCtx fileCtx options ext) := by
  unfold splitAudioByChapters at h
  split_ifs at h
  exact (Except.ok.inj h).symm

lemma ranges_mapIdx (options : SplitOptions) (groups : List (List FlatChapter)) :
    (groups.mapIdx (splitGroup F chapters total folderCtx fileCtx options ext)).map SplitChapterFile.range =
      groups.map (rangeOf chapters total) := by
  apply ext_getElem?
  intro i
  rw [List.getElem?_map, List.getElem?_map, List.getElem?_mapIdx, Option.map_map]
  rfl

lemma nodup_names (hclear : ∀ s, '/' ∉ applyReplacements rules s ∧ '\\' ∉ applyReplacements rules s) (hrules : sparesNumbers rules = true)
    (hext : PlainExt ext) {groups : List (List FlatChapter)} (hkept : NumbersKept F profile rules fileCtx ext groups) :
    ((groups.mapIdx (splitGroup F chapters total folderCtx fileCtx (builtInOptions profile folderTemplate minutes rules) ext)).map
      SplitChapterFile.name).Nodup := by
  obtain ⟨hlength, hnumbers⟩ := hkept
  rw [List.nodup_iff_getElem?_ne_getElem?]
  intro i j hij hj heq
  simp only [length_map, length_mapIdx] at hj
  have hi : i < groups.length := hij.trans hj
  simp only [List.getElem?_map, List.getElem?_mapIdx, List.getElem?_eq_getElem hi, List.getElem?_eq_getElem hj, map_some,
    some.injEq, splitGroup] at heq
  have hmem (k : Nat) (hk : k < groups.length) := hnumbers (groups[k], k) (List.mem_zipIdx_iff_getElem?.mpr (List.getElem?_eq_getElem hk))
  have hnumber := number_eq_of_outputName hclear hrules hext (hmem i hi) (hmem j hj) heq
  omega

end Plan

instance (chapters : List FlatChapter) : Decidable (Ordered chapters) :=
  inferInstanceAs (Decidable (chapters.Pairwise _))

def keepTitles : TitleOptions :=
  ⟨false, false, false, false⟩

def stripUnabridged : TitleOptions :=
  { keepTitles with stripUnabridged := true }

def namedChapter (title : String) (startMs : Nat) : FlatChapter :=
  ⟨title.toList, startMs⟩

def twoChapters : List FlatChapter :=
  [namedChapter "Opening" 0, namedChapter "One" 60000]

def splitClassic (fileCtx : NamingContext) (chapters : List FlatChapter) : Except SplitError (List SplitChapterFile) :=
  splitAudioByChapters .plain "m4b".toList chapters 90000 fileCtx fileCtx
    (builtInOptions .classic NamingProfile.classic.templates.folder 0 (builtInRules .posix false false)) "m4b".toList

def longBook : NamingContext where
  asin := "B00X".toList
  title := List.replicate 260 'A'

end Bookclerk.Chapters
