import Bookclerk.Naming.Evaluate
import Bookclerk.Naming.Limits
import Bookclerk.Naming.Rules

namespace Bookclerk.Naming

open Str List

inductive NamingProfile where
  | audiobookshelf
  | classic
deriving DecidableEq

structure NamingProfileTemplates where
  folder : Str
  file : Str
  chapterFile : Str

def NamingProfile.templates : NamingProfile → NamingProfileTemplates
  | .audiobookshelf =>
    { folder :=
        "<first author>/<has series-><first series>/<-has><has series#-><series#> - <-has><has year-><year> - <-has><title short><has narrator-> \x7b<first narrator>\x7d<-has>".toList
      file := "<title> [<asin>]".toList
      chapterFile := "<ch#> - <chapter title>".toList }
  | .classic =>
    { folder := "<title short> [<id>]".toList
      file := "<title> [<id>]".toList
      chapterFile := "<title> [<id>] - <ch# 0> - <ch title>".toList }

def profileDefaults : NamingProfileTemplates :=
  NamingProfile.audiobookshelf.templates

def hardenSegment (segment : Str) : Str :=
  trim (trimMatches '.' (trim (segment.filter fun c => !isControl c)))

def pushPiece (piece : Str) : List (List Str) → List (List Str)
  | current :: done => (current ++ [piece]) :: done
  | [] => [[piece]]

def addPart (rules : List ReplacementRule) (segments : List (List Str)) (part : TemplatePart) : List (List Str) :=
  if part.isLiteral then
    match (split '/' part.value).map (applyReplacements rules) with
    | [] => segments
    | piece :: pieces => pieces.foldl (fun segs p => [p] :: segs) (pushPiece piece segments)
  else pushPiece (applyReplacements rules part.value) segments

namespace Formatters

variable (F : Formatters)

def expandFilename (template : Str) (book : BookContext) (chapter : Option ChapterContext) (rules : List ReplacementRule) : Str :=
  removeSpaces ((F.evaluateParts template book chapter).map fun part => applyReplacements rules part.value)

def expandFolder (template : Str) (book : BookContext) (chapter : Option ChapterContext) (rules : List ReplacementRule) :
    List Str :=
  ((((F.evaluateParts template book chapter).foldl (addPart rules) [[]]).reverse.map removeSpaces).filter (· ≠ []))

def expandFolderSegments (template : Str) (book : BookContext) (chapter : Option ChapterContext) (rules : List ReplacementRule) :
    List Str :=
  ((F.expandFolder template book chapter rules).map hardenSegment).filter (· ≠ [])

def expandFileSegment (template : Str) (book : BookContext) (chapter : Option ChapterContext) (rules : List ReplacementRule) : Str :=
  hardenSegment (F.expandFilename template book chapter rules)

def storageKeyWithContexts (folderCtx fileCtx : NamingContext) (folderTemplate fileTemplate : Option Str) (ext : Str)
    (rules : List ReplacementRule) (limits : PathLimits) : Str :=
  let folderParts :=
    F.expandFolderSegments (folderTemplate.getD profileDefaults.folder) (toBookContext folderCtx) (toChapterContext folderCtx) rules
  let file := F.expandFileSegment (fileTemplate.getD profileDefaults.file) (toBookContext fileCtx) (toChapterContext fileCtx) rules
  let file := if file = [] then hardenSegment (applyReplacements rules fileCtx.asin) else file
  let ext := trimStartMatches '.' ext
  enforceStorageKeyLimits (joinKey (folderParts ++ [file ++ '.' :: ext])) limits

def chapterStorageKeyWithFolder (folderCtx fileCtx : NamingContext) (folderTemplate chapterFileTemplate : Option Str)
    (rules : List ReplacementRule) (chapterNumber : Nat) (chapterTitle ext : Str) (limits : PathLimits) : Str :=
  let chapterCtx := { fileCtx with chapterNumber := some (chapterNumber % 2 ^ 32), chapterTitle := some chapterTitle }
  let chapter := toChapterContext chapterCtx
  let folderParts :=
    F.expandFolderSegments (folderTemplate.getD profileDefaults.folder) (toBookContext folderCtx) chapter rules
  let file := F.expandFileSegment (chapterFileTemplate.getD profileDefaults.chapterFile) (toBookContext chapterCtx) chapter rules
  let ext := trimStartMatches '.' ext
  let key := if folderParts = [] then file ++ '.' :: ext else joinKey folderParts ++ '/' :: (file ++ '.' :: ext)
  enforceStorageKeyLimits key limits

end Formatters

def Clean (s : Str) : Prop :=
  ∀ c ∈ s, c ≠ '/' ∧ c ≠ '\\' ∧ isControl c = false

lemma mem_trim {s : Str} {c : Char} (h : c ∈ trim s) : c ∈ s :=
  (dropWhile_suffix _).mem (( rdropWhile_prefix ..).mem h)

lemma mem_hardenSegment {s : Str} {c : Char} (h : c ∈ hardenSegment s) : c ∈ s ∧ isControl c = false := by
  have hdots := mem_trim h
  have hinner := mem_trim ((dropWhile_suffix _).mem (( rdropWhile_prefix ..).mem hdots))
  simpa using mem_filter.mp hinner

def Replaced (rules : List ReplacementRule) (pieces : List Str) : Prop :=
  ∀ p ∈ pieces, ∃ text, p = applyReplacements rules text

section Replacement

variable {rules : List ReplacementRule} {segments : List (List Str)}

lemma Replaced.append {as bs : List Str} (ha : Replaced rules as) (hb : Replaced rules bs) : Replaced rules (as ++ bs) :=
  fun p hp => (mem_append.mp hp).elim (ha p) (hb p)

lemma replaced_singleton (text : Str) : Replaced rules [applyReplacements rules text] :=
  fun _ hp => ⟨text, mem_singleton.mp hp⟩

lemma replaced_pushPiece (text : Str) (h : ∀ seg ∈ segments, Replaced rules seg) :
    ∀ seg ∈ pushPiece (applyReplacements rules text) segments, Replaced rules seg := by
  cases segments with
  | nil =>
    intro seg hseg
    rw [mem_singleton.mp hseg]
    exact replaced_singleton text
  | cons current done =>
    intro seg hseg
    rcases mem_cons.mp hseg with rfl | hdone
    · exact (h current mem_cons_self).append (replaced_singleton text)
    · exact h seg (mem_cons_of_mem current hdone)

lemma replaced_newSegments (texts : List Str) (h : ∀ seg ∈ segments, Replaced rules seg) :
    ∀ seg ∈ (texts.map (applyReplacements rules)).foldl (fun segs p => [p] :: segs) segments, Replaced rules seg := by
  induction texts generalizing segments with
  | nil => exact h
  | cons text texts ih =>
    apply ih
    intro seg hseg
    rcases mem_cons.mp hseg with rfl | hold
    · exact replaced_singleton text
    · exact h seg hold

lemma replaced_addPart (part : TemplatePart) (h : ∀ seg ∈ segments, Replaced rules seg) :
    ∀ seg ∈ addPart rules segments part, Replaced rules seg := by
  unfold addPart
  split
  · cases hsplit : split '/' part.value with
    | nil => exact h
    | cons piece pieces => exact replaced_newSegments pieces (replaced_pushPiece piece h)
  · exact replaced_pushPiece _ h

lemma replaced_parts (parts : List TemplatePart) (h : ∀ seg ∈ segments, Replaced rules seg) :
    ∀ seg ∈ parts.foldl (addPart rules) segments, Replaced rules seg := by
  induction parts generalizing segments with
  | nil => exact h
  | cons part parts ih => exact ih (replaced_addPart part h)

end Replacement

section Counting

def TemplatePart.separators (part : TemplatePart) : Nat :=
  if part.isLiteral then part.value.count '/' else 0

lemma length_split (sep : Char) (s : Str) : (split sep s).length = s.count sep + 1 := by
  induction s with
  | nil => rfl
  | cons c s ih =>
    rcases eq_or_ne c sep with rfl | hne
    · rw [split_sep, length_cons, ih, count_cons_self]
    · obtain ⟨part, parts, hparts⟩ := exists_cons_of_length_eq_add_one ih
      rw [split_cons_of_ne hne hparts, count_cons_of_ne hne, ← ih, hparts]
      rfl

variable {segments : List (List Str)}

lemma length_pushPiece (h : segments ≠ []) (piece : Str) : (pushPiece piece segments).length = segments.length := by
  cases segments with
  | nil => exact absurd rfl h
  | cons current done => rfl

lemma length_newSegments (pieces : List Str) (segments : List (List Str)) :
    (pieces.foldl (fun segs p => [p] :: segs) segments).length = segments.length + pieces.length := by
  induction pieces generalizing segments with
  | nil => rfl
  | cons piece pieces ih =>
    rw [foldl_cons, ih, length_cons, length_cons]
    omega

lemma length_addPart (h : segments ≠ []) (rules : List ReplacementRule) (part : TemplatePart) :
    (addPart rules segments part).length = segments.length + part.separators := by
  unfold addPart TemplatePart.separators
  split_ifs
  · obtain ⟨piece, pieces, hsplit⟩ := exists_cons_of_length_eq_add_one (length_split '/' part.value)
    have hcount := length_split '/' part.value
    rw [hsplit] at hcount ⊢
    rw [map_cons]
    rw [length_newSegments, length_pushPiece h]
    simpa using hcount
  · exact length_pushPiece h _

lemma length_parts (h : segments ≠ []) (rules : List ReplacementRule) (parts : List TemplatePart) :
    (parts.foldl (addPart rules) segments).length = segments.length + (parts.map TemplatePart.separators).sum := by
  induction parts generalizing segments with
  | nil => rfl
  | cons part parts ih =>
    have hlength := length_addPart h rules part
    have hne : addPart rules segments part ≠ [] := by
      rw [← length_pos_iff]
      have := length_pos_of_ne_nil h
      omega
    rw [foldl_cons, ih hne, map_cons, sum_cons]
    omega

mutual

def nodeSeparators : Node → Nat
  | .literal text => text.count '/'
  | .property _ _ => 0
  | .conditional _ _ children => literalSeparators children

def literalSeparators : List Node → Nat
  | [] => 0
  | node :: nodes => nodeSeparators node + literalSeparators nodes

end

mutual

lemma separators_evalNode (F : Formatters) (book : BookContext) (chapter : Option ChapterContext) (node : Node) :
    ((F.evalNode book chapter node).map TemplatePart.separators).sum ≤ nodeSeparators node := by
  cases node with
  | literal text =>
    rw [Formatters.evalNode, nodeSeparators]
    split_ifs <;> simp [TemplatePart.separators]
  | property _ _ => exact Nat.le_of_eq rfl
  | conditional not cond children =>
    rw [Formatters.evalNode, nodeSeparators]
    split_ifs
    · exact separators_evalNodes F book chapter children
    · exact Nat.zero_le _

lemma separators_evalNodes (F : Formatters) (book : BookContext) (chapter : Option ChapterContext) (nodes : List Node) :
    ((F.evalNodes book chapter nodes).map TemplatePart.separators).sum ≤ literalSeparators nodes := by
  cases nodes with
  | nil => exact Nat.le_of_eq rfl
  | cons node nodes =>
    rw [Formatters.evalNodes, literalSeparators, map_append, sum_append]
    exact Nat.add_le_add (separators_evalNode F book chapter node) (separators_evalNodes F book chapter nodes)

end

end Counting

namespace Formatters

variable (F : Formatters) (template : Str) (book : BookContext) (chapter : Option ChapterContext) {rules : List ReplacementRule}

lemma length_expandFolderSegments (rules : List ReplacementRule) :
    (F.expandFolderSegments template book chapter rules).length ≤ literalSeparators (parseTemplate template) + 1 := by
  have hparts := length_parts (cons_ne_nil [] []) rules (F.evaluateParts template book chapter)
  have hseparators := separators_evalNodes F book chapter (parseTemplate template)
  calc (F.expandFolderSegments template book chapter rules).length
      ≤ (F.expandFolder template book chapter rules).length :=
        (length_filter_le ..).trans (length_map ..).le
    _ ≤ ((F.evaluateParts template book chapter).foldl (addPart rules) [[]]).length := by
        refine (length_filter_le ..).trans ?_
        rw [length_map, length_reverse]
    _ ≤ literalSeparators (parseTemplate template) + 1 := by
        rw [hparts, Nat.add_comm]
        exact Nat.add_le_add_right hseparators 1

variable (hrules : ∀ s, '/' ∉ applyReplacements rules s ∧ '\\' ∉ applyReplacements rules s)

include hrules

lemma clean_of_replaced {pieces : List Str} (h : Replaced rules pieces) : Clean (hardenSegment (removeSpaces pieces)) := by
  intro c hc
  obtain ⟨hmem, hcontrol⟩ := mem_hardenSegment hc
  rcases mem_removeSpaces hmem with rfl | ⟨piece, hpiece, hcp⟩
  · decide
  · obtain ⟨text, rfl⟩ := h piece hpiece
    refine ⟨?_, ?_, hcontrol⟩
    · rintro rfl
      exact (hrules text).1 hcp
    · rintro rfl
      exact (hrules text).2 hcp

lemma clean_expandFolderSegments : ∀ f ∈ F.expandFolderSegments template book chapter rules, f ≠ [] ∧ Clean f := by
  intro f hf
  obtain ⟨hmem, hne⟩ := mem_filter.mp hf
  obtain ⟨raw, hraw, rfl⟩ := mem_map.mp hmem
  obtain ⟨pieces, hpieces, rfl⟩ := mem_map.mp (mem_of_mem_filter hraw)
  refine ⟨of_decide_eq_true hne, clean_of_replaced hrules ?_⟩
  refine replaced_parts _ ?_ pieces (mem_reverse.mp hpieces)
  intro seg hseg p hp
  rw [mem_singleton.mp hseg] at hp
  exact absurd hp not_mem_nil

lemma clean_expandFileSegment : Clean (F.expandFileSegment template book chapter rules) := by
  apply clean_of_replaced hrules
  intro p hp
  obtain ⟨part, -, rfl⟩ := mem_map.mp hp
  exact ⟨part.value, rfl⟩

omit F template book chapter in
lemma clean_hardenSegment (text : Str) : Clean (hardenSegment (applyReplacements rules text)) := by
  intro c hc
  obtain ⟨hmem, hcontrol⟩ := mem_hardenSegment hc
  refine ⟨?_, ?_, hcontrol⟩
  · rintro rfl
    exact (hrules text).1 hmem
  · rintro rfl
    exact (hrules text).2 hmem

end Formatters

end Bookclerk.Naming
