import Bookclerk.Naming.Segments

namespace Bookclerk.Chapters

open Str Naming List

structure FlatChapter where
  title : Str
  startMs : Nat
deriving DecidableEq

structure TitleOptions where
  combineNested : Bool
  mergeCredits : Bool
  stripUnabridged : Bool
  stripBrand : Bool

def processTitle (opts : TitleOptions) (title : Str) : Str :=
  let title :=
    if opts.stripUnabridged then replace "Unabridged".toList [] (replace "(Unabridged)".toList [] title) else title
  let title :=
    if opts.stripBrand then replace "Audible, Inc.".toList [] (replace "Audible Studios".toList [] title) else title
  let lower := toAsciiLowercase title
  let title :=
    if opts.mergeCredits && (contains "opening credits".toList lower || contains "end credits".toList lower) then
      replace "End Credits".toList "Credits".toList (replace "Opening Credits".toList "Credits".toList title)
    else title
  let title :=
    if opts.combineNested && title.contains ':' then " - ".toList.intercalate ((split ':' title).map trim) else title
  trim title

def processChapterTitles (opts : TitleOptions) (chapters : List FlatChapter) : List FlatChapter :=
  (chapters.map fun c => { c with title := processTitle opts c.title }).filter fun c => c.title ≠ []

def nextStart (total : Nat) (rest : List FlatChapter) : Nat :=
  rest.head?.elim total FlatChapter.startMs

structure Grouping where
  groups : List (List FlatChapter) := []
  current : List FlatChapter := []
  currentStart : Nat := 0

def groupStep (total minMs : Nat) (st : Grouping) (chapter : FlatChapter) (rest : List FlatChapter) : Grouping :=
  let next := nextStart total rest
  if minMs ≤ next - st.currentStart then
    { groups := st.groups ++ [st.current ++ [chapter]], current := [], currentStart := next }
  else { st with current := st.current ++ [chapter] }

def groupGo (total minMs : Nat) (st : Grouping) : List FlatChapter → Grouping
  | [] => st
  | chapter :: rest => groupGo total minMs (groupStep total minMs st chapter rest) rest

def closeGroups (st : Grouping) : List (List FlatChapter) :=
  if st.current = [] then st.groups
  else
    match st.groups.getLast? with
    | some last => st.groups.dropLast ++ [last ++ st.current]
    | none => [st.current]

def groupChapters (chapters : List FlatChapter) (total minimumFileDurationMinutes : Nat) : List (List FlatChapter) :=
  let minMs := minimumFileDurationMinutes * 60000
  if minMs = 0 ∨ chapters.length ≤ 1 then chapters.map fun c => [c]
  else closeGroups (groupGo total minMs {} chapters)

def endMs (chapters : List FlatChapter) (total : Nat) (group : List FlatChapter) : Nat :=
  (group.getLast?.bind fun last => (chapters.find? fun c => last.startMs < c.startMs).map FlatChapter.startMs).getD total

def startMs (group : List FlatChapter) : Nat :=
  group.head?.elim 0 FlatChapter.startMs

def groupTitle (group : List FlatChapter) : Str :=
  ": ".toList.intercalate (group.map FlatChapter.title)

structure SplitOptions where
  minimumFileDurationMinutes : Nat
  folderTemplate : Str
  chapterFileTemplate : Str
  replacementCharacters : List ReplacementRule
  pathLimits : PathLimits

structure SplitChapterFile where
  range : Nat × Nat
  name : Str
  title : Str

inductive SplitError where
  | noChapters
  | mp3Input
deriving DecidableEq

def outputName (F : Formatters) (folderCtx fileCtx : NamingContext) (options : SplitOptions) (ext : Str) (number : Nat) (title : Str) :
    Str :=
  let filename := F.chapterStorageKeyWithFolder folderCtx fileCtx (some options.folderTemplate) (some options.chapterFileTemplate)
    options.replacementCharacters number title ext options.pathLimits
  (split '/' filename).getLastD filename

def splitGroup (F : Formatters) (chapters : List FlatChapter) (total : Nat) (folderCtx fileCtx : NamingContext) (options : SplitOptions)
    (ext : Str) (idx : Nat) (group : List FlatChapter) : SplitChapterFile where
  range := (startMs group, endMs chapters total group)
  name := outputName F folderCtx fileCtx options ext (idx + 1) (groupTitle group)
  title := groupTitle group

def splitAudioByChapters (F : Formatters) (inputExt : Str) (chapters : List FlatChapter) (total : Nat) (folderCtx fileCtx : NamingContext)
    (options : SplitOptions) (ext : Str) : Except SplitError (List SplitChapterFile) :=
  if chapters = [] then .error .noChapters
  else if toAsciiLowercase inputExt = "mp3".toList then .error .mp3Input
  else
    .ok ((groupChapters chapters total options.minimumFileDurationMinutes).mapIdx
      (splitGroup F chapters total folderCtx fileCtx options ext))

/-- The ranges, in order, cover everything from `a` to `b` once. -/
def Tiles (a b : Nat) : List (Nat × Nat) → Prop
  | [] => a = b
  | range :: ranges => range.1 = a ∧ range.1 < range.2 ∧ Tiles range.2 b ranges

def Ordered (chapters : List FlatChapter) : Prop :=
  chapters.Pairwise fun c d => c.startMs < d.startMs

def Partition (chapters : List FlatChapter) (groups : List (List FlatChapter)) : Prop :=
  groups.flatten = chapters ∧ ∀ g ∈ groups, g ≠ []

section Groups

variable {total minMs : Nat}

lemma flatten_groupStep (st : Grouping) (chapter : FlatChapter) (rest : List FlatChapter) :
    (groupStep total minMs st chapter rest).groups.flatten ++ (groupStep total minMs st chapter rest).current =
      st.groups.flatten ++ st.current ++ [chapter] := by
  rw [groupStep]
  split <;> simp

lemma nonempty_groupStep {st : Grouping} (h : ∀ g ∈ st.groups, g ≠ []) (chapter : FlatChapter) (rest : List FlatChapter) :
    ∀ g ∈ (groupStep total minMs st chapter rest).groups, g ≠ [] := by
  rw [groupStep]
  split
  · intro g hg
    rcases mem_append.mp hg with hold | hnew
    · exact h g hold
    · rw [mem_singleton.mp hnew]
      simp
  · exact h

lemma groupGo_spec (total minMs : Nat) (st : Grouping) (chapters : List FlatChapter) (h : ∀ g ∈ st.groups, g ≠ []) :
    (groupGo total minMs st chapters).groups.flatten ++ (groupGo total minMs st chapters).current =
        st.groups.flatten ++ st.current ++ chapters ∧ ∀ g ∈ (groupGo total minMs st chapters).groups, g ≠ [] := by
  induction chapters generalizing st with
  | nil => exact ⟨by rw [groupGo, append_nil], h⟩
  | cons chapter rest ih =>
    obtain ⟨hflatten, hnonempty⟩ := ih (groupStep total minMs st chapter rest) (nonempty_groupStep h chapter rest)
    refine ⟨?_, hnonempty⟩
    rw [groupGo, hflatten, flatten_groupStep, append_assoc _ [chapter], singleton_append]

lemma partition_closeGroups {st : Grouping} (h : ∀ g ∈ st.groups, g ≠ []) :
    Partition (st.groups.flatten ++ st.current) (closeGroups st) := by
  unfold closeGroups
  split_ifs with hcurrent
  · exact ⟨by rw [hcurrent, append_nil], h⟩
  · cases hlast : st.groups.getLast? with
    | none =>
      rw [getLast?_eq_none_iff.mp hlast]
      refine ⟨by simp, fun g hg => ?_⟩
      rwa [mem_singleton.mp hg]
    | some last =>
      obtain ⟨init, hinit⟩ := getLast?_eq_some_iff.mp hlast
      rw [hinit] at h ⊢
      refine ⟨by simp, fun g hg => ?_⟩
      rw [dropLast_concat] at hg
      rcases mem_append.mp hg with hold | hnew
      · exact h g (mem_append_left _ hold)
      · rw [mem_singleton.mp hnew]
        exact append_ne_nil_of_right_ne_nil _ hcurrent

lemma partition_groupChapters (chapters : List FlatChapter) (total minutes : Nat) :
    Partition chapters (groupChapters chapters total minutes) := by
  unfold groupChapters
  dsimp only
  split_ifs
  · refine ⟨?_, fun g hg => ?_⟩
    · rw [← flatMap_def, flatMap_singleton']
    · obtain ⟨c, -, rfl⟩ := mem_map.mp hg
      exact cons_ne_nil c []
  · obtain ⟨hflatten, hnonempty⟩ := groupGo_spec total (minutes * 60000) {} chapters fun g hg => absurd hg not_mem_nil
    have hclosed := partition_closeGroups hnonempty
    rw [hflatten] at hclosed
    exact hclosed

end Groups

section Ranges

variable (total : Nat) {chapters before rest group : List FlatChapter}

lemma endMs_eq (hchapters : chapters = before ++ group ++ rest) (hne : group ≠ []) (hordered : Ordered chapters) :
    endMs chapters total group = nextStart total rest := by
  obtain ⟨init, last, rfl⟩ := eq_nil_or_concat' group |>.resolve_left hne
  have hsplit : chapters = (before ++ init ++ [last]) ++ rest := by rw [hchapters]; simp
  rw [Ordered, hsplit, pairwise_append] at hordered
  have hupto : ∀ c ∈ before ++ init ++ [last], ¬ last.startMs < c.startMs := by
    intro c hc
    rcases mem_append.mp hc with hearlier | hlast
    · have hless := (pairwise_append.mp hordered.1).2.2 c hearlier last mem_cons_self
      omega
    · rw [mem_singleton.mp hlast]
      exact lt_irrefl _
  have hnone : (before ++ init ++ [last]).find? (fun c => last.startMs < c.startMs) = none := by
    rw [List.find?_eq_none]
    simpa using hupto
  rw [endMs, getLast?_concat, Option.bind_some, hsplit, List.find?_append, hnone]
  cases rest with
  | nil => rfl
  | cons next rest =>
    have hlater := hordered.2.2 last (mem_append_right _ mem_cons_self) next mem_cons_self
    rw [List.find?_cons_of_pos (by simpa using hlater)]
    rfl

def rangeOf (chapters : List FlatChapter) (total : Nat) (group : List FlatChapter) : Nat × Nat :=
  (startMs group, endMs chapters total group)

lemma startMs_lt_next (hne : group ≠ []) (hordered : Ordered (group ++ rest)) (hbelow : ∀ c ∈ group, c.startMs < total) :
    startMs group < nextStart total rest := by
  obtain ⟨c, cs, rfl⟩ := exists_cons_of_ne_nil hne
  cases rest with
  | nil => exact hbelow c mem_cons_self
  | cons next rest => exact (pairwise_append.mp hordered).2.2 c mem_cons_self next mem_cons_self

lemma startMs_eq (hne : group ≠ []) (rest : List FlatChapter) : startMs group = nextStart total (group ++ rest) := by
  obtain ⟨c, cs, rfl⟩ := exists_cons_of_ne_nil hne
  rfl

lemma tiles_groups {groups : List (List FlatChapter)} (hordered : Ordered chapters) (hbelow : ∀ c ∈ chapters, c.startMs < total)
    (hchapters : chapters = before ++ groups.flatten) (hne : ∀ g ∈ groups, g ≠ []) :
    Tiles (nextStart total groups.flatten) total (groups.map (rangeOf chapters total)) := by
  induction groups generalizing before with
  | nil => rfl
  | cons group groups ih =>
    have hgroup : group ≠ [] := hne group mem_cons_self
    have hchapters' : chapters = before ++ group ++ groups.flatten := by rw [hchapters, flatten_cons, append_assoc]
    have hend := endMs_eq total hchapters' hgroup hordered
    have hrest := ih hchapters' fun g hg => hne g (mem_cons_of_mem group hg)
    refine ⟨startMs_eq total hgroup _, ?_, ?_⟩
    · change startMs group < endMs chapters total group
      rw [hend]
      rw [hchapters', append_assoc] at hordered hbelow
      refine startMs_lt_next total hgroup (pairwise_append.mp hordered).2.1 fun c hc => ?_
      exact hbelow c (mem_append_right _ (mem_append_left _ hc))
    · change Tiles (endMs chapters total group) total _
      rw [hend]
      exact hrest

lemma tiles_iff (hne : chapters ≠ []) (hordered : Ordered chapters) (hbelow : ∀ c ∈ chapters, c.startMs < total) (minutes : Nat) :
    Tiles 0 total ((groupChapters chapters total minutes).map (rangeOf chapters total)) ↔ startMs chapters = 0 := by
  obtain ⟨hflatten, hgroups⟩ := partition_groupChapters chapters total minutes
  have hwhole : chapters = [] ++ (groupChapters chapters total minutes).flatten := hflatten.symm
  have htiles := tiles_groups total hordered hbelow hwhole hgroups
  have hstart : nextStart total (groupChapters chapters total minutes).flatten = startMs chapters := by
    rw [hflatten, startMs_eq total hne [], append_nil]
  rw [hstart] at htiles
  constructor
  · intro h
    cases hmap : (groupChapters chapters total minutes).map (rangeOf chapters total) with
    | nil =>
      rw [map_eq_nil_iff.mp hmap] at hflatten
      exact absurd hflatten.symm hne
    | cons range ranges =>
      rw [hmap] at h htiles
      exact htiles.1.symm.trans h.1
  · intro h
    rwa [h] at htiles

end Ranges

end Bookclerk.Chapters
