import Mathlib.Data.List.Sort
import Bookclerk.Str.Edit

namespace Bookclerk.Naming

open Str

inductive Tag where
  | id | titleShort | audibleTitle | audibleSubtitle | title | firstAuthor | author | firstNarrator | narrator
  | firstSeries | seriesNumber | series | minutes | bitrate | samplerate | channels | codec | publisher | categories
  | fileVersion | bookclerkVersion | accountNickname | account | firstTag | tag | locale | year | languageShort
  | language | ui | os | fileDate | pubDate | dateAdded | chCount | chTitle | chNumberPadded | chNumber
deriving DecidableEq

def propertyTags : List (Tag × String × Bool) :=
  [(.id, "id", false), (.titleShort, "title short", true), (.audibleTitle, "audible title", true),
    (.audibleSubtitle, "audible subtitle", true), (.title, "title", true), (.firstAuthor, "first author", true),
    (.author, "author", true), (.firstNarrator, "first narrator", true), (.narrator, "narrator", true),
    (.firstSeries, "first series", true), (.seriesNumber, "series#", true), (.series, "series", true),
    (.minutes, "minutes", true), (.bitrate, "bitrate", true), (.samplerate, "samplerate", true),
    (.channels, "channels", true), (.codec, "codec", true), (.publisher, "publisher", true),
    (.categories, "categories", true), (.fileVersion, "file version", true),
    (.bookclerkVersion, "bookclerk version", true), (.accountNickname, "account nickname", true),
    (.account, "account", true), (.firstTag, "first tag", true), (.tag, "tag", true), (.locale, "locale", true),
    (.year, "year", true), (.languageShort, "language short", true), (.language, "language", true),
    (.ui, "ui", true), (.os, "os", true), (.fileDate, "file date", true), (.pubDate, "pub date", true),
    (.dateAdded, "date added", true), (.chCount, "ch count", true), (.chTitle, "ch title", true),
    (.chNumberPadded, "ch# 0", false), (.chNumber, "ch#", true)]

def canonical (name : Str) : Str :=
  name.filter fun c => !isWhitespace c

def aliases : List (String × Tag) :=
  [("asin", .id), ("authorfirst", .firstAuthor), ("narratorfirst", .firstNarrator), ("chaptertitle", .chTitle),
    ("chapter#", .chNumber), ("chapter#0", .chNumberPadded), ("length", .minutes), ("fulltitle", .title),
    ("narrators", .narrator), ("authors", .author)]

def knownTag (canon : Str) : Option Tag :=
  ((aliases.find? fun a => a.1.toList == canon).map Prod.snd).or
    ((propertyTags.find? fun t => canonical t.2.1.toList == canon).map Prod.fst)

structure TagEntry where
  name : Str
  allowsFormat : Bool
  tag : Tag
deriving DecidableEq

def propertyEntry (t : Tag × String × Bool) : TagEntry :=
  ⟨t.2.1.toList, t.2.2, t.1⟩

def legacyEntries : List TagEntry :=
  [⟨"asin".toList, false, .id⟩, ⟨"author first".toList, true, .firstAuthor⟩, ⟨"narrator first".toList, true, .firstNarrator⟩,
    ⟨"chapter title".toList, true, .chTitle⟩, ⟨"chapter #".toList, true, .chNumber⟩, ⟨"length".toList, true, .minutes⟩,
    ⟨"full title".toList, true, .title⟩, ⟨"narrators".toList, true, .narrator⟩, ⟨"authors".toList, true, .author⟩]

def tagEntries : List TagEntry :=
  (propertyTags.map propertyEntry ++ legacyEntries).insertionSort fun a b => b.name.length ≤ a.name.length

inductive Cond where
  | ifSeries
  | ifPodcast
  | ifPodcastParent
  | ifBookseries
  | ifAbridged
  | has (property : Option Str)
  | is (property check : Option Str)
  | cmp (p1 op p2 : Str)
deriving DecidableEq

def Cond.closeCanon : Cond → Str
  | .ifSeries => "ifseries".toList
  | .ifPodcast => "ifpodcast".toList
  | .ifPodcastParent => "ifpodcastparent".toList
  | .ifBookseries => "ifbookseries".toList
  | .ifAbridged => "ifabridged".toList
  | .has _ => "has".toList
  | .is _ _ => "is".toList
  | .cmp _ _ _ => "cmp".toList

inductive Node where
  | literal (text : Str)
  | property (tag : Tag) (format : Option Str)
  | conditional (not : Bool) (cond : Cond) (children : List Node)

def matchName : Str → Str → Option Str
  | [], s => some s
  | ' ' :: name, s => matchName name (trimStart s)
  | c :: name, d :: s => if c = d then matchName name s else none
  | _ :: _, [] => none

inductive FormatMode where
  | plain
  | escaped
  | quoted (quote : Char)

/-- The text up to the `]` that ends a format; quotes and escapes hide brackets. -/
def scanFormat : FormatMode → Str → Option (Str × Str)
  | _, [] => none
  | .escaped, c :: s => if c = '\n' then none else (scanFormat .plain s).map fun r => (c :: r.1, r.2)
  | .quoted q, c :: s => (scanFormat (if c = q then .plain else .quoted q) s).map fun r => (c :: r.1, r.2)
  | .plain, c :: s =>
    if c = ']' then some ([], s)
    else
      let mode := if c = '\\' then .escaped else if c = '\'' ∨ c = '"' then .quoted c else .plain
      (scanFormat mode s).map fun r => (c :: r.1, r.2)

def matchEntry (entry : TagEntry) (s : Str) : Option (Option Str × Str) :=
  (matchName entry.name s).bind fun r =>
    if entry.allowsFormat then
      match trimStart r with
      | '[' :: body =>
        (scanFormat .plain body).bind fun found =>
          (matchName " >".toList found.2).map fun rest => (some found.1, rest)
      | after => (matchName ">".toList after).map fun rest => (none, rest)
    else (matchName ">".toList r).map fun rest => (none, rest)

def matchProperty : Str → Option ((Tag × Option Str) × Str)
  | '<' :: s =>
    tagEntries.findSome? fun entry => (matchEntry entry s).map fun found => ((entry.tag, found.1), found.2)
  | _ => none

def boolConditionals : List (String × Cond) :=
  [("if podcastparent->", .ifPodcastParent), ("if bookseries->", .ifBookseries), ("if podcast->", .ifPodcast),
    ("if series->", .ifSeries), ("if abridged->", .ifAbridged)]

def matchNot : Str → Bool × Str
  | '!' :: s => (true, s)
  | s => (false, s)

def findArrow : Nat → Option Char → Str → Option (Str × Str)
  | _, _, [] => none
  | _, _, ['\\'] => none
  | depth, quote, '\\' :: c :: s => (findArrow depth quote s).map fun r => ('\\' :: c :: r.1, r.2)
  | depth, some q, c :: s => (findArrow depth (if c = q then none else some q) s).map fun r => (c :: r.1, r.2)
  | 0, none, '-' :: '>' :: s => some ([], s)
  | depth, none, c :: s =>
    let quote := if c = '\'' ∨ c = '"' then some c else none
    let depth := if c = '[' then depth + 1 else if c = ']' then depth - 1 else depth
    (findArrow depth quote s).map fun r => (c :: r.1, r.2)

def parseOptionalProperty : Str → Option (Option Str)
  | [] => some none
  | c :: s =>
    if isWhitespace c then
      some (if trim (c :: s) = [] then none else some (trim (c :: s)))
    else none

def lastGroup (i depth : Nat) (quote : Option Char) (start : Nat) (last : Option (Nat × Nat)) : Str → Option (Nat × Nat)
  | [] => last
  | ['\\'] => last
  | '\\' :: _ :: s => lastGroup (i + 2) depth quote start last s
  | c :: s =>
    match quote with
    | some q => lastGroup (i + 1) depth (if c = q then none else some q) start last s
    | none =>
      if c = '\'' ∨ c = '"' then lastGroup (i + 1) depth (some c) start last s
      else if c = '[' then lastGroup (i + 1) (depth + 1) none (if depth = 0 then i else start) last s
      else if c = ']' ∧ 0 < depth then
        lastGroup (i + 1) (depth - 1) none start (if depth = 1 then some (start, i + 1) else last) s
      else lastGroup (i + 1) depth none start last s

def parseIsBody : Str → Option (Option Str × Option Str)
  | [] => some (none, none)
  | c :: s =>
    if isWhitespace c then
      let t := trim (c :: s)
      if t = [] then some (none, none)
      else
        match lastGroup 0 0 none 0 none t with
        | some (start, stop) =>
          if stop = t.length ∧ trimEnd (t.take start) ≠ [] then
            some (some (trimEnd (t.take start)), some (trimStart ((t.drop (start + 1)).dropLast)))
          else some (some t, none)
        | none => some (some t, none)
    else none

def operators : List String :=
  [":not_contains:", ":proper_superset:", ":proper_subset:", ":superset:", ":contains:", ":disjoint:", ":overlaps:", ":subset:",
    ":equals:", ":not_in:", ":in:", "&&!", "⋂!", "⋂̸", ">=>", ">->", "<=<", "<-<", "!>>", "!<<", ">>", "<<", "&&", "∋", "∌",
    "∈", "∉", "⊆", "⊇", "⊂", "⊃", "⋂", "≡", "==", "#!=", "#>=", "#<=", "#=", "#>", "#<", "≠", "≥", "≤", ">=", "<=", ">", "<",
    "=~", "!~", "~", "!=", "!", "="]

def isOperator (tok : Str) : Bool :=
  operators.any fun op => op.toList == tok

structure TokenScan where
  depth : Nat := 0
  quote : Option Char := none
  escape : Bool := false
  start : Option Nat := none

def topLevelTokens (i : Nat) (st : TokenScan) : Str → List (Nat × Nat)
  | [] => (st.start.map fun b => (b, i)).toList
  | c :: s =>
    if st.escape then topLevelTokens (i + 1) { st with escape := false } s
    else if st.quote = none ∧ st.depth = 0 ∧ isWhitespace c then
      (st.start.map fun b => (b, i)).toList ++ topLevelTokens (i + 1) { st with start := none } s
    else
      let st := { st with start := some (st.start.getD i) }
      if c = '\\' then topLevelTokens (i + 1) { st with escape := true } s
      else
        match st.quote with
        | some q => topLevelTokens (i + 1) { st with quote := if c = q then none else some q } s
        | none =>
          if c = '\'' ∨ c = '"' then topLevelTokens (i + 1) { st with quote := some c } s
          else if c = '[' then topLevelTokens (i + 1) { st with depth := st.depth + 1 } s
          else if c = ']' then topLevelTokens (i + 1) { st with depth := st.depth - 1 } s
          else topLevelTokens (i + 1) st s

def parseCmpBody : Str → Option (Str × Str × Str)
  | [] => none
  | c :: s =>
    if isWhitespace c then
      let t := trim (c :: s)
      let word (range : Nat × Nat) := (t.take range.2).drop range.1
      ((topLevelTokens 0 {} t).tail.find? fun range => isOperator (word range)).bind fun range =>
        let p1 := trim (t.take range.1)
        let p2 := trim (t.drop range.2)
        if p1 = [] ∨ p2 = [] then none else some (p1, word range, p2)
    else none

def matchChecked (s : Str) : Option (Cond × Str) :=
  let body (name : String) := (matchName name.toList s).bind (findArrow 0 none)
  ((body "has").bind fun r => (parseOptionalProperty r.1).map fun p => (.has p, r.2)).or <|
    ((body "is").bind fun r => (parseIsBody r.1).map fun p => (.is p.1 p.2, r.2)).or <|
      (body "cmp").bind fun r => (parseCmpBody r.1).map fun p => (.cmp p.1 p.2.1 p.2.2, r.2)

def matchOpenConditional : Str → Option ((Bool × Cond) × Str)
  | '<' :: s =>
    let r := matchNot s
    ((boolConditionals.findSome? fun b => (matchName b.1.toList r.2).map fun rest => (b.2, rest)).or (matchChecked r.2)).map
      fun found => ((r.1, found.1), found.2)
  | _ => none

/-- `none` for the legacy `<end if>`, which closes whatever legacy condition is open. -/
def matchClose (s : Str) : Option (Option Str × Str) :=
  match matchName "<end if>".toList s with
  | some rest => some (none, rest)
  | none =>
    match s with
    | '<' :: '-' :: body =>
      (splitOnce '>' body).bind fun found => if found.1 = [] then none else some (some (canonical found.1), found.2)
    | _ => none

def legacyConditions : List (String × Cond) :=
  [("series", .ifSeries), ("podcast", .ifPodcast), ("podcastparent", .ifPodcastParent), ("bookseries", .ifBookseries),
    ("abridged", .ifAbridged), ("subtitle", .has (some "audible subtitle".toList)), ("narrator", .has (some "narrator".toList)),
    ("narrators", .has (some "narrator".toList)), ("categories", .has (some "categories".toList))]

def isAsciiLetter (c : Char) : Bool :=
  ('a' ≤ c && c ≤ 'z') || ('A' ≤ c && c ≤ 'Z')

def matchLegacyOpen (s : Str) : Option (Cond × Str) :=
  (matchName "<if".toList s).bind fun r =>
    let body := trimStart r
    if body = r then none
    else
      let name := toAsciiLowercase (body.takeWhile isAsciiLetter)
      (matchName ">".toList (body.dropWhile isAsciiLetter)).bind fun rest =>
        (legacyConditions.find? fun l => l.1.toList == name).map fun l => (l.2, rest)

def matchPercent : Str → Option (Tag × Str)
  | '%' :: s =>
    (splitOnce '%' s).bind fun found =>
      if found.1 = [] then none else (knownTag (canonical found.1)).map fun tag => (tag, found.2)
  | _ => none

structure Frame where
  cond : Option (Bool × Cond) := none
  legacy : Bool := false
  children : List Node := []

def Frame.push (frame : Frame) (node : Node) : Frame :=
  { frame with children := frame.children ++ [node] }

def wrapAndAttach (parent frame : Frame) : Frame :=
  match frame.cond with
  | some (not, cond) => parent.push (.conditional not cond frame.children)
  | none => parent.push (.literal [])

def popFrame : List Frame → List Frame
  | frame :: parent :: rest => wrapAndAttach parent frame :: rest
  | stack => stack

def Frame.closedBy (frame : Frame) (closer : Option Str) : Bool :=
  match frame.cond, closer with
  | some _, none => frame.legacy
  | some (_, cond), some canon => !frame.legacy && cond.closeCanon == canon
  | none, _ => false

def closeFrame (stack : List Frame) (closer : Option Str) : List Frame :=
  match stack.findIdx? fun frame => frame.closedBy closer with
  | some i => popFrame^[i + 1] stack
  | none => stack

def pushNode (node : Node) : List Frame → List Frame
  | top :: rest => top.push node :: rest
  | [] => []

def flushLit (lit : Str) (stack : List Frame) : List Frame :=
  if lit = [] then stack else pushNode (.literal lit) stack

def matchTag (s : Str) : Option ((List Frame → List Frame) × Str) :=
  ((matchClose s).map fun r => (fun stack => closeFrame stack r.1, r.2)).or <|
    ((matchOpenConditional s).map fun r => (fun stack => { cond := some r.1 } :: stack, r.2)).or <|
      ((matchProperty s).map fun r => (pushNode (.property r.1.1 r.1.2), r.2)).or <|
        ((matchLegacyOpen s).map fun r => (fun stack => { cond := some (false, r.1), legacy := true } :: stack, r.2)).or <|
          (matchPercent s).map fun r => (pushNode (.property r.1 none), r.2)

def parseGo : Nat → List Frame → Str → Str → List Frame
  | 0, stack, lit, _ => flushLit lit stack
  | _, stack, lit, [] => flushLit lit stack
  | fuel + 1, stack, lit, c :: s =>
    match matchTag (c :: s) with
    | some (act, rest) => parseGo fuel (act (flushLit lit stack)) [] rest
    | none => parseGo fuel stack (lit ++ [c]) s

def unwind (stack : List Frame) : List Node :=
  match popFrame^[stack.length - 1] stack with
  | root :: _ => root.children
  | [] => []

def parseTemplate (template : Str) : List Node :=
  unwind (parseGo template.length [{}] [] template)

end Bookclerk.Naming
