import Bookclerk.Sql.Grammar

namespace Bookclerk.Sql

open Lexical P

section Productions

variable (fuel : Nat) (knot : Knot)

def parenIdentList (what : String) : P Unit := do
  if ← takePunct .lparen then
    let _ ← identList fuel
    require what (takePunct .rparen)
  else
    pure ()

def denyNestedDml : P Unit := do
  if ← anyKw [.INSERT, .UPDATE, .DELETE] then fail "nested DML in WITH is not SQL v1" else pure ()

def parseV1CteBody : P Unit := do
  denyNestedDml
  knot.select

def parseV1Cte : P Unit := do
  let _ ← parseV1Ident
  parenIdentList fuel "CTE column list"
  require "CTE AS" (takeKw .AS)
  let _ ← takeKw .NOT
  let _ ← takeKw .MATERIALIZED
  require "CTE body" (takePunct .lparen)
  balancedInner "CTE body" do
    parseV1CteBody knot
    endOfBody "CTE body trailing tokens"

def parseV1CteList : P Unit :=
  node .cteList do
    let _ ← takeKw .RECURSIVE
    let _ ← commaList fuel (parseV1Cte fuel knot)
    pure ()

def parseV1Returning : P Unit :=
  node .returning do
    if ← takeKw .RETURNING then
      if ← takePunct .star then pure ()
      else
        let _ ← commaList fuel do
          knot.expr
          optClause .AS do
            let _ ← parseV1Ident
            pure ()
        pure ()
    else
      pure ()

def parseV1InsertSource : P Unit := do
  if ← takeKw .VALUES then parseV1ValuesTuples fuel knot
  else if ← takeKw .WITH then
    parseV1CteList fuel knot
    knot.select
  else if ← peekKw .SELECT then knot.select
  else fail "INSERT VALUES or SELECT"

def parseV1Insert : P Unit :=
  node .insert do
    require "INSERT" (takeKw .INSERT)
    optClause .OR (require "INSERT OR IGNORE" (takeKw .IGNORE))
    require "INSERT INTO" (takeKw .INTO)
    let _ ← parseV1TableName
    parenIdentList fuel "INSERT column list"
    parseV1InsertSource fuel knot
    parseV1Returning fuel knot

def parseV1Assignment : P Unit := do
  let _ ← parseV1Ident
  require "SET =" (takePunct .eq)
  knot.expr

def parseV1Update : P Unit :=
  node .update do
    require "UPDATE" (takeKw .UPDATE)
    let _ ← parseV1TableName
    require "UPDATE SET" (takeKw .SET)
    let _ ← commaList fuel (parseV1Assignment knot)
    optClause .WHERE knot.expr
    parseV1Returning fuel knot

def parseV1Delete : P Unit :=
  node .delete do
    require "DELETE FROM" (takeKw .DELETE)
    require "DELETE FROM" (takeKw .FROM)
    let _ ← parseV1TableName
    optClause .WHERE knot.expr
    parseV1Returning fuel knot

def parseV1Statement : P Unit :=
  node .statement do
    optClause .WITH (parseV1CteList fuel knot)
    if ← anyKw [.SELECT, .VALUES] then knot.select
    else if ← peekKw .INSERT then parseV1Insert fuel knot
    else if ← peekKw .UPDATE then parseV1Update fuel knot
    else if ← peekKw .DELETE then parseV1Delete fuel knot
    else fail "unsupported statement form"

end Productions

def parsePositiveSqlV1 (sql : Text) : Except V1Error (List Tree) :=
  let fuel := sql.length + 1
  match (do parseV1Statement fuel (v1Knot fuel); endOfBody "trailing tokens are not SQL v1" : P Unit) (.start sql) with
  | .error e => .error e
  | .ok (_, ts, _) => .ok ts

structure KeywordWalk where
  depth : Nat := 0
  found : List (Nat × Text) := []

def keywordStep (w : KeywordWalk) (i : Nat) (t : Text) : KeywordWalk × Nat :=
  match t with
  | [] => (w, 1)
  | c :: rest =>
    if c = byte '(' then ({ w with depth := w.depth + 1 }, 1)
    else if c = byte ')' then ({ w with depth := w.depth - 1 }, 1)
    else if w.depth = 0 ∧ identStart c then
      let word := c :: rest.takeWhile identCont
      ({ w with found := w.found ++ [(i, word)] }, word.length)
    else (w, 1)

def topLevelKeywords (sql : Text) : List (Nat × Text) :=
  (forEachUnquoted keywordStep .code 0 0 {} sql).found

def firstTopLevelKeyword (sql : Text) : Option Text :=
  (topLevelKeywords sql).head?.map fun kw => toAsciiUppercase kw.2

def hasTopLevelKeyword (sql kw : Text) : Bool :=
  (topLevelKeywords sql).any fun found => eqIgnoreAsciiCase found.2 kw

def isDdlVerb (verb : Text) : Bool :=
  ["CREATE", "ALTER", "DROP"].any fun v => eqIgnoreAsciiCase verb (utf8 v)

def statementIsDdl (sql : Text) : Bool :=
  (firstTopLevelKeyword sql).any isDdlVerb

def placeholderStep (n : Nat) (_ : Nat) (t : Text) : Nat × Nat :=
  if t.head? = some (byte '?') then
    if t.tail.head? = some (byte '?') then (n, 2) else (n + 1, 1)
  else (n, 1)

def countPlaceholders (sql : Text) : Nat :=
  forEachUnquoted placeholderStep .code 0 0 0 sql

def nonV1PlaceholderStep (err : Option String) (_ : Nat) (t : Text) : Option String × Nat :=
  let digitNext := t.tail.head?.any isAsciiDigit
  if err.isSome then (err, 1)
  else if t.head? = some (byte '?') then
    if t.tail.head? = some (byte '?') then (none, 2)
    else (if digitNext then some "?NNN bind placeholders are not SQL v1; use bare ?" else none, 1)
  else if t.head? = some (byte '$') ∧ digitNext then
    (some "$n bind placeholders are not SQL v1; use bare ?", 1)
  else (none, 1)

def denyNonV1Placeholders (sql : Text) : Except V1Error Unit :=
  match forEachUnquoted nonV1PlaceholderStep .code 0 0 none sql with
  | some what => .error (.grammar (utf8 what))
  | none => .ok ()

def Scan.skipMaterialized (s : Scan) : Scan :=
  if keywordAt s Kw.NOT.text then
    let t := (s.advance 3).skip
    if keywordAt t Kw.MATERIALIZED.text then (t.advance 12).skip else s
  else if keywordAt s Kw.MATERIALIZED.text then (s.advance 12).skip
  else s

def Scan.skipCte (s : Scan) : Option Scan := do
  let name ← skipIdentOrQuoted s.rest
  let s := (s.advance name).skip
  let columns ← if s.rest.head? = some (byte '(') then skipBalancedParens s.rest else some 0
  let s := (s.advance columns).skip
  if keywordAt s Kw.AS.text then
    let s := (s.advance 2).skip.skipMaterialized
    let body ← skipBalancedParens s.rest
    some (s.advance body).skip
  else none

def Scan.skipCtes : Nat → Scan → Option Scan
  | 0, _ => none
  | n + 1, s => do
    let s ← s.skipCte
    if s.rest.head? = some (byte ',') then Scan.skipCtes n (s.advance 1).skip else some s

def sqlAfterLeadingCtes (sql : Text) : Text :=
  let s := (Scan.start sql).skip
  if keywordAt s Kw.WITH.text then
    let s := (s.advance 4).skip
    let s := if keywordAt s Kw.RECURSIVE.text then (s.advance 9).skip else s
    match s.skipCtes (sql.length + 1) with
    | some s => s.rest
    | none => sql
  else sql

inductive StatementKind where
  | select
  | execute
  | returning
  deriving DecidableEq

/-- `guest_statement_kind`, with which the host overwrites the `kind` of each statement. -/
def guestStatementKind (sql : Text) : StatementKind :=
  let main := sqlAfterLeadingCtes sql
  if hasTopLevelKeyword main (utf8 "RETURNING") then .returning
  else if firstTopLevelKeyword main = some (utf8 "SELECT") ∨ firstTopLevelKeyword main = some (utf8 "VALUES") then .select
  else .execute

def denyInsertConflict : P Unit := do
  if ← takeKw .INSERT then
    if ← takeKw .OR then
      if ← takeKw .IGNORE then pure ()
      else
        let conflict := (← readIdent).getD (utf8 "unknown")
        P.throw (.grammar (utf8 "INSERT OR " ++ conflict ++ utf8 " is not portable; use INSERT OR IGNORE"))
    else pure ()
  else pure ()

def runP {α : Type} (p : P α) (sql : Text) : Except V1Error α :=
  (p (.start sql)).map (·.1)

def denyNonV1Insert (sql : Text) : Except V1Error Unit :=
  runP denyInsertConflict (sqlAfterLeadingCtes sql)

def utf8CharLen (lead : UInt8) : Nat :=
  if lead < 0x80 then 1 else if lead < 0xE0 then 2 else if lead < 0xF0 then 3 else 4

/-- One round of `deny_binding_v1_operators` at a token. An unterminated quoted name leaves the scan
where it is, and the source then loops for ever. -/
def bindingOperatorRound (s : Scan) (c : UInt8) : Except V1Error Scan :=
  if c = byte '\'' then .ok (s.advance (1 + Scan.quotedStringLen c 0 s.rest.tail))
  else if c = byte '"' ∨ c = backtick ∨ c = byte '[' then .ok (s.advance ((skipIdentOrQuoted s.rest).getD 0))
  else
    match [Kw.GLOB, .COLLATE, .MATCH, .REGEXP].find? fun kw => keywordAt s kw.text with
    | some kw => .error (.grammar (kw.text ++ utf8 " is not a Bookclerk SQL v1 operator"))
    | none => .ok (s.advance ((skipIdentOrQuoted s.rest).getD (utf8CharLen c)))

def bindingOperatorLoop : Nat → Scan → Except V1Error Unit
  | 0, _ => .error .outOfFuel
  | n + 1, s =>
    match s.skip.rest with
    | [] => .ok ()
    | c :: _ => do
      let s ← bindingOperatorRound s.skip c
      bindingOperatorLoop n s

def denyBindingV1Operators (sql : Text) : Except V1Error Unit :=
  bindingOperatorLoop (sql.length + 1) (.start sql)

def deniedVerbs : List String :=
  ["ALTER", "ANALYZE", "ATTACH", "BEGIN", "CALL", "CHECKPOINT", "CLUSTER", "COMMENT", "COMMIT", "COPY", "CREATE",
    "DEALLOCATE", "DECLARE", "DETACH", "DISCARD", "DO", "DROP", "END", "EXECUTE", "EXPLAIN", "GRANT", "INSTALL",
    "LISTEN", "LOAD", "LOCK", "NOTIFY", "PRAGMA", "PREPARE", "REINDEX", "RELEASE", "REPLACE", "REVOKE", "ROLLBACK",
    "SAVEPOINT", "SECURITY", "SET", "START", "TRUNCATE", "UNLISTEN", "VACUUM"]

def validateSqlV1Grammar (sql : Text) (bindingOwned : Bool) : Except V1Error Unit := do
  denyNonV1Placeholders sql
  denyNonV1Insert sql
  if bindingOwned then denyBindingV1Operators sql
  let verb := (firstTopLevelKeyword sql).getD []
  if isDdlVerb verb then .ok ()
  else if deniedVerbs.any fun v => eqIgnoreAsciiCase verb (utf8 v) then
    .error (.grammar (utf8 "disallowed SQL verb " ++ verb))
  else
    let _ ← parsePositiveSqlV1 sql
    .ok ()

end Bookclerk.Sql
