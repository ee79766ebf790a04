import Bookclerk.Sql.Parser

namespace Bookclerk.Sql

open Lexical P

structure Knot where
  expr : P Unit
  select : P Unit

def atQuotedName (s : Scan) : Bool :=
  s.rest.head? == some (byte '"') || s.rest.head? == some backtick || s.rest.head? == some (byte '[')

def denyQuotedIdent : P Unit := do
  skip
  if ← look atQuotedName then
    fail "quoted identifiers are not SQL v1; use unquoted names"
  else
    pure ()

def sqlV1MaxIdentBytes : Nat := 63

def rejectOversizeIdent (ident : Text) : P Unit :=
  if ident.length ≤ sqlV1MaxIdentBytes then pure ()
  else fail "identifier exceeds 63 bytes after case fold"

def parseV1Ident : P Text := do
  denyQuotedIdent
  match ← readIdent with
  | none => fail "identifier required"
  | some ident =>
    rejectOversizeIdent ident
    pure ident

def parseV1TableName : P Text := do
  let name ← parseV1Ident
  if ← peekByte (byte '.') then fail "schema-qualified names are not SQL v1"
  else pure name

def denyDoubleColon : P Unit := do
  skip
  if ← look (fun s => (utf8 "::").isPrefixOf s.rest) then
    fail ":: casts are not SQL v1; use CAST(x AS TYPE)"
  else
    pure ()

def anyKw (kws : List Kw) : P Bool := do
  skip
  look (fun s => kws.any (fun kw => keywordAt s kw.text))

def parseV1OptionalAlias : P Bool := do
  if ← anyKw [.FROM, .WHERE, .GROUP, .HAVING, .ORDER, .LIMIT, .OFFSET, .UNION, .EXCEPT, .INTERSECT,
      .RETURNING, .JOIN, .INNER, .LEFT, .CROSS, .RIGHT, .FULL, .ON, .USING, .AS] then
    pure false
  else
    skip
    if ← look atQuotedName then
      pure false
    else
      let ident ← readIdent
      pure ident.isSome

def optAliasAfterAs : P Unit := do
  if ← takeKw .AS then
    let _ ← parseV1Ident
    pure ()
  else
    let _ ← parseV1OptionalAlias
    pure ()

def require (what : String) (p : P Bool) : P Unit := do
  if ← p then pure () else fail what

def commaList (fuel : Nat) (item : P Unit) : P Nat :=
  loop fuel do
    item
    takePunct .comma

def optClause (kw : Kw) (body : P Unit) : P Unit := do
  if ← takeKw kw then body else pure ()

def whileDo (fuel : Nat) (test : P Bool) (body : P Unit) : P Nat :=
  loop fuel do
    if ← test then
      body
      pure true
    else
      pure false

section Productions

variable (fuel : Nat) (knot : Knot)

def identList : P Nat :=
  commaList fuel do
    let _ ← parseV1Ident
    pure ()

def digitsLen (t : Text) : Nat :=
  (t.takeWhile isAsciiDigit).length

def numberLen (t : Text) : Nat :=
  let dot := if t.head? = some (byte '.') then 1 else 0
  let whole := digitsLen (t.drop dot)
  let tail := t.drop (dot + whole)
  let fraction := digitsLen (tail.drop 1)
  if tail.head? = some (byte '.') ∧ fraction ≠ 0 then dot + whole + 1 + fraction
  else if whole = 0 then 0 else dot + whole

def takeV1Number : P Bool := do
  skip
  let n ← look (fun s => numberLen s.rest)
  if n = 0 then
    pure false
  else
    lexeme .number n
    pure true

def takeV1String : P Bool := do
  skip
  if ← look (fun s => s.rest.head? == some (byte '\'')) then
    let n ← look (fun s => 1 + Scan.quotedStringLen (byte '\'') 0 (s.rest.drop 1))
    lexeme .string n
    pure true
  else
    pure false

def blobHexLen (t : Text) : Nat :=
  let hex := ((t.drop 2).takeWhile isAsciiHexdigit).length
  if eqIgnoreAsciiCase (t.take 1) (utf8 "x") ∧ t[1]? = some (byte '\'') ∧ t[2 + hex]? = some (byte '\'') then 3 + hex
  else 0

def takeV1BlobHex : P Bool := do
  skip
  let n ← look (fun s => blobHexLen s.rest)
  if n = 0 then
    pure false
  else
    lexeme .blob n
    pure true

def sqlV1JsonObjectMaxArgs : Nat := 32

def sqlV1HelperArity (name : Text) : Option (Nat × Nat) :=
  if name ∈ ["ifnull", "nullif"].map utf8 then some (2, 2)
  else if name = utf8 "coalesce" then some (2, 32)
  else if name ∈ ["min", "max"].map utf8 then some (1, 32)
  else if name ∈ ["sum", "avg", "abs", "length", "lower", "upper", "json_valid", "count"].map utf8 then some (1, 1)
  else if name = utf8 "round" then some (1, 2)
  else if name = utf8 "json_extract" then some (2, 2)
  else if name = utf8 "json_object" then some (2, sqlV1JsonObjectMaxArgs)
  else if name = utf8 "replace" then some (3, 3)
  else if name = utf8 "substr" then some (2, 3)
  else if name = utf8 "trim" then some (1, 2)
  else if name ∈ ["json", "julianday"].map utf8 then some (1, 1)
  else none

def sqlV1HelperArityOk (name : Text) (n : Nat) : Bool :=
  match sqlV1HelperArity (toAsciiLowercase name) with
  | none => true
  | some (min, max) => min ≤ n && n ≤ max && !(eqIgnoreAsciiCase name (utf8 "json_object") && n % 2 != 0)

def checkV1Arity (name : Text) (n : Nat) : P Unit :=
  if sqlV1HelperArityOk name n then pure () else throw (.arity name n)

def parseV1CallArgs (name : Text) : P Unit :=
  node .callArgs do
    if ← takePunct .rparen then checkV1Arity name 0
    else if ← takePunct .star then
      require "count(*)" (takePunct .rparen)
      checkV1Arity name 1
    else
      let n ← commaList fuel knot.expr
      require "call )" (takePunct .rparen)
      checkV1Arity name n

def parseV1WhenThen : P Unit := do
  knot.expr
  require "CASE WHEN THEN" (takeKw .THEN)
  knot.expr

def parseV1CaseOperand : P Unit := do
  if ← peekKw .WHEN then pure () else knot.expr

def parseV1Case : P Unit :=
  node .caseExpr do
    parseV1CaseOperand knot
    let runs ← whileDo fuel (takeKw .WHEN) (parseV1WhenThen knot)
    if runs = 1 then fail "CASE WHEN"
    else
      optClause .ELSE knot.expr
      require "CASE END" (takeKw .END)

def subqueryOr (other : P Unit) : P Unit := do
  if ← anyKw [.SELECT, .WITH, .VALUES] then knot.select else other

def castTypes : List Text :=
  ["integer", "real", "text", "blob", "boolean"].map utf8

def parseV1Cast : P Unit := do
  require "CAST (" (takePunct .lparen)
  knot.expr
  require "CAST AS" (takeKw .AS)
  let ty ← parseV1Ident
  if ty ∈ castTypes then require "CAST )" (takePunct .rparen)
  else fail "CAST type must be INTEGER, REAL, TEXT, BLOB, or BOOLEAN"

def parseV1OptCall (name : Text) : P Unit := do
  if ← takePunct .lparen then
    parseV1CallArgs fuel knot name
    if ← anyKw [.OVER, .FILTER] then fail "OVER/FILTER are not SQL v1"
    else if ← peekKw .SIMILAR then fail "SIMILAR is not SQL v1"
    else pure ()
  else
    pure ()

def parseV1NameOrCall : P Unit := do
  denyQuotedIdent
  let name ← parseV1Ident
  if ← takePunct .dot then
    if ← takePunct .star then pure ()
    else
      let _ ← parseV1Ident
      parseV1OptCall fuel knot name
  else
    parseV1OptCall fuel knot name

def takeAnyKw (kws : List Kw) : P Bool :=
  match kws with
  | [] => pure false
  | kw :: kws => do
    if ← takeKw kw then pure true else takeAnyKw kws

def takeAnyPunct (ps : List Punct) : P Bool :=
  match ps with
  | [] => pure false
  | p :: ps => do
    if ← takePunct p then pure true else takeAnyPunct ps

def parseV1Atom : P Unit :=
  node .atom do
    denyDoubleColon
    if ← takeAnyKw [.NULL, .TRUE, .FALSE] then pure ()
    else if ← takeKw .EXISTS then
      require "EXISTS (" (takePunct .lparen)
      balancedInner "EXISTS subquery" do
        knot.select
        dropBody
    else if ← takeKw .CASE then parseV1Case fuel knot
    else if ← takeKw .CAST then parseV1Cast knot
    else if ← takePunct .question then pure ()
    else if ← takePunct .lparen then
      balancedInner "parenthesized expr" do
        subqueryOr knot knot.expr
        endOfBody "parenthesized trailing tokens"
    else if ← takeV1BlobHex then pure ()
    else if ← takeV1Number then pure ()
    else if ← takeV1String then pure ()
    else parseV1NameOrCall fuel knot

def parseV1Prefix : Nat → P Unit
  | 0 => throw .outOfFuel
  | n + 1 => node .signed do
    skip
    denyDoubleColon
    if ← takeAnyPunct [.plus, .minus] then parseV1Prefix n else parseV1Atom fuel knot

/-- `parse_v1_concat`, `parse_v1_add` and `parse_v1_mul`: operands between operators of one level. -/
def binaryLevel (p : Production) (ops : List Punct) (operand : P Unit) : P Unit :=
  node p do
    operand
    let _ ← whileDo fuel (takeAnyPunct ops) operand
    pure ()

def parseV1Mul : P Unit :=
  binaryLevel fuel .mul [.star, .slash, .percent] (parseV1Prefix fuel knot fuel)

def parseV1Add : P Unit :=
  binaryLevel fuel .add [.plus, .minus] (parseV1Mul fuel knot)

def parseV1Concat : P Unit :=
  binaryLevel fuel .concat [.concat] (parseV1Add fuel knot)

def parseV1InList : P Unit :=
  node .inList do
    require "IN (" (takePunct .lparen)
    balancedInner "IN list" do
      subqueryOr knot do
        let _ ← commaList fuel knot.expr
        pure ()
      endOfBody "IN list trailing tokens"

def parseV1Between : P Unit := do
  parseV1Concat fuel knot
  require "BETWEEN AND" (takeKw .AND)
  parseV1Concat fuel knot

def takeCmpOp : P Bool :=
  takeAnyPunct [.le, .ge, .ltgt, .ne, .eq, .lt, .gt]

def parseV1Cmp : P Unit :=
  node .cmp do
    parseV1Concat fuel knot
    denyDoubleColon
    if ← takeKw .IS then
      let _ ← takeKw .NOT
      require "IS [NOT] NULL" (takeKw .NULL)
    else if ← takeKw .NOT then
      if ← takeKw .LIKE then
        if ← peekKw .ILIKE then fail "ILIKE is not SQL v1" else parseV1Concat fuel knot
      else if ← takeKw .IN then parseV1InList fuel knot
      else if ← takeKw .BETWEEN then parseV1Between fuel knot
      else fail "NOT LIKE/IN/BETWEEN"
    else if ← peekKw .ILIKE then fail "ILIKE is not SQL v1"
    else if ← takeKw .LIKE then parseV1Concat fuel knot
    else if ← takeKw .IN then parseV1InList fuel knot
    else if ← takeKw .BETWEEN then parseV1Between fuel knot
    else if ← anyKw [.GLOB, .MATCH, .REGEXP, .COLLATE] then
      fail "GLOB/MATCH/REGEXP/COLLATE are not SQL v1 operators"
    else if ← takeCmpOp then parseV1Concat fuel knot
    else pure ()

def parseV1Not : Nat → P Unit
  | 0 => throw .outOfFuel
  | n + 1 => node .not do
    if ← takeKw .NOT then parseV1Not n else parseV1Cmp fuel knot

def keywordLevel (p : Production) (kw : Kw) (operand : P Unit) : P Unit :=
  node p do
    operand
    let _ ← whileDo fuel (takeKw kw) operand
    pure ()

def parseV1And : P Unit :=
  keywordLevel fuel .and .AND (parseV1Not fuel knot fuel)

def parseV1Or : P Unit :=
  keywordLevel fuel .or .OR (parseV1And fuel knot)

def parseV1Expr : P Unit :=
  node .expr do
    denyDoubleColon
    parseV1Or fuel knot

def parseV1SelectList : P Unit :=
  node .selectList do
    let _ ← commaList fuel do
      if ← takePunct .star then pure ()
      else
        knot.expr
        optAliasAfterAs
    pure ()

def parseV1FromItem : P Unit :=
  node .fromItem do
    if ← takePunct .lparen then
      balancedInner "subquery" do
        knot.select
        endOfBody "subquery trailing tokens"
      let _ ← takeKw .AS
      let _ ← parseV1OptionalAlias
      pure ()
    else
      let _ ← parseV1TableName
      if ← takePunct .lparen then fail "table functions are not SQL v1" else optAliasAfterAs

def leftJoin : P Unit := do
  let _ ← takeKw .OUTER
  require "LEFT JOIN" (takeKw .JOIN)

def takeJoinKw : P Bool := do
  let _ ← takeKw .INNER
  if ← takeKw .LEFT then
    leftJoin
    pure true
  else if ← takeKw .CROSS then
    require "CROSS JOIN" (takeKw .JOIN)
    pure true
  else if ← anyKw [.RIGHT, .FULL] then fail "RIGHT/FULL JOIN is not SQL v1"
  else takeKw .JOIN

def parseV1Join : P Unit := do
  parseV1FromItem knot
  if ← takeKw .ON then knot.expr
  else if ← takeKw .USING then
    require "USING (" (takePunct .lparen)
    let _ ← identList fuel
    require "USING )" (takePunct .rparen)
  else pure ()

def parseV1Joins : P Unit :=
  node .joins do
    let _ ← whileDo fuel takeJoinKw (parseV1Join fuel knot)
    pure ()

def takeDistinct : P Unit := do
  if ← takeKw .DISTINCT then
    if ← peekKw .ON then fail "DISTINCT ON is not SQL v1" else pure ()
  else
    let _ ← takeKw .ALL
    pure ()

def parseV1SelectCore : P Unit :=
  node .selectCore do
    require "SELECT required" (takeKw .SELECT)
    takeDistinct
    parseV1SelectList fuel knot
    optClause .FROM do
      let _ ← commaList fuel do
        parseV1FromItem knot
        parseV1Joins fuel knot
      pure ()
    optClause .WHERE knot.expr
    optClause .GROUP do
      require "GROUP BY" (takeKw .BY)
      let _ ← commaList fuel knot.expr
      pure ()
    optClause .HAVING knot.expr

def parseV1OrderItem : P Unit := do
  knot.expr
  let _ ← takeKw .ASC
  let _ ← takeKw .DESC
  optClause .NULLS (require "NULLS FIRST|LAST" (takeAnyKw [.FIRST, .LAST]))

def parseV1OrderLimit : P Unit :=
  node .orderLimit do
    optClause .ORDER do
      require "ORDER BY" (takeKw .BY)
      let _ ← commaList fuel (parseV1OrderItem knot)
      pure ()
    optClause .LIMIT knot.expr
    optClause .OFFSET knot.expr

def parseV1ValuesTuples : P Unit :=
  node .valuesTuples do
    let _ ← commaList fuel do
      require "VALUES tuple" (takePunct .lparen)
      let _ ← commaList fuel knot.expr
      require "VALUES tuple close" (takePunct .rparen)
    pure ()

def takeUnion : P Bool := do
  if ← takeKw .UNION then
    let _ ← takeKw .ALL
    pure true
  else if ← anyKw [.EXCEPT, .INTERSECT] then fail "EXCEPT/INTERSECT are not SQL v1"
  else pure false

def parseV1Select : P Unit :=
  node .select do
    if ← takeKw .VALUES then
      parseV1ValuesTuples fuel knot
      parseV1OrderLimit fuel knot
    else
      let _ ← loop fuel do
        parseV1SelectCore fuel knot
        takeUnion
      parseV1OrderLimit fuel knot

end Productions

def v1Knot : Nat → Knot
  | 0 => ⟨throw .outOfFuel, throw .outOfFuel⟩
  | n + 1 => ⟨parseV1Expr (n + 1) (v1Knot n), parseV1Select (n + 1) (v1Knot n)⟩

end Bookclerk.Sql
