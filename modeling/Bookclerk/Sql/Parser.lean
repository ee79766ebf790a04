import Bookclerk.Lexical.Automaton

namespace Bookclerk.Sql

open Lexical

def backtick : UInt8 :=
  0x60

def identStart (c : UInt8) : Bool :=
  isAsciiAlphabetic c || c == byte '_'

def identCont (c : UInt8) : Bool :=
  identStart c || isAsciiDigit c

structure Scan where
  prev : Option UInt8
  rest : Text
  deriving DecidableEq

namespace Scan

def start (sql : Text) : Scan :=
  ⟨none, sql⟩

def advance (s : Scan) (n : Nat) : Scan :=
  ⟨(s.rest.take n).getLast? <|> s.prev, s.rest.drop n⟩

end Scan

inductive TriviaMode where
  | between
  | line
  | block
  deriving DecidableEq

/-- `skip_ws_comments`. `skip` counts bytes that the last test consumed beyond its own. -/
def skipTrivia : TriviaMode → (skip : Nat) → (prev : Option UInt8) → Text → Scan
  | _, _, prev, [] => ⟨prev, []⟩
  | m, k + 1, _, c :: rest => skipTrivia m k (some c) rest
  | .between, 0, prev, c :: rest =>
    if isAsciiWhitespace c then skipTrivia .between 0 (some c) rest
    else if c = byte '-' ∧ rest.head? = some (byte '-') then skipTrivia .line 1 (some c) rest
    else if c = byte '/' ∧ rest.head? = some (byte '*') then skipTrivia .block 1 (some c) rest
    else ⟨prev, c :: rest⟩
  | .line, 0, _, c :: rest => skipTrivia (if c = byte '\n' then .between else .line) 0 (some c) rest
  | .block, 0, _, c :: rest =>
    if c = byte '*' ∧ rest.head? = some (byte '/') then skipTrivia .between 1 (some c) rest
    else skipTrivia .block 0 (some c) rest

def Scan.skip (s : Scan) : Scan :=
  skipTrivia .between 0 s.prev s.rest

def keywordAt (s : Scan) (kw : Text) : Bool :=
  eqIgnoreAsciiCase (s.rest.take kw.length) kw &&
    s.prev.all (fun c => !identCont c) && (s.rest.drop kw.length).head?.all (fun c => !identCont c)

def quotedNameLen (close : UInt8) : (skip : Nat) → Text → Option Nat
  | _, [] => none
  | k + 1, _ :: rest => (quotedNameLen close k rest).map (· + 1)
  | 0, c :: rest =>
    if c = close then
      if close ≠ byte ']' ∧ rest.head? = some close then (quotedNameLen close 1 rest).map (· + 1)
      else some 1
    else (quotedNameLen close 0 rest).map (· + 1)

def skipIdentOrQuoted (t : Text) : Option Nat :=
  match t with
  | [] => none
  | c :: rest =>
    if c = byte '"' ∨ c = backtick ∨ c = byte '[' then
      (quotedNameLen (if c = byte '[' then byte ']' else c) 0 rest).map (· + 1)
    else if identStart c then some (1 + (rest.takeWhile identCont).length)
    else none

def trimByte (b : UInt8) (t : Text) : Text :=
  ((t.dropWhile (· == b)).reverse.dropWhile (· == b)).reverse

/-- `normalize_ident` on the text of an identifier or a quoted name, which has no white space to trim. -/
def normalizeIdent (name : Text) : Text :=
  toAsciiLowercase (trimByte (byte ']') (trimByte (byte '[') (trimByte (backtick) (trimByte (byte '"') name))))

inductive Mode where
  | code
  | line
  | block
  | squote
  | dquote
  deriving DecidableEq

/-- `for_each_unquoted`: `step` gets the state, the index and the text from the index on, and returns
the new state with the number of bytes to consume. -/
def forEachUnquoted {σ : Type} (step : σ → Nat → Text → σ × Nat) : Mode → (skip : Nat) → (i : Nat) → σ → Text → σ
  | _, _, _, acc, [] => acc
  | m, k + 1, i, acc, _ :: rest => forEachUnquoted step m k (i + 1) acc rest
  | .line, 0, i, acc, c :: rest =>
    forEachUnquoted step (if c = byte '\n' then .code else .line) 0 (i + 1) acc rest
  | .block, 0, i, acc, c :: rest =>
    if c = byte '*' ∧ rest.head? = some (byte '/') then forEachUnquoted step .code 1 (i + 1) acc rest
    else forEachUnquoted step .block 0 (i + 1) acc rest
  | .squote, 0, i, acc, c :: rest =>
    if c = byte '\'' then
      if rest.head? = some (byte '\'') then forEachUnquoted step .squote 1 (i + 1) acc rest
      else forEachUnquoted step .code 0 (i + 1) acc rest
    else forEachUnquoted step .squote 0 (i + 1) acc rest
  | .dquote, 0, i, acc, c :: rest =>
    if c = byte '"' then
      if rest.head? = some (byte '"') then forEachUnquoted step .dquote 1 (i + 1) acc rest
      else forEachUnquoted step .code 0 (i + 1) acc rest
    else forEachUnquoted step .dquote 0 (i + 1) acc rest
  | .code, 0, i, acc, c :: rest =>
    if c = byte '-' ∧ rest.head? = some (byte '-') then forEachUnquoted step .line 1 (i + 1) acc rest
    else if c = byte '/' ∧ rest.head? = some (byte '*') then forEachUnquoted step .block 1 (i + 1) acc rest
    else if c = byte '\'' then forEachUnquoted step .squote 0 (i + 1) acc rest
    else if c = byte '"' then forEachUnquoted step .dquote 0 (i + 1) acc rest
    else forEachUnquoted step .code ((step acc i (c :: rest)).2 - 1) (i + 1) (step acc i (c :: rest)).1 rest

structure ParenWalk where
  depth : Nat := 0
  stop : Option Nat := none
  deriving DecidableEq

def parenStep (w : ParenWalk) (i : Nat) (t : Text) : ParenWalk × Nat :=
  if w.stop.isSome then (w, 1)
  else if t.head? = some (byte '(') then (⟨w.depth + 1, none⟩, 1)
  else if t.head? = some (byte ')') then (⟨w.depth - 1, if w.depth - 1 = 0 then some (i + 1) else none⟩, 1)
  else (w, 1)

def skipBalancedParens (t : Text) : Option Nat :=
  if t.head? = some (byte '(') then (forEachUnquoted parenStep .code 0 0 {} t).stop else none

namespace Scan

def peekKw (s : Scan) (kw : String) : Bool :=
  keywordAt s.skip (utf8 kw)

def peekByte (s : Scan) (b : UInt8) : Bool :=
  s.skip.rest.head? = some b

def takeBalancedInner (s : Scan) : Option (Text × Scan) :=
  if s.prev = some (byte '(') then
    (skipBalancedParens (byte '(' :: s.rest)).map fun stop =>
      (s.rest.take (stop - 2), s.advance (stop - 1))
  else none

/-- `skip_quoted_string`, from the opening quote on: the number of bytes of the literal. -/
def quotedStringLen (q : UInt8) : (skip : Nat) → Text → Nat
  | _, [] => 0
  | k + 1, _ :: rest => quotedStringLen q k rest + 1
  | 0, c :: rest =>
    if c = q then
      if rest.head? = some q then quotedStringLen q 1 rest + 1 else 1
    else quotedStringLen q 0 rest + 1

lemma quotedStringLen_le (q : UInt8) (k : Nat) (t : Text) : quotedStringLen q k t ≤ t.length := by
  induction t generalizing k with
  | nil => cases k <;> exact le_rfl
  | cons c rest ih =>
    cases k with
    | succ k => simpa [quotedStringLen] using ih k
    | zero =>
      rw [quotedStringLen, List.length_cons]
      split_ifs
      · exact Nat.succ_le_succ (ih 1)
      · omega
      · exact Nat.succ_le_succ (ih 0)

end Scan

inductive Production where
  | statement
  | cteList
  | select
  | selectCore
  | selectList
  | fromItem
  | joins
  | orderLimit
  | insert
  | valuesTuples
  | update
  | delete
  | returning
  | expr
  | or
  | and
  | not
  | cmp
  | inList
  | concat
  | add
  | mul
  | signed
  | atom
  | callArgs
  | caseExpr
  deriving DecidableEq

inductive Kw where
  | ALL | AND | AS | ASC | BETWEEN | BY | CASE | CAST | COLLATE | CROSS
  | DELETE | DESC | DISTINCT | ELSE | END | EXCEPT | EXISTS | FALSE | FILTER | FIRST
  | FROM | FULL | GLOB | GROUP | HAVING | IGNORE | ILIKE | IN | INNER | INSERT
  | INTERSECT | INTO | IS | JOIN | LAST | LEFT | LIKE | LIMIT | MATCH | MATERIALIZED
  | NOT | NULL | NULLS | OFFSET | ON | OR | ORDER | OUTER | OVER | RECURSIVE
  | REGEXP | RETURNING | RIGHT | SELECT | SET | SIMILAR | THEN | TRUE | UNION | UPDATE
  | USING | VALUES | WHEN | WHERE | WITH
  deriving DecidableEq

def Kw.spelling : Kw → String
  | .ALL => "ALL"
  | .AND => "AND"
  | .AS => "AS"
  | .ASC => "ASC"
  | .BETWEEN => "BETWEEN"
  | .BY => "BY"
  | .CASE => "CASE"
  | .CAST => "CAST"
  | .COLLATE => "COLLATE"
  | .CROSS => "CROSS"
  | .DELETE => "DELETE"
  | .DESC => "DESC"
  | .DISTINCT => "DISTINCT"
  | .ELSE => "ELSE"
  | .END => "END"
  | .EXCEPT => "EXCEPT"
  | .EXISTS => "EXISTS"
  | .FALSE => "FALSE"
  | .FILTER => "FILTER"
  | .FIRST => "FIRST"
  | .FROM => "FROM"
  | .FULL => "FULL"
  | .GLOB => "GLOB"
  | .GROUP => "GROUP"
  | .HAVING => "HAVING"
  | .IGNORE => "IGNORE"
  | .ILIKE => "ILIKE"
  | .IN => "IN"
  | .INNER => "INNER"
  | .INSERT => "INSERT"
  | .INTERSECT => "INTERSECT"
  | .INTO => "INTO"
  | .IS => "IS"
  | .JOIN => "JOIN"
  | .LAST => "LAST"
  | .LEFT => "LEFT"
  | .LIKE => "LIKE"
  | .LIMIT => "LIMIT"
  | .MATCH => "MATCH"
  | .MATERIALIZED => "MATERIALIZED"
  | .NOT => "NOT"
  | .NULL => "NULL"
  | .NULLS => "NULLS"
  | .OFFSET => "OFFSET"
  | .ON => "ON"
  | .OR => "OR"
  | .ORDER => "ORDER"
  | .OUTER => "OUTER"
  | .OVER => "OVER"
  | .RECURSIVE => "RECURSIVE"
  | .REGEXP => "REGEXP"
  | .RETURNING => "RETURNING"
  | .RIGHT => "RIGHT"
  | .SELECT => "SELECT"
  | .SET => "SET"
  | .SIMILAR => "SIMILAR"
  | .THEN => "THEN"
  | .TRUE => "TRUE"
  | .UNION => "UNION"
  | .UPDATE => "UPDATE"
  | .USING => "USING"
  | .VALUES => "VALUES"
  | .WHEN => "WHEN"
  | .WHERE => "WHERE"
  | .WITH => "WITH"

inductive Punct where
  | percent | lparen | rparen | star | plus | comma | minus | dot | slash | eq | question | concat | le | ge | ltgt | ne | lt | gt
  deriving DecidableEq

def Punct.spelling : Punct → String
  | .percent => "%"
  | .lparen => "("
  | .rparen => ")"
  | .star => "*"
  | .plus => "+"
  | .comma => ","
  | .minus => "-"
  | .dot => "."
  | .slash => "/"
  | .eq => "="
  | .question => "?"
  | .concat => "||"
  | .le => "<="
  | .ge => ">="
  | .ltgt => "<>"
  | .ne => "!="
  | .lt => "<"
  | .gt => ">"

def Kw.text (w : Kw) : Text :=
  utf8 w.spelling

def Punct.text (p : Punct) : Text :=
  utf8 p.spelling

inductive LexKind where
  | keyword (w : Kw)
  | punct (p : Punct)
  | word
  | number
  | string
  | blob
  deriving DecidableEq

inductive Tree where
  | leaf (k : LexKind) (t : Text)
  | node (p : Production) (kids : List Tree)
  | unread (t : Text)

inductive V1Error where
  | outOfFuel
  | grammar (what : Text)
  | arity (name : Text) (n : Nat)
  deriving DecidableEq

def P (α : Type) : Type :=
  Scan → Except V1Error (α × List Tree × Scan)

namespace P

variable {α β : Type}

def ret (a : α) : P α :=
  fun s => .ok (a, [], s)

def andThen (p : P α) (f : α → P β) : P β := fun s =>
  match p s with
  | .error e => .error e
  | .ok (a, ts, s') =>
    match f a s' with
    | .error e => .error e
    | .ok (b, us, s'') => .ok (b, ts ++ us, s'')

instance : Monad P where
  pure := ret
  bind := andThen

def throw (e : V1Error) : P α :=
  fun _ => .error e

def fail (what : String) : P α :=
  throw (.grammar (utf8 what))

def skip : P Unit :=
  fun s => .ok ((), [], s.skip)

def lexeme (k : LexKind) (n : Nat) : P Unit :=
  fun s => .ok ((), [.leaf k (s.rest.take n)], s.advance n)

def look (f : Scan → α) : P α :=
  fun s => .ok (f s, [], s)

def node (p : Production) (body : P α) : P α := fun s =>
  match body s with
  | .error e => .error e
  | .ok (a, ts, s') => .ok (a, [.node p ts], s')

def takeKw (kw : Kw) : P Bool := do
  skip
  if ← look (keywordAt · kw.text) then
    lexeme (.keyword kw) kw.text.length
    pure true
  else
    pure false

def peekKw (kw : Kw) : P Bool := do
  skip
  look (keywordAt · kw.text)

def takePunct (p : Punct) : P Bool := do
  skip
  if ← look (fun s => p.text.isPrefixOf s.rest) then
    lexeme (.punct p) p.text.length
    pure true
  else
    pure false

def peekByte (b : UInt8) : P Bool := do
  skip
  look (fun s => s.rest.head? = some b)

def readIdent : P (Option Text) := do
  skip
  match ← look (fun s => skipIdentOrQuoted s.rest) with
  | none => pure none
  | some n =>
    let ident ← look (fun s => normalizeIdent (s.rest.take n))
    lexeme .word n
    pure (if ident = [] then none else some ident)

/-- `take_balanced_inner` followed by a scan of the inner text. -/
def balancedInner (what : String) (body : P α) : P α := fun s =>
  match s.takeBalancedInner with
  | none => .error (.grammar (utf8 what))
  | some (inner, s') =>
    match body (.start inner) with
    | .error e => .error e
    | .ok (a, ts, _) => .ok (a, ts ++ [.leaf (.punct .rparen) Punct.rparen.text], s')

def endOfBody (what : String) : P Unit := do
  skip
  if ← look (fun s => s.rest.isEmpty) then pure () else fail what

def dropBody : P Unit :=
  fun s => .ok ((), [.unread s.rest], s.advance s.rest.length)

def loop : Nat → P Bool → P Nat
  | 0, _ => throw .outOfFuel
  | n + 1, body => do
    if ← body then
      let k ← loop n body
      pure (k + 1)
    else
      pure 1

end P

end Bookclerk.Sql
