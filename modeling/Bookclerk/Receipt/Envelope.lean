import Mathlib.Algebra.Ring.Nat
import Bookclerk.Db.Execute

namespace Bookclerk.Receipt

open Lexical Sql

inductive Quote where
  | outside
  | single
  | double
  deriving DecidableEq

def wordByte (c : UInt8) : Bool :=
  isAsciiAlphabetic c || isAsciiDigit c || c == byte '_'

def keywordsFrom : Quote → (skip depth i : Nat) → Text → List (Nat × Text)
  | _, _, _, _, [] => []
  | q, k + 1, d, i, _ :: rest => keywordsFrom q k d (i + 1) rest
  | .single, 0, d, i, c :: rest =>
    if c = byte '\'' then
      if rest.head? = some (byte '\'') then keywordsFrom .single 1 d (i + 1) rest
      else keywordsFrom .outside 0 d (i + 1) rest
    else keywordsFrom .single 0 d (i + 1) rest
  | .double, 0, d, i, c :: rest =>
    if c = byte '"' then
      if rest.head? = some (byte '"') then keywordsFrom .double 1 d (i + 1) rest
      else keywordsFrom .outside 0 d (i + 1) rest
    else keywordsFrom .double 0 d (i + 1) rest
  | .outside, 0, d, i, c :: rest =>
    if c = byte '\'' then keywordsFrom .single 0 d (i + 1) rest
    else if c = byte '"' then keywordsFrom .double 0 d (i + 1) rest
    else if c = byte '(' then keywordsFrom .outside 0 (d + 1) (i + 1) rest
    else if c = byte ')' then keywordsFrom .outside 0 (d - 1) (i + 1) rest
    else if d = 0 ∧ isAsciiAlphabetic c then
      (i, c :: rest.takeWhile wordByte) ::
        keywordsFrom .outside (rest.takeWhile wordByte).length d (i + 1) rest
    else keywordsFrom .outside 0 d (i + 1) rest

def keywordPositions (sql kw : Text) : List Nat :=
  (keywordsFrom .outside 0 0 0 sql).filterMap fun found =>
    if eqIgnoreAsciiCase found.2 kw then some found.1 else none

def findFirstTopLevelKeyword (sql : Text) (kw : String) : Option Nat :=
  (keywordPositions sql (utf8 kw)).head?

def lastTopLevelKeyword (sql : Text) (kw : String) : Option Nat :=
  (keywordPositions sql (utf8 kw)).getLast?

/-- `skip_balanced_parens` of the host plans: the length of a group, from its opening parenthesis on. -/
def balancedLen : Quote → (skip depth : Nat) → Text → Option Nat
  | _, _, _, [] => none
  | q, k + 1, d, _ :: rest => (balancedLen q k d rest).map (· + 1)
  | .single, 0, d, c :: rest =>
    if c = byte '\'' then
      if rest.head? = some (byte '\'') then (balancedLen .single 1 d rest).map (· + 1)
      else (balancedLen .outside 0 d rest).map (· + 1)
    else (balancedLen .single 0 d rest).map (· + 1)
  | .double, 0, d, c :: rest =>
    if c = byte '"' then
      if rest.head? = some (byte '"') then (balancedLen .double 1 d rest).map (· + 1)
      else (balancedLen .outside 0 d rest).map (· + 1)
    else (balancedLen .double 0 d rest).map (· + 1)
  | .outside, 0, d, c :: rest =>
    if c = byte '\'' then (balancedLen .single 0 d rest).map (· + 1)
    else if c = byte '"' then (balancedLen .double 0 d rest).map (· + 1)
    else if c = byte '(' then (balancedLen .outside 0 (d + 1) rest).map (· + 1)
    else if c = byte ')' then
      if d - 1 = 0 then some 1 else (balancedLen .outside 0 (d - 1) rest).map (· + 1)
    else (balancedLen .outside 0 d rest).map (· + 1)

def skipBalancedParens (t : Text) : Option Nat :=
  if t.head? = some (byte '(') then balancedLen .outside 0 0 t else none

/-- Where the tuple of `INSERT … VALUES (…)` stands: the keyword, the opening parenthesis, the end. -/
structure ValuesTuple where
  valuesAt : Nat
  opening : Nat
  stop : Nat
  deriving DecidableEq

def valuesTuple (sql : Text) : Option ValuesTuple :=
  if (findFirstTopLevelKeyword sql "SELECT").isSome then none
  else do
    let valuesAt ← findFirstTopLevelKeyword sql "VALUES"
    let opening := valuesAt + 6 + ((sql.drop (valuesAt + 6)).takeWhile isAsciiWhitespace).length
    let len ← skipBalancedParens (sql.drop opening)
    let post := sql.drop (opening + len)
    if (post.drop (leadingWhitespace post)).head? = some (byte ',') then none
    else some ⟨valuesAt, opening, opening + len⟩

def whereOrAnd (head : Text) : Text :=
  if (lastTopLevelKeyword head "WHERE").isSome then utf8 "AND" else utf8 "WHERE"

section Splice

variable {σ : Type} (b : σ → UInt8) (host : UInt8 → σ)

def hostText (t : Text) : List σ :=
  t.map host

def trimEnd (xs : List σ) : List σ :=
  xs.take (xs.length - trailingWhitespace (xs.map b))

def trimStart (xs : List σ) : List σ :=
  xs.drop (leadingWhitespace (xs.map b))

def rewriteInsertValuesToSelect (xs : List σ) : List σ :=
  match valuesTuple (xs.map b) with
  | none => xs
  | some tuple =>
    let inner := trimStart b (trimEnd b ((xs.take (tuple.stop - 1)).drop (tuple.opening + 1)))
    xs.take tuple.valuesAt ++ hostText host (utf8 "SELECT ") ++ inner ++ xs.drop tuple.stop

/-- The text before the last `RETURNING`, when the host took the statement to return rows, and the
clause itself. -/
def splitReturning (kind : StatementKind) (xs : List σ) : List σ × Option (List σ) :=
  if kind = .returning then
    match lastTopLevelKeyword (xs.map b) "RETURNING" with
    | some i => (trimEnd b (xs.take i), some (trimStart b (xs.drop i)))
    | none => (xs, none)
  else (xs, none)

def orderOrLimitAt (body : Text) : Nat :=
  ((findFirstTopLevelKeyword body "ORDER").or (findFirstTopLevelKeyword body "LIMIT")).getD body.length

def gateHead (kind : StatementKind) (xs : List σ) : List σ :=
  let body := (splitReturning b kind xs).1
  trimEnd b (body.take (orderOrLimitAt (body.map b)))

def gateClauses (kind : StatementKind) (xs : List σ) : List σ :=
  let (body, returning) := splitReturning b kind xs
  let tail := trimStart b (body.drop (orderOrLimitAt (body.map b)))
  (if tail.isEmpty then [] else host (byte ' ') :: tail) ++
    match returning with
    | some clause => host (byte ' ') :: clause
    | none => []

def applyWritePredicate (kind : StatementKind) (pred xs : List σ) : List σ :=
  let xs := rewriteInsertValuesToSelect b host xs
  let head := gateHead b kind xs
  head ++ hostText host (utf8 " " ++ whereOrAnd (head.map b) ++ utf8 " ") ++ pred ++ gateClauses b host kind xs

end Splice

open Db

def writeGate : Text :=
  utf8 "NOT EXISTS (SELECT 1 FROM bookclerk_receipts WHERE operation_id = ?)"

def gateStatement (operationId : Text) (stmt : TypedDbStatement) : TypedDbStatement :=
  if stmt.isDml then
    { stmt with
      sql := applyWritePredicate id id stmt.kind writeGate stmt.sql
      parameters := stmt.parameters ++ [.text operationId] }
  else stmt

def typedExec (sql : String) (parameters : List DbValue) : TypedDbStatement :=
  ⟨utf8 sql, parameters, .execute, 0, .affectedRows⟩

def typedQuery (sql : String) (parameters : List DbValue) : TypedDbStatement :=
  ⟨utf8 sql, parameters, .select, 1, .rows⟩

def pruneReceipts (created operationId : Text) : TypedDbStatement :=
  typedExec "DELETE FROM bookclerk_receipts WHERE expires_at <= ? AND operation_id != ?"
    [.text created, .text operationId]

def selectReceipt (operationId : Text) : TypedDbStatement :=
  typedQuery ("SELECT operation_id, request_hash, status, payload, created_at " ++
    "FROM bookclerk_receipts WHERE operation_id = ?") [.text operationId]

def claimReceipt (created expires operationId requestHash : Text) : TypedDbStatement :=
  typedExec ("INSERT INTO bookclerk_receipts (" ++
    "operation_id, operation_kind, request_hash, status, payload, created_at, expires_at" ++
    ") SELECT ?, ?, ?, 'claimed', '', ?, ? " ++
    "WHERE NOT EXISTS (SELECT 1 FROM bookclerk_receipts WHERE operation_id = ?)")
    [.text operationId, .text (utf8 "guestTyped"), .text requestHash, .text created, .text expires, .text operationId]

structure GuestReceiptPersist where
  guestStatementLen : Nat
  guestRequestHash : Text
  deriving DecidableEq

structure AdapterExecuteRequest where
  request : ExecuteRequest
  guestReceipt : GuestReceiptPersist
  deriving DecidableEq

def wrapGuestTypedRequest (created expires : Text) (req : ExecuteRequest) : AdapterExecuteRequest where
  request :=
    { req with
      requestHash := []
      statements := pruneReceipts created req.operationId :: selectReceipt req.operationId ::
        (req.statements.map (gateStatement req.operationId) ++
          [claimReceipt created expires req.operationId req.requestHash]) }
  guestReceipt := ⟨min req.statements.length (2 ^ 32 - 1), req.requestHash⟩

end Bookclerk.Receipt
