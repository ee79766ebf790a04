import Mathlib.Data.List.Sort
import Bookclerk.Sql.InsertOrIgnore

namespace Bookclerk.Sql

open Lexical

structure SqlSpan where
  start : Nat
  stop : Nat
  deriving DecidableEq

inductive IntegerArithKind where
  | add
  | sub
  | mul
  | abs
  deriving DecidableEq

structure IntegerArithSite where
  full : SqlSpan
  lhs : SqlSpan
  rhs : SqlSpan
  kind : IntegerArithKind
  deriving DecidableEq

structure ResolvedStatement where
  statementHash : Text
  textCollateSites : List SqlSpan := []
  integerArithSites : List IntegerArithSite := []
  deriving DecidableEq

inductive SpanRole where
  | textCollation
  | arithmetic
  | arithmeticLhs
  | arithmeticRhs
  deriving DecidableEq

inductive ProofError where
  | span (role : SpanRole)
  | operandsOutside
  | notAbs
  | operator
  | overlap
  | notBound
  | siteEmpty
  | siteBoundary
  | siteRange
  | absCall
  | shrank
  deriving DecidableEq

def isCharBoundary (t : Text) (i : Nat) : Bool :=
  match t[i]? with
  | some b => i == 0 || b < 0x80 || 0xC0 ≤ b
  | none => i == t.length

def SqlSpan.inSql (span : SqlSpan) (sql : Text) : Bool :=
  span.start < span.stop && span.stop ≤ sql.length && isCharBoundary sql span.start && isCharBoundary sql span.stop

def SqlSpan.slice (span : SqlSpan) (sql : Text) : Text :=
  (sql.take span.stop).drop span.start

def SqlSpan.contains (outer inner : SqlSpan) : Bool :=
  outer.start ≤ inner.start && inner.stop ≤ outer.stop

def SqlSpan.nestedOrDisjoint (a b : SqlSpan) : Bool :=
  a.stop ≤ b.start || b.stop ≤ a.start || a.contains b || b.contains a

def trimStart (t : Text) : Text :=
  t.drop (leadingWhitespace t)

def binaryOpBetween (sql : Text) (lhsEnd rhsStart : Nat) (want : UInt8) : Bool :=
  lhsEnd ≤ rhsStart && rhsStart ≤ sql.length && (trimStart ((SqlSpan.mk lhsEnd rhsStart).slice sql)).head? == some want

def IntegerArithSite.operatorFits (site : IntegerArithSite) (sql : Text) : Except ProofError Unit :=
  let binary want := if binaryOpBetween sql site.lhs.stop site.rhs.start want then .ok () else .error .operator
  match site.kind with
  | .abs =>
    if eqIgnoreAsciiCase ((trimStart (site.full.slice sql)).take 3) (utf8 "abs") then .ok () else .error .notAbs
  | .add => binary (byte '+')
  | .sub => binary (byte '-')
  | .mul => binary (byte '*')

def requireSpan (sql : Text) (span : SqlSpan) (role : SpanRole) : Except ProofError Unit :=
  if span.inSql sql then .ok () else .error (.span role)

def validateSites (sql : Text) : List IntegerArithSite → Except ProofError Unit
  | [] => .ok ()
  | site :: later => do
    requireSpan sql site.full .arithmetic
    requireSpan sql site.lhs .arithmeticLhs
    requireSpan sql site.rhs .arithmeticRhs
    if !(site.full.contains site.lhs && site.full.contains site.rhs) then throw .operandsOutside
    site.operatorFits sql
    if !later.all (fun other => site.full.nestedOrDisjoint other.full) then throw .overlap
    validateSites sql later

def ResolvedStatement.validateFor (proof : ResolvedStatement) (sql : Text) : Except ProofError Unit := do
  proof.textCollateSites.forM fun span => requireSpan sql span .textCollation
  validateSites sql proof.integerArithSites

def assertProofMatchesSql (digest : Text → Text) (proof : ResolvedStatement) (sql : Text) : Except ProofError Unit :=
  if proof.statementHash = digest sql then .ok () else .error .notBound

def i64MaxSql : Text :=
  utf8 "9223372036854775807"

inductive OverflowDialect where
  | sqliteFamily
  | postgres
  deriving DecidableEq

namespace OverflowDialect

def i64MinSql : OverflowDialect → Text
  | .postgres => utf8 "CAST('-9223372036854775808' AS BIGINT)"
  | .sqliteFamily => utf8 "CAST('-9223372036854775808' AS INTEGER)"

def rowSource (cols : Text) : OverflowDialect → Text
  | .postgres => utf8 "LATERAL (SELECT " ++ cols ++ utf8 ") _bc_ov"
  | .sqliteFamily => utf8 "(SELECT " ++ cols ++ utf8 ") _bc_ov"

end OverflowDialect

def operandColumns (a b : Text) : Text :=
  utf8 "(" ++ a ++ utf8 ") AS a, (" ++ b ++ utf8 ") AS b"

def absCallArg (full : Text) : Option Text :=
  let opened := full.findIdx? (· == byte '(')
  let closed := (full.reverse.findIdx? (· == byte ')')).map fun i => full.length - 1 - i
  match opened, closed with
  | some o, some c => if c ≤ o then none else some (Lower.trim ((full.take c).drop (o + 1)))
  | _, _ => none

def wrapIntegerArith (d : OverflowDialect) (sql : Text) (site : IntegerArithSite) : Except ProofError Text :=
  let boundary := isCharBoundary sql
  if site.full.stop ≤ sql.length ∧ site.lhs.stop ≤ sql.length ∧ site.rhs.stop ≤ sql.length ∧
      site.lhs.start < site.lhs.stop ∧ site.full.start < site.full.stop ∧ boundary site.full.start ∧
      boundary site.full.stop ∧ boundary site.lhs.start ∧ boundary site.lhs.stop ∧ boundary site.rhs.start ∧
      boundary site.rhs.stop then
    let source := d.rowSource (operandColumns (site.lhs.slice sql) (site.rhs.slice sql))
    match site.kind with
    | .abs =>
      match absCallArg (site.full.slice sql) with
      | none => .error .absCall
      | some arg => .ok (utf8 "(SELECT CASE WHEN a IS NULL THEN NULL WHEN a = " ++ d.i64MinSql ++
          utf8 " THEN NULL ELSE abs(a) END FROM " ++ d.rowSource (utf8 "(" ++ arg ++ utf8 ") AS a") ++ utf8 ")")
    | .add => .ok (utf8 "(SELECT CASE WHEN a IS NULL OR b IS NULL THEN a + b WHEN a > 0 AND b > 0 AND a > " ++ i64MaxSql ++
        utf8 " - b THEN NULL WHEN a < 0 AND b < 0 AND a < " ++ d.i64MinSql ++ utf8 " - b THEN NULL ELSE a + b END FROM " ++
        source ++ utf8 ")")
    | .sub => .ok (utf8 "(SELECT CASE WHEN a IS NULL OR b IS NULL THEN a - b WHEN b < 0 AND a > " ++ i64MaxSql ++
        utf8 " + b THEN NULL WHEN b > 0 AND a < " ++ d.i64MinSql ++ utf8 " + b THEN NULL ELSE a - b END FROM " ++
        source ++ utf8 ")")
    | .mul => .ok (utf8 "(SELECT CASE WHEN a IS NULL OR b IS NULL THEN a * b WHEN a = 0 OR b = 0 THEN 0 WHEN (a = " ++
        d.i64MinSql ++ utf8 " AND b = -1) OR (b = " ++ d.i64MinSql ++
        utf8 " AND a = -1) THEN NULL WHEN b = -1 THEN (0 - a) WHEN b > 0 AND (a > " ++ i64MaxSql ++ utf8 " / b OR a < " ++
        d.i64MinSql ++ utf8 " / b) THEN NULL WHEN b < 0 AND (a < " ++ i64MaxSql ++ utf8 " / b OR a > " ++ d.i64MinSql ++
        utf8 " / b) THEN NULL ELSE a * b END FROM " ++ source ++ utf8 ")")
  else .error .siteRange

structure Shift where
  replEnd : Nat
  delta : Nat

def shiftSpan (span : SqlSpan) (shift : Shift) : SqlSpan :=
  let move i := if shift.replEnd ≤ i then i + shift.delta else i
  ⟨move span.start, move span.stop⟩

def shiftSite (site : IntegerArithSite) (shift : Shift) : IntegerArithSite :=
  { site with full := shiftSpan site.full shift, lhs := shiftSpan site.lhs shift, rhs := shiftSpan site.rhs shift }

def wrapSites (d : OverflowDialect) (shifts : List Shift) : List IntegerArithSite → Text → Except ProofError Text
  | [], out => .ok out
  | site :: later, out =>
    let site := shifts.foldl shiftSite site
    if site.full.start ≥ site.full.stop ∨ site.full.stop > out.length then .error .siteEmpty
    else if !isCharBoundary out site.full.start || !isCharBoundary out site.full.stop then .error .siteBoundary
    else do
      let wrapped ← wrapIntegerArith d out site
      let oldLen := site.full.stop - site.full.start
      if wrapped.length < oldLen then throw .shrank
      wrapSites d (shifts ++ [⟨site.full.stop, wrapped.length - oldLen⟩]) later
        (out.take site.full.start ++ wrapped ++ out.drop site.full.stop)

def IntegerArithSite.before (a b : IntegerArithSite) : Prop :=
  a.full.stop < b.full.stop ∨ a.full.stop = b.full.stop ∧ b.full.start ≤ a.full.start

instance (a b : IntegerArithSite) : Decidable (a.before b) :=
  inferInstanceAs (Decidable (_ ∨ _))

def applyIntegerOverflow (d : OverflowDialect) (sql : Text) (sites : List IntegerArithSite) : Except ProofError Text :=
  wrapSites d [] (sites.insertionSort IntegerArithSite.before) sql

namespace Lower

def lowerMechanical (sql : Text) : Text :=
  rewriteLikeToGlob (rewriteInsertOrIgnoreUniqueConflict sql)

def lowerCanonicalSqlTyped (digest : Text → Text) (sql : Text) (proof : Option ResolvedStatement) :
    Except ProofError Text :=
  match proof with
  | none => .ok (lowerMechanical sql)
  | some proof => do
    assertProofMatchesSql digest proof sql
    proof.validateFor sql
    return lowerMechanical (← applyIntegerOverflow .sqliteFamily sql proof.integerArithSites)

end Lower

end Bookclerk.Sql
