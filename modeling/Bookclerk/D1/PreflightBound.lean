import Mathlib.Data.Nat.Digits.Defs
import Bookclerk.D1.BytesPlaceholders
import Bookclerk.Sql.Overflow
import Bookclerk.Sql.PackTextSpec

namespace Bookclerk.D1

open Lexical Db Sql Sql.Lower Sql.PackText List Option Bool Except

variable {n : Nat} {proof : Option ResolvedStatement} {s : Scan} {sql t : Text}

def maxBinds : Nat :=
  100

def maxSqlStatementBytes : Nat :=
  100000

def unhexPlaceholderExtra : Nat :=
  7

def queryCapWrapMaxExtra : Nat :=
  (utf8 "SELECT * FROM (").length + (utf8 ") AS _bc_cap LIMIT ").length + 10

inductive LoweringError where
  | proof (e : ProofError)
  | text (e : SqlTextError)
  deriving DecidableEq

def liftProof {α : Type} (x : Except ProofError α) : Except LoweringError α :=
  x.mapError .proof

def liftText {α : Type} (x : Except SqlTextError α) : Except LoweringError α :=
  x.mapError .text

def overflowWrapped (sql : Text) (proof : Option ResolvedStatement) : Except ProofError Text :=
  match proof with
  | some proof => if proof.integerArithSites.isEmpty then .ok sql else applyIntegerOverflow .sqliteFamily sql proof.integerArithSites
  | none => .ok sql

def loweredStatementPreflight (sql : Text) (bindCount : Nat) (proof : Option ResolvedStatement) :
    Except LoweringError Nat := do
  let afterOverflow ← liftProof (overflowWrapped sql proof)
  let mechanical ← liftText (sqliteFamilyMechanicalLenUpperBound afterOverflow)
  return mechanical + queryCapWrapMaxExtra + min bindCount maxBinds * unhexPlaceholderExtra

def loweredStatementPreflightLenProven (sql : Text) (bindCount : Nat) (proof : Option ResolvedStatement) :
    Except LoweringError Nat := do
  if let some proof := proof then liftProof (proof.validateFor sql)
  loweredStatementPreflight sql bindCount proof

inductive D1Error where
  | preflight (e : LoweringError)
  | preflightBytes (pre : Nat)
  | lowering (e : ProofError)
  | loweredBytes (len : Nat)
  deriving DecidableEq

def ensureD1PhysicalSql (sql : Text) : Except D1Error Unit :=
  if maxSqlStatementBytes < sql.length then .error (.loweredBytes sql.length) else .ok ()

def d1TypedStatement (digest : Text → Text) (sql : Text) (params : List DbValue) (proof : Option ResolvedStatement) :
    Except D1Error Text := do
  let pre ← (loweredStatementPreflightLenProven sql params.length proof).mapError .preflight
  if maxSqlStatementBytes < pre then throw (.preflightBytes pre)
  let lowered ← (lowerCanonicalSqlTyped digest sql proof).mapError .lowering
  let wrapped := wrapBytesPlaceholders lowered params
  ensureD1PhysicalSql wrapped
  return wrapped

def decimal (n : Nat) : Text :=
  (Nat.toDigits 10 n).map byte

def capQuerySql (sql : Text) (maxResultRows : UInt32) : Text :=
  if maxResultRows = 0 then sql
  else
    let inner := ((trim sql).reverse.dropWhile (· == byte ';')).reverse
    utf8 "SELECT * FROM (" ++ inner ++ utf8 ") AS _bc_cap LIMIT " ++ decimal (maxResultRows.toNat + 1)

/-- The text of one statement in a batch to D1; `cap` is the row limit that the adapter advertises. -/
def d1StatementText (digest : Text → Text) (cap : UInt32) (kind : StatementKind) (sql : Text) (params : List DbValue)
    (proof : Option ResolvedStatement) : Except D1Error Text := do
  let text ← d1TypedStatement digest sql params proof
  return if kind = .select then capQuerySql text cap else text

/-- What the preflight relies on: in the statement with its overflow wraps the scanner that counts and the
scanner that rewrites see the same segments and the same leading trivia, with no `$` in code, the head of an
`INSERT OR IGNORE` does not end in a line comment, and byte parameters are few and come with plain ASCII. -/
structure Counted (sql : Text) (params : List DbValue) : Prop where
  segments : split textLex sql = split lowerLex sql
  trivia : (skipTrivia 0 sql).toOption = some (skipTriviaIdx 0 sql)
  dollar : NoDollar sql
  returning : ReturningStands sql
  binds : params.countP DbValue.isBytes ≤ maxBinds
  ascii : params.any DbValue.isBytes = true → sql.all (· < 0x80) = true

instance (sql : Text) (params : List DbValue) : Decidable (Counted sql params) :=
  decidable_of_iff (split textLex sql = split lowerLex sql ∧ (skipTrivia 0 sql).toOption = some (skipTriviaIdx 0 sql) ∧
      NoDollar sql ∧ ReturningStands sql ∧ params.countP DbValue.isBytes ≤ maxBinds ∧
      (params.any DbValue.isBytes = true → sql.all (· < 0x80) = true))
    ⟨fun ⟨h1, h2, h3, h4, h5, h6⟩ => ⟨h1, h2, h3, h4, h5, h6⟩, fun h => ⟨h.1, h.2, h.3, h.4, h.5, h.6⟩⟩

section Ascii

lemma ascii_take (h : t.all (· < 0x80) = true) (n : Nat) : (t.take n).all (· < 0x80) = true :=
  List.all_eq_true.mpr fun b hb => List.all_eq_true.mp h b (mem_of_mem_take hb)

lemma ascii_drop (h : t.all (· < 0x80) = true) (n : Nat) : (t.drop n).all (· < 0x80) = true :=
  List.all_eq_true.mpr fun b hb => List.all_eq_true.mp h b (mem_of_mem_drop hb)

lemma ascii_append {u : Text} (ht : t.all (· < 0x80) = true) (hu : u.all (· < 0x80) = true) : (t ++ u).all (· < 0x80) = true := by
  rw [all_append, ht, hu]
  rfl

lemma ascii_wrapInsertSelectHead {head : Text} (h : head.all (· < 0x80) = true) : (wrapInsertSelectHead head).all (· < 0x80) = true := by
  rw [wrapInsertSelectHead]
  cases insertRowSourceOffset head with
  | none => exact h
  | some off =>
    have htrim : (trim (head.drop off)).all (· < 0x80) = true := ascii_take (ascii_drop (ascii_drop h off) _) _
    dsimp only
    split_ifs
    · exact ascii_append (ascii_take h off) (ascii_append (by decide) (ascii_append htrim (by decide)))
    · exact h

lemma ascii_rewriteInsert (h : sql.all (· < 0x80) = true) : (rewriteInsertOrIgnoreUniqueConflict sql).all (· < 0x80) = true := by
  rw [rewriteInsertOrIgnoreUniqueConflict]
  cases hins : insertOrIgnoreRest sql with
  | none => exact h
  | some rest =>
    obtain ⟨p, k, -, hsql, -, -⟩ := insertOrIgnoreRest_spec hins
    have hrest : rest.all (· < 0x80) = true := by
      rw [hsql, all_append, all_append, and_eq_true, and_eq_true] at h
      exact h.2.2
    refine ascii_append (ascii_take h _) (ascii_append (by decide) ?_)
    cases findWordInCodeCi "RETURNING" 0 none rest with
    | none => exact ascii_append (ascii_wrapInsertSelectHead hrest) (by decide)
    | some idx =>
      exact ascii_append (ascii_wrapInsertSelectHead (ascii_take (ascii_take hrest _) _))
        (ascii_append (by decide) (ascii_drop hrest _))

lemma ascii_globFor {k : Text} (hk : k.all (· < 0x80) = true) (h : s.rest.all (· < 0x80) = true)
    (stop : Nat) : (globFor k s stop).1.all (· < 0x80) = true :=
  ascii_append hk (ascii_append (ascii_append (by decide) (ascii_drop (ascii_take h _) _)) (by decide))

lemma ascii_likeAt (h : s.rest.all (· < 0x80) = true) {out : Text} (hat : likeAt s = some (out, n)) : out.all (· < 0x80) = true := by
  rw [likeAt] at hat
  split_ifs at hat
  · have := ascii_globFor (k := utf8 "NOT GLOB ") (by decide) h (3 + skipTriviaIdx 0 (s.rest.drop 3) + 4)
    rwa [some.inj hat] at this
  · have := ascii_globFor (k := utf8 "GLOB ") (by decide) h 4
    rwa [some.inj hat] at this

lemma ascii_rewriteLikeFrom {k : Nat} {prev : Option UInt8} (h : t.all (· < 0x80) = true) :
    (rewriteLikeFrom k prev t).all (· < 0x80) = true := by
  induction t generalizing k prev with
  | nil => cases k <;> rfl
  | cons c rest ih =>
    have hrest : rest.all (· < 0x80) = true := ascii_drop h 1
    cases k with
    | succ k => exact ih hrest
    | zero =>
      obtain ⟨⟨kind, n⟩, hseg⟩ := isSome_iff_exists.mp (lowerLex_isSome c rest)
      have hliteral : ((c :: rest).take n ++ rewriteLikeFrom (n - 1) (some c) rest).all (· < 0x80) = true :=
        ascii_append (ascii_take h n) (ih hrest)
      rw [rewriteLikeFrom, hseg]
      cases kind with
      | code =>
        cases hat : likeAt ⟨prev, c :: rest⟩ with
        | none => exact ascii_append (ascii_take h 1) (ih hrest)
        | some r => exact ascii_append (ascii_likeAt h hat) (ih hrest)
      | string | ident | comment => exact hliteral

end Ascii

section Length

variable {params : List DbValue}

lemma countP_drop (params : List DbValue) (param : Nat) : (params.drop param).countP DbValue.isBytes =
    (bindIsBytes params param).toNat + (params.drop (param + 1)).countP DbValue.isBytes := by
  rw [bindIsBytes]
  cases h : params[param]? with
  | none =>
    rw [drop_eq_nil_of_le (List.getElem?_eq_none_iff.mp h), drop_eq_nil_of_le ((List.getElem?_eq_none_iff.mp h).trans (Nat.le_succ param))]
    rfl
  | some v =>
    obtain ⟨hlt, hv⟩ := List.getElem?_eq_some_iff.mp h
    rw [drop_eq_getElem_cons hlt, hv]
    cases hb : v.isBytes <;> simp [hb, Nat.add_comm]

lemma length_wrapRun (h : t.all (· < 0x80) = true) (q : QuoteState) (param : Nat) :
    (wrapRun params q param t).length ≤ t.length + (params.drop param).countP DbValue.isBytes * unhexPlaceholderExtra := by
  induction t generalizing q param with
  | nil => exact Nat.zero_le _
  | cons c rest ih =>
    rw [all_cons, and_eq_true] at h
    have hpush : (pushByteAsChar c).length = 1 := by rw [pushByteAsChar_ascii (by simpa using h.1)]; rfl
    have hi := ih h.2 (q.step c) (nextParam q param c)
    rw [wrapRun, length_append, length_cons]
    by_cases hq : q.quoted = true
    · rw [chunk, if_pos hq]
      rw [nextParam, if_neg (by simp [hq])] at hi ⊢
      omega
    by_cases hc : c = byte '?'
    · have hcount := countP_drop params param
      rw [chunk, if_neg hq, if_pos hc]
      rw [nextParam, if_pos ⟨by simpa using hq, hc⟩] at hi ⊢
      have hplace : (placeholder (bindIsBytes params param)).length =
          1 + (bindIsBytes params param).toNat * unhexPlaceholderExtra := by
        cases bindIsBytes params param <;> decide
      rw [hcount, Nat.add_mul]
      omega
    · rw [chunk, if_neg hq, if_neg hc, length_singleton]
      rw [nextParam, if_neg (by simp [hc])] at hi ⊢
      omega

lemma length_wrapBytesPlaceholders (h : params.any DbValue.isBytes = true → t.all (· < 0x80) = true) :
    (wrapBytesPlaceholders t params).length ≤ t.length + params.countP DbValue.isBytes * unhexPlaceholderExtra := by
  rw [wrapBytesPlaceholders]
  split_ifs with hbytes
  · rw [(wrapLoop_eq_wrapRun params 0 t).1]
    exact length_wrapRun (h hbytes) .plain 0
  · exact Nat.le_add_right _ _

lemma length_decimal (h : n < 10 ^ 10) : (decimal n).length ≤ 10 := by
  rw [decimal, length_map]
  exact Nat.toDigits_length 10 n 10 (by decide) h

lemma length_trim_le (t : Text) : (trim t).length ≤ t.length := by
  rw [trim, trimEnd]
  simp only [length_take, length_drop]
  omega

lemma length_capQuerySql (sql : Text) (cap : UInt32) : (capQuerySql sql cap).length ≤ sql.length + queryCapWrapMaxExtra := by
  have hdigits : (decimal (cap.toNat + 1)).length ≤ 10 := length_decimal (by have := cap.toNat_lt; omega)
  have hinner : ((trim sql).reverse.dropWhile (· == byte ';')).length ≤ sql.length := by
    have h := ((trim sql).reverse.dropWhile_suffix (· == byte ';')).length_le
    rw [length_reverse] at h
    exact h.trans (length_trim_le sql)
  rw [capQuerySql, queryCapWrapMaxExtra]
  split_ifs
  · exact Nat.le_add_right ..
  · simp only [length_append, length_reverse]
    omega

end Length

lemma mapError_ok {ε ε' α : Type} {x : Except ε α} {f : ε → ε'} {a : α} (h : x.mapError f = .ok a) : x = .ok a := by
  cases x with
  | error e => cases h
  | ok b => exact congrArg ok (ok.inj h)

lemma toOption_some {ε α : Type} {x : Except ε α} {a : α} (h : x.toOption = some a) : x = .ok a := by
  cases x with
  | error e => cases h
  | ok b => exact congrArg ok (some.inj h)

lemma length_lowerMechanical {x : Text} {params : List DbValue} (h : Counted x params)
    (hbound : sqliteFamilyMechanicalLenUpperBound x = .ok n) : (lowerMechanical x).length ≤ n := by
  obtain ⟨srcs, hlikes, hbound⟩ := bind_ok hbound
  obtain ⟨divMods, -, hbound⟩ := bind_ok hbound
  obtain ⟨extra, hextra, hbound⟩ := bind_ok hbound
  obtain rfl := ok.inj hbound
  have hcount : srcs.length = likesFrom (Scan.start x) := by
    rw [likePatternSourcesFrom_length hlikes]
    exact hits_congr ((splitFrom_eq_iff lowerLex_isSome 0 x).mp h.segments) none
  have hinsert : (if (insertOrIgnoreRest x).isSome then 256 else 0) ≤ extra := by
    split_ifs with hsome
    · obtain ⟨rest, hrest⟩ := isSome_iff_exists.mp hsome
      have heq := insertOrIgnoreRewriteExtra_eq hrest (toOption_some h.trivia)
      exact (ok.inj (heq.symm.trans hextra)).le
    · exact Nat.zero_le _
  have hlike := length_rewriteLikeFrom none (rewriteInsertOrIgnoreUniqueConflict x)
  have hlikes' := likes_rewriteInsertOrIgnoreUniqueConflict h.dollar h.returning
  have hlen := length_rewriteInsertOrIgnoreUniqueConflict x
  rw [Scan.start] at hlikes'
  rw [hlikes', ← hcount] at hlike
  rw [lowerMechanical, rewriteLikeToGlob]
  omega

lemma lowered_eq {digest : Text → Text} {lowered : Text}
    (h : lowerCanonicalSqlTyped digest sql proof = .ok lowered) : ∃ x, overflowWrapped sql proof = .ok x ∧ lowered = lowerMechanical x := by
  cases proof with
  | none => exact ⟨sql, rfl, (ok.inj h).symm⟩
  | some proof =>
    obtain ⟨-, -, h⟩ := bind_ok h
    obtain ⟨-, -, h⟩ := bind_ok h
    obtain ⟨x, hx, h⟩ := bind_ok h
    refine ⟨x, ?_, (ok.inj h).symm⟩
    rw [overflowWrapped]
    split_ifs with hempty
    · rw [List.isEmpty_iff.mp hempty] at hx
      exact hx
    · exact hx

lemma preflight_eq {bindCount : Nat}
    (h : loweredStatementPreflightLenProven sql bindCount proof = .ok n) :
    ∃ x m, overflowWrapped sql proof = .ok x ∧ sqliteFamilyMechanicalLenUpperBound x = .ok m ∧
      n = m + queryCapWrapMaxExtra + min bindCount maxBinds * unhexPlaceholderExtra := by
  have hpre : loweredStatementPreflight sql bindCount proof = .ok n := by
    cases proof with
    | none => exact h
    | some proof =>
      obtain ⟨_, _, h⟩ := bind_ok h
      exact h
  obtain ⟨x, hx, hpre⟩ := bind_ok hpre
  obtain ⟨m, hm, hpre⟩ := bind_ok hpre
  exact ⟨x, m, mapError_ok hx, mapError_ok hm, (ok.inj hpre).symm⟩

lemma d1TypedStatement_ok {digest : Text → Text} {text : Text} {params : List DbValue} (h : d1TypedStatement digest sql params proof = .ok text) :
    ∃ n lowered, loweredStatementPreflightLenProven sql params.length proof = .ok n ∧
      lowerCanonicalSqlTyped digest sql proof = .ok lowered ∧ text = wrapBytesPlaceholders lowered params := by
  obtain ⟨n, hn, h⟩ := bind_ok h
  split_ifs at h
  · cases h
  · obtain ⟨lowered, hlowered, h⟩ := bind_ok h
    obtain ⟨_, _, h⟩ := bind_ok h
    exact ⟨n, lowered, mapError_ok hn, mapError_ok hlowered, (ok.inj h).symm⟩

def ignoredCopy : Text :=
  utf8 "INSERT OR IGNORE INTO t (a) SELECT a + 1 FROM u WHERE b LIKE ? RETURNING a"

def ignoredCopyProof : ResolvedStatement where
  statementHash := ignoredCopy
  integerArithSites := [⟨⟨35, 40⟩, ⟨35, 36⟩, ⟨39, 40⟩, .add⟩]

def hiddenLike : Text :=
  utf8 "SELECT a FROM t WHERE a = 'x' /*/ AND a LIKE '' /* */"

end Bookclerk.D1
