import Bookclerk.Receipt.Reply

namespace Bookclerk.Receipt

open Lexical Sql Db List

variable {δ : Type}

structure Database (δ : Type) where
  receipts : ReceiptTable
  data : δ
  deriving DecidableEq

inductive HostStatement where
  | prune (created operationId : Text)
  | select (operationId : Text)
  | claim (row : ReceiptRow)
  | finalize (payload operationId : Text)
  deriving DecidableEq

def hostStatement (stmt : TypedDbStatement) : Option HostStatement :=
  match stmt.parameters with
  | [.text a, .text b] =>
    if stmt.sql = (pruneReceipts [] []).sql then some (.prune a b)
    else if stmt.sql = (finalizeClaimedPayload [] []).sql then some (.finalize a b)
    else none
  | [.text a] => if stmt.sql = (selectReceipt []).sql then some (.select a) else none
  | [.text a, .text kind, .text hash, .text created, .text expires, .text b] =>
    if stmt.sql = (claimReceipt [] [] [] []).sql ∧ a = b then
      some (.claim ⟨a, kind, hash, .claimed, [], created, expires⟩)
    else none
  | _ => none

def ReceiptStatus.text : ReceiptStatus → Text
  | .claimed => utf8 "claimed"
  | .applied => utf8 "applied"
  | .ok => utf8 "ok"

def receiptColumns : List DbColumn :=
  ["operation_id", "request_hash", "status", "payload", "created_at"].map fun name => ⟨utf8 name, .text⟩

def receiptResult (row : Option ReceiptRow) : StatementResult where
  rows := row.toList.map fun r =>
    [.text r.operationId, .text r.requestHash, .text r.status.text, .text r.payload, .text r.createdAt]
  columns := receiptColumns
  rowsAffected := 0

/-- An adapter: how its engine runs a guest statement, which may read everything but changes only the
guest's data, and how it serialises replies. -/
structure Adapter (δ : Type) where
  exec : TypedDbStatement → Database δ → Except Text (StatementResult × δ)
  wire : Wire
  caps : ReplyCaps
  timingSource : Text

def StatementResult.cellError (r : StatementResult) (cap : Nat) : Option Text :=
  r.rows.findSome? fun row => (r.columns.zip row).findSome? fun (col, cell) =>
    if cap < dbValueCellLen cell then
      some (utf8 "column `" ++ col.name ++ utf8 ("` is " ++ toString (dbValueCellLen cell) ++
        " bytes; maxCellBytes is " ++ toString cap))
    else none

def effectiveRowCap (stmtMax capsMax : Nat) : Nat :=
  if stmtMax = 0 then capsMax else if capsMax = 0 then stmtMax else min stmtMax capsMax

namespace Adapter

variable (A : Adapter δ)

def query (stmt : TypedDbStatement) (db : Database δ) : Except Text (StatementResult × Database δ) :=
  match hostStatement stmt with
  | some (.prune created op) =>
    .ok (.fromAffected (db.receipts.length - (db.receipts.prune created op).length),
      { db with receipts := db.receipts.prune created op })
  | some (.select op) => .ok (receiptResult (db.receipts.prior op), db)
  | some (.claim row) =>
    .ok (.fromAffected (db.receipts.claim row).2, { db with receipts := (db.receipts.claim row).1 })
  | some (.finalize payload op) =>
    .ok (.fromAffected 1, { db with receipts := db.receipts.update op (.finalize payload) })
  | none => (A.exec stmt db).map fun r => (r.1, { db with data := r.2 })

def bytesWithin (r : StatementResult) : Except Text StatementResult :=
  (A.wire.statementBytes r).bind fun used =>
    if A.caps.maxResultBytes ≠ 0 ∧ A.caps.maxResultBytes < used then
      .error (utf8 ("query result is " ++ toString used ++ " bytes; maxResultBytes is " ++
        toString A.caps.maxResultBytes))
    else .ok r

def rowsResult (kind : StatementKind) (rowCap : Nat) (raw : StatementResult) : Except Text StatementResult :=
  if rowCap ≠ 0 ∧ rowCap < raw.rows.length then
    .error (utf8 ("query returned " ++ toString raw.rows.length ++ " rows; maxRows/maxResultRows is " ++ toString rowCap))
  else
    (rejectWith (if A.caps.maxCellBytes = 0 then none else raw.cellError A.caps.maxCellBytes)).bind fun _ =>
    (rejectWith raw.positionalError).bind fun _ =>
      A.bytesWithin { raw with rowsAffected := if kind = .returning then raw.rows.length else 0 }

def statementResult (stmt : TypedDbStatement) (raw : StatementResult) : Except Text StatementResult :=
  match stmt.resultSelection with
  | .rows =>
    if stmt.kind = .execute then A.bytesWithin (.fromAffected raw.rowsAffected)
    else A.rowsResult stmt.kind (effectiveRowCap stmt.maxRows.toNat A.caps.maxResultRows) raw
  | .affectedRows => A.bytesWithin (.fromAffected raw.rowsAffected)
  | .discard => .ok (.fromAffected 0)

def runStatement (stmt : TypedDbStatement) (db : Database δ) : Except Text (StatementResult × Database δ) :=
  (A.query stmt db).bind fun out => (A.statementResult stmt out.1).map fun r => (r, out.2)

def runStatements (receipt : GuestReceiptPersist) (total : Nat) :
    List TypedDbStatement → List StatementResult → Database δ → Except Text (List StatementResult × Database δ)
  | [], results, db => .ok (results, db)
  | stmt :: rest, results, db =>
    (A.runStatement stmt db).bind fun out =>
      let results := results ++ [out.1]
      if receipt.guestStatementLen ≠ 0 ∧
          shouldSkipRemainingGuestWork results total receipt.guestRequestHash = true then
        .ok (padSkippedGuestResults results total, out.2)
      else runStatements receipt total rest results out.2

def runFinalize : List TypedDbStatement → Database δ → Except Text (Database δ)
  | [], db => .ok db
  | stmt :: rest, db => (A.query stmt db).bind fun out => runFinalize rest out.2

def storedReply (operationId : Text) (results : List StatementResult) : ExecuteReply :=
  ⟨operationId, results, ⟨0, 0, A.timingSource⟩⟩

def finalizeReceipt (env : AdapterExecuteRequest) (results : List StatementResult) (db : Database δ) :
    Except Text (Database δ) :=
  if env.guestReceipt.guestStatementLen = 0 then .ok db
  else
    (A.wire.guestReceiptFinalizeStmts (A.storedReply env.request.operationId results)
      env.guestReceipt.guestStatementLen env.guestReceipt.guestRequestHash).bind fun stmts => A.runFinalize stmts db

def replyChecked (reply : ExecuteReply) : Except Text ExecuteReply :=
  (rejectWith reply.positionalError).bind fun _ =>
  (A.wire.replyBytes reply).bind fun used =>
    if A.caps.maxAtomicResultBytes ≠ 0 ∧ A.caps.maxAtomicResultBytes < used then
      .error (utf8 ("atomic result is " ++ toString used ++ " bytes; maxAtomicResultBytes is " ++
        toString A.caps.maxAtomicResultBytes))
    else .ok reply

def executeTypedJoinBody (env : AdapterExecuteRequest) (attemptElapsedUs dbExecutionUs : Nat) (db : Database δ) :
    Except Text (ExecuteReply × Database δ) :=
  (A.runStatements env.guestReceipt env.request.statements.length env.request.statements [] db).bind fun out =>
    (A.finalizeReceipt env out.1 out.2).bind fun db' =>
      (A.replyChecked ⟨env.request.operationId, out.1, ⟨attemptElapsedUs, dbExecutionUs, A.timingSource⟩⟩).map
        fun reply => (reply, db')

end Adapter

variable {results : List StatementResult} {stmts : List TypedDbStatement}

section Results

variable {ε α β : Type}

lemma bind_eq_ok {x : Except ε α} {f : α → Except ε β} {b : β} : x.bind f = .ok b ↔ ∃ a, x = .ok a ∧ f a = .ok b := by
  cases x <;> simp [Except.bind]

lemma map_eq_ok {x : Except ε α} {f : α → β} {b : β} : x.map f = .ok b ↔ ∃ a, x = .ok a ∧ f a = b := by
  cases x <;> simp [Except.map]

lemma rejectWith_eq_ok {err : Option Text} {u : Unit} : rejectWith err = .ok u ↔ err = none := by
  cases err <;> simp [rejectWith]

end Results

section HostStatements

variable (created expires op hash payload : Text) (row : ReceiptRow)

@[simp] lemma hostStatement_prune : hostStatement (pruneReceipts created op) = some (.prune created op) := by
  simp [hostStatement, pruneReceipts, typedExec]

@[simp] lemma hostStatement_select : hostStatement (selectReceipt op) = some (.select op) := by
  simp [hostStatement, selectReceipt, typedQuery]

@[simp] lemma hostStatement_claim : hostStatement (claimReceipt created expires op hash) =
    some (.claim ⟨op, utf8 "guestTyped", hash, .claimed, [], created, expires⟩) := by
  simp [hostStatement, claimReceipt, typedExec]

@[simp] lemma hostStatement_finalize : hostStatement (finalizeClaimedPayload payload op) = some (.finalize payload op) := by
  have hne : (finalizeClaimedPayload [] []).sql ≠ (pruneReceipts [] []).sql := by decide +kernel
  show (if (finalizeClaimedPayload [] []).sql = (pruneReceipts [] []).sql then
      some (HostStatement.prune payload op)
    else if (finalizeClaimedPayload [] []).sql = (finalizeClaimedPayload [] []).sql then
      some (HostStatement.finalize payload op)
    else none) = some (HostStatement.finalize payload op)
  rw [if_neg hne, if_pos rfl]

lemma receiptColumns_hash : (receiptColumns.findIdx? fun c => eqIgnoreAsciiCase c.name (utf8 "request_hash")) = some 1 := by
  decide +kernel

lemma receiptColumns_status : (receiptColumns.findIdx? fun c => eqIgnoreAsciiCase c.name (utf8 "status")) = some 2 := by
  decide +kernel

lemma receiptColumns_payload : (receiptColumns.findIdx? fun c => eqIgnoreAsciiCase c.name (utf8 "payload")) = some 3 := by
  decide +kernel

@[simp] lemma receiptHashFrom_none : receiptHashFrom (receiptResult none) = none := rfl

@[simp] lemma receiptHashFrom_some : receiptHashFrom (receiptResult (some row)) = some row.requestHash := by
  simp [receiptHashFrom, StatementResult.cell, receiptResult, receiptColumns_hash]

lemma receiptPayloadText_some (hne : row.payload ≠ []) : receiptPayloadText (receiptResult (some row)) = some row.payload := by
  simp [receiptPayloadText, nonEmptyText, StatementResult.cell, receiptResult, receiptColumns_payload, hne]

lemma priorReceiptIsClaimed_ok (hok : row.status = .ok) : priorReceiptIsClaimed (receiptResult (some row)) = false := by
  have htext : nonEmptyText (some (.text (ReceiptStatus.text .ok))) ≠ some (utf8 "claimed") := by decide +kernel
  simpa [priorReceiptIsClaimed, receiptStatusFrom, StatementResult.cell, receiptResult, receiptColumns_status, hok]
    using htext

end HostStatements

section Checks

variable {A : Adapter δ} {stmt : TypedDbStatement} {raw r : StatementResult}

lemma rowLimit_eq (a b : Nat) : rowLimit a b = if effectiveRowCap a b = 0 then none else some (effectiveRowCap a b) := by
  unfold rowLimit effectiveRowCap
  rcases a with _ | a <;> rcases b with _ | b <;> simp

lemma mem_of_positionalError (hr : r.positionalError = none) {row : List DbValue} (hrow : row ∈ r.rows) :
    row.length = r.columns.length := by
  unfold StatementResult.positionalError at hr
  split at hr
  · cases hr
  · obtain ⟨i, hi, hget⟩ := mem_iff_getElem.mp hrow
    have hrowi : (row, i) ∈ r.rows.zipIdx := by
      rw [List.mem_zipIdx_iff_getElem?]
      simp [hi, hget]
    simpa using List.findSome?_eq_none_iff.mp hr _ hrowi

lemma cellsFit_of_cellError {cap : Nat} (hcell : r.cellError cap = none) (hr : r.positionalError = none) : r.cellsFit cap = true := by
  simp only [StatementResult.cellsFit, all_eq_true]
  intro row hrow cell hmem
  have hlen := mem_of_positionalError hr hrow
  obtain ⟨i, hi, rfl⟩ := mem_iff_getElem.mp hmem
  have hcol : i < r.columns.length := hlen ▸ hi
  have hpair : (r.columns[i], row[i]) ∈ r.columns.zip row := by
    rw [mem_iff_getElem]
    exact ⟨i, by simpa [hlen] using hi, by simp⟩
  have hnone := List.findSome?_eq_none_iff.mp (List.findSome?_eq_none_iff.mp hcell row hrow) _ hpair
  simpa using hnone

lemma bytesWithin_spec (h : A.bytesWithin raw = .ok r) :
    r = raw ∧ ∃ used, A.wire.statementBytes raw = .ok used ∧ (A.caps.maxResultBytes = 0 ∨ used ≤ A.caps.maxResultBytes) := by
  obtain ⟨used, hused, hcap⟩ := bind_eq_ok.mp h
  split at hcap
  · cases hcap
  · next hover =>
    cases hcap
    exact ⟨rfl, used, hused, by omega⟩

lemma resultWithin_of {index : Nat} (hcells : A.caps.maxCellBytes = 0 ∨ r.cellsFit A.caps.maxCellBytes = true)
    (hbytes : ∃ used, A.wire.statementBytes r = .ok used ∧
      (A.caps.maxResultBytes = 0 ∨ used ≤ A.caps.maxResultBytes)) : resultWithin A.wire A.caps index r = .ok () := by
  obtain ⟨used, hused, hcap⟩ := hbytes
  unfold resultWithin
  rw [if_neg (by rintro ⟨hne, hfit⟩; rcases hcells with h | h <;> simp_all)]
  split
  · rfl
  · rw [hused, Except.bind, if_neg (by omega)]

lemma validateStatementResult_of_statementResult (h : A.statementResult stmt raw = .ok r) (index : Nat) :
    validateStatementResult A.wire A.caps index stmt.resultSelection stmt.maxRows.toNat r = .ok () := by
  have haffected : ∀ n, A.bytesWithin (.fromAffected n) = .ok r →
      r = .fromAffected n ∧ resultWithin A.wire A.caps index r = .ok () := by
    intro n hn
    obtain ⟨rfl, hbytes⟩ := bytesWithin_spec hn
    exact ⟨rfl, resultWithin_of (.inr rfl) hbytes⟩
  unfold Adapter.statementResult at h
  cases hsel : stmt.resultSelection with
  | discard =>
    simp only [hsel, Except.ok.injEq] at h
    subst h
    rfl
  | affectedRows =>
    simp only [hsel] at h
    obtain ⟨rfl, hwithin⟩ := haffected _ h
    simpa [validateStatementResult, noRows, StatementResult.fromAffected, Except.bind] using hwithin
  | rows =>
    simp only [hsel] at h
    split at h
    · obtain ⟨rfl, hwithin⟩ := haffected _ h
      have hrows : rowsWithin index (rowLimit stmt.maxRows.toNat A.caps.maxResultRows)
          (.fromAffected raw.rowsAffected) = .ok () := by
        cases rowLimit stmt.maxRows.toNat A.caps.maxResultRows <;> simp [rowsWithin, StatementResult.fromAffected]
      rw [validateStatementResult, hrows]
      exact hwithin
    · unfold Adapter.rowsResult at h
      split at h
      · cases h
      · next hcap =>
        obtain ⟨_, hcell, h⟩ := bind_eq_ok.mp h
        obtain ⟨_, hpos, h⟩ := bind_eq_ok.mp h
        obtain ⟨rfl, hbytes⟩ := bytesWithin_spec h
        rw [rejectWith_eq_ok] at hcell hpos
        have hcells : A.caps.maxCellBytes = 0 ∨ raw.cellsFit A.caps.maxCellBytes = true := by
          by_cases hzero : A.caps.maxCellBytes = 0
          · exact .inl hzero
          · rw [if_neg hzero] at hcell
            exact .inr (cellsFit_of_cellError hcell hpos)
        have hrows : ∀ n, rowsWithin index (rowLimit stmt.maxRows.toNat A.caps.maxResultRows)
            { raw with rowsAffected := n } = .ok () := by
          intro n
          rw [rowLimit_eq]
          split
          · rfl
          · simp only [rowsWithin]
            rw [if_neg (by omega)]
        rw [validateStatementResult, hrows]
        exact resultWithin_of hcells hbytes

end Checks

section Loop

variable (A : Adapter δ)

def Adapter.runAll : List TypedDbStatement → Database δ → Except Text (List StatementResult × Database δ)
  | [], db => .ok ([], db)
  | stmt :: rest, db =>
    (A.runStatement stmt db).bind fun out => (Adapter.runAll rest out.2).map fun tail => (out.1 :: tail.1, tail.2)

variable {A} {db db' : Database δ} {r : StatementResult}

lemma runAll_cons {stmt : TypedDbStatement} {rest : List TypedDbStatement} :
    A.runAll (stmt :: rest) db = .ok (results, db') ↔
      ∃ r mid tail, A.runStatement stmt db = .ok (r, mid) ∧ A.runAll rest mid = .ok (tail, db') ∧ results = r :: tail := by
  simp only [Adapter.runAll, bind_eq_ok, map_eq_ok, Prod.exists, Prod.mk.injEq]
  constructor
  · rintro ⟨r, mid, hstmt, tail, _, hrest, rfl, rfl⟩
    exact ⟨r, mid, tail, hstmt, hrest, rfl⟩
  · rintro ⟨r, mid, tail, hstmt, hrest, rfl⟩
    exact ⟨r, mid, hstmt, tail, db', hrest, rfl, rfl⟩

lemma runAll_append {xs ys : List TypedDbStatement}
    (h : A.runAll (xs ++ ys) db = .ok (results, db')) :
    ∃ rx ry mid, A.runAll xs db = .ok (rx, mid) ∧ A.runAll ys mid = .ok (ry, db') ∧ results = rx ++ ry := by
  induction xs generalizing db results with
  | nil => exact ⟨[], results, db, rfl, h, rfl⟩
  | cons stmt xs ih =>
    obtain ⟨r, mid, tail, hstmt, hrest, rfl⟩ := runAll_cons.mp h
    obtain ⟨rx, ry, mid', hx, hy, rfl⟩ := ih hrest
    exact ⟨r :: rx, ry, mid', runAll_cons.mpr ⟨r, mid, rx, hstmt, hx, rfl⟩, hy, rfl⟩

lemma runStatements_eq_runAll {receipt : GuestReceiptPersist} {total : Nat} (hlen : 2 ≤ results.length) :
    A.runStatements receipt total stmts results db = (A.runAll stmts db).map fun out => (results ++ out.1, out.2) := by
  induction stmts generalizing results db with
  | nil => simp [Adapter.runStatements, Adapter.runAll, Except.map]
  | cons stmt rest ih =>
    unfold Adapter.runStatements Adapter.runAll
    cases A.runStatement stmt db with
    | error e => rfl
    | ok out =>
      -- the prefix of two results is already behind
      have hskip : shouldSkipRemainingGuestWork (results ++ [out.1]) total receipt.guestRequestHash = false := by
        simp [shouldSkipRemainingGuestWork, show results.length ≠ 1 by omega]
      simp only [Except.bind, hskip]
      rw [ih (by simp; omega)]
      cases A.runAll rest out.2 <;> simp [Except.map]

lemma runStatement_spec {stmt : TypedDbStatement} (h : A.runStatement stmt db = .ok (r, db')) :
    ∃ raw, A.query stmt db = .ok (raw, db') ∧ A.statementResult stmt raw = .ok r := by
  obtain ⟨⟨raw, mid⟩, hquery, hmap⟩ := bind_eq_ok.mp h
  obtain ⟨r', hr', hpair⟩ := map_eq_ok.mp hmap
  cases hpair
  exact ⟨raw, hquery, hr'⟩

lemma runStatement_prune {created op : Text} (h : A.runStatement (pruneReceipts created op) db = .ok (r, db')) :
    db' = { db with receipts := db.receipts.prune created op } := by
  obtain ⟨raw, hquery, _⟩ := runStatement_spec h
  simp only [Adapter.query, hostStatement_prune, Except.ok.injEq, Prod.mk.injEq] at hquery
  exact hquery.2.symm

lemma runStatement_select {op : Text} (h : A.runStatement (selectReceipt op) db = .ok (r, db')) :
    db' = db ∧ r = receiptResult (db.receipts.prior op) := by
  obtain ⟨raw, hquery, hres⟩ := runStatement_spec h
  simp only [Adapter.query, hostStatement_select] at hquery
  obtain ⟨rfl, rfl⟩ := hquery
  refine ⟨rfl, ?_⟩
  simp only [Adapter.statementResult, selectReceipt, typedQuery, reduceCtorEq, if_false, Adapter.rowsResult] at hres
  split at hres
  · cases hres
  · obtain ⟨_, _, hres⟩ := bind_eq_ok.mp hres
    obtain ⟨_, _, hres⟩ := bind_eq_ok.mp hres
    exact (bytesWithin_spec hres).1

lemma runStatement_claim {created expires op hash : Text} (hnone : db.receipts.prior op = none)
    (h : A.runStatement (claimReceipt created expires op hash) db = .ok (r, db')) :
    db'.data = db.data ∧ db'.receipts.prior op = some ⟨op, utf8 "guestTyped", hash, .claimed, [], created, expires⟩ := by
  obtain ⟨raw, hquery, _⟩ := runStatement_spec h
  simp only [Adapter.query, hostStatement_claim] at hquery
  obtain ⟨_, rfl⟩ := hquery
  refine ⟨rfl, ?_⟩
  have hprior := ReceiptTable.prior_claim_self db.receipts
    ⟨op, utf8 "guestTyped", hash, .claimed, [], created, expires⟩
  simpa [hnone] using hprior

lemma runFinalize_claimed {payload op : Text} (h : A.runFinalize [finalizeClaimedPayload payload op] db = .ok db') :
    db'.data = db.data ∧ db'.receipts.prior op = (db.receipts.prior op).map (.finalize payload) := by
  obtain ⟨⟨raw, mid⟩, hquery, hend⟩ := bind_eq_ok.mp h
  cases hend
  simp only [Adapter.query, hostStatement_finalize] at hquery
  obtain ⟨_, rfl⟩ := hquery
  exact ⟨rfl, ReceiptTable.prior_update _ _ (ReceiptRow.operationId_finalize payload)⟩

lemma encodeGuestReplayPayload_eq {w : Wire} {reply : ExecuteReply} {payload : Text}
    (h : w.encodeGuestReplayPayload reply = .ok payload) : payload = w.encode reply := by
  by_cases hmax : guestTypedReplayPayloadMaxBytes < (w.encode reply).length
  · simp [Wire.encodeGuestReplayPayload, hmax] at h
  · simpa [Wire.encodeGuestReplayPayload, hmax] using h.symm

lemma runAll_guest
    (hguest : ∀ stmt ∈ stmts, hostStatement stmt = none) (h : A.runAll stmts db = .ok (results, db')) :
    db'.receipts = db.receipts ∧ List.Forall₂ (fun stmt r => ∀ index,
      validateStatementResult A.wire A.caps index stmt.resultSelection stmt.maxRows.toNat r = .ok ()) stmts results := by
  induction stmts generalizing db results with
  | nil =>
    cases h
    exact ⟨rfl, .nil⟩
  | cons stmt stmts ih =>
    obtain ⟨r, mid, tail, hstmt, hrest, rfl⟩ := runAll_cons.mp h
    obtain ⟨raw, hquery, hres⟩ := runStatement_spec hstmt
    rw [Adapter.query, hguest stmt (by simp)] at hquery
    obtain ⟨out, _, hout⟩ := map_eq_ok.mp hquery
    cases hout
    obtain ⟨hreceipts, hvalid⟩ := ih (fun s hs => hguest s (by simp [hs])) hrest
    exact ⟨hreceipts, .cons (validateStatementResult_of_statementResult hres) hvalid⟩

end Loop

end Bookclerk.Receipt
