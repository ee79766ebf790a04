import Bookclerk.Receipt.Envelope

namespace Bookclerk.Receipt

open Lexical

inductive ReceiptStatus where
  | claimed
  | applied
  | ok
  deriving DecidableEq

structure ReceiptRow where
  operationId : Text
  operationKind : Text
  requestHash : Text
  status : ReceiptStatus
  payload : Text
  createdAt : Text
  expiresAt : Text
  deriving DecidableEq

namespace ReceiptRow

def markApplied (row : ReceiptRow) : ReceiptRow :=
  if row.status = .claimed then { row with status := .applied } else row

def finalize (payload : Text) (row : ReceiptRow) : ReceiptRow :=
  if row.status = .claimed ∨ row.status = .applied then { row with payload := payload, status := .ok } else row

end ReceiptRow

abbrev ReceiptTable := List ReceiptRow

namespace ReceiptTable

def prior (table : ReceiptTable) (operationId : Text) : Option ReceiptRow :=
  table.find? fun row => row.operationId == operationId

def prune (created operationId : Text) (table : ReceiptTable) : ReceiptTable :=
  table.filter fun row => !(decide (row.expiresAt ≤ created) && row.operationId != operationId)

def claim (row : ReceiptRow) (table : ReceiptTable) : ReceiptTable × Nat :=
  if (table.prior row.operationId).isSome then (table, 0) else (table ++ [row], 1)

def update (operationId : Text) (f : ReceiptRow → ReceiptRow) (table : ReceiptTable) : ReceiptTable :=
  table.map fun row => if row.operationId = operationId then f row else row

variable (table : ReceiptTable) (operationId : Text)

@[simp] lemma prior_prune (created : Text) : (table.prune created operationId).prior operationId = table.prior operationId := by
  induction table with
  | nil => rfl
  | cons row table ih =>
    by_cases hop : row.operationId = operationId
    · simp [prune, prior, hop]
    · have hskip : prior (row :: table) operationId = prior table operationId := by
        simp [prior, hop]
      rw [hskip, ← ih]
      by_cases hexp : row.expiresAt ≤ created
      · simp [prune, hop, hexp]
      · simp [prune, prior, hop]

@[simp] lemma prior_claim_self (row : ReceiptRow) :
    (table.claim row).1.prior row.operationId = some ((table.prior row.operationId).getD row) := by
  unfold claim
  cases hrow : table.prior row.operationId with
  | some row' => simp [hrow]
  | none =>
    rw [prior] at hrow
    simp [prior, hrow]

@[simp] lemma prior_update {f : ReceiptRow → ReceiptRow}
    (hf : ∀ row, (f row).operationId = row.operationId) :
    (table.update operationId f).prior operationId = (table.prior operationId).map f := by
  induction table with
  | nil => rfl
  | cons row table ih =>
    by_cases hop : row.operationId = operationId
    · simp [update, prior, hop, hf]
    · simpa [update, prior, hop] using ih

end ReceiptTable

lemma ReceiptRow.operationId_markApplied (row : ReceiptRow) : row.markApplied.operationId = row.operationId := by
  unfold markApplied
  split <;> rfl

lemma ReceiptRow.operationId_finalize (payload : Text) (row : ReceiptRow) : (row.finalize payload).operationId = row.operationId := by
  unfold finalize
  split <;> rfl

open Sql Db

structure DbColumn where
  name : Text
  dbType : DbType
  deriving DecidableEq

structure StatementResult where
  rows : List (List DbValue)
  columns : List DbColumn
  rowsAffected : Nat
  deriving DecidableEq

def firstDuplicate (seen : List Text) : List Text → Option Text
  | [] => none
  | name :: names => if name ∈ seen then some name else firstDuplicate (name :: seen) names

namespace StatementResult

def fromAffected (n : Nat) : StatementResult := ⟨[], [], n⟩

def positionalError (r : StatementResult) : Option Text :=
  match firstDuplicate [] (r.columns.map (·.name)) with
  | some name => some (utf8 "duplicate result column name `" ++ name ++ utf8 "`")
  | none =>
    r.rows.zipIdx.findSome? fun (row, i) =>
      if row.length = r.columns.length then none
      else some (utf8 ("result row " ++ toString i ++ " has " ++ toString row.length ++ " values; columns has " ++
        toString r.columns.length))

def cell (r : StatementResult) (name : Text) (index : Nat) : Option DbValue :=
  r.rows.head?.bind fun row =>
    row[(r.columns.findIdx? fun c => eqIgnoreAsciiCase c.name name).getD index]?

end StatementResult

structure DbTiming where
  attemptElapsedUs : Nat
  dbExecutionUs : Nat
  dbTimingSource : Text
  deriving DecidableEq

structure ExecuteReply where
  operationId : Text
  statements : List StatementResult
  timing : DbTiming
  deriving DecidableEq

def ExecuteReply.positionalError (reply : ExecuteReply) : Option Text :=
  reply.statements.zipIdx.findSome? fun (stmt, i) =>
    stmt.positionalError.map fun err => utf8 ("statement " ++ toString i ++ ": ") ++ err

def rejectWith : Option Text → Except Text Unit
  | some err => .error err
  | none => .ok ()

def receiptHashFrom (stmt : StatementResult) : Option Text :=
  match stmt.cell (utf8 "request_hash") 1 with
  | some (.text s) => some s
  | _ => none

def nonEmptyText : Option DbValue → Option Text
  | some (.text s) => if s.isEmpty then none else some s
  | _ => none

def receiptStatusFrom (stmt : StatementResult) : Option Text := nonEmptyText (stmt.cell (utf8 "status") 2)

def receiptPayloadText (stmt : StatementResult) : Option Text := nonEmptyText (stmt.cell (utf8 "payload") 3)

def priorReceiptIsClaimed (stmt : StatementResult) : Bool := receiptStatusFrom stmt == some (utf8 "claimed")

def priorReceiptShouldResumeGuest (stmt : StatementResult) (guestHash : Text) : Bool :=
  priorReceiptIsClaimed stmt && receiptHashFrom stmt == some guestHash

def shouldSkipRemainingGuestWork (results : List StatementResult) (total : Nat) (guestHash : Text) : Bool :=
  results.length == 2 && decide (2 < total) && (results[1]?.any fun prior =>
    (receiptHashFrom prior).isSome && !priorReceiptShouldResumeGuest prior guestHash)

def padSkippedGuestResults (results : List StatementResult) (total : Nat) : List StatementResult :=
  results ++ List.replicate (total - results.length) (.fromAffected 0)

structure Wire where
  statementBytes : StatementResult → Except Text Nat
  replyBytes : ExecuteReply → Except Text Nat
  encode : ExecuteReply → Text
  decode : Text → Option ExecuteReply

def guestTypedReplayPayloadMaxBytes : Nat := 65536

def wrongShape (n expected : Nat) : Text :=
  utf8 ("guest atomic receipt wrap returned " ++ toString n ++ " statements; expected " ++ toString expected)

def guestReceiptResultLost : Text :=
  utf8 "guest receipt committed without payload; original response lost"

def finalizeClaimedPayload (payload operationId : Text) : TypedDbStatement :=
  typedExec ("UPDATE bookclerk_receipts SET payload = ?, status = 'ok' " ++
    "WHERE operation_id = ? AND status IN ('claimed', 'applied')") [.text payload, .text operationId]

def isGatedGuestReplay (reply : ExecuteReply) (prior : StatementResult) : Bool :=
  !prior.rows.isEmpty && !priorReceiptIsClaimed prior && (receiptPayloadText prior).isNone &&
    reply.statements.getLast?.any fun stub => stub.rowsAffected == 0

def stubRowsAffected (reply : ExecuteReply) : Nat := (reply.statements.getLast?.map (·.rowsAffected)).getD 0

def guestSliceReply (reply : ExecuteReply) (guestLen : Nat) : ExecuteReply :=
  { reply with statements := (reply.statements.drop 2).take guestLen }

def Wire.encodeGuestReplayPayload (w : Wire) (reply : ExecuteReply) : Except Text Text :=
  let text := w.encode reply
  if guestTypedReplayPayloadMaxBytes < text.length then
    .error (utf8 ("guest replay payload is " ++ toString text.length ++ " bytes; max is 65536"))
  else .ok text

def Wire.finalizeWithPayload (w : Wire) (reply : ExecuteReply) (guestLen : Nat) :
    Except Text (List TypedDbStatement) :=
  (w.encodeGuestReplayPayload (guestSliceReply reply guestLen)).map fun payload =>
    [finalizeClaimedPayload payload reply.operationId]

def Wire.guestReceiptFinalizeStmts (w : Wire) (reply : ExecuteReply) (guestLen : Nat) (guestHash : Text) :
    Except Text (List TypedDbStatement) :=
  if reply.statements.length ≠ 2 + guestLen + 1 then
    .error (wrongShape reply.statements.length (2 + guestLen + 1))
  else
    let prior := (reply.statements[1]?).getD (.fromAffected 0)
    match receiptHashFrom prior with
    | none => w.finalizeWithPayload reply guestLen
    | some priorHash =>
      if priorHash ≠ guestHash then .ok []
      else if (receiptPayloadText prior).isSome then .ok []
      else if isGatedGuestReplay reply prior then .error guestReceiptResultLost
      else if priorReceiptIsClaimed prior && stubRowsAffected reply == 0 then .ok []
      else w.finalizeWithPayload reply guestLen

def maxScalarBytes : Nat := 262144

/-- The caps that replies are held to (`0` is no cap). The host admits no adapter whose atomic result
cap is above a scalar. -/
structure ReplyCaps where
  maxResultRows : Nat
  maxCellBytes : Nat
  maxResultBytes : Nat
  maxAtomicResultBytes : Nat
  admitted : maxAtomicResultBytes ≤ maxScalarBytes

def dbValueCellLen : DbValue → Nat
  | .text s => s.length
  | .bytes b => b.length
  | _ => 0

def StatementResult.cellsFit (r : StatementResult) (cap : Nat) : Bool :=
  r.rows.all fun row => row.all fun cell => decide (dbValueCellLen cell ≤ cap)

def rowLimit (stmtMaxRows capsMaxResultRows : Nat) : Option Nat :=
  match stmtMaxRows, capsMaxResultRows with
  | 0, 0 => none
  | a, 0 => some a
  | 0, b => some b
  | a, b => some (min a b)

def atStatement (index : Nat) (what : String) : Text :=
  utf8 ("execute reply statement " ++ toString index ++ " " ++ what)

def noRows (index : Nat) (selection : String) (stmt : StatementResult) : Except Text Unit :=
  if !stmt.rows.isEmpty then
    .error (atStatement index ("returned " ++ toString stmt.rows.length ++ " rows for " ++ selection ++ " selection"))
  else if !stmt.columns.isEmpty then
    .error (atStatement index ("returned columns for " ++ selection ++ " selection"))
  else .ok ()

def rowsWithin (index : Nat) (limit : Option Nat) (stmt : StatementResult) : Except Text Unit :=
  match limit with
  | none => .ok ()
  | some cap =>
    let nRows := min stmt.rows.length (2 ^ 32 - 1)
    if cap < nRows then
      .error (atStatement index ("returned " ++ toString nRows ++ " rows; limit is " ++ toString cap))
    else .ok ()

def resultWithin (w : Wire) (caps : ReplyCaps) (index : Nat) (stmt : StatementResult) : Except Text Unit :=
  if caps.maxCellBytes ≠ 0 ∧ stmt.cellsFit caps.maxCellBytes = false then
    .error (atStatement index ("cell exceeds guest maxCellBytes " ++ toString caps.maxCellBytes))
  else if caps.maxResultBytes = 0 then .ok ()
  else (w.statementBytes stmt).bind fun bytes =>
    if caps.maxResultBytes < bytes then
      .error (atStatement index ("encoded result is " ++ toString bytes ++ " bytes; guest maxResultBytes is " ++
        toString caps.maxResultBytes))
    else .ok ()

def validateStatementResult (w : Wire) (caps : ReplyCaps) (index : Nat) (selection : ResultSelection)
    (stmtMaxRows : Nat) (stmt : StatementResult) : Except Text Unit :=
  match selection with
  | .affectedRows => (noRows index "affectedRows" stmt).bind fun _ => resultWithin w caps index stmt
  | .discard => noRows index "discard" stmt
  | .rows => (rowsWithin index (rowLimit stmtMaxRows caps.maxResultRows) stmt).bind fun _ =>
    resultWithin w caps index stmt

def validateStatements (w : Wire) (caps : ReplyCaps) :
    Nat → List TypedDbStatement → List StatementResult → Except Text Unit
  | index, req :: reqs, stmt :: stmts =>
    (validateStatementResult w caps index req.resultSelection req.maxRows.toNat stmt).bind fun _ =>
      validateStatements w caps (index + 1) reqs stmts
  | _, _, _ => .ok ()

def replyWithin (w : Wire) (caps : ReplyCaps) (reply : ExecuteReply) : Except Text Unit :=
  if caps.maxAtomicResultBytes = 0 then .ok ()
  else (w.replyBytes reply).bind fun bytes =>
    let cap := min caps.maxAtomicResultBytes maxScalarBytes
    if cap < bytes then
      .error (utf8 ("execute reply is " ++ toString bytes ++ " bytes; guest maxAtomicResultBytes is " ++ toString cap))
    else .ok ()

def validateExecuteReply (w : Wire) (caps : ReplyCaps) (req : ExecuteRequest) (reply : ExecuteReply) :
    Except Text Unit :=
  (rejectWith reply.positionalError).bind fun _ =>
  if reply.operationId ≠ req.operationId then
    .error (utf8 "execute reply operationId \"" ++ reply.operationId ++ utf8 "\" does not echo " ++ req.operationId)
  else if reply.statements.length ≠ req.statements.length then
    .error (utf8 ("execute reply has " ++ toString reply.statements.length ++ " statements; request has " ++
      toString req.statements.length))
  else (validateStatements w caps 0 req.statements reply.statements).bind fun _ => replyWithin w caps reply

inductive PluginError where
  | conflict (message : Text)
  | unavailable (message : Text)
  | internal (message : Text)
  deriving DecidableEq

def conflictingHash : PluginError :=
  .conflict (utf8 "executeAtomic operationId was already committed with a different requestHash")

def emptyGuestPayload : PluginError :=
  .unavailable (utf8 "executeAtomic committed with an empty guest receipt payload; retry after finalize")

def guestSliceIsGatedNoop (reply : ExecuteReply) (guestLen : Nat) : Bool :=
  ((reply.statements.drop 2).take guestLen).all fun stmt => stmt.rows.isEmpty && stmt.rowsAffected == 0

def replayStored (w : Wire) (caps : ReplyCaps) (guestReq : ExecuteRequest) (payload : Text) :
    Except PluginError ExecuteReply :=
  match w.decode payload with
  | none => .error (.internal (utf8 "guest replay payload is not valid JSON"))
  | some replayed =>
    match validateExecuteReply w caps guestReq replayed with
    | .error message => .error (.unavailable message)
    | .ok () => .ok replayed

def unwrapGuestTypedReply (w : Wire) (caps : ReplyCaps) (guestReq : ExecuteRequest) (reply : ExecuteReply) :
    Except PluginError ExecuteReply :=
  let guestLen := guestReq.statements.length
  let prior := (reply.statements[1]?).getD (.fromAffected 0)
  if reply.statements.length ≠ 2 + guestLen + 1 then
    .error (.internal (wrongShape reply.statements.length (2 + guestLen + 1)))
  else
    match receiptHashFrom prior, receiptPayloadText prior with
    | none, _ => .ok (guestSliceReply reply guestLen)
    | some priorHash, payload =>
      if priorHash ≠ guestReq.requestHash then .error conflictingHash
      else
        match payload with
        | some text => replayStored w caps guestReq text
        | none =>
          if !priorReceiptIsClaimed prior || guestSliceIsGatedNoop reply guestLen then .error emptyGuestPayload
          else .ok (guestSliceReply reply guestLen)

end Bookclerk.Receipt
