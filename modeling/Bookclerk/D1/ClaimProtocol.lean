import Bookclerk.Lexical.Split
import Bookclerk.Receipt.Reply
import Bookclerk.System.Run

/-! `run_typed_atomic` on a request that needs a claim: every execution sends its HTTP batches one by
one, a batch is applied atomically when it reaches the database, and its reply may be lost. -/

namespace Bookclerk.D1

open Lexical Sql Db Receipt List

def containsText (t pat : Text) : Bool := (findText pat t).isSome

def isGuestReceiptStubInsert (sql : Text) : Bool :=
  containsText (toAsciiLowercase sql) (utf8 "insert into bookclerk_receipts") &&
    containsText (toAsciiLowercase sql) (utf8 "where not exists")

def wrapHasUngatedDdl (statements : List TypedDbStatement) : Bool :=
  ((statements.drop 2).take (statements.length - 1 - 2)).any fun s => statementIsDdl s.sql

def needsClaim (env : AdapterExecuteRequest) : Bool :=
  env.guestReceipt.guestStatementLen != 0 && decide (2 < env.request.statements.length) &&
    (env.request.statements.getLast?.any fun s => isGuestReceiptStubInsert s.sql) &&
      wrapHasUngatedDdl env.request.statements

/-- A guest request with both DDL and DML. Execution `i` was wrapped at its own clock and would store
its own payload. -/
structure MixedRequest where
  request : ExecuteRequest
  created : Nat → Text
  expires : Nat → Text
  payload : Nat → Text
  hasDdl : ∃ stmt ∈ request.statements, statementIsDdl stmt.sql = true
  hasDml : ∃ stmt ∈ request.statements, stmt.isDml = true

namespace MixedRequest

variable (req : MixedRequest)

abbrev operationId : Text := req.request.operationId

def isDml (k : Nat) : Bool := req.request.statements[k]?.any TypedDbStatement.isDml

def stub (i : Nat) : ReceiptRow where
  operationId := req.operationId
  operationKind := utf8 "guestTyped"
  requestHash := req.request.requestHash
  status := .claimed
  payload := []
  createdAt := req.created i
  expiresAt := req.expires i

lemma needsClaim_wrap (i : Nat) : needsClaim (wrapGuestTypedRequest (req.created i) (req.expires i) req.request) = true := by
  obtain ⟨stmt, hmem, hddl⟩ := req.hasDdl
  have hne : req.request.statements ≠ [] := ne_nil_of_mem hmem
  have hsame : gateStatement req.operationId stmt = stmt := by
    simp [gateStatement, TypedDbStatement.isDml, hddl]
  have hstub : isGuestReceiptStubInsert
      (claimReceipt (req.created i) (req.expires i) req.operationId req.request.requestHash).sql = true := by
    show isGuestReceiptStubInsert (claimReceipt [] [] [] []).sql = true
    decide +kernel
  have hlen : 0 < req.request.statements.length := length_pos_iff.mpr hne
  have hany : wrapHasUngatedDdl
      (wrapGuestTypedRequest (req.created i) (req.expires i) req.request).request.statements = true := by
    simp only [wrapHasUngatedDdl, wrapGuestTypedRequest, drop_succ_cons, drop_zero, any_eq_true]
    refine ⟨stmt, ?_, hddl⟩
    rw [take_left' (by simp)]
    exact mem_map.mpr ⟨stmt, hmem, hsame⟩
  simp only [needsClaim, hany, Bool.and_true, Bool.and_eq_true, bne_iff_ne]
  refine ⟨⟨?_, ?_⟩, ?_⟩
  · show min req.request.statements.length (2 ^ 32 - 1) ≠ 0
    omega
  · simp [wrapGuestTypedRequest]
  · simp only [wrapGuestTypedRequest, ← cons_append, getLast?_concat, Option.any_some, hstub]

end MixedRequest

inductive Batch where
  | claim
  | peek
  | guest
  | finalize
  deriving DecidableEq

inductive Reply where
  | affected (n : Nat)
  | rows (row : Option ReceiptRow)

structure Database where
  receipts : ReceiptTable
  effects : Nat → Nat

/-- What the batch of execution `i` does: `guest` is `prune`, the guest statements without their gate
and the `applied` mark, in one transaction. -/
def Database.apply (req : MixedRequest) (i : Nat) (db : Database) : Batch → Database × Reply
  | .claim =>
    let inserted := db.receipts.claim (req.stub i)
    ({ db with receipts := inserted.1 }, .affected inserted.2)
  | .peek => (db, .rows (db.receipts.prior req.operationId))
  | .guest =>
    ({ receipts := (db.receipts.prune (req.created i) req.operationId).update req.operationId .markApplied
       effects := fun k => db.effects k + if req.isDml k then 1 else 0 }, .affected 0)
  | .finalize =>
    ({ db with receipts := db.receipts.update req.operationId (.finalize (req.payload i)) }, .affected 0)

structure Message where
  id : Nat
  owner : Nat
  batch : Batch
  deriving DecidableEq

inductive Phase where
  | idle
  | waiting (id : Nat) (batch : Batch) (attempt : Nat)
  | finished
  deriving DecidableEq

structure Hosts where
  database : Database
  phase : Nat → Phase
  network : List Message
  nextId : Nat

def atomicHttpAttempts : Nat := 3

namespace Hosts

def initial (receipts : ReceiptTable) : Hosts where
  database := ⟨receipts, fun _ => 0⟩
  phase := fun _ => .idle
  network := []
  nextId := 0

def send (s : Hosts) (i : Nat) (batch : Batch) (attempt : Nat) : Hosts :=
  { s with
    phase := Function.update s.phase i (.waiting s.nextId batch attempt)
    network := s.network ++ [⟨s.nextId, i, batch⟩]
    nextId := s.nextId + 1 }

def finish (s : Hosts) (i : Nat) : Hosts :=
  { s with phase := Function.update s.phase i .finished }

end Hosts

def shouldResumeGuest (req : MixedRequest) (row : Option ReceiptRow) : Bool :=
  row.any fun r => r.status = .claimed && r.requestHash == req.request.requestHash

def onReply (req : MixedRequest) (i : Nat) (s : Hosts) : Batch → Reply → Hosts
  | .claim, .affected n => if 0 < n then s.send i .guest 0 else s.send i .peek 0
  | .peek, .rows row => if shouldResumeGuest req row then s.send i .guest 0 else s.finish i
  | .guest, _ => s.send i .finalize 0
  | _, _ => s.finish i

def onAmbiguous (i : Nat) (s : Hosts) : Batch → Nat → Hosts
  | .claim, attempt =>
    if attempt + 1 < atomicHttpAttempts then s.send i .claim (attempt + 1) else s.finish i
  | _, _ => s.finish i

inductive Action where
  | start (i : Nat)
  | execute (n : Nat) (replied : Bool)
  | drop (n : Nat)
  | giveUp (i : Nat)
  | stop (i : Nat)
  deriving DecidableEq

def step (req : MixedRequest) (s : Hosts) : Action → Option Hosts
  | .start i => if s.phase i = .idle then some (s.send i .claim 0) else none
  | .execute n replied =>
    s.network[n]?.bind fun m =>
      let outcome := s.database.apply req m.owner m.batch
      let s' := { s with database := outcome.1, network := s.network.eraseIdx n }
      if replied then
        match s.phase m.owner with
        | .waiting id batch _ =>
          if id = m.id ∧ batch = m.batch then some (onReply req m.owner s' m.batch outcome.2) else none
        | _ => none
      else some s'
  | .drop n => if n < s.network.length then some { s with network := s.network.eraseIdx n } else none
  | .giveUp i =>
    match s.phase i with
    | .waiting _ batch attempt => some (onAmbiguous i s batch attempt)
    | _ => none
  | .stop i => some (s.finish i)

end Bookclerk.D1
