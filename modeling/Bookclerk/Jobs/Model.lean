import Mathlib.Algebra.Ring.Nat
import Bookclerk.Db.ReadCommitted
import Bookclerk.Lexical.Automaton

/-! The rows of the `jobs` table and what the job queue reads from them. Times are stamps in
nanoseconds; the RFC 3339 texts the library stores sort as the stamps do. -/

namespace Bookclerk.Jobs

open Lexical Db

abbrev Stamp := Nat

def afterSecs (now : Stamp) (secs : Nat) : Stamp :=
  now + secs * 1000000000

inductive JobKind where
  | scan
  | acquire
  | listenSync
  | integrationScan
  | pluginCopy
  | invalid
  deriving DecidableEq

inductive JobState where
  | pending
  | running
  | succeeded
  | failed
  | cancelled
  deriving DecidableEq

def JobState.isActive : JobState → Bool
  | .pending | .running => true
  | .succeeded | .failed | .cancelled => false

def JobState.isTerminal : JobState → Bool
  | .pending | .running => false
  | .succeeded | .failed | .cancelled => true

inductive JobResourceClass where
  | network
  | media
  | transcription
  | indexing
  deriving DecidableEq

def JobKind.resourceClass (_ : JobKind) : JobResourceClass :=
  .network

inductive JobTrigger where
  | api
  | scheduler
  deriving DecidableEq

structure JobCheckpoint where
  schemaVersion : Nat
  json : Text
  deriving DecidableEq

def jobPayloadVersion : Nat :=
  1

structure JobPayload where
  v : Nat := jobPayloadVersion
  account : Option Text := none
  title : Option Text := none
  trigger : JobTrigger := .api
  integrationId : Option Text := none
  force : Bool := false
  pluginId : Option Text := none
  sourceKey : Option Text := none
  destKey : Option Text := none
  checkpoint : Option JobCheckpoint := none
  invocationSequence : Option Nat := none
  resumePending : Bool := false
  deriving DecidableEq

inductive Stored (α : Type) where
  | known (a : α)
  | unknown (text : Text)
  deriving DecidableEq

def Stored.known? {α : Type} : Stored α → Option α
  | .known a => some a
  | .unknown _ => none

structure Job where
  id : Text
  kind : Stored JobKind
  state : JobState
  priority : Int
  resourceClass : Stored JobResourceClass
  payload : Stored JobPayload
  progress : Option Text
  attemptCount : Int
  maxAttempts : Int
  runAfter : Stamp
  leaseOwner : Option Text
  leaseExpiresAt : Option Stamp
  dedupKey : Text
  errorKind : Option Text
  errorMessage : Option Text
  cancelRequested : Bool
  createdAt : Stamp
  updatedAt : Stamp
  startedAt : Option Stamp
  finishedAt : Option Stamp
  leaseGeneration : Int
  deriving DecidableEq

structure JobRecord where
  row : Job
  kind : JobKind
  resourceClass : JobResourceClass
  payload : JobPayload
  deriving DecidableEq

def tryMapJob (m : Job) : Except Text JobRecord :=
  match m.kind with
  | .unknown text => .error (utf8 "unknown job kind `" ++ text ++ utf8 "`")
  | .known kind =>
    match m.resourceClass with
    | .unknown text => .error (utf8 "unknown job resource class `" ++ text ++ utf8 "`")
    | .known resourceClass =>
      match m.payload with
      | .unknown err => .error (utf8 "malformed job payload JSON: " ++ err)
      | .known payload =>
        if payload.v = jobPayloadVersion then .ok ⟨m, kind, resourceClass, payload⟩
        else
          .error (utf8 "unsupported job payload version " ++ utf8 (toString payload.v) ++ utf8 " (expected " ++
            utf8 (toString jobPayloadVersion) ++ utf8 ")")

lemma tryMapJob_ok {m : Job} {record : JobRecord} (h : tryMapJob m = .ok record) : record.row = m ∧ m.payload = .known record.payload := by
  rw [tryMapJob] at h
  split at h
  · cases h
  · split at h
    · cases h
    · split at h
      · cases h
      · next hpayload =>
        split_ifs at h
        cases h
        exact ⟨rfl, hpayload⟩

lemma tryMapJob_row {m : Job} {record : JobRecord} (h : tryMapJob m = .ok record) : record.row = m :=
  (tryMapJob_ok h).1

def pendingJob (id : Text) : Job where
  id := id
  kind := .known .scan
  state := .pending
  priority := 0
  resourceClass := .known .network
  payload := .known {}
  progress := none
  attemptCount := 0
  maxAttempts := 3
  runAfter := 0
  leaseOwner := none
  leaseExpiresAt := none
  dedupKey := utf8 "scan:all"
  errorKind := none
  errorMessage := none
  cancelRequested := false
  createdAt := 0
  updatedAt := 0
  startedAt := none
  finishedAt := none
  leaseGeneration := 0

structure JobFence where
  jobId : Text
  owner : Text
  generation : Int
  deriving DecidableEq

def JobRecord.fence (r : JobRecord) : Option JobFence :=
  r.row.leaseOwner.map fun owner => ⟨r.row.id, owner, r.row.leaseGeneration⟩

def JobFence.owns (f : JobFence) (j : Job) : Bool :=
  j.state = .running && j.leaseOwner = some f.owner && j.leaseGeneration = f.generation

abbrev JobTable := Table Job.id

abbrev JobStmt := Stmt Job.id

abbrev Issued := Except Text (Option JobStmt)

def maxCheckpointBytes : Nat :=
  65536

def leaseExpiry (now : Stamp) (leaseSecs : Nat) : Stamp :=
  afterSecs now (if leaseSecs < 2 ^ 63 then leaseSecs else 60)

def jobBackoffRunAfter (attemptCount : Int) (now : Stamp) : Stamp :=
  afterSecs now (min (5 * 2 ^ (min (attemptCount - 1).toNat 8)) 900)

def fenced (f : JobFence) (set : Job → Job) (h : ∀ j, (set j).id = j.id) : JobStmt :=
  ⟨f.jobId, f.owns, set, h⟩

def heartbeatJob (f : JobFence) (leaseSecs : Nat) (progress : Option Text) (now : Stamp) : JobStmt :=
  fenced f (fun j => { j with
    leaseExpiresAt := some (leaseExpiry now leaseSecs)
    updatedAt := now
    progress := progress.or j.progress }) fun _ => rfl

def setJobProgress (f : JobFence) (progress : Text) (now : Stamp) : JobStmt :=
  fenced f (fun j => { j with progress := some progress, updatedAt := now }) fun _ => rfl

def completeJob (f : JobFence) (progress : Option Text) (now : Stamp) : JobStmt :=
  fenced f (fun j => { j with
    state := .succeeded
    leaseOwner := none
    leaseExpiresAt := none
    finishedAt := some now
    updatedAt := now
    progress := progress.or j.progress }) fun _ => rfl

def checkpointTooLong (checkpoint : JobCheckpoint) : Text :=
  utf8 "checkpoint of " ++ utf8 (toString checkpoint.json.length) ++ utf8 " bytes exceeds " ++
    utf8 (toString maxCheckpointBytes)

def suspendJob (model : Option Job) (f : JobFence) (checkpoint : JobCheckpoint) (wakeAt now : Stamp) : Issued :=
  match model.filter f.owns with
  | none => .ok none
  | some m =>
    match m.payload with
    | .unknown err => .error (utf8 "job payload: " ++ err)
    | .known payload =>
      if checkpoint.json.length > maxCheckpointBytes then .error (checkpointTooLong checkpoint)
      else
        let payload := { payload with
          checkpoint := some checkpoint
          resumePending := true
          invocationSequence := some (min (payload.invocationSequence.getD 1 + 1) (2 ^ 32 - 1)) }
        .ok (some (fenced f (fun j => { j with
          state := .pending
          payload := .known payload
          runAfter := wakeAt
          leaseOwner := none
          leaseExpiresAt := none
          progress := some (utf8 "suspended")
          updatedAt := now }) fun _ => rfl))

def checkpointRunningJob (model : Option Job) (f : JobFence) (checkpoint : JobCheckpoint) (now : Stamp) : Issued :=
  match model.filter f.owns with
  | none => .ok none
  | some m =>
    if checkpoint.json.length > maxCheckpointBytes then .error (checkpointTooLong checkpoint)
    else
      match m.payload with
      | .unknown err => .error (utf8 "job payload: " ++ err)
      | .known payload =>
        let payload := { payload with checkpoint := some checkpoint }
        .ok (some (fenced f (fun j => { j with payload := .known payload, updatedAt := now }) fun _ => rfl))

/-- What `mark_job_cancelled_cas` writes. -/
def cancelledRow (now : Stamp) (j : Job) : Job :=
  { j with
    state := .cancelled
    cancelRequested := true
    errorKind := some (utf8 "cancelled")
    errorMessage := some (utf8 "cancelled by operator")
    leaseOwner := none
    leaseExpiresAt := none
    finishedAt := some now
    updatedAt := now }

def expiredBy (now : Stamp) (j : Job) : Bool :=
  j.leaseExpiresAt.all (· ≤ now)

/-- `mark_job_cancelled_cas` without a fence. -/
def cancelPendingJob (id : Text) (now : Stamp) : JobStmt :=
  ⟨id, fun j => j.state = .pending, cancelledRow now, fun _ => rfl⟩

/-- `mark_job_cancelled_cas` with a fence. -/
def cancelFencedJob (f : JobFence) (expiredBefore : Option Stamp) (now : Stamp) : JobStmt :=
  ⟨f.jobId, fun j => f.owns j && expiredBefore.all (expiredBy · j), cancelledRow now, fun _ => rfl⟩

def failJob (model : Option Job) (f : JobFence) (errorKind errorMessage : Text) (now : Stamp) : Issued :=
  match model.filter f.owns with
  | none => .ok none
  | some m =>
    if m.cancelRequested then .ok (some (cancelFencedJob f none now))
    else
      let retry : Bool := m.attemptCount < m.maxAttempts
      let retryPayload : Option JobPayload :=
        if retry then (m.payload.known?.filter (·.resumePending)).map ({ · with resumePending := false }) else none
      .ok (some (fenced f (fun j => { j with
        state := if retry then .pending else .failed
        errorKind := some errorKind
        errorMessage := some errorMessage
        leaseOwner := none
        leaseExpiresAt := none
        runAfter := if retry then jobBackoffRunAfter m.attemptCount now else m.runAfter
        finishedAt := if retry then none else some now
        updatedAt := now
        payload := (retryPayload.map Stored.known).getD j.payload }) fun _ => rfl))

/-- The flag of `request_job_cancel` on a running row. -/
def flagJobCancel (id : Text) (now : Stamp) : JobStmt :=
  ⟨id, fun j => j.state = .running, fun j => { j with cancelRequested := true, updatedAt := now }, fun _ => rfl⟩

/-- One row of `reclaim_expired_leases`, as it was read. -/
def reclaimExpiredLease (m : Job) (now : Stamp) : Option JobStmt :=
  if !expiredBy now m then none
  else if m.cancelRequested then some (cancelFencedJob ⟨m.id, m.leaseOwner.getD [], m.leaseGeneration⟩ (some now) now)
  else
    let terminal : Bool := m.attemptCount ≥ m.maxAttempts
    some ⟨m.id, fun j => j.state = .running && j.leaseGeneration = m.leaseGeneration && expiredBy now j,
      fun j => { j with
        state := if terminal then .failed else .pending
        leaseOwner := none
        leaseExpiresAt := none
        errorKind := some (utf8 "lease_expired")
        errorMessage := some (utf8 "worker lease expired; reclaiming after restart")
        runAfter := now
        finishedAt := if terminal then some now else none
        updatedAt := now }, fun _ => rfl⟩

def invalidRow (reason : Text) (now : Stamp) (j : Job) : Job :=
  { j with
    kind := .known .invalid
    resourceClass := .known .network
    payload := .known {}
    state := .failed
    errorKind := some (utf8 "invalid_job")
    errorMessage := some reason
    finishedAt := some now
    updatedAt := now }

def markInvalidJob (id reason : Text) (now : Stamp) : JobStmt :=
  ⟨id, fun j => j.state.isActive, fun j => { invalidRow reason now j with leaseOwner := none, leaseExpiresAt := none },
    fun _ => rfl⟩

def markPendingJobInvalid (id reason : Text) (now : Stamp) : JobStmt :=
  ⟨id, fun j => j.state = .pending, invalidRow reason now, fun _ => rfl⟩

/-- A flagged candidate of `claim_next_job_on`. -/
def cancelCandidate (id : Text) (now : Stamp) : JobStmt :=
  ⟨id, fun j => j.state = .pending,
    fun j => { j with state := .cancelled, cancelRequested := true, finishedAt := some now, updatedAt := now }, fun _ => rfl⟩

/-- The claim of `claim_next_job_on`, from the candidate as it was read. -/
def claimCandidate (m : Job) (payload : JobPayload) (owner : Text) (leaseExpires now : Stamp) : JobStmt :=
  let resuming := payload.resumePending
  ⟨m.id, fun j => j.state = .pending,
    fun j => { j with
      state := .running
      attemptCount := if resuming then max m.attemptCount 1 else m.attemptCount + 1
      leaseOwner := some owner
      leaseExpiresAt := some leaseExpires
      leaseGeneration := m.leaseGeneration + 1
      startedAt := some (m.startedAt.getD now)
      updatedAt := now
      errorKind := none
      errorMessage := none
      payload := if resuming then .known { payload with resumePending := false } else j.payload }, fun _ => rfl⟩

def soleSession : Fin 1 := 0

end Bookclerk.Jobs
