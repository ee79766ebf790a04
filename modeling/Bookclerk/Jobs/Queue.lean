import Bookclerk.Jobs.Model
import Bookclerk.System.Run
import Mathlib.Data.List.Sort

/-! The job queue as a system: local claim transactions, one statement at a time, against the calls
of workers and operators. A call that reads and later writes carries what it has read, however old. -/

namespace Bookclerk.Jobs

open Lexical Db

def jobQueueSlot : Text :=
  utf8 "job-queue"

inductive ClaimPhase where
  | sanitize (left : List Job)
  | scan (left : List Job)
  | done (claimed : Option Text)
  deriving DecidableEq

structure JobClaim where
  resourceClass : JobResourceClass
  owner : Text
  leaseExpires : Stamp
  now : Stamp
  phase : ClaimPhase
  deriving DecidableEq

/-- The pending rows of unknown class that `sanitize_unreadable_pending_on` reads. -/
def unreadablePending (rows : List Job) : List Job :=
  (rows.filter fun j => j.state = .pending && j.resourceClass.known?.isNone).take 32

def claimBefore (a b : Job) : Prop :=
  b.priority < a.priority ∨ a.priority = b.priority ∧ a.createdAt ≤ b.createdAt

instance (a b : Job) : Decidable (claimBefore a b) :=
  inferInstanceAs (Decidable (_ ∨ _))

def claimable (resourceClass : JobResourceClass) (now : Stamp) (j : Job) : Bool :=
  j.resourceClass = .known resourceClass && j.state = .pending && j.runAfter ≤ now

def claimCandidates (resourceClass : JobResourceClass) (now : Stamp) (rows : List Job) : List Job :=
  ((rows.filter (claimable resourceClass now)).insertionSort claimBefore).take 8

def unknownClass (m : Job) : Text :=
  match m.resourceClass with
  | .known _ => []
  | .unknown text => utf8 "unknown job resource class `" ++ text ++ utf8 "`"

def JobClaim.candidate (d : JobClaim) (m : Job) (left : List Job) : JobStmt × (Bool → ClaimPhase) :=
  if m.cancelRequested then (cancelCandidate m.id d.now, fun _ => .scan left)
  else
    match tryMapJob m with
    | .error reason => (markPendingJobInvalid m.id reason d.now, fun _ => .scan left)
    | .ok record =>
      (claimCandidate m record.payload d.owner d.leaseExpires d.now,
        fun hit => if hit then .done (some m.id) else .scan left)

inductive CancelPhase where
  | round (left : Nat)
  | update (left : Nat) (read : Job)
  | getJob
  | invalid (reason : Text) (again : Bool)
  | reread
  deriving DecidableEq

structure CancelCall where
  id : Text
  phase : CancelPhase
  deriving DecidableEq

inductive Event where
  | claimed (id owner : Text) (generation : Int)
  | cancelReturned (record : Job)
  deriving DecidableEq

structure Queue (ι : Type) where
  store : Store Job.id Text JobClaim ι
  cancels : Nat → Option CancelCall
  log : List Event

def Queue.initial {ι : Type} (table : JobTable) : Queue ι :=
  ⟨⟨table, fun _ => none⟩, fun _ => none, []⟩

inductive Call where
  | heartbeat (f : JobFence) (leaseSecs : Nat) (progress : Option Text)
  | setProgress (f : JobFence) (text : Text)
  | complete (f : JobFence) (progress : Option Text)
  | suspend (f : JobFence) (checkpoint : JobCheckpoint) (wakeAt : Stamp) (read : Option Job)
  | checkpointRunning (f : JobFence) (checkpoint : JobCheckpoint) (read : Option Job)
  | fail (f : JobFence) (errorKind errorMessage : Text) (read : Option Job)
  | reclaim (read : Job)
  | invalid (id reason : Text)
  deriving DecidableEq

def Call.fence : Call → Option JobFence
  | .heartbeat f _ _ | .setProgress f _ | .complete f _ | .suspend f _ _ _ | .checkpointRunning f _ _ | .fail f _ _ _ => some f
  | .reclaim _ | .invalid _ _ => none

def Call.issued (now : Stamp) : Call → Issued
  | .heartbeat f leaseSecs progress => .ok (some (heartbeatJob f leaseSecs progress now))
  | .setProgress f text => .ok (some (setJobProgress f text now))
  | .complete f progress => .ok (some (completeJob f progress now))
  | .suspend f checkpoint wakeAt read => suspendJob read f checkpoint wakeAt now
  | .checkpointRunning f checkpoint read => checkpointRunningJob read f checkpoint now
  | .fail f errorKind errorMessage read => failJob read f errorKind errorMessage now
  | .reclaim read => .ok (reclaimExpiredLease read now)
  | .invalid id reason => .ok (some (markInvalidJob id reason now))

inductive Action (ι : Type) where
  | call (c : Call) (now : Stamp)
  | openClaim (i : ι) (resourceClass : JobResourceClass) (owner : Text) (leaseSecs : Nat) (now : Stamp)
  | claim (i : ι)
  | commit (i : ι)
  | rollback (i : ι)
  | openCancel (j : Nat) (id : Text)
  | cancel (j : Nat) (now : Stamp)

section Step

variable {ι : Type} [Fintype ι] [DecidableEq ι]

def claimStep (store : Store Job.id Text JobClaim ι) (i : ι) : Option (Store Job.id Text JobClaim ι) := do
  let x ← store.session i
  let d := x.data
  match d.phase with
  | .sanitize (m :: left) =>
    store.execIn i (markPendingJobInvalid m.id (unknownClass m) d.now) fun _ => { d with phase := .sanitize left }
  | .sanitize [] =>
    store.setData i { d with
      phase := .scan (claimCandidates d.resourceClass d.now (store.table.rows.map (x.view Job.id))) }
  | .scan (m :: left) =>
    let (q, next) := d.candidate m left
    store.execIn i q fun hit => { d with phase := next hit }
  | .scan [] => store.setData i { d with phase := .done none }
  | .done _ => none

def commitStep (q : Queue ι) (i : ι) : Option (Queue ι) := do
  let x ← q.store.session i
  match x.data.phase with
  | .done none => do
    let store ← q.store.commit i
    some { q with store := store }
  | .done (some id) =>
    match ((q.store.table.find id).map (x.view Job.id)).map tryMapJob with
    | some (.ok record) => do
      let store ← q.store.commit i
      some { q with store := store, log := .claimed id x.data.owner record.row.leaseGeneration :: q.log }
    | _ => none
  | _ => none

def Queue.answer (q : Queue ι) (j : Nat) (c : CancelCall) (again : Bool) (m : Job) : Queue ι :=
  match tryMapJob m with
  | .ok record => { q with cancels := Function.update q.cancels j none, log := .cancelReturned record.row :: q.log }
  | .error reason => { q with cancels := Function.update q.cancels j (some { c with phase := .invalid reason again }) }

def cancelStmt (id : Text) (m : Job) (now : Stamp) : JobStmt :=
  if m.state = .pending then cancelPendingJob id now else flagJobCancel id now

/-- The next statement of `request_job_cancel`. -/
def cancelStep (q : Queue ι) (j : Nat) (now : Stamp) : Option (Queue ι) := do
  let c ← q.cancels j
  let goto (phase : CancelPhase) := Function.update q.cancels j (some { c with phase := phase })
  let finish := { q with cancels := Function.update q.cancels j none }
  match c.phase with
  | .round 0 => some { q with cancels := goto .getJob }
  | .round (n + 1) =>
    match q.store.table.find c.id with
    | none => some finish
    | some m => some (if m.state.isTerminal then q.answer j c true m else { q with cancels := goto (.update n m) })
  | .update n m => do
    let store ← q.store.exec (cancelStmt c.id m now)
    some { q with
      store := store
      cancels := goto (if q.store.matched (cancelStmt c.id m now) then .getJob else .round n) }
  | .getJob =>
    match q.store.table.find c.id with
    | none => some finish
    | some m => some (q.answer j c false m)
  | .invalid reason again => do
    let store ← q.store.exec (markInvalidJob c.id reason now)
    some { q with store := store, cancels := goto (if again then .getJob else .reread) }
  | .reread =>
    match (q.store.table.find c.id).map tryMapJob with
    | some (.ok record) => some { finish with log := .cancelReturned record.row :: q.log }
    | _ => some finish

def step (q : Queue ι) : Action ι → Option (Queue ι)
  | .call c now =>
    match c.issued now with
    | .ok (some stmt) => (q.store.exec stmt).map fun store => { q with store := store }
    | _ => some q
  | .openClaim i resourceClass owner leaseSecs now => do
    let data : JobClaim := ⟨resourceClass, owner, leaseExpiry now leaseSecs, now,
      .sanitize (unreadablePending q.store.table.rows)⟩
    let store ← q.store.start i data
    let store ← store.lock i jobQueueSlot data
    some { q with store := store }
  | .claim i => (claimStep q.store i).map fun store => { q with store := store }
  | .commit i => commitStep q i
  | .rollback i => (q.store.rollback i).map fun store => { q with store := store }
  | .openCancel j id =>
    if (q.cancels j).isNone then some { q with cancels := Function.update q.cancels j (some ⟨id, .round 16⟩) } else none
  | .cancel j now => cancelStep q j now

end Step

end Bookclerk.Jobs
