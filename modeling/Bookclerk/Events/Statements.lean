import Bookclerk.Events.Model

namespace Bookclerk.Events

open Lexical Db Jobs

structure DeliveryStmt extends Stmt Delivery.key where
  origin_set : ∀ r, (set r).toOrigin = r.toOrigin

def updateWhere (id : Text) (applies : Delivery → Bool) (set : Delivery → Delivery)
    (h : ∀ r, (set r).toOrigin = r.toOrigin) : DeliveryStmt where
  target := id
  applies := applies
  set := set
  key_set r := congrArg Origin.id (h r)
  origin_set := h

def fencedWhere (f : DeliveryFence) (set : Delivery → Delivery) (h : ∀ r, (set r).toOrigin = r.toOrigin) : DeliveryStmt :=
  updateWhere f.deliveryId f.owns set h

def releaseUnexecutedEventDelivery (f : DeliveryFence) (restoreResume : Bool) (now : Stamp) : DeliveryStmt :=
  fencedWhere f (fun r => { r with
    state := .pending
    leaseOwner := none
    leaseExpiresAt := none
    updatedAt := now
    resumePending := restoreResume || r.resumePending
    attemptCount := if restoreResume then r.attemptCount else if 0 < r.attemptCount then r.attemptCount - 1 else 0 }) fun _ => rfl

def heartbeatEventDelivery (f : DeliveryFence) (leaseSecs : Nat) (now : Stamp) : DeliveryStmt :=
  fencedWhere f (fun r => { r with leaseExpiresAt := some (leaseExpiry now leaseSecs), updatedAt := now }) fun _ => rfl

def finalizeDelivery (f : DeliveryFence) (state : DeliveryState) (outcome error : Option Text) (now : Stamp) : DeliveryStmt :=
  fencedWhere f (fun r => { r with
    state := state
    outcome := outcome
    errorMessage := error
    leaseOwner := none
    leaseExpiresAt := none
    updatedAt := now }) fun _ => rfl

def ackEventDelivery (f : DeliveryFence) (now : Stamp) : DeliveryStmt :=
  finalizeDelivery f .acked (some (utf8 "ack")) none now

def rejectEventDelivery (f : DeliveryFence) (reason : Text) (now : Stamp) : DeliveryStmt :=
  finalizeDelivery f .rejected (some (utf8 "reject")) (some reason) now

def deadLetterEventDelivery (f : DeliveryFence) (reason : Text) (now : Stamp) : DeliveryStmt :=
  finalizeDelivery f .deadLetter (some (utf8 "dead_letter")) (some reason) now

def retryEventDelivery (read : Option Delivery) (f : DeliveryFence) (runAfter : Stamp) (reason : Text) (now : Stamp) :
    Option DeliveryStmt :=
  (read.filter f.owns).map fun m =>
    if m.attemptCount ≥ m.maxAttempts then
      deadLetterEventDelivery f
        (utf8 "retry exhausted after " ++ utf8 (toString m.attemptCount) ++ utf8 " attempts: " ++ reason) now
    else
      fencedWhere f (fun r => { r with
        state := .pending
        runAfter := runAfter
        leaseOwner := none
        leaseExpiresAt := none
        errorMessage := some reason
        updatedAt := now }) fun _ => rfl

structure Wake where
  eventType : Text
  filterJson : Text
  grantsJson : Text
  deriving DecidableEq

def eventWakeFarFuture : Stamp :=
  afterSecs 0 253402300799

def suspendRunAfter (wakeEventType : Text) (wakeAt : Stamp) : Stamp :=
  if wakeEventType ≠ [] ∧ wakeAt < 1000000 then eventWakeFarFuture else wakeAt

def suspendEventDelivery (read : Option Delivery) (f : DeliveryFence) (checkpointJson : Text) (checkpointSchemaVersion : Int)
    (wakeAt : Stamp) (wake : Wake) (now : Stamp) : Except Text (Option DeliveryStmt) :=
  if checkpointJson.length > maxCheckpointBytes then
    .error (utf8 "event checkpoint of " ++ utf8 (toString checkpointJson.length) ++ utf8 " bytes exceeds 65536")
  else
    .ok ((read.filter f.owns).map fun m =>
      fencedWhere f (fun r => { r with
        state := .pending
        runAfter := suspendRunAfter wake.eventType wakeAt
        checkpointJson := some checkpointJson
        checkpointSchemaVersion := checkpointSchemaVersion
        invocationSequence := m.invocationSequence + 1
        resumePending := true
        wakeEventType := wake.eventType
        wakeFilterJson := wake.filterJson
        wakeGrantsJson := wake.grantsJson
        leaseOwner := none
        leaseExpiresAt := none
        updatedAt := now }) fun _ => rfl)

def failEventDelivery (read reread : Option Delivery) (f : DeliveryFence) (reason : Text) (now : Stamp) : Option DeliveryStmt :=
  (read.filter f.owns).bind fun m =>
    if m.attemptCount ≥ m.maxAttempts then some (deadLetterEventDelivery f reason now)
    else retryEventDelivery reread f (jobBackoffRunAfter m.attemptCount now) reason now

def expiredBy (now : Stamp) (r : Delivery) : Bool :=
  r.leaseExpiresAt.all (· ≤ now)

/-- The first UPDATE of `reclaim_expired_event_deliveries`, on one row. -/
def reclaimCancelled (id : Text) (now : Stamp) : DeliveryStmt :=
  updateWhere id (fun r => r.state = .running && r.cancelRequested && expiredBy now r)
    (fun r => { r with
      state := .rejected
      outcome := some (utf8 "reject")
      errorMessage := some (utf8 "cancelled by operator")
      leaseOwner := none
      leaseExpiresAt := none
      cancelRequested := false
      updatedAt := now }) fun _ => rfl

/-- The second UPDATE of `reclaim_expired_event_deliveries`, on one row. -/
def reclaimExpired (id : Text) (now : Stamp) : DeliveryStmt :=
  updateWhere id (fun r => r.state = .running && expiredBy now r)
    (fun r => { r with
      state := .pending
      leaseOwner := none
      leaseExpiresAt := none
      updatedAt := now
      resumePending := r.checkpointJson.isSome || r.resumePending }) fun _ => rfl

def retryDeadLetterDelivery (id : Text) (now : Stamp) : DeliveryStmt :=
  updateWhere id (fun r => r.state = .deadLetter)
    (fun r => { r with
      state := .pending
      runAfter := now
      outcome := none
      errorMessage := none
      attemptCount := 0
      resumePending := false
      invocationSequence := 0
      checkpointJson := none
      checkpointSchemaVersion := 0
      updatedAt := now }) fun _ => rfl

def acknowledgeDeadLetterDelivery (id : Text) (now : Stamp) : DeliveryStmt :=
  updateWhere id (fun r => r.state = .deadLetter)
    (fun r => { r with state := .rejected, outcome := some (utf8 "ack"), updatedAt := now }) fun _ => rfl

def resumeEventDelivery (id : Text) (now : Stamp) : DeliveryStmt :=
  updateWhere id (fun r => r.state = .pending && r.checkpointJson.isSome)
    (fun r => { r with runAfter := now, resumePending := true, updatedAt := now }) fun _ => rfl

/-- The two updates of `request_event_delivery_cancel`. -/
def cancelPendingDelivery (id : Text) (now : Stamp) : DeliveryStmt :=
  updateWhere id (fun r => r.state = .pending)
    (fun r => { r with
      state := .rejected
      outcome := some (utf8 "reject")
      errorMessage := some (utf8 "cancelled by operator")
      cancelRequested := false
      updatedAt := now }) fun _ => rfl

def flagDeliveryCancel (id : Text) (now : Stamp) : DeliveryStmt :=
  updateWhere id (fun r => r.state = .running) (fun r => { r with cancelRequested := true, updatedAt := now }) fun _ => rfl

/-- `sanitize_unknown_event_resource_class_on`, on one suspect. -/
def rejectUnknownClass (m : Delivery) (now : Stamp) : DeliveryStmt :=
  updateWhere m.id (fun r => r.state = .pending)
    (fun r => { r with
      state := .rejected
      outcome := some (utf8 "reject")
      errorMessage := some (utf8 "unknown event resource class `" ++ m.resourceClass ++ utf8 "`")
      updatedAt := now }) fun _ => rfl

/-- The claim of `claim_next_event_delivery_on`, from the candidate as it was read. -/
def claimDelivery (m : Delivery) (owner : Text) (leaseExpires now : Stamp) : DeliveryStmt :=
  updateWhere m.id (fun r => r.state = .pending)
    (fun r => { r with
      state := .running
      attemptCount := if m.resumePending then max m.attemptCount 1 else m.attemptCount + 1
      leaseOwner := some owner
      leaseExpiresAt := some leaseExpires
      leaseGeneration := m.leaseGeneration + 1
      updatedAt := now
      resumePending := !m.resumePending && r.resumePending }) fun _ => rfl

/-- The UPDATE of `plan_claim_event_delivery_cas`; `room` is its count against the cap. -/
def casDelivery (id owner : Text) (leaseExpires now : Stamp) (room : Bool) : DeliveryStmt :=
  updateWhere id (fun r => r.state = .pending && room)
    (fun r => { r with
      state := .running
      attemptCount := if r.resumePending then max r.attemptCount 1 else r.attemptCount + 1
      resumePending := false
      leaseOwner := some owner
      leaseExpiresAt := some leaseExpires
      leaseGeneration := r.leaseGeneration + 1
      updatedAt := now }) fun _ => rfl

end Bookclerk.Events
