import Bookclerk.Events.Model
import Bookclerk.Named.Receipts
import Bookclerk.System.Run

/-! `dispatch_event_deliveries` on the atomic backend: the subscribers of an event are frozen once by a
compare-and-set, and their delivery rows are created page by page, each page one batch under its own
receipt. The last page marks the event dispatched. -/

namespace Bookclerk.Events

open Lexical Db Jobs Named

structure EventSubscriber where
  pluginId : Text
  resourceClass : Text := network
  deriving DecidableEq

def EventSubscriber.plugin (pluginId : Text) : EventSubscriber :=
  { pluginId }

inductive DispatchState where
  | pending
  | dispatched
  deriving DecidableEq

/-- `dispatchSnapshot` is `none` for the empty text, else the plugin ids that the JSON text lists. -/
structure DomainEvent where
  id : Text
  eventType : Text
  schemaVersion : Int
  payload : Text
  orderingKey : Text
  createdAt : Stamp
  dispatchState : DispatchState
  dispatchSnapshot : Option (List Text)
  deriving DecidableEq

structure OutboxTables where
  events : Table DomainEvent.id
  deliveries : DeliveryTable

/-- `INSERT OR IGNORE INTO event_deliveries`: the id is unique, and so is the plugin of an event. -/
def insertOrIgnore (d : Delivery) (t : DeliveryTable) : DeliveryTable :=
  if h : d.key ∉ t.rows.map Delivery.key ∧ ¬ t.rows.any (fun r => r.eventId = d.eventId && r.pluginId = d.pluginId) then
    t.insert d h.1
  else t

section Plan

variable (eventId : Text)

def deliverable (sub : EventSubscriber) : Option Text :=
  if trim sub.pluginId = [] then none
  else if sub.resourceClass ≠ network then none
  else some (trim sub.pluginId)

def insertDelivery (now : Stamp) (pluginId : Text) (t : OutboxTables) : OutboxTables :=
  match t.events.find eventId with
  | none => t
  | some e => { t with deliveries := insertOrIgnore (newDelivery eventId pluginId e.orderingKey now) t.deliveries }

def dispatchedRow (e : DomainEvent) : DomainEvent :=
  if e.id = eventId ∧ e.dispatchState = .pending then { e with dispatchState := .dispatched } else e

lemma id_dispatchedRow (e : DomainEvent) : (dispatchedRow eventId e).id = e.id := by
  rw [dispatchedRow]
  split_ifs <;> rfl

def markDispatched (t : OutboxTables) : OutboxTables :=
  { t with events := t.events.modify (dispatchedRow eventId) (id_dispatchedRow eventId) }

def planDispatchEventDeliveries (subscribers : List EventSubscriber) (mark : Bool) (now : Stamp) : StatusPlan OutboxTables Nat where
  before := ((subscribers.filterMap deliverable).map fun pluginId t => some (insertDelivery eventId now pluginId t)) ++
    if mark then [fun t => some (markDispatched eventId t)] else []
  outcome t := if (t.events.find eventId).isSome then .ok else .notFound
  after := []
  payload t := some (t.deliveries.rows.countP fun d => d.eventId = eventId && d.createdAt = now &&
    (subscribers.filterMap deliverable).contains d.pluginId)

end Plan

structure DispatchRequest where
  eventId : Text
  subscribers : List EventSubscriber
  markDispatched : Bool

abbrev OutboxDb := NamedDb OutboxTables Nat

def dispatchPage (digest : DispatchRequest → Text) (req : DispatchRequest) (operationId : Text) (now : Stamp) (db : OutboxDb) :
    Option (OutboxDb × AtomicResult Nat) :=
  wrapStatusOp (planDispatchEventDeliveries req.eventId req.subscribers req.markDispatched now)
    ⟨operationId, digest req, utf8 "dispatchEventDeliveries", now⟩ db

def snapshotRow (eventId : Text) (pluginIds : List Text) (e : DomainEvent) : DomainEvent :=
  if e.id = eventId ∧ e.dispatchSnapshot = none then { e with dispatchSnapshot := some pluginIds } else e

lemma id_snapshotRow (eventId : Text) (pluginIds : List Text) (e : DomainEvent) : (snapshotRow eventId pluginIds e).id = e.id := by
  rw [snapshotRow]
  split_ifs <;> rfl

lemma id_snapshotOf (eventId : Text) (subscribers : List EventSubscriber) (e : DomainEvent) :
    (snapshotRow eventId (subscribers.map EventSubscriber.pluginId) e).id = e.id :=
  id_snapshotRow _ _ e

inductive AttemptPhase where
  | freezing (subscribers : List EventSubscriber)
  | paging (snapshot : List EventSubscriber) (start page : Nat)

structure Attempt where
  operationId : Text
  chunk : Nat
  phase : AttemptPhase

def nextPage (eventId operationId : Text) (chunk : Nat) (snapshot : List EventSubscriber) (start page : Nat) :
    DispatchRequest × Text × Nat :=
  if snapshot = [] then (⟨eventId, [], true⟩, operationId, 0)
  else
    let stop := min (start + max chunk 1) snapshot.length
    (⟨eventId, (snapshot.take stop).drop start, stop = snapshot.length⟩, operationId ++ utf8 ":p" ++ utf8 (toString page), stop)

/-- `first` is the list of the attempt that has frozen the snapshot; `completed` holds those of the
attempts that have returned `Ok`. -/
structure DispatchSystem (ι : Type) where
  db : OutboxDb
  attempts : ι → Option Attempt
  first : Option (List EventSubscriber)
  completed : List (List EventSubscriber)

inductive DispatchStep (ι : Type) where
  | begin (i : ι) (subscribers : List EventSubscriber) (operationId : Text) (chunk : Nat)
  | freeze (i : ι)
  | page (i : ι) (now : Stamp)
  | stop (i : ι)
  | operation (operationId : Text) (now : Stamp)

section System

variable {ι : Type} [DecidableEq ι] (digest : DispatchRequest → Text) (eventId : Text)

def DispatchSystem.put (s : DispatchSystem ι) (i : ι) (a : Option Attempt) : DispatchSystem ι :=
  { s with attempts := Function.update s.attempts i a }

def beginAttempt (s : DispatchSystem ι) (i : ι) (subscribers : List EventSubscriber) (operationId : Text) (chunk : Nat) :
    Option (DispatchSystem ι) :=
  if (s.attempts i).isSome then none
  else
    match s.db.tables.events.find eventId with
    | none => some s
    | some e =>
      match e.dispatchSnapshot with
      | some ids => some (s.put i (some ⟨operationId, chunk, .paging (ids.map EventSubscriber.plugin) 0 0⟩))
      | none => some (s.put i (some ⟨operationId, chunk, .freezing subscribers⟩))

def freezeSnapshot (s : DispatchSystem ι) (i : ι) (a : Attempt) (subscribers : List EventSubscriber) : DispatchSystem ι :=
  match s.db.tables.events.find eventId with
  | none => s.put i none
  | some e =>
    match e.dispatchSnapshot with
    | some ids => s.put i (some { a with phase := .paging (ids.map EventSubscriber.plugin) 0 0 })
    | none =>
      { s with
        db := { s.db with tables := { s.db.tables with
          events := s.db.tables.events.modify (snapshotRow eventId (subscribers.map EventSubscriber.pluginId)) (id_snapshotOf eventId subscribers) } }
        attempts := Function.update s.attempts i (some { a with phase := .paging subscribers 0 0 })
        first := some subscribers }

def runPage (s : DispatchSystem ι) (i : ι) (a : Attempt) (snapshot : List EventSubscriber) (start page : Nat) (now : Stamp) :
    DispatchSystem ι :=
  let (req, operationId, stop) := nextPage eventId a.operationId a.chunk snapshot start page
  match dispatchPage digest req operationId now s.db with
  | none => s.put i none
  | some (db, result) =>
    if result.status ≠ .ok then { s.put i none with db := db }
    else if req.markDispatched then { s.put i none with db := db, completed := snapshot :: s.completed }
    else { s.put i (some { a with phase := .paging snapshot stop (page + 1) }) with db := db }

def dispatchStep (s : DispatchSystem ι) : DispatchStep ι → Option (DispatchSystem ι)
  | .begin i subscribers operationId chunk => beginAttempt eventId s i subscribers operationId chunk
  | .freeze i =>
    match s.attempts i with
    | some a => match a.phase with
      | .freezing subscribers => some (freezeSnapshot eventId s i a subscribers)
      | .paging .. => none
    | none => none
  | .page i now =>
    match s.attempts i with
    | some a => match a.phase with
      | .freezing _ => none
      | .paging snapshot start page => some (runPage digest eventId s i a snapshot start page now)
    | none => none
  | .stop i => some (s.put i none)
  | .operation operationId now =>
    some { s with db := { s.db with receipts := pruneReceipts operationId now s.db.receipts } }

end System

end Bookclerk.Events
