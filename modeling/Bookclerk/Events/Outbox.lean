import Mathlib.Data.List.Sort
import Bookclerk.Events.Statements
import Bookclerk.System.Run

/-! The event outbox as a system: local claim transactions, claims of the atomic backend (reads
outside a transaction, then one batch), cancellations, dispatches and the calls of workers. -/

namespace Bookclerk.Events

open Lexical Db Jobs Option

variable {f : DeliveryFence} {q : DeliveryStmt} {read : Option Delivery} {now : Stamp} {reason : Text}

structure ClaimArgs where
  owner : Text
  leaseSecs : Nat
  pluginIds : List Text
  maxInFlight : Nat
  hasNode : Bool
  now : Stamp
  deriving DecidableEq

abbrev Cursor := Option (Stamp × Text)

structure Page where
  left : List Delivery
  cursor : Cursor
  deriving DecidableEq

inductive ClaimPhase where
  | sanitize (left : List Delivery)
  | query (cursor : Cursor)
  | scan (page : Page)
  | passed (m : Delivery) (page : Page)
  | locked (m : Delivery) (page : Page)
  | admitted (m : Delivery) (page : Page)
  | done (claimed : Option Delivery)
  deriving DecidableEq

structure Claim where
  args : ClaimArgs
  phase : ClaimPhase
  deriving DecidableEq

def unknownClassSuspects (rows : List Delivery) : List Delivery :=
  (rows.filter fun r => r.state = .pending && r.resourceClass ≠ network && r.resourceClass ≠ []).take 32

def claimKeysetAfter (cursor : Stamp × Text) (r : Delivery) : Bool :=
  cursor.1 < r.createdAt || (r.createdAt = cursor.1 && decide (cursor.2 < r.id))

def claimOrder (a b : Delivery) : Prop :=
  a.createdAt < b.createdAt ∨ a.createdAt = b.createdAt ∧ a.id ≤ b.id

instance (a b : Delivery) : Decidable (claimOrder a b) :=
  inferInstanceAs (Decidable (_ ∨ _))

def claimReady (args : ClaimArgs) (r : Delivery) : Bool :=
  r.state = .pending && r.runAfter ≤ args.now && r.pluginId ∈ args.pluginIds && r.resourceClass = network

def claimPage (args : ClaimArgs) (cursor : Cursor) (rows : List Delivery) : List Delivery :=
  ((rows.filter fun r => claimReady args r && cursor.all (claimKeysetAfter · r)).insertionSort claimOrder).take 64

def afterQuery (args : ClaimArgs) (cursor : Cursor) (rows : List Delivery) : ClaimPhase :=
  match (claimPage args cursor rows).getLast? with
  | none => .done none
  | some m => .scan ⟨claimPage args cursor rows, some (m.createdAt, m.id)⟩

def fifoBlocked (rows : List Delivery) (m : Delivery) : Bool :=
  m.orderingKey ≠ [] && rows.any fun r =>
    r.pluginId = m.pluginId && r.orderingKey = m.orderingKey && r.createdAt < m.createdAt && r.state.isActive

def afterChecks (args : ClaimArgs) (rows : List Delivery) (m : Delivery) (page : Page) (catalogMatches : Bool) : ClaimPhase :=
  if fifoBlocked rows m || (args.hasNode && !catalogMatches) then .scan page else .passed m page

def inFlight (pluginId resourceClass : Text) (r : Delivery) : Bool :=
  r.pluginId = pluginId && r.state = .running && r.resourceClass = resourceClass

def pluginInFlightAtCap (rows : List Delivery) (m : Delivery) (maxInFlight : Nat) : Bool :=
  maxInFlight = 0 || maxInFlight ≤ rows.countP (inFlight m.pluginId (resourceClassOr m.resourceClass))

inductive CancelPhase where
  | round (left : Nat)
  | update (left : Nat) (read : Delivery)
  deriving DecidableEq

structure CancelCall where
  id : Text
  phase : CancelPhase
  deriving DecidableEq

inductive Event where
  | claimed (id : Text)
  | cancelled (id : Text)
  | requeued (id : Text)
  deriving DecidableEq

structure Outbox (ι : Type) where
  store : Store Delivery.key Text Claim ι
  hosts : Nat → Option Claim
  cancels : Nat → Option CancelCall
  log : List Event

def Outbox.initial {ι : Type} (table : DeliveryTable) : Outbox ι :=
  ⟨⟨table, fun _ => none⟩, fun _ => none, fun _ => none, []⟩

inductive Call where
  | release (f : DeliveryFence) (restoreResume : Bool)
  | heartbeat (f : DeliveryFence) (leaseSecs : Nat)
  | ack (f : DeliveryFence)
  | reject (f : DeliveryFence) (reason : Text)
  | deadLetter (f : DeliveryFence) (reason : Text)
  | retry (f : DeliveryFence) (runAfter : Stamp) (reason : Text) (read : Option Delivery)
  | suspend (f : DeliveryFence) (checkpointJson : Text) (checkpointSchemaVersion : Int) (wakeAt : Stamp) (wake : Wake)
      (read : Option Delivery)
  | fail (f : DeliveryFence) (reason : Text) (read reread : Option Delivery)
  | reclaimCancelled (id : Text)
  | reclaimExpired (id : Text)
  | acknowledgeDeadLetter (id : Text)
  | resume (id : Text)
  deriving DecidableEq

def Call.issued (now : Stamp) : Call → Except Text (Option DeliveryStmt)
  | .release f restoreResume => .ok (some (releaseUnexecutedEventDelivery f restoreResume now))
  | .heartbeat f leaseSecs => .ok (some (heartbeatEventDelivery f leaseSecs now))
  | .ack f => .ok (some (ackEventDelivery f now))
  | .reject f reason => .ok (some (rejectEventDelivery f reason now))
  | .deadLetter f reason => .ok (some (deadLetterEventDelivery f reason now))
  | .retry f runAfter reason read => .ok (retryEventDelivery read f runAfter reason now)
  | .suspend f json version wakeAt wake read => suspendEventDelivery read f json version wakeAt wake now
  | .fail f reason read reread => .ok (failEventDelivery read reread f reason now)
  | .reclaimCancelled id => .ok (some (Events.reclaimCancelled id now))
  | .reclaimExpired id => .ok (some (Events.reclaimExpired id now))
  | .acknowledgeDeadLetter id => .ok (some (acknowledgeDeadLetterDelivery id now))
  | .resume id => .ok (some (resumeEventDelivery id now))

inductive Action (ι : Type) where
  | call (c : Call) (now : Stamp)
  | dispatch (eventId pluginId orderingKey : Text) (now : Stamp)
  | retryDeadLetter (id : Text) (now : Stamp)
  | openClaim (i : ι) (args : ClaimArgs)
  | claim (i : ι) (catalogMatches : Bool)
  | commit (i : ι)
  | rollback (i : ι)
  | openHost (h : Nat) (args : ClaimArgs)
  | host (h : Nat) (catalogMatches : Bool) (now : Stamp)
  | dropHost (h : Nat)
  | openCancel (j : Nat) (id : Text)
  | cancel (j : Nat) (now : Stamp)

section Step

variable {ι : Type} [Fintype ι] [DecidableEq ι]

/-- The next statement of `claim_next_event_delivery_on`. -/
def claimStep (store : Store Delivery.key Text Claim ι) (i : ι) (catalogMatches : Bool) : Option (Store Delivery.key Text Claim ι) := do
  let x ← store.session i
  let d := x.data
  let rows := store.table.rows.map (x.view Delivery.key)
  match d.phase with
  | .sanitize (m :: left) =>
    store.execIn i (rejectUnknownClass m d.args.now).toStmt fun _ => { d with phase := .sanitize left }
  | .sanitize [] => store.setData i { d with phase := .query none }
  | .query cursor => store.setData i { d with phase := afterQuery d.args cursor rows }
  | .scan ⟨[], cursor⟩ => store.setData i { d with phase := .query cursor }
  | .scan ⟨m :: left, cursor⟩ =>
    store.setData i { d with phase := afterChecks d.args rows m ⟨left, cursor⟩ catalogMatches }
  | .passed m page => store.lock i (eventInflightSlot m.pluginId m.resourceClass) { d with phase := .locked m page }
  | .locked m page =>
    store.setData i { d with
      phase := if pluginInFlightAtCap rows m d.args.maxInFlight then .scan page else .admitted m page }
  | .admitted m page =>
    store.execIn i (claimDelivery m d.args.owner (leaseExpiry d.args.now d.args.leaseSecs) d.args.now).toStmt fun hit =>
      { d with phase := if hit then .done (some m) else .scan page }
  | .done _ => none

def commitStep (q : Outbox ι) (i : ι) : Option (Outbox ι) := do
  let x ← q.store.session i
  match x.data.phase with
  | .done claimed => do
    let store ← q.store.commit i
    some { q with store := store, log := (claimed.map fun m => Event.claimed m.id).toList ++ q.log }
  | _ => none

def casRoom (rows : List Delivery) (m : Delivery) (maxInFlight : Nat) : Bool :=
  rows.countP (inFlight m.pluginId (resourceClassOr m.resourceClass)) < maxInFlight

def hostStmt (rows : List Delivery) (args : ClaimArgs) (m : Delivery) (now : Stamp) : DeliveryStmt :=
  casDelivery m.id args.owner (afterSecs now (max (if args.leaseSecs < 2 ^ 63 then args.leaseSecs else 60) 5)) now
    (casRoom rows m args.maxInFlight)

def hostStatus (table : DeliveryTable) (args : ClaimArgs) (m : Delivery) (now : Stamp) : Bool :=
  (table.find m.id).any fun r => r.state = .running && r.leaseOwner = some args.owner && r.updatedAt = now

/-- The next request of `claim_next_event_delivery_host_cas`. A phase `passed` sends the batch, which
takes the slot and the row for its own length only. -/
def hostStep (q : Outbox ι) (h : Nat) (catalogMatches : Bool) (now : Stamp) : Option (Outbox ι) := do
  let d ← q.hosts h
  let goto (phase : ClaimPhase) := Function.update q.hosts h (some { d with phase := phase })
  let rows := q.store.table.rows
  match d.phase with
  | .sanitize (m :: left) => do
    let store ← q.store.exec (rejectUnknownClass m d.args.now).toStmt
    some { q with store := store, hosts := goto (.sanitize left) }
  | .sanitize [] => some { q with hosts := goto (.query none) }
  | .query cursor => some { q with hosts := goto (afterQuery d.args cursor rows) }
  | .scan ⟨[], cursor⟩ => some { q with hosts := goto (.query cursor) }
  | .scan ⟨m :: left, cursor⟩ => some { q with hosts := goto (afterChecks d.args rows m ⟨left, cursor⟩ catalogMatches) }
  | .passed m page =>
    if q.store.Locked [] (eventInflightSlot m.pluginId m.resourceClass) then none
    else do
      let stmt := hostStmt rows d.args m now
      let store ← q.store.exec stmt.toStmt
      some { q with
        store := store
        hosts := goto (if hostStatus store.table d.args m now then .done (some m) else .scan page)
        log := if q.store.matched stmt.toStmt then .claimed m.id :: q.log else q.log }
  | .locked _ _ | .admitted _ _ | .done _ => none

def cancelStmt (id : Text) (m : Delivery) (now : Stamp) : DeliveryStmt :=
  if m.state = .pending then cancelPendingDelivery id now else flagDeliveryCancel id now

/-- The next statement of `request_event_delivery_cancel`. -/
def cancelStep (q : Outbox ι) (j : Nat) (now : Stamp) : Option (Outbox ι) := do
  let c ← q.cancels j
  let goto (phase : CancelPhase) := Function.update q.cancels j (some { c with phase := phase })
  let finish := { q with cancels := Function.update q.cancels j none }
  match c.phase with
  | .round 0 =>
    some (if (q.store.table.find c.id).isSome then { finish with log := .cancelled c.id :: q.log } else finish)
  | .round (n + 1) =>
    match q.store.table.find c.id with
    | none => some finish
    | some m =>
      some (if m.state.isActive then { q with cancels := goto (.update n m) }
        else { finish with log := .cancelled c.id :: q.log })
  | .update n m => do
    let store ← q.store.exec (cancelStmt c.id m now).toStmt
    some (if q.store.matched (cancelStmt c.id m now).toStmt then { finish with store := store, log := .cancelled c.id :: q.log }
      else { q with store := store, cancels := goto (.round n) })

def step (q : Outbox ι) : Action ι → Option (Outbox ι)
  | .call c now =>
    match c.issued now with
    | .ok (some stmt) => (q.store.exec stmt.toStmt).map fun store => { q with store := store }
    | _ => some q
  | .dispatch eventId pluginId orderingKey now =>
    (q.store.insert (newDelivery eventId pluginId orderingKey now)).map fun store => { q with store := store }
  | .retryDeadLetter id now => do
    let stmt := (retryDeadLetterDelivery id now).toStmt
    let store ← q.store.exec stmt
    some { q with store := store, log := if q.store.matched stmt then .requeued id :: q.log else q.log }
  | .openClaim i args =>
    (q.store.start i ⟨args, .sanitize (unknownClassSuspects q.store.table.rows)⟩).map fun store => { q with store := store }
  | .claim i catalogMatches => (claimStep q.store i catalogMatches).map fun store => { q with store := store }
  | .commit i => commitStep q i
  | .rollback i => (q.store.rollback i).map fun store => { q with store := store }
  | .openHost h args =>
    if (q.hosts h).isNone then
      some { q with hosts := Function.update q.hosts h (some ⟨args, .sanitize (unknownClassSuspects q.store.table.rows)⟩) }
    else none
  | .host h catalogMatches now => hostStep q h catalogMatches now
  | .dropHost h => some { q with hosts := Function.update q.hosts h none }
  | .openCancel j id =>
    if (q.cancels j).isNone then some { q with cancels := Function.update q.cancels j (some ⟨id, .round 16⟩) } else none
  | .cancel j now => cancelStep q j now

end Step

def claimFirst {ι : Type} (i : ι) (args : ClaimArgs) : List (Action ι) :=
  .openClaim i args :: List.replicate 6 (.claim i true) ++ [.commit i]

def hostFirst {ι : Type} (h : Nat) (args : ClaimArgs) (now : Stamp) : List (Action ι) :=
  .openHost h args :: List.replicate 4 (.host h true now)

structure Ordinary (q : DeliveryStmt) : Prop where
  starts : ∀ r, q.applies r = true → (q.set r).state = .running → r.state = .running
  revives : ∀ r, q.applies r = true → (q.set r).state.isActive = true → r.state.isActive = true
  flag : ∀ r, q.applies r = true → r.cancelRequested = true → (q.set r).state.isActive = true → (q.set r).cancelRequested = true
  attempts : ∀ r, (q.set r).attemptCount ≤ max r.attemptCount 0

lemma ordinary_of_running (happ : ∀ r, q.applies r = true → r.state = .running)
    (hflag : ∀ r, r.cancelRequested = true → (q.set r).state.isActive = true → (q.set r).cancelRequested = true)
    (hcount : ∀ r, (q.set r).attemptCount ≤ max r.attemptCount 0) : Ordinary q where
  starts r hr _ := happ r hr
  revives r hr _ := by
    rw [happ r hr]
    rfl
  flag r _ := hflag r
  attempts := hcount

lemma ordinary_of_pending (happ : ∀ r, q.applies r = true → r.state = .pending)
    (hstate : ∀ r, q.applies r = true → (q.set r).state ≠ .running)
    (hflag : ∀ r, r.cancelRequested = true → (q.set r).state.isActive = true → (q.set r).cancelRequested = true)
    (hcount : ∀ r, (q.set r).attemptCount ≤ max r.attemptCount 0) : Ordinary q where
  starts r hr hrun := absurd hrun (hstate r hr)
  revives r hr _ := by
    rw [happ r hr]
    rfl
  flag r _ := hflag r
  attempts := hcount

lemma DeliveryFence.running_of_owns {r : Delivery} (h : f.owns r = true) : r.state = .running := by
  simp only [owns, Bool.and_eq_true, decide_eq_true_eq] at h
  exact h.1.1

lemma ordinary_fencedWhere {set : Delivery → Delivery} {h : ∀ r, (set r).toOrigin = r.toOrigin}
    (hflag : ∀ r, r.cancelRequested = true → (set r).state.isActive = true → (set r).cancelRequested = true)
    (hcount : ∀ r, (set r).attemptCount ≤ max r.attemptCount 0) : Ordinary (fencedWhere f set h) :=
  ordinary_of_running (fun _ hr => DeliveryFence.running_of_owns hr) hflag hcount

lemma ordinary_finalizeDelivery {state : DeliveryState} {outcome error : Option Text} :
    Ordinary (finalizeDelivery f state outcome error now) :=
  ordinary_fencedWhere (fun _ hr _ => hr) fun _ => le_max_left _ _

lemma ordinary_retryEventDelivery {runAfter : Stamp} (h : retryEventDelivery read f runAfter reason now = some q) : Ordinary q := by
  obtain ⟨m, -, rfl⟩ := map_eq_some_iff.mp h
  split_ifs
  · exact ordinary_finalizeDelivery
  · exact ordinary_fencedWhere (fun _ hr _ => hr) fun _ => le_max_left _ _

lemma ordinary_suspendEventDelivery {json : Text} {version : Int}
    {wakeAt : Stamp} {wake : Wake} (h : suspendEventDelivery read f json version wakeAt wake now = .ok (some q)) : Ordinary q := by
  rw [suspendEventDelivery] at h
  split_ifs at h
  injection h with h
  obtain ⟨m, -, rfl⟩ := map_eq_some_iff.mp h
  exact ordinary_fencedWhere (fun _ hr _ => hr) fun _ => le_max_left _ _

lemma ordinary_failEventDelivery {reread : Option Delivery} (h : failEventDelivery read reread f reason now = some q) : Ordinary q := by
  obtain ⟨m, -, h⟩ := bind_eq_some_iff.mp h
  split_ifs at h
  · cases h
    exact ordinary_finalizeDelivery
  · exact ordinary_retryEventDelivery h

lemma ordinary_reclaimCancelled (id : Text) (now : Stamp) : Ordinary (reclaimCancelled id now) := by
  refine ordinary_of_running (fun r hr => ?_) (fun r _ hrun => by cases hrun) fun _ => le_max_left ..
  simp only [reclaimCancelled, updateWhere, Bool.and_eq_true, decide_eq_true_eq] at hr
  exact hr.1.1

lemma ordinary_reclaimExpired (id : Text) (now : Stamp) : Ordinary (reclaimExpired id now) := by
  refine ordinary_of_running (fun r hr => ?_) (fun _ hr _ => hr) fun _ => le_max_left ..
  simp only [reclaimExpired, updateWhere, Bool.and_eq_true, decide_eq_true_eq] at hr
  exact hr.1

lemma ordinary_acknowledgeDeadLetterDelivery (id : Text) (now : Stamp) : Ordinary (acknowledgeDeadLetterDelivery id now) where
  starts _ _ hrun := by cases hrun
  revives _ _ hact := by cases hact
  flag _ _ _ hact := by cases hact
  attempts _ := le_max_left _ _

lemma ordinary_resumeEventDelivery (id : Text) (now : Stamp) : Ordinary (resumeEventDelivery id now) := by
  have happ : ∀ r, (resumeEventDelivery id now).applies r = true → r.state = .pending := by
    intro r hr
    simp only [resumeEventDelivery, updateWhere, Bool.and_eq_true, decide_eq_true_eq] at hr
    exact hr.1
  refine ordinary_of_pending happ (fun r hr hrun => ?_) (fun _ hr _ => hr) fun _ => le_max_left ..
  have : r.state = .running := hrun
  rw [happ r hr] at this
  cases this

lemma ordinary_rejectUnknownClass (m : Delivery) (now : Stamp) : Ordinary (rejectUnknownClass m now) :=
  ordinary_of_pending (fun r hr => by simpa [rejectUnknownClass, updateWhere] using hr) (fun r _ hrun => by cases hrun)
    (fun r _ hact => by cases hact) fun _ => le_max_left _ _

lemma ordinary_cancelStmt (id : Text) (m : Delivery) (now : Stamp) : Ordinary (cancelStmt id m now) := by
  rw [cancelStmt]
  split_ifs
  · exact ordinary_of_pending (fun r hr => by simpa [cancelPendingDelivery, updateWhere] using hr) (fun r _ hrun => by cases hrun)
      (fun r _ hact => by cases hact) fun _ => le_max_left ..
  · exact ordinary_of_running (fun r hr => by simpa [flagDeliveryCancel, updateWhere] using hr) (fun _ _ _ => rfl) fun _ => le_max_left _ _

lemma Call.ordinary {c : Call} (h : c.issued now = .ok (some q)) : Ordinary q := by
  cases c with
  | release =>
    cases h
    refine ordinary_fencedWhere (fun _ hr _ => hr) fun r => ?_
    dsimp only
    split_ifs <;> omega
  | heartbeat =>
    cases h
    exact ordinary_fencedWhere (fun _ hr _ => hr) fun _ => le_max_left ..
  | ack | reject | deadLetter =>
    cases h
    exact ordinary_finalizeDelivery
  | retry =>
    injection h with h
    exact ordinary_retryEventDelivery h
  | suspend => exact ordinary_suspendEventDelivery h
  | fail =>
    injection h with h
    exact ordinary_failEventDelivery h
  | reclaimCancelled id =>
    cases h
    exact ordinary_reclaimCancelled id now
  | reclaimExpired id =>
    cases h
    exact ordinary_reclaimExpired id now
  | acknowledgeDeadLetter id =>
    cases h
    exact ordinary_acknowledgeDeadLetterDelivery id now
  | resume id =>
    cases h
    exact ordinary_resumeEventDelivery id now

lemma DeliveryStmt.origin_row (q : DeliveryStmt) (r : Delivery) : (q.toStmt.row r).toOrigin = r.toOrigin := by
  rcases q.toStmt.row_cases r with hrow | ⟨-, -, hrow⟩
  · rw [hrow]
  · rw [hrow]
    exact q.origin_set r

end Bookclerk.Events
