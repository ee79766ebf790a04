import Bookclerk.Db.Keyset
import Bookclerk.Events.DispatchPages

namespace Bookclerk.Events

open Lexical Db Jobs Named List Option

variable {t : Table DomainEvent.id} {id : Text}

section LiveCatalog

structure EventSubscriberNode where
  nodeId : Text
  pluginId : Text
  subscriptions : List EventCatalogSubscription
  enabled : Bool
  heartbeatAt : Stamp

structure EventSubscriberCatalogRecord where
  pluginId : Text
  subscriptions : List EventCatalogSubscription
  enabled : Bool
  updatedAt : Stamp

def EventSubscriberNode.entry (row : EventSubscriberNode) : EventSubscriberCatalogRecord :=
  ⟨row.pluginId, [], false, row.heartbeatAt⟩

def EventSubscriberCatalogRecord.add (entry : EventSubscriberCatalogRecord) (row : EventSubscriberNode) : EventSubscriberCatalogRecord :=
  let seen := { entry with updatedAt := max entry.updatedAt row.heartbeatAt }
  if row.enabled then { seen with enabled := true, subscriptions := entry.subscriptions ++ row.subscriptions } else seen

def collapseNode (row : EventSubscriberNode) : List EventSubscriberCatalogRecord → List EventSubscriberCatalogRecord
  | [] => [row.entry.add row]
  | entry :: rest =>
    if row.pluginId = entry.pluginId then entry.add row :: rest
    else if row.pluginId < entry.pluginId then row.entry.add row :: entry :: rest
    else entry :: collapseNode row rest

def collapseLiveSubscriberNodes (rows : List EventSubscriberNode) : List EventSubscriberCatalogRecord :=
  rows.foldl (fun catalog row => collapseNode row catalog) []

def eventSubscriberHeartbeatTtlSecs : Nat :=
  60

def nodeOrder (a b : EventSubscriberNode) : Prop :=
  a.pluginId < b.pluginId ∨ (a.pluginId = b.pluginId ∧ a.nodeId ≤ b.nodeId)

instance : DecidableRel nodeOrder :=
  fun a b => inferInstanceAs (Decidable (a.pluginId < b.pluginId ∨ (a.pluginId = b.pluginId ∧ a.nodeId ≤ b.nodeId)))

def listLiveEventSubscribers (now : Stamp) (nodes : List EventSubscriberNode) : List EventSubscriberCatalogRecord :=
  collapseLiveSubscriberNodes
    ((nodes.filter fun row => now ≤ afterSecs row.heartbeatAt eventSubscriberHeartbeatTtlSecs).insertionSort nodeOrder)

def subscriptionMatchesEvent (parse : Text → Option Json) (sub : EventCatalogSubscription) (e : DomainEvent) : Bool :=
  resourceClassOr sub.resourceClass = network && sub.eventType = e.eventType && lists sub.schemaVersions e.schemaVersion &&
    eventFilterMatches parse sub.filter e.payload

def catalogSubscribersForEvent (parse : Text → Option Json) (catalog : List EventSubscriberCatalogRecord) (e : DomainEvent) :
    List EventSubscriber :=
  catalog.filterMap fun row =>
    if row.enabled && row.subscriptions.any (fun sub => subscriptionMatchesEvent parse sub e) then some ⟨row.pluginId, network⟩ else none

end LiveCatalog

section LocalPath

def insertSubscriber (eventId orderingKey : Text) (now : Stamp) (s : DeliveryTable × Nat) (sub : EventSubscriber) : DeliveryTable × Nat :=
  if trim sub.pluginId = [] then s
  else if resourceClassOr sub.resourceClass ≠ network then s
  else
    let t := insertOrIgnore (newDelivery eventId sub.pluginId orderingKey now) s.1
    (t, s.2 + (t.rows.length - s.1.rows.length))

def dispatchEventDeliveriesOn (eventId : Text) (subscribers : List EventSubscriber) (now : Stamp) (t : OutboxTables) : OutboxTables × Nat :=
  match t.events.find eventId with
  | none => (t, 0)
  | some e =>
    let (deliveries, created) := subscribers.foldl (insertSubscriber eventId e.orderingKey now) (t.deliveries, 0)
    (markDispatched eventId { t with deliveries }, created)

end LocalPath

section AtomicBackend

variable (digest : DispatchRequest → Text) (clock : Text → Stamp)

def loadOrInitDispatchSnapshot (eventId : Text) (subscribers : List EventSubscriber) (db : OutboxDb) :
    Option (OutboxDb × List EventSubscriber) :=
  match db.tables.events.find eventId with
  | none => none
  | some e =>
    match e.dispatchSnapshot with
    | some ids => some (db, ids.map EventSubscriber.plugin)
    | none =>
      let events := db.tables.events.modify (snapshotRow eventId (subscribers.map EventSubscriber.pluginId)) (id_snapshotOf eventId subscribers)
      some ({ db with tables := { db.tables with events } }, subscribers)

def dispatchPages (eventId operationId : Text) (chunk : Nat) (snapshot : List EventSubscriber) :
    Nat → Nat → Nat → OutboxDb → Option (OutboxDb × Nat)
  | 0, _, _, _ => none
  | rounds + 1, start, page, db =>
    let (req, op, stop) := nextPage eventId operationId chunk snapshot start page
    match dispatchPage digest req op (clock op) db with
    | none => none
    | some (db', result) =>
      if result.status ≠ .ok then none
      else if req.markDispatched then some (db', result.payload.getD 0)
      else (dispatchPages eventId operationId chunk snapshot rounds stop (page + 1) db').map fun s => (s.1, result.payload.getD 0 + s.2)

end AtomicBackend

inductive DispatchBackend where
  | localPath
  | atomic (chunk : Nat)

section Reconcile

variable (parse : Text → Option Json) (digest : DispatchRequest → Text) (clock : Text → Stamp) (backend : DispatchBackend)

def dispatchEventDeliveries (eventId : Text) (subscribers : List EventSubscriber) (operationId : Text) (db : OutboxDb) :
    Option (OutboxDb × Nat) :=
  match backend with
  | .localPath =>
    let (tables, created) := dispatchEventDeliveriesOn eventId subscribers (clock operationId) db.tables
    some ({ db with tables }, created)
  | .atomic chunk =>
    (loadOrInitDispatchSnapshot eventId subscribers db).bind fun (db', snapshot) =>
      dispatchPages digest clock eventId operationId chunk snapshot (snapshot.length + 1) 0 0 db'

def eventKey (e : DomainEvent) : Stamp × Text :=
  (e.createdAt, e.id)

def keyLt (a b : Stamp × Text) : Bool :=
  a.1 < b.1 || (a.1 = b.1 && a.2 < b.2)

def eventOrder (a b : DomainEvent) : Prop :=
  keyLt (eventKey b) (eventKey a) = false

instance : DecidableRel eventOrder :=
  fun a b => inferInstanceAs (Decidable (keyLt (eventKey b) (eventKey a) = false))

def hasDelivery (t : DeliveryTable) (eventId pluginId : Text) : Bool :=
  t.rows.any fun d => d.eventId = eventId && d.pluginId = pluginId

def isMissing (pluginId : Text) (eventTypes : List Text) (createdAfter : Stamp) (t : OutboxTables) (e : DomainEvent) : Bool :=
  e.dispatchState = .dispatched && createdAfter < e.createdAt && eventTypes.contains e.eventType && !hasDelivery t.deliveries e.id pluginId

def listMissingDispatchedEventsForPlugin (pluginId : Text) (eventTypes : List Text) (createdAfter : Stamp) (limit : Nat)
    (after : Option (Stamp × Text)) (t : OutboxTables) : List DomainEvent :=
  if eventTypes = [] ∨ trim pluginId = [] then []
  else
    let selected := t.events.rows.filter fun e => isMissing pluginId eventTypes createdAfter t e && afterCursor eventKey keyLt after e
    (((selected.insertionSort eventOrder).take limit).map DomainEvent.id).filterMap t.events.find

def reconcilePage : Nat :=
  200

def reconcileEvent (row : EventSubscriberCatalogRecord) (s : OutboxDb × Nat) (e : DomainEvent) : Option (OutboxDb × Nat) :=
  match (catalogSubscribersForEvent parse [row] e).find? fun sub => sub.pluginId = row.pluginId with
  | none => some s
  | some sub =>
    let op := utf8 "reconcile-" ++ e.id ++ utf8 "-" ++ sub.pluginId
    (dispatchEventDeliveries digest clock backend e.id [sub] op s.1).map fun r => (r.1, s.2 + r.2)

def eventTypes (row : EventSubscriberCatalogRecord) : List Text :=
  (row.subscriptions.map EventCatalogSubscription.eventType).dedup

def reconcileRow (createdAfter : Stamp) (s : OutboxDb × Nat) (row : EventSubscriberCatalogRecord) : Option (OutboxDb × Nat) :=
  if !row.enabled then some s
  else if eventTypes row = [] then some s
  else
    keysetLoop (fun after s => listMissingDispatchedEventsForPlugin row.pluginId (eventTypes row) createdAfter reconcilePage after s.1.tables)
      eventKey (reconcileEvent parse digest clock backend row) reconcilePage (s.1.tables.events.rows.length + 1) none s

def reconcileCatalogDeliveries (catalog : List EventSubscriberCatalogRecord) (createdAfter : Stamp) (db : OutboxDb) :
    Option (OutboxDb × Nat) :=
  catalog.foldlM (reconcileRow parse digest clock backend createdAfter) (db, 0)

end Reconcile

variable {digest : DispatchRequest → Text} {clock : Text → Stamp} {db db' : OutboxDb} {e : DomainEvent}

def colon : UInt8 :=
  0x3A

/-- What every store keeps: event ids have no colon in them, delivery ids are made of the event and the
plugin, and an `ok` receipt of a page stands for the rows of the page. -/
structure Sound (digest : DispatchRequest → Text) (db : OutboxDb) : Prop where
  events : ∀ e ∈ db.tables.events.rows, colon ∉ e.id
  deliveries : ∀ d ∈ db.tables.deliveries.rows, d.id = d.eventId ++ utf8 ":" ++ d.pluginId ∧ colon ∉ d.eventId
  receipts : ∀ r ∈ db.receipts, r.status = .ok → ∀ req : DispatchRequest, r.requestHash = digest req →
    Covered req.eventId db.tables.deliveries req.subscribers

lemma deliveryId_inj {a b p q : Text} (ha : colon ∉ a) (hb : colon ∉ b) (h : a ++ utf8 ":" ++ p = b ++ utf8 ":" ++ q) : a = b ∧ p = q := by
  have htake (c r : Text) (hc : colon ∉ c) : (c ++ utf8 ":" ++ r).takeWhile (· ≠ colon) = c := by
    have hne : ∀ x ∈ c, decide (x ≠ colon) = true := fun x hx => decide_eq_true fun heq => hc (heq ▸ hx)
    rw [append_assoc, takeWhile_append_of_pos hne, show utf8 ":" = [colon] by decide +kernel]
    simp
  obtain rfl : a = b := by rw [← htake a p ha, h, htake b q hb]
  exact ⟨rfl, append_cancel_left h⟩

lemma Sound.keyed (h : Sound digest db) (hid : colon ∉ id) : Keyed id db.tables.deliveries := by
  intro d hd
  obtain ⟨hkey, hcolon⟩ := h.deliveries d hd
  refine ⟨fun heq => heq ▸ hkey, fun p hp => ?_⟩
  exact deliveryId_inj hcolon hid (hkey.symm.trans hp)

lemma Sound.colon_of_find (h : Sound digest db) (he : db.tables.events.find id = some e) : colon ∉ id := by
  obtain ⟨hmem, rfl⟩ := Table.find_eq_some.mp he
  exact h.events e hmem

lemma Sound.of_created (h : Sound digest db) {plugins : List Text} (hid : colon ∉ id)
    (hevents : ∀ e' ∈ db'.tables.events.rows, ∃ e ∈ db.tables.events.rows, e.id = e'.id)
    (hcreated : Created id plugins db.tables.deliveries db'.tables.deliveries)
    (hreceipts : ∀ r ∈ db'.receipts, (∃ r₀ ∈ db.receipts, r.SameAnswer r₀) ∨ ∀ req : DispatchRequest, r.requestHash = digest req →
      Covered req.eventId db'.tables.deliveries req.subscribers) : Sound digest db' where
  events e' he' := by
    obtain ⟨e, he, heq⟩ := hevents e' he'
    exact heq ▸ h.events e he
  deliveries d hd := by
    rcases hcreated.only d hd with hd' | ⟨heq, -⟩
    · exact h.deliveries d hd'
    · exact ⟨by rw [heq]; exact (hcreated.keyed d hd).1 heq, heq ▸ hid⟩
  receipts r hr hok req hhash := by
    rcases hreceipts r hr with ⟨r₀, hr₀, hsame⟩ | hnew
    · exact (h.receipts r₀ hr₀ (hsame.status ▸ hok) req (hsame.requestHash ▸ hhash)).mono hcreated.kept
    · exact hnew req hhash

lemma modify_dispatchedRow (he : t.find id = some e) (hdone : e.dispatchState = .dispatched) :
    t.modify (dispatchedRow id) (id_dispatchedRow id) = t := by
  refine t.modify_eq_self _ fun x hx => ?_
  rw [dispatchedRow, if_neg]
  rintro ⟨hid, hpending⟩
  obtain ⟨hmem, rfl⟩ := Table.find_eq_some.mp he
  obtain rfl := t.eq_of_key hx hmem hid
  rw [hdone] at hpending
  exact absurd hpending (by simp)

lemma Created.congr {t t' : DeliveryTable} {plugins plugins' : List Text} (h : Created id plugins t t')
    (heq : ∀ p, p ∈ plugins ↔ p ∈ plugins') : Created id plugins' t t' where
  keyed := h.keyed
  kept := h.kept
  created p hp := h.created p ((heq p).mpr hp)
  only d hd := (h.only d hd).imp_right fun ⟨hid, hp⟩ => ⟨hid, (heq _).mp hp⟩

section Pages

variable {op : Text} {now : Stamp}

lemma Sound.page (hinj : Function.Injective digest) (h : Sound digest db) {req : DispatchRequest} {result : AtomicResult Nat}
    (he : db.tables.events.find req.eventId = some e) (hdone : e.dispatchState = .dispatched)
    (hpage : dispatchPage digest req op now db = some (db', result)) (hok : result.status = .ok) :
    db'.tables.events = db.tables.events ∧
      Created req.eventId (req.subscribers.filterMap deliverable) db.tables.deliveries db'.tables.deliveries ∧ Sound digest db' := by
  have hid := h.colon_of_find he
  obtain ⟨db₁, result₁, hpage₁, hcases⟩ := dispatchPage_cases digest op now he
  obtain ⟨rfl, rfl⟩ : db₁ = db' ∧ result₁ = result := Prod.mk.inj (mem_unique hpage₁ hpage)
  rcases hcases with ⟨r, hr, -, hstatus, htables, hreceipts⟩ | ⟨-, htables, hreceipts⟩
  · -- the page has been run before, and its rows are there
    have hcovered : Covered req.eventId db.tables.deliveries req.subscribers := by
      by_cases hhash : r.requestHash = digest req
      · rw [hstatus, if_pos hhash] at hok
        exact h.receipts r hr hok req hhash
      · rw [hstatus, if_neg hhash] at hok
        exact absurd hok (by simp)
    have hcreated : Created req.eventId (req.subscribers.filterMap deliverable) db.tables.deliveries db₁.tables.deliveries := by
      rw [htables]
      refine ⟨h.keyed hid, fun d hd => hd, fun p hp => ?_, fun d hd => .inl hd⟩
      obtain ⟨sub, hsub, hp⟩ := mem_filterMap.mp hp
      exact hcovered sub hsub p hp
    refine ⟨by rw [htables], hcreated, h.of_created hid ?_ hcreated fun r hr => .inl (hreceipts r hr)⟩
    rw [htables]
    exact fun e he => ⟨e, he, rfl⟩
  · have hevents : db₁.tables.events = db.tables.events := by
      rw [htables, events_pageTables, modify_dispatchedRow he hdone, ite_self]
    have hcreated := created_pageTables now he (h.keyed hid)
    rw [← htables] at hcreated
    refine ⟨hevents, hcreated, h.of_created hid ?_ hcreated fun r hr => ?_⟩
    · rw [hevents]
      exact fun e he => ⟨e, he, rfl⟩
    · rcases hreceipts r hr with hold | hnew
      · exact .inl hold
      · refine .inr fun req' hhash => ?_
        obtain rfl := hinj (hnew.symm.trans hhash)
        exact hcreated.covered

lemma nextPage_subset (eventId operationId : Text) (chunk : Nat) (snapshot : List EventSubscriber) (start page : Nat) :
    ∀ sub ∈ (nextPage eventId operationId chunk snapshot start page).1.subscribers, sub ∈ snapshot := by
  rw [nextPage]
  split_ifs
  · simp
  · intro sub hsub
    exact mem_of_mem_take (mem_of_mem_drop hsub)

lemma Sound.pages (hinj : Function.Injective digest) {operationId : Text} {chunk rounds start page n : Nat} {snapshot : List EventSubscriber}
    (h : Sound digest db) (he : db.tables.events.find id = some e) (hdone : e.dispatchState = .dispatched)
    (hpages : dispatchPages digest clock id operationId chunk snapshot rounds start page db = some (db', n)) :
    ∃ paged : List EventSubscriber, (∀ sub ∈ paged, sub ∈ snapshot) ∧ (∀ sub ∈ snapshot, sub ∈ snapshot.take start ∨ sub ∈ paged) ∧
      db'.tables.events = db.tables.events ∧
      Created id (paged.filterMap deliverable) db.tables.deliveries db'.tables.deliveries ∧ Sound digest db' := by
  induction rounds generalizing start page n db with
  | zero => simp [dispatchPages] at hpages
  | succ rounds ih =>
    rw [dispatchPages] at hpages
    obtain ⟨hreq, hnext, hlast⟩ := nextPage_spec id operationId chunk snapshot start page
    have hsubset := nextPage_subset id operationId chunk snapshot start page
    generalize nextPage id operationId chunk snapshot start page = next at hpages hreq hnext hlast hsubset
    obtain ⟨req, op, stop⟩ := next
    cases hpage : dispatchPage digest req op (clock op) db with
    | none => simp [hpage] at hpages
    | some answer =>
      obtain ⟨db₁, result⟩ := answer
      simp only [hpage] at hpages
      by_cases hok : result.status = .ok
      · rw [if_neg (not_not.mpr hok)] at hpages
        obtain ⟨hevents, hcreated, hsound⟩ := h.page hinj (hreq ▸ he) hdone hpage hok
        rw [hreq] at hcreated
        by_cases hmark : req.markDispatched = true
        · rw [if_pos hmark] at hpages
          cases hpages
          exact ⟨req.subscribers, hsubset, hlast hmark, hevents, hcreated, hsound⟩
        · rw [if_neg hmark] at hpages
          obtain ⟨⟨db₂, m⟩, hrest, heq⟩ := map_eq_some_iff.mp hpages
          cases heq
          obtain ⟨paged, hin, hall, hevents', hcreated', hsound'⟩ := ih hsound (by rw [hevents, he]) hrest
          refine ⟨req.subscribers ++ paged, fun sub hsub => ?_, fun sub hsub => ?_, hevents'.trans hevents, ?_, hsound'⟩
          · exact (mem_append.mp hsub).elim (hsubset sub) (hin sub)
          · rcases hall sub hsub with hbefore | hsub
            · exact (hnext sub hbefore).imp_right (mem_append_left paged)
            · exact .inr (mem_append_right _ hsub)
          · rw [filterMap_append]
            exact hcreated.trans hcreated'
      · rw [if_pos hok] at hpages
        exact absurd hpages (by simp)

end Pages

section Calls

def withSnapshot (id : Text) (snapshot : Option (List Text)) (e : DomainEvent) : DomainEvent :=
  if e.id = id then { e with dispatchSnapshot := snapshot } else e

lemma id_withSnapshot (id : Text) (snapshot : Option (List Text)) (e : DomainEvent) : (withSnapshot id snapshot e).id = e.id := by
  rw [withSnapshot]
  split_ifs <;> rfl

lemma withSnapshot_eq_self {snapshot : Option (List Text)} (h : e.id = id → e.dispatchSnapshot = snapshot) :
    withSnapshot id snapshot e = e := by
  rw [withSnapshot]
  split_ifs with hid
  · rw [← h hid]
  · rfl

structure Joined (digest : DispatchRequest → Text) (e : DomainEvent) (plugins : List Text) (snapshot : Option (List Text))
    (db db' : OutboxDb) : Prop where
  events : db'.tables.events = db.tables.events.modify (withSnapshot e.id snapshot) (id_withSnapshot e.id snapshot)
  created : Created e.id plugins db.tables.deliveries db'.tables.deliveries
  sound : Sound digest db'

def joinedPlugins (e : DomainEvent) (pluginId : Text) : DispatchBackend → List Text
  | .localPath => [pluginId]
  | .atomic _ => ((e.dispatchSnapshot.getD [pluginId]).map EventSubscriber.plugin).filterMap deliverable

def joinedSnapshot (e : DomainEvent) (pluginId : Text) : DispatchBackend → Option (List Text)
  | .localPath => e.dispatchSnapshot
  | .atomic _ => some (e.dispatchSnapshot.getD [pluginId])

lemma modify_withSnapshot_self (he : t.find e.id = some e) :
    t.modify (withSnapshot e.id e.dispatchSnapshot) (id_withSnapshot e.id e.dispatchSnapshot) = t := by
  refine t.modify_eq_self _ fun x hx => withSnapshot_eq_self fun hid => ?_
  rw [t.eq_of_key hx (Table.find_eq_some.mp he).1 hid]

variable {pluginId op : Text} {n : Nat}

lemma Sound.dispatch_local (h : Sound digest db) (he : db.tables.events.find e.id = some e) (hdone : e.dispatchState = .dispatched)
    (hblank : trim pluginId ≠ [])
    (hcall : dispatchEventDeliveries digest clock .localPath e.id [⟨pluginId, network⟩] op db = some (db', n)) :
    Joined digest e (joinedPlugins e pluginId .localPath) (joinedSnapshot e pluginId .localPath) db db' := by
  have hid := h.colon_of_find he
  have hclass : resourceClassOr network = network := by decide +kernel
  have hcreated := created_insertOrIgnore (h.keyed hid) pluginId e.orderingKey (clock op)
  simp only [dispatchEventDeliveries, dispatchEventDeliveriesOn, he, foldl_cons, insertSubscriber, if_neg hblank, hclass, ne_eq, markDispatched, modify_dispatchedRow he hdone] at hcall
  cases hcall
  refine ⟨(modify_withSnapshot_self he).symm, hcreated, h.of_created hid (fun e he => ⟨e, he, rfl⟩) hcreated fun r hr => ?_⟩
  exact .inl ⟨r, hr, rfl, rfl, rfl⟩

lemma Sound.dispatch_atomic (hinj : Function.Injective digest) (h : Sound digest db) (he : db.tables.events.find e.id = some e)
    (hdone : e.dispatchState = .dispatched) {chunk : Nat}
    (hcall : dispatchEventDeliveries digest clock (.atomic chunk) e.id [⟨pluginId, network⟩] op db = some (db', n)) :
    Joined digest e (joinedPlugins e pluginId (.atomic chunk)) (joinedSnapshot e pluginId (.atomic chunk)) db db' := by
  obtain ⟨⟨db₁, snapshot⟩, hload, hpages⟩ := bind_eq_some_iff.mp hcall
  obtain ⟨hsnapshot, hevents, hdeliveries, hreceipts⟩ : snapshot = (e.dispatchSnapshot.getD [pluginId]).map EventSubscriber.plugin ∧
      db₁.tables.events = db.tables.events.modify (withSnapshot e.id (some (e.dispatchSnapshot.getD [pluginId])))
        (id_withSnapshot e.id (some (e.dispatchSnapshot.getD [pluginId]))) ∧
      db₁.tables.deliveries = db.tables.deliveries ∧ db₁.receipts = db.receipts := by
    rw [loadOrInitDispatchSnapshot, he] at hload
    cases hids : e.dispatchSnapshot with
    | some ids =>
      simp only [hids] at hload
      cases hload
      refine ⟨rfl, ?_, rfl, rfl⟩
      have hself := modify_withSnapshot_self he
      simp only [hids] at hself
      exact hself.symm
    | none =>
      simp only [hids] at hload
      cases hload
      refine ⟨rfl, ?_, rfl, rfl⟩
      refine Table.modify_congr _ (id_snapshotRow _ _) (id_withSnapshot _ _) fun x hx => ?_
      rw [snapshotRow, withSnapshot]
      by_cases hid : x.id = e.id
      · obtain rfl := db.tables.events.eq_of_key hx (Table.find_eq_some.mp he).1 hid
        simp [hids]
      · rw [if_neg fun h => hid h.1, if_neg hid]
  have hfind : db₁.tables.events.find e.id = some (withSnapshot e.id (some (e.dispatchSnapshot.getD [pluginId])) e) := by
    rw [hevents, Table.find_modify, he, map_some]
  have hsound : Sound digest db₁ := by
    refine ⟨fun x hx => ?_, fun d hd => ?_, fun r hr hok req hhash => ?_⟩
    · rw [hevents] at hx
      obtain ⟨y, hy, rfl⟩ := (Table.mem_modify _).mp hx
      rw [id_withSnapshot]
      exact h.events y hy
    · exact h.deliveries d (hdeliveries ▸ hd)
    · rw [hdeliveries]
      exact h.receipts r (hreceipts ▸ hr) hok req hhash
  have hdone' : (withSnapshot e.id (some (e.dispatchSnapshot.getD [pluginId])) e).dispatchState = .dispatched := by
    rw [withSnapshot, if_pos rfl]
    exact hdone
  obtain ⟨paged, hin, hall, hevents', hcreated, hsound'⟩ := hsound.pages hinj hfind hdone' hpages
  rw [hdeliveries] at hcreated
  refine ⟨hevents'.trans hevents, hcreated.congr fun p => ?_, hsound'⟩
  have hsame : ∀ sub, sub ∈ paged ↔ sub ∈ snapshot := fun sub => ⟨hin sub, fun hsub => by simpa using hall sub hsub⟩
  simp only [mem_filterMap, hsame, hsnapshot, joinedPlugins]

end Calls

end Bookclerk.Events
