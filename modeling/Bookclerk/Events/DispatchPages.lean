import Bookclerk.Events.Dispatch
import Bookclerk.Lexical.Split

namespace Bookclerk.Events

open Lexical Db Jobs Named List Option

variable {t : DeliveryTable} {req : DispatchRequest} {e : DomainEvent} {p : Text}

lemma trim_trim (t : Text) : trim (trim t) = trim t := by
  obtain ⟨r, u, hru, hlead, -, hu⟩ := leadingWhitespace_spec t
  obtain ⟨v, q, hvq, htrail, -, hv⟩ := trailingWhitespace_spec t
  have hv' : t.take (t.length - trailingWhitespace t) = v := by
    rw [htrail, hvq, length_append, Nat.add_sub_cancel, take_left]
  have htrim : trim t = v.drop r.length := by rw [trim, hv', hlead]
  have hleading : leadingWhitespace (v.drop r.length) = 0 := by
    have hprefix : v.drop r.length <+: u := by
      have hdrop : t.drop r.length = u := by rw [hru, drop_left]
      rw [← hdrop, ← hv', drop_take]
      exact take_prefix ..
    obtain ⟨rest, rfl⟩ := hprefix
    exact leadingRun_left whitespaceChars_length hu
  have htrailing : trailingWhitespace (v.drop r.length) = 0 := by
    refine trailingWhitespace_right (t := v.take r.length) ?_
    rwa [take_append_drop]
  rw [htrim, trim, hleading, htrailing, Nat.sub_zero, take_length, drop_zero]

lemma deliverable_eq_some {sub : EventSubscriber} :
    deliverable sub = some p ↔ trim sub.pluginId ≠ [] ∧ sub.resourceClass = network ∧ p = trim sub.pluginId := by
  rw [deliverable]
  split_ifs with hblank hclass
  · simp [hblank]
  · simp [hclass]
  · simp [hblank, not_not.mp hclass, eq_comm]

variable {eventId : Text} {now : Stamp}

def Keyed (eventId : Text) (t : DeliveryTable) : Prop :=
  ∀ d ∈ t.rows, (d.eventId = eventId → d.id = eventId ++ utf8 ":" ++ d.pluginId) ∧
    ∀ p, d.id = eventId ++ utf8 ":" ++ p → d.eventId = eventId ∧ d.pluginId = p

def HasRow (eventId : Text) (t : DeliveryTable) (p : Text) : Prop :=
  ∃ d ∈ t.rows, d.eventId = eventId ∧ d.pluginId = p

lemma Keyed.unique (h : Keyed eventId t) {d d' : Delivery} (hd : d ∈ t.rows) (hd' : d' ∈ t.rows)
    (hp : d.eventId = eventId ∧ d.pluginId = p) (hp' : d'.eventId = eventId ∧ d'.pluginId = p) : d = d' := by
  refine t.eq_of_key hd hd' ?_
  rw [Delivery.key, Delivery.key, (h d hd).1 hp.1, (h d' hd').1 hp'.1, hp.2, hp'.2]

structure Created (eventId : Text) (plugins : List Text) (t t' : DeliveryTable) : Prop where
  keyed : Keyed eventId t'
  kept : ∀ d ∈ t.rows, d ∈ t'.rows
  created : ∀ p ∈ plugins, HasRow eventId t' p
  only : ∀ d ∈ t'.rows, d ∈ t.rows ∨ (d.eventId = eventId ∧ d.pluginId ∈ plugins)

lemma created_insertOrIgnore (h : Keyed eventId t) (p orderingKey : Text) (now : Stamp) :
    Created eventId [p] t (insertOrIgnore (newDelivery eventId p orderingKey now) t) := by
  rw [insertOrIgnore]
  by_cases hfree : (newDelivery eventId p orderingKey now).key ∉ t.rows.map Delivery.key ∧
      ¬ t.rows.any (fun r => r.eventId = (newDelivery eventId p orderingKey now).eventId &&
        r.pluginId = (newDelivery eventId p orderingKey now).pluginId)
  · rw [dif_pos hfree]
    refine ⟨fun d hd => ?_, fun d hd => mem_cons_of_mem _ hd, fun p' hp' => ?_, fun d hd => ?_⟩
    · rcases mem_cons.mp hd with rfl | hd
      · refine ⟨fun _ => rfl, fun p' hp' => ⟨rfl, ?_⟩⟩
        exact append_cancel_left hp'
      · exact h d hd
    · obtain rfl := mem_singleton.mp hp'
      exact ⟨_, mem_cons_self, rfl, rfl⟩
    · rcases mem_cons.mp hd with rfl | hd
      · exact .inr ⟨rfl, mem_singleton_self p⟩
      · exact .inl hd
  · rw [dif_neg hfree]
    refine ⟨h, fun d hd => hd, fun p' hp' => ?_, fun d hd => .inl hd⟩
    obtain rfl := mem_singleton.mp hp'
    rw [not_and_or, not_not, not_not] at hfree
    rcases hfree with hkey | hpair
    · obtain ⟨d, hd, hid⟩ := List.mem_map.mp hkey
      exact ⟨d, hd, (h d hd).2 p' hid⟩
    · obtain ⟨d, hd, hpair⟩ := List.any_eq_true.mp hpair
      exact ⟨d, hd, by simpa [newDelivery] using hpair⟩

lemma Created.trans {t' t'' : DeliveryTable} {ps qs : List Text} (h : Created eventId ps t t') (h' : Created eventId qs t' t'') :
    Created eventId (ps ++ qs) t t'' where
  keyed := h'.keyed
  kept d hd := h'.kept d (h.kept d hd)
  created p hp := by
    rcases mem_append.mp hp with hp | hp
    · obtain ⟨d, hd, heq⟩ := h.created p hp
      exact ⟨d, h'.kept d hd, heq⟩
    · exact h'.created p hp
  only d hd := by
    rcases h'.only d hd with hd | ⟨heq, hp⟩
    · rcases h.only d hd with hd | ⟨heq, hp⟩
      · exact .inl hd
      · exact .inr ⟨heq, mem_append_left _ hp⟩
    · exact .inr ⟨heq, mem_append_right _ hp⟩

lemma events_insertDelivery (p : Text) (t : OutboxTables) : (insertDelivery eventId now p t).events = t.events := by
  rw [insertDelivery]
  split <;> rfl

lemma events_insertDeliveries (plugins : List Text) (t : OutboxTables) :
    (plugins.foldl (fun t p => insertDelivery eventId now p t) t).events = t.events := by
  induction plugins generalizing t with
  | nil => rfl
  | cons p plugins ih =>
    rw [foldl_cons, ih]
    exact events_insertDelivery p t

lemma created_insertDeliveries (plugins : List Text) {t : OutboxTables} (he : t.events.find eventId = some e)
    (h : Keyed eventId t.deliveries) :
    Created eventId plugins t.deliveries (plugins.foldl (fun t p => insertDelivery eventId now p t) t).deliveries := by
  induction plugins generalizing t with
  | nil => exact ⟨h, fun d hd => hd, fun p hp => absurd hp not_mem_nil, fun d hd => .inl hd⟩
  | cons p plugins ih =>
    have hone : Created eventId [p] t.deliveries (insertDelivery eventId now p t).deliveries := by
      rw [insertDelivery, he]
      exact created_insertOrIgnore h p e.orderingKey now
    have he' : (insertDelivery eventId now p t).events.find eventId = some e := by rw [events_insertDelivery, he]
    exact hone.trans (ih he' hone.keyed)

lemma foldlM_some {α δ : Type} (f : δ → α → δ) (l : List α) (t : δ) : l.foldlM (fun t a => some (f t a)) t = some (l.foldl f t) := by
  induction l generalizing t with
  | nil => rfl
  | cons a l ih =>
    exact ih (f t a)

def pageTables (req : DispatchRequest) (now : Stamp) (t : OutboxTables) : OutboxTables :=
  let created := (req.subscribers.filterMap deliverable).foldl (fun t p => insertDelivery req.eventId now p t) t
  if req.markDispatched then markDispatched req.eventId created else created

lemma foldlM_planDispatch (req : DispatchRequest) (now : Stamp) (t : OutboxTables) :
    (planDispatchEventDeliveries req.eventId req.subscribers req.markDispatched now).before.foldlM (fun t write => write t) t =
      some (pageTables req now t) := by
  rw [planDispatchEventDeliveries, foldlM_append, foldlM_map, foldlM_some fun t p => insertDelivery req.eventId now p t, pageTables]
  cases req.markDispatched <;> rfl

lemma events_pageTables (req : DispatchRequest) (now : Stamp) (t : OutboxTables) :
    (pageTables req now t).events =
      if req.markDispatched then t.events.modify (dispatchedRow req.eventId) (id_dispatchedRow req.eventId) else t.events := by
  rw [pageTables]
  cases req.markDispatched with
  | false => exact events_insertDeliveries _ t
  | true =>
    rw [if_pos rfl, if_pos rfl, markDispatched]
    rw [events_insertDeliveries]

lemma find_pageTables (req : DispatchRequest) (now : Stamp) (t : OutboxTables) (id : Text) :
    (pageTables req now t).events.find id =
      (t.events.find id).map fun e => if req.markDispatched then dispatchedRow req.eventId e else e := by
  rw [events_pageTables]
  cases req.markDispatched with
  | false => simp
  | true => simp [Table.find_modify]

lemma created_pageTables {t : OutboxTables} (now : Stamp)
    (he : t.events.find req.eventId = some e) (h : Keyed req.eventId t.deliveries) :
    Created req.eventId (req.subscribers.filterMap deliverable) t.deliveries (pageTables req now t).deliveries := by
  rw [pageTables]
  cases req.markDispatched with
  | false | true => exact created_insertDeliveries _ he h

lemma dispatchPage_cases (digest : DispatchRequest → Text) {db : OutboxDb}
    (operationId : Text) (now : Stamp) (he : db.tables.events.find req.eventId = some e) :
    ∃ db' result, dispatchPage digest req operationId now db = some (db', result) ∧
      ((∃ r ∈ db.receipts, r.operationId = operationId ∧ result.status = (if r.requestHash = digest req then r.status else .idempotencyConflict) ∧
          db'.tables = db.tables ∧ ∀ r' ∈ db'.receipts, ∃ r ∈ db.receipts, r'.SameAnswer r) ∨
        (result.status = .ok ∧ db'.tables = pageTables req now db.tables ∧
          ∀ r' ∈ db'.receipts, (∃ r ∈ db.receipts, r'.SameAnswer r) ∨ r'.requestHash = digest req)) := by
  let plan := planDispatchEventDeliveries req.eventId req.subscribers req.markDispatched now
  let ctx : ReceiptCtx := ⟨operationId, digest req, utf8 "dispatchEventDeliveries", now⟩
  have hctx : selectReceipt ctx.operationId db.receipts = selectReceipt operationId db.receipts := rfl
  cases hprior : selectReceipt operationId db.receipts with
  | some r =>
    obtain ⟨db', hwrap, htables, hreceipts⟩ := wrapStatusOp_replayed plan (hctx.trans hprior)
    obtain ⟨hr, hid⟩ := selectReceipt_eq_some hprior
    exact ⟨db', _, hwrap, .inl ⟨r, hr, hid, status_interpretReceipt .., htables, hreceipts⟩⟩
  | none =>
    rcases wrapStatusOp_fresh plan (hctx.trans hprior) rfl with
      ⟨hwrites, -⟩ | ⟨tables, db', result, hwrites, hwrap, htables, hstatus, hreceipts⟩
    · exact absurd ((foldlM_planDispatch req now db.tables).symm.trans hwrites) (by simp)
    · obtain rfl : pageTables req now db.tables = tables := some.inj ((foldlM_planDispatch req now db.tables).symm.trans hwrites)
      refine ⟨db', result, hwrap, .inr ⟨?_, htables, fun r' hr' => (hreceipts r' hr').imp_right (·.requestHash)⟩⟩
      rw [hstatus]
      exact if_pos (by rw [find_pageTables, he]; rfl)

open Lexical Db Jobs Named Bookclerk.System

variable {ι : Type} {digest : DispatchRequest → Text}

def Covered (eventId : Text) (t : DeliveryTable) (subscribers : List EventSubscriber) : Prop :=
  ∀ sub ∈ subscribers, ∀ p, deliverable sub = some p → HasRow eventId t p

/-- The list that an attempt pages through: that of the attempt that froze the snapshot, or the plugin
ids read back. -/
def Frozen (first : Option (List EventSubscriber)) (snapshot : List EventSubscriber) : Prop :=
  ∃ subscribers, first = some subscribers ∧
    (snapshot = subscribers ∨ snapshot = (subscribers.map EventSubscriber.pluginId).map EventSubscriber.plugin)

structure DispatchInv (digest : DispatchRequest → Text) (eventId : Text) (s : DispatchSystem ι) : Prop where
  event : ∃ e, s.db.tables.events.find eventId = some e ∧ e.dispatchSnapshot = s.first.map (List.map EventSubscriber.pluginId) ∧
    (e.dispatchState = .dispatched → ∃ snapshot, Frozen s.first snapshot ∧ Covered eventId s.db.tables.deliveries snapshot)
  keyed : Keyed eventId s.db.tables.deliveries
  receipts : ∀ r ∈ s.db.receipts, ∀ req : DispatchRequest, req.eventId = eventId → r.requestHash = digest req → r.status = .ok →
    Covered eventId s.db.tables.deliveries req.subscribers
  paging : ∀ i a snapshot start page, s.attempts i = some a → a.phase = .paging snapshot start page →
    Frozen s.first snapshot ∧ Covered eventId s.db.tables.deliveries (snapshot.take start)
  completed : ∀ snapshot ∈ s.completed, Frozen s.first snapshot

variable {subscribers : List EventSubscriber}

lemma Covered.mono {t t' : DeliveryTable} (h : Covered eventId t subscribers)
    (hkept : ∀ d ∈ t.rows, d ∈ t'.rows) : Covered eventId t' subscribers := by
  intro sub hsub p hp
  obtain ⟨d, hd, heq⟩ := h sub hsub p hp
  exact ⟨d, hkept d hd, heq⟩

lemma Created.covered {t t' : DeliveryTable}
    (h : Created eventId (subscribers.filterMap deliverable) t t') : Covered eventId t' subscribers :=
  fun sub hsub p hp => h.created p (mem_filterMap.mpr ⟨sub, hsub, hp⟩)

lemma nextPage_spec (eventId operationId : Text) (chunk : Nat) (snapshot : List EventSubscriber) (start page : Nat) :
    let next := nextPage eventId operationId chunk snapshot start page
    next.1.eventId = eventId ∧ (∀ sub ∈ snapshot.take next.2.2, sub ∈ snapshot.take start ∨ sub ∈ next.1.subscribers) ∧
      (next.1.markDispatched = true → ∀ sub ∈ snapshot, sub ∈ snapshot.take start ∨ sub ∈ next.1.subscribers) := by
  rw [nextPage]
  by_cases hnil : snapshot = []
  · rw [hnil]
    exact ⟨rfl, by simp, by simp⟩
  rw [if_neg hnil]
  have hsplit (stop : Nat) : ∀ sub ∈ snapshot.take stop, sub ∈ snapshot.take start ∨ sub ∈ (snapshot.take stop).drop start := by
    intro sub hsub
    rw [← take_append_drop start (snapshot.take stop), mem_append, take_take] at hsub
    rcases hsub with hsub | hsub
    · exact .inl (take_subset_take_left snapshot (min_le_left start stop) hsub)
    · exact .inr hsub
  refine ⟨rfl, hsplit _, fun hlast sub hsub => ?_⟩
  have hstop : min (start + max chunk 1) snapshot.length = snapshot.length := by simpa using hlast
  refine hsplit _ sub ?_
  rwa [hstop, take_length]

lemma frozen_of_snapshot {e : DomainEvent} {ids : List Text} {first : Option (List EventSubscriber)}
    (he : e.dispatchSnapshot = first.map (List.map EventSubscriber.pluginId)) (hids : e.dispatchSnapshot = some ids) :
    Frozen first (ids.map EventSubscriber.plugin) := by
  obtain ⟨subscribers, hfirst, rfl⟩ := map_eq_some_iff.mp (he.symm.trans hids)
  exact ⟨subscribers, hfirst, .inr rfl⟩

lemma covered_take_zero {t : DeliveryTable} (snapshot : List EventSubscriber) : Covered eventId t (snapshot.take 0) := by
  intro sub hsub
  simp at hsub

lemma dispatchState_dispatchedRow {e : DomainEvent} (hid : e.id = eventId) : (dispatchedRow eventId e).dispatchState = .dispatched := by
  rw [dispatchedRow]
  cases hstate : e.dispatchState with
  | pending => rw [if_pos ⟨hid, rfl⟩]
  | dispatched => simp [hstate]

lemma dispatchSnapshot_dispatchedRow (e : DomainEvent) : (dispatchedRow eventId e).dispatchSnapshot = e.dispatchSnapshot := by
  rw [dispatchedRow]
  split_ifs <;> rfl

structure PageDone (digest : DispatchRequest → Text) (eventId : Text) (s : DispatchSystem ι) (db : OutboxDb) (req : DispatchRequest)
    (ok : Prop) : Prop where
  kept : ∀ d ∈ s.db.tables.deliveries.rows, d ∈ db.tables.deliveries.rows
  keyed : Keyed eventId db.tables.deliveries
  event : ∃ e e', s.db.tables.events.find eventId = some e ∧ db.tables.events.find eventId = some e' ∧
    e'.dispatchSnapshot = e.dispatchSnapshot ∧ (e'.dispatchState = .dispatched → e.dispatchState = .dispatched ∨ (ok ∧ req.markDispatched = true))
  covered : ok → Covered eventId db.tables.deliveries req.subscribers
  receipts : ∀ r ∈ db.receipts, ∀ req : DispatchRequest, req.eventId = eventId → r.requestHash = digest req → r.status = .ok →
    Covered eventId db.tables.deliveries req.subscribers

lemma DispatchInv.page {s : DispatchSystem ι} (hinj : Function.Injective digest) (h : DispatchInv digest eventId s) {req : DispatchRequest}
    (hreq : req.eventId = eventId) (operationId : Text) (now : Stamp) :
    ∃ db result, dispatchPage digest req operationId now s.db = some (db, result) ∧
      PageDone digest eventId s db req (result.status = .ok) := by
  obtain ⟨e, he, -⟩ := h.event
  obtain ⟨db, result, hpage, ⟨r, hr, -, hstatus, htables, hreceipts⟩ | ⟨hstatus, htables, hreceipts⟩⟩ :=
    dispatchPage_cases digest operationId now (hreq ▸ he : s.db.tables.events.find req.eventId = some e)
  · refine ⟨db, result, hpage, ?_, ?_, ?_, ?_, ?_⟩
    · rw [htables]
      exact fun d hd => hd
    · rw [htables]
      exact h.keyed
    · exact ⟨e, e, he, by rw [htables, he], rfl, .inl⟩
    · intro hok
      rw [htables]
      rw [hstatus] at hok
      by_cases hhash : r.requestHash = digest req
      · rw [if_pos hhash] at hok
        exact h.receipts r hr req hreq hhash hok
      · rw [if_neg hhash] at hok
        exact absurd hok (by simp)
    · intro r' hr' req' hreq' hhash hok
      rw [htables]
      obtain ⟨r₀, hr₀, hsame⟩ := hreceipts r' hr'
      exact h.receipts r₀ hr₀ req' hreq' (hsame.requestHash ▸ hhash) (hsame.status ▸ hok)
  · have hcreated := created_pageTables now (hreq ▸ he) (hreq ▸ h.keyed)
    rw [← htables, hreq] at hcreated
    refine ⟨db, result, hpage, hcreated.kept, hcreated.keyed, ?_, fun _ => hcreated.covered, ?_⟩
    · refine ⟨e, if req.markDispatched then dispatchedRow req.eventId e else e, he, by rw [htables, find_pageTables, he, map_some],
        ?_, fun hdone => ?_⟩
      · split_ifs
        · exact dispatchSnapshot_dispatchedRow e
        · rfl
      · split_ifs at hdone with hmark
        · exact .inr ⟨hstatus, hmark⟩
        · exact .inl hdone
    · intro r' hr' req' hreq' hhash hok
      rcases hreceipts r' hr' with ⟨r₀, hr₀, hsame⟩ | hnew
      · exact (h.receipts r₀ hr₀ req' hreq' (hsame.requestHash ▸ hhash) (hsame.status ▸ hok)).mono hcreated.kept
      · obtain rfl := hinj (hnew.symm.trans hhash)
        exact hcreated.covered

end Bookclerk.Events
