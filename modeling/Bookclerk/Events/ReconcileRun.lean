import Bookclerk.Events.Reconcile

namespace Bookclerk.Events

open Lexical Db Jobs Named List Option

variable {l : List DomainEvent} {plugins : List Text} {db db' : OutboxDb} {t : OutboxTables} {id : Text}

section Order

lemma keyLt_irrefl (k : Stamp × Text) : keyLt k k = false := by
  simp [keyLt]

lemma keyLt_iff {a b : Stamp × Text} : keyLt a b = true ↔ a.1 < b.1 ∨ (a.1 = b.1 ∧ a.2 < b.2) := by
  simp [keyLt]

lemma keyLt_trans (a b c : Stamp × Text) (hab : keyLt a b = true) (hbc : keyLt b c = true) : keyLt a c = true := by
  rw [keyLt_iff] at *
  rcases hab with hab | ⟨hab, hab'⟩ <;> rcases hbc with hbc | ⟨hbc, hbc'⟩
  · exact .inl (Nat.lt_trans hab hbc)
  · exact .inl (hbc ▸ hab)
  · exact .inl (hab ▸ hbc)
  · exact .inr ⟨hab.trans hbc, List.lt_trans hab' hbc'⟩

lemma eventOrder_iff {a b : DomainEvent} : eventOrder a b ↔ a.createdAt < b.createdAt ∨ (a.createdAt = b.createdAt ∧ a.id ≤ b.id) := by
  rw [eventOrder, ← Bool.not_eq_true, keyLt_iff, not_or, not_and]
  constructor
  · rintro ⟨hlt, hle⟩
    rcases Nat.lt_or_eq_of_le (Nat.not_lt.mp hlt) with h | h
    · exact .inl h
    · exact .inr ⟨h, hle h.symm⟩
  · rintro (h | ⟨h, hle⟩)
    · exact ⟨Nat.not_lt.mpr (Nat.le_of_lt h), fun heq => absurd heq (Nat.ne_of_gt h)⟩
    · exact ⟨Nat.not_lt.mpr (Nat.le_of_eq h), fun _ => hle⟩

instance : IsTrans DomainEvent eventOrder where
  trans a b c hab hbc := by
    rw [eventOrder_iff] at *
    rcases hab with hab | ⟨hab, hab'⟩ <;> rcases hbc with hbc | ⟨hbc, hbc'⟩
    · exact .inl (Nat.lt_trans hab hbc)
    · exact .inl (hbc ▸ hab)
    · exact .inl (hab ▸ hbc)
    · exact .inr ⟨hab.trans hbc, List.le_trans hab' hbc'⟩

instance : Std.Total eventOrder where
  total a b := by
    rw [eventOrder_iff, eventOrder_iff]
    rcases Nat.lt_trichotomy a.createdAt b.createdAt with h | h | h
    · exact .inl (.inl h)
    · rcases List.le_total a.id b.id with hle | hle
      · exact .inl (.inr ⟨h, hle⟩)
      · exact .inr (.inr ⟨h.symm, hle⟩)
    · exact .inr (.inl h)

lemma keyLt_of_eventOrder {a b : DomainEvent} (h : eventOrder a b) (hne : a.id ≠ b.id) : keyLt (eventKey a) (eventKey b) = true := by
  rw [keyLt_iff]
  rcases eventOrder_iff.mp h with h | ⟨h, hle⟩
  · exact .inl h
  · refine .inr ⟨h, ?_⟩
    by_contra hlt
    exact hne (List.le_antisymm hle (List.not_lt.mp hlt))

end Order

section Query

variable {parse : Text → Option Json} {digest : DispatchRequest → Text} {clock : Text → Stamp} {backend : DispatchBackend}
variable {row : EventSubscriberCatalogRecord} {createdAfter : Stamp} {e : DomainEvent}

def missingEvents (row : EventSubscriberCatalogRecord) (createdAfter : Stamp) (t : OutboxTables) : List DomainEvent :=
  (t.events.rows.filter (isMissing row.pluginId (eventTypes row) createdAfter t)).insertionSort eventOrder

lemma mem_missingEvents :
    e ∈ missingEvents row createdAfter t ↔ e ∈ t.events.rows ∧ isMissing row.pluginId (eventTypes row) createdAfter t e = true := by
  rw [missingEvents, mem_insertionSort, mem_filter]

lemma hasDelivery_iff {t : DeliveryTable} {p : Text} : hasDelivery t id p = true ↔ HasRow id t p := by
  simp [hasDelivery, HasRow]

lemma isMissing_iff : isMissing row.pluginId (eventTypes row) createdAfter t e = true ↔
    e.dispatchState = .dispatched ∧ createdAfter < e.createdAt ∧ e.eventType ∈ eventTypes row ∧ ¬ HasRow e.id t.deliveries row.pluginId := by
  rw [← hasDelivery_iff]
  simp [isMissing, and_assoc]

lemma find_of_mem_missingEvents (he : e ∈ missingEvents row createdAfter t) :
    t.events.find e.id = some e ∧ e.dispatchState = .dispatched := by
  obtain ⟨hmem, hmissing⟩ := mem_missingEvents.mp he
  exact ⟨Table.find_eq_some.mpr ⟨hmem, rfl⟩, (isMissing_iff.mp hmissing).1⟩

lemma nodup_missingEvents (t : OutboxTables) : ((missingEvents row createdAfter t).map DomainEvent.id).Nodup := by
  have hperm : (missingEvents row createdAfter t).Perm (t.events.rows.filter (isMissing row.pluginId (eventTypes row) createdAfter t)) :=
    perm_insertionSort ..
  rw [(hperm.map _).nodup_iff]
  exact t.events.nodup.sublist (filter_sublist.map _)

lemma sorted_missingEvents (t : OutboxTables) :
    (missingEvents row createdAfter t).Pairwise fun a b => keyLt (eventKey a) (eventKey b) = true := by
  have hsorted : (missingEvents row createdAfter t).Pairwise eventOrder := pairwise_insertionSort ..
  have hne : (missingEvents row createdAfter t).Pairwise fun a b => a.id ≠ b.id := pairwise_map.mp (nodup_missingEvents t)
  exact (hsorted.and hne).imp fun ⟨hle, hne⟩ => keyLt_of_eventOrder hle hne

lemma filterMap_find (hl : ∀ x ∈ l, x ∈ t.events.rows) : (l.map DomainEvent.id).filterMap t.events.find = l := by
  rw [filterMap_map]
  refine Eq.trans (filterMap_congr fun x hx => ?_) filterMap_some
  exact Table.find_eq_some.mpr ⟨hl x hx, rfl⟩

lemma listMissing_eq (htypes : eventTypes row ≠ []) (hblank : trim row.pluginId ≠ []) (limit : Nat) (cursor : Option (Stamp × Text))
    (t : OutboxTables) : listMissingDispatchedEventsForPlugin row.pluginId (eventTypes row) createdAfter limit cursor t =
      ((missingEvents row createdAfter t).filter (afterCursor eventKey keyLt cursor)).take limit := by
  rw [listMissingDispatchedEventsForPlugin, if_neg (not_or.mpr ⟨htypes, hblank⟩), filterMap_find, missingEvents, filter_insertionSort,
    List.filter_filter]
  · simp only [Bool.and_comm]
  · intro x hx
    exact mem_of_mem_filter ((mem_insertionSort _).mp (mem_of_mem_take hx))

def wants (parse : Text → Option Json) (row : EventSubscriberCatalogRecord) (e : DomainEvent) : Bool :=
  row.enabled && row.subscriptions.any fun sub => subscriptionMatchesEvent parse sub e

lemma mem_eventTypes (h : wants parse row e = true) : e.eventType ∈ eventTypes row := by
  simp only [wants, Bool.and_eq_true, List.any_eq_true, subscriptionMatchesEvent, decide_eq_true_eq] at h
  obtain ⟨-, sub, hsub, ⟨⟨-, htype⟩, -⟩, -⟩ := h
  rw [eventTypes, mem_dedup]
  exact List.mem_map.mpr ⟨sub, hsub, htype⟩

variable {s s' : OutboxDb × Nat}

lemma reconcileEvent_cases (hinj : Function.Injective digest) (hs : Sound digest s.1) (he : s.1.tables.events.find e.id = some e)
    (hdone : e.dispatchState = .dispatched) (hblank : trim row.pluginId ≠ [])
    (h : reconcileEvent parse digest clock backend row s e = some s') :
    (wants parse row e = false ∧ s' = s) ∨ (wants parse row e = true ∧
      Joined digest e (joinedPlugins e row.pluginId backend) (joinedSnapshot e row.pluginId backend) s.1 s'.1) := by
  rw [reconcileEvent, catalogSubscribersForEvent] at h
  cases hwants : wants parse row e with
  | false =>
    rw [wants] at hwants
    simp only [filterMap_cons, hwants] at h
    cases h
    exact .inl ⟨rfl, rfl⟩
  | true =>
    rw [wants] at hwants
    simp only [filterMap_cons, hwants, if_true, List.find?_cons] at h
    obtain ⟨⟨db, n⟩, hcall, heq⟩ := map_eq_some_iff.mp h
    cases heq
    refine .inr ⟨rfl, ?_⟩
    cases backend with
    | localPath => exact hs.dispatch_local he hdone hblank hcall
    | atomic chunk => exact hs.dispatch_atomic hinj he hdone hcall

structure Elsewhere (id : Text) (db db' : OutboxDb) : Prop where
  find : db'.tables.events.find id = db.tables.events.find id
  rows : ∀ d : Delivery, d.eventId = id → (d ∈ db'.tables.deliveries.rows ↔ d ∈ db.tables.deliveries.rows)

lemma Elsewhere.refl (id : Text) (db : OutboxDb) : Elsewhere id db db :=
  ⟨rfl, fun _ _ => Iff.rfl⟩

lemma Elsewhere.trans {db'' : OutboxDb} (h : Elsewhere id db db') (h' : Elsewhere id db' db'') : Elsewhere id db db'' :=
  ⟨h'.find.trans h.find, fun d hd => (h'.rows d hd).trans (h.rows d hd)⟩

lemma Elsewhere.hasRow (h : Elsewhere id db db') (p : Text) : HasRow id db'.tables.deliveries p ↔ HasRow id db.tables.deliveries p := by
  constructor
  · rintro ⟨d, hd, heq, hp⟩
    exact ⟨d, (h.rows d heq).mp hd, heq, hp⟩
  · rintro ⟨d, hd, heq, hp⟩
    exact ⟨d, (h.rows d heq).mpr hd, heq, hp⟩

variable {snapshot : Option (List Text)}

lemma Joined.elsewhere (h : Joined digest e plugins snapshot db db') (hid : id ≠ e.id) : Elsewhere id db db' := by
  refine ⟨?_, fun d hd => ⟨fun hmem => ?_, h.created.kept d⟩⟩
  · rw [h.events, Table.find_modify]
    cases hx : db.tables.events.find id with
    | none => rfl
    | some x =>
      rw [map_some, withSnapshot_eq_self]
      exact fun heq => absurd ((Table.find_eq_some.mp hx).2.symm.trans heq) hid
  · rcases h.created.only d hmem with hold | ⟨heq, -⟩
    · exact hold
    · exact absurd (hd.symm.trans heq) hid

lemma Joined.ahead (h : Joined digest e plugins snapshot db db')
    (he : db.tables.events.find e.id = some e) :
    (missingEvents row createdAfter db'.tables).filter (afterCursor eventKey keyLt (some (eventKey e))) =
      (missingEvents row createdAfter db.tables).filter (afterCursor eventKey keyLt (some (eventKey e))) := by
  have hother : ∀ x ∈ db.tables.events.rows, x.id ≠ e.id →
      isMissing row.pluginId (eventTypes row) createdAfter db'.tables x = isMissing row.pluginId (eventTypes row) createdAfter db.tables x := by
    intro x _ hne
    have hsame := (h.elsewhere hne).hasRow row.pluginId
    rw [Bool.eq_iff_iff, isMissing_iff, isMissing_iff, hsame]
  have hself : ∀ x ∈ db.tables.events.rows, x.id = e.id →
      afterCursor eventKey keyLt (some (eventKey e)) (withSnapshot e.id snapshot x) = false ∧
        afterCursor eventKey keyLt (some (eventKey e)) x = false := by
    intro x hx hid
    obtain rfl := db.tables.events.eq_of_key hx (Table.find_eq_some.mp he).1 hid
    have hkey : eventKey (withSnapshot x.id snapshot x) = eventKey x := by
      rw [withSnapshot, if_pos rfl]
      rfl
    simp [afterCursor, hkey, keyLt_irrefl]
  rw [missingEvents, missingEvents, filter_insertionSort, filter_insertionSort, h.events, Table.modify, List.filter_filter, List.filter_filter,
    List.filter_map]
  congr 1
  rw [map_congr_left, List.map_id]
  · refine filter_congr fun x hx => ?_
    by_cases hid : x.id = e.id
    · simp [hself x hx hid]
    · rw [Function.comp_apply, withSnapshot, if_neg hid, hother x hx hid]
  · intro x hx
    obtain ⟨hx, hafter⟩ := mem_filter.mp hx
    refine withSnapshot_eq_self fun hid => ?_
    rw [Function.comp_apply, (hself x hx hid).1] at hafter
    exact absurd hafter (by simp)

variable (parse clock backend createdAfter) in
lemma pageable (hinj : Function.Injective digest) (hblank : trim row.pluginId ≠ []) :
    Pageable eventKey keyLt (fun s : OutboxDb × Nat => missingEvents row createdAfter s.1.tables)
      (reconcileEvent parse digest clock backend row) fun s => Sound digest s.1 where
  sorted s _ := sorted_missingEvents s.1.tables
  keeps s s' e hs he h := by
    obtain ⟨hfind, hdone⟩ := find_of_mem_missingEvents he
    rcases reconcileEvent_cases hinj hs hfind hdone hblank h with ⟨-, rfl⟩ | ⟨-, hjoined⟩
    · exact hs
    · exact hjoined.sound
  ahead s s' e hs he h := by
    obtain ⟨hfind, hdone⟩ := find_of_mem_missingEvents he
    rcases reconcileEvent_cases hinj hs hfind hdone hblank h with ⟨-, rfl⟩ | ⟨-, hjoined⟩
    · rfl
    · exact hjoined.ahead hfind

theorem reconcileRow_eq (hinj : Function.Injective digest) (hs : Sound digest s.1) (hblank : trim row.pluginId ≠ []) (henabled : row.enabled = true)
    (htypes : eventTypes row ≠ []) : reconcileRow parse digest clock backend createdAfter s row =
      (missingEvents row createdAfter s.1.tables).foldlM (reconcileEvent parse digest clock backend row) s := by
  have hall : (missingEvents row createdAfter s.1.tables).filter (afterCursor eventKey keyLt none) = missingEvents row createdAfter s.1.tables :=
    filter_eq_self.mpr fun _ _ => rfl
  have hrounds : ((missingEvents row createdAfter s.1.tables).filter (afterCursor eventKey keyLt none)).length <
      s.1.tables.events.rows.length + 1 := by
    rw [hall, missingEvents, length_insertionSort]
    exact Nat.lt_succ_of_le (length_filter_le ..)
  have hloop := (pageable parse clock backend createdAfter hinj hblank).keysetLoop_eq keyLt_irrefl keyLt_trans (by decide : 0 < reconcilePage)
    (fun cursor s => listMissing_eq htypes hblank reconcilePage cursor s.1.tables) hs hrounds
  rw [reconcileRow, if_neg (by simp [henabled]), if_neg htypes, hloop, hall]

end Query

variable {parse : Text → Option Json} {digest : DispatchRequest → Text} {clock : Text → Stamp} {backend : DispatchBackend}
variable {row : EventSubscriberCatalogRecord} {createdAfter : Stamp} {e : DomainEvent} {s s' : OutboxDb × Nat}

lemma foldlM_reconcileEvent (hinj : Function.Injective digest) (hblank : trim row.pluginId ≠ []) (hs : Sound digest s.1)
    (hl : ∀ e ∈ l, s.1.tables.events.find e.id = some e ∧ e.dispatchState = .dispatched) (hnodup : (l.map DomainEvent.id).Nodup)
    (h : l.foldlM (reconcileEvent parse digest clock backend row) s = some s') (id : Text) :
    Sound digest s'.1 ∧ (id ∉ l.map DomainEvent.id → Elsewhere id s.1 s'.1) ∧
      ∀ e ∈ l, e.id = id → ∃ s₁ s₂, Elsewhere id s.1 s₁.1 ∧ Sound digest s₁.1 ∧
        reconcileEvent parse digest clock backend row s₁ e = some s₂ ∧ Elsewhere id s₂.1 s'.1 := by
  induction l generalizing s with
  | nil =>
    cases h
    exact ⟨hs, fun _ => .refl id _, fun e he => absurd he not_mem_nil⟩
  | cons x l ih =>
    obtain ⟨t, hfirst, hrest⟩ := bind_eq_some_iff.mp h
    obtain ⟨hx, hnodup⟩ := nodup_cons.mp (map_cons ▸ hnodup)
    obtain ⟨hfind, hdone⟩ := hl x mem_cons_self
    obtain ⟨ht, helse⟩ : Sound digest t.1 ∧ ∀ id, id ≠ x.id → Elsewhere id s.1 t.1 := by
      rcases reconcileEvent_cases hinj hs hfind hdone hblank hfirst with ⟨-, rfl⟩ | ⟨-, hjoined⟩
      · exact ⟨hs, fun id _ => .refl id t.1⟩
      · exact ⟨hjoined.sound, fun id hid => hjoined.elsewhere hid⟩
    have hl' : ∀ e ∈ l, t.1.tables.events.find e.id = some e ∧ e.dispatchState = .dispatched := by
      intro e he
      have hne : e.id ≠ x.id := fun heq => hx (heq ▸ List.mem_map_of_mem he)
      rw [(helse e.id hne).find]
      exact hl e (mem_cons_of_mem x he)
    obtain ⟨hs', hnone, hsome⟩ := ih ht hl' hnodup hrest
    refine ⟨hs', fun hid => ?_, fun e he hid => ?_⟩
    · rw [map_cons, mem_cons, not_or] at hid
      exact (helse id hid.1).trans (hnone hid.2)
    · rcases mem_cons.mp he with rfl | he
      · exact ⟨s, t, .refl id s.1, hs, hfirst, hnone (hid ▸ hx)⟩
      · have hne : id ≠ x.id := fun heq => hx (heq ▸ hid ▸ List.mem_map_of_mem he)
        obtain ⟨s₁, s₂, hbefore, hs₁, hcall, hafter⟩ := hsome e he hid
        exact ⟨s₁, s₂, (helse id hne).trans hbefore, hs₁, hcall, hafter⟩

structure Lacking (parse : Text → Option Json) (createdAfter : Stamp) (t : OutboxTables) (row : EventSubscriberCatalogRecord)
    (e : DomainEvent) : Prop where
  wanted : wants parse row e = true
  dispatched : e.dispatchState = .dispatched
  recent : createdAfter < e.createdAt
  missing : ¬ HasRow e.id t.deliveries row.pluginId

structure JoinedAt (id : Text) (plugins : List Text) (snapshot : Option (List Text)) (db db' : OutboxDb) : Prop where
  find : db'.tables.events.find id = (db.tables.events.find id).map fun e => { e with dispatchSnapshot := snapshot }
  rows : ∀ p, HasRow id db'.tables.deliveries p ↔ HasRow id db.tables.deliveries p ∨ p ∈ plugins

lemma Joined.joinedAt {snapshot : Option (List Text)} {db₁ db₂ : OutboxDb} (hbefore : Elsewhere e.id db db₁)
    (h : Joined digest e plugins snapshot db₁ db₂) (hafter : Elsewhere e.id db₂ db') : JoinedAt e.id plugins snapshot db db' := by
  refine ⟨?_, fun p => ?_⟩
  · rw [hafter.find, h.events, Table.find_modify, hbefore.find]
    cases hx : db.tables.events.find e.id with
    | none => rfl
    | some x => rw [map_some, map_some, withSnapshot, if_pos (Table.find_eq_some.mp hx).2]
  · rw [hafter.hasRow, ← hbefore.hasRow]
    constructor
    · rintro ⟨d, hd, heq, rfl⟩
      rcases h.created.only d hd with hold | ⟨-, hp⟩
      · exact .inl ⟨d, hold, heq, rfl⟩
      · exact .inr hp
    · rintro (⟨d, hd, heq, rfl⟩ | hp)
      · exact ⟨d, h.created.kept d hd, heq, rfl⟩
      · exact h.created.created p hp

lemma keysetLoop_blank (hblank : trim row.pluginId = []) (rounds : Nat) :
    keysetLoop (fun after s => listMissingDispatchedEventsForPlugin row.pluginId (eventTypes row) createdAfter reconcilePage after s.1.tables)
      eventKey (reconcileEvent parse digest clock backend row) reconcilePage (rounds + 1) none s = some s := by
  rw [keysetLoop, listMissingDispatchedEventsForPlugin, if_pos (.inr hblank)]
  rfl

lemma reconcileRow_at (hinj : Function.Injective digest) (hs : Sound digest s.1)
    (h : reconcileRow parse digest clock backend createdAfter s row = some s') (id : Text) :
    Sound digest s'.1 ∧
      ((∃ e, s.1.tables.events.find id = some e ∧ Lacking parse createdAfter s.1.tables row e ∧ trim row.pluginId ≠ [] ∧
          JoinedAt id (joinedPlugins e row.pluginId backend) (joinedSnapshot e row.pluginId backend) s.1 s'.1) ∨
        (Elsewhere id s.1 s'.1 ∧ ∀ e, s.1.tables.events.find id = some e → Lacking parse createdAfter s.1.tables row e → trim row.pluginId = [])) := by
  by_cases hblank : trim row.pluginId = []
  · obtain rfl : s = s' := by
      rw [reconcileRow, keysetLoop_blank hblank, ite_self, ite_self] at h
      exact some.inj h
    exact ⟨hs, .inr ⟨.refl id s.1, fun _ _ _ => hblank⟩⟩
  by_cases hidle : row.enabled = false ∨ eventTypes row = []
  · obtain rfl : s = s' := by
      rw [reconcileRow] at h
      rcases hidle with hidle | hidle
      · rw [hidle] at h
        exact some.inj h
      · rw [if_pos hidle, ite_self] at h
        exact some.inj h
    refine ⟨hs, .inr ⟨.refl id s.1, fun e _ hlacking => absurd hlacking.wanted ?_⟩⟩
    rcases hidle with hidle | hidle
    · simp [wants, hidle]
    · intro hwants
      exact absurd (mem_eventTypes hwants) (by simp [hidle])
  rw [not_or, Bool.not_eq_false] at hidle
  rw [reconcileRow_eq hinj hs hblank hidle.1 hidle.2] at h
  obtain ⟨hs', hnone, hsome⟩ := foldlM_reconcileEvent hinj hblank hs (fun e he => find_of_mem_missingEvents he) (nodup_missingEvents _) h id
  refine ⟨hs', ?_⟩
  by_cases hmem : id ∈ (missingEvents row createdAfter s.1.tables).map DomainEvent.id
  · obtain ⟨e, he, rfl⟩ := List.mem_map.mp hmem
    obtain ⟨hfind, hdone⟩ := find_of_mem_missingEvents he
    obtain ⟨-, hafter, -, hmissing⟩ := isMissing_iff.mp (mem_missingEvents.mp he).2
    obtain ⟨s₁, s₂, hbefore, hs₁, hcall, hlater⟩ := hsome e he rfl
    rcases reconcileEvent_cases hinj hs₁ (hbefore.find.trans hfind) hdone hblank hcall with ⟨hwants, rfl⟩ | ⟨hwants, hjoined⟩
    · refine .inr ⟨hbefore.trans hlater, fun e' he' hlacking => ?_⟩
      obtain rfl := mem_unique hfind he'
      exact absurd hlacking.wanted (by simp [hwants])
    · exact .inl ⟨e, hfind, ⟨hwants, hdone, hafter, hmissing⟩, hblank, hjoined.joinedAt hbefore hlater⟩
  · refine .inr ⟨hnone hmem, fun e he hlacking => absurd ?_ hmem⟩
    obtain ⟨hrow, rfl⟩ := Table.find_eq_some.mp he
    refine List.mem_map_of_mem (mem_missingEvents.mpr ⟨hrow, isMissing_iff.mpr ?_⟩)
    exact ⟨hlacking.dispatched, hlacking.recent, mem_eventTypes hlacking.wanted, hlacking.missing⟩

end Bookclerk.Events
