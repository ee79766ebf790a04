import Bookclerk.Events.DispatchComplete
import Bookclerk.Events.ReconcileRun

namespace Bookclerk.Events

open Lexical Db Jobs Named List Option

variable {parse : Text → Option Json} {digest : DispatchRequest → Text} {clock : Text → Stamp} {backend : DispatchBackend}
variable {catalog : List EventSubscriberCatalogRecord} {row : EventSubscriberCatalogRecord} {createdAfter : Stamp} {e : DomainEvent}
variable {db : OutboxDb} {s s' : OutboxDb × Nat}

def LateJoined (parse : Text → Option Json) (catalog : List EventSubscriberCatalogRecord) (createdAfter : Stamp) (t : OutboxTables) : Prop :=
  ∀ e ∈ t.events.rows, e.dispatchState = .dispatched → createdAfter < e.createdAt → ∀ row ∈ catalog, row.enabled = true →
    (∃ sub ∈ row.subscriptions, subscriptionMatchesEvent parse sub e = true) → HasRow e.id t.deliveries row.pluginId

/-- On the atomic backend the stored snapshot of the event decides, and it is written for the first
plugin that is late if there is none. -/
def CanJoin (parse : Text → Option Json) (catalog : List EventSubscriberCatalogRecord) (createdAfter : Stamp) (t : OutboxTables)
    (row : EventSubscriberCatalogRecord) (e : DomainEvent) : DispatchBackend → Prop
  | .localPath => trim row.pluginId ≠ []
  | .atomic _ => row.pluginId ≠ [] ∧ trim row.pluginId = row.pluginId ∧
    match e.dispatchSnapshot with
    | some ids => ∃ id ∈ ids, trim id = row.pluginId
    | none => ∀ row' ∈ catalog, Lacking parse createdAfter t row' e → row'.pluginId = row.pluginId

lemma wants_iff : wants parse row e = true ↔ row.enabled = true ∧ ∃ sub ∈ row.subscriptions, subscriptionMatchesEvent parse sub e = true := by
  rw [wants, Bool.and_eq_true, List.any_eq_true]

section Progress

def SnapshotFrom (late : Text → Prop) (snapshot snapshot' : Option (List Text)) : Prop :=
  snapshot' = snapshot ∨ (snapshot = none ∧ ∃ q, late q ∧ snapshot' = some [q])

def Source (snapshot : Option (List Text)) (p : Text) : DispatchBackend → Prop
  | .localPath => trim p ≠ []
  | .atomic _ => ∃ q ∈ snapshot.getD [], trim q = p ∧ p ≠ []

structure Progress (digest : DispatchRequest → Text) (backend : DispatchBackend) (late : Text → Prop) (t : OutboxTables) (e : DomainEvent)
    (s : OutboxDb × Nat) : Prop where
  sound : Sound digest s.1
  kept : ∀ p, HasRow e.id t.deliveries p → HasRow e.id s.1.tables.deliveries p
  event : ∃ snapshot, s.1.tables.events.find e.id = some { e with dispatchSnapshot := snapshot } ∧
    SnapshotFrom late e.dispatchSnapshot snapshot ∧
    ∀ p, HasRow e.id s.1.tables.deliveries p → HasRow e.id t.deliveries p ∨ Source snapshot p backend

lemma mem_joinedPlugins {p q : Text} {chunk : Nat} :
    p ∈ joinedPlugins e q (.atomic chunk) ↔ ∃ id ∈ e.dispatchSnapshot.getD [q], trim id = p ∧ p ≠ [] := by
  simp only [joinedPlugins, mem_filterMap, List.mem_map, deliverable_eq_some]
  constructor
  · rintro ⟨-, ⟨id, hid, rfl⟩, hblank, -, rfl⟩
    exact ⟨id, hid, rfl, hblank⟩
  · rintro ⟨id, hid, rfl, hblank⟩
    exact ⟨_, ⟨id, hid, rfl⟩, hblank, rfl, rfl⟩

lemma Source.of_joinedPlugins {p q : Text} (hq : trim q ≠ []) (h : p ∈ joinedPlugins e q backend) :
    Source (joinedSnapshot e q backend) p backend := by
  cases backend with
  | localPath =>
    obtain rfl := mem_singleton.mp h
    exact hq
  | atomic chunk => exact mem_joinedPlugins.mp h

lemma Source.joinedSnapshot {p : Text} (q : Text) (h : Source e.dispatchSnapshot p backend) :
    Source (Events.joinedSnapshot e q backend) p backend := by
  cases backend with
  | localPath => exact h
  | atomic chunk =>
    cases hids : e.dispatchSnapshot with
    | none =>
      rw [hids] at h
      obtain ⟨q', hq', -⟩ := h
      exact absurd hq' not_mem_nil
    | some ids =>
      simpa [Events.joinedSnapshot, hids] using h

variable {snapshot : Option (List Text)}

lemma SnapshotFrom.joinedSnapshot {late : Text → Prop} {q : Text} (hq : late q)
    (h : SnapshotFrom late snapshot e.dispatchSnapshot) : SnapshotFrom late snapshot (Events.joinedSnapshot e q backend) := by
  cases backend with
  | localPath => exact h
  | atomic chunk =>
    cases hids : e.dispatchSnapshot with
    | none =>
      rw [hids] at h
      refine .inr ⟨?_, q, hq, by rw [Events.joinedSnapshot, hids, getD_none]⟩
      rcases h with h | ⟨h, -⟩
      · exact h.symm
      · exact h
    | some ids =>
      simpa [Events.joinedSnapshot, hids] using h

variable {late : Text → Prop} {t : OutboxTables}

lemma Progress.lacking (h : Progress digest backend late t e s) {e' : DomainEvent} (he' : s.1.tables.events.find e.id = some e')
    (hlacking : Lacking parse createdAfter s.1.tables row e') : Lacking parse createdAfter t row e := by
  obtain ⟨snapshot, hfind, -⟩ := h.event
  obtain rfl := mem_unique hfind he'
  exact ⟨hlacking.wanted, hlacking.dispatched, hlacking.recent, fun hrow => hlacking.missing (h.kept _ hrow)⟩

lemma Progress.next (hinj : Function.Injective digest) (hlate : ∀ row ∈ catalog, Lacking parse createdAfter t row e → late row.pluginId)
    (hrow : row ∈ catalog) (h : Progress digest backend late t e s)
    (hstep : reconcileRow parse digest clock backend createdAfter s row = some s') :
    Progress digest backend late t e s' ∧ ∀ p, HasRow e.id s.1.tables.deliveries p → HasRow e.id s'.1.tables.deliveries p := by
  obtain ⟨hs', ⟨e', he', hlacking, hblank, hjoined⟩ | ⟨helse, -⟩⟩ := reconcileRow_at hinj h.sound hstep e.id
  · have hkept : ∀ p, HasRow e.id s.1.tables.deliveries p → HasRow e.id s'.1.tables.deliveries p := fun p hp => (hjoined.rows p).mpr (.inl hp)
    have hq := hlate row hrow (h.lacking he' hlacking)
    obtain ⟨snapshot, hfind, hfrom, honly⟩ := h.event
    obtain rfl := mem_unique hfind he'
    refine ⟨⟨hs', fun p hp => hkept p (h.kept p hp), _, by rw [hjoined.find, hfind]; rfl, SnapshotFrom.joinedSnapshot hq hfrom, fun p hp => ?_⟩, hkept⟩
    rcases (hjoined.rows p).mp hp with hold | hnew
    · exact (honly p hold).imp_right fun hsource => Source.joinedSnapshot row.pluginId hsource
    · exact .inr (Source.of_joinedPlugins hblank hnew)
  · refine ⟨⟨hs', fun p hp => (helse.hasRow p).mpr (h.kept p hp), ?_⟩, fun p hp => (helse.hasRow p).mpr hp⟩
    obtain ⟨snapshot, hfind, hfrom, honly⟩ := h.event
    exact ⟨snapshot, helse.find.trans hfind, hfrom, fun p hp => honly p ((helse.hasRow p).mp hp)⟩

lemma CanJoin.mem_joinedPlugins (h : CanJoin parse catalog createdAfter t row e backend)
    (hfrom : SnapshotFrom (fun q => ∃ row ∈ catalog, row.pluginId = q ∧ Lacking parse createdAfter t row e) e.dispatchSnapshot snapshot) :
    row.pluginId ∈ joinedPlugins { e with dispatchSnapshot := snapshot } row.pluginId backend := by
  cases backend with
  | localPath => exact mem_singleton_self _
  | atomic chunk =>
    obtain ⟨hne, htrim, hsnapshot⟩ := h
    refine Events.mem_joinedPlugins.mpr ?_
    rcases hfrom with rfl | ⟨hnone, q, ⟨row', hrow', rfl, hlacking⟩, rfl⟩
    · cases hids : e.dispatchSnapshot with
      | none => exact ⟨row.pluginId, mem_singleton_self _, htrim, hne⟩
      | some ids =>
        rw [hids] at hsnapshot
        obtain ⟨id, hid, hp⟩ := hsnapshot
        exact ⟨id, hid, hp, hne⟩
    · rw [hnone] at hsnapshot
      obtain hsame := hsnapshot row' hrow' hlacking
      exact ⟨row'.pluginId, mem_singleton_self _, by rw [hsame, htrim], hne⟩

lemma CanJoin.not_blank (h : CanJoin parse catalog createdAfter t row e backend) : trim row.pluginId ≠ [] := by
  cases backend with
  | localPath => exact h
  | atomic chunk => exact h.2.1.symm ▸ h.1

end Progress

section Run

variable {db' : OutboxDb} {n : Nat}

lemma find_none_of_reconcile (hinj : Function.Injective digest) (hs : Sound digest db)
    (hok : reconcileCatalogDeliveries parse digest clock backend catalog createdAfter db = some (db', n)) {id : Text}
    (hnone : db.tables.events.find id = none) : db'.tables.events.find id = none := by
  have hrun := foldlM_each (I := fun s => Sound digest s.1 ∧ s.1.tables.events.find id = none) (D := fun _ _ => True)
    (fun row _ s s' hI hstep => ?_) ⟨hs, hnone⟩ hok
  · exact hrun.1.2
  · obtain ⟨hs', ⟨e, he, -⟩ | ⟨helse, -⟩⟩ := reconcileRow_at hinj hI.1 hstep id
    · exact absurd (hI.2.symm.trans he) (by simp)
    · exact ⟨⟨hs', helse.find.trans hI.2⟩, trivial, fun _ h => h⟩

def late (parse : Text → Option Json) (catalog : List EventSubscriberCatalogRecord) (createdAfter : Stamp) (t : OutboxTables) (e : DomainEvent)
    (pluginId : Text) : Prop :=
  ∃ row ∈ catalog, row.pluginId = pluginId ∧ Lacking parse createdAfter t row e

lemma progress_of_reconcile (hinj : Function.Injective digest) (hs : Sound digest db) (he : e ∈ db.tables.events.rows)
    (hok : reconcileCatalogDeliveries parse digest clock backend catalog createdAfter db = some (db', n)) :
    Progress digest backend (late parse catalog createdAfter db.tables e) db.tables e (db', n) ∧
      ∀ row ∈ catalog, Lacking parse createdAfter db.tables row e → CanJoin parse catalog createdAfter db.tables row e backend →
        HasRow e.id db'.tables.deliveries row.pluginId := by
  have hstart : Progress digest backend (late parse catalog createdAfter db.tables e) db.tables e (db, 0) :=
    ⟨hs, fun _ h => h, e.dispatchSnapshot, Table.find_eq_some.mpr ⟨he, rfl⟩, .inl rfl, fun _ h => .inl h⟩
  have hrun := foldlM_each (D := fun row s => Lacking parse createdAfter db.tables row e →
      CanJoin parse catalog createdAfter db.tables row e backend → HasRow e.id s.1.tables.deliveries row.pluginId)
    (fun row hrow s s' hI hstep => ?_) hstart hok
  · exact ⟨hrun.1, hrun.2.1⟩
  · obtain ⟨hI', hkept⟩ := hI.next hinj (fun row hrow hlacking => ⟨row, hrow, rfl, hlacking⟩) hrow hstep
    refine ⟨hI', fun hlacking hcan => ?_, fun x hx hlacking hcan => hkept _ (hx hlacking hcan)⟩
    obtain ⟨snapshot, hfind, hfrom, -⟩ := hI.event
    obtain ⟨-, ⟨e', he', -, -, hjoined⟩ | ⟨helse, hidle⟩⟩ := reconcileRow_at hinj hI.sound hstep e.id
    · obtain rfl := mem_unique hfind he'
      exact (hjoined.rows _).mpr (.inr (hcan.mem_joinedPlugins hfrom))
    · by_contra hmissing
      refine hcan.not_blank (hidle _ hfind ⟨hlacking.wanted, hlacking.dispatched, hlacking.recent, fun hnow => hmissing ?_⟩)
      exact (helse.hasRow _).mpr hnow

lemma canJoin_of_source {t : OutboxTables} {snapshot : Option (List Text)}
    (hfrom : SnapshotFrom (late parse catalog createdAfter t e) e.dispatchSnapshot snapshot)
    (hsource : ∀ row ∈ catalog, Lacking parse createdAfter t row e → Source snapshot row.pluginId backend) (hrow : row ∈ catalog)
    (hlacking : Lacking parse createdAfter t row e) : CanJoin parse catalog createdAfter t row e backend := by
  cases backend with
  | localPath => exact hsource row hrow hlacking
  | atomic chunk =>
    obtain ⟨q, hq, htrim, hne⟩ := hsource row hrow hlacking
    refine ⟨hne, by rw [← htrim, trim_trim], ?_⟩
    rcases hfrom with rfl | ⟨hnone, q₀, -, rfl⟩
    · cases hids : e.dispatchSnapshot with
      | none =>
        rw [hids] at hq
        exact absurd hq not_mem_nil
      | some ids =>
        rw [hids] at hq
        exact ⟨q, hq, htrim⟩
    · -- the snapshot has been frozen with one plugin, so whoever has a row is that one
      rw [hnone]
      intro row' hrow' hlacking'
      obtain ⟨q', hq', htrim', -⟩ := hsource row' hrow' hlacking'
      rw [← htrim, ← htrim', mem_singleton.mp hq, mem_singleton.mp hq']

theorem late_join_iff (now : Stamp) (nodes : List EventSubscriberNode) (hinj : Function.Injective digest) (hs : Sound digest db)
    (hok : reconcileCatalogDeliveries parse digest clock backend (listLiveEventSubscribers now nodes) createdAfter db = some (db', n)) :
    LateJoined parse (listLiveEventSubscribers now nodes) createdAfter db'.tables ↔
      ∀ e ∈ db.tables.events.rows, ∀ row ∈ listLiveEventSubscribers now nodes, Lacking parse createdAfter db.tables row e →
        CanJoin parse (listLiveEventSubscribers now nodes) createdAfter db.tables row e backend := by
  constructor
  · intro hjoined e he row hrow hlacking
    obtain ⟨⟨-, -, snapshot, hfind, hfrom, honly⟩, -⟩ := progress_of_reconcile hinj hs he hok
    refine canJoin_of_source hfrom (fun row hrow hlacking => ?_) hrow hlacking
    obtain ⟨henabled, hmatch⟩ := wants_iff.mp hlacking.wanted
    have hnow := hjoined _ (Table.find_eq_some.mp hfind).1 hlacking.dispatched hlacking.recent row hrow henabled hmatch
    exact (honly row.pluginId hnow).resolve_left hlacking.missing
  · intro hcan e' he' hdone hrecent row hrow henabled hmatch
    have hfind' := Table.find_eq_some.mpr ⟨he', rfl⟩
    cases hfind : db.tables.events.find e'.id with
    | none => exact absurd (hfind'.symm.trans (find_none_of_reconcile hinj hs hok hfind)) (by simp)
    | some e =>
      obtain ⟨he, hid⟩ := Table.find_eq_some.mp hfind
      obtain ⟨⟨-, hkept, snapshot, hlast, -⟩, hgiven⟩ := progress_of_reconcile hinj hs he hok
      obtain rfl : { e with dispatchSnapshot := snapshot } = e' := some.inj (hlast.symm.trans (hid ▸ hfind'))
      by_cases hhad : HasRow e.id db.tables.deliveries row.pluginId
      · exact hkept _ hhad
      · have hlacking : Lacking parse createdAfter db.tables row e := ⟨wants_iff.mpr ⟨henabled, hmatch⟩, hdone, hrecent, hhad⟩
        exact hgiven row hrow hlacking (hcan e he row hrow hlacking)

lemma exists_reconcileEvent (row : EventSubscriberCatalogRecord) (s : OutboxDb × Nat) (e : DomainEvent) :
    ∃ s', reconcileEvent parse digest clock .localPath row s e = some s' := by
  rw [reconcileEvent]
  cases (catalogSubscribersForEvent parse [row] e).find? fun sub => sub.pluginId = row.pluginId with
  | none => exact ⟨s, rfl⟩
  | some sub => exact ⟨_, rfl⟩

theorem exists_reconcile_localPath (parse : Text → Option Json) (clock : Text → Stamp) (catalog : List EventSubscriberCatalogRecord)
    (createdAfter : Stamp) (hinj : Function.Injective digest) (hs : Sound digest db) :
    ∃ r, reconcileCatalogDeliveries parse digest clock .localPath catalog createdAfter db = some r := by
  have hrow (row : EventSubscriberCatalogRecord) (s : OutboxDb × Nat) (hs : Sound digest s.1) :
      ∃ s', reconcileRow parse digest clock .localPath createdAfter s row = some s' := by
    by_cases hidle : trim row.pluginId = [] ∨ row.enabled = false ∨ eventTypes row = []
    · refine ⟨s, ?_⟩
      rw [reconcileRow]
      rcases hidle with hblank | henabled | htypes
      · rw [keysetLoop_blank hblank, ite_self, ite_self]
      · rw [henabled]
        rfl
      · rw [if_pos htypes, ite_self]
    · rw [not_or, not_or, Bool.not_eq_false] at hidle
      rw [reconcileRow_eq hinj hs hidle.1 hidle.2.1 hidle.2.2]
      obtain ⟨s', hpass, -⟩ := exists_foldlM (fun e _ s _ => (exists_reconcileEvent row s e).imp fun _ h => ⟨h, trivial⟩)
        (trivial : (fun _ => True) s)
      exact ⟨s', hpass⟩
  have hround : ∀ row ∈ catalog, ∀ s : OutboxDb × Nat, Sound digest s.1 →
      ∃ s', reconcileRow parse digest clock .localPath createdAfter s row = some s' ∧ Sound digest s'.1 := by
    intro row _ s hs
    obtain ⟨s', hstep⟩ := hrow row s hs
    exact ⟨s', hstep, (reconcileRow_at hinj hs hstep []).1⟩
  obtain ⟨r, hpass, -⟩ := exists_foldlM hround (s := (db, 0)) hs
  exact ⟨r, hpass⟩

end Run

section LatePlugin

def lateEvent : DomainEvent :=
  ⟨utf8 "e", utf8 "book_acquired", 1, utf8 "\x7b\x7d", [], 5, .dispatched, some []⟩

def lateDb : OutboxDb :=
  ⟨[], ⟨⟨[lateEvent], by decide⟩, ⟨[], List.nodup_nil⟩⟩⟩

def lateNode : EventSubscriberNode :=
  ⟨utf8 "n", utf8 "p", [{ eventType := utf8 "book_acquired" }], true, 0⟩

lemma sound_lateDb (digest : DispatchRequest → Text) : Sound digest lateDb :=
  ⟨by decide +kernel, fun d hd => absurd hd not_mem_nil, fun r hr => absurd hr not_mem_nil⟩

theorem late_join_iff_localPath : ∃ (digest : DispatchRequest → Text) (db' : OutboxDb) (n : Nat), Function.Injective digest ∧
    reconcileCatalogDeliveries (fun _ => none) digest (fun _ => 7) .localPath (listLiveEventSubscribers 0 [lateNode]) 0 lateDb = some (db', n) ∧
      LateJoined (fun _ => none) (listLiveEventSubscribers 0 [lateNode]) 0 db'.tables := by
  obtain ⟨digest, hinj⟩ := exists_injective_digest
  obtain ⟨⟨db', n⟩, hok⟩ := exists_reconcile_localPath (fun _ => none) (fun _ => 7) (listLiveEventSubscribers 0 [lateNode]) 0 hinj (sound_lateDb digest)
  refine ⟨digest, db', n, hinj, hok, (late_join_iff 0 [lateNode] hinj (sound_lateDb digest) hok).mpr fun e he row hrow _ => ?_⟩
  obtain rfl := mem_singleton.mp hrow
  show trim (utf8 "p") ≠ []
  decide +kernel

theorem late_plugin_gets_no_row : ∃ db' n,
    reconcileCatalogDeliveries (fun _ => none) DispatchRequest.eventId (fun _ => 7) (.atomic 10) (listLiveEventSubscribers 0 [lateNode]) 0 lateDb =
      some (db', n) ∧ ¬ LateJoined (fun _ => none) (listLiveEventSubscribers 0 [lateNode]) 0 db'.tables := by
  have hrun : (reconcileCatalogDeliveries (fun _ => none) DispatchRequest.eventId (fun _ => 7) (.atomic 10) (listLiveEventSubscribers 0 [lateNode]) 0
      lateDb).map (fun r => (r.1.tables.events.rows, r.1.tables.deliveries.rows)) = some ([lateEvent], []) := by
    decide +kernel
  obtain ⟨⟨db', n⟩, hok, hrows⟩ := map_eq_some_iff.mp hrun
  obtain ⟨hevents, hdeliveries⟩ := Prod.mk.inj hrows
  refine ⟨db', n, hok, fun hjoined => ?_⟩
  have hevent : lateEvent ∈ db'.tables.events.rows := by
    rw [hevents]
    exact mem_singleton_self _
  obtain ⟨d, hd, -⟩ := hjoined lateEvent hevent rfl (by decide) _ (mem_singleton_self _) rfl ⟨_, mem_singleton_self _, by decide +kernel⟩
  rw [hdeliveries] at hd
  exact absurd hd not_mem_nil

end LatePlugin

end Bookclerk.Events
