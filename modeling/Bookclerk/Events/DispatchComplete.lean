import Mathlib.Data.Countable.Basic
import Mathlib.Logic.Equiv.List
import Bookclerk.Events.DispatchPages

namespace Bookclerk.Events

open Lexical Db Jobs Named Bookclerk.System List Option Function

variable {ι : Type} {digest : DispatchRequest → Text} {eventId : Text}

section Steps

variable [DecidableEq ι] {s s' : DispatchSystem ι}

lemma attempts_put_cases {i j : ι} {a : Option Attempt} {b : Attempt} (h : (s.put i a).attempts j = some b) :
    (j = i ∧ a = some b) ∨ s.attempts j = some b := by
  have h : Function.update s.attempts i a j = some b := h
  by_cases hj : j = i
  · subst hj
    rw [update_self] at h
    exact .inl ⟨rfl, h⟩
  · rw [update_of_ne hj] at h
    exact .inr h

variable {i : ι}

lemma DispatchInv.put {a : Option Attempt} (h : DispatchInv digest eventId s)
    (ha : ∀ b snapshot start page, a = some b → b.phase = .paging snapshot start page →
      Frozen s.first snapshot ∧ Covered eventId s.db.tables.deliveries (snapshot.take start)) : DispatchInv digest eventId (s.put i a) where
  event := h.event
  keyed := h.keyed
  receipts := h.receipts
  paging j b snapshot start page hb hphase := by
    rcases attempts_put_cases hb with ⟨-, hab⟩ | hb
    · exact ha b snapshot start page hab hphase
    · exact h.paging j b snapshot start page hb hphase
  completed := h.completed

lemma DispatchInv.dropAttempt (h : DispatchInv digest eventId s) (i : ι) : DispatchInv digest eventId (s.put i none) :=
  h.put fun _ _ _ _ hnone => absurd hnone (by simp)

variable {subscribers : List EventSubscriber}

lemma DispatchInv.begin {operationId : Text} {chunk : Nat}
    (h : DispatchInv digest eventId s) (hs : beginAttempt eventId s i subscribers operationId chunk = some s') :
    DispatchInv digest eventId s' := by
  obtain ⟨e, he, hsnap, -⟩ := h.event
  rw [beginAttempt] at hs
  split_ifs at hs
  rw [he] at hs
  cases hids : e.dispatchSnapshot with
  | some ids =>
    simp only [hids] at hs
    cases hs
    refine h.put fun b snapshot start page hb hphase => ?_
    cases hb
    cases hphase
    exact ⟨frozen_of_snapshot hsnap hids, covered_take_zero _⟩
  | none =>
    simp only [hids] at hs
    cases hs
    refine h.put fun b snapshot start page hb hphase => ?_
    cases hb
    cases hphase

lemma DispatchInv.freeze {a : Attempt} (h : DispatchInv digest eventId s) :
    DispatchInv digest eventId (freezeSnapshot eventId s i a subscribers) := by
  obtain ⟨e, he, hsnap, hdispatched⟩ := h.event
  rw [freezeSnapshot, he]
  dsimp only
  cases hids : e.dispatchSnapshot with
  | some ids =>
    refine h.put fun b snapshot start page hb hphase => ?_
    cases hb
    cases hphase
    exact ⟨frozen_of_snapshot hsnap hids, covered_take_zero _⟩
  | none =>
    have hfirst : s.first = none := by simpa [hids] using hsnap.symm
    -- nobody pages yet, and the event is not dispatched
    have hnobody : ∀ snapshot, ¬ Frozen s.first snapshot := by
      rintro snapshot ⟨subs, hsome, -⟩
      simp [hfirst] at hsome
    refine ⟨⟨snapshotRow eventId (subscribers.map EventSubscriber.pluginId) e, ?_, ?_, fun hdone => ?_⟩, h.keyed, h.receipts, ?_, ?_⟩
    · rw [Table.find_modify, he, map_some]
    · rw [snapshotRow, if_pos ⟨(Table.find_eq_some.mp he).2, hids⟩]
      rfl
    · have hdone : e.dispatchState = .dispatched := by
        rw [snapshotRow] at hdone
        split_ifs at hdone <;> exact hdone
      obtain ⟨snapshot, hfrozen, -⟩ := hdispatched hdone
      exact absurd hfrozen (hnobody snapshot)
    · intro j b snapshot start page hb hphase
      rcases attempts_put_cases hb with ⟨-, hab⟩ | hb
      · cases hab
        cases hphase
        exact ⟨⟨subscribers, rfl, .inl rfl⟩, covered_take_zero _⟩
      · exact absurd (h.paging j b snapshot start page hb hphase).1 (hnobody snapshot)
    · exact fun snapshot hmem => absurd (h.completed snapshot hmem) (hnobody snapshot)

lemma DispatchInv.runPage {a : Attempt} {snapshot : List EventSubscriber} {start page : Nat} (now : Stamp)
    (hinj : Function.Injective digest) (h : DispatchInv digest eventId s) (ha : s.attempts i = some a)
    (hphase : a.phase = .paging snapshot start page) :
    DispatchInv digest eventId (runPage digest eventId s i a snapshot start page now) := by
  obtain ⟨hfrozen, hstart⟩ := h.paging i a snapshot start page ha hphase
  obtain ⟨hreq, hnext, hlast⟩ := nextPage_spec eventId a.operationId a.chunk snapshot start page
  rw [Events.runPage]
  generalize nextPage eventId a.operationId a.chunk snapshot start page = next at hreq hnext hlast ⊢
  obtain ⟨req, operationId, stop⟩ := next
  obtain ⟨db, result, hpage, hdone⟩ := h.page hinj hreq operationId now
  simp only [hpage]
  obtain ⟨e, e', he, he', hsnap, hmarked⟩ := hdone.event
  obtain ⟨e₀, he₀, hsnap₀, hdispatched₀⟩ := h.event
  obtain rfl := mem_unique he he₀
  have hall : result.status = .ok → req.markDispatched = true → Covered eventId db.tables.deliveries snapshot := by
    intro hok hmark sub hsub
    rcases hlast hmark sub hsub with hsub | hsub
    · exact hstart.mono hdone.kept sub hsub
    · exact hdone.covered hok sub hsub
  have hevent : ∃ e, db.tables.events.find eventId = some e ∧ e.dispatchSnapshot = s.first.map (List.map EventSubscriber.pluginId) ∧
      (e.dispatchState = .dispatched → ∃ snapshot, Frozen s.first snapshot ∧ Covered eventId db.tables.deliveries snapshot) := by
    refine ⟨e', he', hsnap.trans hsnap₀, fun hd => ?_⟩
    rcases hmarked hd with hd | ⟨hok, hmark⟩
    · obtain ⟨snap, hf, hc⟩ := hdispatched₀ hd
      exact ⟨snap, hf, hc.mono hdone.kept⟩
    · exact ⟨snapshot, hfrozen, hall hok hmark⟩
  have hpaging : ∀ j b snap k p, s.attempts j = some b → b.phase = .paging snap k p →
      Frozen s.first snap ∧ Covered eventId db.tables.deliveries (snap.take k) := by
    intro j b snap k p hb hphase
    obtain ⟨hf, hc⟩ := h.paging j b snap k p hb hphase
    exact ⟨hf, hc.mono hdone.kept⟩
  have hput (b : Option Attempt) (completed : List (List EventSubscriber)) (hcompleted : ∀ snap ∈ completed, Frozen s.first snap)
      (hb : ∀ b' snap k p, b = some b' → b'.phase = .paging snap k p →
        Frozen s.first snap ∧ Covered eventId db.tables.deliveries (snap.take k)) :
      DispatchInv digest eventId { s.put i b with db := db, completed := completed } := by
    refine ⟨hevent, hdone.keyed, hdone.receipts, fun j b' snap k p hb' hphase => ?_, hcompleted⟩
    rcases attempts_put_cases hb' with ⟨-, hab⟩ | hb'
    · exact hb b' snap k p hab hphase
    · exact hpaging j b' snap k p hb' hphase
  by_cases hok : result.status = .ok
  · rw [if_neg (not_not.mpr hok)]
    by_cases hmark : req.markDispatched = true
    · rw [if_pos hmark]
      refine hput none (snapshot :: s.completed) (fun snap hsnap => ?_) fun _ _ _ _ hnone => absurd hnone (by simp)
      rcases mem_cons.mp hsnap with rfl | hsnap
      · exact hfrozen
      · exact h.completed snap hsnap
    · rw [if_neg hmark]
      refine hput _ s.completed h.completed fun b' snap k p hb' hphase => ?_
      cases hb'
      cases hphase
      refine ⟨hfrozen, fun sub hsub => ?_⟩
      rcases hnext sub hsub with hsub | hsub
      · exact hstart.mono hdone.kept sub hsub
      · exact hdone.covered hok sub hsub
  · rw [if_pos hok]
    exact hput none s.completed h.completed fun _ _ _ _ hnone => absurd hnone (by simp)

lemma DispatchInv.step {l : DispatchStep ι} (hinj : Function.Injective digest) (h : DispatchInv digest eventId s)
    (hs : dispatchStep digest eventId s l = some s') : DispatchInv digest eventId s' := by
  cases l with
  | begin i subscribers operationId chunk => exact h.begin hs
  | freeze i =>
    rw [dispatchStep] at hs
    cases ha : s.attempts i with
    | none => simp [ha] at hs
    | some a =>
      cases hphase : a.phase with
      | freezing subscribers =>
        simp only [ha, hphase] at hs
        cases hs
        exact h.freeze
      | paging snapshot start page => simp [ha, hphase] at hs
  | page i now =>
    rw [dispatchStep] at hs
    cases ha : s.attempts i with
    | none => simp [ha] at hs
    | some a =>
      cases hphase : a.phase with
      | freezing subscribers => simp [ha, hphase] at hs
      | paging snapshot start page =>
        simp only [ha, hphase] at hs
        cases hs
        exact h.runPage now hinj ha hphase
  | stop i =>
    cases hs
    exact h.dropAttempt i
  | operation operationId now =>
    cases hs
    exact ⟨h.event, h.keyed, fun r hr => h.receipts r (mem_of_mem_prune hr), h.paging, h.completed⟩

end Steps

structure DispatchedInFull (eventId : Text) (subscribers : List EventSubscriber) (s : DispatchSystem ι) : Prop where
  rows : ∀ e, s.db.tables.events.find eventId = some e → e.dispatchState = .dispatched →
    ∀ sub ∈ subscribers, trim sub.pluginId ≠ [] →
      ∃! d, d ∈ s.db.tables.deliveries.rows ∧ d.eventId = eventId ∧ d.pluginId = sub.pluginId
  snapshot : ∀ completed ∈ s.completed, completed.map EventSubscriber.pluginId = subscribers.map EventSubscriber.pluginId

/-- Every plugin id that is not blank has no white space around it, and is listed with the class `network`. -/
def Deliverable (subscribers : List EventSubscriber) : Prop :=
  ∀ sub ∈ subscribers, trim sub.pluginId ≠ [] → trim sub.pluginId = sub.pluginId ∧
    ∃ sub' ∈ subscribers, sub'.pluginId = sub.pluginId ∧ sub'.resourceClass = network

structure Published (digest : DispatchRequest → Text) (eventId : Text) (s : DispatchSystem ι) : Prop where
  event : ∃ e, s.db.tables.events.find eventId = some e ∧ e.dispatchState = .pending ∧ e.dispatchSnapshot = none
  deliveries : ∀ d ∈ s.db.tables.deliveries.rows, d.eventId ≠ eventId ∧ ∀ p, d.id ≠ eventId ++ utf8 ":" ++ p
  receipts : ∀ r ∈ s.db.receipts, ∀ req : DispatchRequest, req.eventId = eventId → r.requestHash ≠ digest req
  attempts : ∀ i, s.attempts i = none
  first : s.first = none
  completed : s.completed = []

lemma Published.inv {s : DispatchSystem ι} (h : Published digest eventId s) : DispatchInv digest eventId s := by
  obtain ⟨e, he, hpending, hnone⟩ := h.event
  refine ⟨⟨e, he, by rw [hnone, h.first]; rfl, fun hd => absurd (hpending.symm.trans hd) (by simp)⟩, fun d hd => ?_, ?_, ?_, ?_⟩
  · exact ⟨fun heq => absurd heq (h.deliveries d hd).1, fun p hp => absurd hp ((h.deliveries d hd).2 p)⟩
  · exact fun r hr req hreq hhash => absurd hhash (h.receipts r hr req hreq)
  · intro i a snapshot start page ha
    simp [h.attempts i] at ha
  · intro snapshot hsnap
    simp [h.completed] at hsnap

variable {snapshot : List EventSubscriber}

lemma Frozen.ids (h : Frozen (some subscribers) snapshot) :
    snapshot.map EventSubscriber.pluginId = subscribers.map EventSubscriber.pluginId := by
  obtain ⟨subs, hsubs, hlist⟩ := h
  obtain rfl : subscribers = subs := some.inj hsubs
  rcases hlist with rfl | rfl
  · rfl
  · simp [EventSubscriber.plugin]

lemma Frozen.hasRow {t : DeliveryTable} (h : Frozen (some subscribers) snapshot)
    (hdeliver : Deliverable subscribers) (hcovered : Covered eventId t snapshot) {sub : EventSubscriber} (hsub : sub ∈ subscribers)
    (hblank : trim sub.pluginId ≠ []) : HasRow eventId t sub.pluginId := by
  obtain ⟨subs, hsubs, hlist⟩ := h
  obtain rfl : subscribers = subs := some.inj hsubs
  obtain ⟨htrim, sub', hsub', hid, hclass⟩ := hdeliver sub hsub hblank
  rcases hlist with rfl | rfl
  · exact hcovered sub' hsub' _ (deliverable_eq_some.mpr ⟨by rwa [hid], hclass, by rw [hid, htrim]⟩)
  · refine hcovered (.plugin sub.pluginId) ?_ _ (deliverable_eq_some.mpr ⟨hblank, rfl, htrim.symm⟩)
    exact List.mem_map_of_mem (List.mem_map_of_mem hsub)

section Runs

variable [DecidableEq ι] {s s' : DispatchSystem ι}

lemma dispatchedInFull_of_deliverable (hinj : Function.Injective digest) (hs : Published digest eventId s)
    (hdeliver : Deliverable subscribers) {steps : List (DispatchStep ι)} (hrun : run (dispatchStep digest eventId) s steps = some s')
    (hfirst : s'.first = some subscribers) : DispatchedInFull eventId subscribers s' := by
  have hinv : DispatchInv digest eventId s' :=
    Stable.run (fun s l s' h hl => h.step hinj hl) hs.inv hrun
  refine ⟨fun e he hdone sub hsub hblank => ?_, fun completed hmem => ?_⟩
  · obtain ⟨e', he', -, hcovered⟩ := hinv.event
    obtain rfl := mem_unique he he'
    obtain ⟨snapshot, hfrozen, hcovered⟩ := hcovered hdone
    obtain ⟨d, hd, heq⟩ := (hfirst ▸ hfrozen).hasRow hdeliver hcovered hsub hblank
    exact ⟨d, ⟨hd, heq⟩, fun d' hd' => hinv.keyed.unique hd'.1 hd hd'.2 heq⟩
  · exact (hfirst ▸ hinv.completed completed hmem).ids

lemma exists_fresh_operation (receipts : Receipts Nat) :
    ∃ operationId : Text, ∀ r ∈ receipts, r.operationId ≠ operationId ++ utf8 ":p" ++ utf8 (toString 0) := by
  refine ⟨(receipts.map AtomicReceipt.operationId).flatten, fun r hr heq => ?_⟩
  have hle : r.operationId.length ≤ (receipts.map AtomicReceipt.operationId).flatten.length :=
    (sublist_flatten_of_mem (List.mem_map_of_mem hr)).length_le
  have hlen := congrArg length heq
  simp only [length_append] at hlen
  have : 0 < (utf8 ":p").length := by decide
  omega

lemma exists_run_one_page [Inhabited ι] (hs : Published digest eventId s) (hne : subscribers ≠ []) :
    ∃ steps s', run (dispatchStep digest eventId) s steps = some s' ∧ s'.first = some subscribers ∧
      (∃ e, s'.db.tables.events.find eventId = some e ∧ e.dispatchState = .dispatched) ∧
      ∀ d ∈ s'.db.tables.deliveries.rows, d.eventId = eventId → d.pluginId ∈ subscribers.filterMap deliverable := by
  obtain ⟨e, he, -, hnone⟩ := hs.event
  obtain ⟨operationId, hfresh⟩ := exists_fresh_operation s.db.receipts
  let a : Attempt := ⟨operationId, subscribers.length, .freezing subscribers⟩
  let s₁ := s.put default (some a)
  let s₂ := freezeSnapshot eventId s₁ default a subscribers
  have h₁ : dispatchStep digest eventId s (.begin default subscribers operationId subscribers.length) = some s₁ := by
    simp [dispatchStep, beginAttempt, hs.attempts, he, hnone, s₁, a]
  have ha₁ : s₁.attempts default = some a := update_self ..
  have h₂ : dispatchStep digest eventId s₁ (.freeze default) = some s₂ := by
    simp only [dispatchStep, ha₁]
    rfl
  have hs₂ : s₂ = { s₁ with
      db := { s.db with tables := { s.db.tables with
        events := s.db.tables.events.modify (snapshotRow eventId (subscribers.map EventSubscriber.pluginId)) (id_snapshotRow _ _) } }
      attempts := Function.update s₁.attempts default (some { a with phase := .paging subscribers 0 0 })
      first := some subscribers } := by
    simp only [s₂, freezeSnapshot, s₁, DispatchSystem.put, he, hnone]
  have ha₂ : s₂.attempts default = some { a with phase := .paging subscribers 0 0 } := by
    rw [hs₂]
    exact update_self ..
  let req : DispatchRequest := ⟨eventId, subscribers, true⟩
  have he₂ : s₂.db.tables.events.find req.eventId = some (snapshotRow eventId (subscribers.map EventSubscriber.pluginId) e) := by
    rw [hs₂]
    rw [Table.find_modify, show s.db.tables.events.find req.eventId = some e from he, map_some]
  have hnext : nextPage eventId operationId subscribers.length subscribers 0 0 =
      (req, operationId ++ utf8 ":p" ++ utf8 (toString 0), subscribers.length) := by
    have hstop : min (0 + max subscribers.length 1) subscribers.length = subscribers.length := by omega
    rw [nextPage, if_neg hne, hstop]
    simp [req]
  obtain ⟨db, result, hpage, ⟨r, hr, hid, -⟩ | ⟨hok, htables, -⟩⟩ :=
    dispatchPage_cases digest (operationId ++ utf8 ":p" ++ utf8 (toString 0)) 0 he₂
  · rw [hs₂] at hr
    exact absurd hid (hfresh r hr)
  have h₃ : dispatchStep digest eventId s₂ (.page default 0) =
      some { s₂.put default none with db := db, completed := subscribers :: s₂.completed } := by
    simp only [dispatchStep, ha₂, Events.runPage]
    rw [hnext]
    simp only [hpage, hok]
    rw [if_neg (not_not.mpr rfl), if_pos (rfl : req.markDispatched = true)]
  refine ⟨[.begin default subscribers operationId subscribers.length, .freeze default, .page default 0], _,
    run_cons.mpr ⟨s₁, h₁, run_cons.mpr ⟨s₂, h₂, run_cons.mpr ⟨_, h₃, rfl⟩⟩⟩, ?_, ?_, ?_⟩
  · rw [hs₂]
    rfl
  · refine ⟨_, by dsimp only; rw [htables, find_pageTables]; rw [show s₂.db.tables.events.find eventId = _ from he₂, map_some], ?_⟩
    refine dispatchState_dispatchedRow ?_
    rw [id_snapshotRow]
    exact (Table.find_eq_some.mp he).2
  · intro d hd heq
    have hkeyed : Keyed eventId s₂.db.tables.deliveries := by
      rw [hs₂]
      exact hs.inv.keyed
    have hcreated := created_pageTables 0 he₂ hkeyed
    rw [← htables] at hcreated
    rcases hcreated.only d hd with hd | ⟨-, hp⟩
    · rw [hs₂] at hd
      exact absurd heq (hs.deliveries d hd).1
    · exact hp

end Runs

section OneEvent

def bookEvent : DomainEvent :=
  ⟨utf8 "e", utf8 "book_acquired", 1, utf8 "\x7b\x7d", [], 0, .pending, none⟩

def publishedEvent : DispatchSystem Nat :=
  ⟨⟨[], ⟨⟨[bookEvent], by decide⟩, ⟨[], List.nodup_nil⟩⟩⟩, fun _ => none, none, []⟩

lemma publishedEvent_published (digest : DispatchRequest → Text) : Published digest (utf8 "e") publishedEvent :=
  ⟨⟨bookEvent, by decide +kernel, rfl, rfl⟩, fun d hd => absurd hd not_mem_nil, fun r hr => absurd hr not_mem_nil, fun _ => rfl, rfl, rfl⟩

lemma exists_injective_digest : ∃ digest : DispatchRequest → Text, Function.Injective digest := by
  have hbyte : Countable UInt8 := Function.Injective.countable fun a b h => UInt8.toNat_inj.mp h
  obtain ⟨number, hnumber⟩ := Countable.exists_injective_nat (Text × List (Text × Text) × Bool)
  refine ⟨fun req => replicate (number (req.eventId, req.subscribers.map fun s => (s.pluginId, s.resourceClass), req.markDispatched)) 0, ?_⟩
  intro a b h
  have h := hnumber (by simpa using congrArg length h)
  obtain ⟨aid, asubs, amark⟩ := a
  obtain ⟨bid, bsubs, bmark⟩ := b
  simp only [Prod.mk.injEq] at h
  have hsubs : asubs = bsubs := map_injective_iff.mpr (fun s s' hs => by
    cases s
    simp_all) h.2.1
  simp [h.1, hsubs, h.2.2]

end OneEvent

end Bookclerk.Events
