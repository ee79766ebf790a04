import Bookclerk.Events.Base

namespace Bookclerk.Events

open Lexical Db Jobs Bookclerk.System List Option

variable {d : Claim} {x x' : ClaimTxn} {m r : Delivery} {n : Nat} {page : Page} {now : Stamp} {c p : Text}

def running (t : DeliveryTable) (pluginId resourceClass : Text) : Nat :=
  t.rows.countP (inFlight pluginId resourceClass)

def UsesCap {ι : Type} (M : Nat) : Action ι → Prop
  | .openClaim _ args | .openHost _ args => args.maxInFlight = M
  | _ => True

instance {ι : Type} (M : Nat) : (a : Action ι) → Decidable (UsesCap M a)
  | .openClaim _ args => by unfold UsesCap; infer_instance
  | .openHost _ args => by unfold UsesCap; infer_instance
  | .call .. | .dispatch .. | .retryDeadLetter .. | .claim .. | .commit .. | .rollback .. | .host .. | .dropHost .. | .openCancel .. | .cancel .. =>
    .isTrue trivial

structure CapInv {ι : Type} (M : Nat) (q : Outbox ι) : Prop where
  base : Base q
  slots : ∀ i x m, q.store.session i = some x → x.data.phase.slotted = some m →
    eventInflightSlot m.pluginId m.resourceClass ∈ x.slots
  room : ∀ i x m, q.store.session i = some x → x.data.phase.counted = some m → running q.store.table m.pluginId network < M
  cap : ∀ p c, running q.store.table p c ≤ M
  sessionCap : ∀ i x, q.store.session i = some x → x.data.args.maxInFlight = M
  hostCap : ∀ h d, q.hosts h = some d → d.args.maxInFlight = M

lemma inFlight_iff : inFlight p c r = true ↔ r.pluginId = p ∧ r.state = .running ∧ r.resourceClass = c := by
  simp [inFlight, and_assoc]

lemma inFlight_of_origin {w : Delivery} (horigin : w.toOrigin = r.toOrigin)
    (hstate : w.state = .running → r.state = .running) (h : inFlight p c w = true) : inFlight p c r = true := by
  obtain ⟨hp, hrun, hc⟩ := inFlight_iff.mp h
  refine inFlight_iff.mpr ⟨?_, hstate hrun, ?_⟩
  · rw [← hp]
    exact congrArg Origin.pluginId horigin.symm
  · rw [← hc]
    exact congrArg Origin.resourceClass horigin.symm

lemma running_modify_le {t : DeliveryTable} {f : Delivery → Delivery} (hf : ∀ r, (f r).key = r.key)
    (h : ∀ r ∈ t.rows, inFlight p c (f r) = true → inFlight p c r = true) : running (t.modify f hf) p c ≤ running t p c := by
  rw [running, Table.countP_modify]
  exact countP_mono_left h

variable {ι : Type} {q q' : Outbox ι} {M : Nat} {i : ι}

lemma Base.inFlight_view (h : Base q) (hx : q.store.session i = some x)
    (hr : r ∈ q.store.table.rows) (hview : inFlight p c (x.view Delivery.key r) = true) :
    inFlight p c r = true ∨ ∃ m, x.data.phase.claimed = some m ∧ r.key = m.id ∧ p = m.pluginId ∧ c = network := by
  have hseen := h.seen i x hx r hr
  have hstate := hseen.state
  split_ifs at hstate with hclaimed
  · obtain ⟨m, hm, hid⟩ := (Option.any_eq_true ..).mp hclaimed
    have hid : m.id = r.id := of_decide_eq_true hid
    have hchosen := ClaimPhase.chosen_of_slotted (ClaimPhase.slotted_of_counted (ClaimPhase.counted_of_claimed hm))
    have hlisted := h.sessions i x hx m (ClaimPhase.mem_candidates_of_chosen hchosen)
    have horigin : (x.view Delivery.key r).toOrigin = m.toOrigin := hseen.origin.trans (hlisted.origin hr hid.symm)
    obtain ⟨hp, -, hc⟩ := inFlight_iff.mp hview
    refine Or.inr ⟨m, hm, hid.symm, ?_, ?_⟩
    · rw [← hp]
      exact congrArg Origin.pluginId horigin
    · rw [← hc, ← hlisted.1]
      exact congrArg Origin.resourceClass horigin
  · refine Or.inl (inFlight_of_origin hseen.origin (fun hrun => ?_) hview)
    rcases hstate with heq | ⟨-, hrej⟩
    · rwa [heq] at hrun
    · rw [hrej] at hrun
      cases hrun

lemma Base.inFlight_cas (h : Base q) (hd : q.hosts n = some d)
    (hphase : d.phase = .passed m page) (hr : r ∈ q.store.table.rows)
    (hrow : inFlight p c ((hostStmt q.store.table.rows d.args m now).toStmt.row r) = true) :
    inFlight p c r = true ∨
      (r.key = m.id ∧ p = m.pluginId ∧ c = network ∧ running q.store.table m.pluginId network < d.args.maxInFlight) := by
  have hlisted : Listed q.store.table m := h.hosts n d hd m (by rw [hphase]; exact mem_cons_self)
  rcases (hostStmt q.store.table.rows d.args m now).toStmt.row_cases r with hsame | ⟨hkey, happ, hset⟩
  · rw [hsame] at hrow
    exact Or.inl hrow
  · rw [hset] at hrow
    have horigin := hlisted.origin hr hkey
    obtain ⟨hp, -, hc⟩ := inFlight_iff.mp hrow
    have hroom : casRoom q.store.table.rows m d.args.maxInFlight = true := by
      simp only [hostStmt, casDelivery, updateWhere, Bool.and_eq_true] at happ
      exact happ.2
    refine Or.inr ⟨hkey, ?_, ?_, ?_⟩
    · rw [← hp]
      exact congrArg Origin.pluginId horigin
    · rw [← hc, ← hlisted.1]
      exact congrArg Origin.resourceClass horigin
    · rw [casRoom, hlisted.1, show resourceClassOr network = network by decide] at hroom
      simpa [running] using hroom

section

variable (h : CapInv M q) (hx : q.store.session i = some x)
include h hx

lemma CapInv.room_admit
    (hopen : x.data.phase.claimed = none) (hlisted : Listed q.store.table m)
    (hcap : pluginInFlightAtCap (q.store.table.rows.map (x.view Delivery.key)) m x.data.args.maxInFlight = false) :
    running q.store.table m.pluginId network < M := by
  rw [pluginInFlightAtCap, Bool.or_eq_false_iff, hlisted.1] at hcap
  have hlt := of_decide_eq_false hcap.2
  rw [h.sessionCap i x hx, countP_map] at hlt
  refine lt_of_le_of_lt (countP_mono_left fun r hr hrun => ?_) (not_le.mp hlt)
  have hseen := h.base.seen i x hx r hr
  exact inFlight_of_origin hseen.origin.symm (fun hr => (hseen.running_iff hopen).mpr hr) hrun

lemma CapInv.slots_claim
    (hmove : ClaimMove q.store i x x') (hm : x'.data.phase.slotted = some m) : eventInflightSlot m.pluginId m.resourceClass ∈ x'.slots := by
  cases hmove with
  | advance p hp => exact h.slots i x m hx (hp.slotted hm)
  | lock n page _ _ =>
    cases hm
    exact mem_cons_self
  | reject => cases hm
  | claim n page r _ _ _ hphase _ _ _ =>
    cases hm
    exact h.slots i x m hx (by rw [hphase]; rfl)

lemma CapInv.room_claim
    (hmove : ClaimMove q.store i x x') (hm : x'.data.phase.counted = some m) : running q.store.table m.pluginId network < M := by
  cases hmove with
  | advance p hp =>
    rcases hp.counted hm with hcounted | ⟨hslotted, hcap⟩
    · exact h.room i x m hx hcounted
    · have hmem := ClaimPhase.mem_candidates_of_chosen (ClaimPhase.chosen_of_slotted hslotted)
      exact h.room_admit hx hp.not_claimed.1 (h.base.sessions i x hx m hmem) hcap
  | lock | reject => cases hm
  | claim n page r _ _ _ hphase _ _ _ =>
    cases hm
    exact h.room i x m hx (by rw [hphase]; rfl)

end

lemma ClaimMove.args {s : OutboxStore ι} (h : ClaimMove s i x x') : x'.data.args = x.data.args := by
  cases h <;> rfl

variable [Fintype ι] [DecidableEq ι]

structure Grown (M : Nat) (t : DeliveryTable) (s' : OutboxStore ι) (p c : Text) : Prop where
  le : running s'.table p c ≤ running t p c + 1
  room : running t p c < M
  resourceClass : c = network
  free : ∀ i x, s'.session i = some x → eventInflightSlot p network ∉ x.slots

variable {s' : OutboxStore ι}

omit [Fintype ι] in
lemma CapInv.running_commit (h : CapInv M q) (hs : q.store.commit i = some s') (p c : Text) :
    running s'.table p c ≤ running q.store.table p c ∨ Grown M q.store.table s' p c := by
  obtain ⟨x, hx, hs⟩ := bind_eq_some_iff.mp hs
  cases hs
  by_cases hm : ∃ m, x.data.phase.claimed = some m ∧ p = m.pluginId ∧ c = network
  · obtain ⟨m, hm, rfl, rfl⟩ := hm
    have hcounted := ClaimPhase.counted_of_claimed hm
    have hslotted := ClaimPhase.slotted_of_counted hcounted
    have hlisted := h.base.sessions i x hx m (ClaimPhase.mem_candidates_of_chosen (ClaimPhase.chosen_of_slotted hslotted))
    refine Or.inr ⟨?_, h.room i x m hx hcounted, rfl, fun j y hy hmem => ?_⟩
    · refine q.store.table.countP_modify_le x.key_view (k := m.id) fun r hr hview => ?_
      rcases h.base.inFlight_view hx hr hview with hrun | ⟨m', hm', hkey, -, -⟩
      · exact Or.inl hrun
      · rw [hm] at hm'
        cases hm'
        exact Or.inr hkey
    · rcases Store.session_put_cases (show (q.store.put i none).session j = some y from hy) with ⟨-, hn⟩ | ⟨hj, hy⟩
      · cases hn
      · have hslot := h.slots i x m hx hslotted
        rw [hlisted.1] at hslot
        exact hj (h.base.isolated.slots j i y x _ hy hx hmem hslot)
  · refine Or.inl (running_modify_le x.key_view fun r hr hview => ?_)
    rcases h.base.inFlight_view hx hr hview with hrun | ⟨m, hclaimed, -, hp, hc⟩
    · exact hrun
    · exact absurd ⟨m, hclaimed, hp, hc⟩ hm

lemma CapInv.running_cas (h : CapInv M q)
    (hd : q.hosts n = some d) (hphase : d.phase = .passed m page)
    (hfree : ∀ i x, q.store.session i = some x → eventInflightSlot m.pluginId m.resourceClass ∉ x.slots)
    (hs : q.store.exec (hostStmt q.store.table.rows d.args m now).toStmt = some s') (p c : Text) :
    running s'.table p c ≤ running q.store.table p c ∨ Grown M q.store.table s' p c := by
  obtain ⟨-, rfl⟩ := Store.exec_eq_some.mp hs
  have hlisted : Listed q.store.table m := h.base.hosts n d hd m (by rw [hphase]; exact mem_cons_self)
  by_cases hgrow : p = m.pluginId ∧ c = network ∧ running q.store.table m.pluginId network < M
  · obtain ⟨rfl, rfl, hroom⟩ := hgrow
    refine Or.inr ⟨?_, hroom, rfl, fun i x hx => hlisted.1 ▸ hfree i x hx⟩
    refine q.store.table.countP_modify_le (Stmt.key_row _) (k := m.id) fun r hr hrow => ?_
    rcases h.base.inFlight_cas hd hphase hr hrow with hrun | ⟨hkey, -⟩
    · exact Or.inl hrun
    · exact Or.inr hkey
  · refine Or.inl (running_modify_le (Stmt.key_row _) fun r hr hrow => ?_)
    rcases h.base.inFlight_cas hd hphase hr hrow with hrun | ⟨-, hp, hc, hroom⟩
    · exact hrun
    · rw [h.hostCap n d hd] at hroom
      exact absurd ⟨hp, hc, hroom⟩ hgrow

variable {a : Action ι}

lemma CapInv.running_move (h : CapInv M q) (hm : StoreMove q a s') (p c : Text) :
    running s'.table p c ≤ running q.store.table p c ∨ Grown M q.store.table s' p c := by
  have hexec : ∀ (stmt : DeliveryStmt) (s' : OutboxStore ι),
      (∀ r, stmt.applies r = true → (stmt.set r).state = .running → r.state = .running) →
      q.store.exec stmt.toStmt = some s' → running s'.table p c ≤ running q.store.table p c := by
    intro stmt s' hstart hs
    obtain ⟨-, rfl⟩ := Store.exec_eq_some.mp hs
    refine running_modify_le stmt.key_row fun r _ hrow => inFlight_of_origin (stmt.origin_row r) (fun hrun => ?_) hrow
    rcases stmt.toStmt.row_cases r with hsame | ⟨-, happ, hset⟩
    · rwa [hsame] at hrun
    · rw [hset] at hrun
      exact hstart r happ hrun
  cases hm with
  | same | claim | rollback => exact Or.inl (le_refl _)
  | exec stmt hord hs => exact Or.inl (hexec stmt s' hord.starts hs)
  | revive hs => exact Or.inl (hexec _ s' (fun r _ hrun => by cases hrun) hs)
  | insert hs =>
    rw [Store.insert] at hs
    split_ifs at hs
    cases hs
    exact Or.inl (le_of_eq (by simp [running, Table.insert, inFlight, newDelivery]))
  | start left hs =>
    rw [Store.start] at hs
    split_ifs at hs
    cases hs
    exact Or.inl (le_refl _)
  | commit hs => exact h.running_commit hs p c
  | cas d m page hd hphase hfree hs => exact h.running_cas hd hphase hfree hs p c

lemma CapInv.room_move (h : CapInv M q) (hm : StoreMove q a s') (hx : q.store.session i = some x) (hx' : s'.session i = some x) (hcounted : x.data.phase.counted = some m) :
    running s'.table m.pluginId network < M := by
  have hroom := h.room i x m hx hcounted
  rcases h.running_move hm m.pluginId network with hle | hgrown
  · exact lt_of_le_of_lt hle hroom
  · have hslotted := ClaimPhase.slotted_of_counted hcounted
    have hlisted := h.base.sessions i x hx m (ClaimPhase.mem_candidates_of_chosen (ClaimPhase.chosen_of_slotted hslotted))
    have hslot := h.slots i x m hx hslotted
    rw [hlisted.1] at hslot
    exact absurd hslot (hgrown.free i x hx')

lemma CapInv.step (h : CapInv M q) (ha : UsesCap M a) (hs : step q a = some q') : CapInv M q' := by
  have hm := step_move hs
  refine ⟨h.base.step hs, fun i x' m hx' hslotted => ?_, fun i x' m hx' hcounted => ?_, fun p c => ?_, fun i x' hx' => ?_, fun n d hd => ?_⟩
  · rcases session_move hm hx' with hx | ⟨args, left, -, rfl⟩ | ⟨x, b, -, hx, hmove, -⟩
    · exact h.slots i x' m hx hslotted
    · cases hslotted
    · exact h.slots_claim hx hmove hslotted
  · rcases session_move hm hx' with hx | ⟨args, left, -, rfl⟩ | ⟨x, b, -, hx, hmove, htable⟩
    · exact h.room_move hm hx hx' hcounted
    · cases hcounted
    · rw [htable]
      exact h.room_claim hx hmove hcounted
  · rcases h.running_move hm p c with hle | hgrown
    · exact hle.trans (h.cap p c)
    · have := hgrown.le
      have := hgrown.room
      omega
  · rcases session_move hm hx' with hx | ⟨args, left, rfl, rfl⟩ | ⟨x, b, -, hx, hmove, -⟩
    · exact h.sessionCap i x' hx
    · exact ha
    · rw [hmove.args]
      exact h.sessionCap i x hx
  · cases step_hosts hs hd with
    | same _ hd => exact h.hostCap n d hd
    | opened args left haction =>
      subst haction
      exact ha
    | advance d p b now _ hold _ | done d m page hold _ => exact h.hostCap n d hold

theorem in_flight_capped (M : Nat) (table : DeliveryTable) (htable : ∀ p c, running table p c ≤ M) (as : List (Action ι))
    (has : ∀ a ∈ as, UsesCap M a) (hrun : run step (Outbox.initial table) as = some q) (pluginId resourceClass : Text) :
    running q.store.table pluginId resourceClass ≤ M := by
  have hinit : CapInv M (Outbox.initial table : Outbox ι) :=
    { base := Base.initial table
      slots := fun _ _ _ hx => absurd hx (some_ne_none _).symm
      room := fun _ _ _ hx => absurd hx (some_ne_none _).symm
      cap := htable
      sessionCap := fun _ _ hx => absurd hx (some_ne_none _).symm
      hostCap := fun _ _ hd => absurd hd (some_ne_none _).symm }
  exact (run_of_everyStep (fun _ _ _ h ha hs => CapInv.step h ha hs) hinit
    (everyStep_of_forall (fun a ha _ => has a ha) _) hrun).cap pluginId resourceClass

def twoClaims : List (Action (Fin 1)) :=
  .dispatch (utf8 "e") (utf8 "p") [] 1 :: .dispatch (utf8 "f") (utf8 "p") [] 1 ::
    (claimFirst soleSession ⟨utf8 "a", 60, [utf8 "p"], 1, true, 2⟩ ++ hostFirst 0 ⟨utf8 "b", 60, [utf8 "p"], 1, true, 3⟩ 3)

theorem in_flight_capped_two_claims :
    ∃ q, run step (Outbox.initial ⟨[], List.nodup_nil⟩) twoClaims = some q ∧ q.log = [.claimed (utf8 "e:p")] ∧
      ∀ p c, running q.store.table p c ≤ 1 := by
  have hlog : (run step (Outbox.initial ⟨[], nodup_nil⟩) twoClaims).map Outbox.log = some [.claimed (utf8 "e:p")] := by
    decide +kernel
  obtain ⟨q, hrun, hlog⟩ := map_eq_some_iff.mp hlog
  exact ⟨q, hrun, hlog, in_flight_capped 1 ⟨[], nodup_nil⟩ (fun _ _ => Nat.zero_le 1) twoClaims (by decide) hrun⟩

end Bookclerk.Events
