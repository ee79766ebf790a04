import Bookclerk.Events.RowMoves

namespace Bookclerk.Events

open Lexical Db Jobs Bookclerk.System List Option

variable {b' m r' : Delivery} {rows : List Delivery}

def Tied (r b : Delivery) : Prop :=
  r.orderingKey ≠ [] ∧ b.pluginId = r.pluginId ∧ b.orderingKey = r.orderingKey ∧ b.createdAt = r.createdAt ∧
    r.state.isActive = true ∧ b.state.isActive = true

structure InOrder (t : DeliveryTable) : Prop where
  untied : ∀ r ∈ t.rows, ∀ b ∈ t.rows, Tied r b → r.id = b.id
  running : ∀ b ∈ t.rows, b.state = .running → fifoBlocked t.rows b = false

def OnePerKey (t : DeliveryTable) : Prop :=
  ∀ r ∈ t.rows, ∀ b ∈ t.rows, r.state = .running → b.state = .running → r.pluginId = b.pluginId →
    r.orderingKey = b.orderingKey → b.orderingKey ≠ [] → r = b

instance (t : DeliveryTable) : Decidable (OnePerKey t) :=
  inferInstanceAs (Decidable (∀ _ ∈ _, _))

def Picked {ι : Type} (q : Outbox ι) (m : Delivery) : Prop :=
  (∃ i x, q.store.session i = some x ∧ x.data.phase.chosen = some m) ∨
    ∃ n d page, q.hosts n = some d ∧ d.phase = .passed m page

structure Joins {ι : Type} (q : Outbox ι) (r : Delivery) : Prop where
  untied : ∀ b ∈ q.store.table.rows, Tied r b → b.id = r.id
  running : ∀ b ∈ q.store.table.rows, b.state = .running → fifoBlocked [r] b = false
  picked : ∀ m, Picked q m → fifoBlocked [r] m = false

def JoinsBehind {ι : Type} (q : Outbox ι) : Action ι → Prop
  | .dispatch eventId pluginId orderingKey now => Joins q (newDelivery eventId pluginId orderingKey now)
  | .retryDeadLetter id now =>
    ∀ r ∈ q.store.table.rows, r.id = id → r.state = .deadLetter → Joins q ((retryDeadLetterDelivery id now).set r)
  | _ => True

def Action.joining {ι : Type} : Action ι → Option Text
  | .dispatch eventId pluginId orderingKey now => some (newDelivery eventId pluginId orderingKey now).id
  | .retryDeadLetter id _ => some id
  | _ => none

structure FifoInv {ι : Type} (q : Outbox ι) : Prop where
  base : Base q
  inOrder : InOrder q.store.table
  sessions : ∀ i x m, q.store.session i = some x → x.data.phase.chosen = some m →
    fifoBlocked (q.store.table.rows.map (x.view Delivery.key)) m = false
  hosts : ∀ n d m page, q.hosts n = some d → d.phase = .passed m page → fifoBlocked q.store.table.rows m = false

lemma fifoBlocked_iff :
    fifoBlocked rows m = true ↔ m.orderingKey ≠ [] ∧ ∃ r ∈ rows,
      r.pluginId = m.pluginId ∧ r.orderingKey = m.orderingKey ∧ r.createdAt < m.createdAt ∧ r.state.isActive = true := by
  simp [fifoBlocked, and_assoc]

lemma fifoBlocked_origin {b : Delivery} (h : b.toOrigin = m.toOrigin) : fifoBlocked rows b = fifoBlocked rows m := by
  obtain ⟨origin⟩ := b
  obtain rfl : origin = m.toOrigin := h
  rfl

lemma fifoBlocked_of_rows {rows' : List Delivery} (h : fifoBlocked rows m = false)
    (hrows : ∀ r' ∈ rows', r'.state.isActive = true →
      (∃ r ∈ rows, r'.toOrigin = r.toOrigin ∧ r.state.isActive = true) ∨ fifoBlocked [r'] m = false) : fifoBlocked rows' m = false := by
  by_contra hblocked
  obtain ⟨hkey, r', hr', hp, hk, hlt, hactive⟩ := fifoBlocked_iff.mp (by simpa using hblocked)
  rcases hrows r' hr' hactive with ⟨r, hr, horigin, hold⟩ | hnew
  · refine absurd (fifoBlocked_iff.mpr ⟨hkey, r, hr, ?_, ?_, ?_, hold⟩) (by simp [h])
    · rw [← hp]
      exact congrArg Origin.pluginId horigin.symm
    · rw [← hk]
      exact congrArg Origin.orderingKey horigin.symm
    · rwa [show r.createdAt = r'.createdAt from congrArg Origin.createdAt horigin.symm]
  · exact absurd (fifoBlocked_iff.mpr ⟨hkey, r', mem_singleton_self r', hp, hk, hlt, hactive⟩) (by simp [hnew])

lemma tied_of_origin {r b : Delivery} (hr : r'.toOrigin = r.toOrigin) (hb : b'.toOrigin = b.toOrigin)
    (hractive : r.state.isActive = true) (hbactive : b.state.isActive = true) (h : Tied r' b') : Tied r b := by
  obtain ⟨hkey, hp, hk, hat, -, -⟩ := h
  simp only [hr, hb] at hkey hp hk hat
  exact ⟨hkey, hp, hk, hat, hractive, hbactive⟩

lemma Tied.symm {r b : Delivery} (h : Tied r b) : Tied b r := by
  obtain ⟨hkey, hp, hk, hat, hr, hb⟩ := h
  exact ⟨hk ▸ hkey, hp.symm, hk.symm, hat.symm, hb, hr⟩

lemma InOrder.onePerKey {t : DeliveryTable} (h : InOrder t) : OnePerKey t := by
  intro r hr b hb hrrun hbrun hplugin hkey hne
  have hblocks : ∀ r ∈ t.rows, ∀ b ∈ t.rows, r.state = .running → b.state = .running → r.pluginId = b.pluginId →
      r.orderingKey = b.orderingKey → b.orderingKey ≠ [] → ¬ r.createdAt < b.createdAt := by
    intro r hr b hb hrrun hbrun hplugin hkey hne hlt
    have hblocked := fifoBlocked_iff.mpr ⟨hne, r, hr, hplugin, hkey, hlt, by rw [hrrun]; rfl⟩
    rw [h.running b hb hbrun] at hblocked
    cases hblocked
  have hge := hblocks r hr b hb hrrun hbrun hplugin hkey hne
  have hle := hblocks b hb r hr hbrun hrrun hplugin.symm hkey.symm (hkey ▸ hne)
  refine t.eq_of_key hr hb (h.untied r hr b hb ⟨hkey ▸ hne, hplugin.symm, hkey.symm, ?_, ?_, ?_⟩)
  · exact le_antisymm (not_lt.mp hge) (not_lt.mp hle)
  · rw [hrrun]
    rfl
  · rw [hbrun]
    rfl

variable {ι : Type} {q q' : Outbox ι} {a : Action ι} {s' : OutboxStore ι}

lemma FifoInv.chosen_claim (h : FifoInv q) {i : ι} {x x' : ClaimTxn} (hx : q.store.session i = some x)
    (hmove : ClaimMove q.store i x x') (hm : x'.data.phase.chosen = some m) :
    fifoBlocked (q.store.table.rows.map (x'.view Delivery.key)) m = false := by
  cases hmove with
  | advance p hp =>
    rcases hp.chosen hm with hchosen | ⟨-, hfree⟩
    · exact h.sessions i x m hx hchosen
    · exact hfree
  | lock n page hphase _ => exact h.sessions i x m hx (by rw [hphase]; exact hm)
  | reject => cases hm
  | claim n page r owner leaseExpires now hphase hr hid hpend =>
    have hold := h.sessions i x m hx (by rw [hphase]; exact hm)
    refine fifoBlocked_of_rows hold fun w hw hactive => Or.inl ?_
    obtain ⟨r', hr', rfl⟩ := List.mem_map.mp hw
    have hwrites : (⟨x.slots, (claimDelivery n owner leaseExpires now).set (x.view Delivery.key r) :: x.writes, x.data.args,
        .done (some n)⟩ : ClaimTxn).writes = (claimDelivery n owner leaseExpires now).set (x.view Delivery.key r) :: x.writes := rfl
    rcases Txn.view_write hr hr' hwrites with ⟨rfl, hview⟩ | ⟨-, hview⟩
    · refine ⟨_, List.mem_map_of_mem hr, ?_, by rw [hpend]; rfl⟩
      rw [hview]
      rfl
    · rw [hview] at hactive ⊢
      exact ⟨_, List.mem_map_of_mem hr', rfl, hactive⟩

variable [Fintype ι] [DecidableEq ι]

section

variable (h : FifoInv q) (ha : JoinsBehind q a)
include h ha

lemma FifoInv.active_move (hm : StoreMove q a s')
    (hr' : r' ∈ s'.table.rows) (hactive : r'.state.isActive = true) :
    (∃ r ∈ q.store.table.rows, r'.toOrigin = r.toOrigin ∧ r.state.isActive = true) ∨ (Joins q r' ∧ a.joining = some r'.id) := by
  rcases row_move hm hr' with ⟨r, hr, hmove⟩ | ⟨eventId, pluginId, orderingKey, now, rfl, rfl⟩
  · rcases hmove.active h.base hr hactive with hold | ⟨now, rfl, hdead, rfl⟩
    · exact Or.inl ⟨r, hr, hmove.origin h.base hr, hold⟩
    · exact Or.inr ⟨ha r hr rfl hdead, rfl⟩
  · exact Or.inr ⟨ha, rfl⟩

lemma FifoInv.fifoBlocked_move (hm : StoreMove q a s')
    (hold : fifoBlocked q.store.table.rows m = false) (hjoin : ∀ r, Joins q r → a.joining = some r.id → fifoBlocked [r] m = false) :
    fifoBlocked s'.table.rows m = false :=
  fifoBlocked_of_rows hold fun r' hr' hactive => (h.active_move ha hm hr' hactive).imp id fun hr => hjoin r' hr.1 hr.2

lemma FifoInv.fifoBlocked_session (hm : StoreMove q a s') {i : ι} {x : ClaimTxn} (hx : q.store.session i = some x) (hx' : s'.session i = some x) (hchosen : x.data.phase.chosen = some m) :
    fifoBlocked (s'.table.rows.map (x.view Delivery.key)) m = false := by
  refine fifoBlocked_of_rows (h.sessions i x m hx hchosen) fun w hw hactive => ?_
  obtain ⟨r', hr', rfl⟩ := List.mem_map.mp hw
  rcases h.base.view_move hm hx hx' hr' with hmem | ⟨hview, hsame⟩
  · exact Or.inl ⟨_, List.mem_map_of_mem hmem, rfl, hactive⟩
  · rw [hview] at hactive ⊢
    rcases h.active_move ha hm hr' hactive with ⟨r, hr, horigin, hold⟩ | ⟨hjoin, -⟩
    · refine Or.inl ⟨_, List.mem_map_of_mem hr, ?_, ?_⟩
      · rwa [hsame r hr horigin.symm]
      · rwa [hsame r hr horigin.symm]
    · exact Or.inr (hjoin.picked m (Or.inl ⟨i, x, hx, hchosen⟩))

lemma FifoInv.untied_move (hm : StoreMove q a s')
    (hr' : r' ∈ s'.table.rows) (hb' : b' ∈ s'.table.rows) (htied : Tied r' b') : r'.id = b'.id := by
  obtain ⟨-, -, -, -, hractive, hbactive⟩ := id htied
  rcases h.active_move ha hm hr' hractive with ⟨r, hr, hro, hract⟩ | ⟨hrjoin, hra⟩ <;>
    rcases h.active_move ha hm hb' hbactive with ⟨b, hb, hbo, hbact⟩ | ⟨hbjoin, hba⟩
  · have hid := h.inOrder.untied r hr b hb (tied_of_origin hro hbo hract hbact htied)
    exact (congrArg Origin.id hro).trans (hid.trans (congrArg Origin.id hbo).symm)
  · have hid := hbjoin.untied r hr (tied_of_origin rfl hro hbactive hract htied.symm)
    exact (congrArg Origin.id hro).trans hid
  · have hid := hrjoin.untied b hb (tied_of_origin rfl hbo hractive hbact htied)
    exact hid.symm.trans (congrArg Origin.id hbo).symm
  · exact mem_unique hra hba

lemma FifoInv.running_step (hs : step q a = some q')
    (hb' : b' ∈ q'.store.table.rows) (hrun : b'.state = .running) : fifoBlocked q'.store.table.rows b' = false := by
  have hm := step_move hs
  rcases row_move hm hb' with ⟨b, hb, hmove⟩ | ⟨_, _, _, _, -, rfl⟩
  · have horigin := hmove.origin h.base hb
    rcases hmove.running h.base hb hrun with hold | ⟨-, ⟨i, x, m, rfl, hx, hclaimed, hid⟩ | ⟨n, c, now, d, m, page, rfl, hd, hphase, hid⟩⟩
    · rw [fifoBlocked_origin horigin]
      exact h.fifoBlocked_move ha hm (h.inOrder.running b hb hold) fun r hjoin _ => hjoin.running b hb hold
    · -- the committed rows are those that the claim has checked
      have hchosen := ClaimPhase.chosen_of_slotted (ClaimPhase.slotted_of_counted (ClaimPhase.counted_of_claimed hclaimed))
      have hlisted := h.base.sessions i x hx m (ClaimPhase.mem_candidates_of_chosen hchosen)
      obtain ⟨y, _, store, hy, -, hcommit, rfl⟩ := commitStep_eq_some hs
      rw [Store.commit, hx] at hcommit
      cases hcommit
      rw [fifoBlocked_origin (horigin.trans (hlisted.origin hb hid.symm))]
      exact h.sessions i x m hx hchosen
    · have hlisted := h.base.hosts n d hd m (by rw [hphase]; exact mem_cons_self)
      rw [fifoBlocked_origin (horigin.trans (hlisted.origin hb hid.symm))]
      exact h.fifoBlocked_move ha hm (h.hosts n d m page hd hphase) fun r hjoin _ => hjoin.picked m (Or.inr ⟨n, d, page, hd, hphase⟩)
  · cases hrun

lemma FifoInv.step (hs : step q a = some q') : FifoInv q' := by
  have hm := step_move hs
  refine ⟨h.base.step hs, ⟨fun r hr b hb => h.untied_move ha hm hr hb, fun b hb => h.running_step ha hs hb⟩,
    fun i x' m hx' hchosen => ?_, fun n d' m page hd' hphase => ?_⟩
  · rcases session_move hm hx' with hx | ⟨args, left, -, rfl⟩ | ⟨x, b, -, hx, hmove, htable⟩
    · exact h.fifoBlocked_session ha hm hx hx' hchosen
    · cases hchosen
    · rw [htable]
      exact h.chosen_claim hx hmove hchosen
  · have hkeep : ∀ d, q.hosts n = some d → d.phase = .passed m page → fifoBlocked q'.store.table.rows m = false := fun d hd hp =>
      h.fifoBlocked_move ha hm (h.hosts n d m page hd hp) fun r hjoin _ => hjoin.picked m (Or.inr ⟨n, d, page, hd, hp⟩)
    cases step_hosts hs hd' with
    | same _ hd => exact hkeep d' hd hphase
    | opened => cases hphase
    | advance d p b now haction hd hp =>
      subst haction
      exact h.fifoBlocked_move ha hm (hp.passed hphase) fun _ _ hjoining => by cases hjoining
    | done => cases hphase

end

theorem one_per_key_of_joinsBehind (table : DeliveryTable) (htable : InOrder table) (as : List (Action ι))
    (has : EveryStep step JoinsBehind (Outbox.initial table) as) (hrun : run step (Outbox.initial table) as = some q) :
    OnePerKey q.store.table := by
  have hinit : FifoInv (Outbox.initial table : Outbox ι) :=
    { base := Base.initial table
      inOrder := htable
      sessions := fun _ _ _ hx => absurd hx (some_ne_none _).symm
      hosts := fun _ _ _ _ hd => absurd hd (some_ne_none _).symm }
  exact (run_of_everyStep (fun _ _ _ h ha hs => FifoInv.step h ha hs) hinit has hrun).inOrder.onePerKey

def firstOfKey : DeliveryTable :=
  ⟨[newDelivery (utf8 "e") (utf8 "p") (utf8 "k") 1], List.nodup_singleton _⟩

def claimedInTurn : List (Action (Fin 1)) :=
  .dispatch (utf8 "f") (utf8 "p") (utf8 "k") 2 :: claimFirst soleSession ⟨utf8 "a", 60, [utf8 "p"], 2, true, 3⟩

theorem one_per_key_claimed_in_turn :
    ∃ q, run step (Outbox.initial firstOfKey) claimedInTurn = some q ∧ q.log = [.claimed (utf8 "e:p")] ∧
      OnePerKey q.store.table := by
  have hlog : (run step (Outbox.initial firstOfKey) claimedInTurn).map Outbox.log = some [.claimed (utf8 "e:p")] := by
    decide +kernel
  obtain ⟨q, hrun, hlog⟩ := map_eq_some_iff.mp hlog
  have hrow : ∀ r ∈ firstOfKey.rows, r = newDelivery (utf8 "e") (utf8 "p") (utf8 "k") 1 := fun r hr => mem_singleton.mp hr
  have htable : InOrder firstOfKey := by
    refine ⟨fun r hr b hb _ => by rw [hrow r hr, hrow b hb], fun b hb hrunning => ?_⟩
    rw [hrow b hb] at hrunning
    cases hrunning
  have hjoins : Joins (Outbox.initial firstOfKey : Outbox (Fin 1)) (newDelivery (utf8 "f") (utf8 "p") (utf8 "k") 2) := by
    refine ⟨fun b hb htied => ?_, fun b hb hrunning => ?_, fun m hm => ?_⟩
    · have hat : b.createdAt = 2 := htied.2.2.2.1
      rw [hrow b hb] at hat
      cases hat
    · rw [hrow b hb] at hrunning
      cases hrunning
    · rcases hm with ⟨i, x, hx, -⟩ | ⟨n, d, page, hd, -⟩
      · exact absurd hx (some_ne_none _).symm
      · exact absurd hd (some_ne_none _).symm
  have hclaim : ∀ a ∈ claimFirst soleSession ⟨utf8 "a", 60, [utf8 "p"], 2, true, 3⟩, ∀ s : Outbox (Fin 1), JoinsBehind s a := by
    intro a ha s
    simp only [claimFirst, mem_append, mem_cons, mem_replicate, not_mem_nil, or_false] at ha
    rcases ha with (rfl | ⟨-, rfl⟩) | rfl <;> trivial
  exact ⟨q, hrun, hlog, one_per_key_of_joinsBehind firstOfKey htable claimedInTurn
    ⟨hjoins, fun s _ => everyStep_of_forall hclaim s⟩ hrun⟩

def claimedAtOnce : List (Action (Fin 1)) :=
  .dispatch (utf8 "e") (utf8 "p") (utf8 "k") 1 :: .dispatch (utf8 "f") (utf8 "p") (utf8 "k") 1 ::
    (claimFirst soleSession ⟨utf8 "a", 60, [utf8 "p"], 2, true, 2⟩ ++ claimFirst soleSession ⟨utf8 "b", 60, [utf8 "p"], 2, true, 3⟩)

def claimedAfterReturn : List (Action (Fin 1)) :=
  .dispatch (utf8 "e") (utf8 "p") (utf8 "k") 1 :: .dispatch (utf8 "f") (utf8 "p") (utf8 "k") 2 ::
    (claimFirst soleSession ⟨utf8 "a", 60, [utf8 "p"], 2, true, 3⟩ ++
      .call (.deadLetter ⟨utf8 "e:p", utf8 "a", 1⟩ (utf8 "poison")) 4 ::
      (claimFirst soleSession ⟨utf8 "b", 60, [utf8 "p"], 2, true, 5⟩ ++
        .retryDeadLetter (utf8 "e:p") 6 :: claimFirst soleSession ⟨utf8 "a", 60, [utf8 "p"], 2, true, 7⟩))

theorem two_of_one_key :
    (∃ q, run step (Outbox.initial ⟨[], List.nodup_nil⟩) claimedAtOnce = some q ∧ ¬ OnePerKey q.store.table) ∧
      ∃ q, run step (Outbox.initial ⟨[], List.nodup_nil⟩) claimedAfterReturn = some q ∧ ¬ OnePerKey q.store.table := by
  have hexists : ∀ as : List (Action (Fin 1)),
      (run step (Outbox.initial ⟨[], nodup_nil⟩) as).any (fun q => !decide (OnePerKey q.store.table)) = true →
      ∃ q, run step (Outbox.initial ⟨[], nodup_nil⟩) as = some q ∧ ¬ OnePerKey q.store.table := by
    intro as h
    obtain ⟨q, hrun, hq⟩ := (Option.any_eq_true ..).mp h
    exact ⟨q, hrun, by simpa using hq⟩
  exact ⟨hexists claimedAtOnce (by decide +kernel), hexists claimedAfterReturn (by decide +kernel)⟩

end Bookclerk.Events
