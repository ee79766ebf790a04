import Bookclerk.Events.Base

namespace Bookclerk.Events

open Lexical Db Jobs Bookclerk.System List Option

variable {x : ClaimTxn} {r r' : Delivery}

variable {ι : Type} {q q' : Outbox ι} {a : Action ι} {s' : OutboxStore ι}

lemma Base.active_of_view (h : Base q) {i : ι} (hx : q.store.session i = some x)
    (hr : r ∈ q.store.table.rows) (hactive : (x.view Delivery.key r).state.isActive = true) : r.state.isActive = true := by
  have hstate := (h.seen i x hx r hr).state
  split_ifs at hstate
  · rw [hstate.1]
    rfl
  · rcases hstate with heq | ⟨hpend, -⟩
    · rwa [heq] at hactive
    · rw [hpend]
      rfl

variable [Fintype ι] [DecidableEq ι]

inductive RowMove (q : Outbox ι) : Action ι → Delivery → Delivery → Prop where
  | same {a : Action ι} (r : Delivery) : RowMove q a r r
  | exec {a : Action ι} (stmt : DeliveryStmt) (ordinary : Ordinary stmt) (r : Delivery) (applies : stmt.applies r = true) :
      RowMove q a r (stmt.set r)
  | revive {now : Stamp} (r : Delivery) (dead : r.state = .deadLetter) :
      RowMove q (.retryDeadLetter r.id now) r ((retryDeadLetterDelivery r.id now).set r)
  | commit {i : ι} (x : ClaimTxn) (hx : q.store.session i = some x) (r : Delivery) :
      RowMove q (.commit i) r (x.view Delivery.key r)
  | cas {h : Nat} {b : Bool} {now : Stamp} (d : Claim) (m : Delivery) (page : Page) (host : q.hosts h = some d)
      (phase : d.phase = .passed m page) (r : Delivery) (id : r.id = m.id)
      (applies : (hostStmt q.store.table.rows d.args m now).applies r = true) :
      RowMove q (.host h b now) r ((hostStmt q.store.table.rows d.args m now).set r)

lemma hostStmt_pending {rows : List Delivery} {args : ClaimArgs} {m : Delivery} {now : Stamp}
    (h : (hostStmt rows args m now).applies r = true) : r.state = .pending := by
  simp only [hostStmt, casDelivery, updateWhere, Bool.and_eq_true, decide_eq_true_eq] at h
  exact h.1

lemma row_move (hm : StoreMove q a s') (hr' : r' ∈ s'.table.rows) :
    (∃ r ∈ q.store.table.rows, RowMove q a r r') ∨
      ∃ eventId pluginId orderingKey now, a = .dispatch eventId pluginId orderingKey now ∧
        r' = newDelivery eventId pluginId orderingKey now := by
  have hexec : ∀ (stmt : DeliveryStmt), q.store.exec stmt.toStmt = some s' →
      ∃ r ∈ q.store.table.rows, r' = r ∨ (r.id = stmt.target ∧ stmt.applies r = true ∧ r' = stmt.set r) := by
    intro stmt hs
    obtain ⟨-, rfl⟩ := Store.exec_eq_some.mp hs
    obtain ⟨r, hr, rfl⟩ := (Table.mem_modify stmt.key_row).mp hr'
    exact ⟨r, hr, stmt.toStmt.row_cases r⟩
  cases hm with
  | same | claim | rollback => exact Or.inl ⟨r', hr', .same r'⟩
  | exec stmt hord hs =>
    obtain ⟨r, hr, rfl | ⟨-, happ, rfl⟩⟩ := hexec stmt hs
    · exact Or.inl ⟨r', hr, .same r'⟩
    · exact Or.inl ⟨r, hr, .exec stmt hord r happ⟩
  | revive hs =>
    obtain ⟨r, hr, rfl | ⟨hid, happ, rfl⟩⟩ := hexec _ hs
    · exact Or.inl ⟨r', hr, .same r'⟩
    · obtain rfl := hid
      exact Or.inl ⟨r, hr, .revive r (by simpa [retryDeadLetterDelivery, updateWhere] using happ)⟩
  | cas d m page hd hphase _ hs =>
    obtain ⟨r, hr, rfl | ⟨hid, happ, rfl⟩⟩ := hexec _ hs
    · exact Or.inl ⟨r', hr, .same r'⟩
    · exact Or.inl ⟨r, hr, .cas d m page hd hphase r hid happ⟩
  | @insert eventId pluginId orderingKey now _ hs =>
    rw [Store.insert] at hs
    split_ifs at hs
    cases hs
    rcases mem_cons.mp hr' with rfl | hr'
    · exact Or.inr ⟨eventId, pluginId, orderingKey, now, rfl, rfl⟩
    · exact Or.inl ⟨r', hr', .same r'⟩
  | start left hs =>
    rw [Store.start] at hs
    split_ifs at hs
    cases hs
    exact Or.inl ⟨r', hr', .same r'⟩
  | commit hs =>
    obtain ⟨x, hx, hs⟩ := bind_eq_some_iff.mp hs
    cases hs
    obtain ⟨r, hr, rfl⟩ := (Table.mem_modify x.key_view).mp hr'
    exact Or.inl ⟨r, hr, .commit x hx r⟩

lemma row_kept (hm : StoreMove q a s') (hr : r ∈ q.store.table.rows) : ∃ r' ∈ s'.table.rows, RowMove q a r r' := by
  have hexec : ∀ (stmt : DeliveryStmt), q.store.exec stmt.toStmt = some s' →
      (r.id = stmt.target → stmt.applies r = true → RowMove q a r (stmt.set r)) → ∃ r' ∈ s'.table.rows, RowMove q a r r' := by
    intro stmt hs hset
    obtain ⟨-, rfl⟩ := Store.exec_eq_some.mp hs
    refine ⟨stmt.toStmt.row r, (Table.mem_modify stmt.key_row).mpr ⟨r, hr, rfl⟩, ?_⟩
    rcases stmt.toStmt.row_cases r with hrow | ⟨hid, happ, hrow⟩
    · rw [hrow]
      exact .same r
    · rw [hrow]
      exact hset hid happ
  cases hm with
  | same | claim | rollback => exact ⟨r, hr, .same r⟩
  | exec stmt hord hs => exact hexec stmt hs fun _ happ => .exec stmt hord r happ
  | revive hs =>
    refine hexec _ hs fun hid happ => ?_
    obtain rfl := hid
    exact .revive r (of_decide_eq_true happ)
  | cas d m page hd hphase _ hs => exact hexec _ hs fun hid happ => .cas d m page hd hphase r hid happ
  | insert hs =>
    rw [Store.insert] at hs
    split_ifs at hs
    cases hs
    exact ⟨r, mem_cons_of_mem _ hr, .same r⟩
  | start left hs =>
    rw [Store.start] at hs
    split_ifs at hs
    cases hs
    exact ⟨r, hr, .same r⟩
  | commit hs =>
    obtain ⟨x, hx, hs⟩ := bind_eq_some_iff.mp hs
    cases hs
    exact ⟨_, (Table.mem_modify x.key_view).mpr ⟨r, hr, rfl⟩, .commit x hx r⟩

lemma Base.held_move (h : Base q) (hm : StoreMove q a s') {i : ι} (hx : q.store.session i = some x)
    (hx' : s'.session i = some x) (hr' : r' ∈ s'.table.rows) (hhold : x.holds Delivery.key r'.key = true) : r' ∈ q.store.table.rows := by
  have hexec : ∀ (stmt : DeliveryStmt), q.store.exec stmt.toStmt = some s' → r' ∈ q.store.table.rows := by
    intro stmt hs
    obtain ⟨hfree, rfl⟩ := Store.exec_eq_some.mp hs
    obtain ⟨r, hr, rfl⟩ := (Table.mem_modify stmt.key_row).mp hr'
    rcases stmt.toStmt.row_cases r with hrow | ⟨hkey, -, -⟩
    · rwa [hrow]
    · rw [stmt.key_row, hkey, hfree i x hx] at hhold
      cases hhold
  cases hm with
  | same | claim | rollback => exact hr'
  | exec stmt _ hs => exact hexec stmt hs
  | revive hs | cas d m page _ _ _ hs => exact hexec _ hs
  | insert hs =>
    rw [Store.insert] at hs
    split_ifs at hs with hfresh
    cases hs
    rcases mem_cons.mp hr' with rfl | hr'
    · obtain ⟨r, hr, hkey⟩ := h.isolated.grounded i x _ hx hhold
      exact absurd (hkey ▸ List.mem_map_of_mem hr) hfresh
    · exact hr'
  | start left hs =>
    rw [Store.start] at hs
    split_ifs at hs
    cases hs
    exact hr'
  | @commit j _ hs =>
    obtain ⟨y, hy, hs⟩ := bind_eq_some_iff.mp hs
    cases hs
    obtain ⟨r, hr, rfl⟩ := (Table.mem_modify y.key_view).mp hr'
    rcases Store.session_put_cases (show (q.store.put j none).session i = some x from hx') with ⟨-, hn⟩ | ⟨hi, -⟩
    · cases hn
    · rw [show (y.view Delivery.key r).key = r.key from y.key_view r] at hhold
      rwa [Txn.view_of_not_holds (h.isolated.not_holds hx hy hi.symm hhold)]

omit [Fintype ι] [DecidableEq ι] in
lemma RowMove.origin (hmove : RowMove q a r r') (h : Base q) (hr : r ∈ q.store.table.rows) : r'.toOrigin = r.toOrigin := by
  cases hmove with
  | same => rfl
  | exec stmt => exact stmt.origin_set r
  | revive => rfl
  | commit x hx => exact h.view_origin hx hr
  | cas => rfl

omit [Fintype ι] [DecidableEq ι] in
lemma RowMove.active (hmove : RowMove q a r r') (h : Base q) (hr : r ∈ q.store.table.rows)
    (hactive : r'.state.isActive = true) :
    r.state.isActive = true ∨ ∃ now, a = .retryDeadLetter r.id now ∧ r.state = .deadLetter ∧
      r' = (retryDeadLetterDelivery r.id now).set r := by
  cases hmove with
  | same => exact Or.inl hactive
  | exec stmt hord r happ => exact Or.inl (hord.revives r happ hactive)
  | revive r hdead => exact Or.inr ⟨_, rfl, hdead, rfl⟩
  | commit x hx => exact Or.inl (h.active_of_view hx hr hactive)
  | cas d m page _ _ r _ happ =>
    rw [hostStmt_pending happ]
    exact Or.inl rfl

omit [Fintype ι] [DecidableEq ι] in
lemma RowMove.running (hmove : RowMove q a r r') (h : Base q) (hr : r ∈ q.store.table.rows)
    (hrun : r'.state = .running) :
    r.state = .running ∨ (r.state = .pending ∧
      ((∃ i x m, a = .commit i ∧ q.store.session i = some x ∧ x.data.phase.claimed = some m ∧ m.id = r.id) ∨
        ∃ n b now d m page, a = .host n b now ∧ q.hosts n = some d ∧ d.phase = .passed m page ∧ m.id = r.id)) := by
  cases hmove with
  | same => exact Or.inl hrun
  | exec stmt hord r happ => exact Or.inl (hord.starts r happ hrun)
  | revive => cases hrun
  | @commit i x hx =>
    have hstate := (h.seen i x hx r hr).state
    split_ifs at hstate with hclaimed
    · obtain ⟨m, hm, hid⟩ := (Option.any_eq_true _ _).mp hclaimed
      exact Or.inr ⟨hstate.1, Or.inl ⟨i, x, m, rfl, hx, hm, of_decide_eq_true hid⟩⟩
    · rcases hstate with heq | ⟨-, hrej⟩
      · rw [heq] at hrun
        exact Or.inl hrun
      · rw [hrun] at hrej
        cases hrej
  | @cas n b now d m page hd hphase r hid happ =>
    exact Or.inr ⟨hostStmt_pending happ, Or.inr ⟨n, b, now, d, m, page, rfl, hd, hphase, hid.symm⟩⟩

lemma Base.view_move (h : Base q) (hm : StoreMove q a s') {i : ι} (hx : q.store.session i = some x)
    (hx' : s'.session i = some x) (hr' : r' ∈ s'.table.rows) :
    r' ∈ q.store.table.rows ∨ (x.view Delivery.key r' = r' ∧
      ∀ r ∈ q.store.table.rows, r.toOrigin = r'.toOrigin → x.view Delivery.key r = r) := by
  cases hhold : x.holds Delivery.key r'.key with
  | true => exact Or.inl (h.held_move hm hx hx' hr' hhold)
  | false =>
    refine Or.inr ⟨Txn.view_of_not_holds hhold, fun r _ horigin => Txn.view_of_not_holds ?_⟩
    rwa [show r.key = r'.key from congrArg Origin.id horigin]

def ClaimsDelivery (q : Outbox ι) (a : Action ι) (id : Text) : Prop :=
  (∃ i x m, a = .commit i ∧ q.store.session i = some x ∧ x.data.phase.claimed = some m ∧ m.id = id) ∨
    ∃ n b now d m page, a = .host n b now ∧ q.hosts n = some d ∧ d.phase = .passed m page ∧ m.id = id

structure MovesOn (q : Outbox ι) (a : Action ι) (r r' : Delivery) : Prop where
  origin : r'.toOrigin = r.toOrigin
  active : r'.state.isActive = true → r.state.isActive = true ∨ ∃ now, a = .retryDeadLetter r.id now ∧ r.state = .deadLetter
  running : r'.state = .running → r.state = .running ∨ r.state = .pending ∧ ClaimsDelivery q a r.id

def LifeCycle (q : Outbox ι) (a : Action ι) : Prop :=
  ∀ q', step q a = some q' →
    (∀ r ∈ q.store.table.rows, ∃ r' ∈ q'.store.table.rows, MovesOn q a r r') ∧
      ∀ r' ∈ q'.store.table.rows, (∃ r ∈ q.store.table.rows, MovesOn q a r r') ∨
        ∃ eventId pluginId orderingKey now, a = .dispatch eventId pluginId orderingKey now ∧
          r' = newDelivery eventId pluginId orderingKey now

omit [Fintype ι] [DecidableEq ι] in
lemma Base.movesOn {q : Outbox ι} {a : Action ι} {r r' : Delivery} (h : Base q) (hr : r ∈ q.store.table.rows)
    (hmove : RowMove q a r r') : MovesOn q a r r' where
  origin := hmove.origin h hr
  active hactive := by
    rcases hmove.active h hr hactive with hold | ⟨now, ha, hdead, -⟩
    · exact Or.inl hold
    · exact Or.inr ⟨now, ha, hdead⟩
  running := hmove.running h hr

theorem delivery_life_cycle (table : DeliveryTable) (as : List (Action ι)) :
    EveryStep step LifeCycle (Outbox.initial table : Outbox ι) as := by
  refine Stable.everyStep (fun q a q' h hs => Base.step h hs) (fun q a h q' hs => ⟨fun r hr => ?_, fun r' hr' => ?_⟩) (Base.initial table) as
  · obtain ⟨r', hr', hmove⟩ := row_kept (step_move hs) hr
    exact ⟨r', hr', h.movesOn hr hmove⟩
  · rcases row_move (step_move hs) hr' with ⟨r, hr, hmove⟩ | hnew
    · exact Or.inl ⟨r, hr, h.movesOn hr hmove⟩
    · exact Or.inr hnew

end Bookclerk.Events
