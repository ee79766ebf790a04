import Bookclerk.Events.RowMoves

namespace Bookclerk.Events

open Lexical Db Jobs Bookclerk.System List Option

def barred (id : Text) : List Event → Bool
  | [] => false
  | .cancelled i :: log => i = id || barred id log
  | .requeued i :: log => i ≠ id && barred id log
  | .claimed _ :: log => barred id log

def CancelKept (log : List Event) : Prop :=
  ∀ newer id older, log = newer ++ .claimed id :: older → barred id older = false

def Delivery.Unclaimable (r : Delivery) : Prop :=
  r.state.isActive = true → r.cancelRequested = true

instance (r : Delivery) : Decidable r.Unclaimable :=
  inferInstanceAs (Decidable (_ → _))

/-- A claim takes no row that carries the flag, and a cancellation that gives up leaves nothing to claim. -/
def HonoursFlag {ι : Type} (q : Outbox ι) : Action ι → Prop
  | .commit i => ∀ m ∈ (q.store.session i).bind fun x => x.data.phase.claimed,
      ∀ r ∈ q.store.table.rows, r.id = m.id → r.cancelRequested = false
  | .host n _ _ => ∀ m ∈ (q.hosts n).bind fun d => d.phase.chosen,
      ∀ r ∈ q.store.table.rows, r.id = m.id → r.state = .pending → r.cancelRequested = false
  | .cancel j _ => ∀ c ∈ q.cancels j, c.phase = .round 0 → ∀ r ∈ q.store.table.rows, r.id = c.id → r.Unclaimable
  | _ => True

instance {ι : Type} (q : Outbox ι) : (a : Action ι) → Decidable (HonoursFlag q a)
  | .commit i => by unfold HonoursFlag; infer_instance
  | .host n _ _ => by unfold HonoursFlag; infer_instance
  | .cancel j _ => by unfold HonoursFlag; infer_instance
  | .call .. | .dispatch .. | .retryDeadLetter .. | .openClaim .. | .claim .. | .rollback .. | .openHost .. | .dropHost .. | .openCancel .. =>
    .isTrue trivial

structure CancelInv {ι : Type} (q : Outbox ι) : Prop where
  base : Base q
  kept : CancelKept q.log
  barred : ∀ id, Events.barred id q.log = true → ∃ r ∈ q.store.table.rows, r.id = id ∧ r.Unclaimable

lemma CancelKept.cons {e : Event} {log : List Event} (h : CancelKept log) (he : ∀ id, e = .claimed id → barred id log = false) :
    CancelKept (e :: log) := by
  intro newer id older hlog
  cases newer with
  | nil =>
    obtain ⟨rfl, rfl⟩ := List.cons.inj hlog
    exact he id rfl
  | cons _ newer => exact h newer id older (List.cons.inj hlog).2

lemma unclaimable_of_not_active {r : Delivery} (h : r.state.isActive = false) : r.Unclaimable := by
  intro hactive
  rw [h] at hactive
  cases hactive

variable {ι : Type} {q q' : Outbox ι} {a : Action ι} {s' : OutboxStore ι}

lemma RowMove.unclaimable {r r' : Delivery} (hmove : RowMove q a r r') (h : Base q) (ha : HonoursFlag q a)
    (hr : r ∈ q.store.table.rows) (hun : r.Unclaimable) :
    r'.Unclaimable ∨ (r.state = .deadLetter ∧ ∃ now, a = .retryDeadLetter r.id now) := by
  cases hmove with
  | same => exact Or.inl hun
  | exec stmt hord r happ =>
    exact Or.inl fun hactive => hord.flag r happ (hun (hord.revives r happ hactive)) hactive
  | revive r hdead => exact Or.inr ⟨hdead, _, rfl⟩
  | @commit i x hx =>
    have hstate := (h.seen i x hx r hr).state
    split_ifs at hstate with hclaimed
    · obtain ⟨m, hm, hid⟩ := (Option.any_eq_true ..).mp hclaimed
      have hflag := hun (by rw [hstate.1]; rfl)
      rw [ha m (by simp [hx, hm]) r hr (of_decide_eq_true hid).symm] at hflag
      cases hflag
    · rcases hstate with heq | ⟨-, hrej⟩
      · rw [heq]
        exact Or.inl hun
      · exact Or.inl (unclaimable_of_not_active (by rw [hrej]; rfl))
  | cas d m page hd hphase r hid happ =>
    have hpend := hostStmt_pending happ
    have hflag := hun (by rw [hpend]; rfl)
    rw [ha m (by simp [hd, hphase, ClaimPhase.chosen]) r hr hid hpend] at hflag
    cases hflag

variable [Fintype ι] [DecidableEq ι]

inductive LogMove (q : Outbox ι) (a : Action ι) (q' : Outbox ι) : Prop where
  | same (log : q'.log = q.log) (live : ∀ r ∈ q.store.table.rows, ∀ now, a = .retryDeadLetter r.id now → r.state ≠ .deadLetter)
  | claimed (r : Delivery) (hr : r ∈ q.store.table.rows) (pending : r.state = .pending) (unflagged : r.cancelRequested = false)
      (log : q'.log = .claimed r.id :: q.log) (action : ∀ id now, a ≠ .retryDeadLetter id now)
  | cancelled (r : Delivery) (hr : r ∈ q'.store.table.rows) (unclaimable : r.Unclaimable)
      (log : q'.log = .cancelled r.id :: q.log) (action : ∀ id now, a ≠ .retryDeadLetter id now)
  | requeued (id : Text) (now : Stamp) (action : a = .retryDeadLetter id now) (log : q'.log = .requeued id :: q.log)

omit [Fintype ι] [DecidableEq ι] in
lemma LogMove.of_log (hlog : q'.log = q.log) (haction : ∀ id now, a ≠ .retryDeadLetter id now) : LogMove q a q' :=
  .same hlog fun r _ now heq => absurd heq (haction r.id now)

omit [Fintype ι] in
lemma commit_log (h : Base q) {i : ι} (ha : HonoursFlag q (.commit i)) (hs : commitStep q i = some q') : LogMove q (.commit i) q' := by
  obtain ⟨x, claimed, store, hx, hphase, -, rfl⟩ := commitStep_eq_some hs
  cases claimed with
  | none => exact .of_log rfl nofun
  | some m =>
    have hclaimed : x.data.phase.claimed = some m := by rw [hphase]; rfl
    obtain ⟨-, r, hr, horigin⟩ := h.sessions i x hx m (by rw [hphase]; exact mem_singleton_self m)
    have hid : r.id = m.id := congrArg Origin.id horigin
    have hstate := (h.seen i x hx r hr).state
    rw [if_pos (by simp [hclaimed, hid])] at hstate
    exact .claimed r hr hstate.1 (ha m (by simp [hx, hclaimed]) r hr hid) (by rw [hid]; rfl) nofun

lemma host_log {n : Nat} {b : Bool} {now : Stamp} (ha : HonoursFlag q (.host n b now)) (hs : hostStep q n b now = some q') :
    LogMove q (.host n b now) q' := by
  obtain ⟨d, hd, hcase⟩ := hostStep_cases hs
  cases hcase with
  | advance p _ _ _ _ hlog => exact .of_log hlog nofun
  | cas m page hphase _ _ _ hlog =>
    by_cases hmatched : q.store.matched (hostStmt q.store.table.rows d.args m now).toStmt = true
    · obtain ⟨r, hfind, happ⟩ := (Option.any_eq_true ..).mp hmatched
      obtain ⟨hr, hid⟩ := Table.find_eq_some.mp hfind
      have hid : r.id = m.id := hid
      have hpend := hostStmt_pending happ
      refine .claimed r hr hpend (ha m (by simp [hd, hphase, ClaimPhase.chosen]) r hr hid hpend) ?_ nofun
      rw [hid, hlog, if_pos hmatched]
    · exact .of_log (hlog.trans (if_neg hmatched)) nofun

lemma cancelStmt_spec (id : Text) (m r : Delivery) (now : Stamp) :
    (cancelStmt id m now).target = id ∧ ((cancelStmt id m now).set r).Unclaimable := by
  rw [cancelStmt]
  split_ifs
  · exact ⟨rfl, unclaimable_of_not_active rfl⟩
  · exact ⟨rfl, fun _ => rfl⟩

lemma cancel_log {j : Nat} {now : Stamp} (ha : HonoursFlag q (.cancel j now)) (hs : cancelStep q j now = some q') :
    LogMove q (.cancel j now) q' := by
  obtain ⟨c, hc, hs⟩ := bind_eq_some_iff.mp hs
  cases hphase : c.phase with
  | round n =>
    cases hfind : q.store.table.find c.id with
    | none =>
      cases n <;> simp only [hphase, hfind] at hs <;> cases hs <;>
        exact .of_log rfl (by simp)
    | some r =>
      obtain ⟨hr, hid⟩ := Table.find_eq_some.mp hfind
      have hid : r.id = c.id := hid
      cases n with
      | zero =>
        simp only [hphase, hfind, isSome_some, if_true] at hs
        cases hs
        exact .cancelled r hr (ha c hc hphase r hr hid) (by rw [hid]) (by simp)
      | succ n =>
        simp only [hphase, hfind] at hs
        split_ifs at hs with hactive
        · cases hs
          exact .of_log rfl (by simp)
        · cases hs
          exact .cancelled r hr (unclaimable_of_not_active (by simpa using hactive)) (by rw [hid]) (by simp)
  | update n m =>
    simp only [hphase] at hs
    obtain ⟨store, hexec, hs⟩ := bind_eq_some_iff.mp hs
    split_ifs at hs with hmatched
    · cases hs
      obtain ⟨-, rfl⟩ := Store.exec_eq_some.mp hexec
      obtain ⟨r, hfind, happ⟩ := (Option.any_eq_true ..).mp hmatched
      obtain ⟨hr, hid⟩ := Table.find_eq_some.mp hfind
      have hrow : (cancelStmt c.id m now).toStmt.row r = (cancelStmt c.id m now).set r := if_pos ⟨hid, happ⟩
      obtain ⟨htarget, hun⟩ := cancelStmt_spec c.id m r now
      have hkey : ((cancelStmt c.id m now).set r).id = c.id := ((cancelStmt c.id m now).key_set r).trans (hid.trans htarget)
      refine .cancelled _ ((Table.mem_modify (Stmt.key_row _)).mpr ⟨r, hr, hrow⟩) hun ?_ (by simp)
      rw [hkey]
    · cases hs
      exact .of_log rfl (by simp)

lemma step_log (h : Base q) (ha : HonoursFlag q a) (hs : step q a = some q') : LogMove q a q' := by
  cases a with
  | call c now =>
    rw [step] at hs
    split at hs
    · obtain ⟨store, -, rfl⟩ := map_eq_some_iff.mp hs
      exact .of_log rfl (by simp)
    · cases hs
      exact .of_log rfl (by simp)
  | retryDeadLetter id now =>
    obtain ⟨store, -, hs⟩ := bind_eq_some_iff.mp hs
    cases hs
    by_cases hmatched : q.store.matched (retryDeadLetterDelivery id now).toStmt = true
    · exact .requeued id now rfl (if_pos hmatched)
    · refine .same (if_neg hmatched) fun r hr now' haction hdead => hmatched ?_
      cases haction
      have hfind : q.store.table.find r.id = some r := Table.find_eq_some.mpr ⟨hr, rfl⟩
      exact (Option.any_eq_true ..).mpr ⟨r, hfind, decide_eq_true hdead⟩
  | dispatch | openClaim | claim | rollback =>
    obtain ⟨store, -, rfl⟩ := map_eq_some_iff.mp hs
    exact .of_log rfl (by simp)
  | commit i => exact commit_log h ha hs
  | openHost | openCancel =>
    rw [step] at hs
    split_ifs at hs
    cases hs
    exact .of_log rfl (by simp)
  | host n b now => exact host_log ha hs
  | dropHost =>
    cases hs
    exact .of_log rfl (by simp)
  | cancel j now => exact cancel_log ha hs

section

variable (h : CancelInv q) (ha : HonoursFlag q a) (hs : step q a = some q')
include h ha hs

lemma CancelInv.unclaimable_step {id : Text}
    (hbarred : Events.barred id q.log = true)
    (hlive : ∀ r ∈ q.store.table.rows, r.id = id → ∀ now, a = .retryDeadLetter r.id now → r.state ≠ .deadLetter) :
    ∃ r ∈ q'.store.table.rows, r.id = id ∧ r.Unclaimable := by
  obtain ⟨r, hr, hid, hun⟩ := h.barred id hbarred
  obtain ⟨r', hr', hmove⟩ := row_kept (step_move hs) hr
  refine ⟨r', hr', (congrArg Origin.id (hmove.origin h.base hr)).trans hid, ?_⟩
  rcases hmove.unclaimable h.base ha hr hun with hun' | ⟨hdead, now, haction⟩
  · exact hun'
  · exact absurd hdead (hlive r hr hid now haction)

lemma CancelInv.step : CancelInv q' := by
  have hbase := h.base.step hs
  cases step_log h.base ha hs with
  | same hlog hlive =>
    refine ⟨hbase, hlog ▸ h.kept, fun id hbarred => ?_⟩
    rw [hlog] at hbarred
    exact h.unclaimable_step ha hs hbarred fun r hr _ => hlive r hr
  | claimed r hr hpend hflag hlog haction =>
    have hkept : ∀ id, Event.claimed r.id = .claimed id → Events.barred id q.log = false := by
      by_contra hbarred
      obtain ⟨b, hb, hid, hun⟩ := h.barred r.id (by simpa using hbarred)
      obtain rfl := q.store.table.eq_of_key hb hr hid
      rw [hun (by rw [hpend]; rfl)] at hflag
      cases hflag
    refine ⟨hbase, hlog ▸ h.kept.cons hkept, fun id hbarred => ?_⟩
    rw [hlog] at hbarred
    exact h.unclaimable_step ha hs hbarred fun b _ _ now heq => absurd heq (haction b.id now)
  | cancelled r hr hun hlog haction =>
    refine ⟨hbase, hlog ▸ h.kept.cons nofun, fun id hbarred => ?_⟩
    rw [hlog, Events.barred, Bool.or_eq_true, decide_eq_true_eq] at hbarred
    rcases hbarred with rfl | hbarred
    · exact ⟨r, hr, rfl, hun⟩
    · exact h.unclaimable_step ha hs hbarred fun b _ _ now heq => absurd heq (haction b.id now)
  | requeued id now haction hlog =>
    refine ⟨hbase, hlog ▸ h.kept.cons nofun, fun other hbarred => ?_⟩
    rw [hlog, Events.barred, Bool.and_eq_true, decide_eq_true_eq] at hbarred
    refine h.unclaimable_step ha hs hbarred.2 fun r _ hid now' heq => absurd ?_ hbarred.1
    cases haction.symm.trans heq
    exact hid

end

theorem cancel_kept_of_honoursFlag (table : DeliveryTable) (as : List (Action ι))
    (has : EveryStep step HonoursFlag (Outbox.initial table) as) (hrun : run step (Outbox.initial table) as = some q) :
    CancelKept q.log := by
  have hinit : CancelInv (Outbox.initial table : Outbox ι) :=
    { base := Base.initial table
      kept := fun newer id older hlog => absurd hlog (by simp [Outbox.initial])
      barred := fun id hbarred => absurd hbarred (by simp [Outbox.initial, Events.barred]) }
  exact (run_of_everyStep (fun _ _ _ h ha hs => CancelInv.step h ha hs) hinit has hrun).kept

def cancelledRunning : List (Action (Fin 1)) :=
  .dispatch (utf8 "e") (utf8 "p") [] 1 ::
    (claimFirst soleSession ⟨utf8 "a", 60, [utf8 "p"], 1, true, 2⟩ ++ [.openCancel 0 (utf8 "e:p"), .cancel 0 3, .cancel 0 3])

def cancelledRejected : List (Action (Fin 1)) :=
  cancelledRunning ++ [.call (.reject ⟨utf8 "e:p", utf8 "a", 1⟩ (utf8 "cancelled")) 4,
    .openClaim soleSession ⟨utf8 "b", 60, [utf8 "p"], 1, true, 5⟩, .claim soleSession true, .claim soleSession true, .commit soleSession]

theorem cancel_kept_rejected :
    ∃ q, run step (Outbox.initial ⟨[], List.nodup_nil⟩) cancelledRejected = some q ∧
      q.log = [.cancelled (utf8 "e:p"), .claimed (utf8 "e:p")] ∧ CancelKept q.log := by
  have hlog : (run step (Outbox.initial ⟨[], nodup_nil⟩) cancelledRejected).map Outbox.log =
      some [.cancelled (utf8 "e:p"), .claimed (utf8 "e:p")] := by decide +kernel
  obtain ⟨q, hrun, hlog⟩ := map_eq_some_iff.mp hlog
  exact ⟨q, hrun, hlog, cancel_kept_of_honoursFlag ⟨[], nodup_nil⟩ cancelledRejected (by decide +kernel) hrun⟩

def cancelledReleased : List (Action (Fin 1)) :=
  cancelledRunning ++ .call (.release ⟨utf8 "e:p", utf8 "a", 1⟩ false) 4 :: claimFirst soleSession ⟨utf8 "b", 60, [utf8 "p"], 1, true, 5⟩

theorem cancel_lost_released :
    ∃ q, run step (Outbox.initial ⟨[], List.nodup_nil⟩) cancelledReleased = some q ∧ ¬ CancelKept q.log := by
  have hlog : (run step (Outbox.initial ⟨[], nodup_nil⟩) cancelledReleased).map Outbox.log =
      some [.claimed (utf8 "e:p"), .cancelled (utf8 "e:p"), .claimed (utf8 "e:p")] := by decide +kernel
  obtain ⟨q, hrun, hlog⟩ := map_eq_some_iff.mp hlog
  refine ⟨q, hrun, fun hkept => ?_⟩
  have hbarred := hkept [] (utf8 "e:p") _ hlog
  exact absurd hbarred (by decide)

end Bookclerk.Events
