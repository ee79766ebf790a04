import Bookclerk.Events.RowMoves

namespace Bookclerk.Events

open Lexical Db Jobs Bookclerk.System List Option

def Delivery.Counted (r : Delivery) : Prop :=
  1 ≤ r.maxAttempts ∧ r.attemptCount ≤ r.maxAttempts

def Delivery.AttemptLeft (m : Delivery) : Prop :=
  m.resumePending = true ∨ m.attemptCount < m.maxAttempts

instance (m : Delivery) : Decidable m.AttemptLeft :=
  inferInstanceAs (Decidable (_ ∨ _))

/-- A claim counts a new attempt only of a delivery that has one left: a local claim as it read the
candidate, a claim of the atomic backend as it finds the row. -/
def TakesAttemptLeft {ι : Type} (q : Outbox ι) : Action ι → Prop
  | .commit i => ∀ m ∈ (q.store.session i).bind fun x => x.data.phase.claimed, m.AttemptLeft
  | .host h _ now => ∀ d ∈ q.hosts h, ∀ m ∈ d.phase.chosen, ∀ r ∈ q.store.table.rows, r.id = m.id →
      (hostStmt q.store.table.rows d.args m now).applies r = true → r.AttemptLeft
  | _ => True

instance {ι : Type} (q : Outbox ι) : (a : Action ι) → Decidable (TakesAttemptLeft q a)
  | .commit i => by unfold TakesAttemptLeft; infer_instance
  | .host h _ now => by unfold TakesAttemptLeft; infer_instance
  | .call .. | .dispatch .. | .retryDeadLetter .. | .openClaim .. | .claim .. | .rollback .. | .openHost .. | .dropHost .. | .openCancel .. | .cancel .. =>
    .isTrue trivial

def WithinAttempts {ι : Type} (q : Outbox ι) : Prop :=
  ∀ r ∈ q.store.table.rows, r.attemptCount ≤ r.maxAttempts

structure AttemptInv {ι : Type} (q : Outbox ι) : Prop where
  base : Base q
  rows : ∀ r ∈ q.store.table.rows, r.Counted
  candidates : ∀ i x, q.store.session i = some x → ∀ m ∈ x.data.phase.candidates, m.Counted

lemma Delivery.Counted.nextAttempt_le_iff {m : Delivery} (h : m.Counted) : m.nextAttempt ≤ m.maxAttempts ↔ m.AttemptLeft := by
  obtain ⟨hmax, hcount⟩ := h
  rw [nextAttempt, AttemptLeft]
  split_ifs with hresume
  · exact iff_of_true (max_le hcount hmax) (Or.inl hresume)
  · rw [or_iff_right hresume, Int.add_one_le_iff]

variable {ι : Type} [Fintype ι] [DecidableEq ι] {q q' : Outbox ι} {a : Action ι} {r r' : Delivery}

namespace AttemptInv

omit [Fintype ι] [DecidableEq ι] in
lemma count_view (h : AttemptInv q) {i : ι} {x : ClaimTxn} {m : Delivery} (hx : q.store.session i = some x)
    (hm : x.data.phase.claimed = some m) (hr : r ∈ q.store.table.rows) (hid : r.id = m.id) :
    ((x.view Delivery.key r).attemptCount ≤ r.maxAttempts ↔ m.AttemptLeft) := by
  have hmem : m ∈ x.data.phase.candidates := ClaimPhase.mem_candidates_of_chosen
    (ClaimPhase.chosen_of_slotted (ClaimPhase.slotted_of_counted (ClaimPhase.counted_of_claimed hm)))
  rw [(h.base.seen i x hx r hr).count, hm, filter_some, if_pos (decide_eq_true hid.symm),
    congrArg Origin.maxAttempts ((h.base.sessions i x hx m hmem).origin hr hid)]
  exact (h.candidates i x hx m hmem).nextAttempt_le_iff

omit [Fintype ι] [DecidableEq ι] in
lemma row (h : AttemptInv q) (ha : TakesAttemptLeft q a) (hr : r ∈ q.store.table.rows) (hmove : RowMove q a r r') :
    r'.attemptCount ≤ r.maxAttempts := by
  obtain ⟨hmax, hcount⟩ := h.rows r hr
  cases hmove with
  | same => exact hcount
  | exec stmt hord => exact (hord.attempts r).trans (max_le hcount (by omega))
  | revive =>
    change 0 ≤ r.maxAttempts
    omega
  | @commit i x hx =>
    by_cases hany : x.data.phase.claimed.any (fun m => m.id = r.id) = true
    · obtain ⟨m, hm, hid⟩ := (Option.any_eq_true _ _).mp hany
      exact (h.count_view hx hm hr (of_decide_eq_true hid).symm).mpr (ha m (by simp [hx, hm]))
    · rwa [(h.base.seen i x hx r hr).count, Seen.count_of_not_any hany]
  | cas d m page hd hphase r hid happ =>
    exact (h.rows r hr).nextAttempt_le_iff.mpr (ha d hd m (by rw [hphase]; rfl) r hr hid happ)

lemma within (h : AttemptInv q) (ha : TakesAttemptLeft q a) (hs : Events.step q a = some q') : WithinAttempts q' := by
  intro r' hr'
  rcases row_move (step_move hs) hr' with ⟨r, hr, hmove⟩ | ⟨_, _, _, _, -, rfl⟩
  · rw [congrArg Origin.maxAttempts (hmove.origin h.base hr)]
    exact h.row ha hr hmove
  · exact (by decide : (0 : Int) ≤ eventDeliveryMaxAttempts)

section

variable (h : AttemptInv q) (hs : Events.step q a = some q') (hw : WithinAttempts q')
include h hs hw

lemma attemptLeft : TakesAttemptLeft q a := by
  cases a with
  | commit i =>
    intro m hm
    obtain ⟨x, hx, hm⟩ := bind_eq_some_iff.mp hm
    obtain ⟨_, _, store, -, -, hstore, rfl⟩ := commitStep_eq_some hs
    obtain ⟨y, hy, hstore⟩ := bind_eq_some_iff.mp hstore
    obtain rfl := mem_unique hx hy
    obtain rfl := some.inj hstore
    obtain ⟨-, r, hr, horigin⟩ := h.base.sessions i x hx m (ClaimPhase.mem_candidates_of_chosen
      (ClaimPhase.chosen_of_slotted (ClaimPhase.slotted_of_counted (ClaimPhase.counted_of_claimed hm))))
    have hview := hw _ ((Table.mem_modify x.key_view).mpr ⟨r, hr, rfl⟩)
    rw [congrArg Origin.maxAttempts (h.base.view_origin hx hr)] at hview
    exact (h.count_view hx hm hr (congrArg Origin.id horigin)).mp hview
  | host n b now =>
    intro d hd m hm r hr hid happ
    obtain ⟨d', hd', hcase⟩ := hostStep_cases hs
    obtain rfl := mem_unique hd hd'
    cases hcase with
    | advance _ _ hnone => exact absurd hm (by rw [hnone]; exact nofun)
    | cas m' page hphase _ hexec =>
      rw [hphase] at hm
      cases hm
      obtain ⟨-, hstore⟩ := Store.exec_eq_some.mp hexec
      have hrow := hw ((hostStmt q.store.table.rows d.args m now).set r) (by
        rw [hstore]
        exact (Table.mem_modify (Stmt.key_row _)).mpr ⟨r, hr, if_pos ⟨hid, happ⟩⟩)
      exact (h.rows r hr).nextAttempt_le_iff.mp hrow
  | _ => trivial

lemma step : AttemptInv q' := by
  have hm := step_move hs
  refine ⟨h.base.step hs, fun r' hr' => ⟨?_, hw r' hr'⟩, fun i x' hx' m hmem => ?_⟩
  · rcases row_move hm hr' with ⟨r, hr, hmove⟩ | ⟨_, _, _, _, -, rfl⟩
    · rw [congrArg Origin.maxAttempts (hmove.origin h.base hr)]
      exact (h.rows r hr).1
    · exact (by decide : (1 : Int) ≤ eventDeliveryMaxAttempts)
  · rcases session_move hm hx' with hx | ⟨args, left, -, rfl⟩ | ⟨x, b, -, hx, hmove, -⟩
    · exact h.candidates i x' hx m hmem
    · cases hmem
    · rcases hmove.mem_candidates hmem with hmem | ⟨hnone, -, r, hr, rfl⟩
      · exact h.candidates i x hx m hmem
      · have hcount := (h.base.seen i x hx r hr).count
        rw [hnone] at hcount
        rw [Delivery.Counted, congrArg Origin.maxAttempts (h.base.view_origin hx hr), hcount]
        exact h.rows r hr

end

end AttemptInv

theorem attempts_within_iff (table : DeliveryTable) (htable : ∀ r ∈ table.rows, 1 ≤ r.maxAttempts ∧ r.attemptCount ≤ r.maxAttempts)
    (as : List (Action ι)) (hrun : run step (.initial table) as = some q) :
    EveryStep step (fun q a => ∀ q', step q a = some q' → WithinAttempts q') (.initial table) as ↔
      EveryStep step TakesAttemptLeft (.initial table) as := by
  have hinit : AttemptInv (Outbox.initial table : Outbox ι) :=
    ⟨Base.initial table, htable, fun _ _ hx => absurd hx (some_ne_none _).symm⟩
  constructor
  · intro h
    refine EveryStep.of_inv (fun s a s' hs hp hstep => hs.step hstep (hp.1 s' hstep)) (fun s a hs hp => ?_) hinit
      (h.and (everyStep_isSome hrun))
    obtain ⟨s', hstep⟩ := isSome_iff_exists.mp hp.2
    exact hs.attemptLeft hstep (hp.1 s' hstep)
  · refine EveryStep.of_inv (fun s a s' hs hp hstep => hs.step hstep (hs.within hp hstep)) (fun s a hs hp => ?_) hinit
    exact fun s' hstep => hs.within hp hstep

def crashed (n : Nat) : List (Action (Fin 1)) :=
  .dispatch (utf8 "e") (utf8 "p") [] 1 ::
    (List.replicate n (claimFirst soleSession ⟨utf8 "a", 60, [utf8 "p"], 1, true, 2⟩ ++
      [.call (.reclaimExpired (utf8 "e:p")) (afterSecs 0 100)])).flatten

theorem attempts_within_once :
    EveryStep step (fun q a => ∀ q', step q a = some q' → WithinAttempts q') (.initial ⟨[], List.nodup_nil⟩) (crashed 1) := by
  have hrun : (run step (.initial ⟨[], nodup_nil⟩) (crashed 1)).isSome = true := by decide +kernel
  obtain ⟨q, hrun⟩ := isSome_iff_exists.mp hrun
  exact (attempts_within_iff ⟨[], nodup_nil⟩ (fun _ hr => absurd hr not_mem_nil) (crashed 1) hrun).mpr (by decide +kernel)

theorem ninth_attempt_after_crashes :
    ∃ q : Outbox (Fin 1), run step (.initial ⟨[], List.nodup_nil⟩) (crashed 9) = some q ∧
      q.store.table.rows.map (fun r => (r.state, r.attemptCount, r.maxAttempts)) = [(.pending, 9, 8)] := by
  have hrun : (run step (.initial ⟨[], nodup_nil⟩) (crashed 9)).map (fun q : Outbox (Fin 1) =>
      q.store.table.rows.map fun r => (r.state, r.attemptCount, r.maxAttempts)) = some [(.pending, 9, 8)] := by decide +kernel
  exact map_eq_some_iff.mp hrun

end Bookclerk.Events
