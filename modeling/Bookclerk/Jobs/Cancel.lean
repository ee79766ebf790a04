import Bookclerk.Jobs.Lease

namespace Bookclerk.Jobs

open Lexical Db Bookclerk.System List Option

def NotClaimedAfter (e e' : Event) : Prop :=
  ∀ m, e' = .cancelReturned m → e.claimsJob m.id = false

/-- Every cancellation of the log returned a terminal or flagged job, which no later claim took. -/
structure CancelKept (log : List Event) : Prop where
  settled : ∀ m, .cancelReturned m ∈ log → m.Settled
  ordered : log.Pairwise NotClaimedAfter

/-- The call has lost its last round and is about to fall through to `get_job`. -/
def Exhausted {ι : Type} (q : Queue ι) : Action ι → Prop
  | .cancel j _ => (q.cancels j).any (fun c => c.phase = .round 0) = true
  | _ => False

instance {ι : Type} (q : Queue ι) : (a : Action ι) → Decidable (Exhausted q a)
  | .cancel _ _ => inferInstanceAs (Decidable (_ = true))
  | .call _ _ | .openClaim _ _ _ _ _ | .claim _ | .commit _ | .rollback _ | .openCancel _ _ => .isFalse id

def CancelPhase.Decided : CancelPhase → Prop
  | .getJob | .invalid _ _ | .reread => True
  | .round _ | .update _ _ => False

def SettledIn (t : JobTable) (id : Text) : Prop :=
  ∃ r ∈ t.rows, r.id = id ∧ r.Settled

lemma SettledIn.later {t t' : JobTable} {id : Text} (h : SettledIn t id) (ht : Later t t') : SettledIn t' id := by
  obtain ⟨r, hr, rfl, hset⟩ := h
  obtain ⟨r', hr', hev⟩ := ht r hr
  exact ⟨r', hr', hev.id, hev.settled hset⟩

variable {m : Job}

lemma SettledIn.of_find {t : JobTable} {id : Text} (h : SettledIn t id) (hm : t.find id = some m) : m.Settled := by
  obtain ⟨r, hr, rfl, hset⟩ := h
  obtain ⟨hmem, hid⟩ := Table.find_eq_some.mp hm
  exact t.eq_of_key hr hmem hid.symm ▸ hset

variable {ι : Type}

def CallsDecided (q : Queue ι) : Prop :=
  ∀ j c, q.cancels j = some c → c.phase.Decided → SettledIn q.store.table c.id

structure CancelInv (q : Queue ι) : Prop where
  claims : ClaimInv q.store
  calls : CallsDecided q
  returned : ∀ m, .cancelReturned m ∈ q.log → SettledIn q.store.table m.id
  kept : CancelKept q.log

variable {j : Nat}

lemma CallsDecided.update {q q' : Queue ι} (h : CallsDecided q) (hlater : Later q.store.table q'.store.table)
    {c' : Option CancelCall} (hcalls : q'.cancels = Function.update q.cancels j c')
    (hnew : ∀ c, c' = some c → c.phase.Decided → SettledIn q'.store.table c.id) : CallsDecided q' := by
  intro i c hc hdec
  rw [hcalls] at hc
  by_cases hi : i = j
  · subst hi
    exact hnew c (by simpa using hc) hdec
  · rw [Function.update_of_ne hi] at hc
    exact (h i c hc hdec).later hlater

lemma CallsDecided.finish {q q' : Queue ι} (h : CallsDecided q) (hstore : q'.store = q.store)
    (hcalls : q'.cancels = Function.update q.cancels j none) : CallsDecided q' := by
  refine h.update (hstore ▸ Later.refl _) hcalls fun c hc => ?_
  cases hc

lemma settled_cancelStmt (id : Text) (m : Job) (now : Stamp) (r : Job) : ((cancelStmt id m now).set r).Settled := by
  rw [cancelStmt]
  split_ifs
  · exact Or.inl rfl
  · exact Or.inr rfl

lemma cancelStmt_target (id : Text) (m : Job) (now : Stamp) : (cancelStmt id m now).target = id := by
  rw [cancelStmt]
  split_ifs <;> rfl

variable {q q' : Queue ι}

lemma CallsDecided.answer (h : CallsDecided q) {c : CancelCall} {again : Bool}
    (hset : SettledIn q.store.table c.id) : CallsDecided (q.answer j c again m) := by
  rw [Queue.answer]
  split
  · exact h.finish rfl rfl
  · refine h.update (Later.refl _) rfl fun c' hc' _ => ?_
    cases hc'
    exact hset

lemma CallsDecided.returns (h : CallsDecided q) {c : CancelCall} (hc : q.cancels j = some c)
    (hfind : q.store.table.find c.id = some m) (hphase : c.phase.Returns m) : m.Settled := by
  cases hp : c.phase with
  | round n =>
    cases n with
    | zero => simp [hp, CancelPhase.Returns] at hphase
    | succ n => exact Or.inl (by simpa [hp, CancelPhase.Returns] using hphase)
  | update | invalid => simp [hp, CancelPhase.Returns] at hphase
  | getJob | reread => exact (h j c hc (by simp [hp, CancelPhase.Decided])).of_find hfind

lemma CancelInv.initial (table : JobTable) : CancelInv (Queue.initial table : Queue ι) :=
  { claims := ClaimInv.initial table
    calls := fun _ _ hc => absurd hc (some_ne_none _).symm
    returned := fun _ hm => absurd hm not_mem_nil
    kept := ⟨fun _ hm => absurd hm not_mem_nil, List.Pairwise.nil⟩ }

variable [Fintype ι] [DecidableEq ι]

lemma settledIn_of_matched {id : Text} {now : Stamp} {s' : Store Job.id Text JobClaim ι}
    (hs : q.store.exec (cancelStmt id m now) = some s') (hmatch : q.store.matched (cancelStmt id m now) = true) :
    SettledIn s'.table id := by
  obtain ⟨-, rfl⟩ := Store.exec_eq_some.mp hs
  obtain ⟨r, hfind, happ⟩ := (Option.any_eq_true ..).mp hmatch
  obtain ⟨hr, hkey⟩ := Table.find_eq_some.mp hfind
  refine ⟨_, (Table.mem_modify (cancelStmt id m now).key_row).mpr ⟨r, hr, rfl⟩, ?_, ?_⟩
  · rw [(cancelStmt id m now).key_row, hkey, cancelStmt_target]
  · rw [Stmt.row, if_pos ⟨hkey, happ⟩]
    exact settled_cancelStmt id m now r

lemma CallsDecided.cancelStep (h : CallsDecided q) {now : Stamp} (hrounds : ¬ Exhausted q (.cancel j now))
    (hlater : Later q.store.table q'.store.table) (hs : cancelStep q j now = some q') : CallsDecided q' := by
  obtain ⟨c, hc, hs⟩ := bind_eq_some_iff.mp hs
  cases hphase : c.phase with
  | round n =>
    cases n with
    | zero => exact absurd (by simp [Exhausted, hc, hphase]) hrounds
    | succ n =>
      simp only [hphase] at hs
      split at hs
      · cases hs
        exact h.finish rfl rfl
      · next m hfind =>
        obtain rfl := some.inj hs
        split_ifs with hterm
        · obtain ⟨hmem, hid⟩ := Table.find_eq_some.mp hfind
          exact h.answer ⟨m, hmem, hid, Or.inl hterm⟩
        · refine h.update (Later.refl _) rfl fun c' hc' hdec => ?_
          cases hc'
          exact hdec.elim
  | update n m =>
    simp only [hphase] at hs
    obtain ⟨store, hexec, hs⟩ := bind_eq_some_iff.mp hs
    cases hs
    refine h.update hlater rfl fun c' hc' hdec => ?_
    cases hc'
    cases hmatch : q.store.matched (cancelStmt c.id m now) with
    | true => exact settledIn_of_matched hexec hmatch
    | false => simp [hmatch, CancelPhase.Decided] at hdec
  | getJob =>
    have hset := h j c hc (by simp [hphase, CancelPhase.Decided])
    simp only [hphase] at hs
    split at hs
    · cases hs
      exact h.finish rfl rfl
    · obtain rfl := some.inj hs
      exact h.answer hset
  | invalid reason again =>
    have hset := h j c hc (by simp [hphase, CancelPhase.Decided])
    simp only [hphase] at hs
    obtain ⟨store, -, hs⟩ := bind_eq_some_iff.mp hs
    cases hs
    refine h.update hlater rfl fun c' hc' _ => ?_
    cases hc'
    exact hset.later hlater
  | reread =>
    simp only [hphase] at hs
    split at hs <;> cases hs <;> exact h.finish rfl rfl

lemma CallsDecided.step (h : CallsDecided q) {a : Action ι} (hrounds : ¬ Exhausted q a)
    (hlater : Later q.store.table q'.store.table) (hs : step q a = some q') : CallsDecided q' := by
  have hsame : q'.cancels = q.cancels → CallsDecided q' := fun heq i c hc hdec =>
    (h i c (heq ▸ hc) hdec).later hlater
  cases a with
  | call c now =>
    rw [Jobs.step] at hs
    split at hs
    · obtain ⟨store, -, rfl⟩ := map_eq_some_iff.mp hs
      exact hsame rfl
    · cases hs
      exact h
  | openClaim =>
    obtain ⟨s₁, -, hs⟩ := bind_eq_some_iff.mp hs
    obtain ⟨s₂, -, hs⟩ := bind_eq_some_iff.mp hs
    cases hs
    exact hsame rfl
  | claim i =>
    obtain ⟨store, -, rfl⟩ := map_eq_some_iff.mp hs
    exact hsame rfl
  | commit i =>
    obtain ⟨x, -, hs⟩ := bind_eq_some_iff.mp hs
    split at hs
    · obtain ⟨store, -, hs⟩ := bind_eq_some_iff.mp hs
      cases hs
      exact hsame rfl
    · split at hs
      · obtain ⟨store, -, hs⟩ := bind_eq_some_iff.mp hs
        cases hs
        exact hsame rfl
      · cases hs
    · cases hs
  | rollback i =>
    obtain ⟨store, -, rfl⟩ := map_eq_some_iff.mp hs
    exact hsame rfl
  | openCancel j id =>
    rw [Jobs.step] at hs
    split_ifs at hs
    cases hs
    refine h.update (Later.refl _) rfl fun c' hc' hdec => ?_
    cases hc'
    exact hdec.elim
  | cancel j now => exact h.cancelStep hrounds hlater hs

lemma CancelInv.step (h : CancelInv q) {a : Action ι} (hrounds : ¬ Exhausted q a) (hs : step q a = some q') : CancelInv q' := by
  have hmoved := step_moved hs
  have hlater := h.claims.later hmoved
  have hreturned : ∀ m, .cancelReturned m ∈ q.log → SettledIn q'.store.table m.id := fun m hm =>
    (h.returned m hm).later hlater
  refine ⟨h.claims.moved hmoved, h.calls.step hrounds hlater hs, ?_, ?_⟩
  · cases step_logged h.claims hs with
    | same hlog => exact hlog ▸ hreturned
    | claimed r w owner hr hw hid hgen hset hlog =>
      rw [hlog]
      intro m hm
      exact hreturned m (by simpa using hm)
    | cancelReturned j c m hc hfind hphase hstore hlog =>
      rw [hlog]
      intro m' hm'
      rcases mem_cons.mp hm' with hm' | hm'
      · cases hm'
        rw [hstore]
        exact ⟨m, (Table.find_eq_some.mp hfind).1, rfl, h.calls.returns hc hfind hphase⟩
      · exact hreturned m' hm'
  · cases step_logged h.claims hs with
    | same hlog => exact hlog ▸ h.kept
    | claimed r w owner hr hw hid hgen hset hlog =>
      rw [hlog]
      refine ⟨fun m hm => h.kept.settled m (by simpa using hm), pairwise_cons.mpr ⟨fun e' he' m hm => ?_, h.kept.ordered⟩⟩
      subst hm
      obtain ⟨r', hr', hid', hset'⟩ := h.returned m he'
      simp only [Event.claimsJob, decide_eq_false_iff_not]
      intro heq
      exact hset (q.store.table.eq_of_key hr' hr (hid'.trans heq.symm) ▸ hset')
    | cancelReturned j c m hc hfind hphase hstore hlog =>
      rw [hlog]
      refine ⟨fun m' hm' => ?_, pairwise_cons.mpr ⟨fun e' _ m' _ => rfl, h.kept.ordered⟩⟩
      rcases mem_cons.mp hm' with hm' | hm'
      · cases hm'
        exact h.calls.returns hc hfind hphase
      · exact h.kept.settled m' hm'

theorem cancel_kept_of_rounds (table : JobTable) (as : List (Action ι))
    (hrounds : EveryStep step (fun q a => ¬ Exhausted q a) (Queue.initial table) as)
    (hrun : run step (Queue.initial table) as = some q) : CancelKept q.log :=
  (run_of_everyStep (fun _ _ _ h hp hs => CancelInv.step h hp hs) (CancelInv.initial table) hrounds hrun).kept

theorem cancel_kept_first_round :
    ∃ q, run step (Queue.initial oneJob)
        ([.openCancel 0 (utf8 "j"), .cancel 0 1, .cancel 0 1, .cancel 0 1] ++ claimActions (utf8 "a") 1) = some q ∧
      CancelKept q.log := by
  have hsome : (run step (Queue.initial oneJob)
      ([.openCancel 0 (utf8 "j"), .cancel 0 1, .cancel 0 1, .cancel 0 1] ++ claimActions (utf8 "a") 1)).isSome = true := by
    decide +kernel
  obtain ⟨q, hrun⟩ := isSome_iff_exists.mp hsome
  exact ⟨q, hrun, cancel_kept_of_rounds oneJob _ (by decide +kernel) hrun⟩

def rowAfter (as : List (Action (Fin 1))) : Option Job :=
  (run step (Queue.initial oneJob) as).bind fun q => q.store.table.find (utf8 "j")

def lostRounds : Nat → List (Action (Fin 1))
  | 0 => [.openCancel 0 (utf8 "j")]
  | n + 1 =>
    let claimed := lostRounds n ++ .cancel 0 1 :: claimActions (utf8 "a") 1 ++ [.cancel 0 1, .cancel 0 1]
    claimed ++ [.call (.suspend ⟨utf8 "j", utf8 "a", n + 1⟩ ⟨1, []⟩ 1 (rowAfter claimed)) 1, .cancel 0 1]

def lostCancel : List (Action (Fin 1)) :=
  lostRounds 8 ++ [.cancel 0 1, .cancel 0 1] ++ claimActions (utf8 "b") 1

theorem cancel_lost_after_rounds :
    ∃ q m older, run step (Queue.initial oneJob) lostCancel = some q ∧
      q.log = .claimed (utf8 "j") (utf8 "b") 9 :: .cancelReturned m :: older ∧ m.id = utf8 "j" ∧
        m.state = .pending ∧ m.cancelRequested = false ∧ ¬ CancelKept q.log := by
  have hhead : (run step (Queue.initial oneJob) lostCancel).map (fun q => q.log.take 2) =
      some [.claimed (utf8 "j") (utf8 "b") 9, .cancelReturned ((rowAfter (lostRounds 8)).getD claimedByA)] := by decide +kernel
  have hrow : (rowAfter (lostRounds 8)).any
      (fun m => m.id = utf8 "j" && m.state = .pending && !m.cancelRequested) = true := by decide +kernel
  obtain ⟨m, hm, hrow⟩ := (Option.any_eq_true ..).mp hrow
  obtain ⟨q, hrun, htake⟩ := map_eq_some_iff.mp hhead
  have hlog : q.log = .claimed (utf8 "j") (utf8 "b") 9 :: .cancelReturned m :: q.log.drop 2 := by
    rw [← take_append_drop 2 q.log, htake, hm]
    rfl
  simp only [Bool.and_eq_true, decide_eq_true_eq, Bool.not_eq_true'] at hrow
  obtain ⟨⟨hid, hstate⟩, hflag⟩ := hrow
  refine ⟨q, m, q.log.drop 2, hrun, hlog, hid, hstate, hflag, fun hkept => ?_⟩
  have hnot := hkept.ordered
  rw [hlog] at hnot
  have := (pairwise_cons.mp hnot).1 _ mem_cons_self m rfl
  simp [Event.claimsJob, hid] at this

end Bookclerk.Jobs
