import Bookclerk.Jobs.ClaimSteps

namespace Bookclerk.Jobs

open Lexical Db Option

variable {ι : Type} [Fintype ι] [DecidableEq ι] {q q' : Queue ι}

inductive Moved (s s' : Store Job.id Text JobClaim ι) : Prop where
  | same (h : s' = s)
  | exec (stmt : JobStmt) (outside : Outside stmt) (h : s.exec stmt = some s')
  | start (i : ι) (data : JobClaim) (left : List Job) (phase : data.phase = .sanitize left) (s₁ : Store Job.id Text JobClaim ι)
      (h : s.start i data = some s₁) (h' : s₁.lock i jobQueueSlot data = some s')
  | claim (i : ι) (h : claimStep s i = some s')
  | commit (i : ι) (h : s.commit i = some s')
  | rollback (i : ι) (h : s.rollback i = some s')

def Job.Settled (r : Job) : Prop :=
  r.state.isTerminal = true ∨ r.cancelRequested = true

def CancelPhase.Returns : CancelPhase → Job → Prop
  | .round (_ + 1), m => m.state.isTerminal = true
  | .getJob, _ | .reread, _ => True
  | _, _ => False

inductive Logged (q q' : Queue ι) : Prop where
  | same (log : q'.log = q.log)
  | claimed (r w : Job) (owner : Text) (hr : r ∈ q.store.table.rows) (hw : w ∈ q'.store.table.rows) (id : w.id = r.id)
      (generation : w.leaseGeneration = r.leaseGeneration + 1) (unsettled : ¬ r.Settled)
      (log : q'.log = .claimed r.id owner w.leaseGeneration :: q.log)
  | cancelReturned (j : Nat) (c : CancelCall) (m : Job) (call : q.cancels j = some c) (found : q.store.table.find c.id = some m)
      (phase : c.phase.Returns m) (table : q'.store = q.store) (log : q'.log = .cancelReturned m :: q.log)

def Quiet (q : JobStmt) : Prop :=
  ∀ j, q.applies j = true → (q.set j).state.isTerminal = true ∨ (q.set j).state = j.state ∧ (q.set j).payload = j.payload

lemma quiet_cancelStmt (id : Text) (m : Job) (now : Stamp) : Quiet (cancelStmt id m now) := by
  rw [cancelStmt]
  split_ifs
  · exact fun _ _ => .inl rfl
  · exact fun _ _ => .inr ⟨rfl, rfl⟩

omit [Fintype ι] [DecidableEq ι] in
lemma answer_spec {j : Nat} {c : CancelCall} {again : Bool} {m : Job} (hc : q.cancels j = some c)
    (hfind : q.store.table.find c.id = some m) (hphase : c.phase.Returns m) :
    (q.answer j c again m).store = q.store ∧ Logged q (q.answer j c again m) := by
  rw [Queue.answer]
  split
  · next record hmap =>
    obtain rfl := tryMapJob_row hmap
    exact ⟨rfl, .cancelReturned j c record.row hc hfind hphase rfl rfl⟩
  · exact ⟨rfl, .same rfl⟩

lemma cancelStep_spec {j : Nat} {now : Stamp} (h : cancelStep q j now = some q') :
    (q'.store = q.store ∧ Logged q q') ∨ ∃ stmt, Outside stmt ∧ Quiet stmt ∧ q.store.exec stmt = some q'.store ∧ q'.log = q.log := by
  obtain ⟨c, hc, h⟩ := bind_eq_some_iff.mp h
  cases hphase : c.phase with
  | round n =>
    cases n with
    | zero =>
      simp only [hphase] at h
      cases h
      exact .inl ⟨rfl, .same rfl⟩
    | succ n =>
      simp only [hphase] at h
      split at h
      · cases h
        exact .inl ⟨rfl, .same rfl⟩
      · next m hfind =>
        obtain rfl := some.inj h
        split_ifs with hterm
        · exact .inl (answer_spec hc hfind (by simpa [hphase, CancelPhase.Returns] using hterm))
        · exact .inl ⟨rfl, .same rfl⟩
  | update n m =>
    simp only [hphase] at h
    obtain ⟨store, hs, h⟩ := bind_eq_some_iff.mp h
    cases h
    exact .inr ⟨_, outside_cancelStmt c.id m now, quiet_cancelStmt c.id m now, hs, rfl⟩
  | getJob =>
    simp only [hphase] at h
    split at h
    · cases h
      exact .inl ⟨rfl, .same rfl⟩
    · next m hfind =>
      obtain rfl := some.inj h
      exact .inl (answer_spec hc hfind (by simp [hphase, CancelPhase.Returns]))
  | invalid reason again =>
    simp only [hphase] at h
    obtain ⟨store, hs, h⟩ := bind_eq_some_iff.mp h
    cases h
    exact .inr ⟨_, outside_markInvalidJob c.id reason now, fun _ _ => .inl rfl, hs, rfl⟩
  | reread =>
    simp only [hphase] at h
    split at h
    · next record hrec =>
      obtain ⟨m, hfind, hmap⟩ := map_eq_some_iff.mp hrec
      cases h
      exact .inl ⟨rfl, .cancelReturned j c m hc hfind (by simp [hphase, CancelPhase.Returns]) rfl (by rw [tryMapJob_row hmap])⟩
    · cases h
      exact .inl ⟨rfl, .same rfl⟩

variable {i : ι}

omit [Fintype ι] in
lemma commitStep_store (h : commitStep q i = some q') : q.store.commit i = some q'.store := by
  obtain ⟨x, hx, h⟩ := bind_eq_some_iff.mp h
  split at h
  · obtain ⟨store, hs, h⟩ := bind_eq_some_iff.mp h
    cases h
    exact hs
  · split at h
    · obtain ⟨store, hs, h⟩ := bind_eq_some_iff.mp h
      cases h
      exact hs
    · cases h
  · cases h

lemma step_moved {a : Action ι} (h : step q a = some q') : Moved q.store q'.store := by
  cases a with
  | call c now =>
    rw [step] at h
    split at h
    · next stmt hissued =>
      obtain ⟨store, hs, rfl⟩ := map_eq_some_iff.mp h
      exact .exec stmt (Call.outside hissued) hs
    · cases h
      exact .same rfl
  | openClaim i resourceClass owner leaseSecs now =>
    obtain ⟨s₁, hs₁, h⟩ := bind_eq_some_iff.mp h
    obtain ⟨s₂, hs₂, h⟩ := bind_eq_some_iff.mp h
    cases h
    exact .start i _ _ rfl s₁ hs₁ hs₂
  | claim i =>
    obtain ⟨store, hs, rfl⟩ := map_eq_some_iff.mp h
    exact .claim i hs
  | commit i => exact .commit i (commitStep_store h)
  | rollback i =>
    obtain ⟨store, hs, rfl⟩ := map_eq_some_iff.mp h
    exact .rollback i hs
  | openCancel j id =>
    rw [step] at h
    split_ifs at h
    cases h
    exact .same rfl
  | cancel j now =>
    rcases cancelStep_spec h with ⟨hs, -⟩ | ⟨stmt, hq, -, hs, -⟩
    · exact .same hs
    · exact .exec stmt hq hs

variable {s s' : Store Job.id Text JobClaim ι}

omit [Fintype ι] in
lemma ClaimInv.commit (h : ClaimInv s) (hs : s.commit i = some s') : ClaimInv s' := by
  obtain ⟨x, hx, hs⟩ := bind_eq_some_iff.mp hs
  cases hs
  have hnone : ∀ j y, Function.update s.session i none j ≠ some y := by
    intro j y hy
    by_cases hj : j = i
    · simp [hj] at hy
    · rw [Function.update_of_ne hj] at hy
      exact hj (h.single j i y x hy hx)
  exact ⟨fun j y hy => absurd hy (hnone j y), fun j _ y _ hy => absurd hy (hnone j y),
    fun j y _ hy => absurd hy (hnone j y), fun j y hy => absurd hy (hnone j y)⟩

lemma ClaimInv.start (h : ClaimInv s) {data : JobClaim} {left : List Job} {s₁ : Store Job.id Text JobClaim ι}
    (hphase : data.phase = .sanitize left) (hs₁ : s.start i data = some s₁) (hs : s₁.lock i jobQueueSlot data = some s') : ClaimInv s' := by
  rw [Store.start] at hs₁
  split_ifs at hs₁
  obtain rfl := some.inj hs₁
  obtain ⟨x, hx, hs⟩ := bind_eq_some_iff.mp hs
  obtain rfl : ⟨[], [], data⟩ = x := by simpa [Store.put] using hx
  split_ifs at hs with hlocked
  obtain rfl := some.inj hs
  -- every open claim holds the slot, so there was none
  have hone : ∀ j y, Function.update (Function.update s.session i (some ⟨[], [], data⟩)) i
      (some ⟨[jobQueueSlot], [], data⟩) j = some y → j = i ∧ y = ⟨[jobQueueSlot], [], data⟩ := by
    intro j y hy
    by_cases hj : j = i
    · subst hj
      exact ⟨rfl, by simpa using hy.symm⟩
    · have hy : s.session j = some y := by simpa [hj] using hy
      exact absurd (h.slot j y hy) (Store.not_locked_iff.mp hlocked j y (by simpa using hj) (by simpa [Store.put, hj] using hy))
  refine ⟨fun j y hy => ?_, fun j j' y y' hy hy' => ?_, fun j y left' hy hscan => ?_, fun j y hy r hr => ?_⟩
  · rw [(hone j y hy).2]
    exact List.mem_singleton_self _
  · rw [(hone j y hy).1, (hone j' y' hy').1]
  · rw [(hone j y hy).2, hphase] at hscan
    cases hscan
  · rw [(hone j y hy).2, Seen, if_neg (by simp [hphase])]
    exact Or.inl rfl

lemma ClaimInv.moved (h : ClaimInv s) (hm : Moved s s') : ClaimInv s' := by
  cases hm with
  | same hs => rwa [hs]
  | exec stmt hq hs => exact h.exec hq hs
  | start i data left hphase s₁ hs₁ hs => exact h.start hphase hs₁ hs
  | claim i hs => exact h.claimStep hs
  | commit i hs => exact h.commit hs
  | rollback i hs =>
    obtain ⟨x, -, hs⟩ := bind_eq_some_iff.mp hs
    cases hs
    exact h.drop i

structure Evolves (r r' : Job) : Prop where
  id : r'.id = r.id
  generation : r.leaseGeneration ≤ r'.leaseGeneration
  settled : r.Settled → r'.Settled
  running : r'.state = .running → r'.leaseGeneration = r.leaseGeneration →
    r.state = .running ∧ r'.leaseOwner = r.leaseOwner ∧ r'.counters = r.counters

lemma Evolves.refl (r : Job) : Evolves r r :=
  ⟨rfl, le_refl _, fun hset => hset, fun hrun _ => ⟨hrun, rfl, rfl⟩⟩

def Later (t t' : JobTable) : Prop :=
  ∀ r ∈ t.rows, ∃ r' ∈ t'.rows, Evolves r r'

lemma Later.refl (t : JobTable) : Later t t :=
  fun r hr => ⟨r, hr, .refl r⟩

lemma evolves_row {q : JobStmt} (hq : Outside q) (r : Job) : Evolves r (q.row r) := by
  rcases q.row_cases r with hrow | ⟨-, happ, hrow⟩
  · rw [hrow]
    exact .refl r
  · rw [hrow]
    have hactive := hq.active r happ
    refine ⟨q.key_set r, (hq.generation r).ge, ?_, fun hrun _ => ⟨?_, hq.owner r hrun, hq.counters r⟩⟩
    · rintro (hterm | hflag)
      · rw [JobState.not_terminal_of_active hactive] at hterm
        cases hterm
      · exact Or.inr (hq.flag r hflag)
    · cases hstate : r.state with
      | running => rfl
      | pending =>
        have hterm := hq.pending r happ hstate
        rw [hrun] at hterm
        cases hterm
      | _ =>
        rw [hstate] at hactive
        cases hactive

lemma Seen.evolves {phase : ClaimPhase} {r w : Job} (h : Seen phase r w) (hid : w.id = r.id) : Evolves r w := by
  by_cases hd : phase = .done (some r.id)
  · rw [Seen, if_pos hd] at h
    obtain ⟨hpend, hflag, hclaim⟩ := h
    have hgen := hclaim.running.2
    refine ⟨hid, by omega, ?_, fun _ hsame => by omega⟩
    rintro (hterm | hset)
    · rw [hpend] at hterm
      cases hterm
    · rw [hflag] at hset
      cases hset
  · rcases h.open hd with rfl | ⟨hterm, hgen⟩
    · exact .refl w
    · refine ⟨hid, (congrArg Prod.fst hgen).ge, fun _ => Or.inl hterm, fun hrun _ => ?_⟩
      rw [hrun] at hterm
      cases hterm

omit [Fintype ι] in
lemma ClaimInv.later_commit {s s' : Store Job.id Text JobClaim ι} (h : ClaimInv s) (hs : s.commit i = some s') :
    Later s.table s'.table := by
  obtain ⟨x, hx, hs⟩ := bind_eq_some_iff.mp hs
  cases hs
  intro r hr
  exact ⟨_, (Table.mem_modify x.key_view).mpr ⟨r, hr, rfl⟩, (h.seen i x hx r hr).evolves (x.key_view r)⟩

lemma start_lock_table {s s₁ s₂ : Store Job.id Text JobClaim ι} {d : JobClaim} (h : s.start i d = some s₁)
    (h' : s₁.lock i jobQueueSlot d = some s₂) : s₂.table = s.table := by
  rw [Store.start] at h
  split_ifs at h
  obtain rfl := some.inj h
  obtain ⟨x, -, h'⟩ := bind_eq_some_iff.mp h'
  split_ifs at h'
  cases h'
  rfl

lemma claimStep_table {s s' : Store Job.id Text JobClaim ι} (hs : claimStep s i = some s') : s'.table = s.table := by
  obtain ⟨x, hx, hs⟩ := bind_eq_some_iff.mp hs
  dsimp only at hs
  split at hs
  · obtain ⟨_, _, -, rfl, -⟩ := Store.execIn_eq_some hs
    rfl
  · obtain ⟨_, -, hs⟩ := bind_eq_some_iff.mp hs
    cases hs
    rfl
  · obtain ⟨_, _, -, rfl, -⟩ := Store.execIn_eq_some hs
    rfl
  · obtain ⟨_, -, hs⟩ := bind_eq_some_iff.mp hs
    cases hs
    rfl
  · cases hs

lemma ClaimInv.later {s s' : Store Job.id Text JobClaim ι} (h : ClaimInv s) (hm : Moved s s') : Later s.table s'.table := by
  cases hm with
  | same hs => exact hs ▸ Later.refl _
  | exec stmt hq hs =>
    obtain ⟨-, rfl⟩ := Store.exec_eq_some.mp hs
    exact fun r hr => ⟨_, (Table.mem_modify stmt.key_row).mpr ⟨r, hr, rfl⟩, evolves_row hq r⟩
  | start i data left hphase s₁ hs₁ hs => exact start_lock_table hs₁ hs ▸ Later.refl _
  | claim i hs => exact claimStep_table hs ▸ Later.refl _
  | commit i hs => exact h.later_commit hs
  | rollback i hs =>
    obtain ⟨x, -, hs⟩ := bind_eq_some_iff.mp hs
    cases hs
    exact Later.refl _

omit [Fintype ι] in
lemma commitStep_logged (h : ClaimInv q.store) (hs : commitStep q i = some q') : Logged q q' := by
  obtain ⟨x, hx, hs⟩ := bind_eq_some_iff.mp hs
  split at hs
  · obtain ⟨store, -, hs⟩ := bind_eq_some_iff.mp hs
    cases hs
    exact .same rfl
  · next id hphase =>
    split at hs
    · next record hrec =>
      obtain ⟨store, hcommit, hs⟩ := bind_eq_some_iff.mp hs
      obtain ⟨w, hw, hmap⟩ := map_eq_some_iff.mp hrec
      obtain ⟨r, hfind, rfl⟩ := map_eq_some_iff.mp hw
      obtain ⟨hr, rfl⟩ := Table.find_eq_some.mp hfind
      have hrow := tryMapJob_row hmap
      obtain ⟨y, hy, hcommit⟩ := bind_eq_some_iff.mp hcommit
      obtain rfl := mem_unique hx hy
      cases hcommit
      cases hs
      have hseen := h.seen i x hx r hr
      rw [Seen, if_pos hphase] at hseen
      obtain ⟨hpend, hflag, hclaim⟩ := hseen
      refine .claimed r (x.view Job.id r) x.data.owner hr ((Table.mem_modify x.key_view).mpr ⟨r, hr, rfl⟩) (x.key_view r)
        hclaim.running.2 ?_ (by rw [hrow])
      rintro (hterm | hset)
      · rw [hpend] at hterm
        cases hterm
      · rw [hflag] at hset
        cases hset
    · cases hs
  · cases hs

lemma step_logged (hinv : ClaimInv q.store) {a : Action ι} (h : step q a = some q') : Logged q q' := by
  cases a with
  | call c now =>
    rw [step] at h
    split at h
    · obtain ⟨store, -, rfl⟩ := map_eq_some_iff.mp h
      exact .same rfl
    · cases h
      exact .same rfl
  | openClaim =>
    obtain ⟨s₁, -, h⟩ := bind_eq_some_iff.mp h
    obtain ⟨s₂, -, h⟩ := bind_eq_some_iff.mp h
    cases h
    exact .same rfl
  | claim i =>
    obtain ⟨store, -, rfl⟩ := map_eq_some_iff.mp h
    exact .same rfl
  | commit i => exact commitStep_logged hinv h
  | rollback i =>
    obtain ⟨store, -, rfl⟩ := map_eq_some_iff.mp h
    exact .same rfl
  | openCancel j id =>
    rw [step] at h
    split_ifs at h
    cases h
    exact .same rfl
  | cancel j now =>
    rcases cancelStep_spec h with ⟨-, hlog⟩ | ⟨-, -, -, -, hlog⟩
    · exact hlog
    · exact .same hlog

end Bookclerk.Jobs
