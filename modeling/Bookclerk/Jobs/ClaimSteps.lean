import Bookclerk.Jobs.Queue

namespace Bookclerk.Jobs

open Lexical Db List Option

variable {phase : ClaimPhase} {r : Job} {cp : JobCheckpoint} {f : JobFence} {q : JobStmt} {model : Option Job}
  {now : Stamp}

def Job.counters (j : Job) : Int × Int × Int :=
  (j.leaseGeneration, j.attemptCount, j.maxAttempts)

/-- The statement leaves terminal rows and the counters alone, takes a pending row only to a
terminal state, keeps a cancel flag, and gives a row that runs on no other owner. -/
structure Outside (q : JobStmt) : Prop where
  active : ∀ j, q.applies j = true → j.state.isActive = true
  counters : ∀ j, (q.set j).counters = j.counters
  pending : ∀ j, q.applies j = true → j.state = .pending → (q.set j).state.isTerminal = true
  flag : ∀ j, j.cancelRequested = true → (q.set j).cancelRequested = true
  owner : ∀ j, (q.set j).state = .running → (q.set j).leaseOwner = j.leaseOwner

lemma JobFence.owns_iff {j : Job} : f.owns j = true ↔
    j.state = .running ∧ j.leaseOwner = some f.owner ∧ j.leaseGeneration = f.generation := by
  simp [owns, and_assoc]

lemma Outside.generation (hq : Outside q) (j : Job) : (q.set j).leaseGeneration = j.leaseGeneration :=
  congrArg Prod.fst (hq.counters j)

lemma outside_of_running (happ : ∀ j, q.applies j = true → j.state = .running)
    (hgen : ∀ j, (q.set j).counters = j.counters)
    (hflag : ∀ j, j.cancelRequested = true → (q.set j).cancelRequested = true)
    (howner : ∀ j, (q.set j).state = .running → (q.set j).leaseOwner = j.leaseOwner) : Outside q where
  active j hj := by rw [happ j hj]; rfl
  counters := hgen
  pending j hj hp := by rw [happ j hj] at hp; cases hp
  flag := hflag
  owner := howner

lemma outside_fenced {set : Job → Job} {h : ∀ j, (set j).id = j.id}
    (hgen : ∀ j, (set j).counters = j.counters)
    (hflag : ∀ j, j.cancelRequested = true → (set j).cancelRequested = true)
    (howner : ∀ j, (set j).state = .running → (set j).leaseOwner = j.leaseOwner) : Outside (fenced f set h) :=
  outside_of_running (fun _ hj => (JobFence.owns_iff.mp hj).1) hgen hflag howner

lemma outside_cancelFencedJob (f : JobFence) (before : Option Stamp) (now : Stamp) : Outside (cancelFencedJob f before now) := by
  refine outside_of_running (fun j hj => ?_) (fun _ => rfl) (fun _ _ => rfl) fun _ => nofun
  simp only [cancelFencedJob, Bool.and_eq_true] at hj
  exact (JobFence.owns_iff.mp hj.1).1

lemma outside_cancelPendingJob (id : Text) (now : Stamp) : Outside (cancelPendingJob id now) where
  active j hj := by
    have hj : j.state = .pending := by simpa [cancelPendingJob] using hj
    rw [hj]; rfl
  counters _ := rfl
  pending _ _ _ := rfl
  flag _ _ := rfl
  owner _ := nofun

lemma outside_flagJobCancel (id : Text) (now : Stamp) : Outside (flagJobCancel id now) :=
  outside_of_running (fun j hj => by simpa [flagJobCancel] using hj) (fun _ => rfl) (fun _ _ => rfl) fun _ _ => rfl

lemma outside_markInvalidJob (id reason : Text) (now : Stamp) : Outside (markInvalidJob id reason now) where
  active _ hj := hj
  counters _ := rfl
  pending _ _ _ := rfl
  flag _ hj := hj
  owner _ := nofun

lemma outside_suspendJob {wakeAt : Stamp} (h : suspendJob model f cp wakeAt now = .ok (some q)) : Outside q := by
  rw [suspendJob] at h
  split at h
  · cases h
  · split at h
    · cases h
    · split_ifs at h
      cases h
      exact outside_fenced (fun _ => rfl) (fun _ hj => hj) fun _ hs => by cases hs

lemma outside_checkpointRunningJob (h : checkpointRunningJob model f cp now = .ok (some q)) : Outside q := by
  rw [checkpointRunningJob] at h
  split at h
  · cases h
  · split_ifs at h
    split at h
    · cases h
    · cases h
      exact outside_fenced (fun _ => rfl) (fun _ hj => hj) fun _ _ => rfl

lemma outside_failJob {kind message : Text} (h : failJob model f kind message now = .ok (some q)) : Outside q := by
  rw [failJob] at h
  split at h
  · cases h
  · split_ifs at h
    · cases h
      exact outside_cancelFencedJob f none now
    · cases h
      refine outside_fenced (fun _ => rfl) (fun _ hj => hj) fun j hj => ?_
      split_ifs at hj

lemma outside_reclaimExpiredLease {m : Job} (h : reclaimExpiredLease m now = some q) : Outside q := by
  rw [reclaimExpiredLease] at h
  split_ifs at h
  · cases h
    exact outside_cancelFencedJob ..
  · cases h
    refine outside_of_running (fun j hj => ?_) (fun _ => rfl) (fun _ hj => hj) fun j hj => ?_
    · simp only [Bool.and_eq_true, decide_eq_true_eq] at hj
      exact hj.1.1
    · split_ifs at hj

lemma Call.outside {c : Call} (h : c.issued now = .ok (some q)) : Outside q := by
  cases c with
  | heartbeat | setProgress =>
    cases h
    exact outside_fenced (fun _ => rfl) (fun _ hj => hj) fun _ _ => rfl
  | complete =>
    cases h
    exact outside_fenced (fun _ => rfl) (fun _ hj => hj) fun _ => nofun
  | suspend => exact outside_suspendJob h
  | checkpointRunning => exact outside_checkpointRunningJob h
  | fail => exact outside_failJob h
  | reclaim read =>
    injection h with h
    exact outside_reclaimExpiredLease h
  | invalid =>
    cases h
    exact outside_markInvalidJob _ _ _

lemma outside_cancelStmt (id : Text) (m : Job) (now : Stamp) : Outside (cancelStmt id m now) := by
  rw [cancelStmt]
  split_ifs
  · exact outside_cancelPendingJob id now
  · exact outside_flagJobCancel id now

/-- A committed row against the candidate that the claim has read: only a claim makes it run, so it
is as it was or has reached a terminal state. -/
def Fresh (m r : Job) : Prop :=
  r.state.isTerminal = true ∨ r.state = .pending ∧ r = m

def Claims (r w : Job) : Prop :=
  ∃ record owner leaseExpires now, tryMapJob r = .ok record ∧ w = (claimCandidate r record.payload owner leaseExpires now).set r

def Seen (phase : ClaimPhase) (r w : Job) : Prop :=
  if phase = .done (some r.id) then r.state = .pending ∧ r.cancelRequested = false ∧ Claims r w
  else w = r ∨ w.state.isTerminal = true ∧ w.counters = r.counters

variable {ι : Type}

structure ClaimInv (s : Store Job.id Text JobClaim ι) : Prop where
  slot : ∀ i x, s.session i = some x → jobQueueSlot ∈ x.slots
  single : ∀ i j x y, s.session i = some x → s.session j = some y → i = j
  fresh : ∀ i x left, s.session i = some x → x.data.phase = .scan left →
    ∀ m ∈ left, ∀ r ∈ s.table.rows, r.id = m.id → Fresh m r
  seen : ∀ i x, s.session i = some x → ∀ r ∈ s.table.rows, Seen x.data.phase r (x.view Job.id r)

lemma JobState.not_terminal_of_active {st : JobState} (h : st.isActive = true) : st.isTerminal = false := by
  cases st <;> first | rfl | cases h

lemma Fresh.row (hq : Outside q) {m : Job} (h : Fresh m r) : Fresh m (q.row r) := by
  rcases q.row_cases r with hrow | ⟨-, happ, hrow⟩
  · rwa [hrow]
  · rw [hrow]
    refine Or.inl ?_
    rcases h with hterm | ⟨hpend, -⟩
    · rw [JobState.not_terminal_of_active (hq.active r happ)] at hterm
      cases hterm
    · exact hq.pending r happ hpend

variable {w : Job}

lemma Claims.running (h : Claims r w) : w.state = .running ∧ w.leaseGeneration = r.leaseGeneration + 1 := by
  obtain ⟨record, owner, leaseExpires, now, -, rfl⟩ := h
  exact ⟨rfl, rfl⟩

lemma Seen.ne_of_done (h : Seen phase r w) (hd : phase = .done (some r.id)) : w ≠ r := by
  rw [Seen, if_pos hd] at h
  rintro rfl
  have hrun := h.2.2.running.1
  rw [h.1] at hrun
  cases hrun

lemma Seen.open (h : Seen phase r w) (hd : phase ≠ .done (some r.id)) : w = r ∨ w.state.isTerminal = true ∧ w.counters = r.counters := by
  rwa [Seen, if_neg hd] at h

lemma Seen.eq_of_pending (h : Seen phase r w) (hd : phase ≠ .done (some r.id)) (hw : w.state = .pending) : w = r := by
  rcases h.open hd with h | ⟨h, -⟩
  · exact h
  · rw [hw] at h
    cases h

variable [DecidableEq ι] {s s' : Store Job.id Text JobClaim ι}

namespace ClaimInv

omit [DecidableEq ι] in
lemma initial (table : JobTable) : ClaimInv (⟨table, fun _ : ι => none⟩ : Store Job.id Text JobClaim ι) :=
  ⟨nofun, nofun, nofun, nofun⟩

lemma exec [Fintype ι] (h : ClaimInv s) (hq : Outside q) (hs : s.exec q = some s') : ClaimInv s' := by
  obtain ⟨hfree, rfl⟩ := Store.exec_eq_some.mp hs
  refine ⟨h.slot, h.single, ?_, ?_⟩
  · intro i x left hx hphase m hm r hr hid
    obtain ⟨r₀, hr₀, rfl⟩ := (Table.mem_modify q.key_row).mp hr
    exact (h.fresh i x left hx hphase m hm r₀ hr₀ (by rwa [← q.key_row r₀])).row hq
  · intro i x hx w hw
    obtain ⟨r, hr, rfl⟩ := (Table.mem_modify q.key_row).mp hw
    have hseen := h.seen i x hx r hr
    cases hold : x.holds Job.id r.id with
    | true =>
      have hrow : q.row r = r := by
        rcases q.row_cases r with hrow | ⟨hkey, -, -⟩
        · exact hrow
        · rw [hkey, hfree i x hx] at hold
          cases hold
      rwa [hrow]
    | false =>
      have hview : x.view Job.id (q.row r) = q.row r := Txn.view_of_not_holds (by rwa [q.key_row])
      have hopen : x.data.phase ≠ .done (some r.id) := fun hd =>
        hseen.ne_of_done hd (Txn.view_of_not_holds hold)
      rw [Seen, show (q.row r).id = r.id from q.key_row r, if_neg hopen]
      exact Or.inl hview

lemma put (h : ClaimInv s) {i : ι} {x x' : Txn Job Text JobClaim} (hx : s.session i = some x)
    (hslots : x'.slots = x.slots)
    (hfresh : ∀ left, x'.data.phase = .scan left → ∀ m ∈ left, ∀ r ∈ s.table.rows, r.id = m.id → Fresh m r)
    (hseen : ∀ r ∈ s.table.rows, Seen x'.data.phase r (x'.view Job.id r)) : ClaimInv (s.put i (some x')) := by
  -- every session of the new store is the changed one: there is only one
  have hone : ∀ j y, (s.put i (some x')).session j = some y → j = i ∧ y = x' := by
    intro j y hy
    by_cases hj : j = i
    · subst hj
      exact ⟨rfl, by simpa [Store.put] using hy.symm⟩
    · have hy : s.session j = some y := by simpa [Store.put, hj] using hy
      exact absurd (h.single j i y x hy hx) hj
  refine ⟨fun j y hy => ?_, fun j j' y y' hy hy' => ?_, fun j y left hy => ?_, fun j y hy => ?_⟩
  · obtain ⟨rfl, rfl⟩ := hone j y hy
    exact hslots ▸ h.slot j x hx
  · rw [(hone j y hy).1, (hone j' y' hy').1]
  · obtain ⟨rfl, rfl⟩ := hone j y hy
    exact hfresh left
  · obtain ⟨rfl, rfl⟩ := hone j y hy
    exact hseen

lemma drop (h : ClaimInv s) (i : ι) : ClaimInv (s.put i none) := by
  have hold : ∀ j y, (s.put i none).session j = some y → s.session j = some y := by
    intro j y hy
    by_cases hj : j = i
    · subst hj
      simp [Store.put] at hy
    · simpa [Store.put, hj] using hy
  exact ⟨fun j y hy => h.slot j y (hold j y hy), fun j j' y y' hy hy' => h.single j j' y y' (hold j y hy) (hold j' y' hy'),
    fun j y left hy => h.fresh j y left (hold j y hy), fun j y hy => h.seen j y (hold j y hy)⟩

end ClaimInv

variable {d : JobClaim} {x : Txn Job Text JobClaim} [Fintype ι]

structure Discards (q : JobStmt) : Prop where
  pending : ∀ j, q.applies j = true → j.state = .pending
  counters : ∀ j, (q.set j).counters = j.counters
  terminal : ∀ j, (q.set j).state.isTerminal = true

lemma discards_markPendingJobInvalid (id reason : Text) (now : Stamp) : Discards (markPendingJobInvalid id reason now) where
  pending j hj := by simpa [markPendingJobInvalid] using hj
  counters _ := rfl
  terminal _ := rfl

lemma discards_cancelCandidate (id : Text) (now : Stamp) : Discards (cancelCandidate id now) where
  pending j hj := by simpa [cancelCandidate] using hj
  counters _ := rfl
  terminal _ := rfl

lemma JobClaim.candidate_cases (d : JobClaim) (m : Job) (left : List Job) :
    (∃ q, Discards q ∧ d.candidate m left = (q, fun _ => .scan left)) ∨
      (m.cancelRequested = false ∧ ∃ record, tryMapJob m = .ok record ∧
        d.candidate m left = (claimCandidate m record.payload d.owner d.leaseExpires d.now,
          fun hit => if hit then .done (some m.id) else .scan left)) := by
  cases hflag : m.cancelRequested with
  | true => exact Or.inl ⟨_, discards_cancelCandidate m.id d.now, by simp [candidate, hflag]⟩
  | false =>
    cases hmap : tryMapJob m with
    | error reason => exact Or.inl ⟨_, discards_markPendingJobInvalid m.id reason d.now, by simp [candidate, hflag, hmap]⟩
    | ok record => exact Or.inr ⟨rfl, record, rfl, by simp [candidate, hflag, hmap]⟩

lemma Seen.mono {phase phase' : ClaimPhase} {r w : Job} (h : Seen phase r w) (hd : phase ≠ .done (some r.id))
    (hd' : phase' ≠ .done (some r.id)) : Seen phase' r w := by
  rw [Seen, if_neg hd']
  exact h.open hd

namespace ClaimInv

variable {i : ι}

omit [Fintype ι] in
lemma setData (h : ClaimInv s) (hx : s.session i = some x)
    (hopen : ∀ id, x.data.phase ≠ .done (some id)) (hopen' : ∀ id, d.phase ≠ .done (some id))
    (hfresh : ∀ left, d.phase = .scan left → ∀ m ∈ left, ∀ r ∈ s.table.rows, r.id = m.id → Fresh m r)
    (hs : s.setData i d = some s') : ClaimInv s' := by
  obtain ⟨y, hy, hs⟩ := bind_eq_some_iff.mp hs
  obtain rfl := mem_unique hx hy
  obtain rfl := some.inj hs
  exact h.put hx rfl hfresh fun r hr => (h.seen i x hx r hr).mono (hopen _) (hopen' _)

lemma discard (h : ClaimInv s) {q : JobStmt} (hx : s.session i = some x)
    (hq : Discards q) (hopen : ∀ id, x.data.phase ≠ .done (some id)) (hopen' : ∀ id, d.phase ≠ .done (some id))
    (hfresh : ∀ left, d.phase = .scan left → ∀ m ∈ left, ∀ r ∈ s.table.rows, r.id = m.id → Fresh m r)
    (hs : s.execIn i q (fun _ => d) = some s') : ClaimInv s' := by
  obtain ⟨y, x', hy, rfl, hslots, -, hcase⟩ := Store.execIn_eq_some hs
  obtain rfl := mem_unique hx hy
  rcases hcase with ⟨hdata, hwrites⟩ | ⟨r₀, hr₀, hkey, happ, hdata, hwrites⟩
  · refine h.put hx hslots (hdata ▸ hfresh) fun r hr => ?_
    rw [hdata, Txn.view_congr hwrites]
    exact (h.seen i x hx r hr).mono (hopen _) (hopen' _)
  · refine h.put hx hslots (hdata ▸ hfresh) fun r hr => ?_
    rw [hdata]
    rcases Txn.view_write hr₀ hr hwrites with ⟨rfl, hview⟩ | ⟨-, hview⟩
    · have heq := (h.seen i x hx r₀ hr).eq_of_pending (hopen _) (hq.pending _ happ)
      rw [hview, Seen, if_neg (hopen' _), heq]
      exact Or.inr ⟨hq.terminal r₀, hq.counters r₀⟩
    · rw [hview]
      exact (h.seen i x hx r hr).mono (hopen _) (hopen' _)

lemma claimCandidate (h : ClaimInv s) {m : Job} {left : List Job} {record : JobRecord}
    {owner : Text} {leaseExpires now : Stamp} (hx : s.session i = some x) (hphase : x.data.phase = .scan (m :: left))
    (hflag : m.cancelRequested = false) (hmap : tryMapJob m = .ok record)
    (hs : s.execIn i (claimCandidate m record.payload owner leaseExpires now)
      (fun hit => { x.data with phase := if hit then .done (some m.id) else .scan left }) = some s') : ClaimInv s' := by
  obtain ⟨y, x', hy, rfl, hslots, -, hcase⟩ := Store.execIn_eq_some hs
  obtain rfl := mem_unique hx hy
  have hopen : ∀ id, x.data.phase ≠ .done (some id) := by simp [hphase]
  have hfresh := h.fresh i x _ hx hphase
  rcases hcase with ⟨hdata, hwrites⟩ | ⟨r₀, hr₀, hkey, happ, hdata, hwrites⟩
  · refine h.put hx hslots ?_ fun r hr => ?_
    · rintro l hl m' hm'
      obtain rfl : left = l := by simpa [hdata] using hl
      exact hfresh m' (mem_cons_of_mem m hm')
    · rw [hdata, Txn.view_congr hwrites]
      exact (h.seen i x hx r hr).mono (hopen _) (by simp)
  · refine h.put hx hslots (by simp [hdata]) fun r hr => ?_
    have hphase' : x'.data.phase = .done (some r₀.id) := by rw [hdata, hkey]; rfl
    rw [hphase']
    rcases Txn.view_write hr₀ hr hwrites with ⟨rfl, hview⟩ | ⟨hne, hview⟩
    · have hpend : (x.view Job.id r₀).state = .pending := by simpa [Jobs.claimCandidate] using happ
      have heq := (h.seen i x hx r₀ hr).eq_of_pending (hopen _) hpend
      rw [heq] at hpend
      rcases hfresh m mem_cons_self r₀ hr hkey with hterm | ⟨-, rfl⟩
      · rw [hpend] at hterm
        cases hterm
      · rw [hview, Seen, if_pos rfl, heq]
        exact ⟨hpend, hflag, record, owner, leaseExpires, now, hmap, rfl⟩
    · rw [hview]
      exact (h.seen i x hx r hr).mono (hopen _) (by simpa using hne)

omit [Fintype ι] [DecidableEq ι] in
lemma candidates (h : ClaimInv s) (hx : s.session i = some x)
    (hopen : ∀ id, x.data.phase ≠ .done (some id)) (resourceClass : JobResourceClass) (now : Stamp) :
    ∀ m ∈ claimCandidates resourceClass now (s.table.rows.map (x.view Job.id)), ∀ r ∈ s.table.rows, r.id = m.id → Fresh m r := by
  intro m hm r hr hid
  have hm := mem_filter.mp ((mem_insertionSort _).mp (mem_of_mem_take hm))
  obtain ⟨r₀, hr₀, rfl⟩ := List.mem_map.mp hm.1
  have hpend : (x.view Job.id r₀).state = .pending := by
    have := hm.2
    simp only [claimable, Bool.and_eq_true, decide_eq_true_eq] at this
    exact this.1.2
  obtain rfl : r = r₀ := s.table.eq_of_key hr hr₀ (hid.trans (x.key_view r₀))
  have heq := (h.seen i x hx r hr).eq_of_pending (hopen _) hpend
  rw [heq] at hpend ⊢
  exact Or.inr ⟨hpend, rfl⟩

lemma claimStep (h : ClaimInv s) (hs : claimStep s i = some s') : ClaimInv s' := by
  obtain ⟨x, hx, hs⟩ := bind_eq_some_iff.mp hs
  cases hphase : x.data.phase with
  | done => simp [hphase] at hs
  | sanitize ms =>
    have hopen : ∀ id, x.data.phase ≠ .done (some id) := by simp [hphase]
    cases ms with
    | nil =>
      simp only [hphase] at hs
      refine h.setData hx hopen (by simp) (fun left hleft => ?_) hs
      cases hleft
      exact h.candidates hx hopen _ _
    | cons m ms =>
      simp only [hphase] at hs
      exact h.discard hx (discards_markPendingJobInvalid ..) hopen (by simp) (by simp) hs
  | scan ms =>
    have hopen : ∀ id, x.data.phase ≠ .done (some id) := by simp [hphase]
    cases ms with
    | nil =>
      simp only [hphase] at hs
      exact h.setData hx hopen (by simp) (by simp) hs
    | cons m left =>
      simp only [hphase] at hs
      rcases x.data.candidate_cases m left with ⟨q, hq, hcand⟩ | ⟨hflag, record, hmap, hcand⟩
      · rw [hcand] at hs
        refine h.discard hx hq hopen (by simp) (fun l hl m' hm' => ?_) hs
        obtain rfl : left = l := by simpa using hl
        exact h.fresh i x _ hx hphase m' (mem_cons_of_mem m hm')
      · rw [hcand] at hs
        exact h.claimCandidate hx hphase hflag hmap hs

end ClaimInv

end Bookclerk.Jobs
