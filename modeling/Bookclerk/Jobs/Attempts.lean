import Bookclerk.Jobs.AtomicAdmission
import Bookclerk.Jobs.Lease

namespace Bookclerk.Jobs

open Lexical Db Bookclerk.System List Option

inductive JobEvent where
  | claimed (id : Text)
  | suspended (id : Text)
  deriving DecidableEq

/-- What released the job last, newest event first, was a suspension. -/
def parked (id : Text) : List JobEvent → Bool
  | [] => false
  | .claimed k :: history => k ≠ id && parked id history
  | .suspended k :: history => k = id || parked id history

/-- The claims of the job that did not resume it from a suspension. -/
def attempts (id : Text) : List JobEvent → Nat
  | [] => 0
  | .claimed k :: history => attempts id history + if k = id ∧ parked id history = false then 1 else 0
  | .suspended _ :: history => attempts id history

structure Ledger (ι : Type) where
  queue : Queue ι
  reads : List Job
  history : List JobEvent

def Ledger.initial {ι : Type} : Ledger ι :=
  ⟨.initial ⟨[], List.nodup_nil⟩, [], []⟩

abbrev Ledger.table {ι : Type} (l : Ledger ι) : JobTable :=
  l.queue.store.table

inductive LedgerAction (ι : Type) where
  | enqueue (spec : EnqueueJobSpec) (id : Text) (now : Stamp)
  | read (id : Text)
  | act (a : Action ι)

/-- What the call has read is a row of its job, at some time before. -/
def Call.grounded (reads : List Job) : Call → Bool
  | .suspend f _ _ read | .checkpointRunning f _ read | .fail f _ _ read => read.all fun m => m ∈ reads && m.id = f.jobId
  | .reclaim read => read ∈ reads
  | .heartbeat _ _ _ | .setProgress _ _ | .complete _ _ | .invalid _ _ => true

def Action.grounded {ι : Type} (reads : List Job) : Action ι → Bool
  | .call c _ => c.grounded reads
  | _ => true

def Call.suspends : Call → Bool
  | .suspend _ _ _ _ => true
  | _ => false

def ClaimPhase.claimed : ClaimPhase → Option Text
  | .done claimed => claimed
  | _ => none

variable {ι : Type}

def Queue.event (q : Queue ι) : Action ι → Option JobEvent
  | .call c now =>
    match c.issued now with
    | .ok (some stmt) => if c.suspends && q.store.matched stmt then some (.suspended stmt.target) else none
    | _ => none
  | .commit i => ((q.store.session i).bind (·.data.phase.claimed)).map .claimed
  | _ => none

variable [Fintype ι] [DecidableEq ι]

/-- `enqueue_job_on` holds the slot of the queue, as the claims do. -/
def ledgerStep (l : Ledger ι) : LedgerAction ι → Option (Ledger ι)
  | .enqueue spec id now =>
    if l.queue.store.Locked [] jobQueueSlot then none
    else
      match enqueueJobOn l.table spec id now with
      | .ok ⟨_, some job⟩ => (l.queue.store.insert job).map fun store => { l with queue := { l.queue with store := store } }
      | _ => some l
  | .read id => some { l with reads := (l.table.find id).toList ++ l.reads }
  | .act a =>
    if a.grounded l.reads then
      (step l.queue a).map fun queue => { l with queue := queue, history := (l.queue.event a).toList ++ l.history }
    else none

def Job.resumes (j : Job) : Bool :=
  j.payload.known?.any (·.resumePending)

structure Accounted (n : Nat) (parked : Bool) (r : Job) : Prop where
  count : r.attemptCount = n
  bound : r.attemptCount ≤ r.maxAttempts
  running : r.state = .running → parked = false ∧ 1 ≤ r.attemptCount ∧ r.resumes = false
  pending : r.state = .pending → if parked then 1 ≤ r.attemptCount ∧ r.resumes = true
    else r.attemptCount < r.maxAttempts ∧ (r.resumes = true → r.attemptCount = 0)

namespace Accounted

variable {n : Nat} {p : Bool} {r r' : Job}

section

variable (h : Accounted n p r) (hc : r'.counters = r.counters)
include h hc

lemma recount {p' : Bool}
    (hrun : r'.state = .running → p' = false ∧ 1 ≤ r.attemptCount ∧ r'.resumes = false)
    (hpend : r'.state = .pending → if p' then 1 ≤ r.attemptCount ∧ r'.resumes = true
      else r.attemptCount < r.maxAttempts ∧ (r'.resumes = true → r.attemptCount = 0)) : Accounted n p' r' := by
  obtain ⟨-, hcount, hmax⟩ : _ ∧ r'.attemptCount = r.attemptCount ∧ r'.maxAttempts = r.maxAttempts := by
    simpa [Job.counters] using hc
  refine ⟨hcount.trans h.count, ?_, ?_, ?_⟩ <;> rw [hcount]
  · rw [hmax]
    exact h.bound
  · exact hrun
  · rw [hmax]
    exact hpend

lemma of_terminal (ht : r'.state.isTerminal = true) (p' : Bool) :
    Accounted n p' r' := by
  refine h.recount hc (fun hs => ?_) fun hs => ?_ <;>
    · rw [hs] at ht
      cases ht

lemma kept (hs : r'.state = r.state) (hres : r'.resumes = r.resumes) :
    Accounted n p r' := by
  apply h.recount hc
  · rw [hs, hres]
    exact h.running
  · rw [hs, hres]
    exact h.pending

end

lemma released (h : Accounted n p r) (hrun : r.state = .running) (hc : r'.counters = r.counters) (hs : r'.state ≠ .running)
    (hpend : r'.state = .pending → r.attemptCount < r.maxAttempts) (hres : r'.resumes = false) : Accounted n p r' := by
  refine h.recount hc (fun h' => absurd h' hs) fun h' => ?_
  rw [(h.running hrun).1, hres]
  exact ⟨hpend h', nofun⟩

lemma claimed (h : Accounted n p r) (hpend : r.state = .pending) (hclaim : Claims r r') :
    Accounted (n + if p = false then 1 else 0) false r' := by
  obtain ⟨record, owner, leaseExpires, now, hmap, rfl⟩ := hclaim
  obtain ⟨-, hpayload⟩ := tryMapJob_ok hmap
  have hres : r.resumes = record.payload.resumePending := by rw [Job.resumes, hpayload]; rfl
  have hp := h.pending hpend
  have hcount := h.count
  have hbound := h.bound
  rw [hres] at hp
  have hres' : ((claimCandidate r record.payload owner leaseExpires now).set r).resumes = false := by
    cases hr : record.payload.resumePending <;> simp [claimCandidate, Job.resumes, hr, hpayload, Stored.known?]
  have hnext : (((claimCandidate r record.payload owner leaseExpires now).set r).attemptCount : Int) =
      (n + if p = false then 1 else 0 : Nat) ∧ 1 ≤ ((claimCandidate r record.payload owner leaseExpires now).set r).attemptCount ∧
      ((claimCandidate r record.payload owner leaseExpires now).set r).attemptCount ≤ r.maxAttempts := by
    cases hr : record.payload.resumePending <;> cases p <;> simp [claimCandidate, hr] at hp ⊢ <;> omega
  exact ⟨hnext.1, hnext.2.2, fun _ => ⟨rfl, hnext.2.1, hres'⟩, fun hs => by cases hs⟩

end Accounted

lemma Evolves.trans {a b c : Job} (h : Evolves a b) (h' : Evolves b c) : Evolves a c := by
  refine ⟨h'.id.trans h.id, h.generation.trans h'.generation, fun hset => h'.settled (h.settled hset), fun hrun hgen => ?_⟩
  have hgen' := le_antisymm (hgen.le.trans h.generation) h'.generation
  obtain ⟨hb, howner, hcount⟩ := h'.running hrun hgen'
  obtain ⟨ha, howner', hcount'⟩ := h.running hb (hgen'.symm.trans hgen)
  exact ⟨ha, howner.trans howner', hcount.trans hcount'⟩

structure Recalled (m r : Job) : Prop where
  resumes : m.state = .running → m.resumes = false
  evolves : Evolves m r

variable {c : Call} {stmt : JobStmt} {now : Stamp} {reads : List Job} {n : Nat} {p : Bool} {r : Job} {f : JobFence}

lemma Recalled.owned {m : Job} (h : Recalled m r) (hm : f.owns m = true) (hr : f.owns r = true) :
    r.counters = m.counters ∧ m.resumes = false := by
  obtain ⟨hmrun, -, hmgen⟩ := JobFence.owns_iff.mp hm
  obtain ⟨hrrun, -, hrgen⟩ := JobFence.owns_iff.mp hr
  exact ⟨(h.evolves.running hrrun (hrgen.trans hmgen.symm)).2.2, h.resumes hmrun⟩

lemma Call.accounted (hc : c.grounded reads = true) (hreads : ∀ m ∈ reads, m.id = r.id → Recalled m r)
    (hissued : c.issued now = .ok (some stmt)) (hid : r.id = stmt.target) (happ : stmt.applies r = true)
    (h : Accounted n p r) : Accounted n (p || c.suspends) (stmt.set r) := by
  have hcount := (Call.outside hissued).counters r
  -- what a fenced call has read is the row it changes, with the counters of today
  have hread : ∀ (f : JobFence) (read : Option Job) (m : Job), (read.all fun m => m ∈ reads && m.id = f.jobId) = true →
      read.filter f.owns = some m → stmt.target = f.jobId → f.owns r = true →
      r.counters = m.counters ∧ m.resumes = false := by
    intro f read m hall hfilter htarget howns
    obtain ⟨hm, hmowns⟩ := filter_eq_some_iff.mp hfilter
    rw [hm] at hall
    obtain ⟨hmem, hmid⟩ : m ∈ reads ∧ m.id = f.jobId := by simpa using hall
    exact (hreads m hmem (hmid.trans (htarget.symm.trans hid.symm))).owned hmowns howns
  cases c with
  | heartbeat | setProgress =>
    cases hissued
    change Accounted n (p || false) _
    rw [Bool.or_false]
    exact h.kept hcount rfl rfl
  | complete | invalid =>
    cases hissued
    exact h.of_terminal hcount rfl _
  | suspend f checkpoint wakeAt read =>
    rw [issued, suspendJob] at hissued
    split at hissued
    · cases hissued
    · split at hissued
      · cases hissued
      · split_ifs at hissued
        cases hissued
        obtain ⟨-, hone, -⟩ := h.running (JobFence.owns_iff.mp happ).1
        change Accounted n (p || true) _
        rw [Bool.or_true]
        exact h.recount hcount (fun hs => by cases hs) fun _ => ⟨hone, rfl⟩
  | checkpointRunning f checkpoint read =>
    rw [issued, checkpointRunningJob] at hissued
    split at hissued
    · cases hissued
    · next m hm =>
      split_ifs at hissued
      split at hissued
      · cases hissued
      · next payload hpayload =>
        cases hissued
        obtain ⟨-, hmres⟩ := hread f read m hc hm rfl happ
        obtain ⟨-, -, hres⟩ := h.running (JobFence.owns_iff.mp happ).1
        change Accounted n (p || false) _
        rw [Bool.or_false]
        refine h.kept hcount rfl ?_
        rw [hres, ← hmres, Job.resumes, Job.resumes, hpayload]
        rfl
  | fail f errorKind errorMessage read =>
    rw [issued, failJob] at hissued
    split at hissued
    · cases hissued
    · next m hm =>
      split_ifs at hissued
      · cases hissued
        exact h.of_terminal hcount rfl _
      · cases hissued
        obtain ⟨hsame, hmres⟩ := hread f read m hc hm rfl happ
        change Accounted n (p || false) _
        rw [Bool.or_false]
        refine h.released (JobFence.owns_iff.mp happ).1 hcount (fun hs => ?_) (fun hs => ?_) ?_
        · dsimp only [fenced] at hs
          split_ifs at hs
        · dsimp only [fenced] at hs
          split_ifs at hs with hretry
          obtain ⟨-, hattempts, hmax⟩ : _ ∧ r.attemptCount = m.attemptCount ∧ r.maxAttempts = m.maxAttempts := by
            simpa [Job.counters] using hsame
          rw [hattempts, hmax]
          exact of_decide_eq_true hretry
        · have hnone : m.payload.known?.filter (·.resumePending) = none := by
            rw [Job.resumes] at hmres
            cases hknown : m.payload.known? with
            | none => rfl
            | some payload => simpa [hknown] using hmres
          rw [← (h.running (JobFence.owns_iff.mp happ).1).2.2, Job.resumes, Job.resumes]
          simp only [fenced, hnone, map_none, ite_self, getD_none]
  | reclaim m =>
    injection hissued with hissued
    rw [reclaimExpiredLease] at hissued
    split_ifs at hissued
    · cases hissued
      exact h.of_terminal hcount rfl _
    · cases hissued
      obtain ⟨⟨hrun, hgen⟩, -⟩ : (r.state = .running ∧ r.leaseGeneration = m.leaseGeneration) ∧ _ := by simpa using happ
      have hsame := ((hreads m (by simpa [grounded] using hc) hid.symm).evolves.running hrun hgen).2.2
      change Accounted n (p || false) _
      rw [Bool.or_false]
      refine h.released hrun hcount (fun hs => ?_) (fun hs => ?_) (h.running hrun).2.2
      · split_ifs at hs
      · split_ifs at hs with hdone
        obtain ⟨-, hattempts, hmax⟩ : _ ∧ r.attemptCount = m.attemptCount ∧ r.maxAttempts = m.maxAttempts := by
          simpa [Job.counters] using hsame
        rw [hattempts, hmax]
        simpa using hdone

lemma ClaimPhase.eq_done_of_claimed {phase : ClaimPhase} {id : Text} (h : phase.claimed = some id) : phase = .done (some id) := by
  cases phase with
  | done claimed => rw [show claimed = some id from h]
  | _ => cases h

omit [Fintype ι] in
lemma commitStep_rows {q q' : Queue ι} {i : ι} (h : commitStep q i = some q') :
    ∃ x, q.store.session i = some x ∧ q'.store.table = q.store.table.modify (x.view Job.id) x.key_view ∧
      ∀ id ∈ x.data.phase.claimed, ∃ r ∈ q.store.table.rows, r.id = id := by
  obtain ⟨y, hy, htable⟩ := bind_eq_some_iff.mp (commitStep_store h)
  obtain ⟨x, hx, h⟩ := bind_eq_some_iff.mp h
  obtain rfl := mem_unique hx hy
  refine ⟨x, hx, (congrArg Store.table (some.inj htable)).symm, fun id hid => ?_⟩
  simp only [ClaimPhase.eq_done_of_claimed hid] at h
  split at h
  · next record hrec =>
    obtain ⟨w, hw, -⟩ := map_eq_some_iff.mp hrec
    obtain ⟨r, hfind, -⟩ := map_eq_some_iff.mp hw
    obtain ⟨hr, hid⟩ := Table.find_eq_some.mp hfind
    exact ⟨r, hr, hid⟩
  · cases h

omit [Fintype ι] [DecidableEq ι] in
lemma enqueueJobOn_inserted {t : JobTable} {spec : EnqueueJobSpec} {id : Text} {o : EnqueueOutcome} {job : Job}
    (h : enqueueJobOn t spec id now = .ok ⟨o, some job⟩) :
    job = newJob spec id (spec.kind.dedupKey spec.payload) spec.kind.resourceClass now := by
  rw [enqueueJobOn] at h
  by_cases hkind : spec.kind = .invalid
  · rw [if_pos hkind] at h
    cases h
  · rw [if_neg hkind] at h
    by_cases hv : spec.payload.v ≠ jobPayloadVersion
    · rw [if_pos hv] at h
      cases h
    · rw [if_neg hv] at h
      dsimp only at h
      split at h
      · split at h <;> cases h
      · split_ifs at h <;> cases h
        rfl

structure LedgerInv (l : Ledger ι) : Prop where
  claims : ClaimInv l.queue.store
  rows : ∀ r ∈ l.table.rows, Accounted (attempts r.id l.history) (parked r.id l.history) r
  reads : ∀ m ∈ l.reads, ∃ r ∈ l.table.rows, Recalled m r
  unknown : ∀ id, (∀ r ∈ l.table.rows, r.id ≠ id) → attempts id l.history = 0 ∧ parked id l.history = false

variable {l l' : Ledger ι} {q' : Queue ι}

namespace LedgerInv

omit [Fintype ι] [DecidableEq ι] in
lemma recalled (h : LedgerInv l) (hr : r ∈ l.table.rows) : ∀ m ∈ l.reads, m.id = r.id → Recalled m r := by
  intro m hm hid
  obtain ⟨r', hr', hrec⟩ := h.reads m hm
  obtain rfl : r' = r := l.table.eq_of_key hr' hr (hrec.evolves.id.trans hid)
  exact hrec

lemma moved (h : LedgerInv l) {e : Option JobEvent} (hm : Moved l.queue.store q'.store)
    (hrows : ∀ r ∈ q'.store.table.rows,
      Accounted (attempts r.id (e.toList ++ l.history)) (parked r.id (e.toList ++ l.history)) r)
    (hknown : ∀ e' ∈ e, ∃ r ∈ l.table.rows, e' = .claimed r.id ∨ e' = .suspended r.id) :
    LedgerInv ⟨q', l.reads, e.toList ++ l.history⟩ := by
  have hlater := h.claims.later hm
  refine ⟨h.claims.moved hm, hrows, fun m hm => ?_, fun id hid => ?_⟩
  · obtain ⟨r, hr, hrec⟩ := h.reads m hm
    obtain ⟨r', hr', hev⟩ := hlater r hr
    exact ⟨r', hr', hrec.resumes, hrec.evolves.trans hev⟩
  · have hold : ∀ r ∈ l.table.rows, r.id ≠ id := by
      intro r hr
      obtain ⟨r', hr', hev⟩ := hlater r hr
      exact hev.id ▸ hid r' hr'
    cases e with
    | none => exact h.unknown id hold
    | some e =>
      obtain ⟨r, hr, rfl | rfl⟩ := hknown e rfl <;> simpa [attempts, parked, hold r hr] using h.unknown id hold

lemma idle (h : LedgerInv l) (hm : Moved l.queue.store q'.store) (ht : q'.store.table = l.table) : LedgerInv ⟨q', l.reads, l.history⟩ :=
  h.moved (e := none) hm (ht ▸ h.rows) nofun

lemma quiet (h : LedgerInv l) (hm : Moved l.queue.store q'.store) (hq : Outside stmt) (hquiet : Quiet stmt)
    (hs : l.queue.store.exec stmt = some q'.store) : LedgerInv ⟨q', l.reads, l.history⟩ := by
  refine h.moved (e := none) hm (fun r' hr' => ?_) nofun
  rw [(Store.exec_eq_some.mp hs).2] at hr'
  obtain ⟨r, hr, rfl⟩ := (Table.mem_modify stmt.key_row).mp hr'
  rw [show (stmt.row r).id = r.id from stmt.key_row r]
  rcases stmt.row_cases r with hrow | ⟨-, happ, hrow⟩
  · rw [hrow]
    exact h.rows r hr
  · rw [hrow]
    rcases hquiet r happ with hterm | ⟨hstate, hpayload⟩
    · exact (h.rows r hr).of_terminal (hq.counters r) hterm _
    · exact (h.rows r hr).kept (hq.counters r) hstate (by rw [Job.resumes, Job.resumes, hpayload])

lemma call (h : LedgerInv l) (hc : c.grounded l.reads = true) (hs : step l.queue (.call c now) = some q') :
    LedgerInv ⟨q', l.reads, (l.queue.event (.call c now)).toList ++ l.history⟩ := by
  have hm := step_moved hs
  rw [step] at hs
  cases hissued : c.issued now with
  | error =>
    simp only [Queue.event, hissued] at hs ⊢
    cases hs
    exact h.idle hm rfl
  | ok issued =>
    cases issued with
    | none =>
      simp only [Queue.event, hissued] at hs ⊢
      cases hs
      exact h.idle hm rfl
    | some stmt =>
      simp only [Queue.event, hissued] at hs ⊢
      obtain ⟨store, hexec, rfl⟩ := map_eq_some_iff.mp hs
      obtain ⟨-, rfl⟩ := Store.exec_eq_some.mp hexec
      have hfind : l.queue.store.matched stmt = true → ∃ r ∈ l.table.rows, r.id = stmt.target ∧ stmt.applies r = true := by
        intro hmatched
        obtain ⟨r, hr, happ⟩ := (Option.any_eq_true ..).mp hmatched
        obtain ⟨hr, hid⟩ := Table.find_eq_some.mp hr
        exact ⟨r, hr, hid, happ⟩
      refine h.moved hm (fun r' hr' => ?_) fun e he => ?_
      · obtain ⟨r, hr, rfl⟩ := (Table.mem_modify stmt.key_row).mp hr'
        rw [show (stmt.row r).id = r.id from stmt.key_row r, Stmt.row]
        split_ifs with hevent hit hit
        · have hacc := Call.accounted hc (h.recalled hr) hissued hit.1 hit.2 (h.rows r hr)
          rw [(Bool.and_eq_true_iff.mp hevent).1] at hacc
          simpa [attempts, parked, hit.1] using hacc
        · obtain ⟨r₀, hr₀, hid₀, happ₀⟩ := hfind (Bool.and_eq_true_iff.mp hevent).2
          have hne : stmt.target ≠ r.id := by
            intro htarget
            obtain rfl := l.table.eq_of_key hr₀ hr (hid₀.trans htarget)
            exact hit ⟨hid₀, happ₀⟩
          simpa [attempts, parked, hne] using h.rows r hr
        · have hmatched : l.queue.store.matched stmt = true := by
            rw [Store.matched, Table.find_eq_some.mpr ⟨hr, hit.1⟩]
            exact hit.2
          have hacc := Call.accounted hc (h.recalled hr) hissued hit.1 hit.2 (h.rows r hr)
          rwa [show c.suspends = false by simpa [hmatched] using hevent, Bool.or_false] at hacc
        · exact h.rows r hr
      · split_ifs at he with hevent
        · obtain ⟨r, hr, hid, -⟩ := hfind (Bool.and_eq_true_iff.mp hevent).2
          cases he
          exact ⟨r, hr, .inr (by rw [hid])⟩
        · cases he

lemma commit (h : LedgerInv l) {i : ι} (hs : step l.queue (.commit i) = some q') :
    LedgerInv ⟨q', l.reads, (l.queue.event (.commit i)).toList ++ l.history⟩ := by
  have hm := step_moved hs
  obtain ⟨x, hx, htable, hfound⟩ := commitStep_rows hs
  have hevent : l.queue.event (.commit i) = x.data.phase.claimed.map .claimed := by rw [Queue.event, hx]; rfl
  rw [hevent]
  refine h.moved hm (fun r' hr' => ?_) fun e he => ?_
  · rw [htable] at hr'
    obtain ⟨r, hr, rfl⟩ := (Table.mem_modify x.key_view).mp hr'
    have hacc := h.rows r hr
    have hseen := h.claims.seen i x hx r hr
    rw [show (x.view Job.id r).id = r.id from x.key_view r]
    by_cases hd : x.data.phase = .done (some r.id)
    · rw [Seen, if_pos hd] at hseen
      have hnext := hacc.claimed hseen.1 hseen.2.2
      simpa [hd, ClaimPhase.claimed, attempts, parked] using hnext
    · have hsame : attempts r.id ((x.data.phase.claimed.map .claimed).toList ++ l.history) = attempts r.id l.history ∧
          parked r.id ((x.data.phase.claimed.map .claimed).toList ++ l.history) = parked r.id l.history := by
        cases hk : x.data.phase.claimed with
        | none => exact ⟨rfl, rfl⟩
        | some k =>
          have hne : k ≠ r.id := by
            rintro rfl
            exact hd (ClaimPhase.eq_done_of_claimed hk)
          simp [attempts, parked, hne]
      rw [hsame.1, hsame.2]
      rcases hseen.open hd with heq | ⟨hterm, hcount⟩
      · rwa [heq]
      · exact hacc.of_terminal hcount hterm _
  · obtain ⟨id, hid, rfl⟩ := map_eq_some_iff.mp he
    obtain ⟨r, hr, rfl⟩ := hfound id hid
    exact ⟨r, hr, .inl rfl⟩

lemma act (h : LedgerInv l) {a : Action ι} (ha : a.grounded l.reads = true) (hs : step l.queue a = some q') :
    LedgerInv ⟨q', l.reads, (l.queue.event a).toList ++ l.history⟩ := by
  have hm := step_moved hs
  cases a with
  | call c now => exact h.call ha hs
  | commit i => exact h.commit hs
  | openClaim i =>
    obtain ⟨s₁, hs₁, hs⟩ := bind_eq_some_iff.mp hs
    obtain ⟨s₂, hs₂, hs⟩ := bind_eq_some_iff.mp hs
    cases hs
    exact h.idle hm (start_lock_table hs₁ hs₂)
  | claim i =>
    obtain ⟨store, hclaim, rfl⟩ := map_eq_some_iff.mp hs
    exact h.idle hm (claimStep_table hclaim)
  | rollback i =>
    obtain ⟨store, hback, rfl⟩ := map_eq_some_iff.mp hs
    obtain ⟨x, -, hback⟩ := bind_eq_some_iff.mp hback
    cases hback
    exact h.idle hm rfl
  | openCancel j id =>
    rw [step] at hs
    split_ifs at hs
    cases hs
    exact h.idle hm rfl
  | cancel j now =>
    rcases cancelStep_spec hs with ⟨hstore, -⟩ | ⟨stmt, hq, hquiet, hexec, -⟩
    · exact h.idle hm (by rw [hstore])
    · exact h.quiet hm hq hquiet hexec

omit [Fintype ι] [DecidableEq ι] in
lemma enqueue (h : LedgerInv l) {spec : EnqueueJobSpec} {id key : Text} {cls : JobResourceClass}
    {store : Store Job.id Text JobClaim ι} (hfree : ¬ l.queue.store.Locked [] jobQueueSlot)
    (hs : l.queue.store.insert (newJob spec id key cls now) = some store) :
    LedgerInv { l with queue := { l.queue with store := store } } := by
  rw [Store.insert] at hs
  split_ifs at hs with hnew
  cases hs
  -- every open claim holds the slot, so there is none
  have hnone : ∀ i x, l.queue.store.session i ≠ some x := fun i x hx =>
    Store.not_locked_iff.mp hfree i x not_mem_nil hx (h.claims.slot i x hx)
  have hids : ∀ r ∈ l.table.rows, r.id ≠ id := fun r hr heq => hnew (List.mem_map.mpr ⟨r, hr, heq⟩)
  refine ⟨⟨fun i x hx => absurd hx (hnone i x), fun i _ x _ hx => absurd hx (hnone i x), fun i x _ hx => absurd hx (hnone i x),
    fun i x hx => absurd hx (hnone i x)⟩, fun r hr => ?_, fun m hm => ?_, fun k hk => ?_⟩
  · rcases mem_cons.mp hr with rfl | hr
    · obtain ⟨hcount, hparked⟩ := h.unknown id hids
      refine ⟨by simp [newJob, hcount], by simp [newJob], nofun, fun _ => ?_⟩
      simp only [newJob, hparked]
      exact ⟨by simp, fun _ => trivial⟩
    · exact h.rows r hr
  · obtain ⟨r, hr, hrec⟩ := h.reads m hm
    exact ⟨r, mem_cons_of_mem _ hr, hrec⟩
  · exact h.unknown k fun r hr => hk r (mem_cons_of_mem _ hr)

lemma step (h : LedgerInv l) {a : LedgerAction ι} (hs : ledgerStep l a = some l') : LedgerInv l' := by
  cases a with
  | enqueue spec id now =>
    rw [ledgerStep] at hs
    split_ifs at hs with hlocked
    split at hs
    · next job hjob =>
      obtain ⟨store, hinsert, rfl⟩ := map_eq_some_iff.mp hs
      rw [enqueueJobOn_inserted hjob] at hinsert
      exact h.enqueue hlocked hinsert
    · cases hs
      exact h
  | read id =>
    cases hs
    refine ⟨h.claims, h.rows, fun m hm => ?_, h.unknown⟩
    rcases mem_append.mp hm with hm | hm
    · obtain ⟨hr, -⟩ := Table.find_eq_some.mp (mem_toList.mp hm)
      exact ⟨m, hr, fun hrun => ((h.rows m hr).running hrun).2.2, .refl m⟩
    · exact h.reads m hm
  | act a =>
    rw [ledgerStep] at hs
    split_ifs at hs with ha
    obtain ⟨q', hstep, rfl⟩ := map_eq_some_iff.mp hs
    exact h.act ha hstep

end LedgerInv

omit [Fintype ι] [DecidableEq ι] in
lemma ledgerInv_initial : LedgerInv (Ledger.initial : Ledger ι) where
  claims := ClaimInv.initial _
  rows _ hr := absurd hr not_mem_nil
  reads _ hm := absurd hm not_mem_nil
  unknown _ _ := ⟨rfl, rfl⟩

theorem attempts_bounded (as : List (LedgerAction ι)) (hrun : run ledgerStep Ledger.initial as = some l) :
    ∀ r ∈ l.table.rows, r.attemptCount ≤ r.maxAttempts ∧ (attempts r.id l.history : Int) = r.attemptCount := by
  have h : LedgerInv l := Stable.run (fun _ _ _ h hs => h.step hs) ledgerInv_initial hrun
  exact fun r hr => ⟨(h.rows r hr).bound, (h.rows r hr).count.symm⟩

def claimedOnce : List (LedgerAction (Fin 1)) :=
  .enqueue scanSpec (utf8 "j") 0 :: (claimActions (utf8 "a") 1).map .act ++ [.read (utf8 "j")]

def resumedOnce : List (LedgerAction (Fin 1)) :=
  let row := (run ledgerStep .initial claimedOnce).bind (·.table.find (utf8 "j"))
  claimedOnce ++ .act (.call (.suspend ⟨utf8 "j", utf8 "a", 1⟩ ⟨1, []⟩ 1 row) 1) :: (claimActions (utf8 "b") 2).map .act

theorem attempts_bounded_resumed : ∃ l, run ledgerStep .initial resumedOnce = some l ∧
    l.history = [.claimed (utf8 "j"), .suspended (utf8 "j"), .claimed (utf8 "j")] ∧
    ∀ r ∈ l.table.rows, r.attemptCount ≤ r.maxAttempts ∧ (attempts r.id l.history : Int) = r.attemptCount := by
  have hrun : (run ledgerStep .initial resumedOnce).map Ledger.history =
      some [.claimed (utf8 "j"), .suspended (utf8 "j"), .claimed (utf8 "j")] := by decide +kernel
  obtain ⟨l, hrun, hhistory⟩ := map_eq_some_iff.mp hrun
  exact ⟨l, hrun, hhistory, attempts_bounded _ hrun⟩

lemma Later.trans {t t' t'' : JobTable} (h : Later t t') (h' : Later t' t'') : Later t t'' := by
  intro r hr
  obtain ⟨r', hr', hev⟩ := h r hr
  obtain ⟨r'', hr'', hev'⟩ := h' r' hr'
  exact ⟨r'', hr'', hev.trans hev'⟩

lemma ClaimInv.later_run {q q' : Queue ι} {as : List (Action ι)} (h : ClaimInv q.store) (hrun : run step q as = some q') :
    Later q.store.table q'.store.table := by
  have hstable : Stable step fun q' : Queue ι => ClaimInv q'.store ∧ Later q.store.table q'.store.table := by
    rintro t a t' ⟨hinv, hlater⟩ hs
    have hmoved := step_moved hs
    exact ⟨hinv.moved hmoved, hlater.trans (hinv.later hmoved)⟩
  exact (hstable.run ⟨h, .refl _⟩ hrun).2

theorem jobs_only_evolve (table : JobTable) (as bs : List (Action ι)) :
    EveryStep step (fun q _ => ∀ q', run step q bs = some q' → Later q.store.table q'.store.table) (Queue.initial table : Queue ι) as := by
  refine Stable.everyStep (fun q a q' h hs => ClaimInv.moved h (step_moved hs)) (fun q _ h q' hrun => ?_) (ClaimInv.initial table) as
  exact h.later_run hrun

end Bookclerk.Jobs
