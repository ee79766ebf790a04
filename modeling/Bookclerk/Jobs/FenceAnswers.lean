import Bookclerk.Jobs.Lease

namespace Bookclerk.Jobs

open Lexical Db Bookclerk.System Option

inductive FencedOp where
  | heartbeat (leaseSecs : Nat) (progress : Option Text)
  | setProgress (text : Text)
  | complete (progress : Option Text)
  | suspend (checkpoint : JobCheckpoint) (wakeAt : Stamp)
  | checkpointRunning (checkpoint : JobCheckpoint)
  | fail (errorKind errorMessage : Text)
  deriving DecidableEq

structure OpenCall where
  fence : JobFence
  op : FencedOp
  read : Option Job
  deriving DecidableEq

def OpenCall.call (c : OpenCall) : Call :=
  match c.op with
  | .heartbeat leaseSecs progress => .heartbeat c.fence leaseSecs progress
  | .setProgress text => .setProgress c.fence text
  | .complete progress => .complete c.fence progress
  | .suspend checkpoint wakeAt => .suspend c.fence checkpoint wakeAt c.read
  | .checkpointRunning checkpoint => .checkpointRunning c.fence checkpoint c.read
  | .fail errorKind errorMessage => .fail c.fence errorKind errorMessage c.read

/-- `fail_job` has found its own row flagged: it cancels, and drops what the cancellation answers. -/
def OpenCall.cancels (c : OpenCall) : Bool :=
  match c.op with
  | .fail _ _ => (c.read.filter c.fence.owns).any (·.cancelRequested)
  | _ => false

structure Workers (ι : Type) where
  queue : Queue ι
  calls : Nat → Option OpenCall

def Workers.initial {ι : Type} (table : JobTable) : Workers ι :=
  ⟨.initial table, fun _ => none⟩

abbrev Workers.table {ι : Type} (w : Workers ι) : JobTable :=
  w.queue.store.table

inductive WorkerAction (ι : Type) where
  | begin (k : Nat) (fence : JobFence) (op : FencedOp)
  | finish (k : Nat) (now : Stamp)
  | other (a : Action ι)

section Answer

variable {ι : Type} {w : Workers ι} {c : OpenCall} {now : Stamp}

def OpenCall.answer (c : OpenCall) (w : Workers ι) (now : Stamp) : Except Text Bool :=
  match c.call.issued now with
  | .error e => .error e
  | .ok none => .ok false
  | .ok (some stmt) => .ok (c.cancels || w.queue.store.matched stmt)

lemma OpenCall.call_fence (c : OpenCall) : c.call.fence = some c.fence := by
  cases hop : c.op with
  | _ => simp [call, hop, Call.fence]

lemma OpenCall.matched_iff {stmt : JobStmt} (h : c.call.issued now = .ok (some stmt)) :
    w.queue.store.matched stmt = (w.table.find c.fence.jobId).any c.fence.owns := by
  obtain ⟨htarget, happ⟩ := c.call.issued_fence c.call_fence h
  rw [Store.matched, htarget, funext happ]

lemma OpenCall.answer_of_cancels (h : c.cancels = true) (w : Workers ι) (now : Stamp) : c.answer w now = .ok true := by
  have hissued : ∃ stmt, c.call.issued now = .ok (some stmt) := by
    cases hop : c.op with
    | fail kind message =>
      simp only [cancels, hop] at h
      obtain ⟨m, hm, hflag⟩ := (any_eq_true ..).mp h
      exact ⟨_, by simp only [call, hop, Call.issued, failJob, hm, hflag]; rfl⟩
    | _ => simp [cancels, hop] at h
  obtain ⟨stmt, hstmt⟩ := hissued
  rw [answer, hstmt, h]
  rfl

end Answer

variable {ι : Type} [Fintype ι] [DecidableEq ι]

def workerStep (w : Workers ι) : WorkerAction ι → Option (Workers ι)
  | .begin k fence op =>
    if (w.calls k).isNone then
      some { w with calls := Function.update w.calls k (some ⟨fence, op, w.table.find fence.jobId⟩) }
    else none
  | .finish k now => do
    let c ← w.calls k
    let queue ← step w.queue (.call c.call now)
    some ⟨queue, Function.update w.calls k none⟩
  | .other a => (step w.queue a).map fun queue => { w with queue := queue }

def Lost (t : JobTable) (f : JobFence) : Prop :=
  ∃ r, t.find f.jobId = some r ∧ f.generation ≤ r.leaseGeneration ∧ f.owns r = false

structure Truthful (table : JobTable) (as : List (WorkerAction ι)) (c : OpenCall) (now : Stamp) (w w' : Workers ι) : Prop where
  changed : c.answer w now = .ok true → ∃ stmt row, c.call.issued now = .ok (some stmt) ∧ w.table.find c.fence.jobId = some row ∧
    c.fence.owns row = true ∧ w'.table.find c.fence.jobId = some (stmt.set row)
  lost : ∀ before since v, as = before ++ since → run workerStep (.initial table) before = some v → Lost v.table c.fence →
    ∀ answer, c.answer w now = .ok answer → answer = false

variable {w w' : Workers ι} {c : OpenCall} {f : JobFence} {now : Stamp} {k : Nat}

lemma workerStep_queue {a : WorkerAction ι} (hs : workerStep w a = some w') : w'.queue = w.queue ∨ ∃ b, step w.queue b = some w'.queue := by
  cases a with
  | begin k fence op =>
    simp only [workerStep] at hs
    split_ifs at hs
    cases hs
    exact .inl rfl
  | finish k now =>
    obtain ⟨c, -, hs⟩ := bind_eq_some_iff.mp hs
    obtain ⟨queue, hstep, hs⟩ := bind_eq_some_iff.mp hs
    cases hs
    exact .inr ⟨_, hstep⟩
  | other a =>
    obtain ⟨queue, hstep, rfl⟩ := map_eq_some_iff.mp hs
    exact .inr ⟨a, hstep⟩

lemma Lost.later {t t' : JobTable} (h : Lost t f) (ht : Later t t') : Lost t' f := by
  obtain ⟨r, hr, hgen, howns⟩ := h
  obtain ⟨hmem, hid⟩ := Table.find_eq_some.mp hr
  obtain ⟨r', hr', hev⟩ := ht r hmem
  refine ⟨r', Table.find_eq_some.mpr ⟨hr', hev.id.trans hid⟩, hgen.trans hev.generation, ?_⟩
  by_contra hno
  -- a row that runs under the generation it had before ran under it with the same owner
  obtain ⟨hrun, howner, hsame⟩ := JobFence.owns_iff.mp (Bool.eq_true_of_not_eq_false hno)
  obtain ⟨hwas, hkept, -⟩ := hev.running hrun (le_antisymm (hsame.le.trans hgen) hev.generation)
  have hold : f.owns r = true := JobFence.owns_iff.mpr ⟨hwas, hkept ▸ howner, le_antisymm (hsame ▸ hev.generation) hgen⟩
  rw [howns] at hold
  cases hold

lemma workerStep_later {a : WorkerAction ι} (hinv : ClaimInv w.queue.store) (hs : workerStep w a = some w') :
    ClaimInv w'.queue.store ∧ Later w.table w'.table := by
  rcases workerStep_queue hs with hsame | ⟨b, hstep⟩
  · rw [Workers.table, Workers.table, hsame]
    exact ⟨hinv, .refl _⟩
  · have hmoved := step_moved hstep
    exact ⟨hinv.moved hmoved, hinv.later hmoved⟩

lemma stable_claimInv : Stable workerStep fun w : Workers ι => ClaimInv w.queue.store :=
  fun _ _ _ hinv hs => (workerStep_later hinv hs).1

lemma stable_lost (f : JobFence) : Stable workerStep fun w : Workers ι => ClaimInv w.queue.store ∧ Lost w.table f := by
  rintro w a w' ⟨hinv, hlost⟩ hs
  obtain ⟨hinv', hlater⟩ := workerStep_later hinv hs
  exact ⟨hinv', hlost.later hlater⟩

lemma lost_of_run {table : JobTable} {before since : List (WorkerAction ι)} {v : Workers ι}
    (hv : run workerStep (.initial table) before = some v) (hlost : Lost v.table f)
    (hrun : run workerStep (.initial table) (before ++ since) = some w) : Lost w.table f := by
  rw [run_append, hv] at hrun
  have hinv : ClaimInv v.queue.store := stable_claimInv.run (ClaimInv.initial table) hv
  exact ((stable_lost f).run ⟨hinv, hlost⟩ hrun).2

lemma OpenCall.changed_of_owns (hc : w.calls k = some c) (hs : workerStep w (.finish k now) = some w') {stmt : JobStmt}
    (hissued : c.call.issued now = .ok (some stmt)) {row : Job} (hrow : w.table.find c.fence.jobId = some row)
    (howns : c.fence.owns row = true) : w'.table.find c.fence.jobId = some (stmt.set row) := by
  obtain ⟨c', hc', hs⟩ := bind_eq_some_iff.mp hs
  obtain rfl := mem_unique hc hc'
  obtain ⟨queue, hstep, hs⟩ := bind_eq_some_iff.mp hs
  cases hs
  simp only [step, hissued] at hstep
  obtain ⟨store, hexec, rfl⟩ := map_eq_some_iff.mp hstep
  obtain ⟨-, rfl⟩ := Store.exec_eq_some.mp hexec
  obtain ⟨htarget, happ⟩ := c.call.issued_fence c.call_fence hissued
  have hkey : row.id = stmt.target := (Table.find_eq_some.mp hrow).2.trans htarget.symm
  rw [Table.find_modify, hrow, map_some, Stmt.row, if_pos ⟨hkey, (happ row).trans howns⟩]

theorem fenced_answers_truthful_iff (table : JobTable) (as : List (WorkerAction ι)) (hrun : run workerStep (.initial table) as = some w)
    (hc : w.calls k = some c) (hs : workerStep w (.finish k now) = some w') :
    Truthful table as c now w w' ↔ (c.cancels = true → (w.table.find c.fence.jobId).any c.fence.owns = true) := by
  constructor
  · intro h hcancels
    obtain ⟨stmt, row, -, hrow, howns, -⟩ := h.changed (c.answer_of_cancels hcancels w now)
    rw [hrow]
    exact howns
  · intro hcurrent
    have hhit {stmt : JobStmt} (hissued : c.call.issued now = .ok (some stmt)) (hans : c.answer w now = .ok true) :
        (w.table.find c.fence.jobId).any c.fence.owns = true := by
      simp only [OpenCall.answer, hissued, Except.ok.injEq, Bool.or_eq_true] at hans
      rcases hans with hcancels | hmatch
      · exact hcurrent hcancels
      · exact (OpenCall.matched_iff hissued).symm.trans hmatch
    have hstmt (hans : c.answer w now = .ok true) : ∃ stmt, c.call.issued now = .ok (some stmt) := by
      rw [OpenCall.answer] at hans
      split at hans
      · cases hans
      · cases hans
      · next stmt hissued => exact ⟨stmt, hissued⟩
    refine ⟨fun hans => ?_, fun before since v hsplit hv hlost answer hans => ?_⟩
    · obtain ⟨stmt, hissued⟩ := hstmt hans
      obtain ⟨row, hrow, howns⟩ := (any_eq_true ..).mp (hhit hissued hans)
      exact ⟨stmt, row, hissued, hrow, howns, OpenCall.changed_of_owns hc hs hissued hrow howns⟩
    · cases answer with
      | false => rfl
      | true =>
        obtain ⟨stmt, hissued⟩ := hstmt hans
        have hown := hhit hissued hans
        obtain ⟨r, hr, -, hno⟩ := lost_of_run hv hlost (hsplit ▸ hrun)
        rw [hr, any_some, hno] at hown
        cases hown

def fenceA : JobFence :=
  ⟨utf8 "j", utf8 "a", 1⟩

theorem fenced_answers_truthful_complete : ∃ w w' c, run workerStep (.initial oneJob) ((claimActions (utf8 "a") 1).map .other ++
      [.begin 0 fenceA (.complete none)]) = some w ∧ c.answer w 2 = .ok true ∧
    Truthful oneJob ((claimActions (utf8 "a") 1).map .other ++ [.begin 0 fenceA (.complete none)]) c 2 w w' := by
  have hrun : ((run workerStep (.initial oneJob) ((claimActions (utf8 "a") 1).map .other ++
      [.begin 0 fenceA (.complete none)])).any fun w => (workerStep w (.finish 0 2)).isSome &&
        decide ((w.calls 0).map (fun c => (c.cancels, (c.answer w 2).toOption)) = some (false, some true))) = true := by
    decide +kernel
  obtain ⟨w, hw, hfin⟩ := (any_eq_true ..).mp hrun
  rw [Bool.and_eq_true, decide_eq_true_eq] at hfin
  obtain ⟨w', hs⟩ := isSome_iff_exists.mp hfin.1
  obtain ⟨c, hc, heq⟩ := map_eq_some_iff.mp hfin.2
  obtain ⟨hno, hans⟩ := Prod.mk.inj heq
  have htrue : c.answer w 2 = .ok true := by
    cases h : c.answer w 2 with
    | error e => simp [h, Except.toOption] at hans
    | ok b => simpa [h, Except.toOption] using hans
  exact ⟨w, w', c, hw, htrue, (fenced_answers_truthful_iff oneJob _ hw hc hs).mpr fun h => absurd (hno.symm.trans h) (by decide)⟩

def reclaimedUnderFail : List (WorkerAction (Fin 1)) :=
  (claimActions (utf8 "a") 1).map .other ++ [.other (.openCancel 0 (utf8 "j")), .other (.cancel 0 2), .other (.cancel 0 2),
    .begin 0 fenceA (.fail (utf8 "io") []),
    .other (.call (.reclaim ((flagJobCancel (utf8 "j") 2).set claimedByA)) (leaseExpiry 1 60))]

theorem fail_answers_true_after_reclaim : ∃ w w' c, run workerStep (.initial oneJob) reclaimedUnderFail = some w ∧
    w.calls 0 = some c ∧ workerStep w (.finish 0 (leaseExpiry 1 60)) = some w' ∧
      ¬ Truthful oneJob reclaimedUnderFail c (leaseExpiry 1 60) w w' := by
  have hrun : ((run workerStep (.initial oneJob) reclaimedUnderFail).any fun w => (workerStep w (.finish 0 (leaseExpiry 1 60))).isSome &&
      (w.calls 0).any fun c => c.cancels && !(w.table.find c.fence.jobId).any c.fence.owns) = true := by
    decide +kernel
  obtain ⟨w, hw, hfin⟩ := (any_eq_true ..).mp hrun
  rw [Bool.and_eq_true] at hfin
  obtain ⟨w', hs⟩ := isSome_iff_exists.mp hfin.1
  obtain ⟨c, hc, hlost⟩ := (any_eq_true ..).mp hfin.2
  rw [Bool.and_eq_true] at hlost
  refine ⟨w, w', c, hw, hc, hs, fun htruthful => ?_⟩
  obtain ⟨stmt, row, -, hrow, howns, -⟩ := htruthful.changed (c.answer_of_cancels hlost.1 w _)
  rw [hrow, any_some, howns] at hlost
  cases hlost.2

end Bookclerk.Jobs
