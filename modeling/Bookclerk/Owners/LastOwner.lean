import Bookclerk.Owners.Exclusion

namespace Bookclerk.Owners

open Lexical Db Jobs Named Bookclerk.System List Option Function

variable {ι : Type} {s s' : OwnerSystem ι} {i : ι} {x : OwnerTxn}

section Actions

lemma OwnerInv.prune (h : OwnerInv s) (operationId : Text) (now : Stamp) :
    OwnerInv { s with db := { s.db with receipts := pruneReceipts operationId now s.db.receipts } } where
  safe := h.safe
  txn j y hy := by
    refine (h.txn j y hy).mono rfl (fun hopen => ?_) fun _ hu => hu
    rw [OwnerTxn.unrecorded, isNone_iff_eq_none, selectReceipt_eq_none] at hopen ⊢
    exact fun r hr => hopen r (mem_of_mem_prune hr)
  alone := h.alone

lemma TxnInv.view_of_lastOwner (h : TxnInv s i x) (hlast : (x.result s.db).status = .lastOwner) : x.view s.db = s.db.tables := by
  by_cases hengaged : x.Engaged
  · obtain ⟨hopen, hprior⟩ := h.fresh hengaged
    rw [OwnerTxn.result, hprior, interpretSelection] at hlast
    cases hreceipt : x.receipt with
    | none =>
      rw [OwnerTxn.unrecorded, isNone_iff_eq_none] at hopen
      rw [hreceipt, hopen] at hlast
      exact absurd hlast (by simp [interpretReceipt])
    | some r =>
      obtain ⟨hscratch, hhash⟩ := h.receipt r hreceipt
      rw [hreceipt] at hlast
      have hlast := (status_interpretReceipt r x.ctx.requestHash false).symm.trans hlast
      rw [if_pos hhash] at hlast
      rw [OwnerTxn.view, (h.refused (hscratch.trans (congrArg some hlast))).1, foldl_nil]
  · exact view_of_not_engaged hengaged s.db

variable [DecidableEq ι]

lemma OwnerInv.apply (h : OwnerInv s) (hx : s.txns i = some x) {w : Write} {rest : List Write} (hphase : x.phase = .waiting w rest)
    (hs : applyWrite s i x w rest = some s') : OwnerInv s' := by
  have hinv := h.txn i x hx
  have hengaged : x.Engaged := .inr (.inr (by simp [hphase, OwnerPhase.awaits]))
  have halone : ∀ j y, s.txns j = some y → y.Engaged → j = i := fun j y hy hyE => h.alone j i y x hy hx hyE hengaged
  have hview : ({ x with phase := .writing rest, effects := x.effects ++ [w.effect] } : OwnerTxn).view s.db = w.effect (x.view s.db) := by
    simp [OwnerTxn.view]
  have hmoved (locks : Int → Option ι) (hlocks : ∀ u, s.locks u = some i → locks u = some i) :
      TxnInv { s.put i { x with phase := .writing rest, effects := x.effects ++ [w.effect] } with locks := locks } i
        { x with phase := .writing rest, effects := x.effects ++ [w.effect] } := by
    refine ⟨by simp [OwnerPhase.isEarly], fun w' hw' => ?_, hinv.receipt, fun _ => hinv.fresh hengaged, fun _ => ?_, ?_,
      by simp [OwnerPhase.awaits], fun hlast => ?_⟩
    · exact hinv.ahead w' (by rw [hphase]; exact mem_cons_of_mem w hw')
    · obtain ⟨u, hu, howner, hlock⟩ := hinv.anchor hengaged
      exact ⟨u, hu, howner, hlocks u.id hlock⟩
    · exact (congrArg OwnerKept hview).mpr (hinv.awaits w (by rw [hphase]; rfl))
    · exact absurd (hinv.refused hlast).2.1 (by simp [hphase, OwnerPhase.awaits])
  rw [applyWrite] at hs
  by_cases hfree : s.isFree i w.row = true
  · rw [hfree] at hs
    simp only [Bool.not_true, Bool.false_eq_true, if_false, some.injEq] at hs
    rw [← hs]
    cases hrow : w.row with
    | none => exact h.put_same (hmoved s.locks fun _ hu => hu) fun _ => halone
    | some u =>
      rw [hrow] at hfree
      refine h.put (acquire_locks hfree) (hmoved _ fun v hv => ?_) fun _ => halone
      by_cases hvu : v = u
      · rw [hvu, update_self]
      · exact (update_of_ne hvu ..).trans hv
  · simp [hfree] at hs

lemma OwnerInv.receipt (h : OwnerInv s) (hx : s.txns i = some x) (hphase : x.phase = .writing []) : OwnerInv (insertOwnReceipt s i x) := by
  have hinv := h.txn i x hx
  have hsame (r : Option (AtomicReceipt User)) : ({ x with phase := .finished, receipt := r } : OwnerTxn).Engaged ↔ x.Engaged := by
    simp [OwnerTxn.Engaged, OwnerPhase.awaits, hphase]
  refine h.put_same ⟨by simp [OwnerPhase.isEarly], by simp [OwnerPhase.ahead], fun r hr => ?_,
    fun hx => hinv.fresh ((hsame _).mp hx), fun hx => hinv.anchor ((hsame _).mp hx), hinv.view, by simp [OwnerPhase.awaits], fun hlast => ?_⟩
    fun hx' j y hy hyE => h.alone j i y x hy hx hyE ((hsame _).mp hx')
  · split_ifs at hr
    obtain ⟨status, hstatus, rfl⟩ := map_eq_some_iff.mp hr
    have hanswer := sameAnswer_receiptPayloadUpdate x.ctx.operationId (x.op.payload (x.view s.db)) (x.ctx.receipt status)
    exact ⟨hstatus.trans (congrArg some hanswer.status.symm), hanswer.requestHash⟩
  · obtain ⟨heffects, -, hlast⟩ := hinv.refused hlast
    exact ⟨heffects, rfl, hlast⟩

lemma OwnerInv.over (h : OwnerInv s) {db : OwnerDb} {reports : List OwnerReport} (hsafe : LastOwnerSafe db.tables reports)
    (hothers : ∀ j y, j ≠ i → s.txns j = some y → TxnInv { s.release i with db := db, reports := reports } j y) :
    OwnerInv { s.release i with db := db, reports := reports } := by
  have hcases : ∀ j y, Function.update s.txns i none j = some y → j ≠ i ∧ s.txns j = some y := by
    intro j y hy
    by_cases hj : j = i
    · subst hj
      exact absurd hy (by simp)
    · rw [update_of_ne hj] at hy
      exact ⟨hj, hy⟩
  refine ⟨hsafe, fun j y hy => ?_, fun j k y z hy hz hyE hzE => ?_⟩
  · obtain ⟨hj, hy⟩ := hcases j y hy
    exact hothers j y hj hy
  · exact h.alone j k y z (hcases j y hy).2 (hcases k z hz).2 hyE hzE

lemma release_locks {j : ι} (hj : j ≠ i) {u : Int} (hu : s.locks u = some j) : (s.release i).locks u = some j := by
  have hne : s.locks u ≠ some i := fun hi => hj (mem_unique hu hi)
  exact (if_neg hne).trans hu

lemma OwnerInv.abort (h : OwnerInv s) : OwnerInv (s.release i) :=
  h.over h.safe fun j y hj hy => (h.txn j y hy).mono rfl id fun _ hu => release_locks hj hu

lemma OwnerInv.commit (h : OwnerInv s) (hx : s.txns i = some x) (hs : commitOwner s i x = some s') : OwnerInv s' := by
  have hinv := h.txn i x hx
  rw [commitOwner] at hs
  split_ifs at hs
  cases hs
  refine h.over ⟨hinv.view, fun r hr hlast => ?_⟩ fun j y hj hy => ?_
  · rcases mem_cons.mp hr with rfl | hr
    · exact hinv.view_of_lastOwner hlast
    · exact h.safe.refused r hr hlast
  · by_cases hengaged : x.Engaged
    · -- the others have not read anything yet
      exact (h.txn j y hy).of_not_engaged (fun hyE => hj (h.alone j i y x hy hx hyE hengaged)) hinv.view
    · have hreceipt : x.receipt = none := by
        by_contra hne
        obtain ⟨r, hr⟩ := ne_none_iff_exists'.mp hne
        exact hengaged (.inl (by simp [(hinv.receipt r hr).1]))
      refine (h.txn j y hy).mono (view_of_not_engaged hengaged s.db) (fun hopen => ?_) fun _ hu => release_locks hj hu
      rw [hreceipt, toList_none, append_nil]
      exact hopen

end Actions

variable [DecidableEq ι]

lemma OwnerInv.step {a : OwnerStep ι} (h : OwnerInv s) (hcond : LocksOwners s a) (hs : ownerStep s a = some s') : OwnerInv s' := by
  have htxn {i : ι} (hs : ((s.txns i).bind fun x => stepTxn s i x x.phase a) = some s') :
      ∃ x, s.txns i = some x ∧ stepTxn s i x x.phase a = some s' := bind_eq_some_iff.mp hs
  cases a with
  | begin i op ctx =>
    rw [ownerStep] at hs
    split_ifs at hs
    cases hs
    exact h.begin op ctx _
  | prune operationId now =>
    cases hs
    exact h.prune operationId now
  | lock i =>
    obtain ⟨x, hx, hs⟩ := htxn hs
    cases hphase : x.phase with
    | selected =>
      rw [hphase] at hs
      cases hs
      exact h.lock hx (by rw [hphase]; rfl) _
    | locking _ | writing _ | waiting _ _ | finished => simp [hphase, stepTxn] at hs
  | lockRow i =>
    obtain ⟨x, hx, hs⟩ := htxn hs
    cases hphase : x.phase with
    | locking targets =>
      cases targets with
      | nil => simp [hphase, stepTxn] at hs
      | cons u rest =>
        rw [hphase] at hs
        exact h.lockRow hx (by rw [hphase]; rfl) hs
    | selected | writing _ | waiting _ _ | finished => simp [hphase, stepTxn] at hs
  | outcome i =>
    obtain ⟨x, hx, hs⟩ := htxn hs
    simp only [LocksOwners, hx] at hcond
    cases hphase : x.phase with
    | locking targets =>
      cases targets with
      | nil =>
        rw [hphase] at hs
        cases hs
        exact h.outcome hx (by rw [hphase]; rfl) hcond
      | cons u rest => simp [hphase, stepTxn] at hs
    | selected | writing _ | waiting _ _ | finished => simp [hphase, stepTxn] at hs
  | evaluate i =>
    obtain ⟨x, hx, hs⟩ := htxn hs
    simp only [LocksOwners, hx] at hcond
    cases hphase : x.phase with
    | writing rest =>
      cases rest with
      | nil => simp [hphase, stepTxn] at hs
      | cons w rest =>
        rw [hphase] at hs
        cases hs
        exact h.evaluate hx hphase hcond
    | selected | locking _ | waiting _ _ | finished => simp [hphase, stepTxn] at hs
  | apply i =>
    obtain ⟨x, hx, hs⟩ := htxn hs
    cases hphase : x.phase with
    | waiting w rest =>
      rw [hphase] at hs
      exact h.apply hx hphase hs
    | selected | locking _ | writing _ | finished => simp [hphase, stepTxn] at hs
  | receipt i =>
    obtain ⟨x, hx, hs⟩ := htxn hs
    cases hphase : x.phase with
    | writing rest =>
      cases rest with
      | nil =>
        rw [hphase] at hs
        cases hs
        exact h.receipt hx hphase
      | cons w rest => simp [hphase, stepTxn] at hs
    | selected | locking _ | waiting _ _ | finished => simp [hphase, stepTxn] at hs
  | commit i =>
    obtain ⟨x, hx, hs⟩ := htxn hs
    cases hphase : x.phase with
    | finished =>
      rw [hphase] at hs
      exact h.commit hx hs
    | selected | locking _ | writing _ | waiting _ _ => simp [hphase, stepTxn] at hs
  | abort i =>
    obtain ⟨x, hx, hs⟩ := htxn hs
    have hs' : s.release i = s' := by
      cases hphase : x.phase <;> simpa [stepTxn] using hs
    exact hs' ▸ h.abort

omit [DecidableEq ι] in
lemma ownerInv_start {db : OwnerDb} (h : OwnerKept db.tables) : OwnerInv (startSystem db : OwnerSystem ι) :=
  ⟨⟨h, by simp [startSystem]⟩, by simp [startSystem], by simp [startSystem]⟩

theorem last_owner_safe (db : OwnerDb) (h : OwnerKept db.tables) :
    (∀ ops s', run serialStep ⟨db, []⟩ ops = some s' → LastOwnerSafe s'.db.tables s'.reports) ∧
      ∀ steps (s' : OwnerSystem ι), EveryStep ownerStep LocksOwners (startSystem db) steps → run ownerStep (startSystem db) steps = some s' →
        LastOwnerSafe s'.db.tables s'.reports := by
  constructor
  · intro ops s' hrun
    refine Stable.run (I := fun s : SerialState => LastOwnerSafe s.db.tables s.reports) (fun s a t hs hstep => hs.serial hstep) ?_ hrun
    exact ⟨h, by simp⟩
  · intro steps s' hlocks hrun
    exact (run_of_everyStep (fun s a t hs hcond hstep => hs.step hcond hstep) (ownerInv_start h) hlocks hrun).safe

section Interleavings

instance (s : OwnerSystem ι) (a : OwnerStep ι) : Decidable (LocksOwners s a) :=
  match a with
  | .outcome i | .evaluate i =>
    match h : s.txns i with
    | none => .isTrue (by simp [LocksOwners, h])
    | some x => decidable_of_iff (x.unrecorded s.db = true → x.prior = none ∧ HoldsOwners s i) (by simp [LocksOwners, h])
  | .begin .. | .lock _ | .lockRow _ | .apply _ | .receipt _ | .commit _ | .abort _ | .prune .. => .isTrue trivial

def usersOf (rows : List User) (h : (rows.map User.id).Nodup) : OwnerDb :=
  ⟨[], ⟨⟨rows, h⟩, [], fun _ => [], [], [], fun _ => [], []⟩⟩

def ctxOf (operationId : Text) : ReceiptCtx :=
  ⟨operationId, operationId, utf8 "ownerOp", 0⟩

def oneOwner : OwnerDb :=
  usersOf [⟨1, .owner, .active, 0⟩] (by decide)

def refusedDelete : List (OwnerStep Nat) :=
  List.flatten
    [[.begin 0 (.deleteUser 1) (ctxOf (utf8 "a")), .lock 0, .lockRow 0, .outcome 0], List.replicate 17 (.evaluate 0), [.receipt 0, .commit 0]]

theorem last_owner_safe_refused : ∃ s' : OwnerSystem Nat, run ownerStep (startSystem oneOwner) refusedDelete = some s' ∧
    LastOwnerSafe s'.db.tables s'.reports := by
  have hkept : OwnerKept oneOwner.tables := ⟨⟨1, .owner, .active, 0⟩, mem_singleton_self _, rfl⟩
  obtain ⟨s', hrun⟩ := isSome_iff_exists.mp (by decide +kernel : (run ownerStep (startSystem oneOwner) refusedDelete).isSome = true)
  exact ⟨s', hrun, (last_owner_safe oneOwner hkept).2 refusedDelete s' (by decide +kernel) hrun⟩

def ownerAndMember : OwnerDb :=
  usersOf [⟨1, .owner, .active, 0⟩, ⟨2, .member, .active, 0⟩] (by decide)

def writeAll (i : Nat) (n : Nat) : List (OwnerStep Nat) :=
  (List.replicate n [.evaluate i, .apply i]).flatten

def staleLocks : List (OwnerStep Nat) :=
  List.flatten
    [[.begin 0 (.setUserRole 2 .owner) (ctxOf (utf8 "a")), .lock 0, .lockRow 0],
      [.begin 1 (.deleteUser 1) (ctxOf (utf8 "b")), .lock 1],
      [.outcome 0], writeAll 0 2, [.receipt 0, .commit 0],
      [.begin 2 (.setUserRole 1 .member) (ctxOf (utf8 "c")), .lock 2, .lockRow 2, .lockRow 2, .outcome 2], writeAll 2 2, [.receipt 2, .commit 2],
      [.begin 3 (.setUserRole 1 .owner) (ctxOf (utf8 "d")), .lock 3, .lockRow 3, .outcome 3], writeAll 3 2,
      [.begin 4 (.deleteUser 2) (ctxOf (utf8 "e")), .lock 4],
      [.receipt 3, .commit 3, .lockRow 1, .lockRow 4, .outcome 1, .outcome 4], writeAll 1 17, writeAll 4 17,
      [.receipt 1, .commit 1, .receipt 4, .commit 4]]

theorem stale_locks_lose_owner : (run ownerStep (startSystem ownerAndMember) staleLocks).any
    (fun s => s.db.tables.users.rows.all fun u => !u.isActiveOwner) = true := by
  decide +kernel

end Interleavings

end Bookclerk.Owners
