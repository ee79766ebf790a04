import Bookclerk.Owners.Plans

/-! The operations on PostgreSQL: each plan is a transaction at READ COMMITTED, every statement of it
sees the rows committed when it begins, and a statement waits for a row that another transaction has
written. A statement that has waited looks at the row again, but not at the rest of its condition. -/

namespace Bookclerk.Owners

open Lexical Db Jobs Named Bookclerk.System List Option Function

inductive OwnerPhase where
  | selected
  /-- The rows that the lock statement has found and not come to yet. -/
  | locking (targets : List Int)
  | writing (rest : List Write)
  /-- The condition of `w` has held, and its row is waited for. -/
  | waiting (w : Write) (rest : List Write)
  | finished

/-- `scratch` is the outcome in `bookclerk_slots`; `effects` are the writes made so far. -/
structure OwnerTxn where
  op : OwnerOp
  ctx : ReceiptCtx
  prior : Option (AtomicReceipt User)
  phase : OwnerPhase
  scratch : Option AtomicStatus
  effects : List (UserTables → UserTables)
  receipt : Option (AtomicReceipt User)

def OwnerTxn.view (x : OwnerTxn) (db : OwnerDb) : UserTables :=
  x.effects.foldl (fun t effect => effect t) db.tables

def OwnerTxn.unrecorded (x : OwnerTxn) (db : OwnerDb) : Bool :=
  (selectReceipt x.ctx.operationId db.receipts).isNone

/-- `locks` names the transaction that has written a row of `users`. -/
structure OwnerSystem (ι : Type) where
  db : OwnerDb
  txns : ι → Option OwnerTxn
  locks : Int → Option ι
  reports : List OwnerReport

inductive OwnerStep (ι : Type) where
  | begin (i : ι) (op : OwnerOp) (ctx : ReceiptCtx)
  | lock (i : ι)
  | lockRow (i : ι)
  | outcome (i : ι)
  | evaluate (i : ι)
  | apply (i : ι)
  | receipt (i : ι)
  | commit (i : ι)
  | abort (i : ι)
  | prune (operationId : Text) (now : Stamp)

section Steps

variable {ι : Type} [DecidableEq ι]

def OwnerSystem.put (s : OwnerSystem ι) (i : ι) (x : OwnerTxn) : OwnerSystem ι :=
  { s with txns := Function.update s.txns i (some x) }

def OwnerSystem.acquire (s : OwnerSystem ι) (i : ι) (row : Option Int) : OwnerSystem ι :=
  match row with
  | none => s
  | some u => { s with locks := Function.update s.locks u (some i) }

def OwnerSystem.isFree (s : OwnerSystem ι) (i : ι) (row : Option Int) : Bool :=
  row.all fun u => s.locks u = none || s.locks u = some i

def OwnerSystem.release (s : OwnerSystem ι) (i : ι) : OwnerSystem ι :=
  { s with
    txns := Function.update s.txns i none
    locks := fun u => if s.locks u = some i then none else s.locks u }

def lockTargets (db : OwnerDb) (x : OwnerTxn) : List Int :=
  if x.unrecorded db then (db.tables.users.rows.filter User.isActiveOwner).map User.id else []

def lockRow (s : OwnerSystem ι) (i : ι) (x : OwnerTxn) (u : Int) (rest : List Int) : Option (OwnerSystem ι) :=
  if !s.isFree i (some u) then none
  else
    let next := s.put i { x with phase := .locking rest }
    if (s.db.tables.users.find u).any User.isActiveOwner then some (next.acquire i (some u)) else some next

def snapshotOutcome (s : OwnerSystem ι) (i : ι) (x : OwnerTxn) : OwnerSystem ι :=
  s.put i { x with
    phase := .writing (x.op.writes x.ctx.now)
    scratch := if x.unrecorded s.db then some (x.op.outcome (x.view s.db)) else none }

def evaluateWrite (s : OwnerSystem ι) (i : ι) (x : OwnerTxn) (w : Write) (rest : List Write) : OwnerSystem ι :=
  if x.unrecorded s.db && x.op.outcome (x.view s.db) = .ok && w.guard (x.view s.db) then s.put i { x with phase := .waiting w rest }
  else s.put i { x with phase := .writing rest }

def applyWrite (s : OwnerSystem ι) (i : ι) (x : OwnerTxn) (w : Write) (rest : List Write) : Option (OwnerSystem ι) :=
  if !s.isFree i w.row then none
  else some ((s.put i { x with phase := .writing rest, effects := x.effects ++ [w.effect] }).acquire i w.row)

def OwnerTxn.ownReceipt (x : OwnerTxn) (db : OwnerDb) (status : AtomicStatus) : AtomicReceipt User :=
  receiptPayloadUpdate x.ctx.operationId (x.op.payload (x.view db)) (x.ctx.receipt status)

def insertOwnReceipt (s : OwnerSystem ι) (i : ι) (x : OwnerTxn) : OwnerSystem ι :=
  s.put i { x with
    phase := .finished
    receipt := if x.unrecorded s.db then x.scratch.map (x.ownReceipt s.db) else none }

def OwnerTxn.result (x : OwnerTxn) (db : OwnerDb) : AtomicResult User :=
  interpretSelection x.prior (x.receipt <|> selectReceipt x.ctx.operationId db.receipts) x.ctx.requestHash

def commitOwner (s : OwnerSystem ι) (i : ι) (x : OwnerTxn) : Option (OwnerSystem ι) :=
  if x.receipt.isSome && !x.unrecorded s.db then none
  else some
    { s.release i with
      db := ⟨s.db.receipts ++ x.receipt.toList, x.view s.db⟩
      reports := ⟨(x.result s.db).status, s.db.tables, x.view s.db⟩ :: s.reports }

def stepTxn (s : OwnerSystem ι) (i : ι) (x : OwnerTxn) : OwnerPhase → OwnerStep ι → Option (OwnerSystem ι)
  | .selected, .lock _ => some (s.put i { x with phase := .locking (lockTargets s.db x) })
  | .locking (u :: rest), .lockRow _ => lockRow s i x u rest
  | .locking [], .outcome _ => some (snapshotOutcome s i x)
  | .writing (w :: rest), .evaluate _ => some (evaluateWrite s i x w rest)
  | .waiting w rest, .apply _ => applyWrite s i x w rest
  | .writing [], .receipt _ => some (insertOwnReceipt s i x)
  | .finished, .commit _ => commitOwner s i x
  | _, .abort _ => some (s.release i)
  | _, _ => none

def ownerStep (s : OwnerSystem ι) (a : OwnerStep ι) : Option (OwnerSystem ι) :=
  match a with
  | .begin i op ctx =>
    if (s.txns i).isSome then none
    else some (s.put i ⟨op, ctx, selectReceipt ctx.operationId s.db.receipts, .selected, none, [], none⟩)
  | .prune operationId now => some { s with db := { s.db with receipts := pruneReceipts operationId now s.db.receipts } }
  | .lock i | .lockRow i | .outcome i | .evaluate i | .apply i | .receipt i | .commit i | .abort i =>
    (s.txns i).bind fun x => stepTxn s i x x.phase a

def startSystem (db : OwnerDb) : OwnerSystem ι :=
  ⟨db, fun _ => none, fun _ => none, []⟩

def HoldsOwners (s : OwnerSystem ι) (i : ι) : Prop :=
  ∀ u ∈ s.db.tables.users.rows, u.isActiveOwner = true → s.locks u.id = some i

/-- Where the outcome or the condition of a write is read with no receipt in sight, the plan has found
none when it began, and holds every active owner. -/
def LocksOwners (s : OwnerSystem ι) : OwnerStep ι → Prop
  | .outcome i | .evaluate i =>
    match s.txns i with
    | none => True
    | some x => x.unrecorded s.db = true → x.prior = none ∧ HoldsOwners s i
  | _ => True

instance (s : OwnerSystem ι) (i : ι) : Decidable (HoldsOwners s i) :=
  inferInstanceAs (Decidable (∀ u ∈ s.db.tables.users.rows, u.isActiveOwner = true → s.locks u.id = some i))

end Steps

variable {ι : Type} {s s' : OwnerSystem ι} {i j : ι} {x y : OwnerTxn}

def OwnerPhase.isEarly : OwnerPhase → Bool
  | .selected | .locking _ => true
  | _ => false

def OwnerPhase.ahead : OwnerPhase → List Write
  | .writing rest => rest
  | .waiting w rest => w :: rest
  | _ => []

def OwnerPhase.awaits : OwnerPhase → Option Write
  | .waiting w _ => some w
  | _ => none

def OwnerTxn.Engaged (x : OwnerTxn) : Prop :=
  x.scratch ≠ none ∨ x.effects ≠ [] ∨ x.phase.awaits ≠ none

structure TxnInv (s : OwnerSystem ι) (i : ι) (x : OwnerTxn) : Prop where
  early : x.phase.isEarly = true → ¬ x.Engaged
  ahead : ∀ w ∈ x.phase.ahead, w ∈ x.op.writes x.ctx.now
  receipt : ∀ r, x.receipt = some r → x.scratch = some r.status ∧ r.requestHash = x.ctx.requestHash
  fresh : x.Engaged → x.unrecorded s.db = true ∧ x.prior = none
  anchor : x.Engaged → ∃ u ∈ s.db.tables.users.rows, u.isActiveOwner = true ∧ s.locks u.id = some i
  view : OwnerKept (x.view s.db)
  awaits : ∀ w, x.phase.awaits = some w → OwnerKept (w.effect (x.view s.db))
  refused : x.scratch = some .lastOwner → x.effects = [] ∧ x.phase.awaits = none ∧ x.op.outcome s.db.tables = .lastOwner

structure OwnerInv (s : OwnerSystem ι) : Prop where
  safe : LastOwnerSafe s.db.tables s.reports
  txn : ∀ i x, s.txns i = some x → TxnInv s i x
  alone : ∀ i j x y, s.txns i = some x → s.txns j = some y → x.Engaged → y.Engaged → i = j

lemma view_of_not_engaged (h : ¬ x.Engaged) (db : OwnerDb) : x.view db = db.tables := by
  have heffects : x.effects = [] := by
    by_contra hne
    exact h (.inr (.inl hne))
  rw [OwnerTxn.view, heffects, foldl_nil]

lemma TxnInv.mono (h : TxnInv s i x) (htables : s'.db.tables = s.db.tables)
    (hreceipts : x.unrecorded s.db = true → x.unrecorded s'.db = true) (hlocks : ∀ u, s.locks u = some i → s'.locks u = some i) :
    TxnInv s' i x := by
  have hview : x.view s'.db = x.view s.db := by rw [OwnerTxn.view, OwnerTxn.view, htables]
  refine { h with fresh := fun hx => ?_, anchor := fun hx => ?_, view := hview ▸ h.view, awaits := hview ▸ h.awaits, refused := htables ▸ h.refused }
  · exact ⟨hreceipts (h.fresh hx).1, (h.fresh hx).2⟩
  · obtain ⟨u, hu, howner, hlock⟩ := h.anchor hx
    exact ⟨u, htables ▸ hu, howner, hlocks u.id hlock⟩

lemma TxnInv.of_not_engaged (h : TxnInv s i x) (hx : ¬ x.Engaged) (hkept : OwnerKept s'.db.tables) : TxnInv s' i x := by
  refine { h with fresh := fun h => absurd h hx, anchor := fun h => absurd h hx, view := ?_, awaits := fun w hw => ?_, refused := fun hs => ?_ }
  · rwa [view_of_not_engaged hx]
  · exact absurd (.inr (.inr (by simp [hw]))) hx
  · exact absurd (.inl (by simp [hs])) hx

lemma OwnerInv.alone_of_holds (h : OwnerInv s) (hholds : HoldsOwners s i) : ∀ j y, s.txns j = some y → y.Engaged → j = i := by
  intro j y hy hengaged
  obtain ⟨u, hu, howner, hlock⟩ := (h.txn j y hy).anchor hengaged
  exact some.inj (hlock.symm.trans (hholds u hu howner))

lemma OwnerInv.anchor_of_holds (h : OwnerInv s) (hholds : HoldsOwners s i) :
    ∃ u ∈ s.db.tables.users.rows, u.isActiveOwner = true ∧ s.locks u.id = some i := by
  obtain ⟨u, hu, howner⟩ := h.safe.kept
  exact ⟨u, hu, howner, hholds u hu howner⟩

variable [DecidableEq ι]

lemma OwnerInv.put (h : OwnerInv s) {locks : Int → Option ι} (hlocks : ∀ u j, j ≠ i → s.locks u = some j → locks u = some j)
    (hx : TxnInv { s.put i x with locks := locks } i x) (halone : x.Engaged → ∀ j y, s.txns j = some y → y.Engaged → j = i) :
    OwnerInv { s.put i x with locks := locks } where
  safe := h.safe
  txn j y hy := by
    have hy : Function.update s.txns i (some x) j = some y := hy
    by_cases hj : j = i
    · subst hj
      rw [update_self] at hy
      cases hy
      exact hx
    · rw [update_of_ne hj] at hy
      exact (h.txn j y hy).mono rfl id fun u hu => hlocks u j hj hu
  alone := by
    have hcases : ∀ j y, Function.update s.txns i (some x) j = some y → (j = i ∧ y = x) ∨ (j ≠ i ∧ s.txns j = some y) := by
      intro j y hy
      by_cases hj : j = i
      · subst hj
        rw [update_self] at hy
        exact .inl ⟨rfl, (some.inj hy).symm⟩
      · rw [update_of_ne hj] at hy
        exact .inr ⟨hj, hy⟩
    intro j k y z hy hz hyE hzE
    rcases hcases j y hy with ⟨rfl, rfl⟩ | ⟨hj, hj'⟩ <;> rcases hcases k z hz with ⟨rfl, rfl⟩ | ⟨hk, hk'⟩
    · rfl
    · exact (halone hyE k z hk' hzE).symm
    · exact halone hzE j y hj' hyE
    · exact h.alone j k y z hj' hk' hyE hzE

lemma OwnerInv.put_same (h : OwnerInv s) (hx : TxnInv (s.put i x) i x)
    (halone : x.Engaged → ∀ j y, s.txns j = some y → y.Engaged → j = i) : OwnerInv (s.put i x) :=
  h.put (fun _ _ _ hu => hu) hx halone

section Actions

lemma OwnerInv.begin (h : OwnerInv s) (op : OwnerOp) (ctx : ReceiptCtx) (prior : Option (AtomicReceipt User)) :
    OwnerInv (s.put i ⟨op, ctx, prior, .selected, none, [], none⟩) := by
  have hidle : ¬ (⟨op, ctx, prior, .selected, none, [], none⟩ : OwnerTxn).Engaged := by simp [OwnerTxn.Engaged, OwnerPhase.awaits]
  refine h.put_same ⟨fun _ => hidle, by simp [OwnerPhase.ahead], by simp, fun hx => absurd hx hidle, fun hx => absurd hx hidle,
    h.safe.kept, by simp [OwnerPhase.awaits], by simp⟩ fun hx => absurd hx hidle

lemma TxnInv.locking (h : TxnInv s i x) (hearly : x.phase.isEarly = true) (locks : Int → Option ι) (targets : List Int)
    (hkept : OwnerKept s.db.tables) :
    TxnInv { s.put i { x with phase := .locking targets } with locks := locks } i { x with phase := .locking targets } ∧
      ¬ ({ x with phase := .locking targets } : OwnerTxn).Engaged := by
  have hx := h.early hearly
  have hidle : ¬ ({ x with phase := .locking targets } : OwnerTxn).Engaged := by
    rintro (hs | he | hp)
    · exact hx (.inl hs)
    · exact hx (.inr (.inl he))
    · exact hp rfl
  refine ⟨⟨fun _ => hidle, by simp [OwnerPhase.ahead], h.receipt, fun hx => absurd hx hidle, fun hx => absurd hx hidle, ?_, by simp [OwnerPhase.awaits],
    fun hs => absurd (.inl (ne_none_iff_exists'.mpr ⟨_, hs⟩)) hx⟩, hidle⟩
  rw [view_of_not_engaged hidle]
  exact hkept

lemma OwnerInv.lock (h : OwnerInv s) (hx : s.txns i = some x) (hearly : x.phase.isEarly = true) (targets : List Int) :
    OwnerInv (s.put i { x with phase := .locking targets }) := by
  obtain ⟨hinv, hidle⟩ := (h.txn i x hx).locking hearly s.locks targets h.safe.kept
  exact h.put_same hinv fun hx => absurd hx hidle

lemma acquire_locks {u : Int} (hfree : s.isFree i (some u) = true) :
    ∀ v j, j ≠ i → s.locks v = some j → Function.update s.locks u (some i) v = some j := by
  intro v j hj hv
  simp only [OwnerSystem.isFree, all_some, Bool.or_eq_true, decide_eq_true_eq] at hfree
  have hne : v ≠ u := by
    rintro rfl
    rcases hfree with hfree | hfree
    · exact absurd (hfree.symm.trans hv) (by simp)
    · exact hj (mem_unique hv hfree)
  rw [update_of_ne hne, hv]

section

variable (h : OwnerInv s) (hx : s.txns i = some x)
include h hx

lemma OwnerInv.lockRow (hearly : x.phase.isEarly = true) {u : Int} {rest : List Int}
    (hs : lockRow s i x u rest = some s') : OwnerInv s' := by
  rw [Owners.lockRow] at hs
  by_cases hfree : s.isFree i (some u) = true
  · split_ifs at hs with howner
    · cases hs
      obtain ⟨hinv, hidle⟩ := (h.txn i x hx).locking hearly (Function.update s.locks u (some i)) rest h.safe.kept
      exact h.put (acquire_locks hfree) hinv fun hx => absurd hx hidle
    · cases hs
      exact h.lock hx hearly rest
  · simp [hfree] at hs

lemma OwnerInv.outcome (hearly : x.phase.isEarly = true)
    (hcond : x.unrecorded s.db = true → x.prior = none ∧ HoldsOwners s i) : OwnerInv (snapshotOutcome s i x) := by
  have hinv := h.txn i x hx
  have hidle := hinv.early hearly
  have hview := view_of_not_engaged hidle s.db
  have heffects : x.effects = [] := by
    by_contra hne
    exact hidle (.inr (.inl hne))
  have hreceipt : x.receipt = none := by
    by_contra hne
    obtain ⟨r, hr⟩ := ne_none_iff_exists'.mp hne
    exact hidle (.inl (by simp [(hinv.receipt r hr).1]))
  rw [snapshotOutcome, hview]
  by_cases hopen : x.unrecorded s.db = true
  · obtain ⟨hprior, hholds⟩ := hcond hopen
    rw [if_pos hopen]
    refine h.put_same ⟨by simp [OwnerPhase.isEarly], fun w hw => hw, by simp [hreceipt], fun _ => ⟨hopen, hprior⟩,
      fun _ => h.anchor_of_holds hholds, ?_, by simp [OwnerPhase.awaits], fun hlast => ⟨heffects, rfl, some.inj hlast⟩⟩
      fun _ => h.alone_of_holds hholds
    exact hinv.view
  · rw [if_neg hopen]
    have hidle' : ¬ ({ x with phase := .writing (x.op.writes x.ctx.now), scratch := none } : OwnerTxn).Engaged := by
      rintro (hs | he | hp)
      · exact hs rfl
      · exact he heffects
      · exact hp rfl
    refine h.put_same ⟨by simp [OwnerPhase.isEarly], fun w hw => hw, by simp [hreceipt], fun hx => absurd hx hidle', fun hx => absurd hx hidle',
      ?_, by simp [OwnerPhase.awaits], by simp⟩ fun hx => absurd hx hidle'
    exact hinv.view

lemma OwnerInv.evaluate {w : Write} {rest : List Write} (hphase : x.phase = .writing (w :: rest))
    (hcond : x.unrecorded s.db = true → x.prior = none ∧ HoldsOwners s i) : OwnerInv (evaluateWrite s i x w rest) := by
  have hinv := h.txn i x hx
  have hahead := hinv.ahead
  rw [hphase] at hahead
  rw [evaluateWrite]
  split_ifs with hgate
  · simp only [Bool.and_eq_true] at hgate
    obtain ⟨⟨hopen, hok⟩, hguard⟩ := hgate
    obtain ⟨hprior, hholds⟩ := hcond hopen
    refine h.put_same ⟨by simp [OwnerPhase.isEarly], hahead, hinv.receipt, fun _ => ⟨hopen, hprior⟩, fun _ => h.anchor_of_holds hholds,
      hinv.view, fun w' hw' => ?_, fun hlast => ?_⟩ fun _ => h.alone_of_holds hholds
    · cases hw'
      exact ownerKept_effect (hahead w mem_cons_self) hguard hinv.view
    · -- the outcome has been `lastOwner`, and the tables have stood still since
      obtain ⟨heffects, -, hlast⟩ := hinv.refused hlast
      rw [OwnerTxn.view, heffects, foldl_nil, hlast] at hok
      exact absurd hok (by simp)
  · have hsame : ({ x with phase := .writing rest } : OwnerTxn).Engaged ↔ x.Engaged := by
      simp [OwnerTxn.Engaged, OwnerPhase.awaits, hphase]
    refine h.put_same ⟨by simp [OwnerPhase.isEarly], fun w' hw' => hahead w' (mem_cons_of_mem w hw'), hinv.receipt,
      fun hx => hinv.fresh (hsame.mp hx), fun hx => hinv.anchor (hsame.mp hx), hinv.view, by simp [OwnerPhase.awaits], fun hlast => ?_⟩
      fun hx' j y hy hyE => h.alone j i y x hy hx hyE (hsame.mp hx')
    obtain ⟨heffects, -, hlast⟩ := hinv.refused hlast
    exact ⟨heffects, rfl, hlast⟩

end

end Actions

end Bookclerk.Owners
