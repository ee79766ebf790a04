import Bookclerk.Jobs.Model

namespace Bookclerk.Named

open Lexical Jobs List Option

inductive AtomicStatus where
  | ok
  | empty
  | notFound
  | lastOwner
  | claimInvalid
  | passwordRequired
  | idempotencyConflict
  | duplicate
  | queueFull
  deriving DecidableEq

structure AtomicReceipt (π : Type) where
  operationId : Text
  operationKind : Text
  requestHash : Text
  status : AtomicStatus
  payload : Option π
  createdAt : Stamp
  expiresAt : Stamp
  consumeKey : Option Text
  deriving DecidableEq

structure ReceiptCtx where
  operationId : Text
  requestHash : Text
  kind : Text
  now : Stamp

def receiptExpiry (now : Stamp) : Stamp :=
  afterSecs now 86400

def ReceiptCtx.expiresAt (ctx : ReceiptCtx) : Stamp :=
  receiptExpiry ctx.now

structure AtomicResult (π : Type) where
  status : AtomicStatus
  payload : Option π
  replayed : Bool
  deriving DecidableEq

abbrev Receipts (π : Type) := List (AtomicReceipt π)

variable {π : Type}

def selectReceipt (operationId : Text) (receipts : Receipts π) : Option (AtomicReceipt π) :=
  receipts.find? fun r => r.operationId = operationId

def pruneReceipts (operationId : Text) (now : Stamp) (receipts : Receipts π) : Receipts π :=
  receipts.filter fun r => !(decide (r.expiresAt ≤ now) && decide (r.operationId ≠ operationId))

def insertReceipt (receipt : AtomicReceipt π) (receipts : Receipts π) : Receipts π :=
  if (selectReceipt receipt.operationId receipts).isNone then receipts ++ [receipt] else receipts

def interpretReceipt (row : Option (AtomicReceipt π)) (expectedHash : Text) (replayed : Bool) : AtomicResult π :=
  match row with
  | none => ⟨.empty, none, false⟩
  | some r =>
    if r.requestHash ≠ expectedHash then ⟨.idempotencyConflict, none, false⟩
    else if r.status = .ok then ⟨.ok, r.payload, replayed⟩
    else ⟨r.status, none, replayed⟩

def interpretSelection (prior last : Option (AtomicReceipt π)) (expectedHash : Text) : AtomicResult π :=
  match prior with
  | some r => interpretReceipt (some r) expectedHash true
  | none => interpretReceipt last expectedHash false

variable {receipts : Receipts π} {operationId : Text}

lemma selectReceipt_eq_some {r : AtomicReceipt π}
    (h : selectReceipt operationId receipts = some r) : r ∈ receipts ∧ r.operationId = operationId :=
  ⟨List.mem_of_find?_eq_some h, by simpa using List.find?_some h⟩

lemma selectReceipt_eq_none : selectReceipt operationId receipts = none ↔ ∀ r ∈ receipts, r.operationId ≠ operationId := by
  simp [selectReceipt]

lemma mem_of_mem_prune {now : Stamp} {r : AtomicReceipt π} (h : r ∈ pruneReceipts operationId now receipts) : r ∈ receipts :=
  mem_of_mem_filter h

@[simp] lemma selectReceipt_prune (operationId : Text) (now : Stamp) (receipts : Receipts π) :
    selectReceipt operationId (pruneReceipts operationId now receipts) = selectReceipt operationId receipts := by
  rw [selectReceipt, pruneReceipts, List.find?_filter]
  congr 1
  funext r
  by_cases h : r.operationId = operationId <;> simp [h]

lemma selectReceipt_insert (receipt : AtomicReceipt π) (receipts : Receipts π) :
    selectReceipt receipt.operationId (insertReceipt receipt receipts) =
      some ((selectReceipt receipt.operationId receipts).getD receipt) := by
  rw [insertReceipt]
  cases h : selectReceipt receipt.operationId receipts with
  | none =>
    rw [if_pos isNone_none, selectReceipt, List.find?_append, ← selectReceipt, h]
    simp
  | some r =>
    rw [if_neg (by simp), h]
    rfl

lemma mem_insertReceipt {receipt r : AtomicReceipt π} (h : r ∈ insertReceipt receipt receipts) : r ∈ receipts ∨ r = receipt := by
  rw [insertReceipt] at h
  split_ifs at h
  · simpa using h
  · exact .inl h

variable {δ π : Type}

structure StatusPlan (δ π : Type) where
  before : List (δ → Option δ)
  outcome : δ → AtomicStatus
  after : List (δ → Option δ)
  payload : δ → Option π

structure NamedDb (δ π : Type) where
  receipts : Receipts π
  tables : δ

def statusToBump : AtomicStatus → Nat
  | .ok => 1
  | .empty => 2
  | .notFound => 3
  | .lastOwner => 4
  | .claimInvalid => 5
  | .passwordRequired => 6
  | .idempotencyConflict => 7
  | .duplicate => 8
  | .queueFull => 9

def bumpToStatus : Nat → AtomicStatus
  | 1 => .ok
  | 2 => .empty
  | 3 => .notFound
  | 4 => .lastOwner
  | 5 => .claimInvalid
  | 6 => .passwordRequired
  | 7 => .idempotencyConflict
  | 8 => .duplicate
  | 9 => .queueFull
  | _ => .claimInvalid

lemma bumpToStatus_statusToBump (status : AtomicStatus) : bumpToStatus (statusToBump status) = status := by
  cases status <;> rfl

def ReceiptCtx.receipt (ctx : ReceiptCtx) (status : AtomicStatus) : AtomicReceipt π where
  operationId := ctx.operationId
  operationKind := ctx.kind
  requestHash := ctx.requestHash
  status := status
  payload := none
  createdAt := ctx.now
  expiresAt := ctx.expiresAt
  consumeKey := none

/-- `UPDATE bookclerk_receipts SET payload = (…) WHERE … AND status = 'ok' AND payload IS NULL` -/
def receiptPayloadUpdate (operationId : Text) (payload : Option π) (r : AtomicReceipt π) : AtomicReceipt π :=
  if r.operationId = operationId ∧ r.status = .ok ∧ r.payload.isNone then { r with payload := payload } else r

def gateWrite (fresh : Bool) (write : δ → Option δ) (t : δ) : Option δ :=
  if fresh then write t else some t

def gateWriteWhenOutcomeOk (fresh : Bool) (outcome : δ → AtomicStatus) (write : δ → Option δ) (t : δ) : Option δ :=
  if fresh && outcome t = .ok then write t else some t

def wrapStatusOp (plan : StatusPlan δ π) (ctx : ReceiptCtx) (db : NamedDb δ π) : Option (NamedDb δ π × AtomicResult π) := do
  let receipts := pruneReceipts ctx.operationId ctx.now db.receipts
  let prior := selectReceipt ctx.operationId receipts
  let written ← plan.before.foldlM (fun t write => gateWrite prior.isNone write t) db.tables
  let bump := statusToBump (plan.outcome written)
  let tables ← plan.after.foldlM (fun t write => gateWriteWhenOutcomeOk prior.isNone plan.outcome write t) written
  let inserted := insertReceipt (ctx.receipt (bumpToStatus bump)) receipts
  let last := inserted.map (receiptPayloadUpdate ctx.operationId (plan.payload tables))
  some (⟨last, tables⟩, interpretSelection prior (selectReceipt ctx.operationId last) ctx.requestHash)

variable {ctx : ReceiptCtx} {db : NamedDb δ π}

lemma foldlM_skip {α : Type} (f : δ → α → Option δ) (hf : ∀ t a, f t a = some t) (l : List α) (t : δ) : l.foldlM f t = some t := by
  induction l with
  | nil => rfl
  | cons a l ih =>
    rw [foldlM_cons, hf]
    exact ih

lemma selectReceipt_map (operationId : Text) (f : AtomicReceipt π → AtomicReceipt π) (hf : ∀ r, (f r).operationId = r.operationId)
    (receipts : Receipts π) : selectReceipt operationId (receipts.map f) = (selectReceipt operationId receipts).map f := by
  have hcomp : ((fun r : AtomicReceipt π => decide (r.operationId = operationId)) ∘ f) = fun r => decide (r.operationId = operationId) := by
    funext r
    simp [hf]
  rw [selectReceipt, List.find?_map, hcomp, selectReceipt]

lemma status_interpretReceipt (r : AtomicReceipt π) (hash : Text) (replayed : Bool) :
    (interpretReceipt (some r) hash replayed).status = if r.requestHash = hash then r.status else .idempotencyConflict := by
  rw [interpretReceipt]
  by_cases hhash : r.requestHash = hash
  · rw [if_neg (not_not.mpr hhash), if_pos hhash]
    by_cases hok : r.status = .ok
    · rw [if_pos hok, hok]
    · rw [if_neg hok]
  · rw [if_pos hhash, if_neg hhash]

structure AtomicReceipt.SameAnswer (r' r : AtomicReceipt π) : Prop where
  operationId : r'.operationId = r.operationId
  requestHash : r'.requestHash = r.requestHash
  status : r'.status = r.status

lemma sameAnswer_receiptPayloadUpdate (operationId : Text) (payload : Option π) (r : AtomicReceipt π) :
    (receiptPayloadUpdate operationId payload r).SameAnswer r := by
  rw [receiptPayloadUpdate]
  split_ifs <;> exact ⟨rfl, rfl, rfl⟩

lemma wrapStatusOp_replayed (plan : StatusPlan δ π) {r : AtomicReceipt π}
    (hprior : selectReceipt ctx.operationId db.receipts = some r) :
    ∃ db', wrapStatusOp plan ctx db = some (db', interpretReceipt (some r) ctx.requestHash true) ∧ db'.tables = db.tables ∧
      ∀ r' ∈ db'.receipts, ∃ r ∈ db.receipts, r'.SameAnswer r := by
  have hbefore : plan.before.foldlM (fun t write => gateWrite false write t) db.tables = some db.tables :=
    foldlM_skip _ (fun _ _ => rfl) ..
  have hafter : plan.after.foldlM (fun t write => gateWriteWhenOutcomeOk false plan.outcome write t) db.tables = some db.tables :=
    foldlM_skip _ (fun _ _ => rfl) ..
  rw [wrapStatusOp]
  simp only [selectReceipt_prune, hprior, isNone_some, bind_eq_bind]
  rw [hbefore, bind_some, hafter]
  refine ⟨_, rfl, rfl, fun r' hr' => ?_⟩
  obtain ⟨r₁, hr₁, rfl⟩ := List.mem_map.mp hr'
  rw [insertReceipt, show (ctx.receipt _ : AtomicReceipt π).operationId = ctx.operationId from rfl, selectReceipt_prune, hprior] at hr₁
  exact ⟨r₁, mem_of_mem_prune hr₁, sameAnswer_receiptPayloadUpdate _ _ r₁⟩

section

variable (plan : StatusPlan δ π) (hprior : selectReceipt ctx.operationId db.receipts = none)
include plan hprior

lemma wrapStatusOp_ran {written tables : δ}
    (hbefore : plan.before.foldlM (fun t write => write t) db.tables = some written)
    (hafter : plan.after.foldlM (fun t write => gateWriteWhenOutcomeOk true plan.outcome write t) written = some tables) :
    ∃ db' result, wrapStatusOp plan ctx db = some (db', result) ∧ db'.tables = tables ∧ result.status = plan.outcome written ∧
      ∀ r' ∈ db'.receipts, (∃ r ∈ db.receipts, r'.SameAnswer r) ∨ r'.SameAnswer (ctx.receipt (plan.outcome written)) := by
  rw [wrapStatusOp]
  simp only [selectReceipt_prune, hprior, isNone_none, bind_eq_bind, gateWrite, if_true, hbefore, hafter, bind_some,
    bumpToStatus_statusToBump]
  refine ⟨_, _, rfl, rfl, ?_, fun r' hr' => ?_⟩
  · have hins := selectReceipt_insert (ctx.receipt (plan.outcome written)) (pruneReceipts ctx.operationId ctx.now db.receipts)
    rw [show (ctx.receipt (plan.outcome written) : AtomicReceipt π).operationId = ctx.operationId from rfl, selectReceipt_prune,
      hprior, getD_none] at hins
    have hsame := sameAnswer_receiptPayloadUpdate ctx.operationId (plan.payload tables) (ctx.receipt (plan.outcome written))
    rw [interpretSelection, selectReceipt_map _ _ fun r => (sameAnswer_receiptPayloadUpdate _ _ r).operationId, hins,
      map_some, status_interpretReceipt, hsame.status, hsame.requestHash]
    exact if_pos rfl
  · obtain ⟨r₁, hr₁, rfl⟩ := List.mem_map.mp hr'
    rcases mem_insertReceipt hr₁ with hr₁ | rfl
    · exact .inl ⟨r₁, mem_of_mem_prune hr₁, sameAnswer_receiptPayloadUpdate _ _ r₁⟩
    · exact .inr (sameAnswer_receiptPayloadUpdate ..)

lemma wrapStatusOp_fresh (hafter : plan.after = []) :
    (plan.before.foldlM (fun t write => write t) db.tables = none ∧ wrapStatusOp plan ctx db = none) ∨
      ∃ tables db' result, plan.before.foldlM (fun t write => write t) db.tables = some tables ∧
        wrapStatusOp plan ctx db = some (db', result) ∧ db'.tables = tables ∧ result.status = plan.outcome tables ∧
        ∀ r' ∈ db'.receipts, (∃ r ∈ db.receipts, r'.SameAnswer r) ∨ r'.SameAnswer (ctx.receipt (plan.outcome tables)) := by
  cases hbefore : plan.before.foldlM (fun t write => write t) db.tables with
  | none =>
    refine .inl ⟨rfl, ?_⟩
    rw [wrapStatusOp]
    simp only [selectReceipt_prune, hprior, isNone_none, bind_eq_bind, gateWrite, if_true, hbefore, bind_none]
  | some tables =>
    obtain ⟨db', result, hran⟩ := wrapStatusOp_ran plan hprior hbefore (by rw [hafter]; rfl)
    exact .inr ⟨tables, db', result, rfl, hran⟩

end

end Bookclerk.Named
