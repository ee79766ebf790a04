import Bookclerk.Events.Moves

namespace Bookclerk.Events

open Lexical Db Jobs

inductive ClaimStatus where
  | ok
  | empty
  deriving DecidableEq

structure ClaimReceipt where
  operationId : Text
  requestHash : Text
  status : ClaimStatus
  payload : Option Delivery
  expiresAt : Stamp
  deriving DecidableEq

structure Backend where
  table : DeliveryTable
  receipts : List ClaimReceipt

inductive BatchReply where
  | ok (payload : Option Delivery)
  | empty
  | conflict
  deriving DecidableEq

def leaseSecsOr (leaseSecs : Nat) : Nat :=
  if leaseSecs < 2 ^ 63 then leaseSecs else 60

def claimRequest (args : ClaimArgs) (m : Delivery) : Text :=
  utf8 "claimEventDelivery:" ++ m.id ++ utf8 ":" ++ args.owner ++ utf8 (":" ++ toString (leaseSecsOr args.leaseSecs) ++ ":") ++
    m.pluginId ++ utf8 ":" ++ m.resourceClass ++ utf8 (":" ++ toString args.maxInFlight)

def pruneClaimReceipts (now : Stamp) (key : Text) (receipts : List ClaimReceipt) : List ClaimReceipt :=
  receipts.filter fun c => !(c.expiresAt ≤ now && c.operationId ≠ key)

def ClaimReceipt.reply (c : ClaimReceipt) (hash : Text) : BatchReply :=
  if c.requestHash ≠ hash then .conflict
  else
    match c.status with
    | .ok => .ok c.payload
    | .empty => .empty

section Batch

variable (digest : Text → Text) (b : Backend) (key : Text) (args : ClaimArgs) (m : Delivery) (now : Stamp)

def priorClaim : Option ClaimReceipt :=
  (pruneClaimReceipts now key b.receipts).find? fun c => c.operationId = key

def claimedTable : DeliveryTable :=
  b.table.modify (hostStmt b.table.rows args m now).toStmt.row (Stmt.key_row _)

def claimReceipt : ClaimReceipt where
  operationId := key
  requestHash := digest (claimRequest args m)
  status := if hostStatus (claimedTable b args m now) args m now then .ok else .empty
  payload := if hostStatus (claimedTable b args m now) args m now then (claimedTable b args m now).find m.id else none
  expiresAt := afterSecs now 86400

/-- `plan_claim_event_delivery_cas` in the envelope of `wrap_status_op`: a receipt under the key stops
every write, and is the reply. -/
def claimEventDelivery : Backend × BatchReply :=
  match priorClaim b key now with
  | some prior => (⟨b.table, pruneClaimReceipts now key b.receipts⟩, prior.reply (digest (claimRequest args m)))
  | none =>
    (⟨claimedTable b args m now, claimReceipt digest b key args m now :: pruneClaimReceipts now key b.receipts⟩,
      (claimReceipt digest b key args m now).reply (digest (claimRequest args m)))

def batchClaims : Bool :=
  (priorClaim b key now).isNone &&
    (b.table.find m.id).any (hostStmt b.table.rows args m now).applies

end Batch

inductive Answer where
  | claimed (r : Delivery)
  | nothing
  | failed
  deriving DecidableEq

/-- `moved`: the rows that the operation has moved to running, newest first; `answer`: what ends the
loop of `claim_delivery`. -/
structure Replay where
  backend : Backend
  call : Option Claim
  moved : List Text
  answer : Option Answer

def Replay.initial (table : DeliveryTable) (receipts : List ClaimReceipt) : Replay :=
  ⟨⟨table, receipts⟩, none, [], none⟩

inductive Fate where
  | answered
  | lost (committed : Bool)
  deriving DecidableEq

inductive ReplayAction where
  | call (now : Stamp)
  | advance (catalogMatches : Bool)
  | send (now : Stamp) (fate : Fate)
  deriving DecidableEq

def receiptKey (operationId id : Text) : Text :=
  operationId ++ utf8 ":" ++ id

namespace Replay

variable (digest : Text → Text) (operationId : Text) (args : ClaimArgs)

def goto (q : Replay) (d : Claim) (phase : ClaimPhase) : Replay :=
  { q with call := some { d with phase := phase } }

def advance (q : Replay) (d : Claim) (catalogMatches : Bool) : Option Replay :=
  match d.phase with
  | .sanitize (m :: left) =>
    let stmt := (rejectUnknownClass m d.args.now).toStmt
    some (goto { q with backend := { q.backend with table := q.backend.table.modify stmt.row stmt.key_row } } d (.sanitize left))
  | .sanitize [] => some (q.goto d (.query none))
  | .query cursor =>
    match (claimPage d.args cursor q.backend.table.rows).getLast? with
    | none => some { q with call := none, answer := some .nothing }
    | some _ => some (q.goto d (afterQuery d.args cursor q.backend.table.rows))
  | .scan ⟨[], cursor⟩ => some (q.goto d (.query cursor))
  | .scan ⟨m :: left, cursor⟩ => some (q.goto d (afterChecks d.args q.backend.table.rows m ⟨left, cursor⟩ catalogMatches))
  | .passed _ _ | .locked _ _ | .admitted _ _ | .done _ => none

def committed (q : Replay) (d : Claim) (m : Delivery) (now : Stamp) : Replay where
  backend := (claimEventDelivery digest q.backend (receiptKey operationId m.id) d.args m now).1
  call := none
  moved := if batchClaims q.backend (receiptKey operationId m.id) d.args m now then m.id :: q.moved else q.moved
  answer := q.answer

def send (q : Replay) (d : Claim) (m : Delivery) (page : Page) (now : Stamp) : Fate → Replay
  | .lost false => { q with call := none }
  | .lost true => q.committed digest operationId d m now
  | .answered =>
    match (claimEventDelivery digest q.backend (receiptKey operationId m.id) d.args m now).2 with
    | .ok (some r) => { q.committed digest operationId d m now with answer := some (.claimed r) }
    | .ok none | .conflict => { q.committed digest operationId d m now with answer := some .failed }
    | .empty => (q.committed digest operationId d m now).goto d (.scan page)

def step (q : Replay) : ReplayAction → Option Replay
  | .call now =>
    if q.answer.isSome ∨ q.call.isSome then none
    else if args.pluginIds = [] then some { q with answer := some .nothing }
    else some { q with call := some ⟨{ args with now := now }, .sanitize (unknownClassSuspects q.backend.table.rows)⟩ }
  | .advance catalogMatches => q.call.bind fun d => q.advance d catalogMatches
  | .send now fate => q.call.bind fun d =>
    match d.phase with
    | .passed m page => some (q.send digest operationId d m page now fate)
    | _ => none

end Replay

def ClaimAnswered (operationId : Text) (q : Replay) : ReplayAction → Prop
  | .send now (.lost true) => ∀ d ∈ q.call, ∀ m ∈ d.phase.chosen,
      batchClaims q.backend (receiptKey operationId m.id) d.args m now = false
  | _ => True

instance (operationId : Text) (q : Replay) (a : ReplayAction) : Decidable (ClaimAnswered operationId q a) := by
  rcases a with _ | _ | ⟨_, _ | (_ | _)⟩ <;> unfold ClaimAnswered <;> infer_instance

structure Replay.Once (q : Replay) : Prop where
  moved : q.moved.length ≤ 1
  nothing : q.answer = some .nothing → q.moved = []
  claimed : ∀ r, q.answer = some (.claimed r) → q.moved = [r.id]

end Bookclerk.Events
