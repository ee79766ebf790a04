import Bookclerk.Named.Receipts
import Bookclerk.System.Run

/-! `take_webauthn_challenge` and `take_oidc_rp_state`: the consume-once batch, and the system of calls
that run it. A call reads a prior receipt first; its other statements meet those of calls of the same
operation at the key of the receipt, and take effect together. -/

namespace Bookclerk.Named

open Lexical Jobs List

inductive ChallengeKind where
  | login
  | elevate
  | register
  | totpLogin
  deriving DecidableEq

def ChallengeKind.asStr : ChallengeKind → Text
  | .login => utf8 "login"
  | .elevate => utf8 "elevate"
  | .register => utf8 "register"
  | .totpLogin => utf8 "totp_login"

inductive Take where
  | webauthnChallenge (challengeId : Text) (kind : ChallengeKind)
  | oidcRpState (stateHash : Text)
  deriving DecidableEq

namespace Take

def operationKind : Take → Text
  | webauthnChallenge _ _ => utf8 "takeWebauthnChallenge"
  | oidcRpState _ => utf8 "takeOidcRpState"

def tagged (challenges states : Text) : Take → Text
  | webauthnChallenge challengeId kind => challenges ++ challengeId ++ utf8 ":" ++ kind.asStr
  | oidcRpState stateHash => states ++ stateHash

/-- `db_atomic_operation_id` -/
def operationId : Take → Text :=
  tagged (utf8 "takeWebauthnChallenge:") (utf8 "takeOidcRpState:")

def consumeKey : Take → Text :=
  tagged (utf8 "webauthn:") (utf8 "oidc:")

end Take

inductive Taken where
  | webauthnChallenge (userId : Option Int) (stateJson : Text)
  | oidcRpState (providerId pkceVerifier nonce purpose : Text) (userId : Option Int)
  deriving DecidableEq

/-- A row of `webauthn_challenges` or of `oidc_rp_states`. -/
inductive ConsumeRow where
  | webauthnChallenge (challengeId : Text) (userId : Option Int) (kind : ChallengeKind) (stateJson : Text) (expiresAt : Stamp)
  | oidcRpState (stateHash providerId pkceVerifier nonce purpose : Text) (userId : Option Int) (expiresAt : Stamp)
  deriving DecidableEq

inductive ConsumeTable where
  | webauthnChallenges
  | oidcRpStates
  deriving DecidableEq

namespace ConsumeRow

def table : ConsumeRow → ConsumeTable
  | webauthnChallenge .. => .webauthnChallenges
  | oidcRpState .. => .oidcRpStates

def uniqueText : ConsumeRow → Text
  | webauthnChallenge challengeId .. => challengeId
  | oidcRpState stateHash .. => stateHash

def take : ConsumeRow → Take
  | webauthnChallenge challengeId _ kind _ _ => .webauthnChallenge challengeId kind
  | oidcRpState stateHash .. => .oidcRpState stateHash

def taken : ConsumeRow → Taken
  | webauthnChallenge _ userId _ stateJson _ => .webauthnChallenge userId stateJson
  | oidcRpState _ providerId pkceVerifier nonce purpose userId _ => .oidcRpState providerId pkceVerifier nonce purpose userId

def userId : ConsumeRow → Option Int
  | webauthnChallenge _ userId .. => userId
  | oidcRpState _ _ _ _ _ userId _ => userId

def expiresAt : ConsumeRow → Stamp
  | webauthnChallenge _ _ _ _ expiresAt => expiresAt
  | oidcRpState _ _ _ _ _ _ expiresAt => expiresAt

end ConsumeRow

section Batch

-- the SHA-256 of a serialized request
variable (digest : Take → Text)

def consumed (take : Take) (now : Stamp) (row : ConsumeRow) : AtomicReceipt Taken where
  operationId := take.operationId
  operationKind := take.operationKind
  requestHash := digest take
  status := if row.expiresAt ≤ now then .empty else .ok
  payload := if row.expiresAt ≤ now then none else some row.taken
  createdAt := now
  expiresAt := receiptExpiry now
  consumeKey := some take.consumeKey

def notConsumed (take : Take) (now : Stamp) : AtomicReceipt Taken where
  operationId := take.operationId
  operationKind := take.operationKind
  requestHash := digest take
  status := .empty
  payload := none
  createdAt := now
  expiresAt := receiptExpiry now
  consumeKey := none

/-- `INSERT OR IGNORE … SELECT … FROM table AS d`: the two unique columns of the receipts. -/
def copyRow (take : Take) (now : Stamp) (rows : List ConsumeRow) (receipts : Receipts Taken) : Receipts Taken :=
  match rows.find? fun d => d.take = take with
  | none => receipts
  | some d => if receipts.any fun r => r.consumeKey = some take.consumeKey then receipts else insertReceipt (consumed digest take now d) receipts

/-- `DELETE FROM table WHERE … AND EXISTS (… operation_id = ? AND created_at = ?)` -/
def deleteRow (take : Take) (now : Stamp) (receipts : Receipts Taken) (rows : List ConsumeRow) : List ConsumeRow :=
  if receipts.any fun r => r.operationId = take.operationId && r.createdAt = now then rows.filter fun d => d.take ≠ take else rows

structure Consumption where
  receipts : Receipts Taken
  rows : List ConsumeRow
  result : AtomicResult Taken

def wrapConsume (take : Take) (now : Stamp) (prior : Option (AtomicReceipt Taken)) (receipts : Receipts Taken)
    (rows : List ConsumeRow) : Consumption :=
  let copied := copyRow digest take now rows (pruneReceipts take.operationId now receipts)
  let rest := deleteRow take now copied rows
  let last := insertReceipt (notConsumed digest take now) copied
  ⟨last, rest, interpretSelection prior (selectReceipt take.operationId last) (digest take)⟩

def takeResult (result : AtomicResult Taken) : Except AtomicStatus (Option Taken) :=
  if result.status = .empty then .ok none
  else if result.status = .ok then
    match result.payload with
    | some row => .ok (some row)
    | none => .error .ok
  else .error result.status

end Batch

structure OpenTake where
  take : Take
  now : Stamp
  prior : Option (AtomicReceipt Taken)

structure TakeEntry where
  take : Take
  now : Stamp
  result : Except AtomicStatus (Option Taken)

def TakeEntry.returned (e : TakeEntry) : Option Taken :=
  match e.result with
  | .ok row => row
  | .error _ => none

/-- `login_verify` compares the code once the challenge names a user whose authenticator is set up. -/
def TakeEntry.testsCode (enrolled : Int → Bool) (e : TakeEntry) : Bool :=
  match e.take, e.returned with
  | .webauthnChallenge _ .totpLogin, some (.webauthnChallenge (some uid) _) => enrolled uid
  | _, _ => false

structure ConsumeState (ι : Type) where
  receipts : Receipts Taken
  rows : List ConsumeRow
  calls : ι → Option OpenTake
  log : List TakeEntry

inductive ConsumeStep (ι : Type) where
  | begin (call : ι) (take : Take) (now : Stamp)
  | finish (call : ι)
  | abort (call : ι)
  | operation (receipt : AtomicReceipt Taken) (now : Stamp)
  | insertRow (row : ConsumeRow) (now : Stamp)
  | pruneExpired (table : ConsumeTable) (now : Stamp)
  | deleteUser (userId : Int)

def isTakeId (operationId : Text) : Bool :=
  (utf8 "takeWebauthnChallenge:").isPrefixOf operationId || (utf8 "takeOidcRpState:").isPrefixOf operationId

def pruneExpired (table : ConsumeTable) (now : Stamp) (rows : List ConsumeRow) : List ConsumeRow :=
  rows.filter fun d => !(decide (d.table = table) && decide (d.expiresAt ≤ now))

/-- `insert_webauthn_challenge`, `insert_oidc_rp_state` -/
def insertRow (row : ConsumeRow) (now : Stamp) (rows : List ConsumeRow) : List ConsumeRow :=
  let kept := pruneExpired row.table now rows
  if 256 ≤ kept.countP fun d => d.table = row.table then kept
  else if kept.any fun d => d.table = row.table && d.uniqueText = row.uniqueText then kept
  else kept ++ [row]

def finishTake {ι : Type} [DecidableEq ι] (digest : Take → Text) (s : ConsumeState ι) (call : ι) (c : OpenTake) : ConsumeState ι :=
  let out := wrapConsume digest c.take c.now c.prior s.receipts s.rows
  ⟨out.receipts, out.rows, Function.update s.calls call none, ⟨c.take, c.now, takeResult out.result⟩ :: s.log⟩

def consumeStep {ι : Type} [DecidableEq ι] (digest : Take → Text) (s : ConsumeState ι) : ConsumeStep ι → Option (ConsumeState ι)
  | .begin call take now =>
    if (s.calls call).isSome then none
    else some { s with calls := Function.update s.calls call (some ⟨take, now, selectReceipt take.operationId s.receipts⟩) }
  | .finish call => (s.calls call).map (finishTake digest s call)
  | .abort call => some { s with calls := Function.update s.calls call none }
  | .operation receipt now =>
    if isTakeId receipt.operationId || receipt.consumeKey.isSome then none
    else some { s with receipts := insertReceipt receipt (pruneReceipts receipt.operationId now s.receipts) }
  | .insertRow row now => some { s with rows := insertRow row now s.rows }
  | .pruneExpired table now => some { s with rows := pruneExpired table now s.rows }
  | .deleteUser userId => some { s with rows := s.rows.filter fun d => d.userId ≠ some userId }

open Bookclerk.System

section Ids

lemma ChallengeKind.asStr_of_suffix {k k' : ChallengeKind} (h : (utf8 ":" ++ k.asStr) <:+ utf8 ":" ++ k'.asStr) : k = k' := by
  revert h
  cases k <;> cases k' <;> decide +kernel

lemma Take.tagged_injective {challenges states : Text} {n : Nat} (hchallenges : n ≤ challenges.length) (hstates : n ≤ states.length)
    (htags : challenges.take n ≠ states.take n) : Function.Injective (Take.tagged challenges states) := by
  have hne (id : Text) (kind : ChallengeKind) (hash : Text) :
      Take.tagged challenges states (.webauthnChallenge id kind) ≠ Take.tagged challenges states (.oidcRpState hash) := by
    intro h
    have h := congrArg (List.take n) h
    rw [Take.tagged, Take.tagged, append_assoc, append_assoc, take_append_of_le_length hchallenges, take_append_of_le_length hstates] at h
    exact htags h
  intro a b h
  cases a with
  | webauthnChallenge id kind =>
    cases b with
    | webauthnChallenge id' kind' =>
      have h : id ++ (utf8 ":" ++ kind.asStr) = id' ++ (utf8 ":" ++ kind'.asStr) := by
        simpa [Take.tagged] using h
      have hsuffix : (utf8 ":" ++ kind.asStr) <:+ id' ++ (utf8 ":" ++ kind'.asStr) := ⟨id, h⟩
      have hkind : kind = kind' := by
        rcases suffix_or_suffix_of_suffix hsuffix (suffix_append _ _) with hs | hs
        · exact ChallengeKind.asStr_of_suffix hs
        · exact (ChallengeKind.asStr_of_suffix hs).symm
      subst hkind
      rw [append_cancel_right h]
    | oidcRpState hash => exact absurd h (hne id kind hash)
  | oidcRpState hash =>
    cases b with
    | webauthnChallenge id kind => exact absurd h.symm (hne id kind hash)
    | oidcRpState hash' => rw [append_cancel_left h]

lemma Take.operationId_injective : Function.Injective Take.operationId :=
  Take.tagged_injective (show 5 ≤ _ by decide) (by decide) (by decide)

lemma Take.consumeKey_injective : Function.Injective Take.consumeKey :=
  Take.tagged_injective (show 1 ≤ _ by decide) (by decide) (by decide)

lemma isTakeId_operationId (take : Take) : isTakeId take.operationId = true := by
  cases take with
  | webauthnChallenge id kind => simp [isTakeId, Take.operationId, Take.tagged]
  | oidcRpState hash => simp [isTakeId, Take.operationId, Take.tagged]

end Ids

variable {r : AtomicReceipt Taken} {d : ConsumeRow}

section Batch

variable {digest : Take → Text} {take : Take} {now : Stamp} {receipts : Receipts Taken} {rows : List ConsumeRow}

structure WrittenBy (digest : Take → Text) (take : Take) (r : AtomicReceipt Taken) : Prop where
  hash : r.requestHash = digest take
  payload : r.status = .ok → r.payload.isSome = true

lemma writtenBy_consumed (take : Take) (now : Stamp) (d : ConsumeRow) : WrittenBy digest take (consumed digest take now d) := by
  refine ⟨rfl, fun h => ?_⟩
  rw [consumed] at h ⊢
  split_ifs at h ⊢ with hexp
  rfl

lemma writtenBy_notConsumed (take : Take) (now : Stamp) : WrittenBy digest take (notConsumed digest take now) :=
  ⟨rfl, nofun⟩

lemma mem_copyRow (h : r ∈ copyRow digest take now rows receipts) :
    r ∈ receipts ∨ ∃ d, rows.find? (fun d => d.take = take) = some d ∧ r = consumed digest take now d := by
  rw [copyRow] at h
  cases hfind : rows.find? fun d => d.take = take with
  | none => exact .inl (by simpa [hfind] using h)
  | some d =>
    rw [hfind] at h
    split_ifs at h
    · exact .inl h
    · rcases mem_insertReceipt h with h | rfl
      · exact .inl h
      · exact .inr ⟨d, rfl, rfl⟩

lemma mem_wrapConsume (prior : Option (AtomicReceipt Taken))
    (h : r ∈ (wrapConsume digest take now prior receipts rows).receipts) :
    r ∈ receipts ∨ r = notConsumed digest take now ∨
      ∃ d, rows.find? (fun d => d.take = take) = some d ∧ r = consumed digest take now d := by
  rcases mem_insertReceipt h with h | rfl
  · rcases mem_copyRow h with h | h
    · exact .inl (mem_of_mem_prune h)
    · exact .inr (.inr h)
  · exact .inr (.inl rfl)

lemma rows_wrapConsume_subset (prior : Option (AtomicReceipt Taken))
    (h : d ∈ (wrapConsume digest take now prior receipts rows).rows) : d ∈ rows := by
  rw [wrapConsume, deleteRow] at h
  split_ifs at h
  · exact mem_of_mem_filter h
  · exact h

lemma selectReceipt_copyRow_of_some (h : selectReceipt take.operationId receipts = some r) :
    selectReceipt take.operationId (copyRow digest take now rows receipts) = some r := by
  rw [copyRow]
  split
  · exact h
  · rename_i d _
    split_ifs
    · exact h
    · have hins := selectReceipt_insert (consumed digest take now d) receipts
      rw [show (consumed digest take now d).operationId = take.operationId from rfl, h] at hins
      exact hins

lemma selectReceipt_copyRow_of_row (h : selectReceipt take.operationId receipts = none)
    (hkeyed : ∀ r ∈ receipts, r.consumeKey = some take.consumeKey → r.operationId = take.operationId)
    (hd : rows.find? (fun d => d.take = take) = some d) :
    selectReceipt take.operationId (copyRow digest take now rows receipts) = some (consumed digest take now d) := by
  have hany : ¬ receipts.any (fun r => r.consumeKey = some take.consumeKey) = true := by
    intro hany
    obtain ⟨r, hr, hkey⟩ := any_eq_true.mp hany
    exact selectReceipt_eq_none.mp h r hr (hkeyed r hr (by simpa using hkey))
  have hins := selectReceipt_insert (consumed digest take now d) receipts
  rw [show (consumed digest take now d).operationId = take.operationId from rfl, h] at hins
  rw [copyRow, hd]
  dsimp only
  rw [if_neg hany]
  exact hins

lemma selectReceipt_last (receipts : Receipts Taken) :
    selectReceipt take.operationId (insertReceipt (notConsumed digest take now) receipts) =
      some ((selectReceipt take.operationId receipts).getD (notConsumed digest take now)) :=
  selectReceipt_insert (notConsumed digest take now) receipts

lemma returned_takeResult (result : AtomicResult Taken) :
    TakeEntry.returned ⟨take, now, takeResult result⟩ = if result.status = .ok then result.payload else none := by
  obtain ⟨status, payload, replayed⟩ := result
  cases status <;> cases payload <;> rfl

lemma returned_interpretReceipt (hr : WrittenBy digest take r) (replayed : Bool) :
    TakeEntry.returned ⟨take, now, takeResult (interpretReceipt (some r) (digest take) replayed)⟩ =
      if r.status = .ok then r.payload else none := by
  rw [returned_takeResult, interpretReceipt, if_neg (not_not.mpr hr.hash)]
  by_cases hok : r.status = .ok
  · rw [if_pos hok, if_pos rfl, if_pos hok]
  · rw [if_neg hok, if_neg hok, if_neg hok]

def answer (take : Take) (prior : Option (AtomicReceipt Taken)) (receipts : Receipts Taken) : Option (AtomicReceipt Taken) :=
  prior.or (selectReceipt take.operationId receipts)

variable {prior : Option (AtomicReceipt Taken)}

lemma returned_of_answer (h : answer take prior receipts = some r)
    (hr : WrittenBy digest take r) :
    TakeEntry.returned ⟨take, now, takeResult (wrapConsume digest take now prior receipts rows).result⟩ =
      if r.status = .ok then r.payload else none := by
  rw [wrapConsume]
  cases prior with
  | some r' =>
    obtain rfl : r' = r := by simpa [answer] using h
    exact returned_interpretReceipt hr true
  | none =>
    have hsel : selectReceipt take.operationId (pruneReceipts take.operationId now receipts) = some r := by
      simpa [answer] using h
    rw [selectReceipt_last, selectReceipt_copyRow_of_some hsel]
    exact returned_interpretReceipt hr false

lemma returned_of_absent (h : answer take prior receipts = none)
    (hrow : rows.find? (fun d => d.take = take) = none) :
    TakeEntry.returned ⟨take, now, takeResult (wrapConsume digest take now prior receipts rows).result⟩ = none := by
  obtain ⟨rfl, hsel⟩ : prior = none ∧ selectReceipt take.operationId receipts = none := by simpa [answer] using h
  rw [wrapConsume, copyRow, hrow]
  rw [selectReceipt_last, selectReceipt_prune, hsel]
  exact returned_interpretReceipt (writtenBy_notConsumed take now) false

lemma wrapConsume_of_row (h : answer take prior receipts = none)
    (hkeyed : ∀ r ∈ receipts, r.consumeKey = some take.consumeKey → r.operationId = take.operationId)
    (hd : rows.find? (fun d => d.take = take) = some d) :
    TakeEntry.returned ⟨take, now, takeResult (wrapConsume digest take now prior receipts rows).result⟩ =
        (if d.expiresAt ≤ now then none else some d.taken) ∧
      ∀ d ∈ (wrapConsume digest take now prior receipts rows).rows, d.take ≠ take := by
  obtain ⟨rfl, hsel⟩ : prior = none ∧ selectReceipt take.operationId receipts = none := by simpa [answer] using h
  have hcopy : selectReceipt take.operationId (copyRow digest take now rows (pruneReceipts take.operationId now receipts)) =
      some (consumed digest take now d) :=
    selectReceipt_copyRow_of_row (by rwa [selectReceipt_prune]) (fun r hr => hkeyed r (mem_of_mem_prune hr)) hd
  rw [wrapConsume]
  refine ⟨?_, fun d' hd' => ?_⟩
  · rw [selectReceipt_last, hcopy, Option.getD_some, interpretSelection, returned_interpretReceipt (writtenBy_consumed take now d)]
    by_cases hexp : d.expiresAt ≤ now <;> simp [consumed, hexp]
  · have hany : (copyRow digest take now rows (pruneReceipts take.operationId now receipts)).any
        (fun r => r.operationId = take.operationId && r.createdAt = now) = true :=
      any_eq_true.mpr ⟨_, (selectReceipt_eq_some hcopy).1, by simp [consumed]⟩
    rw [deleteRow, if_pos hany] at hd'
    simpa using (mem_filter.mp hd').2

end Batch

end Bookclerk.Named
