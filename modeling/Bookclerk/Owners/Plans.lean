import Bookclerk.Named.Receipts
import Bookclerk.System.Run

namespace Bookclerk.Owners

open Lexical Db Jobs Named List

inductive UserRole where
  | owner
  | administrator
  | member
  deriving DecidableEq

inductive UserStatus where
  | active
  | disabled
  deriving DecidableEq

structure User where
  id : Int
  role : UserRole
  status : UserStatus
  updatedAt : Stamp
  deriving DecidableEq

def User.isActiveOwner (u : User) : Bool :=
  u.role = .owner && u.status = .active

structure Identity where
  id : Int
  userId : Option Int

structure OperatorSession where
  tokenHash : Text
  elevatedFromUserId : Option Int
  impersonatingUserId : Option Int

structure Preference where
  identityId : Option Int
  subjectKey : Text

structure Secret where
  kind : Text
  accountType : Text
  accountId : Text

structure OwnedRow where
  owner : Option Int
  data : Text

inductive IdentityTable where
  | accountLinks
  | titleRequests
  | claimTickets
  | portalSessions
  | listeningProgress
  deriving DecidableEq

inductive UserOwnedTable where
  | oidcRefreshTokens
  | oidcAuthCodes
  | webauthnCredentials
  | webauthnChallenges
  | oidcRpStates
  deriving DecidableEq

structure UserTables where
  users : Table User.id
  identities : List Identity
  identityRows : IdentityTable → List OwnedRow
  preferences : List Preference
  operatorSessions : List OperatorSession
  userRows : UserOwnedTable → List OwnedRow
  secrets : List Secret

/-- One write of a plan. `row` is the row of `users` that it writes; `guard` is the part of its
condition that reads the tables. -/
structure Write where
  row : Option Int
  guard : UserTables → Bool
  effect : UserTables → UserTables

def Write.run (w : Write) (t : UserTables) : UserTables :=
  if w.guard t then w.effect t else t

section Statements

variable (userId : Int)

def lastOwner (t : UserTables) : Bool :=
  (t.users.find userId).any User.isActiveOwner && t.users.rows.countP User.isActiveOwner ≤ 1

def allowMutate (t : UserTables) : Bool :=
  (t.users.find userId).isSome && !lastOwner userId t

def ownsIdentity (t : UserTables) (identityId : Option Int) : Bool :=
  t.identities.any fun i => i.userId = some userId && some i.id = identityId

def deleteIdentityRows (table : IdentityTable) (t : UserTables) : UserTables :=
  let kept := (t.identityRows table).filter fun r => !ownsIdentity userId t r.owner
  { t with identityRows := Function.update t.identityRows table kept }

def deleteIdentityPreferences (t : UserTables) : UserTables :=
  { t with preferences := t.preferences.filter fun p => !ownsIdentity userId t p.identityId }

def deleteElevatedSessions (t : UserTables) : UserTables :=
  { t with operatorSessions := t.operatorSessions.filter fun s => s.elevatedFromUserId ≠ some userId }

def clearImpersonation (t : UserTables) : UserTables :=
  { t with operatorSessions := t.operatorSessions.map fun s =>
      if s.impersonatingUserId = some userId then { s with impersonatingUserId := none } else s }

def deleteUserRows (table : UserOwnedTable) (t : UserTables) : UserTables :=
  { t with userRows := Function.update t.userRows table ((t.userRows table).filter fun r => r.owner ≠ some userId) }

def deleteTotpSecrets (t : UserTables) : UserTables :=
  { t with secrets := t.secrets.filter fun s =>
      !(s.kind = utf8 "totp" && s.accountType = utf8 "user" && s.accountId = utf8 (toString userId)) }

def deleteIdentities (t : UserTables) : UserTables :=
  { t with identities := t.identities.filter fun i => i.userId ≠ some userId }

def deleteSubjectPreferences (t : UserTables) : UserTables :=
  { t with preferences := t.preferences.filter fun p => p.subjectKey ≠ utf8 "user:" ++ utf8 (toString userId) }

def deleteUserRow (t : UserTables) : UserTables :=
  { t with users := t.users.filter fun u => u.id ≠ userId }

def setUser (f : User → User) (hf : ∀ u, (f u).id = u.id) (t : UserTables) : UserTables :=
  { t with users := t.users.modify (fun u => if u.id = userId then f u else u) fun u => by split_ifs <;> simp [hf] }

def deleteUserWrites : List Write :=
  let gated (effect : UserTables → UserTables) : Write := ⟨none, allowMutate userId, effect⟩
  [gated (deleteIdentityRows userId .accountLinks), gated (deleteIdentityRows userId .titleRequests),
    gated (deleteIdentityRows userId .claimTickets), gated (deleteIdentityRows userId .portalSessions),
    gated (deleteIdentityRows userId .listeningProgress), gated (deleteIdentityPreferences userId),
    gated (deleteElevatedSessions userId), gated (clearImpersonation userId),
    gated (deleteUserRows userId .oidcRefreshTokens), gated (deleteUserRows userId .oidcAuthCodes),
    gated (deleteUserRows userId .webauthnCredentials), gated (deleteUserRows userId .webauthnChallenges),
    gated (deleteUserRows userId .oidcRpStates), gated (deleteTotpSecrets userId), gated (deleteIdentities userId),
    gated (deleteSubjectPreferences userId), ⟨some userId, fun t => !lastOwner userId t, deleteUserRow userId⟩]

def setUserStatusWrites (status : UserStatus) (now : Stamp) : List Write :=
  [⟨some userId, fun t => !(status = .disabled && lastOwner userId t),
      setUser userId (fun u => { u with status, updatedAt := now }) fun _ => rfl⟩,
    ⟨none, fun t => status = .disabled && (t.users.find userId).any fun u => u.status = .disabled, deleteElevatedSessions userId⟩]

def setUserRoleWrites (role : UserRole) (now : Stamp) : List Write :=
  [⟨none, fun t => ((t.users.find userId).any fun u => u.role ≠ role) && !(role ≠ .owner && lastOwner userId t), deleteElevatedSessions userId⟩,
    ⟨some userId, fun t => !(role ≠ .owner && lastOwner userId t),
      setUser userId (fun u => { u with role, updatedAt := now }) fun _ => rfl⟩]

end Statements

inductive OwnerOp where
  | deleteUser (userId : Int)
  | setUserStatus (userId : Int) (status : UserStatus)
  | setUserRole (userId : Int) (role : UserRole)
  deriving DecidableEq

namespace OwnerOp

def userId : OwnerOp → Int
  | deleteUser userId | setUserStatus userId _ | setUserRole userId _ => userId

def takesOwner : OwnerOp → Bool
  | deleteUser _ => true
  | setUserStatus _ status => status = .disabled
  | setUserRole _ role => role ≠ .owner

def writes (now : Stamp) : OwnerOp → List Write
  | deleteUser userId => deleteUserWrites userId
  | setUserStatus userId status => setUserStatusWrites userId status now
  | setUserRole userId role => setUserRoleWrites userId role now

def outcome (op : OwnerOp) (t : UserTables) : AtomicStatus :=
  if (t.users.find op.userId).isNone then .notFound
  else if op.takesOwner && lastOwner op.userId t then .lastOwner
  else .ok

def payload (op : OwnerOp) (t : UserTables) : Option User :=
  match op with
  | deleteUser _ => none
  | setUserStatus userId _ | setUserRole userId _ => t.users.find userId

/-- The lock statement sets `updated_at` of the active owners to itself. -/
def plan (op : OwnerOp) (now : Stamp) : StatusPlan UserTables User where
  before := [some]
  outcome := op.outcome
  after := (op.writes now).map fun w t => some (w.run t)
  payload := op.payload

end OwnerOp

abbrev OwnerDb := NamedDb UserTables User

structure OwnerReport where
  status : AtomicStatus
  before : UserTables
  after : UserTables

structure SerialState where
  db : OwnerDb
  reports : List OwnerReport

def serialStep (s : SerialState) (a : OwnerOp × ReceiptCtx) : Option SerialState :=
  (wrapStatusOp (a.1.plan a.2.now) a.2 s.db).map fun (db, result) => ⟨db, ⟨result.status, s.db.tables, db.tables⟩ :: s.reports⟩

def OwnerKept (t : UserTables) : Prop :=
  ∃ u ∈ t.users.rows, u.isActiveOwner = true

open Bookclerk.System

variable {op : OwnerOp} {now : Stamp} {t : UserTables} {userId : Int}

lemma exists_other_owner (h : OwnerKept t) (hlast : lastOwner userId t = false) :
    ∃ u ∈ t.users.rows, u.isActiveOwner = true ∧ u.id ≠ userId := by
  by_contra hnone
  have hall : ∀ u ∈ t.users.rows, u.isActiveOwner = true → u.id = userId := by
    intro u hu howner
    by_contra hne
    exact hnone ⟨u, hu, howner, hne⟩
  obtain ⟨u, hu, howner⟩ := h
  have hfind : t.users.find userId = some u := Table.find_eq_some.mpr ⟨hu, hall u hu howner⟩
  have hcount : t.users.rows.countP User.isActiveOwner ≤ 1 :=
    (countP_mono_left fun u hu howner => by simpa using hall u hu howner).trans (t.users.countP_key_le_one userId)
  simp [lastOwner, hfind, howner, hcount] at hlast

lemma ownerKept_setUser {f : User → User} (hf : ∀ u, (f u).id = u.id) (h : OwnerKept t)
    (hsafe : lastOwner userId t = false ∨ ∀ u, u.isActiveOwner = true → (f u).isActiveOwner = true) : OwnerKept (setUser userId f hf t) := by
  rcases hsafe with hlast | hkeep
  · obtain ⟨u, hu, howner, hne⟩ := exists_other_owner h hlast
    refine ⟨u, ?_, howner⟩
    exact mem_map.mpr ⟨u, hu, if_neg hne⟩
  · obtain ⟨u, hu, howner⟩ := h
    refine ⟨if u.id = userId then f u else u, mem_map.mpr ⟨u, hu, rfl⟩, ?_⟩
    split_ifs
    · exact hkeep u howner
    · exact howner

lemma ownerKept_effect {w : Write} (hw : w ∈ op.writes now) (hguard : w.guard t = true) (h : OwnerKept t) : OwnerKept (w.effect t) := by
  cases op with
  | deleteUser userId =>
    simp only [OwnerOp.writes, deleteUserWrites, mem_cons, not_mem_nil, or_false] at hw
    rcases hw with rfl | rfl | rfl | rfl | rfl | rfl | rfl | rfl | rfl | rfl | rfl | rfl | rfl | rfl | rfl | rfl | rfl
    on_goal 17 =>
      obtain ⟨u, hu, howner, hne⟩ := exists_other_owner h (by simpa using hguard)
      exact ⟨u, mem_filter.mpr ⟨hu, by simpa using hne⟩, howner⟩
    all_goals exact h
  | setUserStatus userId status =>
    simp only [OwnerOp.writes, setUserStatusWrites, mem_cons, not_mem_nil, or_false] at hw
    rcases hw with rfl | rfl
    · refine ownerKept_setUser (f := fun u => { u with status, updatedAt := now }) (fun _ => rfl) h ?_
      cases status with
      | active =>
        refine .inr fun u howner => ?_
        simp only [User.isActiveOwner, Bool.and_eq_true, decide_eq_true_eq] at howner ⊢
        exact ⟨howner.1, trivial⟩
      | disabled => exact .inl (by simpa using hguard)
    · exact h
  | setUserRole userId role =>
    simp only [OwnerOp.writes, setUserRoleWrites, mem_cons, not_mem_nil, or_false] at hw
    rcases hw with rfl | rfl
    · exact h
    · refine ownerKept_setUser (f := fun u => { u with role, updatedAt := now }) (fun _ => rfl) h ?_
      by_cases hrole : role = .owner
      · refine .inr fun u howner => ?_
        simp only [User.isActiveOwner, Bool.and_eq_true, decide_eq_true_eq] at howner ⊢
        exact ⟨hrole, howner.2⟩
      · exact .inl (by simpa [hrole] using hguard)

def OwnerOp.gated (op : OwnerOp) (t : UserTables) (w : Write) : UserTables :=
  if op.outcome t = .ok then w.run t else t

lemma OwnerOp.foldlM_after (op : OwnerOp) (now : Stamp) (t : UserTables) :
    (op.plan now).after.foldlM (fun t write => gateWriteWhenOutcomeOk true (op.plan now).outcome write t) t =
      some ((op.writes now).foldl op.gated t) := by
  rw [OwnerOp.plan, foldlM_map]
  generalize op.writes now = ws
  induction ws generalizing t with
  | nil => rfl
  | cons w ws ih =>
    have hone : gateWriteWhenOutcomeOk true op.outcome (fun t => some (w.run t)) t = some (op.gated t w) := by
      rw [gateWriteWhenOutcomeOk, OwnerOp.gated]
      by_cases hok : op.outcome t = .ok <;> simp [hok]
    rw [foldlM_cons, hone]
    exact ih (op.gated t w)

lemma ownerKept_gated {ws : List Write} (hws : ∀ w ∈ ws, w ∈ op.writes now) (h : OwnerKept t) : OwnerKept (ws.foldl op.gated t) := by
  induction ws generalizing t with
  | nil => exact h
  | cons w ws ih =>
    refine ih (fun x hx => hws x (mem_cons_of_mem w hx)) ?_
    rw [OwnerOp.gated, Write.run]
    split_ifs with hok hguard
    · exact ownerKept_effect (hws w mem_cons_self) hguard h
    · exact h
    · exact h

lemma gated_of_not_ok {ws : List Write} (h : op.outcome t ≠ .ok) : ws.foldl op.gated t = t := by
  induction ws with
  | nil => rfl
  | cons w ws ih => rwa [foldl_cons, OwnerOp.gated, if_neg h]

structure LastOwnerSafe (t : UserTables) (reports : List OwnerReport) : Prop where
  kept : OwnerKept t
  refused : ∀ r ∈ reports, r.status = .lastOwner → r.after = r.before

lemma LastOwnerSafe.serial {s s' : SerialState} {a : OwnerOp × ReceiptCtx} (h : LastOwnerSafe s.db.tables s.reports)
    (hs : serialStep s a = some s') : LastOwnerSafe s'.db.tables s'.reports := by
  obtain ⟨⟨db, result⟩, hop, heq⟩ := Option.map_eq_some_iff.mp hs
  cases heq
  suffices hdb : OwnerKept db.tables ∧ (result.status = .lastOwner → db.tables = s.db.tables) by
    refine ⟨hdb.1, fun r hr hlast => ?_⟩
    rcases mem_cons.mp hr with rfl | hr
    · exact hdb.2 hlast
    · exact h.refused r hr hlast
  cases hprior : selectReceipt a.2.operationId s.db.receipts with
  | some r =>
    obtain ⟨db₁, hop₁, htables, -⟩ := wrapStatusOp_replayed (a.1.plan a.2.now) hprior
    cases hop₁.symm.trans hop
    rw [htables]
    exact ⟨h.kept, fun _ => rfl⟩
  | none =>
    obtain ⟨db₁, result₁, hop₁, htables, hstatus, -⟩ := wrapStatusOp_ran (a.1.plan a.2.now) hprior rfl (a.1.foldlM_after a.2.now s.db.tables)
    cases hop₁.symm.trans hop
    rw [htables]
    refine ⟨ownerKept_gated (fun w hw => hw) h.kept, fun hlast => gated_of_not_ok ?_⟩
    rw [show a.1.outcome s.db.tables = .lastOwner from hstatus.symm.trans hlast]
    simp

end Bookclerk.Owners
