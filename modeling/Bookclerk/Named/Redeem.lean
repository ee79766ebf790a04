import Bookclerk.Named.Receipts
import Bookclerk.System.Run

namespace Bookclerk.Named

open Lexical Jobs Db Option

structure ClaimTicket where
  tokenHash : Text
  identityId : Option Int
  expiresAt : Stamp
  redeemedAt : Option Stamp
  deriving DecidableEq

structure PortalIdentity where
  id : Int
  provider : Text
  externalUserId : Text
  label : Option Text
  userId : Option Int
  createdAt : Stamp
  pictureUrl : Option Text
  deriving DecidableEq

structure UserPassword where
  id : Int
  passwordHash : Option Text
  securityVersion : Int
  updatedAt : Stamp
  deriving DecidableEq

structure OperatorSession where
  tokenHash : Text
  elevatedFromUserId : Option Int
  deriving DecidableEq

structure PortalSession where
  tokenHash : Text
  identityId : Int
  expiresAt : Stamp
  createdAt : Stamp
  lastUsedAt : Stamp
  userAgent : Option Text
  deviceType : Option Text
  clientLabel : Option Text
  deriving DecidableEq

structure RedeemTables where
  claimTickets : Table ClaimTicket.tokenHash
  portalIdentities : Table PortalIdentity.id
  users : Table UserPassword.id
  operatorSessions : List OperatorSession
  portalSessions : Table PortalSession.tokenHash

structure RedeemClaimTicket where
  tokenHash : Text
  sessionHash : Text
  expiresAt : Stamp
  userAgent : Option Text := none
  deviceType : Option Text := none
  clientLabel : Option Text := none
  newPasswordHash : Option Text := none
  passwordFingerprint : Option Text := none

namespace RedeemTables

variable (db : RedeemTables)

def identityOf (t : ClaimTicket) : Option PortalIdentity :=
  t.identityId.bind db.portalIdentities.find

def localUserOf (t : ClaimTicket) : Option UserPassword :=
  ((db.identityOf t).filter fun i => i.provider = utf8 "local").bind fun i => i.userId.bind db.users.find

def localUserMissing (t : ClaimTicket) : Bool :=
  (db.identityOf t).any fun i => i.provider = utf8 "local" && i.userId.any fun id => (db.users.find id).isNone

def sessionHashes : List Text :=
  db.portalSessions.rows.map PortalSession.tokenHash

end RedeemTables

section Plan

variable (p : RedeemClaimTicket) (now : Stamp) (db : RedeemTables)

def redeemable (t : ClaimTicket) : Bool :=
  t.redeemedAt.isNone && decide (now < t.expiresAt) && t.identityId.isSome && (db.identityOf t).isSome && !db.localUserMissing t &&
    !((db.localUserOf t).any (·.passwordHash.isNone) && p.newPasswordHash.isNone)

def redeemRow (t : ClaimTicket) : ClaimTicket :=
  if t.tokenHash = p.tokenHash ∧ redeemable p now db t = true then { t with redeemedAt := some now } else t

lemma tokenHash_redeemRow (t : ClaimTicket) : (redeemRow p now db t).tokenHash = t.tokenHash := by
  rw [redeemRow]
  split_ifs <;> rfl

def markRedeemed : RedeemTables :=
  { db with claimTickets := db.claimTickets.modify (redeemRow p now db) (tokenHash_redeemRow p now db) }

def redeemedNow : Option ClaimTicket :=
  (db.claimTickets.find p.tokenHash).filter fun t => t.redeemedAt = some now

/-- `DELETE FROM operator_sessions WHERE elevated_from_user_id IN (…)` -/
def dropElevated : RedeemTables :=
  let users := ((redeemedNow p now db).bind db.localUserOf).filter fun u => u.passwordHash.isNone && p.newPasswordHash.isSome
  { db with operatorSessions := db.operatorSessions.filter fun s => !(users.any fun u => s.elevatedFromUserId = some u.id) }

def passwordRow (u : UserPassword) : UserPassword :=
  if p.newPasswordHash.isSome ∧ u.passwordHash.isNone ∧ ((redeemedNow p now db).bind db.localUserOf).any fun v => v.id = u.id then
    { u with passwordHash := p.newPasswordHash, securityVersion := u.securityVersion + 1, updatedAt := now }
  else u

lemma id_passwordRow (u : UserPassword) : (passwordRow p now db u).id = u.id := by
  rw [passwordRow]
  split_ifs <;> rfl

def setFirstPassword : RedeemTables :=
  { db with users := db.users.modify (passwordRow p now db) (id_passwordRow p now db) }

def newSession (identityId : Int) : PortalSession :=
  ⟨p.sessionHash, identityId, p.expiresAt, now, now, p.userAgent, p.deviceType, p.clientLabel⟩

/-- `INSERT INTO portal_sessions … SELECT`; the hash is unique, and the identity must exist. -/
def insertSession : Option RedeemTables :=
  match (redeemedNow p now db).bind ClaimTicket.identityId with
  | none => some db
  | some identityId =>
    if h : p.sessionHash ∉ db.sessionHashes ∧ (db.portalIdentities.find identityId).isSome then
      some { db with portalSessions := db.portalSessions.insert (newSession p now identityId) h.1 }
    else none

def redeemOutcome : AtomicStatus :=
  if (redeemedNow p now db).isSome ∧ p.sessionHash ∈ db.sessionHashes then .ok
  else if (db.claimTickets.find p.tokenHash).any (fun t => t.redeemedAt.isNone && decide (now < t.expiresAt) &&
      (db.localUserOf t).any (·.passwordHash.isNone) && p.newPasswordHash.isNone) then .passwordRequired
  else .claimInvalid

def planRedeemClaim : StatusPlan RedeemTables PortalIdentity where
  before := [fun db => some (markRedeemed p now db), fun db => some (dropElevated p now db), fun db => some (setFirstPassword p now db),
    insertSession p now]
  outcome := redeemOutcome p now
  after := []
  payload db := (redeemedNow p now db).bind db.identityOf

end Plan

def RedeemClaimTicket.operationId (p : RedeemClaimTicket) : Text :=
  utf8 "redeemClaimTicket:" ++ p.tokenHash ++ utf8 ":" ++ p.sessionHash

structure RedeemKey where
  tokenHash : Text
  sessionHash : Text
  passwordFingerprint : Option Text
  deriving DecidableEq

def RedeemClaimTicket.key (p : RedeemClaimTicket) : RedeemKey :=
  ⟨p.tokenHash, p.sessionHash, p.passwordFingerprint⟩

def redeemCtx (digest : RedeemKey → Text) (p : RedeemClaimTicket) (now : Stamp) : ReceiptCtx :=
  ⟨p.operationId, digest p.key, utf8 "redeemClaimTicket", now⟩

/-- One redemption as it ran; a batch that the engine refuses has no status. -/
structure RedeemEntry where
  params : RedeemClaimTicket
  now : Stamp
  prior : Option (AtomicReceipt PortalIdentity)
  before : RedeemTables
  after : RedeemTables
  status : Option AtomicStatus

structure RedeemState where
  db : NamedDb RedeemTables PortalIdentity
  log : List RedeemEntry

def redeemStep (digest : RedeemKey → Text) (s : RedeemState) (a : RedeemClaimTicket × Stamp) : Option RedeemState :=
  let prior := selectReceipt a.1.operationId s.db.receipts
  match wrapStatusOp (planRedeemClaim a.1 a.2) (redeemCtx digest a.1 a.2) s.db with
  | none => some ⟨s.db, ⟨a.1, a.2, prior, s.db.tables, s.db.tables, none⟩ :: s.log⟩
  | some (db, result) => some ⟨db, ⟨a.1, a.2, prior, s.db.tables, db.tables, some result.status⟩ :: s.log⟩

variable {p : RedeemClaimTicket} {now : Stamp} {db db' : RedeemTables} {t : ClaimTicket}

def redeemWrites (p : RedeemClaimTicket) (now : Stamp) (db : RedeemTables) : Option RedeemTables :=
  insertSession p now (setFirstPassword p now (dropElevated p now (markRedeemed p now db)))

lemma foldlM_planRedeemClaim (p : RedeemClaimTicket) (now : Stamp) (db : RedeemTables) :
    (planRedeemClaim p now).before.foldlM (fun t write => write t) db = redeemWrites p now db := by
  simp [planRedeemClaim, redeemWrites]

lemma redeemedNow_eq_some (ht : db.claimTickets.find p.tokenHash = some t) (hnow : t.redeemedAt = some now) :
    redeemedNow p now db = some t := by
  simp [redeemedNow, ht, hnow]

lemma markRedeemed_eq_self (h : ∀ t, db.claimTickets.find p.tokenHash = some t → redeemable p now db t = false) :
    markRedeemed p now db = db := by
  rw [markRedeemed, Table.modify_eq_self]
  intro r hr
  rw [redeemRow, if_neg]
  rintro ⟨htoken, hredeem⟩
  have := h r (Table.find_eq_some.mpr ⟨hr, htoken⟩)
  simp [hredeem] at this

lemma later_eq_self (h : (redeemedNow p now db).bind ClaimTicket.identityId = none) :
    insertSession p now (setFirstPassword p now (dropElevated p now db)) = some db := by
  have huser : (redeemedNow p now db).bind db.localUserOf = none := by
    cases hnow : redeemedNow p now db with
    | none => rfl
    | some t =>
      have hid : t.identityId = none := by simpa [hnow] using h
      simp [RedeemTables.localUserOf, RedeemTables.identityOf, hid]
  have hdrop : dropElevated p now db = db := by
    simp [dropElevated, huser]
  have hset : setFirstPassword p now db = db := by
    rw [setFirstPassword, Table.modify_eq_self]
    intro u _
    rw [passwordRow]
    simp [huser]
  rw [hdrop, hset, insertSession, h]

lemma later_of_identity {identityId : Int} (h : (redeemedNow p now db).bind ClaimTicket.identityId = some identityId) :
    (insertSession p now (setFirstPassword p now (dropElevated p now db)) = none ∧
        (p.sessionHash ∈ db.sessionHashes ∨ db.portalIdentities.find identityId = none)) ∨
      ∃ db', insertSession p now (setFirstPassword p now (dropElevated p now db)) = some db' ∧ p.sessionHash ∉ db.sessionHashes ∧
        db'.claimTickets = db.claimTickets ∧ db'.sessionHashes = p.sessionHash :: db.sessionHashes := by
  have hnow : (redeemedNow p now (setFirstPassword p now (dropElevated p now db))).bind ClaimTicket.identityId = some identityId := h
  rw [insertSession, hnow]
  by_cases hfree : p.sessionHash ∉ db.sessionHashes ∧ (db.portalIdentities.find identityId).isSome = true
  · exact .inr ⟨_, dif_pos hfree, hfree.1, rfl, rfl⟩
  · refine .inl ⟨dif_neg hfree, ?_⟩
    rw [not_and_or, not_not, Bool.not_eq_true, isSome_eq_false_iff, isNone_iff_eq_none] at hfree
    exact hfree

lemma redeemable_spec (h : redeemable p now db t = true) :
    t.redeemedAt = none ∧ ∃ identityId, t.identityId = some identityId ∧ (db.portalIdentities.find identityId).isSome = true := by
  simp only [redeemable, Bool.and_eq_true, isNone_iff_eq_none] at h
  obtain ⟨⟨⟨⟨⟨hnone, -⟩, hid⟩, hident⟩, -⟩, -⟩ := h
  obtain ⟨identityId, hid⟩ := isSome_iff_exists.mp hid
  exact ⟨hnone, identityId, hid, by simpa [RedeemTables.identityOf, hid] using hident⟩

def Collides (p : RedeemClaimTicket) (now : Stamp) (db : RedeemTables) : Prop :=
  ∃ t, db.claimTickets.find p.tokenHash = some t ∧
    ((redeemable p now db t = true ∧ p.sessionHash ∈ db.sessionHashes) ∨
      (t.redeemedAt = some now ∧ (t.identityId.isSome = true ∨ p.sessionHash ∈ db.sessionHashes)))

structure Minted (p : RedeemClaimTicket) (now : Stamp) (db db' : RedeemTables) : Prop where
  newHash : p.sessionHash ∉ db.sessionHashes
  sessions : db'.sessionHashes = p.sessionHash :: db.sessionHashes
  tickets : ∀ token, db'.claimTickets.find token =
    if token = p.tokenHash then (db.claimTickets.find token).map fun t => { t with redeemedAt := some now } else db.claimTickets.find token
  outcome : redeemOutcome p now db' = .ok

lemma redeemOutcome_of_minted (ht : db'.claimTickets.find p.tokenHash = some t) (hnow : t.redeemedAt = some now)
    (hsession : p.sessionHash ∈ db'.sessionHashes) : redeemOutcome p now db' = .ok := by
  rw [redeemOutcome, if_pos]
  exact ⟨by rw [redeemedNow_eq_some ht hnow]; rfl, hsession⟩

inductive RedeemWrite (p : RedeemClaimTicket) (now : Stamp) (db : RedeemTables) : Prop
  | minted (t : ClaimTicket) (db' : RedeemTables) (hfree : ¬ Collides p now db) (ht : db.claimTickets.find p.tokenHash = some t)
      (hopen : t.redeemedAt = none) (hdb : redeemWrites p now db = some db') (h : Minted p now db db')
  | invalid (hfree : ¬ Collides p now db) (hdb : redeemWrites p now db = some db) (hstatus : redeemOutcome p now db = .claimInvalid)
  | passwordRequired (t : ClaimTicket) (hfree : ¬ Collides p now db) (hdb : redeemWrites p now db = some db)
      (hstatus : redeemOutcome p now db = .passwordRequired) (ht : db.claimTickets.find p.tokenHash = some t) (hopen : t.redeemedAt = none)
  | failed (hcollides : Collides p now db) (hdb : redeemWrites p now db = none)
  | mintedAgain (t : ClaimTicket) (db' : RedeemTables) (hcollides : Collides p now db)
      (ht : db.claimTickets.find p.tokenHash = some t) (hnow : t.redeemedAt = some now) (hdb : redeemWrites p now db = some db')
      (hnew : p.sessionHash ∉ db.sessionHashes) (htickets : db'.claimTickets = db.claimTickets)
      (hsessions : db'.sessionHashes = p.sessionHash :: db.sessionHashes)
  | okWithoutSession (hcollides : Collides p now db) (hdb : redeemWrites p now db = some db) (hstatus : redeemOutcome p now db = .ok)

section Open

variable (ht : db.claimTickets.find p.tokenHash = some t) (hredeem : redeemable p now db t = true)
include ht hredeem

lemma find_markRedeemed_eq (token : Text) :
    (markRedeemed p now db).claimTickets.find token =
      if token = p.tokenHash then (db.claimTickets.find token).map (fun t => { t with redeemedAt := some now })
      else db.claimTickets.find token := by
  rw [markRedeemed, Table.find_modify]
  split_ifs with htoken
  · subst htoken
    rw [ht, map_some, map_some, redeemRow, if_pos ⟨(Table.find_eq_some.mp ht).2, hredeem⟩]
  · cases hfind : db.claimTickets.find token with
    | none => rfl
    | some t' =>
      rw [map_some, redeemRow, if_neg]
      rintro ⟨htoken', -⟩
      exact htoken ((Table.find_eq_some.mp hfind).2.symm.trans htoken')

lemma find_markRedeemed_open : (markRedeemed p now db).claimTickets.find p.tokenHash = some { t with redeemedAt := some now } := by
  rw [find_markRedeemed_eq ht hredeem, if_pos rfl, ht, map_some]

lemma due_markRedeemed : (redeemedNow p now (markRedeemed p now db)).bind ClaimTicket.identityId = t.identityId := by
  rw [redeemedNow_eq_some (find_markRedeemed_open ht hredeem) rfl]
  rfl

lemma write_of_open (hfree : ¬ Collides p now db) : RedeemWrite p now db := by
  obtain ⟨hnone, identityId, hid, hident⟩ := redeemable_spec hredeem
  rcases later_of_identity ((due_markRedeemed ht hredeem).trans hid) with ⟨-, hbad | hbad⟩ | ⟨db', hdb', hfresh, htickets, hsessions⟩
  · exact absurd ⟨t, ht, .inl ⟨hredeem, hbad⟩⟩ hfree
  · have hmissing : db.portalIdentities.find identityId = none := hbad
    simp [hmissing] at hident
  · have hmark : db'.claimTickets.find p.tokenHash = some { t with redeemedAt := some now } := by
      rw [htickets, find_markRedeemed_open ht hredeem]
    exact .minted t db' hfree ht hnone hdb' ⟨hfresh, hsessions, htickets ▸ find_markRedeemed_eq ht hredeem,
      redeemOutcome_of_minted hmark rfl (by rw [hsessions]; exact List.mem_cons_self)⟩

end Open

lemma write_of_closed (hclosed : ∀ t, db.claimTickets.find p.tokenHash = some t → redeemable p now db t = false)
    (hfree : ¬ Collides p now db) : RedeemWrite p now db := by
  have hdue : (redeemedNow p now db).bind ClaimTicket.identityId = none := by
    cases hfind : db.claimTickets.find p.tokenHash with
    | none => simp [redeemedNow, hfind]
    | some t =>
      by_cases hnow : t.redeemedAt = some now
      · have hid : t.identityId = none := by
          by_contra hid
          exact hfree ⟨t, hfind, .inr ⟨hnow, .inl (isSome_iff_ne_none.mpr hid)⟩⟩
        simp [redeemedNow, hfind, hid]
      · simp [redeemedNow, hfind, hnow]
  have hdb : redeemWrites p now db = some db := by rw [redeemWrites, markRedeemed_eq_self hclosed, later_eq_self hdue]
  have hunminted : ¬ ((redeemedNow p now db).isSome = true ∧ p.sessionHash ∈ db.sessionHashes) := by
    rintro ⟨hnow, hsession⟩
    cases hfind : db.claimTickets.find p.tokenHash with
    | none => simp [redeemedNow, hfind] at hnow
    | some t =>
      have hnow : t.redeemedAt = some now := by
        by_contra hne
        simp [redeemedNow, hfind, hne] at hnow
      exact hfree ⟨t, hfind, .inr ⟨hnow, .inr hsession⟩⟩
  have hstatus := Eq.refl (redeemOutcome p now db)
  conv_rhs at hstatus => rw [redeemOutcome]
  split_ifs at hstatus with hpassword
  · cases hfind : db.claimTickets.find p.tokenHash with
    | none => simp [hfind] at hpassword
    | some t =>
      simp only [hfind, any_some, Bool.and_eq_true, isNone_iff_eq_none] at hpassword
      exact .passwordRequired t hfree hdb hstatus hfind hpassword.1.1.1
  · exact .invalid hfree hdb hstatus

lemma write_of_collides (h : Collides p now db) : RedeemWrite p now db := by
  obtain ⟨t, ht, ⟨hredeem, hsession⟩ | ⟨hnow, hcase⟩⟩ := id h
  · obtain ⟨-, identityId, hid, -⟩ := redeemable_spec hredeem
    rcases later_of_identity ((due_markRedeemed ht hredeem).trans hid) with ⟨hnone, -⟩ | ⟨db', -, hnew, -⟩
    · exact .failed h hnone
    · exact absurd hsession hnew
  · have hclosed : ∀ t', db.claimTickets.find p.tokenHash = some t' → redeemable p now db t' = false := by
      intro t' ht'
      obtain rfl := mem_unique ht ht'
      simp [redeemable, hnow]
    have hredeemed := redeemedNow_eq_some ht hnow
    have hlater : redeemWrites p now db = insertSession p now (setFirstPassword p now (dropElevated p now db)) := by
      rw [redeemWrites, markRedeemed_eq_self hclosed]
    cases hid : t.identityId with
    | none =>
      have hsession : p.sessionHash ∈ db.sessionHashes := by simpa [hid] using hcase
      exact .okWithoutSession h (hlater.trans (later_eq_self (by simp [hredeemed, hid]))) (redeemOutcome_of_minted ht hnow hsession)
    | some identityId =>
      rcases later_of_identity (by simp [hredeemed, hid] : (redeemedNow p now db).bind ClaimTicket.identityId = some identityId)
        with ⟨hnone, -⟩ | ⟨db', hdb', hnew, htickets, hsessions⟩
      · exact .failed h (hlater.trans hnone)
      · exact .mintedAgain t db' h ht hnow (hlater.trans hdb') hnew htickets hsessions

lemma redeemWrite (p : RedeemClaimTicket) (now : Stamp) (db : RedeemTables) : RedeemWrite p now db := by
  by_cases hcollides : Collides p now db
  · exact write_of_collides hcollides
  · by_cases hopen : ∃ t, db.claimTickets.find p.tokenHash = some t ∧ redeemable p now db t = true
    · obtain ⟨t, ht, hredeem⟩ := hopen
      exact write_of_open ht hredeem hcollides
    · refine write_of_closed (fun t ht => ?_) hcollides
      by_contra hredeem
      exact hopen ⟨t, ht, by simpa using hredeem⟩

end Bookclerk.Named
