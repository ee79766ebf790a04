import Bookclerk.Named.Redeem

namespace Bookclerk.Named

open Lexical Jobs Db Bookclerk.System List Option

variable {digest : RedeemKey → Text} {start : RedeemTables} {s s' : RedeemState} {a : RedeemClaimTicket × Stamp}

def RedeemEntry.mints (e : RedeemEntry) (hash : Text) : Prop :=
  hash ∈ e.after.sessionHashes ∧ hash ∉ e.before.sessionHashes

def isRedeemStatus (status : AtomicStatus) : Prop :=
  status = .ok ∨ status = .claimInvalid ∨ status = .passwordRequired

def RedeemEntry.Reports (e : RedeemEntry) : Prop :=
  match e.prior with
  | none => (e.status = some .ok ∧ e.mints e.params.sessionHash) ∨ e.status = some .claimInvalid ∨ e.status = some .passwordRequired
  | some _ => ∃ status, e.status = some status ∧ isRedeemStatus status

structure MintsOnce (start : RedeemTables) (log : List RedeemEntry) : Prop where
  once : ∀ e ∈ log, ∀ e' ∈ log, ∀ hash hash', e.params.tokenHash = e'.params.tokenHash → e.mints hash → e'.mints hash' → hash = hash'
  spent : ∀ e ∈ log, ∀ t hash, start.claimTickets.find e.params.tokenHash = some t → t.redeemedAt ≠ none → ¬ e.mints hash
  reports : ∀ e ∈ log, e.Reports
  passwordRequired : ∀ e ∈ log, e.status = some .passwordRequired → (∀ hash, ¬ e.mints hash) ∧
    e.after.claimTickets = e.before.claimTickets ∧
    (e.prior = none → ∃ t, e.after.claimTickets.find e.params.tokenHash = some t ∧ t.redeemedAt = none)

def RedeemsApart (digest : RedeemKey → Text) (s : RedeemState) (a : RedeemClaimTicket × Stamp) : Prop :=
  match selectReceipt a.1.operationId s.db.receipts with
  | none => ¬ Collides a.1 a.2 s.db.tables
  | some r => r.requestHash = digest a.1.key ∧ isRedeemStatus r.status

lemma redeemStep_cases (h : redeemStep digest s a = some s') :
    ∃ e, s'.log = e :: s.log ∧ e.params = a.1 ∧ e.before = s.db.tables ∧ e.after = s'.db.tables ∧
      e.prior = selectReceipt a.1.operationId s.db.receipts ∧
      ((∃ r, e.prior = some r ∧ s'.db.tables = s.db.tables ∧
          e.status = some (if r.requestHash = digest a.1.key then r.status else .idempotencyConflict)) ∨
        (e.prior = none ∧ redeemWrites a.1 a.2 s.db.tables = none ∧ s'.db.tables = s.db.tables ∧ e.status = none) ∨
        (e.prior = none ∧ redeemWrites a.1 a.2 s.db.tables = some s'.db.tables ∧
          e.status = some (redeemOutcome a.1 a.2 s'.db.tables))) := by
  have hctx : (redeemCtx digest a.1 a.2).operationId = a.1.operationId := rfl
  rw [redeemStep] at h
  cases hprior : selectReceipt a.1.operationId s.db.receipts with
  | some r =>
    obtain ⟨db', hwrap, htables, -⟩ := wrapStatusOp_replayed (planRedeemClaim a.1 a.2) (hctx ▸ hprior)
    simp only [hprior, hwrap, some.injEq] at h
    subst h
    refine ⟨_, rfl, rfl, rfl, rfl, rfl, .inl ⟨r, rfl, htables, ?_⟩⟩
    rw [status_interpretReceipt]
    rfl
  | none =>
    rcases wrapStatusOp_fresh (planRedeemClaim a.1 a.2) (hctx ▸ hprior) rfl with
      ⟨hwrites, hwrap⟩ | ⟨tables, db', result, hwrites, hwrap, rfl, hstatus, -⟩
    · rw [foldlM_planRedeemClaim] at hwrites
      simp only [hprior, hwrap, some.injEq] at h
      subst h
      exact ⟨_, rfl, rfl, rfl, rfl, rfl, .inr (.inl ⟨rfl, hwrites, rfl, rfl⟩)⟩
    · rw [foldlM_planRedeemClaim] at hwrites
      simp only [hprior, hwrap, some.injEq] at h
      subst h
      refine ⟨_, rfl, rfl, rfl, rfl, rfl, .inr (.inr ⟨rfl, hwrites, ?_⟩)⟩
      rw [hstatus]
      rfl

structure Traced (start : RedeemTables) (s : RedeemState) : Prop where
  stored : ∀ e ∈ s.log, ∀ hash, e.mints hash → hash ∈ s.db.tables.sessionHashes
  origin : ∀ token t, s.db.tables.claimTickets.find token = some t → t.redeemedAt ≠ none →
    (∃ t₀, start.claimTickets.find token = some t₀ ∧ t₀.redeemedAt ≠ none) ∨
      ∃ e ∈ s.log, e.params.tokenHash = token ∧ ∃ hash, e.mints hash

structure Grows (p : RedeemClaimTicket) (db db' : RedeemTables) : Prop where
  sessions : ∀ hash ∈ db.sessionHashes, hash ∈ db'.sessionHashes
  tickets : ∀ token t', db'.claimTickets.find token = some t' → t'.redeemedAt ≠ none →
    (∃ t, db.claimTickets.find token = some t ∧ t.redeemedAt ≠ none) ∨
      (token = p.tokenHash ∧ p.sessionHash ∈ db'.sessionHashes ∧ p.sessionHash ∉ db.sessionHashes)

lemma Grows.of_eq {p : RedeemClaimTicket} {db db' : RedeemTables} (h : db' = db) : Grows p db db' := by
  subst h
  exact ⟨fun hash hmem => hmem, fun token t' ht' hne => .inl ⟨t', ht', hne⟩⟩

lemma grows_redeemWrites {p : RedeemClaimTicket} {now : Stamp} {db db' : RedeemTables} (h : redeemWrites p now db = some db') :
    Grows p db db' := by
  cases redeemWrite p now db with
  | minted t db₁ hfree ht hopen hdb hminted =>
    obtain rfl := mem_unique hdb h
    refine ⟨fun hash hmem => by rw [hminted.sessions]; exact mem_cons_of_mem _ hmem, fun token t' ht' hne => ?_⟩
    rw [hminted.tickets] at ht'
    by_cases htoken : token = p.tokenHash
    · exact .inr ⟨htoken, by rw [hminted.sessions]; exact mem_cons_self, hminted.newHash⟩
    · rw [if_neg htoken] at ht'
      exact .inl ⟨t', ht', hne⟩
  | failed hcollides hdb => exact absurd (hdb.symm.trans h) (by simp)
  | mintedAgain t db₁ hcollides ht hnow hdb hnew htickets hsessions =>
    obtain rfl := mem_unique hdb h
    refine ⟨fun hash hmem => by rw [hsessions]; exact mem_cons_of_mem _ hmem, fun token t' ht' hne => ?_⟩
    rw [htickets] at ht'
    exact .inl ⟨t', ht', hne⟩
  | invalid hfree hdb => exact .of_eq (mem_unique h hdb)
  | passwordRequired t hfree hdb | okWithoutSession hcollides hdb => exact .of_eq (mem_unique h hdb)

variable {e : RedeemEntry}

lemma RedeemEntry.not_mints_of_eq (h : e.after = e.before) (hash : Text) : ¬ e.mints hash := by
  rintro ⟨hafter, hbefore⟩
  exact hbefore (h ▸ hafter)

lemma Traced.step (h : Traced start s) (hs : redeemStep digest s a = some s') : Traced start s' := by
  obtain ⟨e, hlog, hparams, hbefore, hafter, -, hcase⟩ := redeemStep_cases hs
  have hgrow : Grows e.params s.db.tables s'.db.tables := by
    rcases hcase with ⟨r, -, heq, -⟩ | ⟨-, -, heq, -⟩ | ⟨-, hwrites, -⟩
    · exact .of_eq heq
    · exact .of_eq heq
    · exact hparams ▸ grows_redeemWrites hwrites
  refine ⟨fun e' he' hash hmint => ?_, fun token t' ht' hne => ?_⟩
  · rw [hlog] at he'
    rcases mem_cons.mp he' with rfl | he'
    · exact hafter ▸ hmint.1
    · exact hgrow.sessions hash (h.stored e' he' hash hmint)
  · rcases hgrow.tickets token t' ht' hne with ⟨t, ht, hne⟩ | ⟨rfl, hmint⟩
    · rcases h.origin token t ht hne with hstart | ⟨e', he', htoken, hmint⟩
      · exact .inl hstart
      · exact .inr ⟨e', hlog ▸ mem_cons_of_mem e he', htoken, hmint⟩
    · exact .inr ⟨e, hlog ▸ mem_cons_self, rfl, e.params.sessionHash, by rwa [RedeemEntry.mints, hbefore, hafter]⟩

lemma MintsOnce.of_cons {log : List RedeemEntry} (h : MintsOnce start (e :: log)) : MintsOnce start log where
  once e₁ h₁ e₂ h₂ := h.once e₁ (mem_cons_of_mem e h₁) e₂ (mem_cons_of_mem e h₂)
  spent := (forall_mem_cons.mp h.spent).2
  reports := (forall_mem_cons.mp h.reports).2
  passwordRequired := (forall_mem_cons.mp h.passwordRequired).2

lemma not_mintsOnce_of_collision (h : Traced start s) (hapart : ¬ RedeemsApart digest s a) (hs : redeemStep digest s a = some s') :
    ¬ MintsOnce start s'.log := by
  intro honce
  obtain ⟨e, hlog, hparams, hbefore, hafter, hprior, hcase⟩ := redeemStep_cases hs
  have hreports := honce.reports e (hlog ▸ mem_cons_self)
  rw [RedeemEntry.Reports] at hreports
  rw [RedeemsApart, ← hprior] at hapart
  rcases hcase with ⟨r, hr, -, hstatus⟩ | ⟨hnone, -, -, hstatus⟩ | ⟨hnone, hwrites, hstatus⟩
  · rw [hr] at hreports hapart
    obtain ⟨status, hstatus', hvalid⟩ := hreports
    obtain rfl := mem_unique hstatus hstatus'
    by_cases hhash : r.requestHash = digest a.1.key
    · rw [if_pos hhash] at hvalid
      exact hapart ⟨hhash, hvalid⟩
    · rw [if_neg hhash] at hvalid
      simp [isRedeemStatus] at hvalid
  · rw [hnone] at hreports
    simp [hstatus] at hreports
  · rw [hnone] at hreports hapart
    have hcollides : Collides a.1 a.2 s.db.tables := not_not.mp hapart
    cases redeemWrite a.1 a.2 s.db.tables with
    | minted t db' hfree | invalid hfree | passwordRequired t hfree => exact hfree hcollides
    | failed _ hdb => exact absurd (hdb.symm.trans hwrites) (by simp)
    | mintedAgain t db' _ ht hnow hdb hnew _ hsessions =>
      obtain rfl := mem_unique hdb hwrites
      have hmint : e.mints a.1.sessionHash := by
        rw [RedeemEntry.mints, hafter, hbefore, hsessions]
        exact ⟨mem_cons_self, hnew⟩
      rcases h.origin _ t ht (by simp [hnow]) with ⟨t₀, ht₀, hne⟩ | ⟨e', he', htoken, hash, hmint'⟩
      · exact honce.spent e (hlog ▸ mem_cons_self) t₀ _ (hparams ▸ ht₀) hne hmint
      · have hsame := honce.once e (hlog ▸ mem_cons_self) e' (hlog ▸ mem_cons_of_mem e he') _ _
          (by rw [hparams, htoken]) hmint hmint'
        exact hnew (hsame ▸ h.stored e' he' hash hmint')
    | okWithoutSession _ hdb hok =>
      have htables : s.db.tables = s'.db.tables := mem_unique hdb hwrites
      have hno : ¬ e.mints e.params.sessionHash := RedeemEntry.not_mints_of_eq (by rw [hafter, hbefore, htables]) _
      rw [← htables, hok] at hstatus
      simp [hstatus, hno] at hreports

def Redeemed (db : RedeemTables) (token : Text) : Prop :=
  ∃ t, db.claimTickets.find token = some t ∧ t.redeemedAt ≠ none

lemma MintsOnce.cons {log : List RedeemEntry} (h : MintsOnce start log)
    (hown : ∀ hash, e.mints hash → hash = e.params.sessionHash)
    (hfirst : ∀ hash, e.mints hash → ¬ Redeemed start e.params.tokenHash ∧
      ∀ e' ∈ log, e'.params.tokenHash = e.params.tokenHash → ∀ hash', ¬ e'.mints hash')
    (hreports : e.Reports)
    (hpassword : e.status = some .passwordRequired → (∀ hash, ¬ e.mints hash) ∧ e.after.claimTickets = e.before.claimTickets ∧
      (e.prior = none → ∃ t, e.after.claimTickets.find e.params.tokenHash = some t ∧ t.redeemedAt = none)) :
    MintsOnce start (e :: log) where
  once e₁ h₁ e₂ h₂ hash₁ hash₂ htoken hmint₁ hmint₂ := by
    rcases mem_cons.mp h₁ with heq₁ | hlog₁ <;> rcases mem_cons.mp h₂ with heq₂ | hlog₂
    · subst heq₁ heq₂
      rw [hown hash₁ hmint₁, hown hash₂ hmint₂]
    · subst heq₁
      exact absurd hmint₂ ((hfirst hash₁ hmint₁).2 e₂ hlog₂ htoken.symm hash₂)
    · subst heq₂
      exact absurd hmint₁ ((hfirst hash₂ hmint₂).2 e₁ hlog₁ htoken hash₁)
    · exact h.once e₁ hlog₁ e₂ hlog₂ hash₁ hash₂ htoken hmint₁ hmint₂
  spent := forall_mem_cons.mpr ⟨fun t hash ht hne hmint => (hfirst hash hmint).1 ⟨t, ht, hne⟩, h.spent⟩
  reports := forall_mem_cons.mpr ⟨hreports, h.reports⟩
  passwordRequired := forall_mem_cons.mpr ⟨hpassword, h.passwordRequired⟩

structure Minting (start : RedeemTables) (s : RedeemState) : Prop where
  mintsOnce : MintsOnce start s.log
  marked : ∀ e ∈ s.log, ∀ hash, e.mints hash → Redeemed s.db.tables e.params.tokenHash
  kept : ∀ token, Redeemed start token → Redeemed s.db.tables token

lemma Minting.of_eq (h : Minting start s) (hlog : s'.log = e :: s.log) (hbefore : e.before = s.db.tables)
    (hafter : e.after = s'.db.tables) (heq : s'.db.tables = s.db.tables) (hreports : e.Reports)
    (hopen : e.status = some .passwordRequired → e.prior = none →
      ∃ t, s.db.tables.claimTickets.find e.params.tokenHash = some t ∧ t.redeemedAt = none) : Minting start s' := by
  have hsame : e.after = e.before := by rw [hafter, hbefore, heq]
  have hno := RedeemEntry.not_mints_of_eq hsame
  refine ⟨?_, fun e' he' hash hmint => ?_, fun token ht => heq ▸ h.kept token ht⟩
  · rw [hlog]
    refine h.mintsOnce.cons (fun hash hmint => absurd hmint (hno hash)) (fun hash hmint => absurd hmint (hno hash)) hreports fun hstatus => ?_
    exact ⟨hno, by rw [hsame], fun hprior => by rw [hafter, heq]; exact hopen hstatus hprior⟩
  · rw [hlog] at he'
    rcases mem_cons.mp he' with rfl | he'
    · exact absurd hmint (hno hash)
    · exact heq ▸ h.marked e' he' hash hmint

lemma Minting.step (h : Minting start s) (hapart : RedeemsApart digest s a) (hs : redeemStep digest s a = some s') : Minting start s' := by
  obtain ⟨e, hlog, hparams, hbefore, hafter, hprior, hcase⟩ := redeemStep_cases hs
  rw [RedeemsApart, ← hprior] at hapart
  rcases hcase with ⟨r, hr, heq, hstatus⟩ | ⟨hnone, hwrites, heq, hstatus⟩ | ⟨hnone, hwrites, hstatus⟩
  · rw [hr] at hapart
    rw [if_pos hapart.1] at hstatus
    refine h.of_eq hlog hbefore hafter heq ?_ fun _ hprior => absurd (hr.symm.trans hprior) (by simp)
    rw [RedeemEntry.Reports, hr]
    exact ⟨r.status, hstatus, hapart.2⟩
  · rw [hnone] at hapart
    cases redeemWrite a.1 a.2 s.db.tables with
    | failed hcollides | mintedAgain t db' hcollides | okWithoutSession hcollides => exact absurd hcollides hapart
    | minted t db' _ _ _ hdb | invalid _ hdb | passwordRequired t _ hdb => exact absurd (hwrites.symm.trans hdb) (by simp)
  · rw [hnone] at hapart
    cases redeemWrite a.1 a.2 s.db.tables with
    | failed hcollides | mintedAgain t db' hcollides | okWithoutSession hcollides => exact absurd hcollides hapart
    | invalid _ hdb hinvalid =>
      have heq : s'.db.tables = s.db.tables := mem_unique hwrites hdb
      rw [heq, hinvalid] at hstatus
      refine h.of_eq hlog hbefore hafter heq ?_ fun hpassword => absurd (hstatus.symm.trans hpassword) (by simp)
      rw [RedeemEntry.Reports, hnone]
      exact .inr (.inl hstatus)
    | passwordRequired t _ hdb hrequired ht hopen =>
      have heq : s'.db.tables = s.db.tables := mem_unique hwrites hdb
      rw [heq, hrequired] at hstatus
      refine h.of_eq hlog hbefore hafter heq ?_ fun _ _ => ⟨t, hparams ▸ ht, hopen⟩
      rw [RedeemEntry.Reports, hnone]
      exact .inr (.inr hstatus)
    | minted t db' _ ht hopen hdb hminted =>
      obtain rfl := mem_unique hdb hwrites
      have hclosed : ¬ Redeemed s.db.tables a.1.tokenHash := by
        rintro ⟨t', ht', hne⟩
        obtain rfl := mem_unique ht ht'
        exact hne hopen
      have hmark : Redeemed s'.db.tables a.1.tokenHash :=
        ⟨{ t with redeemedAt := some a.2 }, by rw [hminted.tickets, if_pos rfl, ht, map_some], by simp⟩
      have hgrow : ∀ token, Redeemed s.db.tables token → Redeemed s'.db.tables token := by
        rintro token ⟨t', ht', hne⟩
        by_cases htoken : token = a.1.tokenHash
        · exact htoken ▸ hmark
        · exact ⟨t', by rw [hminted.tickets, if_neg htoken, ht'], hne⟩
      have hown : ∀ hash, e.mints hash → hash = e.params.sessionHash := by
        rintro hash ⟨hmem, hnot⟩
        rw [hafter, hminted.sessions] at hmem
        rw [hparams]
        exact (mem_cons.mp hmem).resolve_right (hbefore ▸ hnot)
      refine ⟨?_, fun e' he' hash hmint => ?_, fun token hred => hgrow token (h.kept token hred)⟩
      · rw [hlog]
        refine h.mintsOnce.cons hown (fun hash hmint => ⟨fun hred => ?_, fun e' he' htoken hash' hmint' => ?_⟩) ?_ fun hpassword => ?_
        · exact hclosed (hparams ▸ h.kept _ hred)
        · exact hclosed (hparams ▸ htoken ▸ h.marked e' he' hash' hmint')
        · rw [RedeemEntry.Reports, hnone]
          refine .inl ⟨by rw [hstatus, hminted.outcome], ?_⟩
          rw [RedeemEntry.mints, hafter, hbefore, hminted.sessions, hparams]
          exact ⟨mem_cons_self, hminted.newHash⟩
        · rw [hstatus, hminted.outcome] at hpassword
          exact absurd hpassword (by simp)
      · rw [hlog] at he'
        rcases mem_cons.mp he' with rfl | he'
        · exact hparams ▸ hmark
        · exact hgrow _ (h.marked e' he' hash hmint)

theorem mints_once_iff (digest : RedeemKey → Text) (db : NamedDb RedeemTables PortalIdentity) (s' : RedeemState)
    (redemptions : List (RedeemClaimTicket × Stamp)) (hrun : run (redeemStep digest) ⟨db, []⟩ redemptions = some s') :
    MintsOnce db.tables s'.log ↔ EveryStep (redeemStep digest) (RedeemsApart digest) ⟨db, []⟩ redemptions := by
  have htraced : Traced db.tables ⟨db, []⟩ :=
    ⟨forall_mem_nil _, fun token t ht hne => .inl ⟨t, ht, hne⟩⟩
  have hminting : Minting db.tables ⟨db, []⟩ :=
    ⟨⟨forall_mem_nil _, forall_mem_nil _, forall_mem_nil _, forall_mem_nil _⟩, forall_mem_nil _, fun _ h => h⟩
  constructor
  · intro honce
    have hlasts : Stable (redeemStep digest) fun s => ¬ MintsOnce db.tables s.log := fun s a s' hbad hs honce => by
      obtain ⟨e, hlog, -⟩ := redeemStep_cases hs
      exact hbad (hlog ▸ honce).of_cons
    exact everyStep_of_not_bad (fun s a s' h hs => Traced.step h hs) hlasts
      (fun s a s' h hapart hs => not_mintsOnce_of_collision h hapart hs) htraced hrun (not_not.mpr honce)
  · intro hapart
    exact (run_of_everyStep (fun s a s' h hp hs => Minting.step h hp hs) hminting hapart hrun).mintsOnce

section OneTicket

def openTicket : ClaimTicket :=
  ⟨utf8 "t", some 1, 100, none⟩

def oneTicket : RedeemTables where
  claimTickets := ⟨[openTicket], by decide⟩
  portalIdentities := ⟨[⟨1, utf8 "corp", utf8 "x", none, none, 0, none⟩], by decide⟩
  users := ⟨[], by decide⟩
  operatorSessions := []
  portalSessions := ⟨[], by decide⟩

def redemption (session : String) : RedeemClaimTicket :=
  { tokenHash := utf8 "t", sessionHash := utf8 session, expiresAt := 1000 }

theorem mints_once_iff_oneTicket :
    ∃ s', run (redeemStep RedeemKey.sessionHash) ⟨⟨[], oneTicket⟩, []⟩ [(redemption "a", 10)] = some s' ∧ MintsOnce oneTicket s'.log := by
  obtain ⟨s', hrun⟩ : ∃ s', run (redeemStep RedeemKey.sessionHash) ⟨⟨[], oneTicket⟩, []⟩ [(redemption "a", 10)] = some s' := ⟨_, rfl⟩
  refine ⟨s', hrun, (mints_once_iff _ _ s' _ hrun).mpr ⟨?_, fun _ _ => trivial⟩⟩
  rintro ⟨t, ht, ⟨-, hsession⟩ | ⟨hnow, -⟩⟩
  · exact absurd hsession not_mem_nil
  · obtain rfl : openTicket = t := some.inj ht
    exact absurd hnow (by decide)

theorem equal_clock_mints_twice :
    (run (redeemStep RedeemKey.sessionHash) ⟨⟨[], oneTicket⟩, []⟩ [(redemption "a", 10), (redemption "b", 10)]).map
        (fun s => (s.db.tables.sessionHashes, s.log.map RedeemEntry.status)) =
      some ([utf8 "b", utf8 "a"], [some .ok, some .ok]) := by
  decide +kernel

end OneTicket

end Bookclerk.Named
