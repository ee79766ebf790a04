import Bookclerk.D1.ClaimProtocol

namespace Bookclerk.D1

open Lexical Sql Db Receipt Bookclerk.System List Option

variable {a : Action} {batch : Batch} {s s' : Hosts}

variable {req : MixedRequest}

namespace Database

variable (req)

abbrev receipt (db : Database) : Option ReceiptRow := db.receipts.prior req.operationId

structure Sound (db : Database) : Prop where
  notRun : (∀ row ∈ db.receipt req, row.status = .claimed) → ∀ k, db.effects k = 0
  hasRun : ∀ row ∈ db.receipt req, row.status ≠ .claimed → ∀ k, req.isDml k = true → 1 ≤ db.effects k

def Ran (db : Database) : Prop := ∃ row ∈ db.receipt req, row.status ≠ .claimed

variable {req} (db : Database) (i : Nat)

@[simp] lemma receipt_apply_claim : (db.apply req i .claim).1.receipt req = some ((db.receipt req).getD (req.stub i)) :=
  ReceiptTable.prior_claim_self db.receipts (req.stub i)

@[simp] lemma receipt_apply_guest : (db.apply req i .guest).1.receipt req = (db.receipt req).map .markApplied := by
  simp [apply, ReceiptTable.prior_update _ _ ReceiptRow.operationId_markApplied]

@[simp] lemma receipt_apply_finalize : (db.apply req i .finalize).1.receipt req = (db.receipt req).map (.finalize (req.payload i)) := by
  simp [apply, ReceiptTable.prior_update _ _ (ReceiptRow.operationId_finalize _)]

lemma effects_apply (batch : Batch) (k : Nat) :
    (db.apply req i batch).1.effects k = db.effects k + if batch = .guest ∧ req.isDml k = true then 1 else 0 := by
  cases batch <;> simp [apply]

lemma isSome_receipt_apply (batch : Batch) (h : (db.receipt req).isSome) : ((db.apply req i batch).1.receipt req).isSome := by
  cases batch with
  | claim => simp
  | peek => exact h
  | guest | finalize => simpa using h

lemma Ran.apply {db : Database} (batch : Batch) (h : db.Ran req) : (db.apply req i batch).1.Ran req := by
  obtain ⟨row, hrow, hstatus⟩ := h
  cases batch with
  | claim => exact ⟨row, by simp [mem_def.mp hrow], hstatus⟩
  | peek => exact ⟨row, hrow, hstatus⟩
  | guest =>
    refine ⟨row.markApplied, by simp [mem_def.mp hrow], ?_⟩
    simp [ReceiptRow.markApplied, hstatus]
  | finalize =>
    refine ⟨row.finalize (req.payload i), by simp [mem_def.mp hrow], ?_⟩
    unfold ReceiptRow.finalize
    split
    · simp
    · exact hstatus

lemma ran_apply_guest (h : (db.receipt req).isSome) : (db.apply req i .guest).1.Ran req := by
  obtain ⟨row, hrow⟩ := isSome_iff_exists.mp h
  refine ⟨row.markApplied, by simp [hrow], ?_⟩
  unfold ReceiptRow.markApplied
  split
  · simp
  · assumption

lemma Ran.not_claimed {db : Database} (h : db.Ran req) : ¬ ∀ row ∈ db.receipt req, row.status = .claimed := by
  obtain ⟨row, hrow, hstatus⟩ := h
  exact fun hall => hstatus (hall row hrow)

lemma Sound.of_ran {db : Database} (hran : db.Ran req) (heff : ∀ k, req.isDml k = true → 1 ≤ db.effects k) : db.Sound req :=
  ⟨fun hclaimed => absurd hclaimed hran.not_claimed, fun _ _ _ => heff⟩

lemma Sound.effects_of_ran {db : Database} (hdb : db.Sound req) (hran : db.Ran req) (k : Nat)
    (hk : req.isDml k = true) : 1 ≤ db.effects k := by
  obtain ⟨row, hrow, hstatus⟩ := hran
  exact hdb.hasRun row hrow hstatus k hk

lemma Sound.apply {db : Database} (hdb : db.Sound req) (batch : Batch)
    (hguest : batch = .guest → (db.receipt req).isSome) (hfinal : batch = .finalize → db.Ran req) : (db.apply req i batch).1.Sound req := by
  cases batch with
  | claim =>
    cases hrow : db.receipt req with
    | none =>
      refine ⟨fun _ k => ?_, fun row hmem hstatus => ?_⟩
      · simpa [effects_apply] using hdb.notRun (by simp [hrow]) k
      · obtain rfl : req.stub i = row := by simpa [hrow] using hmem
        exact absurd rfl hstatus
    | some row =>
      have hsame : (db.apply req i .claim).1.receipt req = db.receipt req := by simp [hrow]
      refine ⟨fun hall k => ?_, fun row' hmem hstatus k hk => ?_⟩
      · simpa [effects_apply] using hdb.notRun (hsame ▸ hall) k
      · simpa [effects_apply] using hdb.hasRun row' (hsame ▸ hmem) hstatus k hk
  | peek => exact hdb
  | guest => exact .of_ran (ran_apply_guest db i (hguest rfl)) fun k hk => by simp [effects_apply, hk]
  | finalize =>
    refine .of_ran ((hfinal rfl).apply i .finalize) fun k hk => ?_
    simpa [effects_apply] using hdb.effects_of_ran (hfinal rfl) k hk

end Database

def Follows : Batch → Reply → Batch → Prop
  | .claim, .affected n, .guest => 0 < n
  | .claim, .affected _, .peek => True
  | .peek, .rows row, .guest => row.isSome
  | .guest, _, .finalize => True
  | _, _, _ => False

lemma mem_network_send {i attempt : Nat} {m : Message} (h : m ∈ (s.send i batch attempt).network) : m ∈ s.network ∨ m.batch = batch := by
  rcases mem_append.mp h with hold | hnew
  · exact .inl hold
  · exact .inr (by simp_all)

lemma onReply_spec (i : Nat) (s : Hosts) (batch : Batch) (reply : Reply) :
    (onReply req i s batch reply).database = s.database ∧
      ∀ m ∈ (onReply req i s batch reply).network, m ∈ s.network ∨ Follows batch reply m.batch := by
  have hfinish : ∀ m ∈ (s.finish i).network, m ∈ s.network := fun _ h => h
  have hsend : ∀ next : Batch, Follows batch reply next →
      ∀ m ∈ (s.send i next 0).network, m ∈ s.network ∨ Follows batch reply m.batch := by
    intro next hnext m hm
    rcases mem_network_send hm with hold | rfl
    · exact .inl hold
    · exact .inr hnext
  fun_cases onReply req i s batch reply with
  | case1 n hn => exact ⟨rfl, hsend .guest hn⟩
  | case2 n hn => exact ⟨rfl, hsend .peek trivial⟩
  | case3 row hresume =>
    refine ⟨rfl, hsend .guest ?_⟩
    cases row with
    | none => simp [shouldResumeGuest] at hresume
    | some row => rfl
  | case4 => exact ⟨rfl, fun m hm => .inl (hfinish m hm)⟩
  | case5 => exact ⟨rfl, hsend .finalize trivial⟩
  | case6 => exact ⟨rfl, fun m hm => .inl (hfinish m hm)⟩

lemma onAmbiguous_spec {i : Nat} (batch : Batch) (attempt : Nat) :
    (onAmbiguous i s batch attempt).database = s.database ∧
      ∀ m ∈ (onAmbiguous i s batch attempt).network, m ∈ s.network ∨ m.batch = .claim := by
  fun_cases onAmbiguous i s batch attempt with
  | case1 => exact ⟨rfl, fun m hm => mem_network_send hm⟩
  | case2 => exact ⟨rfl, fun m hm => .inl hm⟩
  | case3 => exact ⟨rfl, fun m hm => .inl hm⟩

lemma step_cases (h : step req s a = some s') :
    ((∀ n replied, a ≠ .execute n replied) ∧ s'.database = s.database ∧
      ∀ m ∈ s'.network, m ∈ s.network ∨ m.batch = .claim) ∨
    ∃ n replied m, a = .execute n replied ∧ s.network[n]? = some m ∧
      s'.database = (s.database.apply req m.owner m.batch).1 ∧
      ∀ m' ∈ s'.network, m' ∈ s.network ∨ Follows m.batch (s.database.apply req m.owner m.batch).2 m'.batch := by
  cases a with
  | start i =>
    obtain ⟨_, rfl⟩ : s.phase i = .idle ∧ s.send i .claim 0 = s' := by simpa [step] using h
    exact .inl ⟨nofun, rfl, fun m hm => mem_network_send hm⟩
  | execute n replied =>
    obtain ⟨m, hm, hstep⟩ := bind_eq_some_iff.mp h
    refine .inr ⟨n, replied, m, rfl, hm, ?_⟩
    have hsub : ∀ m' ∈ s.network.eraseIdx n, m' ∈ s.network := fun m' hm' => mem_of_mem_eraseIdx hm'
    cases replied with
    | false =>
      cases hstep
      exact ⟨rfl, fun m' hm' => .inl (hsub m' hm')⟩
    | true =>
      simp only [if_true] at hstep
      split at hstep
      · split at hstep
        · cases hstep
          obtain ⟨hdb, hnet⟩ := @onReply_spec req m.owner
            { s with database := (s.database.apply req m.owner m.batch).1, network := s.network.eraseIdx n }
            m.batch (s.database.apply req m.owner m.batch).2
          exact ⟨hdb, fun m' hm' => (hnet m' hm').imp_left (hsub m')⟩
        · cases hstep
      · cases hstep
  | drop n =>
    obtain ⟨_, rfl⟩ : n < s.network.length ∧ { s with network := s.network.eraseIdx n } = s' := by
      simpa [step] using h
    exact .inl ⟨nofun, rfl, fun m hm => .inl (mem_of_mem_eraseIdx hm)⟩
  | giveUp i =>
    simp only [step] at h
    split at h
    · cases h
      exact .inl ⟨nofun, onAmbiguous_spec ..⟩
    · cases h
  | stop i =>
    cases h
    exact .inl ⟨nofun, rfl, fun m hm => .inl hm⟩

structure Sound (req : MixedRequest) (s : Hosts) : Prop where
  database : s.database.Sound req
  guest : ∀ m ∈ s.network, m.batch = .guest → (s.database.receipt req).isSome
  finalize : ∀ m ∈ s.network, m.batch = .finalize → s.database.Ran req

lemma sound_initial {receipts : ReceiptTable} (hnone : receipts.prior req.operationId = none) : Sound req (.initial receipts) where
  database := ⟨fun _ _ => rfl, fun row hrow => by simp [Hosts.initial, Database.receipt, hnone] at hrow⟩
  guest := nofun
  finalize := nofun

lemma receipt_of_follows {db : Database} {i : Nat}
    (h : Follows batch (db.apply req i batch).2 .guest) : ((db.apply req i batch).1.receipt req).isSome := by
  cases batch with
  | claim => simp
  | peek => exact h
  | guest | finalize => exact h.elim

lemma sound_stable : Stable (step req) (Sound req) := by
  intro s a s' hs hstep
  rcases step_cases hstep with ⟨_, hdb, hnet⟩ | ⟨n, replied, m, _, hm, hdb, hnet⟩
  · refine ⟨hdb ▸ hs.database, fun m hm hbatch => ?_, fun m hm hbatch => ?_⟩
    · rcases hnet m hm with hold | hclaim
      · exact hdb ▸ hs.guest m hold hbatch
      · simp [hclaim] at hbatch
    · rcases hnet m hm with hold | hclaim
      · exact hdb ▸ hs.finalize m hold hbatch
      · simp [hclaim] at hbatch
  · have hmem : m ∈ s.network := mem_of_getElem? hm
    refine ⟨hdb ▸ hs.database.apply m.owner m.batch (hs.guest m hmem) (hs.finalize m hmem), ?_, ?_⟩
    · intro m' hm' hbatch
      rcases hnet m' hm' with hold | hnext
      · exact hdb ▸ Database.isSome_receipt_apply _ _ _ (hs.guest m' hold hbatch)
      · exact hdb ▸ receipt_of_follows (hbatch ▸ hnext)
    · intro m' hm' hbatch
      rcases hnet m' hm' with hold | hnext
      · exact hdb ▸ (hs.finalize m' hold hbatch).apply ..
      · obtain hguest : m.batch = .guest := by
          rw [hbatch] at hnext
          cases hb : m.batch with
          | guest => rfl
          | claim | peek | finalize => simp [hb, Follows] at hnext
        exact hdb ▸ hguest ▸ Database.ran_apply_guest _ _ (hs.guest m hmem hguest)

def guestFindsClaim (req : MixedRequest) (s : Hosts) : Action → Bool
  | .execute n _ => s.network[n]?.all fun m =>
    m.batch != .guest || (s.database.receipt req).any fun row => row.status = .claimed
  | _ => true

def AtMostOnce (s : Hosts) : Prop := ∀ k, s.database.effects k ≤ 1

lemma atMostOnce_step (hs : Sound req s ∧ AtMostOnce s)
    (hclaim : guestFindsClaim req s a = true) (hstep : step req s a = some s') : AtMostOnce s' := by
  intro k
  rcases step_cases hstep with ⟨_, hdb, _⟩ | ⟨n, replied, m, rfl, hm, hdb, _⟩
  · exact hdb ▸ hs.2 k
  · rw [hdb, Database.effects_apply]
    by_cases hguest : m.batch = .guest
    · have hzero : s.database.effects k = 0 := by
        refine hs.1.database.notRun (fun row hrow => ?_) k
        simpa [guestFindsClaim, hm, hguest, mem_def.mp hrow] using hclaim
      split <;> omega
    · simpa [hguest] using hs.2 k

def Twice (s : Hosts) : Prop := ∃ k, 2 ≤ s.database.effects k

lemma twice_stable : Stable (step req) Twice := by
  rintro s a s' ⟨k, hk⟩ hstep
  refine ⟨k, ?_⟩
  rcases step_cases hstep with ⟨_, hdb, _⟩ | ⟨n, replied, m, _, _, hdb, _⟩
  · exact hdb ▸ hk
  · rw [hdb, Database.effects_apply]
    omega

lemma twice_of_not_guestFindsClaim (hs : Sound req s)
    (hclaim : ¬ guestFindsClaim req s a = true) (hstep : step req s a = some s') : Twice s' := by
  rcases step_cases hstep with ⟨hother, _⟩ | ⟨n, replied, m, rfl, hm, hdb, _⟩
  · cases a with
    | execute n replied => exact absurd rfl (hother n replied)
    | start | drop | giveUp | stop => exact absurd rfl hclaim
  · have hguest : m.batch = .guest := by
      by_contra hne
      exact hclaim (by simp [guestFindsClaim, hm, hne])
    obtain ⟨row, hrow⟩ := isSome_iff_exists.mp (hs.guest m (mem_of_getElem? hm) hguest)
    have hstatus : row.status ≠ .claimed := by simpa [guestFindsClaim, hm, hguest, hrow] using hclaim
    obtain ⟨stmt, hmem, hdml⟩ := req.hasDml
    obtain ⟨k, hk⟩ := mem_iff_getElem?.mp hmem
    have hisDml : req.isDml k = true := by simp [MixedRequest.isDml, hk, hdml]
    refine ⟨k, ?_⟩
    have hran := hs.database.hasRun row hrow hstatus k hisDml
    rw [hdb, Database.effects_apply]
    simp only [hguest, hisDml, and_self, if_true]
    omega

def createAndInsert : MixedRequest where
  request :=
    { operationId := utf8 "op"
      requestHash := utf8 "hash"
      statements :=
        [⟨utf8 "CREATE TABLE IF NOT EXISTS t (a TEXT)", [], .execute, 0, .affectedRows⟩,
          ⟨utf8 "INSERT INTO t (a) VALUES ('x')", [], .execute, 0, .affectedRows⟩]
      deadlineUnixMs := 0 }
  created := fun _ => utf8 "2026-01-01T00:00:00+00:00"
  expires := fun _ => utf8 "2026-01-02T00:00:00+00:00"
  payload := fun _ => utf8 "reply"
  hasDdl := by decide +kernel
  hasDml := by decide +kernel

def lostClaimReply : List Action :=
  [.start 0, .execute 0 false, .giveUp 0, .execute 0 true, .execute 0 true, .execute 0 true, .execute 0 true]

def overlappingResume : List Action :=
  [.start 0, .execute 0 true, .start 1, .execute 1 true, .execute 1 true, .execute 0 true, .execute 0 true]

def Recorded (req : MixedRequest) (s : Hosts) : Prop :=
  s.database.Sound req ∧ ∀ m ∈ s.network, m.batch = .finalize → s.database.Ran req

theorem receipt_tells_effects (req : MixedRequest) (receipts : ReceiptTable) (hnone : receipts.prior req.operationId = none)
    (actions : List Action) :
    EveryStep (step req) (fun s a => ∀ s', step req s a = some s' → Recorded req s') (.initial receipts) actions := by
  refine sound_stable.everyStep (fun s a h s' hstep => ?_) (sound_initial hnone) actions
  have h' := sound_stable s a s' h hstep
  exact ⟨h'.database, h'.finalize⟩

theorem lostClaimReply_tells_effects :
    (run (step createAndInsert) (.initial []) lostClaimReply).isSome = true ∧
      EveryStep (step createAndInsert) (fun s a => ∀ s', step createAndInsert s a = some s' → Recorded createAndInsert s') (.initial [])
        lostClaimReply :=
  ⟨by decide +kernel, receipt_tells_effects createAndInsert [] rfl lostClaimReply⟩

end Bookclerk.D1
