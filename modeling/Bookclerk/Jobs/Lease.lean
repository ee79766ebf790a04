import Bookclerk.Jobs.History

namespace Bookclerk.Jobs

open Lexical Db Bookclerk.System List Option

variable {c : Call} {e : Event} {g : Int} {f : JobFence} {now : Stamp} {id : Text}

def Event.claimsJob (id : Text) : Event → Bool
  | .claimed id' _ _ => id' = id
  | .cancelReturned _ => false

def Event.claimsLease (id : Text) (generation : Int) : Event → Bool
  | .claimed id' _ generation' => id' = id && generation' = generation
  | .cancelReturned _ => false

def LaterClaim (e e' : Event) : Prop :=
  ∀ id owner owner' g g', e = .claimed id owner g → e' = .claimed id owner' g' → g' < g

structure LeaseInv {ι : Type} (q : Queue ι) : Prop where
  claims : ClaimInv q.store
  reached : ∀ id owner g, .claimed id owner g ∈ q.log → ∃ r ∈ q.store.table.rows, r.id = id ∧ g ≤ r.leaseGeneration
  ordered : q.log.Pairwise LaterClaim

variable {ι : Type} {q q' : Queue ι}

lemma LeaseInv.reached_later (h : LeaseInv q) {t : JobTable} (ht : Later q.store.table t) {owner : Text}
    (hmem : .claimed id owner g ∈ q.log) : ∃ r ∈ t.rows, r.id = id ∧ g ≤ r.leaseGeneration := by
  obtain ⟨r, hr, rfl, hg⟩ := h.reached id owner g hmem
  obtain ⟨r', hr', hev⟩ := ht r hr
  exact ⟨r', hr', hev.id, hg.trans hev.generation⟩

lemma LeaseInv.initial (table : JobTable) : LeaseInv (Queue.initial table : Queue ι) :=
  ⟨ClaimInv.initial table, nofun, List.Pairwise.nil⟩

variable [Fintype ι] [DecidableEq ι]

lemma LeaseInv.step (h : LeaseInv q) {a : Action ι} (hs : step q a = some q') : LeaseInv q' := by
  have hmoved := step_moved hs
  have hlater := h.claims.later hmoved
  cases step_logged h.claims hs with
  | same hlog =>
    refine ⟨h.claims.moved hmoved, fun id owner g hmem => ?_, hlog ▸ h.ordered⟩
    exact h.reached_later hlater (hlog ▸ hmem)
  | cancelReturned j c m _ _ _ _ hlog =>
    refine ⟨h.claims.moved hmoved, fun id owner g hmem => ?_, ?_⟩
    · rw [hlog] at hmem
      rcases mem_cons.mp hmem with hmem | hmem
      · cases hmem
      · exact h.reached_later hlater hmem
    · rw [hlog]
      refine pairwise_cons.mpr ⟨fun e' _ id owner owner' g g' he => ?_, h.ordered⟩
      cases he
  | claimed r w owner hr hw hid hgen hset hlog =>
    refine ⟨h.claims.moved hmoved, fun id owner' g hmem => ?_, ?_⟩
    · rw [hlog] at hmem
      rcases mem_cons.mp hmem with hmem | hmem
      · cases hmem
        exact ⟨w, hw, hid, le_refl _⟩
      · exact h.reached_later hlater hmem
    · rw [hlog]
      refine pairwise_cons.mpr ⟨fun e' he' id o o' g g' he heq => ?_, h.ordered⟩
      cases he
      subst heq
      obtain ⟨r', hr', hid', hg'⟩ := h.reached _ _ _ he'
      rw [q.store.table.eq_of_key hr' hr hid'] at hg'
      omega

lemma leaseInv_of_run {table : JobTable} {as : List (Action ι)} (hrun : run step (Queue.initial table) as = some q) : LeaseInv q :=
  Stable.run (fun _ _ _ h hs => h.step hs) (LeaseInv.initial table) hrun

lemma claimsLease_iff : e.claimsLease id g = true ↔ ∃ owner, e = .claimed id owner g := by
  cases e <;> simp [Event.claimsLease]

lemma claimsJob_iff : e.claimsJob id = true ↔ ∃ owner g, e = .claimed id owner g := by
  cases e <;> simp [Event.claimsJob]

lemma countP_le_one_of_pairwise {log : List Event} (h : log.Pairwise LaterClaim) (id : Text) (g : Int) :
    log.countP (Event.claimsLease id g) ≤ 1 := by
  induction log with
  | nil => simp
  | cons e log ih =>
    obtain ⟨hhead, htail⟩ := pairwise_cons.mp h
    cases he : e.claimsLease id g with
    | false => simpa [he] using ih htail
    | true =>
      have hzero : log.countP (Event.claimsLease id g) = 0 := by
        rw [countP_eq_zero]
        intro e' he' hclaim
        obtain ⟨owner, rfl⟩ := claimsLease_iff.mp he
        obtain ⟨owner', rfl⟩ := claimsLease_iff.mp hclaim
        exact lt_irrefl g (hhead _ he' id owner owner' g g rfl rfl)
      simp [he, hzero]

lemma Call.issued_fence {stmt : JobStmt} (hf : c.fence = some f)
    (h : c.issued now = .ok (some stmt)) : stmt.target = f.jobId ∧ ∀ j, stmt.applies j = f.owns j := by
  cases c with
  | heartbeat | setProgress | complete =>
    cases hf
    cases h
    exact ⟨rfl, fun _ => rfl⟩
  | suspend =>
    cases hf
    rw [issued, suspendJob] at h
    split at h
    · cases h
    · split at h
      · cases h
      · split_ifs at h
        cases h
        exact ⟨rfl, fun _ => rfl⟩
  | checkpointRunning =>
    cases hf
    rw [issued, checkpointRunningJob] at h
    split at h
    · cases h
    · split_ifs at h
      split at h
      · cases h
      · cases h
        exact ⟨rfl, fun _ => rfl⟩
  | fail =>
    cases hf
    rw [issued, failJob] at h
    split at h
    · cases h
    · split_ifs at h
      · cases h
        exact ⟨rfl, fun j => by simp [cancelFencedJob]⟩
      · cases h
        exact ⟨rfl, fun _ => rfl⟩
  | reclaim | invalid => cases hf

section

variable (hf : c.fence = some f) (hs : step q (.call c now) = some q')
include hf hs

lemma call_find (id : Text) :
    q'.store.table.find id = q.store.table.find id ∨ id = f.jobId ∧ (q.store.table.find id).any f.owns = true := by
  rw [step] at hs
  split at hs
  · next stmt hissued =>
    obtain ⟨store, hexec, rfl⟩ := map_eq_some_iff.mp hs
    obtain ⟨-, rfl⟩ := Store.exec_eq_some.mp hexec
    obtain ⟨htarget, howns⟩ := c.issued_fence hf hissued
    rw [Table.find_modify]
    cases hfind : q.store.table.find id with
    | none => exact Or.inl rfl
    | some r =>
      rcases stmt.row_cases r with hrow | ⟨hkey, happ, -⟩
      · exact Or.inl (by rw [map_some, hrow])
      · refine Or.inr ⟨?_, (howns r).symm.trans happ⟩
        rw [← htarget, ← hkey]
        exact (Table.find_eq_some.mp hfind).2.symm
  · cases hs
    exact Or.inl rfl

lemma call_eq_of_not_owns
    (hno : ∀ r ∈ q.store.table.rows, r.id = f.jobId → f.owns r = false) : q' = q := by
  rw [step] at hs
  split at hs
  · next stmt hissued =>
    obtain ⟨store, hexec, rfl⟩ := map_eq_some_iff.mp hs
    obtain ⟨-, rfl⟩ := Store.exec_eq_some.mp hexec
    obtain ⟨htarget, howns⟩ := c.issued_fence hf hissued
    have hrow : ∀ r ∈ q.store.table.rows, stmt.row r = r := by
      intro r hr
      rcases stmt.row_cases r with hrow | ⟨hkey, happ, -⟩
      · exact hrow
      · have := hno r hr (hkey.trans htarget)
        rw [← howns r, happ] at this
        cases this
    rw [q.store.table.modify_eq_self stmt.key_row hrow]
  · cases hs
    rfl

end

theorem lease_exclusive (table : JobTable) (as : List (Action ι)) (hrun : run step (Queue.initial table) as = some q) :
    (∀ id g, q.log.countP (Event.claimsLease id g) ≤ 1) ∧
      ∀ c f now q', c.fence = some f → step q (.call c now) = some q' →
        (∀ id, q'.store.table.find id = q.store.table.find id ∨ id = f.jobId ∧ (q.store.table.find id).any f.owns = true) ∧
        (∀ newer older, q.log = newer ++ .claimed f.jobId f.owner f.generation :: older →
          newer.any (Event.claimsJob f.jobId) = true → q' = q) := by
  have hinv := leaseInv_of_run hrun
  refine ⟨countP_le_one_of_pairwise hinv.ordered, fun c f now q' hf hs => ⟨call_find hf hs, ?_⟩⟩
  intro newer older hlog hnewer
  refine call_eq_of_not_owns hf hs fun r hr hid => ?_
  obtain ⟨e, he, hclaim⟩ := List.any_eq_true.mp hnewer
  obtain ⟨owner, g, rfl⟩ := claimsJob_iff.mp hclaim
  have hlt : f.generation < g := by
    have hord := hinv.ordered
    rw [hlog] at hord
    exact (pairwise_append.mp hord).2.2 _ he _ mem_cons_self _ _ _ _ _ rfl rfl
  have hmem : .claimed f.jobId owner g ∈ q.log := hlog ▸ mem_append_left _ he
  obtain ⟨r', hr', hid', hg⟩ := hinv.reached _ _ _ hmem
  rw [q.store.table.eq_of_key hr' hr (hid'.trans hid.symm)] at hg
  by_contra hown
  have := (JobFence.owns_iff.mp (by simpa using hown)).2.2
  omega

def oneJob : JobTable :=
  ⟨[pendingJob (utf8 "j")], by simp⟩

def claimActions (owner : Text) (now : Stamp) : List (Action (Fin 1)) :=
  [.openClaim soleSession .network owner 60 now, .claim soleSession, .claim soleSession, .commit soleSession]

def claimedByA : Job :=
  (claimCandidate (pendingJob (utf8 "j")) {} (utf8 "a") (leaseExpiry 1 60) 1).set (pendingJob (utf8 "j"))

def claimedTwice : List (Action (Fin 1)) :=
  claimActions (utf8 "a") 1 ++
    .call (.suspend ⟨utf8 "j", utf8 "a", 1⟩ ⟨1, []⟩ 2 (some claimedByA)) 2 :: claimActions (utf8 "b") 3

theorem lease_exclusive_claimed_twice :
    ∃ q, run step (Queue.initial oneJob) claimedTwice = some q ∧
      step q (.call (.complete ⟨utf8 "j", utf8 "a", 1⟩ none) 4) = some q := by
  have hlog : (run step (Queue.initial oneJob) claimedTwice).map Queue.log =
      some [.claimed (utf8 "j") (utf8 "b") 2, .claimed (utf8 "j") (utf8 "a") 1] := by decide +kernel
  have hstep : ((run step (Queue.initial oneJob) claimedTwice).bind
      fun q => step q (.call (.complete ⟨utf8 "j", utf8 "a", 1⟩ none) 4)).isSome = true := by decide +kernel
  obtain ⟨q, hrun, hlog⟩ := map_eq_some_iff.mp hlog
  rw [hrun, bind_some, isSome_iff_exists] at hstep
  obtain ⟨q', hstep⟩ := hstep
  obtain ⟨-, hfenced⟩ := lease_exclusive oneJob claimedTwice hrun
  obtain ⟨-, hlate⟩ := hfenced _ _ _ q' rfl hstep
  have heq := hlate [_] [] hlog rfl
  exact ⟨q, hrun, heq ▸ hstep⟩

end Bookclerk.Jobs
