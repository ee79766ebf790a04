import Bookclerk.Jobs.Queue

namespace Bookclerk.Jobs

open Lexical Db List Option

def update (t : JobTable) (q : JobStmt) : JobTable :=
  t.modify q.row q.key_row

def affects (t : JobTable) (q : JobStmt) : Bool :=
  (t.find q.target).any q.applies

def sanitizeUnreadablePendingOn (t : JobTable) (now : Stamp) : JobTable :=
  (unreadablePending t.rows).foldl (fun t m => update t (markPendingJobInvalid m.id (unknownClass m) now)) t

def claimLoop (owner : Text) (leaseExpires now : Stamp) : JobTable → List Job → JobTable × Option Text
  | t, [] => (t, none)
  | t, m :: left =>
    if m.cancelRequested then claimLoop owner leaseExpires now (update t (cancelCandidate m.id now)) left
    else
      match tryMapJob m with
      | .error reason => claimLoop owner leaseExpires now (update t (markPendingJobInvalid m.id reason now)) left
      | .ok record =>
        let q := claimCandidate m record.payload owner leaseExpires now
        if affects t q then (update t q, some m.id) else claimLoop owner leaseExpires now t left

def claimNextJobOn (t : JobTable) (resourceClass : JobResourceClass) (owner : Text) (leaseSecs : Nat) (now : Stamp) :
    Except Text (JobTable × Option JobRecord) :=
  let t := sanitizeUnreadablePendingOn t now
  let (t, claimed) := claimLoop owner (leaseExpiry now leaseSecs) now t (claimCandidates resourceClass now t.rows)
  match claimed.bind t.find with
  | none => .ok (t, none)
  | some row =>
    match tryMapJob row with
    | .ok record => .ok (t, some record)
    | .error reason => .error (utf8 "claimed unreadable job: " ++ reason)

def planKind (kind : Stored JobKind) : Bool :=
  kind ∈ [.known .scan, .known .acquire, .known .listenSync, .known .integrationScan]

def planPayload (payload : Stored JobPayload) : Bool :=
  payload.known?.any fun p => p.v = jobPayloadVersion

def planReadable (j : Job) : Bool :=
  planPayload j.payload && planKind j.kind && j.resourceClass.known?.isSome

def planUnreadableMessage (j : Job) : Text :=
  if j.payload.known?.isNone then utf8 "malformed job payload JSON"
  else if !planPayload j.payload then utf8 "unsupported job payload version"
  else if j.resourceClass.known?.isNone then utf8 "unknown job resource class"
  else utf8 "unknown job kind"

/-- `plan_mark_unreadable_pending_jobs`, on one row. -/
def planMarkUnreadable (now : Stamp) (j : Job) : Job :=
  if j.state = .pending && !planReadable j then
    { invalidRow (planUnreadableMessage j) now j with leaseOwner := none, leaseExpiresAt := none }
  else j

def planCandidate (t : JobTable) (resourceClass : JobResourceClass) (now : Stamp) : Option Job :=
  ((t.rows.filter fun j => claimable resourceClass now j && !j.cancelRequested && planReadable j).insertionSort
    claimBefore).head?

def planClaim (id owner : Text) (leaseExpires now : Stamp) : JobStmt :=
  ⟨id, fun j => j.state = .pending,
    fun j => { j with
      state := .running
      attemptCount := j.attemptCount + 1
      leaseOwner := some owner
      leaseExpiresAt := some leaseExpires
      leaseGeneration := j.leaseGeneration + 1
      startedAt := some (j.startedAt.getD now)
      updatedAt := now
      errorKind := none
      errorMessage := none }, fun _ => rfl⟩

def startedDesc (a b : Job) : Prop :=
  b.startedAt.getD 0 ≤ a.startedAt.getD 0

instance (a b : Job) : Decidable (startedDesc a b) :=
  inferInstanceAs (Decidable (_ ≤ _))

def planResult (t : JobTable) (owner : Text) (now : Stamp) : Option Job :=
  ((t.rows.filter fun j => j.leaseOwner = some owner && j.state = .running && j.updatedAt = now).insertionSort
    startedDesc).head?

def planMarked (t : JobTable) (now : Stamp) : JobTable :=
  t.modify (planMarkUnreadable now) fun j => by
    rw [planMarkUnreadable]
    split_ifs <;> rfl

def planLeaseExpiry (now : Stamp) (leaseSecs : Nat) : Stamp :=
  afterSecs now (max (if leaseSecs < 2 ^ 63 then leaseSecs else 60) 5)

def planClaimed (t : JobTable) (resourceClass : JobResourceClass) (owner : Text) (leaseSecs : Nat) (now : Stamp) : JobTable :=
  let t := planMarked t now
  match planCandidate t resourceClass now with
  | none => t
  | some m => update t (planClaim m.id owner (planLeaseExpiry now leaseSecs) now)

/-- The table that `plan_claim_next_job` leaves, and the row it reports. -/
def planClaimNextJob (t : JobTable) (resourceClass : JobResourceClass) (owner : Text) (leaseSecs : Nat) (now : Stamp) :
    JobTable × Option Job :=
  let t := planClaimed t resourceClass owner leaseSecs now
  (t, planResult t owner now)

structure Written (j : Job) : Prop where
  kind : ∃ k, j.kind = .known k ∧ (j.state.isActive = true → k ≠ .invalid)
  resourceClass : ∃ c, j.resourceClass = .known c
  payload : ∃ p, j.payload = .known p ∧ p.v = jobPayloadVersion

def nextInLine (t : JobTable) (resourceClass : JobResourceClass) (now : Stamp) : Option Job :=
  (claimCandidates resourceClass now t.rows).find? fun m => !m.cancelRequested

lemma Written.tryMapJob {j : Job} (h : Written j) : ∃ record, tryMapJob j = .ok record ∧ j.payload = .known record.payload := by
  obtain ⟨k, hk, -⟩ := h.kind
  obtain ⟨c, hc⟩ := h.resourceClass
  obtain ⟨p, hp, hv⟩ := h.payload
  exact ⟨⟨j, k, c, p⟩, by simp [Jobs.tryMapJob, hk, hc, hp, hv], hp⟩

lemma find_update_of_ne (t : JobTable) {q : JobStmt} {id : Text} (h : id ≠ q.target) : (update t q).find id = t.find id := by
  rw [update, Table.find_modify]
  cases hfind : t.find id with
  | none => rfl
  | some r =>
    have hid : r.id = id := (Table.find_eq_some.mp hfind).2
    rw [map_some, Stmt.row, if_neg]
    rintro ⟨hkey, -⟩
    exact h (hid.symm.trans hkey)

lemma find_update (t : JobTable) (q : JobStmt) {m : Job} (hm : t.find m.id = some m) (htarget : q.target = m.id)
    (happ : q.applies m = true) : (update t q).find m.id = some (q.set m) := by
  rw [update, Table.find_modify, hm, map_some, Stmt.row, if_pos ⟨htarget.symm, happ⟩]

section Local

variable (owner : Text) (leaseExpires now : Stamp)

lemma claimLoop_spec {ms : List Job} {t : JobTable}
    (hms : ∀ m ∈ ms, t.find m.id = some m ∧ m.state = .pending ∧ ∃ record, tryMapJob m = .ok record)
    (hids : (ms.map Job.id).Nodup) :
    (ms.find? (fun m => !m.cancelRequested) = none ∧ (claimLoop owner leaseExpires now t ms).2 = none) ∨
      ∃ m record t', ms.find? (fun m => !m.cancelRequested) = some m ∧ tryMapJob m = .ok record ∧ t'.find m.id = some m ∧
        claimLoop owner leaseExpires now t ms = (update t' (claimCandidate m record.payload owner leaseExpires now), some m.id) := by
  induction ms generalizing t with
  | nil => exact Or.inl ⟨rfl, rfl⟩
  | cons m ms ih =>
    obtain ⟨hfind, hpend, record, hmap⟩ := hms m mem_cons_self
    obtain ⟨hnew, hids⟩ := nodup_cons.mp hids
    cases hflag : m.cancelRequested with
    | true =>
      have hrest : ∀ m' ∈ ms, (update t (cancelCandidate m.id now)).find m'.id = some m' ∧ m'.state = .pending ∧
          ∃ record, tryMapJob m' = .ok record := by
        intro m' hm'
        obtain ⟨hfind', hrest'⟩ := hms m' (mem_cons_of_mem m hm')
        refine ⟨?_, hrest'⟩
        rw [find_update_of_ne, hfind']
        rintro (heq : m'.id = m.id)
        exact hnew (heq ▸ List.mem_map_of_mem hm')
      rw [List.find?_cons_of_neg (by simp [hflag]), claimLoop, if_pos hflag]
      exact ih hrest hids
    | false =>
      refine Or.inr ⟨m, record, t, List.find?_cons_of_pos (by simp [hflag]), hmap, hfind, ?_⟩
      rw [claimLoop, if_neg (by simp [hflag]), hmap]
      have haff : affects t (claimCandidate m record.payload owner leaseExpires now) = true := by
        rw [affects, show (claimCandidate m record.payload owner leaseExpires now).target = m.id from rfl, hfind]
        simpa [claimCandidate] using hpend
      exact if_pos haff

end Local

variable {t : JobTable} {resourceClass : JobResourceClass} {owner : Text} {leaseSecs : Nat} {now : Stamp}

lemma mem_claimCandidates {m : Job} (h : m ∈ claimCandidates resourceClass now t.rows) : m ∈ t.rows ∧ m.state = .pending := by
  obtain ⟨hmem, hclaim⟩ := mem_filter.mp ((mem_insertionSort _).mp (mem_of_mem_take h))
  simp only [claimable, Bool.and_eq_true, decide_eq_true_eq] at hclaim
  exact ⟨hmem, hclaim.1.2⟩

lemma nodup_claimCandidates : ((claimCandidates resourceClass now t.rows).map Job.id).Nodup := by
  have hperm := (perm_insertionSort claimBefore (t.rows.filter (claimable resourceClass now))).map Job.id
  have hfilter : ((t.rows.filter (claimable resourceClass now)).map Job.id).Nodup :=
    t.nodup.sublist (filter_sublist.map Job.id)
  exact (hperm.nodup_iff.mpr hfilter).sublist ((take_sublist 8 _).map Job.id)

lemma Written.claimed {m : Job} {record : JobRecord} (hw : Written m) (hpend : m.state = .pending) (hmap : Jobs.tryMapJob m = .ok record)
    (owner : Text) (leaseExpires now : Stamp) : Written ((claimCandidate m record.payload owner leaseExpires now).set m) := by
  obtain ⟨k, hk, hkind⟩ := hw.kind
  obtain ⟨p, hp, hv⟩ := hw.payload
  obtain ⟨record', hmap', hp'⟩ := hw.tryMapJob
  obtain rfl : record' = record := by simpa [hmap'] using hmap
  obtain rfl : p = record'.payload := by simpa [hp] using hp'
  refine ⟨⟨k, hk, fun _ => hkind (by rw [hpend]; rfl)⟩, hw.resourceClass, ?_⟩
  cases hres : record'.payload.resumePending with
  | true => exact ⟨{ record'.payload with resumePending := false }, by simp [claimCandidate, hres], hv⟩
  | false => exact ⟨record'.payload, by simp [claimCandidate, hres, hp], hv⟩

lemma sanitize_eq_self (hw : ∀ r ∈ t.rows, Written r) : sanitizeUnreadablePendingOn t now = t := by
  have hnone : unreadablePending t.rows = [] := by
    rw [unreadablePending, filter_eq_nil_iff.mpr, take_nil]
    intro r hr
    obtain ⟨c, hc⟩ := (hw r hr).resourceClass
    simp [hc, Stored.known?]
  rw [sanitizeUnreadablePendingOn, hnone, foldl_nil]

lemma claimNextJobOn_spec (hw : ∀ r ∈ t.rows, Written r) (resourceClass : JobResourceClass) (owner : Text) (leaseSecs : Nat)
    (now : Stamp) :
    (nextInLine t resourceClass now = none ∧ ∃ t', claimNextJobOn t resourceClass owner leaseSecs now = .ok (t', none)) ∨
      ∃ m payload t' record, nextInLine t resourceClass now = some m ∧ m.payload = .known payload ∧
        claimNextJobOn t resourceClass owner leaseSecs now = .ok (t', some record) ∧ record.row.id = m.id ∧
        t'.find m.id = some ((claimCandidate m payload owner (leaseExpiry now leaseSecs) now).set m) := by
  have hms : ∀ m ∈ claimCandidates resourceClass now t.rows,
      t.find m.id = some m ∧ m.state = .pending ∧ ∃ record, tryMapJob m = .ok record := by
    intro m hm
    obtain ⟨hmem, hpend⟩ := mem_claimCandidates hm
    obtain ⟨record, hmap, -⟩ := (hw m hmem).tryMapJob
    exact ⟨Table.find_eq_some.mpr ⟨hmem, rfl⟩, hpend, record, hmap⟩
  rw [claimNextJobOn, sanitize_eq_self hw]
  rcases claimLoop_spec owner (leaseExpiry now leaseSecs) now hms nodup_claimCandidates with
    ⟨hnone, hloop⟩ | ⟨m, record, t', hsome, hmap, hfind, hloop⟩
  · refine Or.inl ⟨hnone, (claimLoop owner (leaseExpiry now leaseSecs) now t (claimCandidates resourceClass now t.rows)).1, ?_⟩
    dsimp only
    rw [hloop]
    rfl
  · obtain ⟨hmem, hpend⟩ := mem_claimCandidates (List.mem_of_find?_eq_some hsome)
    have hfind' := find_update t' (claimCandidate m record.payload owner (leaseExpiry now leaseSecs) now) hfind rfl
      (by simpa [claimCandidate] using hpend)
    obtain ⟨record', hmap', -⟩ := ((hw m hmem).claimed hpend hmap owner (leaseExpiry now leaseSecs) now).tryMapJob
    obtain ⟨record'', hmap'', hpayload⟩ := (hw m hmem).tryMapJob
    obtain rfl : record'' = record := by simpa [hmap''] using hmap
    refine Or.inr ⟨m, record''.payload, _, record', hsome, hpayload, ?_, ?_, hfind'⟩
    · rw [hloop]
      simp only [bind_some, hfind', hmap']
    · rw [tryMapJob_row hmap']
      rfl

end Bookclerk.Jobs
