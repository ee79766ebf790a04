import Bookclerk.Db.Keyset
import Bookclerk.Jobs.LocalClaim

namespace Bookclerk.Jobs

open Lexical Db List Option

variable {m r : Job} {leaseExpires : Stamp}

structure SameAttempt (r r' : Job) : Prop where
  state : r.state = r'.state
  attemptCount : r.attemptCount = r'.attemptCount
  leaseGeneration : r.leaseGeneration = r'.leaseGeneration
  resumePending : r.payload.known?.map (·.resumePending) = r'.payload.known?.map (·.resumePending)

structure ClaimRefines (t : JobTable) (resourceClass : JobResourceClass) (owner : Text) (leaseSecs : Nat) (now : Stamp) :
    Prop where
  claimed : ∀ t' record, claimNextJobOn t resourceClass owner leaseSecs now = .ok (t', some record) →
    (planClaimNextJob t resourceClass owner leaseSecs now).2.map Job.id = some record.row.id ∧
      ∃ r r', t'.find record.row.id = some r ∧
        (planClaimNextJob t resourceClass owner leaseSecs now).1.find record.row.id = some r' ∧ SameAttempt r r'
  claimable : ∀ r ∈ t.rows, r.state = .pending → r.kind ≠ .known .invalid →
    ((planClaimNextJob t resourceClass owner leaseSecs now).1.find r.id).any (·.state.isActive) = true

/-- When the job `m` is claimed, it is the last started of the owner's running rows stamped `now`. -/
def ReportedFirst (t : JobTable) (owner : Text) (now : Stamp) (m : Job) : Prop :=
  let startedAs (j : Job) : Stamp := if j.id = m.id then m.startedAt.getD now else j.startedAt.getD 0
  ((t.rows.filter fun j => j.id = m.id || (j.leaseOwner = some owner && j.state = .running && j.updatedAt = now)).insertionSort
    fun a b => startedAs b ≤ startedAs a).head? = some m

instance : IsTrans Job claimBefore where
  trans a b c hab hbc := by
    rcases hab with hab | ⟨hab, hab'⟩ <;> rcases hbc with hbc | ⟨hbc, hbc'⟩
    · exact Or.inl (hbc.trans hab)
    · exact Or.inl (hbc ▸ hab)
    · exact Or.inl (hab ▸ hbc)
    · exact Or.inr ⟨hab.trans hbc, hab'.trans hbc'⟩

instance : Std.Total claimBefore where
  total a b := by
    rcases lt_trichotomy a.priority b.priority with hlt | heq | hlt
    · exact Or.inr (Or.inl hlt)
    · rcases le_total a.createdAt b.createdAt with hle | hle
      · exact Or.inl (Or.inr ⟨heq, hle⟩)
      · exact Or.inr (Or.inr ⟨heq.symm, hle⟩)
    · exact Or.inl (Or.inl hlt)

variable {t : JobTable} {resourceClass : JobResourceClass} {owner : Text} {leaseSecs : Nat} {now : Stamp}

lemma Written.planReadable_iff {j : Job} (hw : Written j) (hpend : j.state = .pending) :
    planReadable j = true ↔ j.kind ≠ .known .pluginCopy := by
  obtain ⟨k, hk, hkind⟩ := hw.kind
  obtain ⟨c, hc⟩ := hw.resourceClass
  obtain ⟨p, hp, hv⟩ := hw.payload
  have hinv : k ≠ .invalid := hkind (by rw [hpend]; rfl)
  simp only [planReadable, planPayload, planKind, Stored.known?]
  cases k <;> simp_all

section

variable (hw : ∀ r ∈ t.rows, Written r)
include hw

lemma planMarked_eq_self (hkind : ∀ r ∈ t.rows, r.state = .pending → r.kind ≠ .known .pluginCopy) :
    planMarked t now = t := by
  refine t.modify_eq_self _ fun r hr => ?_
  rw [planMarkUnreadable, if_neg]
  simp only [Bool.and_eq_true, decide_eq_true_eq, Bool.not_eq_true', not_and, Bool.not_eq_false]
  exact fun hpend => ((hw r hr).planReadable_iff hpend).mpr (hkind r hr hpend)

lemma find_planClaimed_pluginCopy (hr : r ∈ t.rows) (hpend : r.state = .pending)
    (hkind : r.kind = .known .pluginCopy) :
    ((planClaimed t resourceClass owner leaseSecs now).find r.id).any (·.state.isActive) = false := by
  have hread : planReadable r = false := by
    rw [← Bool.not_eq_true, (hw r hr).planReadable_iff hpend, not_not]
    exact hkind
  have hmarked : (planMarked t now).find r.id = some (planMarkUnreadable now r) := by
    rw [planMarked, Table.find_modify, Table.find_eq_some.mpr ⟨hr, rfl⟩, map_some]
  have hfailed : (planMarkUnreadable now r).state = .failed := by
    rw [planMarkUnreadable, if_pos (by simp [hpend, hread])]
    rfl
  rw [planClaimed]
  split
  · simp [hmarked, hfailed, JobState.isActive]
  · rw [update, Table.find_modify, hmarked, map_some, Stmt.row, if_neg (by simp [planClaim, hfailed])]
    simp [hfailed, JobState.isActive]

lemma planCandidate_of_nextInLine
    (hkind : ∀ r ∈ t.rows, r.state = .pending → r.kind ≠ .known .pluginCopy)
    (hm : nextInLine t resourceClass now = some m) : planCandidate t resourceClass now = some m := by
  have hfilter : (t.rows.filter fun j => claimable resourceClass now j && !j.cancelRequested && planReadable j) =
      (t.rows.filter (claimable resourceClass now)).filter fun j => !j.cancelRequested := by
    rw [List.filter_filter]
    refine filter_congr fun r hr => ?_
    cases hclaim : claimable resourceClass now r with
    | false => simp
    | true =>
      have hpend : r.state = .pending := by
        simp only [claimable, Bool.and_eq_true, decide_eq_true_eq] at hclaim
        exact hclaim.1.2
      simp [((hw r hr).planReadable_iff hpend).mpr (hkind r hr hpend)]
  rw [planCandidate, hfilter, ← find?_insertionSort]
  rw [nextInLine, claimCandidates] at hm
  rw [← take_append_drop 8 (insertionSort ..), List.find?_append, hm, some_or]

end

lemma planResult_update (hm : t.find m.id = some m) (hpend : m.state = .pending) (leaseExpires : Stamp) :
    (planResult (update t (planClaim m.id owner leaseExpires now)) owner now).map Job.id = some m.id ↔ ReportedFirst t owner now m := by
  obtain ⟨hmem, -⟩ := Table.find_eq_some.mp hm
  let q := planClaim m.id owner leaseExpires now
  have hsame : q.row m = q.set m := if_pos ⟨rfl, by simpa [q, planClaim] using hpend⟩
  have hother : ∀ j, j.id ≠ m.id → q.row j = j := fun j hj => if_neg fun h => hj h.1
  have hcases : ∀ j ∈ t.rows, j = m ∨ j.id ≠ m.id := fun j hj => by
    by_cases hid : j.id = m.id
    · exact Or.inl (t.eq_of_key hj hmem hid)
    · exact Or.inr hid
  have hfilter : ((t.rows.map q.row).filter fun j => j.leaseOwner = some owner && j.state = .running && j.updatedAt = now) =
      (t.rows.filter fun j => j.id = m.id || (j.leaseOwner = some owner && j.state = .running && j.updatedAt = now)).map q.row := by
    rw [List.filter_map]
    refine congrArg _ (filter_congr fun j hj => ?_)
    rcases hcases j hj with rfl | hne
    · simp only [Function.comp_apply, hsame]
      simp [q, planClaim]
    · simp [hother j hne, hne]
  have hstart : ∀ j ∈ t.rows, (q.row j).startedAt.getD 0 = if j.id = m.id then m.startedAt.getD now else j.startedAt.getD 0 := by
    intro j hj
    rcases hcases j hj with rfl | hne
    · rw [hsame, if_pos rfl]
      rfl
    · rw [hother j hne, if_neg hne]
  have hsort := map_insertionSort
    (fun a b : Job => (if b.id = m.id then m.startedAt.getD now else b.startedAt.getD 0) ≤
      (if a.id = m.id then m.startedAt.getD now else a.startedAt.getD 0)) startedDesc q.row
    (t.rows.filter fun j => j.id = m.id || (j.leaseOwner = some owner && j.state = .running && j.updatedAt = now))
    (fun a ha b hb => by
      rw [startedDesc, hstart a (mem_of_mem_filter ha), hstart b (mem_of_mem_filter hb)])
  rw [planResult, show (update t q).rows = t.rows.map q.row from rfl, hfilter, ← hsort, head?_map, Option.map_map]
  constructor
  · intro h
    obtain ⟨j, hj, hid⟩ := map_eq_some_iff.mp h
    have hjmem : j ∈ t.rows := mem_of_mem_filter ((mem_insertionSort _).mp (List.mem_of_mem_head? hj))
    rcases hcases j hjmem with rfl | hne
    · exact hj
    · exact absurd ((q.key_row j).symm.trans hid) hne
  · intro h
    rw [h]
    exact congrArg some (q.key_row m)

lemma isActive_planClaim {id : Text} (hfind : t.find id = some r)
    (hpend : r.state = .pending) : ((update t (planClaim m.id owner leaseExpires now)).find id).any (·.state.isActive) = true := by
  rw [update, Table.find_modify, hfind, map_some, Stmt.row]
  split_ifs
  · rfl
  · simp [hpend, JobState.isActive]

lemma sameAttempt_iff {payload : JobPayload} {leaseExpires' : Stamp} (hp : m.payload = .known payload) :
    SameAttempt ((claimCandidate m payload owner leaseExpires now).set m) ((planClaim m.id owner leaseExpires' now).set m) ↔
      payload.resumePending = false := by
  constructor
  · intro h
    cases hres : payload.resumePending with
    | false => rfl
    | true =>
      have := h.resumePending
      simp [claimCandidate, planClaim, hp, Stored.known?, hres] at this
  · intro hres
    constructor <;> simp [claimCandidate, planClaim, hres]

section

variable (hw : ∀ r ∈ t.rows, Written r) (hkind : ∀ r ∈ t.rows, r.state = .pending → r.kind ≠ .known .pluginCopy)
include hw hkind

lemma planClaimed_of_nextInLine
    (hm : nextInLine t resourceClass now = some m) (owner : Text) (leaseSecs : Nat) :
    planClaimed t resourceClass owner leaseSecs now = update t (planClaim m.id owner (planLeaseExpiry now leaseSecs) now) := by
  rw [planClaimed]
  simp only [planMarked_eq_self hw hkind, planCandidate_of_nextInLine hw hkind hm]

lemma isActive_planClaimed (hr : r ∈ t.rows) (hpend : r.state = .pending) :
    ((planClaimed t resourceClass owner leaseSecs now).find r.id).any (·.state.isActive) = true := by
  have hfind : t.find r.id = some r := Table.find_eq_some.mpr ⟨hr, rfl⟩
  rw [planClaimed]
  simp only [planMarked_eq_self hw hkind]
  split
  · simp [hfind, hpend, JobState.isActive]
  · exact isActive_planClaim hfind hpend

end

theorem plan_claim_refines_iff (t : JobTable) (hw : ∀ r ∈ t.rows, Written r) (resourceClass : JobResourceClass) (owner : Text)
    (leaseSecs : Nat) (now : Stamp) :
    ClaimRefines t resourceClass owner leaseSecs now ↔
      (∀ r ∈ t.rows, r.state = .pending → r.kind ≠ .known .pluginCopy) ∧
        ∀ m, nextInLine t resourceClass now = some m →
          m.payload.known?.map (·.resumePending) = some false ∧ ReportedFirst t owner now m := by
  constructor
  · intro h
    have hkind : ∀ r ∈ t.rows, r.state = .pending → r.kind ≠ .known .pluginCopy := by
      intro r hr hpend hcopy
      have hactive := h.claimable r hr hpend (by simp [hcopy])
      exact Bool.false_ne_true ((find_planClaimed_pluginCopy hw hr hpend hcopy).symm.trans hactive)
    refine ⟨hkind, fun m hm => ?_⟩
    obtain ⟨hnone, -⟩ | ⟨m', payload, t', record, hm', hp, hlocal, hid, hfind⟩ :=
      claimNextJobOn_spec hw resourceClass owner leaseSecs now
    · rw [hnone] at hm
      cases hm
    · obtain rfl := mem_unique hm' hm
      obtain ⟨hmem, hpend⟩ := mem_claimCandidates (List.mem_of_find?_eq_some hm)
      have hrow : t.find m'.id = some m' := Table.find_eq_some.mpr ⟨hmem, rfl⟩
      have hplan := planClaimed_of_nextInLine hw hkind hm owner leaseSecs
      obtain ⟨hreported, r, r', hr, hr', hsame⟩ := h.claimed t' record hlocal
      simp only [planClaimNextJob, hplan, hid] at hreported hr hr'
      rw [hfind] at hr
      rw [find_update t _ hrow rfl (by simpa [planClaim] using hpend)] at hr'
      cases hr
      cases hr'
      refine ⟨?_, (planResult_update hrow hpend _).mp hreported⟩
      simp [hp, Stored.known?, (sameAttempt_iff hp).mp hsame]
  · rintro ⟨hkind, hnext⟩
    refine ⟨fun t' record hlocal => ?_, fun r hr hpend _ => isActive_planClaimed hw hkind hr hpend⟩
    obtain ⟨-, t'', hnone⟩ | ⟨m, payload, t'', record', hm, hp, hsome, hid, hfind⟩ :=
      claimNextJobOn_spec hw resourceClass owner leaseSecs now
    · rw [hnone] at hlocal
      cases hlocal
    · rw [hsome] at hlocal
      cases hlocal
      obtain ⟨hmem, hpend⟩ := mem_claimCandidates (List.mem_of_find?_eq_some hm)
      have hrow : t.find m.id = some m := Table.find_eq_some.mpr ⟨hmem, rfl⟩
      have hplan := planClaimed_of_nextInLine hw hkind hm owner leaseSecs
      obtain ⟨hresume, hreported⟩ := hnext m hm
      simp only [planClaimNextJob, hplan, hid]
      refine ⟨(planResult_update hrow hpend _).mpr hreported, _, _, hfind,
        find_update t _ hrow rfl (by simpa [planClaim] using hpend), (sameAttempt_iff hp).mpr ?_⟩
      simpa [hp, Stored.known?] using hresume

lemma written_pendingJob (id : Text) : Written (pendingJob id) :=
  ⟨⟨.scan, rfl, fun _ => by decide⟩, ⟨.network, rfl⟩, ⟨{}, rfl, rfl⟩⟩

theorem plan_claim_refines_fresh :
    ClaimRefines ⟨[pendingJob (utf8 "j")], by simp⟩ .network (utf8 "w") 60 1 := by
  refine (plan_claim_refines_iff ⟨[pendingJob (utf8 "j")], by simp⟩ ?_ .network (utf8 "w") 60 1).mpr ⟨?_, ?_⟩
  · intro r hr
    rw [mem_singleton.mp hr]
    exact written_pendingJob _
  · intro r hr _
    rw [mem_singleton.mp hr]
    decide
  · intro m hm
    obtain rfl : pendingJob (utf8 "j") = m := some.inj hm
    exact ⟨rfl, by unfold ReportedFirst; decide +kernel⟩

def copyJob : JobTable :=
  ⟨[{ pendingJob (utf8 "j") with kind := .known .pluginCopy }], by simp⟩

def suspendedJob : JobTable :=
  ⟨[{ pendingJob (utf8 "j") with attemptCount := 1, leaseGeneration := 1, payload := .known { resumePending := true } }], by simp⟩

theorem plan_claim_diverges :
    (planClaimNextJob copyJob .network (utf8 "w") 60 1).1.rows.map Job.state = [.failed] ∧
      (planClaimNextJob suspendedJob .network (utf8 "w") 60 1).1.rows.map Job.attemptCount = [2] ∧
      ¬ ClaimRefines copyJob .network (utf8 "w") 60 1 ∧ ¬ ClaimRefines suspendedJob .network (utf8 "w") 60 1 := by
  refine ⟨by decide +kernel, by decide +kernel, fun h => ?_, fun h => ?_⟩
  · have := h.claimable _ mem_cons_self rfl (by decide)
    revert this
    decide +kernel
  · have hlocal : ((claimNextJobOn suspendedJob .network (utf8 "w") 60 1).map fun out =>
        (out.2.isSome, out.1.rows.map Job.attemptCount)) = .ok (true, [1]) := by decide +kernel
    have hplan : (planClaimNextJob suspendedJob .network (utf8 "w") 60 1).1.rows.map Job.attemptCount = [2] := by decide +kernel
    cases hout : claimNextJobOn suspendedJob .network (utf8 "w") 60 1 with
    | error e =>
      rw [hout] at hlocal
      cases hlocal
    | ok out =>
      obtain ⟨t', claimed⟩ := out
      rw [hout, Except.map, Except.ok.injEq, Prod.mk.injEq] at hlocal
      obtain ⟨record, rfl⟩ := isSome_iff_exists.mp hlocal.1
      obtain ⟨-, r, r', hr, hr', hsame⟩ := h.claimed t' record hout
      have hone : r.attemptCount = 1 := by
        simpa [hlocal.2] using List.mem_map_of_mem (f := Job.attemptCount) (Table.find_eq_some.mp hr).1
      have htwo : r'.attemptCount = 2 := by
        simpa [hplan] using List.mem_map_of_mem (f := Job.attemptCount) (Table.find_eq_some.mp hr').1
      have := hsame.attemptCount
      omega

end Bookclerk.Jobs
