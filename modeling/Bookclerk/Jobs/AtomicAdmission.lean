import Bookclerk.Jobs.Admission

namespace Bookclerk.Jobs

open Lexical Db List Option

variable {rows : List Job} {key : Text}

def AdmissionRefines (t : JobTable) (spec : EnqueueJobSpec) (id : Text) (now : Stamp) : Prop :=
  ∃ a b, enqueueJobOn t spec id now = .ok a ∧ planEnqueueJob t spec id now = .ok b ∧ a.outcome = b.outcome ∧
    a.inserted.map Job.dedupKey = b.inserted.map Job.dedupKey

def Full (t : JobTable) (spec : EnqueueJobSpec) : Prop :=
  max spec.maxPending 0 ≤ (countActiveJobsOn t.rows : Int)

variable {spec : EnqueueJobSpec}

lemma enqueueJobOn_eq (t : JobTable) (hkind : spec.kind ≠ .invalid) (hv : spec.payload.v = jobPayloadVersion)
    (id : Text) (now : Stamp) :
    enqueueJobOn t spec id now =
      match oldestActive t.rows (spec.kind.dedupKey spec.payload) with
      | some m =>
        match tryMapJob m with
        | .ok record => .ok ⟨.duplicate record.row.id, none⟩
        | .error reason => .error (utf8 "unreadable active job: " ++ reason)
      | none =>
        if max spec.maxPending 0 ≤ (countActiveJobsOn t.rows : Int) then .ok ⟨.queueFull, none⟩
        else .ok ⟨.created id, some (newJob spec id (spec.kind.dedupKey spec.payload) spec.kind.resourceClass now)⟩ := by
  rw [enqueueJobOn, if_neg hkind]
  exact if_neg (not_not.mpr hv)

lemma oldestActive_eq_none : oldestActive rows key = none ↔ activeByDedup rows key = [] := by
  rw [oldestActive, head?_eq_none_iff]
  constructor
  · intro h
    have := length_insertionSort createdBefore (activeByDedup rows key)
    rw [h] at this
    exact length_eq_zero_iff.mp this.symm
  · intro h
    rw [h, insertionSort_nil]

lemma mem_of_oldestActive {m : Job} (h : oldestActive rows key = some m) : m ∈ activeByDedup rows key :=
  (mem_insertionSort _).mp (List.mem_of_mem_head? h)

lemma activeByDedup_append_newJob (h : activeByDedup rows key = []) (spec : EnqueueJobSpec)
    (id : Text) (c : JobResourceClass) (now : Stamp) :
    activeByDedup (rows ++ [newJob spec id key c now]) key = [newJob spec id key c now] := by
  rw [activeByDedup] at h ⊢
  rw [filter_append, h]
  simp [newJob, JobState.isActive]

lemma planEnqueueJob_eq (t : JobTable) (spec : EnqueueJobSpec) (id : Text) (now : Stamp) :
    planEnqueueJob t spec id now =
      match oldestActive t.rows (planDedupKey spec.kind spec.payload.toJson) with
      | some m =>
        if (activeByDedup t.rows (planDedupKey spec.kind spec.payload.toJson)).any (·.createdAt = now) then .ok ⟨.created m.id, none⟩
        else .ok ⟨.duplicate m.id, none⟩
      | none =>
        if max spec.maxPending 0 ≤ (countActiveJobsOn t.rows : Int) then .ok ⟨.queueFull, none⟩
        else .ok ⟨.created id, some (newJob spec id (planDedupKey spec.kind spec.payload.toJson) .network now)⟩ := by
  rw [planEnqueueJob]
  generalize planDedupKey spec.kind spec.payload.toJson = key
  cases hold : oldestActive t.rows key with
  | some m =>
    have hne : activeByDedup t.rows key ≠ [] := ne_nil_of_mem (mem_of_oldestActive hold)
    have hempty : (activeByDedup t.rows key).isEmpty = false := by simpa using hne
    simp only [hempty, Bool.false_and, Bool.false_eq_true, if_false, toList_none, append_nil, hold, planStatus]
    split_ifs <;> rfl
  | none =>
    have hnil := oldestActive_eq_none.mp hold
    by_cases hfull : max spec.maxPending 0 ≤ (countActiveJobsOn t.rows : Int)
    · simp [hnil, hfull, not_lt.mpr hfull, planStatus]
    · have hact := activeByDedup_append_newJob hnil spec id .network now
      have hold' : oldestActive (t.rows ++ [newJob spec id key .network now]) key = some (newJob spec id key .network now) := by
        rw [oldestActive, hact]
        rfl
      have hnow : (newJob spec id key .network now).createdAt = now := rfl
      have hid : (newJob spec id key .network now).id = id := rfl
      simp [hnil, hfull, not_le.mp hfull, planStatus, hold', hact, hnow, hid]

/-- A job of the key is active, the library can read the oldest, and none was created at this instant. -/
def DuplicateSeen (t : JobTable) (key : Text) (now : Stamp) : Prop :=
  ∃ m, oldestActive t.rows key = some m ∧ (∃ record, tryMapJob m = .ok record) ∧
    ∀ r ∈ activeByDedup t.rows key, r.createdAt ≠ now

lemma admissionRefines_iff {t : JobTable} {id : Text} {now : Stamp} {a b : Admission}
    (ha : enqueueJobOn t spec id now = .ok a) (hb : planEnqueueJob t spec id now = .ok b) :
    AdmissionRefines t spec id now ↔ a.outcome = b.outcome ∧ a.inserted.map Job.dedupKey = b.inserted.map Job.dedupKey := by
  simp [AdmissionRefines, ha, hb]

lemma not_admissionRefines {t : JobTable} {id : Text} {now : Stamp} {e : Text}
    (ha : enqueueJobOn t spec id now = .error e) : ¬ AdmissionRefines t spec id now := by
  simp [AdmissionRefines, ha]

section

variable {t : JobTable} {spec : EnqueueJobSpec} (hkind : spec.kind ≠ .invalid) (hv : spec.payload.v = jobPayloadVersion)
  (id : Text) (now : Stamp)

include hkind hv

lemma admissionRefines_of_plainKey (hplain : PlainKey spec) :
    AdmissionRefines t spec id now ↔
      activeByDedup t.rows (spec.kind.dedupKey spec.payload) = [] ∨ DuplicateSeen t (spec.kind.dedupKey spec.payload) now := by
  have ha := enqueueJobOn_eq t hkind hv id now
  have hb := planEnqueueJob_eq t spec id now
  rw [planDedupKey_eq_iff.mpr hplain] at hb
  cases hold : oldestActive t.rows (spec.kind.dedupKey spec.payload) with
  | none =>
    simp only [hold] at ha hb
    refine iff_of_true ?_ (Or.inl (oldestActive_eq_none.mp hold))
    split_ifs at ha hb with hfull
    · simp [admissionRefines_iff ha hb]
    · simp [admissionRefines_iff ha hb, newJob]
  | some m =>
    have hne : activeByDedup t.rows (spec.kind.dedupKey spec.payload) ≠ [] := ne_nil_of_mem (mem_of_oldestActive hold)
    simp only [hold] at ha hb
    simp only [hne, false_or, DuplicateSeen, hold, some.injEq, exists_eq_left']
    cases hmap : tryMapJob m with
    | error reason =>
      rw [hmap] at ha
      refine iff_of_false (not_admissionRefines ha) ?_
      rintro ⟨⟨record, hrecord⟩, -⟩
      cases hrecord
    | ok record =>
      rw [hmap] at ha
      split_ifs at hb with hnow
      · rw [admissionRefines_iff ha hb]
        refine iff_of_false (by simp) ?_
        rintro ⟨-, hnever⟩
        obtain ⟨r, hr, heq⟩ := List.any_eq_true.mp hnow
        exact hnever r hr (by simpa using heq)
      · rw [admissionRefines_iff ha hb]
        refine iff_of_true ⟨by rw [tryMapJob_row hmap], rfl⟩ ⟨⟨record, rfl⟩, fun r hr heq => ?_⟩
        exact hnow (List.any_eq_true.mpr ⟨r, hr, by simpa using heq⟩)

lemma admissionRefines_of_not_plainKey (hplain : ¬ PlainKey spec) :
    AdmissionRefines t spec id now ↔
      Full t spec ∧ activeByDedup t.rows (spec.kind.dedupKey spec.payload) = [] ∧
        activeByDedup t.rows (planDedupKey spec.kind spec.payload.toJson) = [] := by
  have ha := enqueueJobOn_eq t hkind hv id now
  have hb := planEnqueueJob_eq t spec id now
  have hkeys : planDedupKey spec.kind spec.payload.toJson ≠ spec.kind.dedupKey spec.payload := fun h =>
    hplain (planDedupKey_eq_iff.mp h)
  rw [← oldestActive_eq_none, ← oldestActive_eq_none]
  cases hold : oldestActive t.rows (spec.kind.dedupKey spec.payload) with
  | none =>
    cases hold' : oldestActive t.rows (planDedupKey spec.kind spec.payload.toJson) with
    | none =>
      simp only [hold, hold'] at ha hb
      by_cases hfull : max spec.maxPending 0 ≤ (countActiveJobsOn t.rows : Int)
      · rw [if_pos hfull] at ha hb
        simp [admissionRefines_iff ha hb, Full, hfull]
      · rw [if_neg hfull] at ha hb
        simpa [admissionRefines_iff ha hb, Full, hfull, newJob] using hkeys.symm
    | some m' =>
      simp only [hold, hold'] at ha hb
      split_ifs at ha hb <;> simp [admissionRefines_iff ha hb]
  | some m =>
    simp only [hold] at ha
    refine iff_of_false ?_ (fun h => by cases h.2.1)
    cases hmap : tryMapJob m with
    | error reason =>
      rw [hmap] at ha
      exact not_admissionRefines ha
    | ok record =>
      rw [hmap] at ha
      cases hold' : oldestActive t.rows (planDedupKey spec.kind spec.payload.toJson) with
      | none =>
        simp only [hold'] at hb
        split_ifs at hb <;> simp [admissionRefines_iff ha hb]
      | some m' =>
        -- two rows of different keys are two jobs
        have hne : m.id ≠ m'.id := by
          intro heq
          have hm := mem_filter.mp (mem_of_oldestActive hold)
          have hm' := mem_filter.mp (mem_of_oldestActive hold')
          have hkey : m.dedupKey = spec.kind.dedupKey spec.payload := by
            have := hm.2
            simp only [Bool.and_eq_true, decide_eq_true_eq] at this
            exact this.1
          have hkey' : m'.dedupKey = planDedupKey spec.kind spec.payload.toJson := by
            have := hm'.2
            simp only [Bool.and_eq_true, decide_eq_true_eq] at this
            exact this.1
          rw [t.eq_of_key hm.1 hm'.1 heq] at hkey
          exact hkeys (hkey'.symm.trans hkey)
        simp only [hold'] at hb
        split_ifs at hb <;> simp [admissionRefines_iff ha hb, tryMapJob_row hmap, hne]

end

def copySpec (source : Text) : EnqueueJobSpec where
  kind := .pluginCopy
  payload := { pluginId := some (utf8 "p"), sourceKey := some source, destKey := some (utf8 "d") }
  priority := 0
  maxAttempts := 3
  maxPending := 8
  runAfter := none

def scanSpec : EnqueueJobSpec where
  kind := .scan
  payload := {}
  priority := 0
  maxAttempts := 3
  maxPending := 8
  runAfter := none

def copyAdmitted : JobTable :=
  ⟨[newJob (copySpec (utf8 "a")) (utf8 "j") (planDedupKey .pluginCopy (copySpec (utf8 "a")).payload.toJson) .network 0], by simp⟩

end Bookclerk.Jobs
