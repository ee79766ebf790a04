import Bookclerk.Consent.Grant

namespace Bookclerk.Consent

open Str List Option

variable {c got : GrantedEventConsumer} {version : Nat} {filter : Option Str} {eventType : Str}

variable {host : Host} {stored requested : Finset GrantedEventConsumer}

def Delivers (rows : Finset GrantedEventConsumer) (eventType : Str) (filter : Option Str) (version : Nat) (suspend : Bool) : Prop :=
  ∃ c ∈ rows, c.eventType = eventType ∧ c.filter = filter ∧ version ∈ c.schemaVersions ∧ (suspend → c.supportsSuspend)

lemma mem_intersectConsumers :
    c ∈ intersectConsumers stored requested ↔
      ∃ req ∈ requested, ∃ got, firstConsumer stored req.eventType req.filter = some got ∧ got.intersect req = some c := by
  simp only [intersectConsumers, List.mem_toFinset, mem_filterMap, Finset.mem_sort, bind_eq_some_iff]

lemma firstConsumer_some
    (h : firstConsumer stored eventType filter = some got) : got ∈ stored ∧ got.eventType = eventType ∧ got.filter = filter := by
  have hmatch := List.find?_some h
  rw [Bool.and_eq_true, beq_iff_eq, beq_iff_eq] at hmatch
  exact ⟨(Finset.mem_sort _).mp (List.mem_of_find?_eq_some h), hmatch⟩

lemma exists_firstConsumer (h : got ∈ stored) : ∃ first, firstConsumer stored got.eventType got.filter = some first := by
  refine isSome_iff_exists.mp (List.find?_isSome.mpr ⟨got, (Finset.mem_sort _).mpr h, ?_⟩)
  rw [beq_self_eq_true, beq_self_eq_true]
  rfl

lemma intersect_some {req : GrantedEventConsumer} (h : got.intersect req = some c) :
    got.eventType = req.eventType ∧ got.filter = req.filter ∧
      c = { eventType := got.eventType
            schemaVersions := req.schemaVersions.filter (got.schemaVersions.contains ·)
            supportsSuspend := got.supportsSuspend && req.supportsSuspend
            filter := got.filter } := by
  unfold GrantedEventConsumer.intersect at h
  split_ifs at h with hother
  dsimp only at h
  split_ifs at h
  rw [not_or, not_ne_iff, not_ne_iff] at hother
  exact ⟨hother.1, hother.2, (some.inj h).symm⟩

lemma intersect_of_mem {req : GrantedEventConsumer} (htype : got.eventType = req.eventType) (hfilter : got.filter = req.filter) (hgot : version ∈ got.schemaVersions) (hreq : version ∈ req.schemaVersions) :
    got.intersect req =
      some { eventType := got.eventType
             schemaVersions := req.schemaVersions.filter (got.schemaVersions.contains ·)
             supportsSuspend := got.supportsSuspend && req.supportsSuspend
             filter := got.filter } := by
  have hkept : version ∈ req.schemaVersions.filter (got.schemaVersions.contains ·) :=
    mem_filter.mpr ⟨hreq, contains_iff_mem.mpr hgot⟩
  unfold GrantedEventConsumer.intersect
  rw [if_neg (by rw [not_or, not_ne_iff, not_ne_iff]; exact ⟨htype, hfilter⟩), if_neg]
  rintro ⟨hnil, -⟩
  rw [hnil] at hkept
  cases hkept

lemma delivers_intersectConsumers {suspend : Bool} :
    Delivers (intersectConsumers stored requested) eventType filter version suspend ↔
      Delivers requested eventType filter version suspend ∧ ∃ first, firstConsumer stored eventType filter = some first ∧
        version ∈ first.schemaVersions ∧ (suspend → first.supportsSuspend) := by
  constructor
  · rintro ⟨c, hc, rfl, rfl, hversion, hsuspend⟩
    obtain ⟨req, hreq, got, hfirst, hinter⟩ := mem_intersectConsumers.mp hc
    obtain ⟨htype, hfilter, rfl⟩ := intersect_some hinter
    rw [mem_filter, contains_iff_mem] at hversion
    simp only [Bool.and_eq_true] at hsuspend
    refine ⟨⟨req, hreq, htype.symm, hfilter.symm, hversion.1, fun h => (hsuspend h).2⟩, got, ?_, hversion.2, fun h => (hsuspend h).1⟩
    rw [htype, hfilter]
    exact hfirst
  · rintro ⟨⟨req, hreq, rfl, rfl, hversion, hsuspend⟩, first, hfirst, hfirstVersion, hfirstSuspend⟩
    obtain ⟨_, htype, hfilter⟩ := firstConsumer_some hfirst
    refine ⟨_, mem_intersectConsumers.mpr ⟨req, hreq, first, hfirst, intersect_of_mem htype hfilter hfirstVersion hversion⟩,
      htype, hfilter, mem_filter.mpr ⟨hversion, contains_iff_mem.mpr hfirstVersion⟩, fun h => ?_⟩
    rw [hfirstSuspend h, hsuspend h]
    rfl

/-- What the effective grant is to contain: exactly what both sides contain, and nothing pending is missing. -/
structure BothSides (host : Host) (existing requested : PluginGrant) : Prop where
  entrypoints : ∀ x, x ∈ (effectiveGrant host existing requested).entrypoints ↔ x ∈ existing.entrypoints ∧ x ∈ requested.entrypoints
  producers : ∀ x, x ∈ (effectiveGrant host existing requested).producers ↔ x ∈ existing.producers ∧ x ∈ requested.producers
  jobs : ∀ x, x ∈ (effectiveGrant host existing requested).jobs ↔ x ∈ existing.jobs ∧ x ∈ requested.jobs
  bindings : ∀ x, x ∈ (effectiveGrant host existing requested).bindings ↔ x ∈ existing.bindings ∧ x ∈ requested.bindings
  compatibilityFlags : ∀ x, x ∈ (effectiveGrant host existing requested).compatibilityFlags ↔
    x ∈ existing.compatibilityFlags ∧ x ∈ requested.compatibilityFlags
  consumers : ∀ eventType filter version suspend,
    Delivers (effectiveGrant host existing requested).consumers eventType filter version suspend ↔
      Delivers existing.consumers eventType filter version suspend ∧ Delivers requested.consumers eventType filter version suspend
  pending : (pendingStructural existing requested).consumers = ∅ → ∀ c ∈ requested.consumers, ∀ version ∈ c.schemaVersions,
    Delivers (effectiveGrant host existing requested).consumers c.eventType c.filter version c.supportsSuspend

/-- The first stored row of a type and filter has everything that any stored row of them shares with the request. -/
def FirstRowsSuffice (stored requested : Finset GrantedEventConsumer) : Prop :=
  ∀ got ∈ stored, ∀ req ∈ requested, got.eventType = req.eventType → got.filter = req.filter →
    ∀ first, firstConsumer stored got.eventType got.filter = some first →
      ∀ version ∈ got.schemaVersions, version ∈ req.schemaVersions →
        version ∈ first.schemaVersions ∧ (got.supportsSuspend → req.supportsSuspend → first.supportsSuspend)

lemma delivers_iff_of_firstRows (h : FirstRowsSuffice stored requested) (eventType : Str) (filter : Option Str) (version : Nat)
    (suspend : Bool) :
    Delivers (intersectConsumers stored requested) eventType filter version suspend ↔
      Delivers stored eventType filter version suspend ∧ Delivers requested eventType filter version suspend := by
  rw [delivers_intersectConsumers]
  constructor
  · rintro ⟨hreq, first, hfirst, hversion, hsuspend⟩
    obtain ⟨hmem, htype, hfilter⟩ := firstConsumer_some hfirst
    exact ⟨⟨first, hmem, htype, hfilter, hversion, hsuspend⟩, hreq⟩
  · rintro ⟨⟨got, hgot, rfl, rfl, hversion, hsuspend⟩, hreq⟩
    refine ⟨hreq, ?_⟩
    obtain ⟨req, hmem, htype, hfilter, hreqVersion, hreqSuspend⟩ := hreq
    obtain ⟨first, hfirst⟩ := exists_firstConsumer hgot
    obtain ⟨hfirstVersion, hfirstSuspend⟩ :=
      h got hgot req hmem htype.symm hfilter.symm first hfirst version hversion hreqVersion
    exact ⟨first, hfirst, hfirstVersion, fun hs => hfirstSuspend (hsuspend hs) (hreqSuspend hs)⟩

lemma delivers_of_not_pending {existing requested : PluginGrant} (h : (pendingStructural existing requested).consumers = ∅) (hc : c ∈ requested.consumers) (hversion : version ∈ c.schemaVersions) :
    Delivers existing.consumers c.eventType c.filter version c.supportsSuspend := by
  have hcovered : existing.consumers.sort.any (·.covers c) = true := by
    by_contra huncovered
    have hpending : c ∈ (pendingStructural existing requested).consumers :=
      Finset.mem_filter.mpr ⟨hc, by simpa using huncovered⟩
    rw [h] at hpending
    exact Finset.notMem_empty c hpending
  obtain ⟨got, hgot, hcovers⟩ := List.any_eq_true.mp hcovered
  simp only [GrantedEventConsumer.covers, Bool.and_eq_true, beq_iff_eq, List.all_eq_true, contains_iff_mem, Bool.or_eq_true] at hcovers
  obtain ⟨⟨⟨htype, hversions⟩, hsuspend⟩, hfilter⟩ := hcovers
  refine ⟨got, (Finset.mem_sort _).mp hgot, htype, hfilter, hversions version hversion, fun hs => ?_⟩
  rcases hsuspend with hnone | hsome
  · rw [hs] at hnone
    cases hnone
  · exact hsome

theorem effective_has_both_sides_iff (host : Host) (existing requested : PluginGrant) :
    BothSides host existing requested ↔ FirstRowsSuffice existing.consumers requested.consumers := by
  constructor
  · intro h got hgot req hreq htype hfilter first hfirst version hversion hreqVersion
    have hdelivers : ∀ suspend, (suspend = true → got.supportsSuspend ∧ req.supportsSuspend) →
        version ∈ first.schemaVersions ∧ (suspend → first.supportsSuspend) := by
      intro suspend hsuspend
      have hboth := (h.consumers got.eventType got.filter version suspend).mpr
        ⟨⟨got, hgot, rfl, rfl, hversion, fun hs => (hsuspend hs).1⟩,
          ⟨req, hreq, htype.symm, hfilter.symm, hreqVersion, fun hs => (hsuspend hs).2⟩⟩
      obtain ⟨_, first', hfirst', hresult⟩ := delivers_intersectConsumers.mp hboth
      cases hfirst.symm.trans hfirst'
      exact hresult
    refine ⟨(hdelivers false nofun).1, fun hs hr => (hdelivers true fun _ => ⟨hs, hr⟩).2 rfl⟩
  · intro h
    have hconsumers := delivers_iff_of_firstRows h
    refine ⟨fun _ => Finset.mem_inter, fun _ => Finset.mem_inter, fun _ => Finset.mem_inter, fun _ => Finset.mem_inter,
      fun _ => Finset.mem_inter, hconsumers, fun hpending c hc version hversion => ?_⟩
    exact (hconsumers ..).mpr ⟨delivers_of_not_pending hpending hc hversion, c, hc, rfl, rfl, hversion, id⟩

def versionRow (version : Nat) : GrantedEventConsumer :=
  { eventType := "book_acquired".toList, schemaVersions := [version], supportsSuspend := false, filter := none }

def twoRows : PluginGrant :=
  { PluginGrant.empty with consumers := {versionRow 1, versionRow 2} }

lemma firstConsumer_twoRows : firstConsumer twoRows.consumers "book_acquired".toList none = some (versionRow 1) := by
  have hsort : twoRows.consumers.sort = [versionRow 1, versionRow 2] := by
    have hle : ∀ b ∈ ({versionRow 2} : Finset GrantedEventConsumer), versionRow 1 ≤ b := by decide
    have hne : versionRow 1 ∉ ({versionRow 2} : Finset GrantedEventConsumer) := by decide
    exact (Finset.sort_insert _ hle hne).trans (by rw [Finset.sort_singleton])
  rw [firstConsumer, hsort]
  rfl

theorem second_row_not_effective :
    (pendingStructural twoRows twoRows).consumers = ∅ ∧ versionRow 2 ∈ twoRows.consumers ∧
      ¬Delivers (effectiveGrant plainHost twoRows twoRows).consumers "book_acquired".toList none 2 false := by
  refine ⟨?_, by decide, fun h => ?_⟩
  · refine Finset.filter_eq_empty_iff.mpr fun c hc => ?_
    have hcovered : twoRows.consumers.sort.any (·.covers c) = true :=
      List.any_eq_true.mpr ⟨c, (Finset.mem_sort _).mpr hc, covers_self c⟩
    rw [hcovered]
    exact Bool.false_ne_true
  · obtain ⟨_, first, hfirst, hversion, _⟩ := delivers_intersectConsumers.mp h
    cases hfirst.symm.trans firstConsumer_twoRows
    revert hversion
    decide

open Str Egress

section Merge

variable {α : Type} [DecidableEq α]

def kept (added denied current : Finset α) : Finset α :=
  if added = ∅ ∧ denied = ∅ then current else added

lemma notMem_denied_of_mem_kept {current old : Finset α} {x : α} (h : x ∈ kept (current \ old) (old \ current) current) :
    x ∉ old \ current := by
  unfold kept at h
  split_ifs at h with hnone
  · rw [hnone.2]
    exact Finset.notMem_empty x
  · exact fun hx => (Finset.mem_sdiff.mp hx).2 (Finset.mem_sdiff.mp h).1

lemma mergeOperator_agree_iff {F : Set (Finset α)} {current old current₂ old₂ : Finset α} (hempty : ∅ ∈ F) (hold : old ∈ F)
    (hold₂ : old₂ ∈ F) :
    (∀ R ∈ F, mergeOperator (classifiedOperator (current \ old) (old \ current) current R) R =
        mergeOperator (classifiedOperator (current₂ \ old₂) (old₂ \ current₂) current₂ R) R) ↔
      kept (current \ old) (old \ current) current = kept (current₂ \ old₂) (old₂ \ current₂) current₂ ∧
        old \ current = old₂ \ current₂ := by
  constructor
  · intro h
    have hmem : ∀ R ∈ F, ∀ x, ((x ∈ R ∨ x ∈ kept (current \ old) (old \ current) current) ∧ x ∉ old \ current) ↔
        (x ∈ R ∨ x ∈ kept (current₂ \ old₂) (old₂ \ current₂) current₂) ∧ x ∉ old₂ \ current₂ := by
      intro R hR x
      rw [kept, kept, ← mem_mergeOperator, ← mem_mergeOperator, h R hR]
    refine ⟨?_, ?_⟩
    · ext x
      constructor
      · intro hx
        exact ((hmem ∅ hempty x).mp ⟨.inr hx, notMem_denied_of_mem_kept hx⟩).1.resolve_left (Finset.notMem_empty x)
      · intro hx
        exact ((hmem ∅ hempty x).mpr ⟨.inr hx, notMem_denied_of_mem_kept hx⟩).1.resolve_left (Finset.notMem_empty x)
    · ext x
      constructor
      · intro hx
        by_contra hnot
        exact ((hmem old hold x).mpr ⟨.inl (Finset.mem_sdiff.mp hx).1, hnot⟩).2 hx
      · intro hx
        by_contra hnot
        exact ((hmem old₂ hold₂ x).mp ⟨.inl (Finset.mem_sdiff.mp hx).1, hnot⟩).2 hx
  · rintro ⟨hkept, hdenied⟩ R -
    ext x
    rw [mem_mergeOperator, mem_mergeOperator]
    change (x ∈ R ∨ x ∈ kept ..) ∧ _ ↔ (x ∈ R ∨ x ∈ kept ..) ∧ _
    rw [hkept, hdenied]

end Merge

section Rows

def SameRow : Option GrantedEventConsumer → Option GrantedEventConsumer → Prop
  | none, none => True
  | some a, some b => (∀ version, version ∈ a.schemaVersions ↔ version ∈ b.schemaVersions) ∧ a.supportsSuspend = b.supportsSuspend
  | _, _ => False

variable {stored stored' : Finset GrantedEventConsumer}

lemma intersect_congr {a b req : GrantedEventConsumer} (htype : a.eventType = b.eventType) (hfilter : a.filter = b.filter)
    (hversions : ∀ version, version ∈ a.schemaVersions ↔ version ∈ b.schemaVersions) (hsuspend : a.supportsSuspend = b.supportsSuspend) :
    a.intersect req = b.intersect req := by
  have hcontains : (fun v => a.schemaVersions.contains v) = fun v => b.schemaVersions.contains v := by
    funext v
    rw [Bool.eq_iff_iff, contains_iff_mem, contains_iff_mem]
    exact hversions v
  simp only [GrantedEventConsumer.intersect, htype, hfilter, hsuspend, hcontains]

lemma intersectConsumers_congr (h : ∀ t f, SameRow (firstConsumer stored t f) (firstConsumer stored' t f))
    (requested : Finset GrantedEventConsumer) : intersectConsumers stored requested = intersectConsumers stored' requested := by
  unfold intersectConsumers
  congr 2
  funext req
  have hrow := h req.eventType req.filter
  cases hfirst : firstConsumer stored req.eventType req.filter with
  | none =>
    cases hfirst' : firstConsumer stored' req.eventType req.filter with
    | none => rfl
    | some b =>
      rw [hfirst, hfirst'] at hrow
      exact hrow.elim
  | some a =>
    cases hfirst' : firstConsumer stored' req.eventType req.filter with
    | none =>
      rw [hfirst, hfirst'] at hrow
      exact hrow.elim
    | some b =>
      rw [hfirst, hfirst'] at hrow
      obtain ⟨-, htype, hfilter⟩ := firstConsumer_some hfirst
      obtain ⟨-, htype', hfilter'⟩ := firstConsumer_some hfirst'
      exact intersect_congr (htype.trans htype'.symm) (hfilter.trans hfilter'.symm) hrow.1 hrow.2

lemma mem_intersectConsumers_singleton (stored : Finset GrantedEventConsumer) (req c : GrantedEventConsumer) :
    c ∈ intersectConsumers stored {req} ↔ ∃ got, firstConsumer stored req.eventType req.filter = some got ∧ got.intersect req = some c := by
  simp only [mem_intersectConsumers, Finset.mem_singleton, exists_eq_left]

lemma intersect_noVersions (got : GrantedEventConsumer) (suspend : Bool) :
    got.intersect ⟨got.eventType, [], suspend, got.filter⟩ = some ⟨got.eventType, [], got.supportsSuspend && suspend, got.filter⟩ := by
  simp [GrantedEventConsumer.intersect]

lemma version_mem_of_intersect {a b : GrantedEventConsumer} {version : Nat} (hmem : version ∈ a.schemaVersions)
    (h : ∀ c, a.intersect ⟨a.eventType, [version], false, a.filter⟩ = some c →
      b.intersect ⟨a.eventType, [version], false, a.filter⟩ = some c) : version ∈ b.schemaVersions := by
  have hb := h _ (intersect_of_mem rfl rfl hmem mem_cons_self)
  obtain ⟨-, -, hc⟩ := intersect_some hb
  have hkept : version ∈ [version].filter (a.schemaVersions.contains ·) :=
    mem_filter.mpr ⟨mem_cons_self, contains_iff_mem.mpr hmem⟩
  rw [(GrantedEventConsumer.mk.inj hc).2.1, mem_filter, contains_iff_mem] at hkept
  exact hkept.2

lemma sameRow_of_intersect {t : Str} {f : Option Str}
    (h : ∀ versions suspend, versions.length ≤ 1 →
      intersectConsumers stored {⟨t, versions, suspend, f⟩} = intersectConsumers stored' {⟨t, versions, suspend, f⟩}) :
    SameRow (firstConsumer stored t f) (firstConsumer stored' t f) := by
  have hmem : ∀ versions suspend c, versions.length ≤ 1 →
      ((∃ got, firstConsumer stored t f = some got ∧ got.intersect ⟨t, versions, suspend, f⟩ = some c) ↔
        ∃ got, firstConsumer stored' t f = some got ∧ got.intersect ⟨t, versions, suspend, f⟩ = some c) := by
    intro versions suspend c hlen
    have hc := mem_intersectConsumers_singleton stored ⟨t, versions, suspend, f⟩ c
    rw [h versions suspend hlen, mem_intersectConsumers_singleton] at hc
    exact hc.symm
  cases hfirst : firstConsumer stored t f with
  | none =>
    cases hfirst' : firstConsumer stored' t f with
    | none => trivial
    | some b =>
      obtain ⟨-, rfl, rfl⟩ := firstConsumer_some hfirst'
      obtain ⟨got, hgot, -⟩ := (hmem [] true _ (by decide)).mpr ⟨b, hfirst', intersect_noVersions b true⟩
      cases hfirst.symm.trans hgot
  | some a =>
    obtain ⟨-, rfl, rfl⟩ := firstConsumer_some hfirst
    cases hfirst' : firstConsumer stored' a.eventType a.filter with
    | none =>
      obtain ⟨got, hgot, -⟩ := (hmem [] true _ (by decide)).mp ⟨a, hfirst, intersect_noVersions a true⟩
      cases hfirst'.symm.trans hgot
    | some b =>
      obtain ⟨-, htype, hfilter⟩ := firstConsumer_some hfirst'
      simp only [hfirst, hfirst', some.injEq, exists_eq_left'] at hmem
      refine ⟨fun version => ⟨fun hv => ?_, fun hv => ?_⟩, ?_⟩
      · exact version_mem_of_intersect hv fun c => (hmem [version] false c le_rfl).mp
      · refine version_mem_of_intersect hv fun c => ?_
        rw [htype, hfilter]
        exact (hmem [version] false c le_rfl).mpr
      · obtain ⟨-, -, hc⟩ := intersect_some ((hmem [] true _ (by decide)).mp (intersect_noVersions a true))
        have hsuspend := (GrantedEventConsumer.mk.inj hc).2.2.1
        rwa [Bool.and_true, Bool.and_true] at hsuspend

end Rows

section Budgets

lemma clampLimit_idem {default max : Nat} (hdefault : 0 < default) (hmax : default ≤ max) (raw : Option Nat) :
    clampLimit (some (clampLimit raw default max)) default max = clampLimit raw default max := by
  have hset : ∀ n, 0 < n → clampLimit (some n) default max = min n max := by
    intro n hn
    obtain ⟨k, rfl⟩ := Nat.exists_eq_succ_of_ne_zero hn.ne'
    rfl
  have hpos : 0 < clampLimit raw default max ∧ clampLimit raw default max ≤ max := by
    match raw with
    | none => exact ⟨hdefault, hmax⟩
    | some 0 => exact ⟨hdefault, hmax⟩
    | some (n + 1) => exact ⟨lt_min (Nat.succ_pos n) (hdefault.trans_le hmax), min_le_right _ _⟩
  rw [hset _ hpos.1, min_eq_left hpos.2]

section

variable (value : Option Nat)
include value

lemma normalizeCpuMs_idem : normalizeCpuMs (normalizeCpuMs value) = normalizeCpuMs value := by
  cases value with
  | none => rfl
  | some n => exact congrArg some (clampLimit_idem (by decide) (by decide) _)

lemma normalizeSubrequests_idem : normalizeSubrequests (normalizeSubrequests value) = normalizeSubrequests value := by
  cases value with
  | none => rfl
  | some n => exact congrArg some (clampLimit_idem (by decide) (by decide) _)

lemma effectiveDiskMib_idem : effectiveDiskMib (some (effectiveDiskMib value)) = effectiveDiskMib value := by
  simp only [effectiveDiskMib, getD_some]
  omega

lemma effectiveMemoryMib_idem : effectiveMemoryMib (some (effectiveMemoryMib value)) = effectiveMemoryMib value := by
  simp only [effectiveMemoryMib, getD_some]
  omega

end

lemma effectiveCpuRatePercent_map (host : Host) (value : Option Nat) :
    effectiveCpuRatePercent host (value.map fun v => effectiveCpuRatePercent host (some v)) = effectiveCpuRatePercent host value := by
  cases value with
  | none => rfl
  | some v =>
    simp only [effectiveCpuRatePercent, map_some, getD_some]
    omega

lemma effectiveExtraProcesses_map (value : Option Nat) :
    effectiveExtraProcesses (value.map fun v => effectiveExtraProcesses (some v)) = effectiveExtraProcesses value := by
  cases value with
  | none => rfl
  | some v =>
    simp only [effectiveExtraProcesses, map_some, getD_some]
    omega

end Budgets

end Bookclerk.Consent
