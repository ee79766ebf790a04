import Bookclerk.Consent.Authority
import Bookclerk.Consent.Removed
import Bookclerk.Consent.Revision

namespace Bookclerk.Consent

open Str Egress Codec List Finset

/-- The two grants allow the same; budgets count as the host applies them. -/
structure Agree (host : Host) (E E' : PluginGrant) : Prop where
  entrypoints : E.entrypoints = E'.entrypoints
  producers : E.producers = E'.producers
  consumers : E.consumers = E'.consumers
  jobs : E.jobs = E'.jobs
  bindings : E.bindings = E'.bindings
  compatibilityFlags : E.compatibilityFlags = E'.compatibilityFlags
  cpuMs : E.cpuMs = E'.cpuMs
  subrequests : E.subrequests = E'.subrequests
  diskMib : effectiveDiskMib E.diskMib = effectiveDiskMib E'.diskMib
  memoryMib : effectiveMemoryMib E.memoryMib = effectiveMemoryMib E'.memoryMib
  cpuRatePercent : effectiveCpuRatePercent host E.cpuRatePercent = effectiveCpuRatePercent host E'.cpuRatePercent
  extraProcesses : effectiveExtraProcesses E.extraProcesses = effectiveExtraProcesses E'.extraProcesses
  egressPolicy : E.egressPolicy = E'.egressPolicy

structure SameAuthority (host : Host) (g g' : PluginGrant) : Prop where
  entrypoints : g.entrypoints = g'.entrypoints
  producers : g.producers = g'.producers
  consumers : ∀ eventType filter, SameRow (firstConsumer g.consumers eventType filter) (firstConsumer g'.consumers eventType filter)
  jobs : g.jobs = g'.jobs
  bindings : g.bindings = g'.bindings
  compatibilityFlags : g.compatibilityFlags = g'.compatibilityFlags
  cpuMs : g.cpuMs = g'.cpuMs
  subrequests : g.subrequests = g'.subrequests
  diskMib : effectiveDiskMib g.diskMib = effectiveDiskMib g'.diskMib
  memoryMib : effectiveMemoryMib g.memoryMib = effectiveMemoryMib g'.memoryMib
  cpuRatePercent : effectiveCpuRatePercent host g.cpuRatePercent = effectiveCpuRatePercent host g'.cpuRatePercent
  extraProcesses : effectiveExtraProcesses g.extraProcesses = effectiveExtraProcesses g'.extraProcesses
  networkMode : g.networkMode = g'.networkMode
  domains : kept g.operatorAddedDomains g.operatorDeniedDomains g.domains =
      kept g'.operatorAddedDomains g'.operatorDeniedDomains g'.domains ∧ g.operatorDeniedDomains = g'.operatorDeniedDomains
  tcp : kept g.operatorAddedTcp g.operatorDeniedTcp g.tcp = kept g'.operatorAddedTcp g'.operatorDeniedTcp g'.tcp ∧
    g.operatorDeniedTcp = g'.operatorDeniedTcp
  cidrs : kept g.operatorAddedCidrs g.operatorDeniedCidrs g.addressCidrs =
      kept g'.operatorAddedCidrs g'.operatorDeniedCidrs g'.addressCidrs ∧ g.operatorDeniedCidrs = g'.operatorDeniedCidrs
  redirects : g.operatorAllowUndeclaredPublicRedirects = g'.operatorAllowUndeclaredPublicRedirects

def EditsAgainst {α : Type} [DecidableEq α] (requests : PluginManifest → Finset α) (added denied current : Finset α) : Prop :=
  ∃ m, added = current \ requests m ∧ denied = requests m \ current

structure Validated (host : Host) (g : PluginGrant) : Prop where
  entrypoints : ∃ m : PluginManifest, g.entrypoints ⊆ (m.entrypoints.map Entrypoint.wireName).toFinset
  networkMode : g.networkMode = "deny".toList ∨ g.networkMode = "outbound".toList
  bindings : ∀ binding ∈ g.bindings, binding ∈ knownHostBindings ∨ ∃ name, binding = databaseBindingPrefix ++ name
  cpuMs : normalizeCpuMs g.cpuMs = g.cpuMs
  subrequests : normalizeSubrequests g.subrequests = g.subrequests
  domains : EditsAgainst (requestedDomains host) g.operatorAddedDomains g.operatorDeniedDomains g.domains
  tcp : EditsAgainst (requestedTcp host) g.operatorAddedTcp g.operatorDeniedTcp g.tcp
  cidrs : EditsAgainst (requestedCidrs host) g.operatorAddedCidrs g.operatorDeniedCidrs g.addressCidrs

lemma validated_of_validate {host : Host} {m : PluginManifest} {key t t' : Str} {approved g : PluginGrant}
    (h : validateApprovedGrant host approved (consentRequest host m key t) t' = .ok g) : Validated host g := by
  obtain ⟨hcheck, domains, -, rfl⟩ := approvedGrant_of_validate h
  obtain ⟨hentrypoints, hmode, hbindings⟩ := of_checkDraft hcheck
  refine ⟨⟨m, hentrypoints⟩, networkMode_of_check hmode, ?_, normalizeCpuMs_idem _, normalizeSubrequests_idem _, ⟨m, rfl, rfl⟩,
    ⟨m, rfl, rfl⟩, ⟨m, rfl, rfl⟩⟩
  intro binding hbinding
  obtain ⟨raw, hraw, rfl⟩ := mem_image.mp hbinding
  exact normalizeBinding_of_check (hbindings raw hraw)

lemma Validated.networkMode_ne_nil {host : Host} {g : PluginGrant} (h : Validated host g) : g.networkMode ≠ [] := by
  rcases h.networkMode with h | h <;> rw [h] <;> decide

def redirectManifest (allow : Bool) : PluginManifest :=
  { fetchManifest [] with network := { (fetchManifest []).network with allowUndeclaredPublicRedirects := allow } }

lemma getD_inj {a b : Option Bool} (h : ∀ d, a.getD d = b.getD d) : a = b := by
  cases a <;> cases b <;> simp_all

section Requests

variable {host : Host} {g g' : PluginGrant} {key : Str}

lemma eq_of_inter {F : PluginManifest → Finset Str} {s t : Finset Str} (hs : ∀ x ∈ s, ∃ m, x ∈ F m) (ht : ∀ x ∈ t, ∃ m, x ∈ F m)
    (h : ∀ m, s ∩ F m = t ∩ F m) : s = t := by
  have hsub : ∀ {s t : Finset Str}, (∀ x ∈ s, ∃ m, x ∈ F m) → (∀ m, s ∩ F m = t ∩ F m) → s ⊆ t := by
    intro s t hs h x hx
    obtain ⟨m, hm⟩ := hs x hx
    have hmem : x ∈ s ∩ F m := mem_inter.mpr ⟨hx, hm⟩
    rw [h m] at hmem
    exact (mem_inter.mp hmem).1
  exact subset_antisymm (hsub hs h) (hsub ht fun m => (h m).symm)

lemma merged_agree_iff {α : Type} [DecidableEq α] {requests : PluginManifest → Finset α} (hnone : requests (fetchManifest []) = ∅)
    {added denied current added' denied' current' : Finset α} (h : EditsAgainst requests added denied current)
    (h' : EditsAgainst requests added' denied' current') :
    (∀ m, mergeOperator (classifiedOperator added denied current (requests m)) (requests m) =
        mergeOperator (classifiedOperator added' denied' current' (requests m)) (requests m)) ↔
      kept added denied current = kept added' denied' current' ∧ denied = denied' := by
  obtain ⟨m, rfl, rfl⟩ := h
  obtain ⟨m', rfl, rfl⟩ := h'
  rw [← mergeOperator_agree_iff (F := Set.range requests) ⟨_, hnone⟩ ⟨m, rfl⟩ ⟨m', rfl⟩, Set.forall_mem_range]

def SamePolicies (host : Host) (key : Str) (g g' : PluginGrant) : Prop :=
  ∀ m now, (effectiveGrant host g (consentRequest host m key now)).egressPolicy =
    (effectiveGrant host g' (consentRequest host m key now)).egressPolicy

lemma requestedManifestDomains_consentRequest (host : Host) (m : PluginManifest) (now : Str) :
    (consentRequest host m key now).requestedManifestDomains = requestedDomains host m :=
  ite_id _

lemma samePolicies_iff (key : Str) (hg : Validated host g) (hg' : Validated host g') : SamePolicies host key g g' ↔
    g.networkMode = g'.networkMode ∧
    (kept g.operatorAddedDomains g.operatorDeniedDomains g.domains =
      kept g'.operatorAddedDomains g'.operatorDeniedDomains g'.domains ∧ g.operatorDeniedDomains = g'.operatorDeniedDomains) ∧
    (kept g.operatorAddedTcp g.operatorDeniedTcp g.tcp = kept g'.operatorAddedTcp g'.operatorDeniedTcp g'.tcp ∧
      g.operatorDeniedTcp = g'.operatorDeniedTcp) ∧
    (kept g.operatorAddedCidrs g.operatorDeniedCidrs g.addressCidrs =
      kept g'.operatorAddedCidrs g'.operatorDeniedCidrs g'.addressCidrs ∧ g.operatorDeniedCidrs = g'.operatorDeniedCidrs) ∧
    g.operatorAllowUndeclaredPublicRedirects = g'.operatorAllowUndeclaredPublicRedirects := by
  rw [← merged_agree_iff rfl hg.domains hg'.domains, ← merged_agree_iff rfl hg.tcp hg'.tcp, ← merged_agree_iff rfl hg.cidrs hg'.cidrs]
  constructor
  · intro h
    refine ⟨?_, fun m => ?_, fun m => ?_, fun m => ?_, ?_⟩
    · have hmode := congrArg EgressPolicy.mode (h (fetchManifest []) [])
      rw [mode_effectiveGrant host _ hg.networkMode_ne_nil, mode_effectiveGrant host _ hg'.networkMode_ne_nil] at hmode
      rcases hg.networkMode with hm | hm <;> rcases hg'.networkMode with hm' | hm' <;> rw [hm, hm']
      · simp only [PluginGrant.egressPolicy, hm, hm'] at hmode
        exact absurd hmode (by decide)
      · simp only [PluginGrant.egressPolicy, hm, hm'] at hmode
        exact absurd hmode (by decide)
    · exact requestedManifestDomains_consentRequest host m [] ▸ sort_inj (congrArg EgressPolicy.domains (h m []))
    · exact sort_inj (congrArg EgressPolicy.tcp (h m []))
    · exact sort_inj (congrArg EgressPolicy.addressCidrs (h m []))
    · have hredirects : ∀ b, g.operatorAllowUndeclaredPublicRedirects.getD b = g'.operatorAllowUndeclaredPublicRedirects.getD b :=
        fun b => congrArg EgressPolicy.allowUndeclaredPublicRedirects (h (redirectManifest b) [])
      exact getD_inj hredirects
  · rintro ⟨hmode, hdomains, htcp, hcidrs, hredirects⟩ m now
    have hd : mergeNetworkDomains g (consentRequest host m key now) = mergeNetworkDomains g' (consentRequest host m key now) := by
      rw [mergeNetworkDomains, mergeNetworkDomains, classifiedOperatorNetwork, classifiedOperatorNetwork,
        requestedManifestDomains_consentRequest]
      exact hdomains m
    have ht : mergeTcp g (consentRequest host m key now) = mergeTcp g' (consentRequest host m key now) := htcp m
    have hc : mergeCidrs g (consentRequest host m key now) = mergeCidrs g' (consentRequest host m key now) := hcidrs m
    simp only [PluginGrant.egressPolicy, effectiveGrant, if_neg hg'.networkMode_ne_nil, hmode, hd, ht, hc, hredirects]

def bindingManifest (databases : List Str) : PluginManifest :=
  { fetchManifest [] with
    bindings := { config := true, secrets := true, pluginKv := true, workFs := true, oauth := true, databases := databases } }

def consumerManifest (c : EventConsumer) : PluginManifest :=
  { fetchManifest [] with consumers := [c] }

lemma exists_binding (hg : Validated host g) {binding : Str} (h : binding ∈ g.bindings) :
    ∃ m : PluginManifest, binding ∈ (bindingNames m.bindings).toFinset := by
  rcases hg.bindings binding h with hknown | ⟨name, rfl⟩
  · refine ⟨bindingManifest [], mem_toFinset.mpr ?_⟩
    clear h
    revert binding
    decide
  · refine ⟨bindingManifest [name], mem_toFinset.mpr (mem_append_right _ ?_)⟩
    exact mem_cons_self

lemma requested_row {t : Str} {f : Option Str} {versions : List Nat} (suspend : Bool) (h : versions.length ≤ 1) (now : Str) :
    (consentRequest host (consumerManifest ⟨t, versions, suspend, f.map some⟩) key now).consumers = {⟨t, versions, suspend, f⟩} := by
  have hsort : versions.toFinset.sort = versions := by
    match versions, h with
    | [], _ => exact sort_empty _
    | [v], _ => exact sort_singleton _ v
  have hfilter : canonicalEventFilter (f.map some) = f := by
    cases f <;> rfl
  have hrow : GrantedEventConsumer.fromManifest ⟨t, versions, suspend, f.map some⟩ = ⟨t, versions, suspend, f⟩ := by
    simp only [GrantedEventConsumer.fromManifest, hsort, hfilter]
  change ([GrantedEventConsumer.fromManifest _].toFinset : Finset GrantedEventConsumer) = _
  rw [hrow]
  rfl

theorem agree_iff_sameAuthority (hg : Validated host g) (hg' : Validated host g') :
    (∀ m now, Agree host (effectiveGrant host g (consentRequest host m key now)) (effectiveGrant host g' (consentRequest host m key now))) ↔
      SameAuthority host g g' := by
  constructor
  · intro h
    have hpolicies := (samePolicies_iff key hg hg').mp fun m now => (h m now).egressPolicy
    obtain ⟨hmode, hdomains, htcp, hcidrs, hredirects⟩ := hpolicies
    have hbase := h (fetchManifest []) []
    refine
      { entrypoints := ?_, producers := ?_, consumers := ?_, jobs := ?_, bindings := ?_, compatibilityFlags := ?_
        cpuMs := ?_, subrequests := ?_, diskMib := ?_, memoryMib := ?_, cpuRatePercent := ?_, extraProcesses := ?_
        networkMode := hmode, domains := hdomains, tcp := htcp, cidrs := hcidrs, redirects := hredirects }
    · refine eq_of_inter ?_ ?_ fun m => (h m []).entrypoints
      · intro x hx
        obtain ⟨m, hm⟩ := hg.entrypoints
        exact ⟨m, hm hx⟩
      · intro x hx
        obtain ⟨m, hm⟩ := hg'.entrypoints
        exact ⟨m, hm hx⟩
    · have hany : ∀ x : Str, ∃ m : PluginManifest, x ∈ m.producers.toFinset :=
        fun x => ⟨{ fetchManifest [] with producers := [x] }, mem_toFinset.mpr mem_cons_self⟩
      exact eq_of_inter (fun x _ => hany x) (fun x _ => hany x) fun m => (h m []).producers
    · intro t f
      refine sameRow_of_intersect fun versions suspend hlen => ?_
      have hc := (h (consumerManifest ⟨t, versions, suspend, f.map some⟩) []).consumers
      simp only [effectiveGrant, requested_row suspend hlen] at hc
      exact hc
    · have hany : ∀ x : Str, ∃ m : PluginManifest, x ∈ m.jobs.toFinset :=
        fun x => ⟨{ fetchManifest [] with jobs := [x] }, mem_toFinset.mpr mem_cons_self⟩
      exact eq_of_inter (fun x _ => hany x) (fun x _ => hany x) fun m => (h m []).jobs
    · exact eq_of_inter (fun x hx => exists_binding hg hx) (fun x hx => exists_binding hg' hx) fun m => (h m []).bindings
    · have hany : ∀ x : Str, ∃ m : PluginManifest, x ∈ ((m.workerd.map WorkerdRuntimeManifest.compatibilityFlags).getD []).toFinset :=
        fun x => ⟨{ fetchManifest [] with workerd := some ⟨[], [x], {}⟩ }, mem_toFinset.mpr mem_cons_self⟩
      exact eq_of_inter (fun x _ => hany x) (fun x _ => hany x) fun m => (h m []).compatibilityFlags
    · rw [← hg.cpuMs, ← hg'.cpuMs]
      exact hbase.cpuMs
    · rw [← hg.subrequests, ← hg'.subrequests]
      exact hbase.subrequests
    · rw [← effectiveDiskMib_idem, ← effectiveDiskMib_idem g'.diskMib]
      exact hbase.diskMib
    · rw [← effectiveMemoryMib_idem, ← effectiveMemoryMib_idem g'.memoryMib]
      exact hbase.memoryMib
    · rw [← effectiveCpuRatePercent_map, ← effectiveCpuRatePercent_map host g'.cpuRatePercent]
      exact hbase.cpuRatePercent
    · rw [← effectiveExtraProcesses_map, ← effectiveExtraProcesses_map g'.extraProcesses]
      exact hbase.extraProcesses
  · intro h m now
    have hpolicies : SamePolicies host key g g' :=
      (samePolicies_iff key hg hg').mpr ⟨h.networkMode, h.domains, h.tcp, h.cidrs, h.redirects⟩
    refine
      { entrypoints := ?_, producers := ?_, consumers := intersectConsumers_congr h.consumers _, jobs := ?_, bindings := ?_
        compatibilityFlags := ?_, cpuMs := ?_, subrequests := ?_, diskMib := ?_, memoryMib := ?_, cpuRatePercent := ?_
        extraProcesses := ?_, egressPolicy := hpolicies m now }
    · simp only [effectiveGrant, h.entrypoints]
    · simp only [effectiveGrant, h.producers]
    · simp only [effectiveGrant, h.jobs]
    · simp only [effectiveGrant, h.bindings]
    · simp only [effectiveGrant, h.compatibilityFlags]
    · simp only [effectiveGrant, h.cpuMs]
    · simp only [effectiveGrant, h.subrequests]
    · simp only [effectiveGrant, h.diskMib]
    · simp only [effectiveGrant, h.memoryMib]
    · simp only [effectiveGrant, effectiveCpuRatePercent_map, h.cpuRatePercent]
    · simp only [effectiveGrant, effectiveExtraProcesses_map, h.extraProcesses]

end Requests

section Revisions

def RevisionTellsAuthority (sha256 : ByteArray → Str) (host : Host) (key : Str) (g g' : PluginGrant) : Prop :=
  grantRevision sha256 host g = grantRevision sha256 host g' → ∀ m now,
    Agree host (effectiveGrant host g (consentRequest host m key now)) (effectiveGrant host g' (consentRequest host m key now))

lemma sameRow_refl (row : Option GrantedEventConsumer) : SameRow row row := by
  cases row with
  | none => trivial
  | some a => exact ⟨fun _ => Iff.rfl, rfl⟩

variable {host : Host}

lemma sameAuthority_iff_of_recorded {g g' : PluginGrant} (h : SameRecorded host g g') :
    SameAuthority host g g' ↔ g.operatorAllowUndeclaredPublicRedirects = g'.operatorAllowUndeclaredPublicRedirects := by
  refine ⟨fun hsame => hsame.redirects, fun hredirects => ?_⟩
  refine
    { entrypoints := h.entrypoints, producers := h.producers, consumers := fun t f => ?_, jobs := h.jobs, bindings := h.bindings
      compatibilityFlags := h.compatibilityFlags, cpuMs := h.cpuMs, subrequests := h.subrequests, diskMib := h.diskMib
      memoryMib := h.memoryMib, cpuRatePercent := h.cpuRatePercent, extraProcesses := h.extraProcesses
      networkMode := h.networkMode, domains := ⟨?_, h.operatorDeniedDomains⟩, tcp := ⟨?_, h.operatorDeniedTcp⟩
      cidrs := ⟨?_, h.operatorDeniedCidrs⟩, redirects := hredirects }
  · rw [h.consumers]
    exact sameRow_refl _
  · rw [h.operatorAddedDomains, h.operatorDeniedDomains, h.domains]
  · rw [h.operatorAddedTcp, h.operatorDeniedTcp, h.tcp]
  · rw [h.operatorAddedCidrs, h.operatorDeniedCidrs, h.addressCidrs]

lemma pluginKey_of_validate {m : PluginManifest} {key t t' : Str} {approved g : PluginGrant}
    (h : validateApprovedGrant host approved (consentRequest host m key t) t' = .ok g) : g.pluginKey = key := by
  obtain ⟨-, domains, -, rfl⟩ := approvedGrant_of_validate h
  rfl

theorem revision_tells_authority_iff (sha256 : ByteArray → Str) (hsha : Function.Injective sha256) (host : Host)
    (old old' : PluginManifest) (key t u t' u' : Str) (approved approved' g g' : PluginGrant)
    (h : validateApprovedGrant host approved (consentRequest host old key t) u = .ok g)
    (h' : validateApprovedGrant host approved' (consentRequest host old' key t') u' = .ok g') :
    (RevisionTellsAuthority sha256 host key g g' ↔
      (hashInput host "grant".toList g = hashInput host "grant".toList g' → SameAuthority host g g')) ∧
    (PlainTexts g → PlainTexts g' → (RevisionTellsAuthority sha256 host key g g' ↔
      (SameRecorded host g g' → g.operatorAllowUndeclaredPublicRedirects = g'.operatorAllowUndeclaredPublicRedirects))) := by
  have hiff : RevisionTellsAuthority sha256 host key g g' ↔
      (hashInput host "grant".toList g = hashInput host "grant".toList g' → SameAuthority host g g') := by
    unfold RevisionTellsAuthority grantRevision
    rw [hashGrant_eq_iff hsha, agree_iff_sameAuthority (validated_of_validate h) (validated_of_validate h')]
  refine ⟨hiff, fun hplain hplain' => ?_⟩
  have hkey : g.pluginKey = g'.pluginKey := (pluginKey_of_validate h).trans (pluginKey_of_validate h').symm
  rw [hiff, hashInput_eq_iff hplain hplain' hkey]
  exact imp_congr_right sameAuthority_iff_of_recorded

def redirectRequest (allow : Bool) : PluginGrant :=
  consentRequest plainHost (redirectManifest allow) "key".toList []

def redirectDraft (requested : Bool) : PluginGrant :=
  { redirectRequest requested with allowUndeclaredPublicRedirects := false }

def redirectGrant (requested : Bool) : PluginGrant :=
  approvedGrant plainHost (redirectDraft requested) (redirectRequest requested) ∅ []

lemma validate_redirectDraft (requested : Bool) :
    validateApprovedGrant plainHost (redirectDraft requested) (redirectRequest requested) [] = .ok (redirectGrant requested) := by
  have hcheck : checkDraft (redirectDraft requested) (redirectRequest requested) = .ok () :=
    checkDraft_consentRequest plainHost (redirectManifest requested) "key".toList [] nofun
  have hdomains : (redirectDraft requested).domains.sort = [] := sort_empty _
  rw [validateApprovedGrant, hcheck, hdomains]
  rfl

def tcpDraft (tcp : Finset TcpGrant) : PluginGrant :=
  { fetchRequest [] with tcp := tcp }

def tcpGrant (tcp : Finset TcpGrant) : PluginGrant :=
  approvedGrant plainHost (tcpDraft tcp) (fetchRequest []) ∅ []

lemma validate_tcpDraft (tcp : Finset TcpGrant) :
    validateApprovedGrant plainHost (tcpDraft tcp) (fetchRequest []) [] = .ok (tcpGrant tcp) := by
  have hcheck : checkDraft (tcpDraft tcp) (fetchRequest []) = .ok () :=
    checkDraft_consentRequest plainHost (fetchManifest []) "key".toList [] nofun
  have hdomains : (tcpDraft tcp).domains.sort = [] := sort_empty _
  rw [validateApprovedGrant, hcheck, hdomains]
  rfl

def twoHosts : Finset TcpGrant :=
  {⟨"a".toList, [1]⟩, ⟨"b".toList, [2]⟩}

def oneHost : Finset TcpGrant :=
  {⟨"a:1,;b".toList, [2]⟩}

lemma hashTcpGrants_twoHosts : hashTcpGrants twoHosts = hashTcpGrants oneHost := by
  have hsort : twoHosts.sort = [⟨"a".toList, [1]⟩, ⟨"b".toList, [2]⟩] := by
    have hle : ∀ t ∈ ({⟨"b".toList, [2]⟩} : Finset TcpGrant), (⟨"a".toList, [1]⟩ : TcpGrant) ≤ t := by decide
    have hne : (⟨"a".toList, [1]⟩ : TcpGrant) ∉ ({⟨"b".toList, [2]⟩} : Finset TcpGrant) := by decide
    exact (sort_insert _ hle hne).trans (by rw [sort_singleton])
  rw [hashTcpGrants, hsort, hashTcpGrants, oneHost, sort_singleton]
  rfl

lemma hashInput_tcpGrant (tcp tcp' : Finset TcpGrant) (h : hashTcpGrants tcp = hashTcpGrants tcp') (kind : Str) :
    hashInput plainHost kind (tcpGrant tcp) = hashInput plainHost kind (tcpGrant tcp') := by
  have hadded : ∀ tcp, (tcpGrant tcp).operatorAddedTcp = tcp := fun tcp => sdiff_empty
  have hdenied : ∀ tcp, (tcpGrant tcp).operatorDeniedTcp = ∅ := fun tcp => empty_sdiff tcp
  have htcp : ∀ tcp, (tcpGrant tcp).tcp = tcp := fun tcp => rfl
  simp only [hashInput, grantLines, hadded, hdenied, htcp, h]
  rfl

lemma not_agree_of_policy {E E' : PluginGrant} (h : E.egressPolicy ≠ E'.egressPolicy) : ¬Agree host E E' :=
  fun hagree => h hagree.egressPolicy

theorem revision_shared_by_different_grants :
    (∀ requested, validateApprovedGrant plainHost (redirectDraft requested) (redirectRequest requested) [] = .ok (redirectGrant requested)) ∧
      (∀ sha256, grantRevision sha256 plainHost (redirectGrant true) = grantRevision sha256 plainHost (redirectGrant false)) ∧
      ¬Agree plainHost (effectiveGrant plainHost (redirectGrant true) (redirectRequest true))
        (effectiveGrant plainHost (redirectGrant false) (redirectRequest true)) ∧
      (∀ tcp, validateApprovedGrant plainHost (tcpDraft tcp) (fetchRequest []) [] = .ok (tcpGrant tcp)) ∧
      (∀ sha256, grantRevision sha256 plainHost (tcpGrant twoHosts) = grantRevision sha256 plainHost (tcpGrant oneHost)) ∧
      ¬Agree plainHost (effectiveGrant plainHost (tcpGrant twoHosts) (fetchRequest []))
        (effectiveGrant plainHost (tcpGrant oneHost) (fetchRequest [])) := by
  refine ⟨validate_redirectDraft, fun sha256 => rfl, not_agree_of_policy fun h => ?_, validate_tcpDraft, fun sha256 => ?_,
    not_agree_of_policy fun h => ?_⟩
  · exact absurd (congrArg EgressPolicy.allowUndeclaredPublicRedirects h) (by decide)
  · rw [grantRevision, grantRevision, hashGrant, hashGrant, hashInput_tcpGrant _ _ hashTcpGrants_twoHosts]
  · have htcp : mergeTcp (tcpGrant twoHosts) (fetchRequest []) = mergeTcp (tcpGrant oneHost) (fetchRequest []) :=
      sort_inj (congrArg EgressPolicy.tcp h)
    exact absurd htcp (by decide)

def bytesAsText (b : ByteArray) : Str :=
  terminated ',' (b.data.toList.map fun byte => decimal byte.toNat)

lemma bytesAsText_injective : Function.Injective bytesAsText := by
  intro b c h
  refine ByteArray.ext (Array.toList_inj.mp (terminated_map_inj ?_ ?_ ?_ h))
  · exact fun byte _ => notMem_decimal (by decide) byte.toNat
  · exact fun byte _ => notMem_decimal (by decide) byte.toNat
  · exact fun byte _ byte' _ hbyte => UInt8.toNat_inj.mp (decimal_inj hbyte)

theorem redirect_override_not_told :
    ¬RevisionTellsAuthority bytesAsText plainHost "key".toList (redirectGrant true) (redirectGrant false) := by
  intro h
  have hsame := (revision_tells_authority_iff bytesAsText bytesAsText_injective plainHost (redirectManifest true)
    (redirectManifest false) "key".toList [] [] [] [] (redirectDraft true) (redirectDraft false) (redirectGrant true)
    (redirectGrant false) (validate_redirectDraft true) (validate_redirectDraft false)).1.mp h rfl
  exact absurd hsame.redirects (by decide)

theorem grants_told_apart_iff (host : Host) (old old' : PluginManifest) (key t u t' u' : Str) (approved approved' g g' : PluginGrant)
    (h : validateApprovedGrant host approved (consentRequest host old key t) u = .ok g)
    (h' : validateApprovedGrant host approved' (consentRequest host old' key t') u' = .ok g') :
    (∃ m now, ¬Agree host (effectiveGrant host g (consentRequest host m key now)) (effectiveGrant host g' (consentRequest host m key now))) ↔
      ¬SameAuthority host g g' := by
  rw [← agree_iff_sameAuthority (validated_of_validate h) (validated_of_validate h')]
  simp only [not_forall]
  rfl

theorem redirect_grants_told_apart :
    ∃ m now, ¬Agree plainHost (effectiveGrant plainHost (redirectGrant true) (consentRequest plainHost m "key".toList now))
      (effectiveGrant plainHost (redirectGrant false) (consentRequest plainHost m "key".toList now)) := by
  refine (grants_told_apart_iff plainHost (redirectManifest true) (redirectManifest false) "key".toList [] [] [] [] (redirectDraft true)
    (redirectDraft false) (redirectGrant true) (redirectGrant false) (validate_redirectDraft true) (validate_redirectDraft false)).mpr fun h => ?_
  exact absurd h.redirects (by decide)

end Revisions

end Bookclerk.Consent
