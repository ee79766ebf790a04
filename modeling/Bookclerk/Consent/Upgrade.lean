import Bookclerk.Consent.Grant

namespace Bookclerk.Consent

open Str Egress List

def knownHostBindings : List Str :=
  ["config".toList, "secrets".toList, "plugin_kv".toList, "work_fs".toList, "oauth".toList]

def databaseBindingName (binding : Str) : Option Str :=
  binding.dropPrefix? databaseBindingPrefix

def isAsciiUppercase (c : Char) : Bool :=
  'A' ≤ c && c ≤ 'Z'

def isAsciiDigit (c : Char) : Bool :=
  '0' ≤ c && c ≤ '9'

/-- The pattern `[A-Z][A-Z0-9_]*`, at most 32 bytes long; all its characters are one byte. -/
def isValidDatabaseBindingName (name : Str) : Bool :=
  name ≠ [] && name.length ≤ 32 && name.all (fun c => c == '_' || isAsciiUppercase c || isAsciiDigit c) &&
    name.head?.any isAsciiUppercase

def firstExtra (approved baseline : Finset Str) : Option Str :=
  (approved \ baseline).sort.head?

def requireDeclared (approved baseline : Finset Str) (msg : Str → String) : Except String Unit :=
  match firstExtra approved baseline with
  | some extra => .error (msg extra)
  | none => .ok ()

def checkBinding (baseline : Finset Str) (binding : Str) : Except String Unit :=
  match databaseBindingName binding with
  | some name =>
    if !isValidDatabaseBindingName name then
      .error s!"invalid database binding name `{String.ofList name}` (expected [A-Z][A-Z0-9_]*)"
    else if binding ∉ baseline then
      .error s!"grant database binding `{String.ofList binding}` is not declared by plugin.toml"
    else .ok ()
  | none =>
    match knownHostBindings.find? (eqIgnoreAsciiCase binding ·) with
    | none => .error s!"unknown host binding `{String.ofList binding}`"
    | some known =>
      if !baseline.sort.any fun b => eqIgnoreAsciiCase b known || b == binding then
        .error s!"grant binding `{String.ofList binding}` is not declared by plugin.toml (structural authority)"
      else .ok ()

def normalizeBinding (binding : Str) : Str :=
  match databaseBindingName binding with
  | some _ => binding
  | none => (knownHostBindings.find? (eqIgnoreAsciiCase binding ·)).getD (toAsciiLowercase binding)

def checkNetworkMode (mode : Str) : Except String Unit :=
  if !eqIgnoreAsciiCase mode "deny".toList && !eqIgnoreAsciiCase mode "outbound".toList then
    .error s!"invalid network mode `{String.ofList mode}` (expected deny or outbound)"
  else .ok ()

def normalizeDomain (host : Host) (raw : Str) : Except String Str :=
  match normalizeDomainPattern host.toAscii raw with
  | none => .error s!"invalid domain pattern `{String.ofList raw}`"
  | some normalized => .ok normalized

def approvedMode (approved baseline : PluginGrant) : Str :=
  if approved.networkMode = [] then baseline.networkMode else approved.networkMode

def checkDraft (approved baseline : PluginGrant) : Except String Unit := do
  if approved.pluginId ≠ [] ∧ approved.pluginId ≠ baseline.pluginId then
    throw s!"grant plugin id `{String.ofList approved.pluginId}` does not match `{String.ofList baseline.pluginId}`"
  requireDeclared approved.entrypoints baseline.entrypoints
    fun extra => s!"grant entrypoint `{String.ofList extra}` is not declared by plugin.toml"
  requireDeclared approved.producers baseline.producers
    fun extra => s!"grant event producer `{String.ofList extra}` is not declared by plugin.toml"
  if !consumersCover baseline.consumers approved.consumers then
    throw "grant event consumer is not declared by plugin.toml (structural authority)"
  requireDeclared approved.jobs baseline.jobs
    fun extra => s!"grant job trigger `{String.ofList extra}` is not declared by plugin.toml (structural authority)"
  checkNetworkMode (approvedMode approved baseline)
  approved.bindings.sort.forM (checkBinding baseline.bindings)
  requireDeclared approved.compatibilityFlags baseline.compatibilityFlags
    fun extra => s!"grant compatibility flag `{String.ofList extra}` is not declared by plugin.toml (structural authority)"

def approvedGrant (host : Host) (approved baseline : PluginGrant) (domains : Finset Str) (now : Str) : PluginGrant where
  schemaVersion := grantSchemaVersion
  pluginKey := baseline.pluginKey
  pluginId := baseline.pluginId
  entrypoints := approved.entrypoints
  producers := approved.producers
  consumers := approved.consumers
  jobs := approved.jobs
  networkMode := toAsciiLowercase (approvedMode approved baseline)
  domains := domains
  manifestDomains := baseline.domains
  operatorAddedDomains := domains \ baseline.domains
  operatorDeniedDomains := baseline.domains \ domains
  tcp := approved.tcp
  manifestTcp := baseline.manifestTcp
  operatorAddedTcp := approved.tcp \ baseline.manifestTcp
  operatorDeniedTcp := baseline.manifestTcp \ approved.tcp
  addressCidrs := approved.addressCidrs
  manifestCidrs := baseline.manifestCidrs
  operatorAddedCidrs := approved.addressCidrs \ baseline.manifestCidrs
  operatorDeniedCidrs := baseline.manifestCidrs \ approved.addressCidrs
  allowUndeclaredPublicRedirects := approved.allowUndeclaredPublicRedirects
  operatorAllowUndeclaredPublicRedirects :=
    if approved.allowUndeclaredPublicRedirects ≠ baseline.allowUndeclaredPublicRedirects then
      some approved.allowUndeclaredPublicRedirects
    else approved.operatorAllowUndeclaredPublicRedirects
  bindings := approved.bindings.image normalizeBinding
  compatibilityFlags := (approved.compatibilityFlags.image trim).filter (· ≠ [])
  cpuMs := normalizeCpuMs (approved.cpuMs.or baseline.cpuMs)
  subrequests := normalizeSubrequests (approved.subrequests.or baseline.subrequests)
  diskMib := some (effectiveDiskMib (approved.diskMib.or baseline.diskMib))
  memoryMib := some (effectiveMemoryMib (approved.memoryMib.or baseline.memoryMib))
  cpuRatePercent := (approved.cpuRatePercent.or baseline.cpuRatePercent).map fun v => effectiveCpuRatePercent host (some v)
  extraProcesses := (approved.extraProcesses.or baseline.extraProcesses).map fun v => effectiveExtraProcesses (some v)
  approvedAt := now

def validateApprovedGrant (host : Host) (approved baseline : PluginGrant) (now : Str) : Except String PluginGrant := do
  checkDraft approved baseline
  let domains ← approved.domains.sort.mapM (normalizeDomain host)
  return approvedGrant host approved baseline domains.toFinset now

lemma approvedGrant_of_validate {host : Host} {approved baseline g : PluginGrant} {now : Str}
    (h : validateApprovedGrant host approved baseline now = .ok g) :
    checkDraft approved baseline = .ok () ∧ ∃ domains, approved.domains.sort.mapM (normalizeDomain host) = .ok domains ∧
      g = approvedGrant host approved baseline domains.toFinset now := by
  unfold validateApprovedGrant at h
  cases hcheck : checkDraft approved baseline with
  | error e => rw [hcheck] at h; cases h
  | ok _ =>
    rw [hcheck] at h
    cases hdomains : approved.domains.sort.mapM (normalizeDomain host) with
    | error e =>
      simp only [hdomains] at h
      cases h
    | ok domains =>
      simp only [hdomains] at h
      exact ⟨rfl, domains, rfl, (Except.ok.inj h).symm⟩

lemma of_bind_ok {β : Type} {x : Except String Unit} {f : Unit → Except String β} {b : β} (h : (x >>= f) = .ok b) :
    x = .ok () ∧ f () = .ok b := by
  cases x with
  | error e => cases h
  | ok u => exact ⟨rfl, h⟩

lemma requireDeclared_ok {approved baseline : Finset Str} {msg : Str → String} (h : requireDeclared approved baseline msg = .ok ()) :
    approved ⊆ baseline := by
  unfold requireDeclared firstExtra at h
  cases hextra : (approved \ baseline).sort.head? with
  | some extra => rw [hextra] at h; cases h
  | none =>
    intro x hx
    by_contra hnot
    have hmem : x ∈ (approved \ baseline).sort := (Finset.mem_sort _).mpr (Finset.mem_sdiff.mpr ⟨hx, hnot⟩)
    rw [head?_eq_none_iff.mp hextra] at hmem
    cases hmem

variable {f : Str → Except String Unit}

lemma ok_of_forM {l : List Str} (h : l.forM f = .ok ()) : ∀ x ∈ l, f x = .ok () := by
  induction l with
  | nil => exact fun _ hx => absurd hx not_mem_nil
  | cons y l ih =>
    obtain ⟨hhead, htail⟩ := of_bind_ok h
    exact forall_mem_cons.mpr ⟨hhead, ih htail⟩

lemma of_checkDraft {approved baseline : PluginGrant} (h : checkDraft approved baseline = .ok ()) :
    approved.entrypoints ⊆ baseline.entrypoints ∧ checkNetworkMode (approvedMode approved baseline) = .ok () ∧
      ∀ binding ∈ approved.bindings, checkBinding baseline.bindings binding = .ok () := by
  unfold checkDraft at h
  by_cases hid : approved.pluginId ≠ [] ∧ approved.pluginId ≠ baseline.pluginId
  · rw [if_pos hid] at h
    cases h
  rw [if_neg hid] at h
  obtain ⟨hentrypoints, h⟩ := of_bind_ok h
  obtain ⟨-, h⟩ := of_bind_ok h
  by_cases hconsumers : (!consumersCover baseline.consumers approved.consumers) = true
  · rw [if_pos hconsumers] at h
    cases h
  rw [if_neg hconsumers] at h
  obtain ⟨-, h⟩ := of_bind_ok h
  obtain ⟨hmode, h⟩ := of_bind_ok h
  refine ⟨requireDeclared_ok hentrypoints, hmode, fun binding hbinding => ?_⟩
  exact ok_of_forM (of_bind_ok h).1 binding ((Finset.mem_sort _).mpr hbinding)

variable {baseline : Finset Str} {binding : Str}

lemma normalizeBinding_of_check (h : checkBinding baseline binding = .ok ()) :
    normalizeBinding binding ∈ knownHostBindings ∨ ∃ name, normalizeBinding binding = databaseBindingPrefix ++ name := by
  unfold normalizeBinding
  unfold checkBinding at h
  cases hname : databaseBindingName binding with
  | some name =>
    obtain ⟨pre, rfl, hpre⟩ := List.dropPrefix?_eq_some_iff.mp hname
    exact .inr ⟨name, by rw [eq_of_beq hpre]⟩
  | none =>
    simp only [hname] at h
    cases hknown : knownHostBindings.find? (eqIgnoreAsciiCase binding ·) with
    | none => rw [hknown] at h; cases h
    | some known => exact .inl (List.mem_of_find?_eq_some hknown)

lemma networkMode_of_check {mode : Str} (h : checkNetworkMode mode = .ok ()) :
    toAsciiLowercase mode = "deny".toList ∨ toAsciiLowercase mode = "outbound".toList := by
  have hdeny : toAsciiLowercase "deny".toList = "deny".toList := by decide
  have hout : toAsciiLowercase "outbound".toList = "outbound".toList := by decide
  unfold checkNetworkMode at h
  split_ifs at h with hneither
  rw [Bool.and_eq_true, Bool.not_eq_true', Bool.not_eq_true', not_and_or, Bool.not_eq_false, Bool.not_eq_false,
    eqIgnoreAsciiCase, eqIgnoreAsciiCase, hdeny, hout, beq_iff_eq, beq_iff_eq] at hneither
  exact hneither

lemma requireDeclared_self (s : Finset Str) (msg : Str → String) : requireDeclared s s msg = .ok () := by
  rw [requireDeclared, firstExtra, Finset.sdiff_self, Finset.sort_empty]
  rfl

lemma consumersCover_self (s : Finset GrantedEventConsumer) : consumersCover s s = true := by
  rw [consumersCover, all_eq_true]
  intro c hc
  exact any_eq_true.mpr ⟨c, hc, covers_self c⟩

lemma checkBinding_known (hknown : binding ∈ knownHostBindings) (hmem : binding ∈ baseline) : checkBinding baseline binding = .ok () := by
  have hname : databaseBindingName binding = none ∧ knownHostBindings.find? (eqIgnoreAsciiCase binding ·) = some binding := by
    clear hmem
    revert binding
    decide
  have hany : (baseline.sort.any fun b => eqIgnoreAsciiCase b binding || b == binding) = true := by
    refine any_eq_true.mpr ⟨binding, (Finset.mem_sort _).mpr hmem, ?_⟩
    rw [beq_self_eq_true, Bool.or_true]
  simp only [checkBinding, hname, hany, Bool.not_true, Bool.false_eq_true, if_false]

lemma checkBinding_database {name : Str} (hname : isValidDatabaseBindingName name)
    (hmem : databaseBindingPrefix ++ name ∈ baseline) : checkBinding baseline (databaseBindingPrefix ++ name) = .ok () := by
  have hstrip : databaseBindingName (databaseBindingPrefix ++ name) = some name :=
    List.dropPrefix?_eq_some_iff.mpr ⟨_, rfl, beq_self_eq_true _⟩
  simp only [checkBinding, hstrip, hname, Bool.not_true, Bool.false_eq_true, if_false, hmem, not_true]

lemma mem_bindingNames {b : BindingCapabilities} (h : binding ∈ bindingNames b) :
    binding ∈ knownHostBindings ∨ ∃ name ∈ b.databases, databaseBindingPrefix ++ name = binding := by
  simp only [bindingNames, mem_append, mem_map] at h
  rcases h with ((((h | h) | h) | h) | h) | h
  all_goals first
    | exact Or.inr h
    | (left; split_ifs at h <;> simp_all [knownHostBindings])

lemma forM_ok {l : List Str} (h : ∀ x ∈ l, f x = .ok ()) : l.forM f = .ok () := by
  induction l with
  | nil => rfl
  | cons x l ih =>
    have hrest := ih fun y hy => h y (mem_cons_of_mem x hy)
    change (f x >>= fun _ => l.forM f) = .ok ()
    rw [h x mem_cons_self, hrest]
    rfl

lemma checkDraft_consentRequest (host : Host) (m : PluginManifest) (key now : Str)
    (hdb : ∀ name ∈ m.bindings.databases, isValidDatabaseBindingName name) :
    checkDraft (consentRequest host m key now) (consentRequest host m key now) = .ok () := by
  have hmode : checkNetworkMode (approvedMode (consentRequest host m key now) (consentRequest host m key now)) = .ok () := by
    cases hm : m.network.mode <;> simp only [consentRequest, hm] <;> rfl
  have hbindings : (consentRequest host m key now).bindings.sort.forM
      (checkBinding (consentRequest host m key now).bindings) = .ok () := by
    refine forM_ok fun binding hmem => ?_
    have hmem' : binding ∈ (bindingNames m.bindings).toFinset := (Finset.mem_sort _).mp hmem
    rcases mem_bindingNames (mem_toFinset.mp hmem') with hknown | ⟨name, hname, rfl⟩
    · exact checkBinding_known hknown hmem'
    · exact checkBinding_database (hdb name hname) hmem'
  simp only [checkDraft, ne_eq, not_true, and_false, requireDeclared_self, consumersCover_self, hmode, hbindings]
  rfl

variable {α : Type} [DecidableEq α] {host : Host} {approved baseline g : PluginGrant} {now : Str}

lemma mergeOperator_edits_iff (current old new : Finset α) :
    mergeOperator (classifiedOperator (current \ old) (old \ current) current new) new =
        (new ∪ (current \ old)) \ (old \ current) ↔ current ≠ old ∨ old ⊆ new := by
  rcases eq_or_ne current old with rfl | hne
  · have hmerge : mergeOperator (classifiedOperator (current \ current) (current \ current) current new) new = new ∪ current := by
      ext x
      rw [mem_mergeOperator]
      simp
    rw [hmerge, Finset.sdiff_self, Finset.union_empty, Finset.sdiff_empty]
    simp
  · have hedited : ¬(current \ old = ∅ ∧ old \ current = ∅) := by
      rintro ⟨hadded, hdenied⟩
      exact hne (subset_antisymm (Finset.sdiff_eq_empty_iff_subset.mp hadded) (Finset.sdiff_eq_empty_iff_subset.mp hdenied))
    refine ⟨fun _ => Or.inl hne, fun _ => ?_⟩
    ext x
    rw [mem_mergeOperator, if_neg hedited, Finset.mem_sdiff (s := new ∪ _), Finset.mem_union]

def draftDomains (host : Host) (approved : PluginGrant) : Finset Str :=
  (approved.domains.sort.filterMap (normalizeDomainPattern host.toAscii)).toFinset

lemma mem_of_mapM_normalizeDomain {raws domains : List Str} (h : raws.mapM (normalizeDomain host) = .ok domains) (d : Str) :
    d ∈ domains ↔ ∃ raw ∈ raws, normalizeDomainPattern host.toAscii raw = some d := by
  induction raws generalizing domains with
  | nil =>
    cases h
    simp
  | cons raw raws ih =>
    rw [mapM_cons, normalizeDomain] at h
    cases hraw : normalizeDomainPattern host.toAscii raw with
    | none =>
      rw [hraw] at h
      cases h
    | some normalized =>
      rw [hraw] at h
      cases hrest : raws.mapM (normalizeDomain host) with
      | error e =>
        simp only [hrest] at h
        cases h
      | ok rest =>
        simp only [hrest] at h
        cases h
        simp [ih hrest, hraw, eq_comm]

lemma domains_of_validate (h : validateApprovedGrant host approved baseline now = .ok g) : g.domains = draftDomains host approved := by
  obtain ⟨_, domains, hdomains, rfl⟩ := approvedGrant_of_validate h
  ext d
  simp only [approvedGrant, draftDomains, mem_toFinset, mem_of_mapM_normalizeDomain hdomains, mem_filterMap]

def Merged (old new g effective : Finset α) : Prop :=
  effective = (new ∪ (g \ old)) \ (old \ g)

theorem upgrade_is_manifest_with_edits_iff (host : Host) (old new : PluginManifest) (key t t' t'' : Str) (approved g : PluginGrant)
    (h : validateApprovedGrant host approved (consentRequest host old key t) t' = .ok g) :
    let B := consentRequest host old key t
    let R := consentRequest host new key t''
    let E := effectiveGrant host g R
    Merged B.domains R.domains g.domains E.domains ∧ Merged B.tcp R.tcp g.tcp E.tcp ∧
        Merged B.addressCidrs R.addressCidrs g.addressCidrs E.addressCidrs ↔
      (draftDomains host approved ≠ B.domains ∨ B.domains ⊆ R.domains) ∧
        (approved.tcp ≠ B.tcp ∨ B.tcp ⊆ R.tcp) ∧
        (approved.addressCidrs ≠ B.addressCidrs ∨ B.addressCidrs ⊆ R.addressCidrs) := by
  intro B R E
  rw [← domains_of_validate h]
  obtain ⟨_, domains, _, rfl⟩ := approvedGrant_of_validate h
  have hmanifest : R.requestedManifestDomains = R.domains := ite_id _
  refine and_congr ?_ (and_congr ?_ ?_)
  · change mergeOperator (classifiedOperator _ _ _ R.requestedManifestDomains) R.requestedManifestDomains = _ ↔ _
    rw [hmanifest]
    exact mergeOperator_edits_iff ..
  · exact mergeOperator_edits_iff ..
  · exact mergeOperator_edits_iff _ _ _

def fetchManifest (domains : List Str) : PluginManifest where
  id := "demo".toList
  runtime := .native
  workerd := none
  modules := []
  entrypoints := []
  producers := []
  consumers := []
  jobs := []
  network := { mode := .outbound, domains := domains, tcp := [], allowUndeclaredPublicRedirects := false, addressCidrs := [] }
  bindings := { config := false, secrets := false, pluginKv := false, workFs := false, oauth := false, databases := [] }

def oldHost : Str :=
  "old".toList

def fetchRequest (domains : List Str) : PluginGrant :=
  consentRequest plainHost (fetchManifest domains) "key".toList []

def fetchGrant (domains : List Str) : PluginGrant :=
  approvedGrant plainHost (fetchRequest domains) (fetchRequest domains) (fetchRequest domains).domains []

lemma domains_fetchRequest : (fetchRequest [oldHost]).domains = {oldHost} := by
  rfl

lemma validate_fetchRequest :
    validateApprovedGrant plainHost (fetchRequest [oldHost]) (fetchRequest [oldHost]) [] = .ok (fetchGrant [oldHost]) := by
  have hcheck : checkDraft (fetchRequest [oldHost]) (fetchRequest [oldHost]) = .ok () :=
    checkDraft_consentRequest _ _ _ _ nofun
  rw [validateApprovedGrant, hcheck, domains_fetchRequest, Finset.sort_singleton]
  rfl

theorem upgrade_keeps_dropped_host :
    validateApprovedGrant plainHost (fetchRequest [oldHost]) (fetchRequest [oldHost]) [] = .ok (fetchGrant [oldHost]) ∧
      oldHost ∈ (effectiveGrant plainHost (fetchGrant [oldHost]) (fetchRequest [])).domains ∧
      ¬Merged (fetchRequest [oldHost]).domains (fetchRequest []).domains (fetchGrant [oldHost]).domains
        (effectiveGrant plainHost (fetchGrant [oldHost]) (fetchRequest [])).domains := by
  have hold : oldHost ∈ (fetchRequest [oldHost]).domains := by
    exact Finset.mem_singleton_self _
  have hkept : oldHost ∈ (effectiveGrant plainHost (fetchGrant [oldHost]) (fetchRequest [])).domains := by
    refine mem_mergeOperator.mpr ⟨Or.inr ?_, ?_⟩
    · exact hold
    · exact fun hdenied => (Finset.mem_sdiff.mp hdenied).2 hold
  refine ⟨validate_fetchRequest, hkept, fun hmerged => ?_⟩
  rw [hmerged, Finset.mem_sdiff, Finset.mem_union] at hkept
  rcases hkept.1 with hnew | hadded
  · exact absurd hnew (by decide)
  · exact (Finset.mem_sdiff.mp hadded).2 hold

theorem upgrade_to_same_manifest :
    Merged (fetchRequest [oldHost]).domains (fetchRequest [oldHost]).domains (fetchGrant [oldHost]).domains
      (effectiveGrant plainHost (fetchGrant [oldHost]) (fetchRequest [oldHost])).domains :=
  ((upgrade_is_manifest_with_edits_iff plainHost (fetchManifest [oldHost]) (fetchManifest [oldHost]) "key".toList [] [] []
    (fetchRequest [oldHost]) (fetchGrant [oldHost]) validate_fetchRequest).mpr
    ⟨Or.inr subset_rfl, Or.inr subset_rfl, Or.inr subset_rfl⟩).1

end Bookclerk.Consent
