import Mathlib.Data.Finset.Sort
import Mathlib.Data.List.Lex
import Mathlib.Data.Char
import Mathlib.Data.Prod.Lex
import Bookclerk.Egress.Policy

/-! The grant document and the consent request that a manifest makes. A `BTreeSet` is a `Finset`; where the
source walks one in order, `sort` gives the order. -/

namespace Bookclerk.Consent

open Str Egress Function Finset

/-- What the consent code takes from the machine: IDNA ToASCII, the text of a CIDR, the host's CPU limit. -/
structure Host where
  toAscii : Str → Option Str
  cidrText : CidrGrant → Str
  cpuRateMax : Nat

def plainHost : Host where
  toAscii := some
  cidrText _ := []
  cpuRateMax := 100

structure GrantedEventConsumer where
  eventType : Str
  schemaVersions : List Nat
  supportsSuspend : Bool
  filter : Option Str
deriving DecidableEq

def GrantedEventConsumer.rank (c : GrantedEventConsumer) : Str ×ₗ List Nat ×ₗ Bool ×ₗ WithBot Str :=
  toLex (c.eventType, toLex (c.schemaVersions, toLex (c.supportsSuspend, c.filter)))

lemma GrantedEventConsumer.rank_injective : Injective GrantedEventConsumer.rank := by
  rintro ⟨t, v, s, f⟩ ⟨t', v', s', f'⟩ h
  cases h
  rfl

instance : LinearOrder GrantedEventConsumer :=
  LinearOrder.lift' GrantedEventConsumer.rank GrantedEventConsumer.rank_injective

instance : IsTrans GrantedEventConsumer (· ≤ ·) := inferInstance

instance : @Std.Antisymm GrantedEventConsumer (· ≤ ·) := inferInstance

instance : @Std.Total GrantedEventConsumer (· ≤ ·) := inferInstance

def tcpRank (g : TcpGrant) : Str ×ₗ List Nat :=
  toLex (g.host, g.ports.map UInt16.toNat)

lemma tcpRank_injective : Injective tcpRank := by
  rintro ⟨h, p⟩ ⟨h', p'⟩ heq
  obtain ⟨rfl, hports⟩ := Prod.mk.inj heq
  obtain rfl : p = p' := List.map_injective_iff.mpr (fun _ _ => UInt16.toNat_inj.mp) hports
  rfl

instance : LinearOrder TcpGrant :=
  LinearOrder.lift' tcpRank tcpRank_injective

instance : IsTrans TcpGrant (· ≤ ·) := inferInstance

instance : @Std.Antisymm TcpGrant (· ≤ ·) := inferInstance

instance : @Std.Total TcpGrant (· ≤ ·) := inferInstance

structure PluginGrant where
  schemaVersion : Nat
  pluginKey : Str
  pluginId : Str
  entrypoints : Finset Str
  producers : Finset Str
  consumers : Finset GrantedEventConsumer
  jobs : Finset Str
  networkMode : Str
  domains : Finset Str
  manifestDomains : Finset Str
  operatorAddedDomains : Finset Str
  operatorDeniedDomains : Finset Str
  tcp : Finset TcpGrant
  manifestTcp : Finset TcpGrant
  operatorAddedTcp : Finset TcpGrant
  operatorDeniedTcp : Finset TcpGrant
  addressCidrs : Finset Str
  manifestCidrs : Finset Str
  operatorAddedCidrs : Finset Str
  operatorDeniedCidrs : Finset Str
  allowUndeclaredPublicRedirects : Bool
  operatorAllowUndeclaredPublicRedirects : Option Bool
  bindings : Finset Str
  compatibilityFlags : Finset Str
  cpuMs : Option Nat
  subrequests : Option Nat
  diskMib : Option Nat
  memoryMib : Option Nat
  cpuRatePercent : Option Nat
  extraProcesses : Option Nat
  approvedAt : Str
deriving DecidableEq

def grantSchemaVersion : Nat :=
  2

def PluginGrant.empty : PluginGrant where
  schemaVersion := 0
  pluginKey := []
  pluginId := []
  entrypoints := ∅
  producers := ∅
  consumers := ∅
  jobs := ∅
  networkMode := "deny".toList
  domains := ∅
  manifestDomains := ∅
  operatorAddedDomains := ∅
  operatorDeniedDomains := ∅
  tcp := ∅
  manifestTcp := ∅
  operatorAddedTcp := ∅
  operatorDeniedTcp := ∅
  addressCidrs := ∅
  manifestCidrs := ∅
  operatorAddedCidrs := ∅
  operatorDeniedCidrs := ∅
  allowUndeclaredPublicRedirects := false
  operatorAllowUndeclaredPublicRedirects := none
  bindings := ∅
  compatibilityFlags := ∅
  cpuMs := none
  subrequests := none
  diskMib := none
  memoryMib := none
  cpuRatePercent := none
  extraProcesses := none
  approvedAt := []

def PluginGrant.egressPolicy (g : PluginGrant) : EgressPolicy where
  mode := if eqIgnoreAsciiCase g.networkMode "outbound".toList then .outbound else .deny
  domains := g.domains.sort
  maxRedirects := 10
  allowUndeclaredPublicRedirects := g.allowUndeclaredPublicRedirects
  tcp := g.tcp.sort
  addressCidrs := g.addressCidrs.sort

def clampLimit (raw : Option Nat) (default max : Nat) : Nat :=
  match raw with
  | none | some 0 => default
  | some n => min n max

structure WorkerdLimits where
  cpuMs : Option Nat := none
  subrequests : Option Nat := none

def WorkerdLimits.effectiveCpuMs (l : WorkerdLimits) : Nat :=
  clampLimit l.cpuMs 30000 120000

def WorkerdLimits.effectiveSubrequests (l : WorkerdLimits) : Nat :=
  clampLimit l.subrequests 50 1000

def effectiveDiskMib (value : Option Nat) : Nat :=
  max 1 (min (value.getD 512) 4096)

def effectiveMemoryMib (value : Option Nat) : Nat :=
  max 1 (min (value.getD 512) 4096)

def effectiveCpuRatePercent (host : Host) (value : Option Nat) : Nat :=
  max 1 (min (value.getD 80) host.cpuRateMax)

def effectiveExtraProcesses (value : Option Nat) : Nat :=
  min (value.getD 2) 62

def normalizeCpuMs (value : Option Nat) : Option Nat :=
  value.map fun cpuMs => { cpuMs := some cpuMs : WorkerdLimits }.effectiveCpuMs

def normalizeSubrequests (value : Option Nat) : Option Nat :=
  value.map fun subrequests => { subrequests := some subrequests : WorkerdLimits }.effectiveSubrequests

inductive PluginRuntimeKind where
  | native
  | workerd
deriving DecidableEq

structure WorkerdRuntimeManifest where
  mainModule : Str
  compatibilityFlags : List Str
  limits : WorkerdLimits

structure ModuleSpec where
  name : Str
  path : Str
  moduleType : Str

/-- A row of `[[events.consumers]]`; the filter is its minified JSON, or the JSON value `null`. -/
structure EventConsumer where
  eventType : Str
  schemaVersions : List Nat
  supportsSuspend : Bool
  filter : Option (Option Str)

structure NetworkCapabilities where
  mode : NetworkMode
  domains : List Str
  tcp : List TcpGrant
  allowUndeclaredPublicRedirects : Bool
  addressCidrs : List Str

inductive Entrypoint where
  | storefront
  | storage
  | databaseAdapter
  | remoteLibrary
  | cli
  | oidc
deriving DecidableEq

def Entrypoint.wireName : Entrypoint → Str
  | .storefront => "storefront".toList
  | .storage => "storage".toList
  | .databaseAdapter => "databaseAdapter".toList
  | .remoteLibrary => "remoteLibrary".toList
  | .cli => "cli".toList
  | .oidc => "oidc".toList

structure BindingCapabilities where
  config : Bool
  secrets : Bool
  pluginKv : Bool
  workFs : Bool
  oauth : Bool
  databases : List Str

structure PluginManifest where
  id : Str
  runtime : PluginRuntimeKind
  workerd : Option WorkerdRuntimeManifest
  modules : List ModuleSpec
  entrypoints : List Entrypoint
  producers : List Str
  consumers : List EventConsumer
  jobs : List Str
  network : NetworkCapabilities
  bindings : BindingCapabilities

def databaseBindingPrefix : Str :=
  "database:".toList

def canonicalEventFilter (filter : Option (Option Str)) : Option Str :=
  filter.bind id

def GrantedEventConsumer.fromManifest (c : EventConsumer) : GrantedEventConsumer where
  eventType := c.eventType
  schemaVersions := c.schemaVersions.toFinset.sort
  supportsSuspend := c.supportsSuspend
  filter := canonicalEventFilter c.filter

def workerdDeclaresPython (w : WorkerdRuntimeManifest) : Bool :=
  endsWith (toAsciiLowercase w.mainModule) ".py".toList || w.compatibilityFlags.any (· == "python_workers".toList)

def manifestNeedsPython (m : PluginManifest) : Bool :=
  if m.runtime ≠ .workerd then false
  else
    m.workerd.any workerdDeclaresPython || m.modules.any fun spec =>
      eqIgnoreAsciiCase spec.moduleType "python".toList || endsWith (toAsciiLowercase spec.name) ".py".toList ||
        endsWith (toAsciiLowercase spec.path) ".py".toList

def pyodideEgressHosts : List Str :=
  ["cdn.jsdelivr.net".toList, "pypi.org".toList, "files.pythonhosted.org".toList]

def withPythonRuntimeHosts (needsPython : Bool) (mode : NetworkMode) (base : List Str) : List Str :=
  if needsPython && mode = .outbound then
    pyodideEgressHosts.foldl (fun domains host => if domains.any (eqIgnoreAsciiCase · host) then domains else domains ++ [host]) base
  else base

def normalizeDomainList (host : Host) (domains : List Str) : Option (List Str) :=
  (domains.mapM (normalizeDomainPattern host.toAscii)).map List.eraseDups

def consentDomainsFor (host : Host) (m : PluginManifest) : Option (List Str) :=
  (normalizeDomainList host m.network.domains).map (withPythonRuntimeHosts (manifestNeedsPython m) m.network.mode)

def bindingNames (b : BindingCapabilities) : List Str :=
  (if b.config then ["config".toList] else []) ++ (if b.secrets then ["secrets".toList] else []) ++
    (if b.pluginKv then ["plugin_kv".toList] else []) ++ (if b.workFs then ["work_fs".toList] else []) ++
    (if b.oauth then ["oauth".toList] else []) ++ b.databases.map (databaseBindingPrefix ++ ·)

def requestedDomains (host : Host) (m : PluginManifest) : Finset Str :=
  ((consentDomainsFor host m).getD (m.network.domains.filterMap (normalizeDomainPattern host.toAscii))).toFinset

def requestedTcp (host : Host) (m : PluginManifest) : Finset TcpGrant :=
  (m.network.tcp.filterMap fun t =>
    (normalizeDomainPattern host.toAscii t.host).map fun name =>
      { host := name, ports := (t.ports.insertionSort (· ≤ ·)).eraseDups : TcpGrant }).toFinset

def requestedCidrs (host : Host) (m : PluginManifest) : Finset Str :=
  (m.network.addressCidrs.filterMap fun raw => (CidrGrant.parse raw).toOption.map host.cidrText).toFinset

def consentRequest (host : Host) (m : PluginManifest) (pluginKey now : Str) : PluginGrant where
  schemaVersion := grantSchemaVersion
  pluginKey := pluginKey
  pluginId := m.id
  entrypoints := (m.entrypoints.map Entrypoint.wireName).toFinset
  producers := m.producers.toFinset
  consumers := (m.consumers.map GrantedEventConsumer.fromManifest).toFinset
  jobs := m.jobs.toFinset
  networkMode := match m.network.mode with
    | .deny => "deny".toList
    | .outbound => "outbound".toList
  domains := requestedDomains host m
  manifestDomains := requestedDomains host m
  operatorAddedDomains := ∅
  operatorDeniedDomains := ∅
  tcp := requestedTcp host m
  manifestTcp := requestedTcp host m
  operatorAddedTcp := ∅
  operatorDeniedTcp := ∅
  addressCidrs := requestedCidrs host m
  manifestCidrs := requestedCidrs host m
  operatorAddedCidrs := ∅
  operatorDeniedCidrs := ∅
  allowUndeclaredPublicRedirects := m.network.allowUndeclaredPublicRedirects
  operatorAllowUndeclaredPublicRedirects := none
  bindings := (bindingNames m.bindings).toFinset
  compatibilityFlags := ((m.workerd.map WorkerdRuntimeManifest.compatibilityFlags).getD []).toFinset
  cpuMs := if m.runtime = .workerd then some ((m.workerd.map WorkerdRuntimeManifest.limits).getD {}).effectiveCpuMs else none
  subrequests := if m.runtime = .workerd then some ((m.workerd.map WorkerdRuntimeManifest.limits).getD {}).effectiveSubrequests else none
  diskMib := some 512
  memoryMib := some 512
  cpuRatePercent := if m.runtime = .workerd then none else some 80
  extraProcesses := if m.runtime = .workerd then none else some 2
  approvedAt := now

variable {α : Type} [DecidableEq α]

/-- The operator's additions and denials; a grant that records neither is a legacy one, and what it has beyond
the manifest counts as added. -/
def classifiedOperator (added denied current manifest : Finset α) : Finset α × Finset α :=
  if added ≠ ∅ ∨ denied ≠ ∅ then (added, denied) else (current \ manifest, denied)

def mergeOperator (classified : Finset α × Finset α) (manifest : Finset α) : Finset α :=
  (manifest ∪ classified.1) \ classified.2

def PluginGrant.requestedManifestDomains (requested : PluginGrant) : Finset Str :=
  if requested.manifestDomains = ∅ then requested.domains else requested.manifestDomains

def classifiedOperatorNetwork (existing requested : PluginGrant) : Finset Str × Finset Str :=
  classifiedOperator existing.operatorAddedDomains existing.operatorDeniedDomains existing.domains
    requested.requestedManifestDomains

def mergeNetworkDomains (existing requested : PluginGrant) : Finset Str :=
  mergeOperator (classifiedOperatorNetwork existing requested) requested.requestedManifestDomains

def classifiedOperatorTcp (existing requested : PluginGrant) : Finset TcpGrant × Finset TcpGrant :=
  classifiedOperator existing.operatorAddedTcp existing.operatorDeniedTcp existing.tcp requested.manifestTcp

def mergeTcp (existing requested : PluginGrant) : Finset TcpGrant :=
  mergeOperator (classifiedOperatorTcp existing requested) requested.manifestTcp

def classifiedOperatorCidrs (existing requested : PluginGrant) : Finset Str × Finset Str :=
  classifiedOperator existing.operatorAddedCidrs existing.operatorDeniedCidrs existing.addressCidrs requested.manifestCidrs

def mergeCidrs (existing requested : PluginGrant) : Finset Str :=
  mergeOperator (classifiedOperatorCidrs existing requested) requested.manifestCidrs

namespace GrantedEventConsumer

def covers (got requested : GrantedEventConsumer) : Bool :=
  got.eventType == requested.eventType && requested.schemaVersions.all (got.schemaVersions.contains ·) &&
    (!requested.supportsSuspend || got.supportsSuspend) && got.filter == requested.filter

def intersect (got requested : GrantedEventConsumer) : Option GrantedEventConsumer :=
  if got.eventType ≠ requested.eventType ∨ got.filter ≠ requested.filter then none
  else
    let schemaVersions := requested.schemaVersions.filter (got.schemaVersions.contains ·)
    if schemaVersions = [] ∧ requested.schemaVersions ≠ [] then none
    else
      some
        { eventType := got.eventType
          schemaVersions := schemaVersions
          supportsSuspend := got.supportsSuspend && requested.supportsSuspend
          filter := got.filter }

end GrantedEventConsumer

def consumersCover (existing requested : Finset GrantedEventConsumer) : Bool :=
  requested.sort.all fun req => existing.sort.any (·.covers req)

def firstConsumer (existing : Finset GrantedEventConsumer) (eventType : Str) (filter : Option Str) :
    Option GrantedEventConsumer :=
  existing.sort.find? fun got => got.eventType == eventType && got.filter == filter

def intersectConsumers (existing requested : Finset GrantedEventConsumer) : Finset GrantedEventConsumer :=
  (requested.sort.filterMap fun req =>
    (firstConsumer existing req.eventType req.filter).bind (·.intersect req)).toFinset

structure PendingStructural where
  entrypoints : Finset Str
  producers : Finset Str
  consumers : Finset GrantedEventConsumer
  jobs : Finset Str
  bindings : Finset Str
  compatibilityFlags : Finset Str

def pendingStructural (existing requested : PluginGrant) : PendingStructural where
  entrypoints := requested.entrypoints \ existing.entrypoints
  producers := requested.producers \ existing.producers
  consumers := requested.consumers.filter fun req => !existing.consumers.sort.any (·.covers req)
  jobs := requested.jobs \ existing.jobs
  bindings := requested.bindings \ existing.bindings
  compatibilityFlags := requested.compatibilityFlags \ existing.compatibilityFlags

def effectiveGrant (host : Host) (existing requested : PluginGrant) : PluginGrant where
  schemaVersion := existing.schemaVersion
  pluginKey := if existing.pluginKey = [] then requested.pluginKey else existing.pluginKey
  pluginId := if existing.pluginId = [] then requested.pluginId else existing.pluginId
  entrypoints := existing.entrypoints ∩ requested.entrypoints
  producers := existing.producers ∩ requested.producers
  consumers := intersectConsumers existing.consumers requested.consumers
  jobs := existing.jobs ∩ requested.jobs
  networkMode := if existing.networkMode = [] then requested.networkMode else existing.networkMode
  domains := mergeNetworkDomains existing requested
  manifestDomains := requested.requestedManifestDomains
  operatorAddedDomains := (classifiedOperatorNetwork existing requested).1
  operatorDeniedDomains := (classifiedOperatorNetwork existing requested).2
  tcp := mergeTcp existing requested
  manifestTcp := requested.manifestTcp
  operatorAddedTcp := (classifiedOperatorTcp existing requested).1
  operatorDeniedTcp := (classifiedOperatorTcp existing requested).2
  addressCidrs := mergeCidrs existing requested
  manifestCidrs := requested.manifestCidrs
  operatorAddedCidrs := (classifiedOperatorCidrs existing requested).1
  operatorDeniedCidrs := (classifiedOperatorCidrs existing requested).2
  allowUndeclaredPublicRedirects :=
    existing.operatorAllowUndeclaredPublicRedirects.getD requested.allowUndeclaredPublicRedirects
  operatorAllowUndeclaredPublicRedirects := existing.operatorAllowUndeclaredPublicRedirects
  bindings := existing.bindings ∩ requested.bindings
  compatibilityFlags := existing.compatibilityFlags ∩ requested.compatibilityFlags
  cpuMs := normalizeCpuMs existing.cpuMs
  subrequests := normalizeSubrequests existing.subrequests
  diskMib := some (effectiveDiskMib existing.diskMib)
  memoryMib := some (effectiveMemoryMib existing.memoryMib)
  cpuRatePercent := existing.cpuRatePercent.map fun v => effectiveCpuRatePercent host (some v)
  extraProcesses := existing.extraProcesses.map fun v => effectiveExtraProcesses (some v)
  approvedAt := existing.approvedAt

lemma covers_self (c : GrantedEventConsumer) : c.covers c = true := by
  simp [GrantedEventConsumer.covers]

lemma mem_mergeOperator {added denied current manifest : Finset α} {x : α} :
    x ∈ mergeOperator (classifiedOperator added denied current manifest) manifest ↔
      (x ∈ manifest ∨ x ∈ if added = ∅ ∧ denied = ∅ then current else added) ∧ x ∉ denied := by
  unfold mergeOperator classifiedOperator
  by_cases h : added = ∅ ∧ denied = ∅
  · rw [if_neg (by tauto), if_pos h]
    simp only [mem_sdiff, mem_union]
    tauto
  · rw [if_pos (by tauto), if_neg h]
    simp only [mem_sdiff, mem_union]

end Bookclerk.Consent
