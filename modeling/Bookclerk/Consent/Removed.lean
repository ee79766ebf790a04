import Bookclerk.Consent.Upgrade

namespace Bookclerk.Consent

open Str Egress List

variable {cidrs : Finset Str} {ip : IpAddr} {n name : Str} {port : UInt16}

section Destinations

variable {α : Type}

def CoversTcp (n : Str) (port : UInt16) (e : TcpGrant) : Prop :=
  hostMatchesNormalized n e.host = true ∧ port ∈ e.ports

def CoversIp (ip : IpAddr) (raw : Str) : Prop :=
  ∃ cidr, CidrGrant.parse raw = .ok cidr ∧ cidr.contains ip = true

def CoversHost (n : Str) (pattern : Str) : Prop :=
  hostMatchesNormalized n pattern = true

def Covered (covers : α → Prop) (entries : Finset α) : Prop :=
  ∃ e ∈ entries, covers e

def DescribedAnew (covers : α → Prop) (manifest added denied : Finset α) : Prop :=
  ∃ e, (e ∈ manifest ∨ e ∈ added) ∧ e ∉ denied ∧ covers e

variable [DecidableEq α]

lemma covered_mergeOperator {covers : α → Prop} {added denied current manifest : Finset α} (h : Covered covers denied) :
    Covered covers (mergeOperator (classifiedOperator added denied current manifest) manifest) ↔
      DescribedAnew covers manifest added denied := by
  have hedited : ¬(added = ∅ ∧ denied = ∅) := by
    rintro ⟨-, rfl⟩
    obtain ⟨d, hd, -⟩ := h
    exact Finset.notMem_empty d hd
  refine exists_congr fun e => ?_
  rw [mem_mergeOperator, if_neg hedited, and_assoc]

end Destinations

def keptCidrs (g R : PluginGrant) : Finset Str :=
  (R.manifestCidrs ∪ if g.operatorAddedCidrs = ∅ ∧ g.operatorDeniedCidrs = ∅ then g.addressCidrs else g.operatorAddedCidrs) \
    g.operatorDeniedCidrs

def AddressRefused (cidrs : Finset Str) (name n : Str) : Prop :=
  let p := { EgressPolicy.deny with mode := .outbound, addressCidrs := cidrs.sort }
  spellingRefused p name = true ∨ ipLiteralOk p n = false

variable (host : Host) (g R : PluginGrant)

structure RemovedStaysRefused : Prop where
  tcp : ∀ name n port, normalizeHostname host.toAscii name = some n → Covered (CoversTcp n port) g.operatorDeniedTcp →
    allowsTcp host.toAscii g.egressPolicy name port = false →
    allowsTcp host.toAscii (effectiveGrant host g R).egressPolicy name port = false
  ip : ∀ ip, Covered (CoversIp ip) g.operatorDeniedCidrs → g.egressPolicy.allowsIp ip = false →
    (effectiveGrant host g R).egressPolicy.allowsIp ip = false
  fetch : ∀ name n, normalizeHostname host.toAscii name = some n → Covered (CoversHost n) g.operatorDeniedDomains →
    allowsInitial host.toAscii g.egressPolicy name = false →
    allowsInitial host.toAscii (effectiveGrant host g R).egressPolicy name = false

/-- No other entry covers a removed destination that the grant refuses, or the address checks refuse it. -/
structure NothingDescribedAnew : Prop where
  tcp : ∀ name n port, normalizeHostname host.toAscii name = some n → Covered (CoversTcp n port) g.operatorDeniedTcp →
    allowsTcp host.toAscii g.egressPolicy name port = false →
    AddressRefused (keptCidrs g R) name n ∨ ¬DescribedAnew (CoversTcp n port) R.manifestTcp g.operatorAddedTcp g.operatorDeniedTcp
  ip : ∀ ip, Covered (CoversIp ip) g.operatorDeniedCidrs → g.egressPolicy.allowsIp ip = false →
    ¬DescribedAnew (CoversIp ip) R.manifestCidrs g.operatorAddedCidrs g.operatorDeniedCidrs
  fetch : ∀ name n, normalizeHostname host.toAscii name = some n → Covered (CoversHost n) g.operatorDeniedDomains →
    allowsInitial host.toAscii g.egressPolicy name = false →
    AddressRefused (keptCidrs g R) name n ∨
      ¬DescribedAnew (CoversHost n) R.manifestDomains g.operatorAddedDomains g.operatorDeniedDomains

variable {host g R}

lemma mergeCidrs_eq_keptCidrs : mergeCidrs g R = keptCidrs g R := by
  ext c
  rw [keptCidrs, Finset.mem_sdiff, Finset.mem_union]
  exact mem_mergeOperator

section Policy

variable {p : EgressPolicy}

lemma tcpListed_iff {entries : Finset TcpGrant} (h : p.tcp = entries.sort) :
    tcpListed p port n = true ↔ Covered (CoversTcp n port) entries := by
  simp only [tcpListed, h, any_eq_true, Finset.mem_sort, Bool.and_eq_true, contains_iff_mem, Covered, CoversTcp]

lemma domainListed_iff {entries : Finset Str} (h : p.domains = entries.sort) :
    domainListed p n = true ↔ Covered (CoversHost n) entries := by
  simp only [domainListed, h, any_eq_true, Finset.mem_sort, Covered, CoversHost]

lemma toOption_eq_some {ε β : Type} {x : Except ε β} {b : β} : x.toOption = some b ↔ x = .ok b := by
  cases x <;> simp [Except.toOption]

lemma allowsIp_iff (entries : Finset Str) (hmode : p.mode = .outbound) (h : p.addressCidrs = entries.sort) :
    p.allowsIp ip = true ↔ isPublicInternet ip = true ∨ Covered (CoversIp ip) entries := by
  have hgrants : (∃ c ∈ p.cidrGrants, c.contains ip = true) ↔ Covered (CoversIp ip) entries := by
    constructor
    · rintro ⟨c, hc, hip⟩
      obtain ⟨raw, hraw, hparse⟩ := mem_filterMap.mp hc
      rw [h, Finset.mem_sort] at hraw
      exact ⟨raw, hraw, c, toOption_eq_some.mp hparse, hip⟩
    · rintro ⟨raw, hraw, c, hparse, hip⟩
      refine ⟨c, mem_filterMap.mpr ⟨raw, ?_, toOption_eq_some.mpr hparse⟩, hip⟩
      rw [h, Finset.mem_sort]
      exact hraw
  rw [EgressPolicy.allowsIp, hmode, if_neg nofun, addressAllowed, Bool.or_eq_true, any_eq_true, hgrants]

lemma addressRefused_iff (hmode : p.mode = .outbound) (h : p.addressCidrs = cidrs.sort) :
    AddressRefused cidrs name n ↔ spellingRefused p name = true ∨ ipLiteralOk p n = false := by
  obtain ⟨mode, domains, redirects, undeclared, tcp, addressCidrs⟩ := p
  dsimp only at hmode h
  rw [hmode, h]
  exact Iff.rfl

lemma refused_iff_of_listed {answer : Bool} {toAscii : Str → Option Str} {listed : Prop}
    (hmode : p.mode = .outbound) (hcidrs : p.addressCidrs = cidrs.sort) (hname : normalizeHostname toAscii name = some n)
    {entries : Str → Prop} (hentries : entries n ↔ listed)
    (hanswer : answer = true ↔ (!spellingRefused p name) = true ∧ p.mode = .outbound ∧
      ∃ n, normalizeHostname toAscii name = some n ∧ ipLiteralOk p n = true ∧ entries n) :
    answer = false ↔ AddressRefused cidrs name n ∨ ¬listed := by
  rw [addressRefused_iff hmode hcidrs, ← Bool.not_eq_true, hanswer, ← Bool.not_eq_true (ipLiteralOk p n)]
  simp only [hname, Option.some.injEq, exists_eq_left', hmode, true_and, Bool.not_eq_true', ← Bool.not_eq_true (spellingRefused p name)]
  tauto

end Policy

section Effective

lemma networkMode_ne_nil {approved baseline : PluginGrant} {now : Str}
    (h : validateApprovedGrant host approved baseline now = .ok g) : g.networkMode ≠ [] := by
  obtain ⟨hcheck, domains, -, rfl⟩ := approvedGrant_of_validate h
  intro hnil
  rcases networkMode_of_check (of_checkDraft hcheck).2.1 with hmode | hmode
  · exact absurd (hnil.symm.trans hmode) (by decide)
  · exact absurd (hnil.symm.trans hmode) (by decide)

lemma mode_effectiveGrant (host : Host) (R : PluginGrant) (h : g.networkMode ≠ []) : (effectiveGrant host g R).egressPolicy.mode = g.egressPolicy.mode := by
  simp only [PluginGrant.egressPolicy, effectiveGrant, if_neg h]

lemma addressCidrs_effectiveGrant : (effectiveGrant host g R).egressPolicy.addressCidrs = (keptCidrs g R).sort := by
  rw [← mergeCidrs_eq_keptCidrs]
  rfl

variable (hmode : (effectiveGrant host g R).egressPolicy.mode = .outbound)
include hmode

lemma allowsTcp_effective_iff (hname : normalizeHostname host.toAscii name = some n)
    (hdenied : Covered (CoversTcp n port) g.operatorDeniedTcp) :
    allowsTcp host.toAscii (effectiveGrant host g R).egressPolicy name port = false ↔
      AddressRefused (keptCidrs g R) name n ∨ ¬DescribedAnew (CoversTcp n port) R.manifestTcp g.operatorAddedTcp g.operatorDeniedTcp :=
  refused_iff_of_listed hmode addressCidrs_effectiveGrant hname ((tcpListed_iff rfl).trans (covered_mergeOperator hdenied))
    (allowsTcp_iff host.toAscii _ port name)

lemma allowsInitial_effective_iff (hname : normalizeHostname host.toAscii name = some n)
    (hR : R.requestedManifestDomains = R.manifestDomains) (hdenied : Covered (CoversHost n) g.operatorDeniedDomains) :
    allowsInitial host.toAscii (effectiveGrant host g R).egressPolicy name = false ↔
      AddressRefused (keptCidrs g R) name n ∨
        ¬DescribedAnew (CoversHost n) R.manifestDomains g.operatorAddedDomains g.operatorDeniedDomains :=
  refused_iff_of_listed hmode addressCidrs_effectiveGrant hname
    ((domainListed_iff rfl).trans (hR ▸ covered_mergeOperator hdenied)) (allowsInitial_iff host.toAscii _ name)

lemma allowsIp_effective_iff (hdenied : Covered (CoversIp ip) g.operatorDeniedCidrs)
    (hpublic : isPublicInternet ip = false) :
    (effectiveGrant host g R).egressPolicy.allowsIp ip = false ↔
      ¬DescribedAnew (CoversIp ip) R.manifestCidrs g.operatorAddedCidrs g.operatorDeniedCidrs := by
  rw [← Bool.not_eq_true, allowsIp_iff (mergeCidrs g R) hmode rfl, hpublic, ← covered_mergeOperator hdenied]
  simp only [Bool.false_eq_true, false_or]
  exact Iff.rfl

end Effective

theorem removed_stays_refused_iff (host : Host) (old new : PluginManifest) (key t t' t'' : Str) (approved g : PluginGrant)
    (h : validateApprovedGrant host approved (consentRequest host old key t) t' = .ok g) :
    RemovedStaysRefused host g (consentRequest host new key t'') ↔
      (eqIgnoreAsciiCase g.networkMode "outbound".toList = true → NothingDescribedAnew host g (consentRequest host new key t'')) := by
  generalize hR : consentRequest host new key t'' = R
  have hdomains : R.requestedManifestDomains = R.manifestDomains := by
    rw [← hR]
    exact ite_id _
  have hsame := mode_effectiveGrant host R (networkMode_ne_nil h)
  cases hmode : eqIgnoreAsciiCase g.networkMode "outbound".toList with
  | false =>
    have hdeny : (effectiveGrant host g R).egressPolicy.mode = .deny := by
      rw [hsame, PluginGrant.egressPolicy, hmode]
      rfl
    refine ⟨fun _ => nofun, fun _ => ⟨?_, ?_, ?_⟩⟩
    · intro name n port _ _ _
      rw [allowsTcp, if_pos hdeny]
    · intro ip _ _
      rw [EgressPolicy.allowsIp, if_pos hdeny]
    · intro name n _ _ _
      rw [allowsInitial, hdeny]
  | true =>
    have hout : g.egressPolicy.mode = .outbound := by
      rw [PluginGrant.egressPolicy, hmode]
      rfl
    have heff : (effectiveGrant host g R).egressPolicy.mode = .outbound := hsame.trans hout
    have hprivate : ∀ ip, g.egressPolicy.allowsIp ip = false → isPublicInternet ip = false := by
      intro ip hip
      rw [← Bool.not_eq_true, allowsIp_iff g.addressCidrs hout rfl, not_or, Bool.not_eq_true] at hip
      exact hip.1
    constructor
    · refine fun hstays _ => ⟨?_, ?_, ?_⟩
      · intro name n port hname hdenied hrefused
        exact (allowsTcp_effective_iff heff hname hdenied).mp (hstays.tcp name n port hname hdenied hrefused)
      · intro ip hdenied hrefused
        exact (allowsIp_effective_iff heff hdenied (hprivate ip hrefused)).mp (hstays.ip ip hdenied hrefused)
      · intro name n hname hdenied hrefused
        exact (allowsInitial_effective_iff heff hname hdomains hdenied).mp (hstays.fetch name n hname hdenied hrefused)
    · intro hnone
      obtain ⟨htcp, hip, hfetch⟩ := hnone rfl
      refine ⟨?_, ?_, ?_⟩
      · intro name n port hname hdenied hrefused
        exact (allowsTcp_effective_iff heff hname hdenied).mpr (htcp name n port hname hdenied hrefused)
      · intro ip hdenied hrefused
        exact (allowsIp_effective_iff heff hdenied (hprivate ip hrefused)).mpr (hip ip hdenied hrefused)
      · intro name n hname hdenied hrefused
        exact (allowsInitial_effective_iff heff hname hdomains hdenied).mpr (hfetch name n hname hdenied hrefused)

def databaseHost : Str :=
  "db".toList

def databaseManifest (ports : List UInt16) : PluginManifest :=
  { fetchManifest [] with
    network := { (fetchManifest []).network with tcp := [{ host := databaseHost, ports := ports }] } }

def databaseRequest (ports : List UInt16) : PluginGrant :=
  consentRequest plainHost (databaseManifest ports) "key".toList []

def refusalDraft (ports : List UInt16) : PluginGrant :=
  { databaseRequest ports with tcp := ∅ }

def refusalGrant (ports : List UInt16) : PluginGrant :=
  approvedGrant plainHost (refusalDraft ports) (databaseRequest ports) ∅ []

lemma validate_refusalDraft (ports : List UInt16) :
    validateApprovedGrant plainHost (refusalDraft ports) (databaseRequest ports) [] = .ok (refusalGrant ports) := by
  have hcheck : checkDraft (refusalDraft ports) (databaseRequest ports) = .ok () :=
    checkDraft_consentRequest plainHost (databaseManifest ports) "key".toList [] nofun
  have hdomains : (refusalDraft ports).domains.sort = [] := Finset.sort_empty _
  rw [validateApprovedGrant, hcheck, hdomains]
  rfl

lemma tcp_effective_databaseRequest :
    (effectiveGrant plainHost (refusalGrant [5432]) (databaseRequest [5432, 5433])).tcp = {⟨databaseHost, [5432, 5433]⟩} := by
  decide

theorem widened_entry_restores_port :
    validateApprovedGrant plainHost (refusalDraft [5432]) (databaseRequest [5432]) [] = .ok (refusalGrant [5432]) ∧
      Covered (CoversTcp databaseHost 5432) (refusalGrant [5432]).operatorDeniedTcp ∧
      allowsTcp plainHost.toAscii (refusalGrant [5432]).egressPolicy databaseHost 5432 = false ∧
      allowsTcp plainHost.toAscii
        (effectiveGrant plainHost (refusalGrant [5432]) (databaseRequest [5432, 5433])).egressPolicy databaseHost 5432 = true := by
  refine ⟨validate_refusalDraft _, ⟨⟨databaseHost, [5432]⟩, by decide, by decide, by decide⟩, ?_, ?_⟩
  · have htcp : (refusalGrant [5432]).egressPolicy.tcp = [] := Finset.sort_empty _
    rw [← Bool.not_eq_true, allowsTcp_iff]
    rintro ⟨-, -, n, -, -, hlisted⟩
    rw [tcpListed, htcp] at hlisted
    cases hlisted
  · refine (allowsTcp_iff ..).mpr ⟨by decide, rfl, databaseHost, by decide, by decide, ?_⟩
    refine (tcpListed_iff (congrArg (Finset.sort ·) tcp_effective_databaseRequest)).mpr ?_
    exact ⟨_, Finset.mem_singleton_self _, by decide, by decide⟩

theorem moved_port_stays_refused : RemovedStaysRefused plainHost (refusalGrant [5432]) (databaseRequest [5433]) := by
  refine (removed_stays_refused_iff plainHost (databaseManifest [5432]) (databaseManifest [5433]) "key".toList [] [] []
    (refusalDraft [5432]) (refusalGrant [5432]) (validate_refusalDraft _)).mpr fun _ => ⟨?_, ?_, ?_⟩
  · rintro name n port - ⟨d, hd, -, hport⟩ -
    right
    rintro ⟨e, he, -, -, hport'⟩
    have hold : (refusalGrant [5432]).operatorDeniedTcp = {⟨databaseHost, [5432]⟩} := by decide
    have hnew : (databaseRequest [5433]).manifestTcp = {⟨databaseHost, [5433]⟩} := by decide
    rw [hold, Finset.mem_singleton] at hd
    rcases he with he | he
    · have he' : e ∈ (databaseRequest [5433]).manifestTcp := he
      rw [hnew, Finset.mem_singleton] at he'
      subst hd he'
      rw [mem_singleton] at hport hport'
      rw [hport] at hport'
      exact absurd hport' (by decide)
    · exact absurd he (Finset.notMem_empty _)
  · rintro ip ⟨d, hd, -⟩ -
    exact absurd hd (Finset.notMem_empty d)
  · rintro name n - ⟨d, hd, -⟩ -
    exact absurd hd (Finset.notMem_empty d)

end Bookclerk.Consent
