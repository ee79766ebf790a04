import Bookclerk.Codec.Delimited
import Bookclerk.Consent.Upgrade

namespace Bookclerk.Consent

open Str Egress Codec List

def nameList (names : Finset Str) : Str :=
  terminated ',' names.sort

def consumerText (c : GrantedEventConsumer) : Str :=
  c.eventType ++ '|' :: terminated ',' (c.schemaVersions.map decimal) ++ 's' :: (if c.supportsSuspend then '1' else '0') :: '|' ::
    c.filter.getD []

def consumerList (consumers : Finset GrantedEventConsumer) : Str :=
  terminated ';' (consumers.sort.map consumerText)

def tcpText (t : TcpGrant) : Str :=
  t.host ++ ':' :: terminated ',' (t.ports.map fun port => decimal port.toNat)

def hashTcpGrants (grants : Finset TcpGrant) : Str :=
  terminated ';' (grants.sort.map tcpText)

def budgetText (value : Option Nat) : Str :=
  match value with
  | some n => decimal n
  | none => "unset".toList

def budgetList (host : Host) (g : PluginGrant) : List Str :=
  [decimal (effectiveDiskMib g.diskMib), "mem".toList, decimal (effectiveMemoryMib g.memoryMib),
    "cpu_ms".toList, budgetText g.cpuMs, "subrequests".toList, budgetText g.subrequests,
    "cpu_rate".toList, decimal (effectiveCpuRatePercent host g.cpuRatePercent),
    "extra_proc".toList, decimal (effectiveExtraProcesses g.extraProcesses)]

def grantLines (host : Host) (g : PluginGrant) : List Str :=
  ["structural".toList, nameList g.entrypoints,
    "producers".toList, nameList g.producers,
    "consumers".toList, consumerList g.consumers,
    "jobs".toList, nameList g.jobs,
    "bindings".toList, nameList g.bindings,
    "flags".toList, nameList g.compatibilityFlags,
    "network".toList, g.networkMode,
    "domains".toList, nameList g.domains,
    "manifest_domains".toList, nameList g.manifestDomains,
    "operator_added".toList, nameList g.operatorAddedDomains,
    "operator_denied".toList, nameList g.operatorDeniedDomains,
    "tcp".toList, hashTcpGrants g.tcp,
    "operator_added_tcp".toList, hashTcpGrants g.operatorAddedTcp,
    "operator_denied_tcp".toList, hashTcpGrants g.operatorDeniedTcp,
    "cidrs".toList, nameList g.addressCidrs,
    "operator_added_cidrs".toList, nameList g.operatorAddedCidrs,
    "operator_denied_cidrs".toList, nameList g.operatorDeniedCidrs,
    "redirects".toList, [if g.allowUndeclaredPublicRedirects then '1' else '0'],
    "budgets".toList, separated '|' (budgetList host g)]

def hashInput (host : Host) (kind : Str) (g : PluginGrant) : Str :=
  kind ++ '\n' :: g.pluginKey ++ '\n' :: separated '\n' (grantLines host g)

def hashGrant (sha256 : ByteArray → Str) (host : Host) (kind : Str) (g : PluginGrant) : Str :=
  sha256 (String.ofList (hashInput host kind g)).toByteArray

def grantRevision (sha256 : ByteArray → Str) (host : Host) (g : PluginGrant) : Str :=
  hashGrant sha256 host "grant".toList g

lemma hashGrant_eq_iff {sha256 : ByteArray → Str} (hsha : Function.Injective sha256) (host : Host) (kind : Str) (g g' : PluginGrant) :
    hashGrant sha256 host kind g = hashGrant sha256 host kind g' ↔ hashInput host kind g = hashInput host kind g' := by
  unfold hashGrant
  rw [hsha.eq_iff, String.toByteArray_inj, String.ofList_inj]

section Parts

variable {host : Host}

def PlainName (x : Str) : Prop :=
  ',' ∉ x ∧ '\n' ∉ x

def PlainConsumer (c : GrantedEventConsumer) : Prop :=
  ('|' ∉ c.eventType ∧ ';' ∉ c.eventType ∧ '\n' ∉ c.eventType) ∧ ∀ f ∈ c.filter, f ≠ [] ∧ ';' ∉ f ∧ '\n' ∉ f

def PlainTcp (t : TcpGrant) : Prop :=
  ';' ∉ t.host ∧ '\n' ∉ t.host

lemma sort_inj {α : Type} [LinearOrder α] {s t : Finset α} (h : s.sort = t.sort) : s = t := by
  have hsets := congrArg toFinset h
  rwa [Finset.sort_toFinset, Finset.sort_toFinset] at hsets

lemma nameList_inj {s t : Finset Str} (hs : ∀ x ∈ s, PlainName x) (ht : ∀ x ∈ t, PlainName x) (h : nameList s = nameList t) : s = t :=
  sort_inj (terminated_inj (fun x hx => (hs x ((Finset.mem_sort _).mp hx)).1) (fun x hx => (ht x ((Finset.mem_sort _).mp hx)).1) h)

lemma newline_notMem_nameList {s : Finset Str} (hs : ∀ x ∈ s, PlainName x) : '\n' ∉ nameList s :=
  notMem_terminated (by decide) fun x hx => (hs x ((Finset.mem_sort _).mp hx)).2

lemma notMem_numbers {c : Char} (hc : c.isDigit = false) (hcomma : c ≠ ',') (numbers : List Nat) :
    c ∉ terminated ',' (numbers.map decimal) :=
  notMem_terminated hcomma (forall_mem_map.mpr fun n _ => notMem_decimal hc n)

lemma numbers_inj {l r : List Nat} (h : terminated ',' (l.map decimal) = terminated ',' (r.map decimal)) : l = r :=
  terminated_map_inj (fun n _ => notMem_decimal (by decide) n) (fun n _ => notMem_decimal (by decide) n)
    (fun _ _ _ _ => decimal_inj) h

lemma flag_inj {b c : Bool} (h : (if b then '1' else '0') = if c then '1' else '0') : b = c := by
  revert h
  cases b <;> cases c <;> decide

lemma consumerText_inj {c d : GrantedEventConsumer} (hc : PlainConsumer c) (hd : PlainConsumer d)
    (h : consumerText c = consumerText d) : c = d := by
  obtain ⟨type, versions, suspend, filter⟩ := c
  obtain ⟨type', versions', suspend', filter'⟩ := d
  simp only [consumerText, append_assoc] at h
  obtain ⟨htype, hrest⟩ := sep_append_inj hc.1.1 hd.1.1 h
  obtain ⟨hversions, hflags⟩ :=
    sep_append_inj (notMem_numbers (by decide) (by decide) _) (notMem_numbers (by decide) (by decide) _) hrest
  obtain ⟨hsuspend, hbar⟩ := List.cons.inj hflags
  have hfilter : filter.getD [] = filter'.getD [] := (List.cons.inj hbar).2
  obtain rfl : type = type' := htype
  obtain rfl := numbers_inj hversions
  obtain rfl := flag_inj hsuspend
  -- an absent filter and the empty one are written alike
  cases filter with
  | none =>
    cases filter' with
    | none => rfl
    | some f' => exact absurd hfilter.symm (hd.2 f' rfl).1
  | some f =>
    cases filter' with
    | none => exact absurd hfilter (hc.2 f rfl).1
    | some f' =>
      obtain rfl : f = f' := hfilter
      rfl

lemma notMem_consumerText {c : GrantedEventConsumer} {a : Char} (ha : a.isDigit = false) (hcomma : a ≠ ',') (hbar : a ≠ '|')
    (hs : a ≠ 's') (htype : a ∉ c.eventType) (hfilter : ∀ f ∈ c.filter, a ∉ f) : a ∉ consumerText c := by
  have hflag : a ≠ if c.supportsSuspend then '1' else '0' := by
    rintro rfl
    revert ha
    cases c.supportsSuspend <;> decide
  have hrest : a ∉ c.filter.getD [] := by
    cases hf : c.filter with
    | none => exact not_mem_nil
    | some f => exact hfilter f hf
  simp only [consumerText, mem_append, mem_cons, htype, hbar, hs, hflag, hrest, notMem_numbers ha hcomma, or_self, not_false_eq_true]

lemma consumerList_inj {s t : Finset GrantedEventConsumer} (hs : ∀ c ∈ s, PlainConsumer c) (ht : ∀ c ∈ t, PlainConsumer c)
    (h : consumerList s = consumerList t) : s = t := by
  have hsep : ∀ c, PlainConsumer c → ';' ∉ consumerText c := fun c hc =>
    notMem_consumerText (by decide) (by decide) (by decide) (by decide) hc.1.2.1 fun f hf => (hc.2 f hf).2.1
  simp only [← Finset.mem_sort (α := GrantedEventConsumer) (· ≤ ·)] at hs ht
  exact sort_inj (terminated_map_inj (fun c hc => hsep c (hs c hc)) (fun c hc => hsep c (ht c hc))
    (fun c hc d hd => consumerText_inj (hs c hc) (ht d hd)) h)

lemma newline_notMem_consumerList {s : Finset GrantedEventConsumer} (hs : ∀ c ∈ s, PlainConsumer c) : '\n' ∉ consumerList s := by
  refine notMem_terminated (by decide) (forall_mem_map.mpr fun c hc => ?_)
  have hplain := hs c ((Finset.mem_sort _).mp hc)
  exact notMem_consumerText (by decide) (by decide) (by decide) (by decide) hplain.1.2.2 fun f hf => (hplain.2 f hf).2.2

lemma tcpText_inj {t u : TcpGrant} (h : tcpText t = tcpText u) : t = u := by
  obtain ⟨name, ports⟩ := t
  obtain ⟨name', ports'⟩ := u
  have hmap : ∀ ports : List UInt16, (ports.map fun port => decimal port.toNat) = (ports.map UInt16.toNat).map decimal := by
    intro ports
    rw [map_map]
    rfl
  simp only [tcpText, hmap] at h
  obtain ⟨hname, hports⟩ := append_sep_inj (notMem_numbers (by decide) (by decide) _) (notMem_numbers (by decide) (by decide) _) h
  obtain rfl : name = name' := hname
  obtain rfl : ports = ports' := map_injective_iff.mpr (fun _ _ => UInt16.toNat_inj.mp) (numbers_inj hports)
  rfl

lemma notMem_tcpText {t : TcpGrant} {a : Char} (ha : a.isDigit = false) (hcomma : a ≠ ',') (hcolon : a ≠ ':') (hhost : a ∉ t.host) :
    a ∉ tcpText t := by
  have hports : a ∉ terminated ',' (t.ports.map fun port => decimal port.toNat) :=
    notMem_terminated hcomma (forall_mem_map.mpr fun port _ => notMem_decimal ha port.toNat)
  simp only [tcpText, mem_append, mem_cons, hhost, hcolon, hports, or_self, not_false_eq_true]

lemma hashTcpGrants_inj {s t : Finset TcpGrant} (hs : ∀ x ∈ s, PlainTcp x) (ht : ∀ x ∈ t, PlainTcp x)
    (h : hashTcpGrants s = hashTcpGrants t) : s = t := by
  have hsep : ∀ x, PlainTcp x → ';' ∉ tcpText x := fun x hx => notMem_tcpText (by decide) (by decide) (by decide) hx.1
  simp only [← Finset.mem_sort (α := TcpGrant) (· ≤ ·)] at hs ht
  exact sort_inj (terminated_map_inj (fun x hx => hsep x (hs x hx)) (fun x hx => hsep x (ht x hx))
    (fun _ _ _ _ => tcpText_inj) h)

lemma newline_notMem_hashTcpGrants {s : Finset TcpGrant} (hs : ∀ x ∈ s, PlainTcp x) : '\n' ∉ hashTcpGrants s :=
  notMem_terminated (by decide) (forall_mem_map.mpr fun x hx =>
    notMem_tcpText (by decide) (by decide) (by decide) (hs x ((Finset.mem_sort _).mp hx)).2)

lemma budgetText_inj {a b : Option Nat} (h : budgetText a = budgetText b) : a = b := by
  have hunset : ∀ n, decimal n ≠ "unset".toList := by
    intro n hn
    refine notMem_decimal (c := 'u') (by decide) n ?_
    rw [hn]
    decide
  cases a with
  | none =>
    cases b with
    | none => rfl
    | some n => exact absurd h.symm (hunset n)
  | some m =>
    cases b with
    | none => exact absurd h (hunset m)
    | some n => rw [decimal_inj h]

lemma notMem_budgetText {c : Char} (hc : c.isDigit = false) (hunset : c ∉ "unset".toList) (value : Option Nat) : c ∉ budgetText value := by
  cases value with
  | none => exact hunset
  | some n => exact notMem_decimal hc n

lemma notMem_budgetList {c : Char} (hc : c.isDigit = false) (hunset : c ∉ "unset".toList)
    (hheads : ∀ p ∈ ["mem".toList, "cpu_ms".toList, "subrequests".toList, "cpu_rate".toList, "extra_proc".toList], c ∉ p)
    (g : PluginGrant) : ∀ p ∈ budgetList host g, c ∉ p := by
  have hdecimal := notMem_decimal hc
  have hvalue := notMem_budgetText hc hunset
  simp only [forall_mem_cons, not_mem_nil] at hheads
  simp only [budgetList, forall_mem_cons, not_mem_nil, false_imp_iff, implies_true, and_true, hdecimal, hvalue, hheads, not_false_eq_true]

end Parts

structure SameRecorded (host : Host) (g g' : PluginGrant) : Prop where
  entrypoints : g.entrypoints = g'.entrypoints
  producers : g.producers = g'.producers
  consumers : g.consumers = g'.consumers
  jobs : g.jobs = g'.jobs
  bindings : g.bindings = g'.bindings
  compatibilityFlags : g.compatibilityFlags = g'.compatibilityFlags
  networkMode : g.networkMode = g'.networkMode
  domains : g.domains = g'.domains
  manifestDomains : g.manifestDomains = g'.manifestDomains
  operatorAddedDomains : g.operatorAddedDomains = g'.operatorAddedDomains
  operatorDeniedDomains : g.operatorDeniedDomains = g'.operatorDeniedDomains
  tcp : g.tcp = g'.tcp
  operatorAddedTcp : g.operatorAddedTcp = g'.operatorAddedTcp
  operatorDeniedTcp : g.operatorDeniedTcp = g'.operatorDeniedTcp
  addressCidrs : g.addressCidrs = g'.addressCidrs
  operatorAddedCidrs : g.operatorAddedCidrs = g'.operatorAddedCidrs
  operatorDeniedCidrs : g.operatorDeniedCidrs = g'.operatorDeniedCidrs
  allowUndeclaredPublicRedirects : g.allowUndeclaredPublicRedirects = g'.allowUndeclaredPublicRedirects
  diskMib : effectiveDiskMib g.diskMib = effectiveDiskMib g'.diskMib
  memoryMib : effectiveMemoryMib g.memoryMib = effectiveMemoryMib g'.memoryMib
  cpuMs : g.cpuMs = g'.cpuMs
  subrequests : g.subrequests = g'.subrequests
  cpuRatePercent : effectiveCpuRatePercent host g.cpuRatePercent = effectiveCpuRatePercent host g'.cpuRatePercent
  extraProcesses : effectiveExtraProcesses g.extraProcesses = effectiveExtraProcesses g'.extraProcesses

def PluginGrant.names (g : PluginGrant) : List (Finset Str) :=
  [g.entrypoints, g.producers, g.jobs, g.bindings, g.compatibilityFlags, g.domains, g.manifestDomains, g.operatorAddedDomains,
    g.operatorDeniedDomains, g.addressCidrs, g.operatorAddedCidrs, g.operatorDeniedCidrs]

/-- No text of the grant contains a separator of the place it is written at. -/
structure PlainTexts (g : PluginGrant) : Prop where
  names : ∀ s ∈ g.names, ∀ x ∈ s, PlainName x
  consumers : ∀ c ∈ g.consumers, PlainConsumer c
  tcp : ∀ s ∈ [g.tcp, g.operatorAddedTcp, g.operatorDeniedTcp], ∀ t ∈ s, PlainTcp t
  networkMode : '\n' ∉ g.networkMode

section Input

variable {host : Host} {g g' : PluginGrant}

lemma newline_notMem_grantLines (h : PlainTexts g) : ∀ line ∈ grantLines host g, '\n' ∉ line := by
  have hnames : ∀ s ∈ g.names, '\n' ∉ nameList s := fun s hs => newline_notMem_nameList (h.names s hs)
  have htcp : ∀ s ∈ [g.tcp, g.operatorAddedTcp, g.operatorDeniedTcp], '\n' ∉ hashTcpGrants s :=
    fun s hs => newline_notMem_hashTcpGrants (h.tcp s hs)
  have hflag : '\n' ∉ [if g.allowUndeclaredPublicRedirects then '1' else '0'] := by
    cases g.allowUndeclaredPublicRedirects <;> decide
  have hbudgets : '\n' ∉ separated '|' (budgetList host g) :=
    notMem_separated (by decide) (notMem_budgetList (by decide) (by decide) (by decide) g)
  simp only [PluginGrant.names, forall_mem_cons] at hnames htcp
  simp only [grantLines, forall_mem_cons, hnames, htcp, hflag,
    hbudgets, newline_notMem_consumerList h.consumers, h.networkMode, not_false_eq_true, true_and]
  decide

lemma budgetList_inj (h : separated '|' (budgetList host g) = separated '|' (budgetList host g')) :
    budgetList host g = budgetList host g' :=
  separated_inj (notMem_budgetList (by decide) (by decide) (by decide) g) (notMem_budgetList (by decide) (by decide) (by decide) g')
    (cons_ne_nil _ _) (cons_ne_nil _ _) h

theorem hashInput_eq_iff (h : PlainTexts g) (h' : PlainTexts g') (hkey : g.pluginKey = g'.pluginKey) (kind : Str) :
    hashInput host kind g = hashInput host kind g' ↔ SameRecorded host g g' := by
  constructor
  · intro heq
    simp only [hashInput, hkey, append_cancel_left_eq, List.cons.injEq, true_and] at heq
    have hlines := separated_inj (newline_notMem_grantLines h) (newline_notMem_grantLines h') (cons_ne_nil _ _)
      (cons_ne_nil _ _) heq
    simp only [grantLines, List.cons.injEq, true_and, and_true] at hlines
    obtain ⟨hentrypoints, hproducers, hconsumers, hjobs, hbindings, hflags, hmode, hdomains, hmanifest, hadded, hdenied, htcp,
      haddedTcp, hdeniedTcp, hcidrs, haddedCidrs, hdeniedCidrs, hredirects, hbudgets⟩ := hlines
    have hlimits := budgetList_inj hbudgets
    simp only [budgetList, List.cons.injEq, true_and, and_true] at hlimits
    obtain ⟨hdisk, hmemory, hcpu, hsubrequests, hrate, hextra⟩ := hlimits
    have hn := h.names
    have hn' := h'.names
    have ht := h.tcp
    have ht' := h'.tcp
    simp only [PluginGrant.names, forall_mem_cons, not_mem_nil, false_imp_iff, implies_true, and_true] at hn hn' ht ht'
    obtain ⟨h1, h2, h3, h4, h5, h6, h7, h8, h9, h10, h11, h12⟩ := hn
    obtain ⟨h1', h2', h3', h4', h5', h6', h7', h8', h9', h10', h11', h12'⟩ := hn'
    exact
      { entrypoints := nameList_inj h1 h1' hentrypoints
        producers := nameList_inj h2 h2' hproducers
        consumers := consumerList_inj h.consumers h'.consumers hconsumers
        jobs := nameList_inj h3 h3' hjobs
        bindings := nameList_inj h4 h4' hbindings
        compatibilityFlags := nameList_inj h5 h5' hflags
        networkMode := hmode
        domains := nameList_inj h6 h6' hdomains
        manifestDomains := nameList_inj h7 h7' hmanifest
        operatorAddedDomains := nameList_inj h8 h8' hadded
        operatorDeniedDomains := nameList_inj h9 h9' hdenied
        tcp := hashTcpGrants_inj ht.1 ht'.1 htcp
        operatorAddedTcp := hashTcpGrants_inj ht.2.1 ht'.2.1 haddedTcp
        operatorDeniedTcp := hashTcpGrants_inj ht.2.2 ht'.2.2 hdeniedTcp
        addressCidrs := nameList_inj h10 h10' hcidrs
        operatorAddedCidrs := nameList_inj h11 h11' haddedCidrs
        operatorDeniedCidrs := nameList_inj h12 h12' hdeniedCidrs
        allowUndeclaredPublicRedirects := flag_inj hredirects
        diskMib := decimal_inj hdisk
        memoryMib := decimal_inj hmemory
        cpuMs := budgetText_inj hcpu
        subrequests := budgetText_inj hsubrequests
        cpuRatePercent := decimal_inj hrate
        extraProcesses := decimal_inj hextra }
  · intro hsame
    have hbudgets : budgetList host g = budgetList host g' := by
      simp only [budgetList, hsame.diskMib, hsame.memoryMib, hsame.cpuMs, hsame.subrequests, hsame.cpuRatePercent, hsame.extraProcesses]
    simp only [hashInput, grantLines, hkey, hbudgets, hsame.entrypoints, hsame.producers, hsame.consumers, hsame.jobs,
      hsame.bindings, hsame.compatibilityFlags, hsame.networkMode, hsame.domains, hsame.manifestDomains,
      hsame.operatorAddedDomains, hsame.operatorDeniedDomains, hsame.tcp, hsame.operatorAddedTcp, hsame.operatorDeniedTcp,
      hsame.addressCidrs, hsame.operatorAddedCidrs, hsame.operatorDeniedCidrs, hsame.allowUndeclaredPublicRedirects]

end Input

end Bookclerk.Consent
