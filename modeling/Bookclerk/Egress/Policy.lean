import Bookclerk.Egress.Address

/-! The egress policy and its three questions: may a request start at a host, may a TCP connection be
made to it, may a redirect go to it. IDNA ToASCII is the parameter `toAscii`. -/

namespace Bookclerk.Egress

open Str

inductive NetworkMode where
  | deny
  | outbound
deriving DecidableEq

structure TcpGrant where
  host : Str
  ports : List UInt16
deriving DecidableEq

structure EgressPolicy where
  mode : NetworkMode
  domains : List Str
  maxRedirects : UInt32
  allowUndeclaredPublicRedirects : Bool
  tcp : List TcpGrant
  addressCidrs : List Str
deriving DecidableEq

def EgressPolicy.deny : EgressPolicy where
  mode := .deny
  domains := []
  maxRedirects := 10
  allowUndeclaredPublicRedirects := false
  tcp := []
  addressCidrs := []

def hostMatchesNormalized (host pattern : Str) : Bool :=
  match pattern.dropPrefix? "*.".toList with
  | some rest => host == rest || endsWith host ('.' :: rest)
  | none => host == pattern

namespace EgressPolicy

variable (p : EgressPolicy)

def cidrGrants : List CidrGrant :=
  p.addressCidrs.filterMap fun raw => (CidrGrant.parse raw).toOption

def allowsIp (ip : IpAddr) : Bool :=
  if p.mode = .deny then false else addressAllowed ip p.cidrGrants

def hostnameAddressOk (host : Str) : Bool :=
  if eqIgnoreAsciiCase host localhost || endsWith (toAsciiLowercase host) dotLocalhost then
    p.allowsIp localhostV4 || p.allowsIp localhostV6
  else true

end EgressPolicy

section Hosts

variable (toAscii : Str → Option Str)

def normalizeHostname (host : Str) : Option Str :=
  let host := trimEndMatches '.' (trim host)
  if host = [] ∨ '%' ∈ host then none else toAscii host

def normalizeDomainPattern (pattern : Str) : Option Str :=
  let pattern := trimEndMatches '.' (trim pattern)
  if pattern = [] ∨ '%' ∈ pattern then none
  else
    match pattern.dropPrefix? "*.".toList with
    | some rest => (normalizeHostname toAscii rest).map fun ascii => "*.".toList ++ ascii
    | none => normalizeHostname toAscii pattern

variable (p : EgressPolicy)

/-- What `allows_initial` and `allows_tcp` have in common: the restriction is checked on the spelling, the
rest on the normalized host. -/
def admitsHost (listed : Str → Bool) (host : Str) : Bool :=
  if isRestrictedHostname host && !p.hostnameAddressOk host then false
  else
    match normalizeHostname toAscii host with
    | none => false
    | some host =>
      match parseIpAddr host with
      | some ip => if !p.allowsIp ip then false else listed host
      | none => listed host

def allowsInitial (host : Str) : Bool :=
  match p.mode with
  | .deny => false
  | .outbound => admitsHost toAscii p (fun host => p.domains.any (hostMatchesNormalized host)) host

def allowsTcp (host : Str) (port : UInt16) : Bool :=
  if p.mode = .deny then false
  else
    admitsHost toAscii p (fun host => p.tcp.any fun grant => hostMatchesNormalized host grant.host && grant.ports.contains port) host

def redirectSpellingOk (host : Str) : Bool :=
  match parseIpAddr host with
  | some ip => p.allowsIp ip
  | none => !(isRestrictedHostname host && !p.hostnameAddressOk host)

def allowsRedirect (host : Str) (hopIndex : UInt32) : Bool :=
  match p.mode with
  | .deny => false
  | .outbound =>
    if p.maxRedirects ≤ hopIndex then false
    else if !redirectSpellingOk p host then false
    else if p.allowUndeclaredPublicRedirects then
      match parseIpAddr host with
      | some ip => p.allowsIp ip
      | none => !isRestrictedHostname host
    else
      match normalizeHostname toAscii host with
      | none => false
      | some host => p.domains.any (hostMatchesNormalized host)

end Hosts

section Spelling

variable (p : EgressPolicy)

def spellingRefused (host : Str) : Bool :=
  isRestrictedHostname host && !p.hostnameAddressOk host

def redirectAdmitsSpelling (host : Str) : Bool :=
  match parseIpAddr host with
  | some ip => p.allowsIp ip
  | none => if p.allowUndeclaredPublicRedirects then !isRestrictedHostname host else !spellingRefused p host

def ipLiteralOk (n : Str) : Bool :=
  match parseIpAddr n with
  | some ip => p.allowsIp ip
  | none => true

def domainListed (n : Str) : Bool :=
  p.domains.any (hostMatchesNormalized n)

def tcpListed (port : UInt16) (n : Str) : Bool :=
  p.tcp.any fun grant => hostMatchesNormalized n grant.host && grant.ports.contains port

def Reached (port : UInt16) (normalized : Option Str) : Prop :=
  p.mode = .outbound ∧ ∃ n, normalized = some n ∧ ipLiteralOk p n = true ∧ (domainListed p n = true ∨ tcpListed p port n = true)

def RedirectReached (hop : UInt32) (normalized : Option Str) : Prop :=
  p.mode = .outbound ∧ hop < p.maxRedirects ∧
    (p.allowUndeclaredPublicRedirects = true ∨ ∃ n, normalized = some n ∧ domainListed p n = true)

def LoopbackGranted : Prop :=
  ∃ g ∈ p.cidrGrants, ∃ ip, isLoopback ip = true ∧ g.contains ip = true

def MetadataGranted : Prop :=
  ∃ g ∈ p.cidrGrants, g.contains metadataAddr = true

def Forbidden (n : Str) : Prop :=
  (∃ ip, parseIpAddr n = some ip ∧ p.allowsIp ip = false) ∨
    ((n = localhost ∨ endsWith n dotLocalhost = true) ∧ ¬ LoopbackGranted p) ∨ (n = metadataHost ∧ ¬ MetadataGranted p)

variable {p}

end Spelling

section Decisions

variable (toAscii : Str → Option Str) (p : EgressPolicy) (port : UInt16) (hop : UInt32)

def SameDecisions (a b : Str) : Prop :=
  allowsInitial toAscii p a = allowsInitial toAscii p b ∧ allowsTcp toAscii p a port = allowsTcp toAscii p b port ∧
    allowsRedirect toAscii p a hop = allowsRedirect toAscii p b hop

def NotAdmitted (h : Str) : Prop :=
  allowsInitial toAscii p h = false ∧ allowsTcp toAscii p h port = false ∧ allowsRedirect toAscii p h hop = false

/-- The two spellings fare alike in every check that is made on the spelling and matters for the answer. -/
def SpellingsAgree (a b : Str) : Prop :=
  (Reached p port (normalizeHostname toAscii a) → spellingRefused p a = spellingRefused p b) ∧
    (RedirectReached p hop (normalizeHostname toAscii a) → redirectAdmitsSpelling p a = redirectAdmitsSpelling p b)

def SpellingCaught (h : Str) : Prop :=
  (Reached p port (normalizeHostname toAscii h) → spellingRefused p h = true) ∧
    (RedirectReached p hop (normalizeHostname toAscii h) → redirectAdmitsSpelling p h = false)

lemma admitsHost_iff (listed : Str → Bool) (h : Str) :
    admitsHost toAscii p listed h = true ↔ (!spellingRefused p h) = true ∧
      ∃ n, normalizeHostname toAscii h = some n ∧ ipLiteralOk p n = true ∧ listed n = true := by
  unfold admitsHost spellingRefused ipLiteralOk
  cases hrefused : isRestrictedHostname h && !p.hostnameAddressOk h with
  | true => simp
  | false =>
    cases hnorm : normalizeHostname toAscii h with
    | none => simp
    | some n => cases hip : parseIpAddr n <;> simp [hip]

lemma allowsInitial_iff (h : Str) :
    allowsInitial toAscii p h = true ↔ (!spellingRefused p h) = true ∧ p.mode = .outbound ∧
      ∃ n, normalizeHostname toAscii h = some n ∧ ipLiteralOk p n = true ∧ domainListed p n = true := by
  unfold allowsInitial
  cases hmode : p.mode with
  | deny => simp
  | outbound => simp only [admitsHost_iff, domainListed, true_and]

lemma allowsTcp_iff (h : Str) :
    allowsTcp toAscii p h port = true ↔ (!spellingRefused p h) = true ∧ p.mode = .outbound ∧
      ∃ n, normalizeHostname toAscii h = some n ∧ ipLiteralOk p n = true ∧ tcpListed p port n = true := by
  unfold allowsTcp
  cases hmode : p.mode with
  | deny => simp
  | outbound => simp only [admitsHost_iff, tcpListed, true_and, reduceCtorEq, if_false]

lemma allowsRedirect_iff (h : Str) :
    allowsRedirect toAscii p h hop = true ↔ redirectAdmitsSpelling p h = true ∧ RedirectReached p hop (normalizeHostname toAscii h) := by
  unfold allowsRedirect RedirectReached domainListed
  cases hmode : p.mode with
  | deny => simp
  | outbound =>
    by_cases hhop : p.maxRedirects ≤ hop
    · have hnot : ¬ hop < p.maxRedirects := UInt32.not_lt.mpr hhop
      simp only [if_pos hhop, hnot, false_and, and_false, Bool.false_eq_true]
    · have hlt : hop < p.maxRedirects := UInt32.not_le.mp hhop
      unfold redirectAdmitsSpelling redirectSpellingOk spellingRefused
      cases hflag : p.allowUndeclaredPublicRedirects <;> cases hip : parseIpAddr h <;>
        cases hnorm : normalizeHostname toAscii h <;> simp [hhop, hlt]
      all_goals exact Or.inl

lemma eq_iff_of_gate {x y r t : Bool} {g : Prop} (hx : x = true ↔ r = true ∧ g) (hy : y = true ↔ t = true ∧ g) : x = y ↔ (g → r = t) := by
  by_cases hg : g
  · simp only [hg, and_true, ← Bool.eq_iff_iff] at hx hy
    simp only [hg, forall_true_left, hx, hy]
  · simp only [hg, and_false, iff_false] at hx hy
    simp only [hg, hx, hy, false_imp_iff]

lemma eq_false_iff_of_gate {x r : Bool} {g : Prop} (hx : x = true ↔ r = true ∧ g) : x = false ↔ (g → r = false) := by
  rw [← Bool.not_eq_true, ← Bool.not_eq_true]
  tauto

lemma reached_iff (normalized : Option Str) :
    Reached p port normalized ↔
      (p.mode = .outbound ∧ ∃ n, normalized = some n ∧ ipLiteralOk p n = true ∧ domainListed p n = true) ∨
      (p.mode = .outbound ∧ ∃ n, normalized = some n ∧ ipLiteralOk p n = true ∧ tcpListed p port n = true) := by
  constructor
  · rintro ⟨hmode, n, hn, hip, hlisted | hlisted⟩
    · exact .inl ⟨hmode, n, hn, hip, hlisted⟩
    · exact .inr ⟨hmode, n, hn, hip, hlisted⟩
  · rintro (⟨hmode, n, hn, hip, hlisted⟩ | ⟨hmode, n, hn, hip, hlisted⟩)
    · exact ⟨hmode, n, hn, hip, .inl hlisted⟩
    · exact ⟨hmode, n, hn, hip, .inr hlisted⟩

lemma sameDecisions_iff {a b : Str} (hnorm : normalizeHostname toAscii a = normalizeHostname toAscii b) :
    SameDecisions toAscii p port hop a b ↔ SpellingsAgree toAscii p port hop a b := by
  have hinitial := eq_iff_of_gate (allowsInitial_iff toAscii p a) (hnorm ▸ allowsInitial_iff toAscii p b)
  have htcp := eq_iff_of_gate (allowsTcp_iff toAscii p port a) (hnorm ▸ allowsTcp_iff toAscii p port b)
  have hredirect := eq_iff_of_gate (allowsRedirect_iff toAscii p hop a) (hnorm ▸ allowsRedirect_iff toAscii p hop b)
  rw [SameDecisions, hinitial, htcp, hredirect, SpellingsAgree, reached_iff, or_imp, and_assoc]
  simp only [Bool.not_inj_iff]

lemma notAdmitted_iff (h : Str) : NotAdmitted toAscii p port hop h ↔ SpellingCaught toAscii p port hop h := by
  rw [NotAdmitted, eq_false_iff_of_gate (allowsInitial_iff toAscii p h), eq_false_iff_of_gate (allowsTcp_iff toAscii p port h),
    eq_false_iff_of_gate (allowsRedirect_iff toAscii p hop h), SpellingCaught, reached_iff, or_imp, and_assoc]
  simp only [Bool.not_eq_false']

end Decisions

def asciiDomain (host : Str) : Option Str :=
  if host.all fun c => c.isAlphanum || c == '-' || c == '.' then some (toAsciiLowercase host) else none

def localhostPolicy : EgressPolicy :=
  { EgressPolicy.deny with mode := .outbound, domains := [localhost] }

end Bookclerk.Egress
