import Bookclerk.Str.Chars

namespace Bookclerk.Egress

open Str

inductive IpAddr where
  | v4 (addr : BitVec 32)
  | v6 (addr : BitVec 128)
deriving DecidableEq

def readNumber (radix maxDigits : Nat) (allowZeroPrefix : Bool) (bound : Nat) (s : Str) : Option (Nat × Str) :=
  let digits := (readDigits radix s).1
  if digits = [] ∨ maxDigits < digits.length then none
  else if allowZeroPrefix = false ∧ s.head? = some '0' ∧ 1 < digits.length then none
  else if digitsValue radix digits < bound then some (digitsValue radix digits, (readDigits radix s).2)
  else none

def readSeparator {α : Type} (sep : Char) (index : Nat) (inner : Str → Option (α × Str)) (s : Str) : Option (α × Str) :=
  if index = 0 then inner s
  else
    match s with
    | c :: rest => if c = sep then inner rest else none
    | [] => none

def readOctets : Nat → Nat → Str → Option (List Nat × Str)
  | 0, _, s => some ([], s)
  | n + 1, index, s =>
    (readSeparator '.' index (readNumber 10 3 false 256) s).bind fun (octet, rest) =>
      (readOctets n (index + 1) rest).map fun (octets, rest) => (octet :: octets, rest)

def readIpv4Addr (s : Str) : Option (BitVec 32 × Str) :=
  (readOctets 4 0 s).map fun (octets, rest) => (BitVec.ofNat 32 (digitsValue 256 octets), rest)

/-- Up to `n` more groups of an address part that may hold `limit`; the flag says that an embedded IPv4
address ended them. -/
def readGroups (limit : Nat) : Nat → Str → List Nat × Bool × Str
  | 0, s => ([], false, s)
  | n + 1, s =>
    let index := limit - (n + 1)
    match if 0 < n then readSeparator ':' index readIpv4Addr s else none with
    | some (v4, rest) => ([v4.toNat / 65536, v4.toNat % 65536], true, rest)
    | none =>
      match readSeparator ':' index (readNumber 16 4 true 65536) s with
      | some (group, rest) =>
        let more := readGroups limit n rest
        (group :: more.1, more.2)
      | none => ([], false, s)

def readIpv6Addr (s : Str) : Option (BitVec 128 × Str) :=
  match readGroups 8 8 s with
  | (head, headIpv4, rest) =>
    if head.length = 8 then some (BitVec.ofNat 128 (digitsValue 65536 head), rest)
    -- an embedded IPv4 address may not stand before `::`
    else if headIpv4 then none
    else
      match rest with
      | ':' :: ':' :: rest =>
        let limit := 8 - (head.length + 1)
        let tail := readGroups limit limit rest
        let zeros := List.replicate (8 - head.length - tail.1.length) 0
        some (BitVec.ofNat 128 (digitsValue 65536 (head ++ zeros ++ tail.1)), tail.2.2)
      | _ => none

def readIpAddr (s : Str) : Option (IpAddr × Str) :=
  match readIpv4Addr s with
  | some (addr, rest) => some (.v4 addr, rest)
  | none => (readIpv6Addr s).map fun (addr, rest) => (.v6 addr, rest)

def parseIpAddr (s : Str) : Option IpAddr :=
  match readIpAddr s with
  | some (ip, []) => some ip
  | _ => none

example : parseIpAddr "169.254.169.254".toList = some (.v4 0xA9FEA9FE#32) ∧ parseIpAddr "127.0.0.01".toList = none := by
  decide +kernel

example : parseIpAddr "::ffff:10.0.0.1".toList = some (.v6 0xFFFF0A000001#128) ∧ parseIpAddr "fe80::1::".toList = none := by
  decide +kernel

def octet (addr : BitVec 32) (i : Nat) : Nat :=
  (addr.toNat / 256 ^ (3 - i)) % 256

def segment (addr : BitVec 128) (i : Nat) : Nat :=
  (addr.toNat / 65536 ^ (7 - i)) % 65536

def isLoopbackV4 (addr : BitVec 32) : Bool :=
  octet addr 0 == 127

def isPrivate (addr : BitVec 32) : Bool :=
  octet addr 0 == 10 || (octet addr 0 == 172 && 16 ≤ octet addr 1 && octet addr 1 ≤ 31) ||
    (octet addr 0 == 192 && octet addr 1 == 168)

def isLinkLocal (addr : BitVec 32) : Bool :=
  octet addr 0 == 169 && octet addr 1 == 254

def isMulticastV4 (addr : BitVec 32) : Bool :=
  224 ≤ octet addr 0 && octet addr 0 ≤ 239

def isDocumentation (addr : BitVec 32) : Bool :=
  (octet addr 0 == 192 && octet addr 1 == 0 && octet addr 2 == 2) ||
    (octet addr 0 == 198 && octet addr 1 == 51 && octet addr 2 == 100) ||
    (octet addr 0 == 203 && octet addr 1 == 0 && octet addr 2 == 113)

def isCgnat (addr : BitVec 32) : Bool :=
  octet addr 0 == 100 && octet addr 1 &&& 0b11000000 == 64

def isBenchmarkV4 (addr : BitVec 32) : Bool :=
  octet addr 0 == 198 && (octet addr 1 == 18 || octet addr 1 == 19)

def isPublicV4 (addr : BitVec 32) : Bool :=
  !(addr == 0 || isLoopbackV4 addr || isPrivate addr || isLinkLocal addr || addr == BitVec.allOnes 32 ||
    isMulticastV4 addr || isDocumentation addr || octet addr 0 == 0 || isCgnat addr || isBenchmarkV4 addr)

def isPublicV6 (addr : BitVec 128) : Bool :=
  !(addr == 0 || addr == 1 || segment addr 0 &&& 0xff00 == 0xff00 || segment addr 0 &&& 0xfe00 == 0xfc00 ||
    segment addr 0 &&& 0xffc0 == 0xfe80 || (segment addr 0 == 0x2001 && segment addr 1 == 0xdb8))

def toIpv4Mapped (addr : BitVec 128) : Option (BitVec 32) :=
  if addr.toNat / 2 ^ 32 = 0xffff then some (addr.setWidth 32) else none

def canonicalIp : IpAddr → IpAddr
  | .v6 addr => ((toIpv4Mapped addr).map IpAddr.v4).getD (.v6 addr)
  | ip => ip

def isPublicInternet (ip : IpAddr) : Bool :=
  match canonicalIp ip with
  | .v4 addr => isPublicV4 addr
  | .v6 addr => isPublicV6 addr

def netmask (w prefixLen : Nat) : BitVec w :=
  if prefixLen = 0 then 0 else BitVec.allOnes w <<< (w - prefixLen)

def maskIp (ip : IpAddr) (prefixLen : Nat) : IpAddr :=
  match ip with
  | .v4 addr => .v4 (addr &&& netmask 32 prefixLen)
  | .v6 addr => .v6 (addr &&& netmask 128 prefixLen)

def prefixEq {w : Nat} (ip net : BitVec w) (prefixLen : Nat) : Bool :=
  ip &&& netmask w prefixLen == net &&& netmask w prefixLen

structure CidrGrant where
  network : IpAddr
  prefixLen : Nat
deriving DecidableEq

inductive CidrError where
  | empty
  | invalidPrefix (p : Str)
  | invalidIp (raw : Str)
  | invalidAddress (addr : Str)
  | prefixExceeds (prefixLen max : Nat)
deriving DecidableEq

def IpAddr.width : IpAddr → Nat
  | .v4 _ => 32
  | .v6 _ => 128

def CidrGrant.masked (addr : IpAddr) (prefixLen : Nat) : Except CidrError CidrGrant :=
  if addr.width < prefixLen then .error (.prefixExceeds prefixLen addr.width)
  else .ok { network := maskIp addr prefixLen, prefixLen := prefixLen }

def CidrGrant.parse (raw : Str) : Except CidrError CidrGrant :=
  let raw := trim raw
  if raw = [] then .error .empty
  else
    match splitOnce '/' raw with
    | some (addr, p) =>
      match parseUnsigned 256 p with
      | none => .error (.invalidPrefix p)
      | some prefixLen =>
        match parseIpAddr addr with
        | none => .error (.invalidAddress addr)
        | some ip => CidrGrant.masked ip prefixLen
    | none =>
      match parseIpAddr raw with
      | none => .error (.invalidIp raw)
      | some ip => CidrGrant.masked ip ip.width

def CidrGrant.contains (g : CidrGrant) (ip : IpAddr) : Bool :=
  match canonicalIp ip, canonicalIp g.network with
  | .v4 ip, .v4 net => prefixEq ip net (min g.prefixLen 32)
  | .v6 ip, .v6 net => prefixEq ip net (min g.prefixLen 128)
  | _, _ => false

def addressAllowed (ip : IpAddr) (grants : List CidrGrant) : Bool :=
  isPublicInternet ip || grants.any fun g => g.contains ip

def localhost : Str :=
  "localhost".toList

def dotLocalhost : Str :=
  ".localhost".toList

def metadataHost : Str :=
  "metadata.google.internal".toList

def isRestrictedHostname (host : Str) : Bool :=
  let h := toAsciiLowercase (trimEndMatches '.' (trim host))
  h == localhost || h == "localhost.localdomain".toList || endsWith h dotLocalhost || h == metadataHost

def localhostV4 : IpAddr :=
  .v4 0x7F000001#32

def localhostV6 : IpAddr :=
  .v6 1

def metadataAddr : IpAddr :=
  .v4 0xA9FEA9FE#32

def isLoopback (ip : IpAddr) : Bool :=
  match canonicalIp ip with
  | .v4 addr => isLoopbackV4 addr
  | .v6 addr => addr == 1

example : (CidrGrant.parse " 10.1.2.3/8".toList).toOption.map (fun g => (g.contains (.v6 0xFFFF0A000001#128), g.contains localhostV4)) =
    some (true, false) := by
  decide +kernel

end Bookclerk.Egress
