import OwlAuth.Base.Octets
import OwlAuth.Data.Values

/-!
# Destinations of mail and webhooks

Which addresses a name may resolve to.  An address is a number of 4 or 16 octets.

* `IpAddr`  the predicates of the standard library, octet by octet;
* `unconditionallyDenied`, `privateRequiresExplicitAllow`
    the two classes of addresses the policy knows;
* `SmtpEndpoint.validateResolution` the policy on a complete answer of the resolver;
* `Routable`, `Overridable`, …  what the classes are, as blocks of addresses;
* `validateAddress_admits`  an accepted address is routable or overridden.
-/

namespace OwlAuth

open Fallible Octets

structure SocketAddr where
  ip : IpAddr
  port : UInt16
  deriving DecidableEq

/-! ## the predicates of the standard library -/

def v4Octet (a : BitVec 32) (i : Nat) : Nat := octet 4 a.toNat i

variable (a : BitVec 128)

def v6Octet (i : Nat) : Nat := octet 16 a.toNat i

def ipv4 (a b c d : Nat) : BitVec 32 := BitVec.ofNat 32 (number [a, b, c, d])

namespace IpAddr

def isLoopback : IpAddr → Prop
  | v4 a => v4Octet a 0 = 127
  | v6 a => a.toNat = 1

def isUnspecified : IpAddr → Prop
  | v4 a => a.toNat = 0
  | v6 a => a.toNat = 0

def isMulticast : IpAddr → Prop
  | v4 a => 224 ≤ v4Octet a 0 ∧ v4Octet a 0 ≤ 239
  | v6 a => v6Octet a 0 = 0xff

instance : DecidablePred isLoopback
  | v4 _ => inferInstanceAs (Decidable (_ = _))
  | v6 _ => inferInstanceAs (Decidable (_ = _))

instance : DecidablePred isUnspecified
  | v4 _ => inferInstanceAs (Decidable (_ = _))
  | v6 _ => inferInstanceAs (Decidable (_ = _))

instance : DecidablePred isMulticast
  | v4 _ => inferInstanceAs (Decidable (_ ∧ _))
  | v6 _ => inferInstanceAs (Decidable (_ = _))

end IpAddr

def isLinkLocal (a : BitVec 32) : Prop := StartsWith 4 a.toNat [169, 254]
  deriving Decidable

def isPrivate (a : BitVec 32) : Prop :=
  v4Octet a 0 = 10 ∨ (v4Octet a 0 = 172 ∧ 16 ≤ v4Octet a 1 ∧ v4Octet a 1 ≤ 31)
    ∨ StartsWith 4 a.toNat [192, 168]
  deriving Decidable

/-- `to_ipv4_mapped` finds an address -/
def isIpv4Mapped : Prop :=
  StartsWith 16 a.toNat [0, 0, 0, 0, 0, 0, 0, 0, 0, 0, 0xff, 0xff]

/-! ## the policy -/

def isNonPublicIpv4 (a : BitVec 32) : Prop :=
  let first := v4Octet a 0
  let second := v4Octet a 1
  let third := v4Octet a 2
  first = 0
    ∨ (first = 100 ∧ second &&& 0xc0 = 64)
    ∨ (first = 192 ∧ second = 0 ∧ third = 0)
    ∨ (first = 192 ∧ second = 0 ∧ third = 2)
    ∨ (first = 192 ∧ second = 88 ∧ third = 99)
    ∨ (first = 198 ∧ (second = 18 ∨ second = 19))
    ∨ (first = 198 ∧ second = 51 ∧ third = 100)
    ∨ (first = 203 ∧ second = 0 ∧ third = 113)
    ∨ 240 ≤ first

def isIpv6UniqueLocal : Prop := v6Octet a 0 &&& 0xfe = 0xfc

def isIpv6LinkLocal : Prop := v6Octet a 0 = 0xfe ∧ v6Octet a 1 &&& 0xc0 = 0x80

/-- ordinary global unicast without the special assignments in it -/
def isGloballyRoutableIpv6 : Prop :=
  v6Octet a 0 &&& 0xe0 = 0x20
    ∧ ¬ (v6Octet a 0 = 0x20 ∧ v6Octet a 1 = 0x01 ∧ v6Octet a 2 ≤ 0x01)
    ∧ ¬ StartsWith 16 a.toNat [0x20, 0x01, 0x0d, 0xb8]
    ∧ ¬ StartsWith 16 a.toNat [0x20, 0x02]
    ∧ ¬ StartsWith 16 a.toNat [0x26, 0x20, 0x00, 0x4f, 0x80, 0x00]
    ∧ ¬ (v6Octet a 0 = 0x3f ∧ v6Octet a 1 = 0xff ∧ v6Octet a 2 &&& 0xf0 = 0)

instance : DecidablePred isIpv4Mapped := fun _ => inferInstanceAs (Decidable (StartsWith _ _ _))

instance : DecidablePred isNonPublicIpv4 := fun _ => inferInstanceAs (Decidable (_ ∨ _))

instance : DecidablePred isIpv6UniqueLocal := fun _ => inferInstanceAs (Decidable (_ = _))

instance : DecidablePred isIpv6LinkLocal := fun _ => inferInstanceAs (Decidable (_ ∧ _))

instance : DecidablePred isGloballyRoutableIpv6 := fun _ => inferInstanceAs (Decidable (_ ∧ _))

def unconditionallyDenied : IpAddr → Prop
  | .v4 a =>
    IpAddr.isLoopback (.v4 a) ∨ isLinkLocal a ∨ a = ipv4 255 255 255 255
      ∨ IpAddr.isUnspecified (.v4 a) ∨ IpAddr.isMulticast (.v4 a) ∨ v4Octet a 0 = 0
      ∨ 224 ≤ v4Octet a 0 ∨ a = ipv4 169 254 169 254 ∨ a = ipv4 100 100 100 200
  | .v6 a =>
    isIpv4Mapped a ∨ IpAddr.isLoopback (.v6 a) ∨ IpAddr.isUnspecified (.v6 a)
      ∨ IpAddr.isMulticast (.v6 a) ∨ isIpv6LinkLocal a
      ∨ (¬ isIpv6UniqueLocal a ∧ ¬ isGloballyRoutableIpv6 a)

def privateRequiresExplicitAllow : IpAddr → Prop
  | .v4 a => isPrivate a ∨ isNonPublicIpv4 a
  | .v6 a => isIpv6UniqueLocal a

instance : DecidablePred unconditionallyDenied
  | .v4 _ => inferInstanceAs (Decidable (_ ∨ _))
  | .v6 _ => inferInstanceAs (Decidable (_ ∨ _))

instance : DecidablePred privateRequiresExplicitAllow
  | .v4 _ => inferInstanceAs (Decidable (_ ∨ _))
  | .v6 a => inferInstanceAs (Decidable (isIpv6UniqueLocal a))

def validatePrivateRelayAllowlist (addresses : List IpAddr) : Tx Unit :=
  ensure (addresses.length ≤ 16 ∧ ∀ a ∈ addresses,
      ¬ (¬ a.isLoopback ∧ unconditionallyDenied a)
        ∧ ¬ (¬ a.isLoopback ∧ ¬ privateRequiresExplicitAllow a)) .invalidInput

structure SmtpEndpoint where
  hostname : String
  port : UInt16
  tlsMode : SmtpTlsMode
  explicitlyAllowedPrivateIps : List IpAddr
  developmentPlaintextEnabled : Bool

def maxDnsAnswers : Nat := 16

def maxCnameDepth : Nat := 8

/-- `parsesAsIp` is the parser of address literals -/
def SmtpEndpoint.validate (parsesAsIp : String → Bool) (e : SmtpEndpoint) : Tx Unit := do
  ensure (e.hostname ≠ "" ∧ e.hostname.utf8ByteSize ≤ 253 ∧ parsesAsIp e.hostname = false
    ∧ e.port ≠ 0 ∧ e.explicitlyAllowedPrivateIps.length ≤ 16) .invalidInput
  ensure (¬ (e.tlsMode = .developmentLoopbackPlaintext
    ∧ (e.developmentPlaintextEnabled = false ∨ e.hostname ≠ "localhost"))) .invalidInput

def SmtpEndpoint.validateAddress (e : SmtpEndpoint) (a : IpAddr) : Tx Unit := do
  let explicitlyAllowedTlsLoopback := e.tlsMode ≠ .developmentLoopbackPlaintext ∧ a.isLoopback
    ∧ a ∈ e.explicitlyAllowedPrivateIps
  ensure (¬ (unconditionallyDenied a
    ∧ ¬ (e.tlsMode = .developmentLoopbackPlaintext ∧ a.isLoopback)
    ∧ ¬ explicitlyAllowedTlsLoopback)) .disabled
  ensure (¬ (privateRequiresExplicitAllow a ∧ a ∉ e.explicitlyAllowedPrivateIps)) .disabled

def SmtpEndpoint.validateResolution (parsesAsIp : String → Bool) (e : SmtpEndpoint)
    (cnameDepth : Nat) (addresses : List IpAddr) : Tx Unit := do
  e.validate parsesAsIp
  ensure (cnameDepth ≤ maxCnameDepth ∧ addresses ≠ [] ∧ addresses.length ≤ maxDnsAnswers)
    .invalidInput
  addresses.forM e.validateAddress

/-! ## classes of addresses, as blocks -/

/-- the first octets of a block, the rest zero, and the number of bits that count -/
def inside4 (a : BitVec 32) (octets : List Nat) (length : Nat) : Prop :=
  InBlock 32 a.toNat (number octets * 256 ^ (4 - octets.length)) length

def inside6 (octets : List Nat) (length : Nat) : Prop :=
  InBlock 128 a.toNat (number octets * 256 ^ (16 - octets.length)) length

instance (a : BitVec 32) (octets : List Nat) (length : Nat) : Decidable (inside4 a octets length) :=
  inferInstanceAs (Decidable (InBlock _ _ _ _))

namespace IpAddr

def Loopback : IpAddr → Prop
  | v4 a => inside4 a [127] 8
  | v6 a => a.toNat = 1

def LinkLocal : IpAddr → Prop
  | v4 a => inside4 a [169, 254] 16
  | v6 a => inside6 a [0xfe, 0x80] 10

def Multicast : IpAddr → Prop
  | v4 a => inside4 a [224] 4
  | v6 a => inside6 a [0xff] 8

def Unspecified : IpAddr → Prop
  | v4 a => a.toNat = 0
  | v6 a => a.toNat = 0

def Ipv4Mapped : IpAddr → Prop
  | v4 _ => False
  | v6 a => inside6 a [0, 0, 0, 0, 0, 0, 0, 0, 0, 0, 0xff, 0xff] 96

/-- the services that hand out the credentials of a cloud machine -/
def Metadata : IpAddr → Prop
  | v4 a => inside4 a [169, 254, 169, 254] 32 ∨ inside4 a [100, 100, 100, 200] 32
  | v6 _ => False

/-- 6to4, Teredo, both translation blocks, and IPv4-compatible addresses other than `::` and `::1` -/
def TransitionV6 : IpAddr → Prop
  | v4 _ => False
  | v6 a => inside6 a [0x20, 0x02] 16 ∨ inside6 a [0x20, 0x01, 0, 0] 32
    ∨ inside6 a [0, 0x64, 0xff, 0x9b, 0, 0, 0, 0, 0, 0, 0, 0] 96
    ∨ inside6 a [0, 0x64, 0xff, 0x9b, 0, 1] 48
    ∨ inside6 a [0, 0, 0, 0, 0, 0, 0, 0, 0, 0, 0, 0] 96 ∧ 1 < a.toNat

/-- the anycast block of 6to4 relays -/
def RelayV4 : IpAddr → Prop
  | v4 a => inside4 a [192, 88, 99] 24
  | v6 _ => False

def PrivateUse : IpAddr → Prop
  | v4 a => inside4 a [10] 8 ∨ inside4 a [172, 16] 12 ∨ inside4 a [192, 168] 16
  | v6 _ => False

def Shared : IpAddr → Prop
  | v4 a => inside4 a [100, 64] 10
  | v6 _ => False

def UniqueLocal : IpAddr → Prop
  | v4 _ => False
  | v6 a => inside6 a [0xfc] 7

/-- protocol assignments, documentation and benchmarks -/
def SpecialUseV4 : IpAddr → Prop
  | v4 a => inside4 a [192, 0, 0] 24 ∨ inside4 a [192, 0, 2] 24 ∨ inside4 a [198, 18] 15
    ∨ inside4 a [198, 51, 100] 24 ∨ inside4 a [203, 0, 113] 24
  | v6 _ => False

/-- ordinary global unicast -/
def Routable : IpAddr → Prop
  | v4 a => ¬ inside4 a [0] 8 ∧ ¬ inside4 a [224] 3 ∧ ¬ Loopback (v4 a) ∧ ¬ LinkLocal (v4 a)
    ∧ ¬ PrivateUse (v4 a) ∧ ¬ Shared (v4 a) ∧ ¬ SpecialUseV4 (v4 a) ∧ ¬ RelayV4 (v4 a)
  | v6 a => inside6 a [0x20] 3 ∧ ¬ inside6 a [0x20, 0x01] 23
    ∧ ¬ inside6 a [0x20, 0x01, 0x0d, 0xb8] 32 ∧ ¬ inside6 a [0x20, 0x02] 16
    ∧ ¬ inside6 a [0x26, 0x20, 0, 0x4f, 0x80, 0] 48 ∧ ¬ inside6 a [0x3f, 0xff] 20

def Forbidden (a : IpAddr) : Prop :=
  a.Ipv4Mapped ∨ a.LinkLocal ∨ a.Multicast ∨ a.Unspecified ∨ a.Metadata ∨ a.TransitionV6

end IpAddr

variable {l : List Nat} {o k x : Nat} {a : IpAddr} {e : SmtpEndpoint} {u : Unit}

/-! ## the policy and the classes -/

section
variable (a : BitVec 32)

theorem inside4_octets (hl : l.length ≤ 4) (ho : ∀ x ∈ l, x < 256) :
    inside4 a l (8 * l.length) ↔ StartsWith 4 a.toNat l :=
  inBlock_octets a.isLt hl ho

theorem inside4_bits (hl : l.length < 4) (ho : ∀ x ∈ l ++ [o], x < 256) (hk : k ≤ 8) :
    inside4 a (l ++ [o]) (8 * l.length + k)
      ↔ StartsWith 4 a.toNat l ∧ v4Octet a l.length / 2 ^ (8 - k) = o / 2 ^ (8 - k) := by
  unfold inside4
  rw [List.length_append]
  exact inBlock_iff a.isLt hl ho hk

theorem inside4_one (hx : x < 256) : inside4 a [x] 8 ↔ v4Octet a 0 = x := by
  have h := inside4_octets a (l := [x]) (by simp) (by simpa using hx)
  exact h.trans (and_iff_left trivial)

theorem inside4_three {y z} (hx : x < 256) (hy : y < 256) (hz : z < 256) :
    inside4 a [x, y, z] 24 ↔ v4Octet a 0 = x ∧ v4Octet a 1 = y ∧ v4Octet a 2 = z := by
  have h := inside4_octets a (l := [x, y, z]) (by simp) (by simp [hx, hy, hz])
  exact h.trans (and_congr_right fun _ => and_congr_right fun _ => and_iff_left trivial)

theorem loopback4_iff : IpAddr.Loopback (.v4 a) ↔ v4Octet a 0 = 127 := inside4_one a (by decide)

theorem linkLocal4_iff : IpAddr.LinkLocal (.v4 a) ↔ isLinkLocal a :=
  inside4_octets a (l := [169, 254]) (by decide) (by decide)

theorem multicast4_iff : IpAddr.Multicast (.v4 a) ↔ v4Octet a 0 / 16 = 14 := by
  have h := inside4_bits a (l := []) (o := 224) (k := 4) (by decide) (by decide) (by decide)
  exact h.trans (and_iff_right trivial)

theorem privateUse4_iff : IpAddr.PrivateUse (.v4 a) ↔ isPrivate a := by
  have h172 : inside4 a [172, 16] 12 ↔ v4Octet a 0 = 172 ∧ v4Octet a 1 / 16 = 1 :=
    (inside4_bits a (l := [172]) (o := 16) (k := 4) (by decide) (by decide) (by decide)).trans
      (and_congr_left' (and_iff_left trivial))
  have h192 : inside4 a [192, 168] 16 ↔ StartsWith 4 a.toNat [192, 168] :=
    inside4_octets a (l := [192, 168]) (by decide) (by decide)
  show inside4 a [10] 8 ∨ inside4 a [172, 16] 12 ∨ inside4 a [192, 168] 16 ↔ _
  rw [inside4_one a (by decide), h172, h192, isPrivate]
  refine or_congr_right (or_congr_left ?_)
  omega

theorem shared4_iff : IpAddr.Shared (.v4 a) ↔ v4Octet a 0 = 100 ∧ v4Octet a 1 &&& 0xc0 = 64 := by
  have hbits : inside4 a [100, 64] 10 ↔ v4Octet a 0 = 100 ∧ v4Octet a 1 / 64 = 1 :=
    (inside4_bits a (l := [100]) (o := 64) (k := 2) (by decide) (by decide) (by decide)).trans
      (and_congr_left' (and_iff_left trivial))
  have hmask : v4Octet a 1 &&& 0xc0 = v4Octet a 1 / 64 * 64 := octet_land 6 (by decide)
  rw [IpAddr.Shared, hbits, hmask]
  omega

theorem specialUse4_iff : IpAddr.SpecialUseV4 (.v4 a)
    ↔ (v4Octet a 0 = 192 ∧ v4Octet a 1 = 0 ∧ v4Octet a 2 = 0)
      ∨ (v4Octet a 0 = 192 ∧ v4Octet a 1 = 0 ∧ v4Octet a 2 = 2)
      ∨ (v4Octet a 0 = 198 ∧ v4Octet a 1 / 2 = 9)
      ∨ (v4Octet a 0 = 198 ∧ v4Octet a 1 = 51 ∧ v4Octet a 2 = 100)
      ∨ (v4Octet a 0 = 203 ∧ v4Octet a 1 = 0 ∧ v4Octet a 2 = 113) := by
  have h198 : inside4 a [198, 18] 15 ↔ v4Octet a 0 = 198 ∧ v4Octet a 1 / 2 = 9 :=
    (inside4_bits a (l := [198]) (o := 18) (k := 7) (by decide) (by decide) (by decide)).trans
      (and_congr_left' (and_iff_left trivial))
  show inside4 a [192, 0, 0] 24 ∨ inside4 a [192, 0, 2] 24 ∨ inside4 a [198, 18] 15
    ∨ inside4 a [198, 51, 100] 24 ∨ inside4 a [203, 0, 113] 24 ↔ _
  rw [h198, inside4_three a (by decide) (by decide) (by decide),
    inside4_three a (by decide) (by decide) (by decide),
    inside4_three a (by decide) (by decide) (by decide),
    inside4_three a (by decide) (by decide) (by decide)]

theorem relay4_iff :
    IpAddr.RelayV4 (.v4 a) ↔ v4Octet a 0 = 192 ∧ v4Octet a 1 = 88 ∧ v4Octet a 2 = 99 :=
  inside4_three a (by decide) (by decide) (by decide)

theorem upper4_iff : inside4 a [224] 3 ↔ 224 ≤ v4Octet a 0 := by
  have hlt : v4Octet a 0 < 256 := octet_lt 4 a.toNat 0
  have hbits : inside4 a [224] 3 ↔ v4Octet a 0 / 32 = 7 :=
    (inside4_bits a (l := []) (o := 224) (k := 3) (by decide) (by decide) (by decide)).trans
      (and_iff_right trivial)
  rw [hbits]
  omega

theorem metadata4_iff :
    IpAddr.Metadata (.v4 a) ↔ a = ipv4 169 254 169 254 ∨ a = ipv4 100 100 100 200 := by
  have hone : ∀ b : BitVec 32, ∀ n, n = b.toNat → (InBlock 32 a.toNat n 32 ↔ a = b) := by
    rintro b n rfl
    rw [InBlock, Nat.sub_self, Nat.pow_zero, Nat.div_one, Nat.div_one, BitVec.toNat_inj]
  exact or_congr (hone _ _ rfl) (hone _ _ rfl)

theorem routable4 (hd : ¬ unconditionallyDenied (.v4 a))
    (hr : ¬ privateRequiresExplicitAllow (.v4 a)) : IpAddr.Routable (.v4 a) := by
  have hp : ¬ isPrivate a := fun h => hr (.inl h)
  have hn : ¬ isNonPublicIpv4 a := fun h => hr (.inr h)
  have hlink : ¬ isLinkLocal a := fun h => hd (.inr (.inl h))
  have hlower : v4Octet a 0 ≠ 127 ∧ v4Octet a 0 ≠ 0 ∧ ¬ 224 ≤ v4Octet a 0 :=
    ⟨fun h => hd (.inl h), fun h => hd (.inr (.inr (.inr (.inr (.inr (.inl h)))))),
      fun h => hd (.inr (.inr (.inr (.inr (.inr (.inr (.inl h)))))))⟩
  unfold isNonPublicIpv4 at hn
  refine ⟨?_, ?_, ?_, ?_, ?_, ?_, ?_, ?_⟩
  · rw [inside4_one a (by decide)]; exact hlower.2.1
  · rw [upper4_iff]; exact hlower.2.2
  · rw [loopback4_iff]; exact hlower.1
  · rw [linkLocal4_iff]; exact hlink
  · rw [privateUse4_iff]; exact hp
  · rw [shared4_iff]; exact fun h => hn (.inr (.inl h))
  · rw [specialUse4_iff]; omega
  · rw [relay4_iff]; omega

theorem overridable4 (hd : ¬ unconditionallyDenied (.v4 a))
    (hr : privateRequiresExplicitAllow (.v4 a)) :
    IpAddr.PrivateUse (.v4 a) ∨ IpAddr.Shared (.v4 a) ∨ IpAddr.SpecialUseV4 (.v4 a)
      ∨ IpAddr.RelayV4 (.v4 a) := by
  rw [privateUse4_iff, shared4_iff, specialUse4_iff, relay4_iff]
  have hlower : v4Octet a 0 ≠ 0 ∧ ¬ 224 ≤ v4Octet a 0 :=
    ⟨fun h => hd (.inr (.inr (.inr (.inr (.inr (.inl h)))))),
      fun h => hd (.inr (.inr (.inr (.inr (.inr (.inr (.inl h)))))))⟩
  rcases hr with hr | hr
  · exact .inl hr
  · rcases hr with h | h | h | h | h | ⟨h, h'⟩ | h | h | h
    · exact absurd h hlower.1
    · exact .inr (.inl h)
    · exact .inr (.inr (.inl (.inl h)))
    · exact .inr (.inr (.inl (.inr (.inl h))))
    · exact .inr (.inr (.inr h))
    · exact .inr (.inr (.inl (.inr (.inr (.inl ⟨h, by omega⟩)))))
    · exact .inr (.inr (.inl (.inr (.inr (.inr (.inl h))))))
    · exact .inr (.inr (.inl (.inr (.inr (.inr (.inr h))))))
    · exact absurd (by omega) hlower.2

theorem forbidden4 (h : IpAddr.Forbidden (.v4 a)) :
    unconditionallyDenied (.v4 a) ∧ ¬ IpAddr.isLoopback (.v4 a) := by
  rcases h with h | h | h | h | h | h
  · exact h.elim
  · have hl := (linkLocal4_iff a).mp h
    refine ⟨.inr (.inl hl), fun h127 => ?_⟩
    cases h127.symm.trans hl.1
  · rw [multicast4_iff] at h
    refine ⟨.inr (.inr (.inr (.inr (.inr (.inr (.inl ?_)))))), fun h127 => ?_⟩
    · omega
    · rw [show v4Octet a 0 = 127 from h127] at h
      omega
  · refine ⟨.inr (.inr (.inr (.inl h))), fun h127 => ?_⟩
    have hzero : v4Octet a 0 = 0 := by
      rw [v4Octet, octet, show a.toNat = 0 from h, Nat.zero_div]
    cases h127.symm.trans hzero
  · rcases (metadata4_iff a).mp h with rfl | rfl
    · exact ⟨by decide, by decide⟩
    · exact ⟨by decide, by decide⟩
  · exact h.elim

end

section
variable (a : BitVec 128)

theorem inside6_octets (hl : l.length ≤ 16) (ho : ∀ x ∈ l, x < 256) :
    inside6 a l (8 * l.length) ↔ StartsWith 16 a.toNat l :=
  inBlock_octets a.isLt hl ho

theorem inside6_bits (hl : l.length < 16) (ho : ∀ x ∈ l ++ [o], x < 256) (hk : k ≤ 8) :
    inside6 a (l ++ [o]) (8 * l.length + k)
      ↔ StartsWith 16 a.toNat l ∧ v6Octet a l.length / 2 ^ (8 - k) = o / 2 ^ (8 - k) := by
  unfold inside6
  rw [List.length_append]
  exact inBlock_iff a.isLt hl ho hk

theorem mapped6_iff : IpAddr.Ipv4Mapped (.v6 a) ↔ isIpv4Mapped a :=
  inside6_octets a (l := [0, 0, 0, 0, 0, 0, 0, 0, 0, 0, 0xff, 0xff]) (by decide) (by decide)

theorem linkLocal6_iff : IpAddr.LinkLocal (.v6 a) ↔ isIpv6LinkLocal a := by
  have hbits : inside6 a [0xfe, 0x80] 10 ↔ v6Octet a 0 = 0xfe ∧ v6Octet a 1 / 64 = 2 :=
    (inside6_bits a (l := [0xfe]) (o := 0x80) (k := 2) (by decide) (by decide) (by decide)).trans
      (and_congr_left' (and_iff_left trivial))
  have hmask : v6Octet a 1 &&& 0xc0 = v6Octet a 1 / 64 * 64 := octet_land 6 (by decide)
  rw [IpAddr.LinkLocal, hbits, isIpv6LinkLocal, hmask]
  omega

theorem multicast6_iff : IpAddr.Multicast (.v6 a) ↔ v6Octet a 0 = 0xff :=
  (inside6_octets a (l := [0xff]) (by decide) (by decide)).trans (and_iff_left trivial)

theorem uniqueLocal6_iff : IpAddr.UniqueLocal (.v6 a) ↔ isIpv6UniqueLocal a := by
  have hbits : inside6 a [0xfc] 7 ↔ v6Octet a 0 / 2 = 126 :=
    (inside6_bits a (l := []) (o := 0xfc) (k := 7) (by decide) (by decide) (by decide)).trans
      (and_iff_right trivial)
  have hmask : v6Octet a 0 &&& 0xfe = v6Octet a 0 / 2 * 2 := octet_land 1 (by decide)
  rw [IpAddr.UniqueLocal, hbits, isIpv6UniqueLocal, hmask]
  omega

theorem routable6_iff : IpAddr.Routable (.v6 a) ↔ isGloballyRoutableIpv6 a := by
  have hunicast : inside6 a [0x20] 3 ↔ v6Octet a 0 &&& 0xe0 = 0x20 := by
    have hbits : inside6 a [0x20] 3 ↔ v6Octet a 0 / 32 = 1 :=
      (inside6_bits a (l := []) (o := 0x20) (k := 3) (by decide) (by decide) (by decide)).trans
        (and_iff_right trivial)
    have hmask : v6Octet a 0 &&& 0xe0 = v6Octet a 0 / 32 * 32 := octet_land 5 (by decide)
    rw [hbits, hmask]
    omega
  have hspecial : inside6 a [0x20, 0x01] 23
      ↔ v6Octet a 0 = 0x20 ∧ v6Octet a 1 = 0x01 ∧ v6Octet a 2 ≤ 0x01 := by
    have hbits : inside6 a [0x20, 0x01, 0] 23
        ↔ (v6Octet a 0 = 0x20 ∧ v6Octet a 1 = 0x01) ∧ v6Octet a 2 / 2 = 0 :=
      (inside6_bits a (l := [0x20, 0x01]) (o := 0) (k := 7) (by decide) (by decide)
        (by decide)).trans
        (and_congr_left' (and_congr_right fun _ => and_iff_left trivial))
    show inside6 a [0x20, 0x01, 0] 23 ↔ _
    rw [hbits]
    omega
  have hdocumentation : inside6 a [0x3f, 0xff] 20
      ↔ v6Octet a 0 = 0x3f ∧ v6Octet a 1 = 0xff ∧ v6Octet a 2 &&& 0xf0 = 0 := by
    have hbits : inside6 a [0x3f, 0xff, 0] 20
        ↔ (v6Octet a 0 = 0x3f ∧ v6Octet a 1 = 0xff) ∧ v6Octet a 2 / 16 = 0 :=
      (inside6_bits a (l := [0x3f, 0xff]) (o := 0) (k := 4) (by decide) (by decide)
        (by decide)).trans
        (and_congr_left' (and_congr_right fun _ => and_iff_left trivial))
    have hmask : v6Octet a 2 &&& 0xf0 = v6Octet a 2 / 16 * 16 := octet_land 4 (by decide)
    show inside6 a [0x3f, 0xff, 0] 20 ↔ _
    rw [hbits, hmask]
    omega
  have hexample := inside6_octets a (l := [0x20, 0x01, 0x0d, 0xb8]) (by decide) (by decide)
  have hsixtofour := inside6_octets a (l := [0x20, 0x02]) (by decide) (by decide)
  have hdelegation := inside6_octets a (l := [0x26, 0x20, 0, 0x4f, 0x80, 0]) (by decide) (by decide)
  exact and_congr hunicast (and_congr (not_congr hspecial) (and_congr (not_congr hexample)
    (and_congr (not_congr hsixtofour) (and_congr (not_congr hdelegation)
      (not_congr hdocumentation)))))

theorem denied6_of_first (h : v6Octet a 0 = 0) : unconditionallyDenied (.v6 a) := by
  refine .inr (.inr (.inr (.inr (.inr ⟨?_, fun hg => ?_⟩))))
  · rw [isIpv6UniqueLocal, h]
    decide
  · have hfirst := hg.1
    rw [h] at hfirst
    exact absurd hfirst (by decide)

theorem denied6_of_unicast (h : v6Octet a 0 = 0x20) (hg : ¬ isGloballyRoutableIpv6 a) :
    unconditionallyDenied (.v6 a) := by
  refine .inr (.inr (.inr (.inr (.inr ⟨?_, hg⟩))))
  rw [isIpv6UniqueLocal, h]
  decide

theorem transition6 (h : IpAddr.TransitionV6 (.v6 a)) :
    unconditionallyDenied (.v6 a) ∧ a.toNat ≠ 1 := by
  -- `::1` has no octet but the last
  have hone : a.toNat = 1 → v6Octet a 0 = 0 ∧ v6Octet a 1 = 0 := by
    intro h1
    rw [v6Octet, v6Octet, h1]
    decide
  rcases h with h | h | h | h | ⟨h, hlarge⟩
  · obtain ⟨h0, h1, _⟩ := (inside6_octets a (l := [0x20, 0x02]) (by decide) (by decide)).mp h
    have hsixtofour : StartsWith 16 a.toNat [0x20, 0x02] := ⟨h0, h1, trivial⟩
    exact ⟨denied6_of_unicast a h0 fun hg => hg.2.2.2.1 hsixtofour,
      fun he => by cases h0.symm.trans (hone he).1⟩
  · obtain ⟨h0, h1, h2, _⟩ :=
      (inside6_octets a (l := [0x20, 0x01, 0, 0]) (by decide) (by decide)).mp h
    have hteredo : v6Octet a 2 ≤ 0x01 := by
      rw [show v6Octet a 2 = 0 from h2]
      decide
    exact ⟨denied6_of_unicast a h0 fun hg => hg.2.1 ⟨h0, h1, hteredo⟩,
      fun he => by cases h0.symm.trans (hone he).1⟩
  · obtain ⟨h0, h1, _⟩ := (inside6_octets a (l := [0, 0x64, 0xff, 0x9b, 0, 0, 0, 0, 0, 0, 0, 0])
      (by decide) (by decide)).mp h
    exact ⟨denied6_of_first a h0, fun he => by cases h1.symm.trans (hone he).2⟩
  · obtain ⟨h0, h1, _⟩ :=
      (inside6_octets a (l := [0, 0x64, 0xff, 0x9b, 0, 1]) (by decide) (by decide)).mp h
    exact ⟨denied6_of_first a h0, fun he => by cases h1.symm.trans (hone he).2⟩
  · obtain ⟨h0, _⟩ := (inside6_octets a (l := [0, 0, 0, 0, 0, 0, 0, 0, 0, 0, 0, 0]) (by decide)
      (by decide)).mp h
    exact ⟨denied6_of_first a h0, by omega⟩

theorem forbidden6 (h : IpAddr.Forbidden (.v6 a)) :
    unconditionallyDenied (.v6 a) ∧ ¬ IpAddr.isLoopback (.v6 a) := by
  have hone : a.toNat = 1 → v6Octet a 0 = 0 ∧ v6Octet a 10 = 0 := by
    intro h1
    rw [v6Octet, v6Octet, h1]
    decide
  rcases h with h | h | h | h | h | h
  · have hm := (mapped6_iff a).mp h
    have h10 : v6Octet a 10 = 0xff := hm.2.2.2.2.2.2.2.2.2.2.1
    exact ⟨.inl hm, fun he => by cases h10.symm.trans (hone he).2⟩
  · have hl := (linkLocal6_iff a).mp h
    exact ⟨.inr (.inr (.inr (.inr (.inl hl)))), fun he => by cases hl.1.symm.trans (hone he).1⟩
  · have hm := (multicast6_iff a).mp h
    exact ⟨.inr (.inr (.inr (.inl hm))), fun he => by cases hm.symm.trans (hone he).1⟩
  · exact ⟨.inr (.inr (.inl h)), fun he => by cases he.symm.trans h⟩
  · exact h.elim
  · exact transition6 a h

end

/-! ## addresses of both versions -/

namespace IpAddr

/-- what an operator may allow one by one -/
def Overridable (a : IpAddr) : Prop :=
  a.PrivateUse ∨ a.Shared ∨ a.UniqueLocal ∨ a.Loopback ∨ a.SpecialUseV4 ∨ a.RelayV4

theorem isLoopback_iff : ∀ a : IpAddr, a.isLoopback ↔ a.Loopback
  | v4 a => (loopback4_iff a).symm
  | v6 _ => Iff.rfl

theorem routable_of_policy (hd : ¬ unconditionallyDenied a) (hr : ¬ privateRequiresExplicitAllow a) :
    a.Routable := by
  cases a with
  | v4 a => exact routable4 a hd hr
  | v6 a =>
    by_contra hg
    rw [routable6_iff] at hg
    exact hd (.inr (.inr (.inr (.inr (.inr ⟨hr, hg⟩)))))

theorem overridable_of_policy (hd : ¬ unconditionallyDenied a) (hr : privateRequiresExplicitAllow a) :
    a.Overridable := by
  cases a with
  | v4 a =>
    rcases overridable4 a hd hr with h | h | h | h
    · exact .inl h
    · exact .inr (.inl h)
    · exact .inr (.inr (.inr (.inr (.inl h))))
    · exact .inr (.inr (.inr (.inr (.inr h))))
  | v6 a => exact .inr (.inr (.inl ((uniqueLocal6_iff a).mpr hr)))

theorem denied_of_forbidden (h : a.Forbidden) : unconditionallyDenied a ∧ ¬ a.isLoopback := by
  cases a with
  | v4 a => exact forbidden4 a h
  | v6 a => exact forbidden6 a h

end IpAddr

/-! ## accepted answers -/

/-- ordinary global unicast, or allowed explicitly; never one of the forbidden classes -/
structure Admitted (allowed : List IpAddr) (a : IpAddr) : Prop where
  routable : a.Routable ∨ a ∈ allowed ∧ a.Overridable
  notForbidden : ¬ a.Forbidden

theorem validateAddress_admits (hmode : e.tlsMode ≠ .developmentLoopbackPlaintext)
    (h : e.validateAddress a = .ok u) : Admitted e.explicitlyAllowedPrivateIps a := by
  obtain ⟨_, hdenied, h⟩ := bind_ok.mp h
  have hprivate := ensure_ok.mp h
  have hdenied := ensure_ok.mp hdenied
  -- only a loopback address that was allowed passes although it is denied
  have hpassed : unconditionallyDenied a → a.isLoopback ∧ a ∈ e.explicitlyAllowedPrivateIps := by
    intro hd
    by_contra hno
    exact hdenied ⟨hd, fun hdev => hmode hdev.1, fun hallowed => hno hallowed.2⟩
  refine ⟨?_, fun hf => ?_⟩
  · by_cases hd : unconditionallyDenied a
    · obtain ⟨hl, ha⟩ := hpassed hd
      exact .inr ⟨ha, .inr (.inr (.inr (.inl ((IpAddr.isLoopback_iff a).mp hl))))⟩
    · by_cases hr : privateRequiresExplicitAllow a
      · have ha : a ∈ e.explicitlyAllowedPrivateIps := by
          by_contra hno
          exact hprivate ⟨hr, hno⟩
        exact .inr ⟨ha, IpAddr.overridable_of_policy hd hr⟩
      · exact .inl (IpAddr.routable_of_policy hd hr)
  · obtain ⟨hd, hl⟩ := IpAddr.denied_of_forbidden hf
    exact hl (hpassed hd).1

end OwlAuth
