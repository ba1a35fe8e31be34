import OwlAuth.Base.Octets
import OwlAuth.Data.Values

/-!
# Protection contexts

What a sealed value belongs to.  A context is encoded canonically and authenticated with the value;
two contexts never have the same encoding.

* `BoundedText`, `ProviderId`  identifiers and labels, with their grammar;
* `ProtectionContextParts`  the parts of a context;
* `encodeV1`  domain, version, and a tagged field with its length for each part;
* `ProtectionContext`  parts with their encoding;
* `ProtectionContext.parts_inj` the encoding is injective.
-/

namespace OwlAuth

open Fallible Octets

inductive ValueError
  | empty | tooLong | invalidLength | invalidCharacter | invalidValue
  deriving DecidableEq

/-! ## identifiers -/

def ascii (text : String) : List UInt8 := text.toList.map fun c => c.toNat.toUInt8

variable (b : UInt8)

def isAsciiLowercase : Bool := 0x61 ≤ b && b ≤ 0x7a

def isAsciiUppercase : Bool := 0x41 ≤ b && b ≤ 0x5a

def isAsciiDigit : Bool := 0x30 ≤ b && b ≤ 0x39

/-- letters, digits and `.`, `_`, `:`, `-` -/
def identifierByte : Bool :=
  isAsciiLowercase b || isAsciiUppercase b || isAsciiDigit b || b == 0x2e || b == 0x5f || b == 0x3a
    || b == 0x2d

/-- lowercase letters, digits and `.`, `_`, `-` -/
def labelByte : Bool :=
  isAsciiLowercase b || isAsciiDigit b || b == 0x2e || b == 0x5f || b == 0x2d

/-- the bytes of a text that is not empty, not too long, and of allowed characters -/
structure BoundedText (maxLen : Nat) (allowed : UInt8 → Bool) where
  bytes : List UInt8
  nonempty : bytes ≠ []
  bounded : bytes.length ≤ maxLen
  wellFormed : ∀ b ∈ bytes, allowed b = true

abbrev DeploymentId := BoundedText 128 identifierByte

abbrev ProjectId := BoundedText 128 identifierByte

abbrev MaterialId := BoundedText 128 identifierByte

abbrev OwnerId := BoundedText 128 identifierByte

abbrev OwnerKind := BoundedText 64 labelByte

abbrev FieldPurpose := BoundedText 64 labelByte

/-- a lowercase letter, then lowercase letters, digits, `_` and `-` -/
structure ProviderId where
  bytes : List UInt8
  bounded : bytes.length ≤ 64
  first : ∃ b ∈ bytes.head?, isAsciiLowercase b = true
  rest : ∀ b ∈ bytes.tail, (isAsciiLowercase b || isAsciiDigit b || b == 0x5f || b == 0x2d) = true

abbrev ProviderFormatVersion := { v : UInt16 // v ≠ 0 }

theorem BoundedText.eq_of_bytes {n : Nat} {p : UInt8 → Bool} {x y : BoundedText n p}
    (h : x.bytes = y.bytes) : x = y := by
  cases x
  cases y
  cases h
  rfl

theorem ProviderId.eq_of_bytes {x y : ProviderId} (h : x.bytes = y.bytes) : x = y := by
  cases x
  cases y
  cases h
  rfl

instance : DecidableEq ProviderId := fun x y =>
  decidable_of_iff (x.bytes = y.bytes) ⟨ProviderId.eq_of_bytes, congrArg ProviderId.bytes⟩

/-! ## parts and their encoding -/

inductive ContextVersion
  | v1

def ContextVersion.get : ContextVersion → UInt16
  | v1 => 1

inductive Scope
  | deployment
  | project (id : ProjectId)

structure ProtectionContextParts where
  version : ContextVersion
  deploymentId : DeploymentId
  scope : Scope
  materialId : MaterialId
  materialKind : MaterialKind
  ownerKind : OwnerKind
  ownerId : OwnerId
  generation : UInt64
  fieldPurpose : FieldPurpose
  providerId : ProviderId
  providerFormatVersion : ProviderFormatVersion

/-- `owlauth-key-provider-context`, closed with a zero byte -/
def contextDomain : List UInt8 :=
  [0x6f, 0x77, 0x6c, 0x61, 0x75, 0x74, 0x68, 0x2d, 0x6b, 0x65, 0x79, 0x2d, 0x70, 0x72, 0x6f, 0x76,
    0x69, 0x64, 0x65, 0x72, 0x2d, 0x63, 0x6f, 0x6e, 0x74, 0x65, 0x78, 0x74, 0]

def pushField (output : List UInt8) (tag : UInt8) (value : List UInt8) :
    Except ValueError (List UInt8) := do
  ensure (value.length < 2 ^ 32) .tooLong
  pure (output ++ field tag value)

def pushScope (output : List UInt8) : Scope → Except ValueError (List UInt8)
  | .deployment => pushField output 2 [0]
  | .project id => do
    let output ← pushField output 2 [1]
    pushField output 3 id.bytes

def materialKindByte : MaterialKind → UInt8
  | .signingKey => 1
  | .configurationSecret => 2

variable (p : ProtectionContextParts)

def encodeV1 : Except ValueError (List UInt8) := do
  let output := contextDomain ++ bigEndian 2 p.version.get.toNat
  let output ← pushField output 1 p.deploymentId.bytes
  let output ← pushScope output p.scope
  let output ← pushField output 4 p.materialId.bytes
  let output ← pushField output 5 [materialKindByte p.materialKind]
  let output ← pushField output 6 p.ownerKind.bytes
  let output ← pushField output 7 p.ownerId.bytes
  let output ← pushField output 8 (bigEndian 8 p.generation.toNat)
  let output ← pushField output 9 p.fieldPurpose.bytes
  let output ← pushField output 10 p.providerId.bytes
  pushField output 11 (bigEndian 2 p.providerFormatVersion.val.toNat)

def maxCanonicalLen : Nat := 2048

/-- parts that were validated, with their encoding -/
structure ProtectionContext where
  parts : ProtectionContextParts
  canonical : List UInt8
  generation : parts.generation ≠ 0
  encoded : encodeV1 parts = .ok canonical
  bounded : canonical.length ≤ maxCanonicalLen

/-! ## the encoding is injective -/

def scopeBytes : Scope → List UInt8
  | .deployment => field 2 [0]
  | .project id => field 2 [1] ++ field 3 id.bytes

def contextBytes : List UInt8 :=
  contextDomain ++ (bigEndian 2 p.version.get.toNat ++ (field 1 p.deploymentId.bytes
    ++ (scopeBytes p.scope ++ (field 4 p.materialId.bytes
      ++ (field 5 [materialKindByte p.materialKind] ++ (field 6 p.ownerKind.bytes
        ++ (field 7 p.ownerId.bytes ++ (field 8 (bigEndian 8 p.generation.toNat)
          ++ (field 9 p.fieldPurpose.bytes ++ (field 10 p.providerId.bytes
            ++ (field 11 (bigEndian 2 p.providerFormatVersion.val.toNat) ++ [])))))))))))

theorem pushField_eq {output value tag} (h : value.length < 256 ^ 4) :
    pushField output tag value = .ok (output ++ field tag value) := by
  have hfits : value.length < 2 ^ 32 := h
  rw [pushField, ensure_of _ hfits]
  rfl

theorem BoundedText.length_lt {n p} (x : BoundedText n p)
    (hn : n ≤ 128) : x.bytes.length < 256 ^ 4 := by
  have h := x.bounded
  omega

theorem ProviderId.length_lt (x : ProviderId) : x.bytes.length < 256 ^ 4 := by
  have h := x.bounded
  omega

theorem length_bigEndian_lt (n v : Nat) (hn : n ≤ 8) : (bigEndian n v).length < 256 ^ 4 := by
  rw [length_bigEndian]
  omega

theorem pushScope_eq {output} (s : Scope) : pushScope output s = .ok (output ++ scopeBytes s) := by
  cases s with
  | deployment => exact pushField_eq (by decide)
  | project id =>
    rw [pushScope, pushField_eq (by decide), ok_bind, pushField_eq (id.length_lt (by decide)),
      List.append_assoc]
    rfl

theorem encodeV1_eq : encodeV1 p = .ok (contextBytes p) := by
  unfold encodeV1
  dsimp only
  rw [pushField_eq (p.deploymentId.length_lt (by decide)), ok_bind, pushScope_eq, ok_bind,
    pushField_eq (p.materialId.length_lt (by decide)), ok_bind, pushField_eq (by simp), ok_bind,
    pushField_eq (p.ownerKind.length_lt (by decide)), ok_bind,
    pushField_eq (p.ownerId.length_lt (by decide)), ok_bind,
    pushField_eq (length_bigEndian_lt 8 _ (by decide)), ok_bind,
    pushField_eq (p.fieldPurpose.length_lt (by decide)), ok_bind,
    pushField_eq p.providerId.length_lt, ok_bind,
    pushField_eq (length_bigEndian_lt 2 _ (by decide))]
  simp only [contextBytes, List.append_assoc, List.append_nil]

theorem length_scopeBytes_le (s : Scope) : (scopeBytes s).length ≤ 139 := by
  cases s with
  | deployment => decide
  | project id =>
    have h := id.bounded
    simp only [scopeBytes, List.length_append, length_field, List.length_singleton]
    omega

theorem length_contextBytes_le : (contextBytes p).length ≤ maxCanonicalLen := by
  have hscope := length_scopeBytes_le p.scope
  have h₁ := p.deploymentId.bounded
  have h₄ := p.materialId.bounded
  have h₆ := p.ownerKind.bounded
  have h₇ := p.ownerId.bounded
  have h₉ := p.fieldPurpose.bounded
  have h₁₀ := p.providerId.bounded
  have hdomain : contextDomain.length = 29 := rfl
  simp only [contextBytes, List.length_append, length_field, length_bigEndian,
    List.length_singleton, List.length_nil, hdomain, maxCanonicalLen]
  omega

def ProtectionContext.ofParts (h : p.generation ≠ 0) : ProtectionContext :=
  ⟨p, contextBytes p, h, encodeV1_eq p, length_contextBytes_le p⟩

theorem scopeBytes_append_inj {s s' : Scope} {rest rest' : List UInt8}
    (h : scopeBytes s ++ rest = scopeBytes s' ++ rest') : s = s' ∧ rest = rest' := by
  cases s with
  | deployment =>
    cases s' with
    | deployment => exact ⟨rfl, (field_append_inj (by decide) (by decide) h).2.2⟩
    | project id' =>
      rw [scopeBytes, scopeBytes, List.append_assoc] at h
      cases (field_append_inj (by decide) (by decide) h).2.1
  | project id =>
    cases s' with
    | deployment =>
      rw [scopeBytes, scopeBytes, List.append_assoc] at h
      cases (field_append_inj (by decide) (by decide) h).2.1
    | project id' =>
      rw [scopeBytes, scopeBytes, List.append_assoc, List.append_assoc] at h
      obtain ⟨_, _, h⟩ := field_append_inj (by decide) (by decide) h
      obtain ⟨_, hid, h⟩ :=
        field_append_inj (id.length_lt (by decide)) (id'.length_lt (by decide)) h
      exact ⟨congrArg Scope.project (BoundedText.eq_of_bytes hid), h⟩

theorem materialKindByte_inj {k k'} (h : [materialKindByte k] = [materialKindByte k']) : k = k':= by
  cases k <;> cases k' <;> first | rfl | cases h

theorem contextBytes_inj {p p'} (h : contextBytes p = contextBytes p') : p = p' := by
  obtain ⟨version, deploymentId, _, materialId, _, ownerKind, ownerId, generation,
    fieldPurpose, providerId, providerFormatVersion⟩ := p
  obtain ⟨version', deploymentId', _, materialId', _, ownerKind', ownerId',
    generation', fieldPurpose', providerId', providerFormatVersion'⟩ := p'
  obtain ⟨_, h⟩ := List.append_inj h rfl
  obtain ⟨_, h⟩ := List.append_inj h (by simp)
  obtain ⟨_, h₁, h⟩ := field_append_inj (deploymentId.length_lt (by decide))
    (deploymentId'.length_lt (by decide)) h
  obtain ⟨h₂, h⟩ := scopeBytes_append_inj h
  obtain ⟨_, h₄, h⟩ := field_append_inj (materialId.length_lt (by decide))
    (materialId'.length_lt (by decide)) h
  obtain ⟨_, h₅, h⟩ := field_append_inj (by simp) (by simp) h
  obtain ⟨_, h₆, h⟩ := field_append_inj (ownerKind.length_lt (by decide))
    (ownerKind'.length_lt (by decide)) h
  obtain ⟨_, h₇, h⟩ := field_append_inj (ownerId.length_lt (by decide))
    (ownerId'.length_lt (by decide)) h
  obtain ⟨_, h₈, h⟩ := field_append_inj (length_bigEndian_lt 8 _ (by decide))
    (length_bigEndian_lt 8 _ (by decide)) h
  obtain ⟨_, h₉, h⟩ := field_append_inj (fieldPurpose.length_lt (by decide))
    (fieldPurpose'.length_lt (by decide)) h
  obtain ⟨_, h₁₀, h⟩ := field_append_inj providerId.length_lt providerId'.length_lt h
  obtain ⟨_, h₁₁, _⟩ := field_append_inj (length_bigEndian_lt 2 _ (by decide))
    (length_bigEndian_lt 2 _ (by decide)) h
  have hgeneration : generation = generation' :=
    UInt64.toNat_inj.mp (bigEndian_inj generation.toNat_lt generation'.toNat_lt h₈)
  have hformat : providerFormatVersion = providerFormatVersion' :=
    Subtype.ext (UInt16.toNat_inj.mp
      (bigEndian_inj providerFormatVersion.val.toNat_lt providerFormatVersion'.val.toNat_lt h₁₁))
  cases version
  cases version'
  cases BoundedText.eq_of_bytes h₁
  cases h₂
  cases BoundedText.eq_of_bytes h₄
  cases materialKindByte_inj h₅
  cases BoundedText.eq_of_bytes h₆
  cases BoundedText.eq_of_bytes h₇
  cases hgeneration
  cases BoundedText.eq_of_bytes h₉
  cases ProviderId.eq_of_bytes h₁₀
  cases hformat
  rfl

theorem ProtectionContext.parts_inj {c c' : ProtectionContext} (h : c.canonical = c'.canonical) :
    c.parts = c'.parts := by
  have hc : contextBytes c.parts = c.canonical :=
    Except.ok.inj ((encodeV1_eq c.parts).symm.trans c.encoded)
  have hc' : contextBytes c'.parts = c'.canonical :=
    Except.ok.inj ((encodeV1_eq c'.parts).symm.trans c'.encoded)
  exact contextBytes_inj (hc.trans (h.trans hc'.symm))

end OwlAuth
