import Mathlib.Algebra.Group.Int.Defs
import OwlAuth.Custody.Context

/-!
# The key rings of the configuration

`ServerConfig` reads seven rings from the environment.  Each has an active version with its key and
a JSON object of retained keys by version.  A version that the object names twice is rejected where
the object is read with `UniqueVersionedKeys`; where it is read as a map the later key replaces the
earlier one.

* `ConfigLibrary`  the readers of objects and of keys;
* `parseRing`  what the seven parsers have in common;
* `parseRuntimeProtection` and so on  the parsers;
* `validateProtectionRootSeparation`  no root is used twice;
* `ServerConfig.fromValues`  the part of the configuration that holds keys.
-/

namespace OwlAuth

open Fallible

/-! ## values of the environment -/

abbrev Text := List UInt8

abbrev Values := String → Option Text

inductive ConfigError
  | missing (key : String)
  | invalidValue (key reason : String)

def optional (values : Values) (key : String) : Option Text := values key

structure SerializedRuntimeKeyConfig where
  (digestKey protectionKey : Text)

/-- base64url without padding, and the members of an object of keys by version as `serde_json` visits
them: in the order of the text, so that one that is named twice comes twice -/
structure ConfigLibrary where
  decode : Text → Option (List UInt8)
  keys : Text → Option (List (Int × Text))
  pairs : Text → Option (List (Int × SerializedRuntimeKeyConfig))

variable (lib : ConfigLibrary) (values : Values)

variable (key : String)

def required : Except ConfigError Text :=
  match optional values key with
  | some value => if value ≠ [] then .ok value else .error (.missing key)
  | none => .error (.missing key)

def InI32 (n : Int) : Prop := -2 ^ 31 ≤ n ∧ n < 2 ^ 31

instance (n : Int) : Decidable (InI32 n) := inferInstanceAs (Decidable (_ ∧ _))

def decimalValue (digits : Text) : Nat := digits.foldl (fun n b => n * 10 + (b.toNat - 0x30)) 0

/-- `str::parse::<i32>` -/
def parseI32 (text : Text) : Option Int :=
  let (negative, digits) : Bool × Text :=
    match text with
    | 0x2b :: rest => (false, rest)
    | 0x2d :: rest => (true, rest)
    | rest => (false, rest)
  if digits = [] ∨ digits.all isAsciiDigit = false then none
  else
    let n : Int := if negative then -(decimalValue digits : Int) else decimalValue digits
    if InI32 n then some n else none

inductive ProcessMode
  | all
  | auth
  | control
  deriving DecidableEq

def ProcessMode.hasAuth (m : ProcessMode) : Bool := m = all ∨ m = auth

def ProcessMode.hasControl (m : ProcessMode) : Bool := m = all ∨ m = control

def ProcessMode.fromStr (value : Text) : Except ConfigError ProcessMode :=
  if value = ascii "all" then .ok .all
  else if value = ascii "auth" then .ok .auth
  else if value = ascii "control" then .ok .control
  else .error (.invalidValue "OWLAUTH_MODE" "must be `all`, `auth`, or `control`")

def processMode : Except ConfigError ProcessMode :=
  ProcessMode.fromStr ((optional values "OWLAUTH_MODE").getD (ascii "auth"))

def federatedProjectAuthAvailable : Bool := true

/-! ## keys -/

structure StoreMasterKey where
  bytes : List UInt8
  length : bytes.length = 32

def StoreMasterKey.parse (value : Text) : Except ConfigError StoreMasterKey := do
  let invalid := .invalidValue key "must be exactly 32 bytes encoded as unpadded base64url"
  let decoded ← require (lib.decode value) invalid
  if h : decoded.length = 32 then .ok ⟨decoded, h⟩ else .error invalid

structure RuntimeKeyConfig where
  (digestKey protectionKey : StoreMasterKey)

/-- two keys, the second named `protectionKeyName` in the error if they are the same -/
def parseKeyPair (digestKeyName protectionKeyName separate : String)
    (k : SerializedRuntimeKeyConfig) : Except ConfigError RuntimeKeyConfig := do
  let digestKey ← StoreMasterKey.parse lib digestKeyName k.digestKey
  let protectionKey ← StoreMasterKey.parse lib protectionKeyName k.protectionKey
  ensure (digestKey.bytes ≠ protectionKey.bytes) (.invalidValue protectionKeyName separate)
  pure ⟨digestKey, protectionKey⟩

def parseRuntimeKey (digestKeyName protectionKeyName : String) :
    SerializedRuntimeKeyConfig → Except ConfigError RuntimeKeyConfig :=
  parseKeyPair lib digestKeyName protectionKeyName "must be separate from the corresponding digest key"

def parseManagedReauthorizationTargetKey :
    SerializedRuntimeKeyConfig → Except ConfigError RuntimeKeyConfig :=
  parseKeyPair lib "OWLAUTH_MANAGED_REAUTHORIZATION_DIGEST_KEY"
    "OWLAUTH_MANAGED_REAUTHORIZATION_PROTECTION_KEY"
    "must be separate from the managed reauthorization digest key"

/-! ## retained keys -/

section
variable {ρ α : Type}

/-- `BTreeMap<i32, _>`: a later member replaces an earlier one -/
def versionedKeys (members : Text → Option (List (Int × ρ))) (text : Text) :
    Option (Std.TreeMap Int ρ) :=
  (members text).map fun entries => .ofList entries

def insertUnique : Std.TreeMap Int ρ → List (Int × ρ) → Option (Std.TreeMap Int ρ)
  | keys, [] => some keys
  | keys, (v, k) :: rest => if v ∈ keys then none else insertUnique (keys.insert v k) rest

/-- `UniqueVersionedKeys`: a member that is there already is an error -/
def uniqueVersionedKeys (members : Text → Option (List (Int × ρ))) (text : Text) :
    Option (Std.TreeMap Int ρ) := do
  let entries ← members text
  insertUnique ∅ entries

/-- one retained key of a ring whose active version is `active` -/
def retainKey (active : Int) (parse : ρ → Except ConfigError α) (e : Int × ρ) :
    Except ConfigError (Int × α) := do
  ensure (0 < e.1 ∧ e.1 ≠ active)
    (.invalidValue key "versions must be positive and must not repeat the active version")
  let k ← parse e.2
  pure (e.1, k)

def parseRetained (active : Int) (parse : ρ → Except ConfigError α)
    (serialized : Std.TreeMap Int ρ) : Except ConfigError (Std.TreeMap Int α) := do
  let entries ← serialized.toList.mapM (retainKey key active parse)
  pure (.ofList entries)

/-! ## rings -/

structure Ring (α : Type) where
  activeVersion : Int
  active : α
  retained : Std.TreeMap Int α

def Ring.keys (r : Ring α) : List α := r.active :: r.retained.toList.map Prod.snd

/-- where a ring stands in the environment -/
structure RingKeys where
  (version retained : String)

def positiveVersion : Except ConfigError Int := do
  let text ← required values key
  let invalid := .invalidValue key "must be a positive integer"
  let v ← require (parseI32 text) invalid
  ensure (0 < v) invalid
  pure v

def retainedText : Text :=
  (optional values key).getD (ascii "\x7b\x7d")

/-- a bound on the number of retained keys, with the reason that is given if there are more -/
def atMost (bound : Option (Nat × String)) (key : String) (size : Nat) : Except ConfigError Unit :=
  match bound with
  | some (n, reason) => ensure (size ≤ n) (.invalidValue key reason)
  | none => .ok ()

/-- what the seven parsers have in common: `read` reads the object of retained keys, `parse` one of
them, and `bound` says how many there may be -/
def parseRing (k : RingKeys) (active : Except ConfigError α)
    (read : Text → Option (Std.TreeMap Int ρ)) (parse : ρ → Except ConfigError α)
    (bound : Option (Nat × String)) : Except ConfigError (Ring α) := do
  let activeVersion ← positiveVersion values k.version
  let active ← active
  let serialized ← require (read (retainedText values k.retained))
    (.invalidValue k.retained "must be a JSON object keyed by unique positive key versions")
  let retained ← parseRetained k.retained activeVersion parse serialized
  atMost bound k.retained retained.size
  pure ⟨activeVersion, active, retained⟩

end

abbrev RuntimeProtectionConfig := Ring RuntimeKeyConfig

abbrev EmailIdentityProtectionConfig := Ring RuntimeKeyConfig

abbrev ProjectionEmailProtectionConfig := Ring StoreMasterKey

abbrev ManagedCredentialProtectionConfig := Ring StoreMasterKey

abbrev ServerKeyDigestConfig := Ring StoreMasterKey

def activePair (digestKey protectionKey : String)
    (parse : SerializedRuntimeKeyConfig → Except ConfigError RuntimeKeyConfig) :
    Except ConfigError RuntimeKeyConfig := do
  let d ← required values digestKey
  let p ← required values protectionKey
  parse ⟨d, p⟩

def activeRoot : Except ConfigError StoreMasterKey := do
  let k ← required values key
  StoreMasterKey.parse lib key k

def parseProtectionRing (k : RingKeys) (digestKey protectionKey : String) :
    Except ConfigError (Ring RuntimeKeyConfig) :=
  parseRing values k
    (activePair values digestKey protectionKey (parseRuntimeKey lib digestKey protectionKey))
    (versionedKeys lib.pairs) (parseRuntimeKey lib digestKey protectionKey)
    (some (15, "at most 15 retained versions are supported alongside the active version"))

def runtimeRing : RingKeys := ⟨"OWLAUTH_RUNTIME_KEY_VERSION", "OWLAUTH_RUNTIME_RETAINED_KEYS"⟩

def runtimeKey : SerializedRuntimeKeyConfig → Except ConfigError RuntimeKeyConfig :=
  parseRuntimeKey lib "OWLAUTH_RUNTIME_DIGEST_KEY" "OWLAUTH_RUNTIME_PROTECTION_KEY"

variable (mode : ProcessMode)

def parseRuntimeProtection (values : Values) :
    Except ConfigError (Option RuntimeProtectionConfig) :=
  if mode.hasAuth then
    some <$> parseProtectionRing lib values runtimeRing "OWLAUTH_RUNTIME_DIGEST_KEY"
      "OWLAUTH_RUNTIME_PROTECTION_KEY"
  else .ok none

def emailIdentityRing : RingKeys :=
  ⟨"OWLAUTH_EMAIL_IDENTITY_KEY_VERSION", "OWLAUTH_EMAIL_IDENTITY_RETAINED_KEYS"⟩

def emailIdentityKey : SerializedRuntimeKeyConfig → Except ConfigError RuntimeKeyConfig :=
  parseRuntimeKey lib "OWLAUTH_EMAIL_IDENTITY_DIGEST_KEY" "OWLAUTH_EMAIL_IDENTITY_PROTECTION_KEY"

def emailIdentityConfigured : Bool :=
  ["OWLAUTH_EMAIL_IDENTITY_KEY_VERSION", "OWLAUTH_EMAIL_IDENTITY_DIGEST_KEY",
    "OWLAUTH_EMAIL_IDENTITY_PROTECTION_KEY", "OWLAUTH_EMAIL_IDENTITY_RETAINED_KEYS"].any
      fun key => (values key).isSome

def parseEmailIdentityProtection : Except ConfigError (Option EmailIdentityProtectionConfig) :=
  if emailIdentityConfigured values then
    some <$> parseProtectionRing lib values emailIdentityRing "OWLAUTH_EMAIL_IDENTITY_DIGEST_KEY"
      "OWLAUTH_EMAIL_IDENTITY_PROTECTION_KEY"
  else .ok none

def projectionEmailRing : RingKeys :=
  ⟨"OWLAUTH_PROJECTION_EMAIL_KEY_VERSION", "OWLAUTH_PROJECTION_EMAIL_RETAINED_KEYS"⟩

def projectionEmailKey : Text → Except ConfigError StoreMasterKey :=
  StoreMasterKey.parse lib "OWLAUTH_PROJECTION_EMAIL_RETAINED_KEYS"

/-- the one ring whose versions are unique -/
def parseProjectionEmailProtection : Except ConfigError ProjectionEmailProtectionConfig :=
  parseRing values projectionEmailRing (activeRoot lib values "OWLAUTH_PROJECTION_EMAIL_PROTECTION_KEY")
    (uniqueVersionedKeys lib.keys) (projectionEmailKey lib)
    (some (15, "at most 15 retained versions are supported"))

def identityEvidenceRing : RingKeys :=
  ⟨"OWLAUTH_IDENTITY_MUTATION_EVIDENCE_KEY_VERSION",
    "OWLAUTH_IDENTITY_MUTATION_EVIDENCE_RETAINED_KEYS"⟩

def identityEvidenceKey : SerializedRuntimeKeyConfig → Except ConfigError RuntimeKeyConfig :=
  parseRuntimeKey lib "OWLAUTH_IDENTITY_MUTATION_EVIDENCE_DIGEST_KEY"
    "OWLAUTH_IDENTITY_MUTATION_EVIDENCE_PROTECTION_KEY"

def parseIdentityMutationEvidenceProtection : Except ConfigError RuntimeProtectionConfig :=
  parseProtectionRing lib values identityEvidenceRing "OWLAUTH_IDENTITY_MUTATION_EVIDENCE_DIGEST_KEY"
    "OWLAUTH_IDENTITY_MUTATION_EVIDENCE_PROTECTION_KEY"

def managedReauthorizationRing : RingKeys :=
  ⟨"OWLAUTH_MANAGED_REAUTHORIZATION_KEY_VERSION", "OWLAUTH_MANAGED_REAUTHORIZATION_RETAINED_KEYS"⟩

def parseManagedReauthorizationTargetProtection : Except ConfigError RuntimeProtectionConfig :=
  parseRing values managedReauthorizationRing
    (activePair values "OWLAUTH_MANAGED_REAUTHORIZATION_DIGEST_KEY"
      "OWLAUTH_MANAGED_REAUTHORIZATION_PROTECTION_KEY" (parseManagedReauthorizationTargetKey lib))
    (versionedKeys lib.pairs) (parseManagedReauthorizationTargetKey lib) none

def serverKeyRing : RingKeys :=
  ⟨"OWLAUTH_SERVER_KEY_DIGEST_KEY_VERSION", "OWLAUTH_SERVER_KEY_DIGEST_RETAINED_KEYS"⟩

def serverKeyDigestKey : Text → Except ConfigError StoreMasterKey :=
  StoreMasterKey.parse lib "OWLAUTH_SERVER_KEY_DIGEST_RETAINED_KEYS"

def parseServerKeyDigest (values : Values) : Except ConfigError (Option ServerKeyDigestConfig) :=
  if mode.hasAuth || mode.hasControl then
    some <$> parseRing values serverKeyRing (activeRoot lib values "OWLAUTH_SERVER_KEY_DIGEST_KEY")
      (versionedKeys lib.keys) (serverKeyDigestKey lib)
      (some (31, "at most 31 retained versions are supported"))
  else .ok none

def managedCredentialRing : RingKeys :=
  ⟨"OWLAUTH_MANAGED_CREDENTIAL_KEY_VERSION", "OWLAUTH_MANAGED_CREDENTIAL_RETAINED_KEYS"⟩

def managedCredentialKey : Text → Except ConfigError StoreMasterKey :=
  StoreMasterKey.parse lib "OWLAUTH_MANAGED_CREDENTIAL_RETAINED_KEYS"

def parseManagedCredentialProtection (values : Values) :
    Except ConfigError (Option ManagedCredentialProtectionConfig) :=
  if mode.hasAuth && federatedProjectAuthAvailable then
    some <$> parseRing values managedCredentialRing
      (activeRoot lib values "OWLAUTH_MANAGED_CREDENTIAL_KEY")
      (versionedKeys lib.keys) (managedCredentialKey lib) none
  else .ok none

structure ProvisioningConfig where
  softwareCustodyKey : Option StoreMasterKey

def parseProvisioning (values : Values) (requireSoftwareCustody : Bool) :
    Except ConfigError (Option ProvisioningConfig) :=
  if mode.hasControl || (mode.hasAuth && federatedProjectAuthAvailable) then
    match optional values "OWLAUTH_SOFTWARE_CUSTODY_KEY" with
    | some value => do
      let k ← StoreMasterKey.parse lib "OWLAUTH_SOFTWARE_CUSTODY_KEY" value
      pure (some ⟨some k⟩)
    | none =>
      if requireSoftwareCustody then .error (.missing "OWLAUTH_SOFTWARE_CUSTODY_KEY")
      else .ok (some ⟨none⟩)
  else .ok none

/-! ## the configuration -/

/-- the part of the configuration that holds keys -/
structure ServerConfig where
  provisioning : Option ProvisioningConfig
  runtimeProtection : Option RuntimeProtectionConfig
  emailIdentityProtection : Option EmailIdentityProtectionConfig
  projectionEmailProtection : ProjectionEmailProtectionConfig
  managedReauthorizationTargetProtection : RuntimeProtectionConfig
  identityMutationEvidenceProtection : RuntimeProtectionConfig
  managedCredentialProtection : Option ManagedCredentialProtectionConfig
  serverKeyDigest : Option ServerKeyDigestConfig

/-- the roots of keys that come in pairs, each with the name it is reported under -/
def pairRoots (digestName protectionName : String) (r : Ring RuntimeKeyConfig) :
    List (StoreMasterKey × String) :=
  r.keys.flatMap fun k => [(k.digestKey, digestName), (k.protectionKey, protectionName)]

def keyRoots (name : String) (r : Ring StoreMasterKey) : List (StoreMasterKey × String) :=
  r.keys.map fun k => (k, name)

/-- every active and retained root, in the order in which they are compared -/
def ServerConfig.roots (c : ServerConfig) : List (StoreMasterKey × String) :=
  c.runtimeProtection.toList.flatMap
      (pairRoots "OWLAUTH_RUNTIME_PROTECTION_KEY" "OWLAUTH_RUNTIME_PROTECTION_KEY")
    ++ c.emailIdentityProtection.toList.flatMap
      (pairRoots "OWLAUTH_EMAIL_IDENTITY_PROTECTION_KEY" "OWLAUTH_EMAIL_IDENTITY_PROTECTION_KEY")
    ++ keyRoots "OWLAUTH_PROJECTION_EMAIL_PROTECTION_KEY" c.projectionEmailProtection
    ++ c.managedCredentialProtection.toList.flatMap (keyRoots "OWLAUTH_MANAGED_CREDENTIAL_KEY")
    ++ c.serverKeyDigest.toList.flatMap (keyRoots "OWLAUTH_SERVER_KEY_DIGEST_KEY")
    ++ pairRoots "OWLAUTH_MANAGED_REAUTHORIZATION_DIGEST_KEY"
      "OWLAUTH_MANAGED_REAUTHORIZATION_PROTECTION_KEY" c.managedReauthorizationTargetProtection
    ++ pairRoots "OWLAUTH_IDENTITY_MUTATION_EVIDENCE_DIGEST_KEY"
      "OWLAUTH_IDENTITY_MUTATION_EVIDENCE_PROTECTION_KEY" c.identityMutationEvidenceProtection
    ++ (c.provisioning.bind (·.softwareCustodyKey)).toList.map
      fun k => (k, "OWLAUTH_SOFTWARE_CUSTODY_KEY")

variable (sha256 : List UInt8 → List UInt8)

/-- one root: its fingerprint must be new -/
def insertFingerprint (fingerprints : List (List UInt8))
    (root : StoreMasterKey × String) : Except ConfigError (List (List UInt8)) := do
  ensure (sha256 root.1.bytes ∉ fingerprints) (.invalidValue root.2
    "every active and retained protection root across all plane authorities must be distinct")
  pure (sha256 root.1.bytes :: fingerprints)

def validateProtectionRootSeparation (c : ServerConfig) : Except ConfigError Unit := do
  let _ ← foldOk (insertFingerprint sha256) [] c.roots
  pure ()

/-- `others` are the checks of the settings that hold no key -/
def ServerConfig.fromValues
    (others : Values → Except ConfigError Unit) (values : Values) (requireSoftwareCustody : Bool) :
    Except ConfigError ServerConfig := do
  let mode ← processMode values
  let provisioning ← parseProvisioning lib mode values requireSoftwareCustody
  let runtimeProtection ← parseRuntimeProtection lib mode values
  let emailIdentityProtection ← parseEmailIdentityProtection lib values
  let projectionEmailProtection ← parseProjectionEmailProtection lib values
  let managedReauthorizationTargetProtection ←
    parseManagedReauthorizationTargetProtection lib values
  let identityMutationEvidenceProtection ← parseIdentityMutationEvidenceProtection lib values
  let managedCredentialProtection ← parseManagedCredentialProtection lib mode values
  let serverKeyDigest ← parseServerKeyDigest lib mode values
  let config : ServerConfig :=
    { provisioning, runtimeProtection, emailIdentityProtection, projectionEmailProtection,
      managedReauthorizationTargetProtection, identityMutationEvidenceProtection,
      managedCredentialProtection, serverKeyDigest }
  validateProtectionRootSeparation sha256 config
  others values
  pure config

end OwlAuth
