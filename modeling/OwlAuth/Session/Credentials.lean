import OwlAuth.Config.Rings
import OwlAuth.Mail.Address

/-!
# Opaque credentials

The Runtime hands out credentials as texts: `version.secret`, or `id.version.secret` where a row has
to be found by its id.  Only a keyed digest is stored.  A credential that comes back is parsed, and
its digest computed again with the key of the version it names.

* `decimal`, `uuidText`  numbers and identifiers as they are printed;
* `parseIdCredential`, `credentialVersion`  the two parsers;
* `SoftwareRuntimeProtector`, `keyedOutput`  the ring of keys, and the digest of framed parts;
* `Issued`  the credentials the Runtime hands out;
* `issued_credentials_read_back`  the parsers return what was issued, and no other text has the digest.
-/

namespace OwlAuth

open Fallible
open Octets (bigEndian frame frame_append_inj)

/-! ## texts -/

/-- `to_string` of a number that is not negative -/
def decimal (n : Nat) : Text :=
  if n < 10 then [UInt8.ofNat (0x30 + n)] else decimal (n / 10) ++ [UInt8.ofNat (0x30 + n % 10)]

def i32Text (n : Int) : Text := if n < 0 then 0x2d :: decimal n.natAbs else decimal n.natAbs

/-- the last `k` digits of `v`, in lower case -/
def hexText : Nat → Nat → Text
  | 0, _ => []
  | k + 1, v =>
    let d := v % 16
    hexText k (v / 16) ++ [UInt8.ofNat (if d < 10 then 0x30 + d else 0x57 + d)]

/-- `Uuid::to_string` -/
def uuidText (id : Uuid) : Text :=
  hexText 8 (id / 2 ^ 96) ++ 0x2d :: hexText 4 (id / 2 ^ 80) ++ 0x2d :: hexText 4 (id / 2 ^ 64)
    ++ 0x2d :: hexText 4 (id / 2 ^ 48) ++ 0x2d :: hexText 12 id

/-! ## the parsers -/

structure ParsedIdCredential where
  id : Uuid
  keyVersion : Int
  deriving DecidableEq

def SecretByte (b : UInt8) : Prop := isAsciiAlphanumeric b = true ∨ b = 0x2d ∨ b = 0x5f
  deriving Decidable

/-- base64url without padding: four letters for three bytes -/
structure Base64Url where
  encode : List UInt8 → Text
  letters : ∀ l, ∀ b ∈ encode l, SecretByte b
  length : ∀ l, (encode l).length = (4 * l.length + 2) / 3

def validateCredentialSecret (value : Text) : Tx Unit :=
  ensure (24 ≤ value.length ∧ ∀ b ∈ value, SecretByte b) .invalidInput

def parseCredentialVersion (value : Text) : Tx Int := do
  let version ← require (parseI32 value) .invalidInput
  ensure (0 < version ∧ i32Text version = value) .invalidInput
  pure version

/-- `parseStr` is `Uuid::parse_str`, which also accepts other spellings -/
def parseIdCredential (parseStr : Text → Option Uuid) (value : Text) : Tx ParsedIdCredential := do
  ensure (value.length ≤ 256) .invalidInput
  match split 0x2e value with
  | [idText, version, secret] => do
    let id ← require (parseStr idText) .invalidInput
    ensure (uuidText id = idText) .invalidInput
    validateCredentialSecret secret
    let keyVersion ← parseCredentialVersion version
    pure ⟨id, keyVersion⟩
  | _ => .error .invalidInput

def credentialVersion (value : Text) : Tx Int := do
  ensure (value.length ≤ 256) .invalidInput
  match split 0x2e value with
  | [version, secret] => do
    validateCredentialSecret secret
    parseCredentialVersion version
  | _ => .error .invalidInput

/-! ## keyed digests -/

inductive OpaquePurpose
  | interaction | browserBinding | interactionCsrf | upstreamState | handoffTicket | browserSession
  | refreshToken | browserLogout

def OpaquePurpose.asStr : OpaquePurpose → Text
  | interaction => ascii "interaction"
  | browserBinding => ascii "browser_binding"
  | interactionCsrf => ascii "interaction_csrf"
  | upstreamState => ascii "upstream_state"
  | handoffTicket => ascii "handoff_ticket"
  | browserSession => ascii "browser_session"
  | refreshToken => ascii "refresh_token"
  | browserLogout => ascii "browser_logout"

/-- a keyed hash with results in `δ`, and their 32 bytes -/
structure Hmac (δ : Type) where
  mac : Text → List UInt8 → δ
  bytes : δ → List UInt8
  length : ∀ d, (bytes d).length = 32

def Hmac.CollisionFree {δ : Type} (h : Hmac δ) : Prop :=
  ∀ {k m k' m'}, h.mac k m = h.mac k' m' → k = k' ∧ m = m'

/-- the digest keys by version, the active one among them -/
structure SoftwareRuntimeProtector where
  deploymentContext : Text
  activeVersion : Int
  keys : Int → Option Text
  bounded : deploymentContext ≠ [] ∧ deploymentContext.length ≤ 128
  versions : ∀ v, keys v ≠ none → 0 < v ∧ v < 2 ^ 31
  active : keys activeVersion ≠ none

/-- the bytes a call passes; their number fits in 64 bits -/
abbrev Slice := { l : List UInt8 // l.length < 2 ^ 64 }

structure KeyedDigest (δ : Type) where
  value : δ
  keyVersion : Int

def updateFramed (message value : List UInt8) : Tx (List UInt8) := do
  ensure (value.length < 2 ^ 64) .invalidInput
  pure (message ++ frame value)

def digestDomain : Text := ascii "owlauth-runtime-digest-v1" ++ [0]

def derivationDomain : Text := ascii "owlauth-runtime-derived-opaque-v1" ++ [0]

section
variable {δ : Type} (h : Hmac δ) (base64 : Base64Url) (parseStr : Text → Option Uuid)
  (p : SoftwareRuntimeProtector)

def keyedOutput (domain : Text) (version : Int) (purpose context value : List UInt8) : Tx δ := do
  let key ← require (p.keys version) .integrity
  let message ← updateFramed domain p.deploymentContext
  let message ← updateFramed message (bigEndian 4 version.toNat)
  let message ← updateFramed message purpose
  let message ← updateFramed message context
  let message ← updateFramed message value
  pure (h.mac key message)

def digestAt (purpose : OpaquePurpose) (context value : List UInt8) (keyVersion : Int) :
    Tx (KeyedDigest δ) := do
  let value ← keyedOutput h p digestDomain keyVersion purpose.asStr context value
  pure ⟨value, keyVersion⟩

inductive DigestCall
  | byId (purpose : OpaquePurpose) (id : Uuid)
  | inContext (purpose : OpaquePurpose) (context : Slice)
  | opaqueValue (purpose : OpaquePurpose) (context : Slice)

def DigestCall.digest (value : Text) : DigestCall → Tx (KeyedDigest δ)
  | .byId purpose id => do
    let parsed ← parseIdCredential parseStr value
    ensure (parsed.id = id) .invalidInput
    digestAt h p purpose (bigEndian 16 id) value parsed.keyVersion
  | .inContext purpose context => do
    let parsed ← parseIdCredential parseStr value
    digestAt h p purpose context value parsed.keyVersion
  | .opaqueValue purpose context => do
    let keyVersion ← credentialVersion value
    digestAt h p purpose context value keyVersion

/-! ## what is handed out -/

def credentialWithId (id : Uuid) (random : List UInt8) : Text :=
  uuidText id ++ 0x2e :: i32Text p.activeVersion ++ 0x2e :: base64.encode random

def versionCredential (version : Int) (secret : Text) : Text := i32Text version ++ 0x2e :: secret

def derivedCredential (purpose : OpaquePurpose) (context : Slice) (keyVersion : Option Int) :
    Tx Text := do
  let version := keyVersion.getD p.activeVersion
  let derived ← keyedOutput h p derivationDomain version purpose.asStr context []
  pure (versionCredential version (base64.encode (h.bytes derived)))

/-- a credential with its id, if it has one, and its version; `random` is what was drawn for it -/
inductive Issued : Text → Option Uuid → Int → Prop
  | withId (id : Uuid) (random : List UInt8) (drawn : random.length = 24)
      (read : parseStr (uuidText id) = some id) :
      Issued (credentialWithId base64 p id random) (some id) p.activeVersion
  | opaqueValue (random : List UInt8) (drawn : random.length = 32) :
      Issued (versionCredential p.activeVersion (base64.encode random)) none p.activeVersion
  | derived (purpose : OpaquePurpose) (context : Slice) (keyVersion : Option Int) (value : Text)
      (made : derivedCredential h base64 p purpose context keyVersion = .ok value) :
      Issued value none (keyVersion.getD p.activeVersion)

end

/-! ## the parsers return what was issued -/

theorem split_of_not_mem {sep : UInt8} {part : Text} (h : sep ∉ part) : split sep part = [part] := by
  induction part with
  | nil => rfl
  | cons b part ih =>
    obtain ⟨hb, hpart⟩ := List.ne_and_not_mem_of_not_mem_cons h
    rw [split, if_neg (Ne.symm hb), ih hpart]
    rfl

theorem split_append {sep : UInt8} {part rest : Text} (h : sep ∉ part) :
    split sep (part ++ sep :: rest) = part :: split sep rest := by
  induction part with
  | nil => exact if_pos rfl
  | cons b part ih =>
    obtain ⟨hb, hpart⟩ := List.ne_and_not_mem_of_not_mem_cons h
    rw [List.cons_append, split, if_neg (Ne.symm hb), ih hpart]
    rfl

theorem isAsciiDigit_decimal (n : Nat) : ∀ b ∈ decimal n, isAsciiDigit b = true := by
  have hdigit : ∀ d < 10, isAsciiDigit (UInt8.ofNat (0x30 + d)) = true := by decide
  fun_induction decimal n with
  | case1 n hn =>
    intro b hb
    rw [List.mem_singleton.mp hb]
    exact hdigit n hn
  | case2 n hn ih =>
    intro b hb
    rcases List.mem_append.mp hb with hb | hb
    · exact ih b hb
    · rw [List.mem_singleton.mp hb]
      exact hdigit _ (Nat.mod_lt n (by decide))

theorem decimalValue_decimal (n : Nat) : decimalValue (decimal n) = n := by
  have hvalue : ∀ d < 10, (UInt8.ofNat (0x30 + d)).toNat - 0x30 = d := by decide
  fun_induction decimal n with
  | case1 n hn =>
    simp only [decimalValue, List.foldl_cons, List.foldl_nil, hvalue n hn]
    omega
  | case2 n hn ih =>
    unfold decimalValue at ih ⊢
    rw [List.foldl_append, ih, List.foldl_cons, List.foldl_nil, hvalue _ (Nat.mod_lt n (by decide))]
    omega

theorem length_decimal {k n : Nat} (hn : n < 10 ^ (k + 1)) : (decimal n).length ≤ k + 1 := by
  induction k generalizing n with
  | zero =>
    rw [decimal, if_pos (by simpa using hn)]
    exact Nat.le_refl 1
  | succ k ih =>
    rw [decimal]
    split
    · exact Nat.succ_le_succ (Nat.zero_le _)
    · have hdiv : n / 10 < 10 ^ (k + 1) := by
        rw [Nat.pow_succ] at hn
        exact Nat.div_lt_of_lt_mul (by omega)
      rw [List.length_append]
      exact Nat.succ_le_succ (ih hdiv)

theorem parseI32_decimal {n : Nat} (hn : n < 2 ^ 31) : parseI32 (decimal n) = some (n : Int) := by
  have hdigits := isAsciiDigit_decimal n
  have hnumber := decimalValue_decimal n
  have hin : InI32 n := by unfold InI32; omega
  cases htext : decimal n with
  | nil =>
    unfold decimal at htext
    split at htext <;> simp at htext
  | cons b rest =>
    rw [htext] at hdigits hnumber
    have hb := hdigits b List.mem_cons_self
    have hplus : b ≠ 0x2b := by rintro rfl; cases hb
    have hminus : b ≠ 0x2d := by rintro rfl; cases hb
    have hall : (b :: rest).all isAsciiDigit = true := List.all_eq_true.mpr hdigits
    simp only [parseI32]
    split
    · rename_i heq; exact absurd (List.cons.inj heq).1 hplus
    · rename_i heq; exact absurd (List.cons.inj heq).1 hminus
    · rw [if_neg (by rw [hall]; simp), hnumber]
      exact if_pos hin

theorem parseCredentialVersion_i32Text {v : Int} (hpos : 0 < v) (hv : v < 2 ^ 31) :
    parseCredentialVersion (i32Text v) = .ok v := by
  have htext : i32Text v = decimal v.natAbs := if_neg (by omega)
  have hparse : parseI32 (i32Text v) = some v := by
    rw [htext, parseI32_decimal (by omega), Int.natAbs_of_nonneg (by omega)]
  exact bind_ok.mpr ⟨v, require_ok.mpr hparse, unit_bind.mpr ⟨ensure_of _ ⟨hpos, rfl⟩, rfl⟩⟩

theorem not_dot_of_secretByte {b : UInt8} (h : SecretByte b) : b ≠ 0x2e := by
  rintro rfl
  revert h
  decide

theorem validateCredentialSecret_encode {base64 : Base64Url} {l : List UInt8} (hl : 18 ≤ l.length) :
    validateCredentialSecret (base64.encode l) = .ok () := by
  refine ensure_of _ ⟨?_, base64.letters l⟩
  rw [base64.length]
  omega

theorem length_hexText (k v : Nat) : (hexText k v).length = k := by
  induction k generalizing v with
  | zero => rfl
  | succ k ih => rw [hexText, List.length_append, ih]; rfl

theorem not_dot_hexText (k v : Nat) : 0x2e ∉ hexText k v := by
  have hdigit : ∀ d < 16, UInt8.ofNat (if d < 10 then 0x30 + d else 0x57 + d) ≠ 0x2e := by decide
  induction k generalizing v with
  | zero => exact List.not_mem_nil
  | succ k ih =>
    intro h
    rcases List.mem_append.mp h with h | h
    · exact ih _ h
    · exact hdigit _ (Nat.mod_lt v (by decide)) (List.mem_singleton.mp h).symm

section
variable {v : Int} {secret : Text} (hpos : 0 < v) (hv : v < 2 ^ 31)
include hpos hv

theorem i32Text_ok : (i32Text v).length ≤ 10 ∧ 0x2e ∉ i32Text v := by
  rw [show i32Text v = decimal v.natAbs from if_neg (by omega)]
  refine ⟨length_decimal (k := 9) (by omega), fun h => ?_⟩
  have := isAsciiDigit_decimal _ _ h
  cases this

theorem credentialVersion_of (hl : secret.length ≤ 64)
    (hs : validateCredentialSecret secret = .ok ()) :
    credentialVersion (versionCredential v secret) = .ok v := by
  obtain ⟨hlen, hdot⟩ := i32Text_ok hpos hv
  have hplain : 0x2e ∉ secret := fun h => not_dot_of_secretByte ((ensure_ok.mp hs).2 _ h) rfl
  unfold credentialVersion versionCredential
  rw [ensure_of _ (by rw [List.length_append, List.length_cons]; omega), ok_bind,
    split_append hdot, split_of_not_mem hplain]
  exact unit_bind.mpr ⟨hs, parseCredentialVersion_i32Text hpos hv⟩

theorem parseIdCredential_of {parseStr id} (hl : secret.length ≤ 64)
    (hs : validateCredentialSecret secret = .ok ()) (hid : parseStr (uuidText id) = some id) :
    parseIdCredential parseStr (uuidText id ++ 0x2e :: i32Text v ++ 0x2e :: secret)
      = .ok ⟨id, v⟩ := by
  obtain ⟨hlen, hdot⟩ := i32Text_ok hpos hv
  have ⟨hidlen, hiddot⟩ : (uuidText id).length = 36 ∧ 0x2e ∉ uuidText id := by
    simp [uuidText, length_hexText, not_dot_hexText]
  have hplain : 0x2e ∉ secret := fun h => not_dot_of_secretByte ((ensure_ok.mp hs).2 _ h) rfl
  unfold parseIdCredential
  rw [List.append_assoc, List.cons_append, ensure_of _ (by simp; omega), ok_bind,
    split_append hiddot, split_append hdot, split_of_not_mem hplain]
  exact bind_ok.mpr ⟨id, require_ok.mpr hid, unit_bind.mpr ⟨ensure_of _ rfl, unit_bind.mpr ⟨hs,
    bind_ok.mpr ⟨v, parseCredentialVersion_i32Text hpos hv, rfl⟩⟩⟩⟩

end

/-! ## digests -/

section
variable {δ : Type} {h : Hmac δ} {base64 : Base64Url} {parseStr : Text → Option Uuid}
  {p p' q : SoftwareRuntimeProtector} {v : Int} {value : Text} {id : Option Uuid}

/-- the version has the key it had, and the deployment is the same -/
def SoftwareRuntimeProtector.KeptBy (p : SoftwareRuntimeProtector) (v : Int)
    (p' : SoftwareRuntimeProtector) : Prop :=
  p'.deploymentContext = p.deploymentContext ∧ p'.keys v = p.keys v

def ParsesTo (parseStr : Text → Option Uuid) (value : Text) : Option Uuid → Int → Prop
  | some id, v => parseIdCredential parseStr value = .ok ⟨id, v⟩
  | none, v => credentialVersion value = .ok v

def DigestCall.Reads : DigestCall → Option Uuid → Prop
  | byId _ id, some id' => id = id'
  | inContext _ _, some _ => True
  | opaqueValue _ _, none => True
  | _, _ => False

def keyedMessage (deployment domain : Text) (version : Int) (purpose context value : List UInt8) :
    List UInt8 :=
  domain ++ (frame deployment ++ (frame (bigEndian 4 version.toNat) ++ (frame purpose
    ++ (frame context ++ (frame value ++ [])))))

theorem SoftwareRuntimeProtector.short (p : SoftwareRuntimeProtector) :
    p.deploymentContext.length < 2 ^ 64 :=
  Nat.lt_of_le_of_lt p.bounded.2 (by decide)

theorem updateFramed_ok {message value result} : updateFramed message value = .ok result
    ↔ value.length < 2 ^ 64 ∧ result = message ++ frame value := by
  rw [updateFramed, unit_bind, ensure_ok]
  exact and_congr_right fun _ => ⟨fun h => by cases h; rfl, fun h => by rw [h]; rfl⟩

theorem keyedOutput_ok {domain version purpose context d} :
    keyedOutput h p domain version purpose context value = .ok d
      ↔ (purpose.length < 2 ^ 64 ∧ context.length < 2 ^ 64 ∧ value.length < 2 ^ 64)
        ∧ ∃ key ∈ p.keys version,
          d = h.mac key (keyedMessage p.deploymentContext domain version purpose context value) := by
  constructor
  · intro hk
    obtain ⟨key, hkey, _, h₁, _, h₂, hk⟩ := peel₃ hk
    obtain ⟨_, h₃, _, h₄, _, h₅, hk⟩ := peel₃ hk
    obtain ⟨_, rfl⟩ := updateFramed_ok.mp h₁
    obtain ⟨_, rfl⟩ := updateFramed_ok.mp h₂
    obtain ⟨hp, rfl⟩ := updateFramed_ok.mp h₃
    obtain ⟨hc, rfl⟩ := updateFramed_ok.mp h₄
    obtain ⟨hv, rfl⟩ := updateFramed_ok.mp h₅
    cases hk
    refine ⟨⟨hp, hc, hv⟩, key, require_ok.mp hkey, ?_⟩
    simp only [keyedMessage, List.append_assoc, List.append_nil]
  · rintro ⟨⟨hp, hc, hv⟩, key, hkey, rfl⟩
    have framed : ∀ {message value}, value.length < 2 ^ 64 →
        updateFramed message value = .ok (message ++ frame value) :=
      fun hl => updateFramed_ok.mpr ⟨hl, rfl⟩
    rw [keyedOutput, require_ok.mpr hkey, ok_bind, framed p.short, ok_bind, framed (by simp),
      ok_bind, framed hp, ok_bind, framed hc, ok_bind, framed hv]
    simp only [keyedMessage, List.append_assoc, List.append_nil]
    rfl

theorem keyedMessage_inj {deployment domain version purpose context deployment' version' purpose'
    context' value'} (hd : deployment.length < 2 ^ 64) (hd' : deployment'.length < 2 ^ 64)
    (hl : purpose.length < 2 ^ 64 ∧ context.length < 2 ^ 64 ∧ value.length < 2 ^ 64)
    (hl' : purpose'.length < 2 ^ 64 ∧ context'.length < 2 ^ 64 ∧ value'.length < 2 ^ 64)
    (heq : keyedMessage deployment domain version purpose context value
      = keyedMessage deployment' domain version' purpose' context' value') : value = value' := by
  have hversion : ∀ v : Int, (bigEndian 4 v.toNat).length < 2 ^ 64 := fun v => by simp
  obtain ⟨_, heq⟩ := frame_append_inj hd hd' (List.append_cancel_left heq)
  obtain ⟨_, heq⟩ := frame_append_inj (hversion _) (hversion _) heq
  obtain ⟨_, heq⟩ := frame_append_inj hl.1 hl'.1 heq
  obtain ⟨_, heq⟩ := frame_append_inj hl.2.1 hl'.2.1 heq
  exact (frame_append_inj hl.2.2 hl'.2.2 heq).1

theorem DigestCall.digest_ok {call : DigestCall} {d} (hd : call.digest h parseStr p value = .ok d) :
    ∃ version purpose context, keyedOutput h p digestDomain version purpose context value
      = .ok d.value := by
  have hat : ∀ {purpose context version}, digestAt h p purpose context value version = .ok d →
      ∃ version purpose context, keyedOutput h p digestDomain version purpose context value
        = .ok d.value := by
    intro _ _ _ hd
    obtain ⟨_, hk, hd⟩ := bind_ok.mp hd
    cases hd
    exact ⟨_, _, _, hk⟩
  cases call with
  | byId =>
    obtain ⟨_, _, hd⟩ := later₂ hd
    exact hat hd
  | inContext | opaqueValue =>
    obtain ⟨_, hd⟩ := later hd
    exact hat hd

theorem Issued.parses (hi : Issued h base64 parseStr p value id v) :
    ParsesTo parseStr value id v ∧ p.keys v ≠ none := by
  cases hi with
  | withId id random drawn read =>
    obtain ⟨hpos, hv⟩ := p.versions _ p.active
    refine ⟨parseIdCredential_of hpos hv ?_ (validateCredentialSecret_encode (by omega)) read, p.active⟩
    rw [base64.length, drawn]
    decide
  | opaqueValue random drawn =>
    obtain ⟨hpos, hv⟩ := p.versions _ p.active
    refine ⟨credentialVersion_of hpos hv ?_ (validateCredentialSecret_encode (by omega)), p.active⟩
    rw [base64.length, drawn]
    decide
  | derived purpose context keyVersion _ made =>
    obtain ⟨derived, hd, made⟩ := bind_ok.mp made
    cases made
    obtain ⟨_, key, hkey, _⟩ := keyedOutput_ok.mp hd
    have hkeys : p.keys (keyVersion.getD p.activeVersion) ≠ none := by rw [hkey]; nofun
    obtain ⟨hpos, hv⟩ := p.versions _ hkeys
    have hlen := h.length derived
    refine ⟨credentialVersion_of hpos hv ?_ (validateCredentialSecret_encode (by omega)), hkeys⟩
    rw [base64.length, hlen]
    decide

theorem ParsesTo.bounded (hp : ParsesTo parseStr value id v) : value.length ≤ 256 := by
  cases id with
  | some id => exact ensure_ok.mp (unit_bind.mp hp).1
  | none => exact ensure_ok.mp (unit_bind.mp hp).1

theorem ParsesTo.digest (hp : ParsesTo parseStr value id v) {call : DigestCall}
    (hreads : call.Reads id) : ∃ purpose context, context.length < 2 ^ 64
      ∧ ∀ p', call.digest h parseStr p' value = digestAt h p' purpose context value v := by
  match id, call with
  | some id, .byId purpose id' =>
    obtain rfl : id' = id := hreads
    refine ⟨purpose, bigEndian 16 id', by simp, fun p' => ?_⟩
    show parseIdCredential parseStr value >>= _ = _
    rw [show parseIdCredential parseStr value = .ok ⟨id', v⟩ from hp, ok_bind, ensure_of _ rfl]
    rfl
  | some id, .inContext purpose context =>
    refine ⟨purpose, context, context.2, fun p' => ?_⟩
    show parseIdCredential parseStr value >>= _ = _
    rw [show parseIdCredential parseStr value = .ok ⟨id, v⟩ from hp]
    rfl
  | none, .opaqueValue purpose context =>
    refine ⟨purpose, context, context.2, fun p' => ?_⟩
    show credentialVersion value >>= _ = _
    rw [show credentialVersion value = .ok v from hp]
    rfl

/-- **Credentials come back as they were issued.**  The parser of its format returns the id and the
version of a credential; every later ring that kept the key of this version computes the digest that
was stored; and any text with this digest, in whatever call and under whatever ring it is accepted,
is the credential itself. -/
theorem issued_credentials_read_back (hfree : h.CollisionFree)
    (hi : Issued h base64 parseStr p value id v) :
    ParsesTo parseStr value id v ∧ ∀ call : DigestCall, call.Reads id → ∃ d,
      (∀ p', p.KeptBy v p' → call.digest h parseStr p' value = .ok d)
      ∧ ∀ (q : SoftwareRuntimeProtector) (other : DigestCall) (value' : Text) (d' : KeyedDigest δ),
        other.digest h parseStr q value' = .ok d' → d'.value = d.value → value' = value := by
  obtain ⟨hparses, hkeys⟩ := hi.parses
  obtain ⟨key, hkey⟩ := Option.ne_none_iff_exists'.mp hkeys
  refine ⟨hparses, fun call hreads => ?_⟩
  obtain ⟨purpose, context, hc, hcall⟩ := hparses.digest (h := h) hreads
  have hp : purpose.asStr.length < 2 ^ 64 := by cases purpose <;> decide
  have hv := Nat.lt_of_le_of_lt hparses.bounded (by decide : 256 < 2 ^ 64)
  have hdigest : ∀ p', p.KeptBy v p' → digestAt h p' purpose context value v = .ok ⟨h.mac key
      (keyedMessage p.deploymentContext digestDomain v purpose.asStr context value), v⟩ := by
    intro p' hkept
    refine bind_ok.mpr ⟨_, keyedOutput_ok.mpr ⟨⟨hp, hc, hv⟩, key, hkept.2.trans hkey, rfl⟩, ?_⟩
    rw [hkept.1]
    rfl
  refine ⟨_, fun p' hkept => (hcall p').trans (hdigest p' hkept), ?_⟩
  intro q other value' d' hother heq
  -- equal digests are digests of one message, and a message is read back part by part
  obtain ⟨_, _, _, hother⟩ := other.digest_ok hother
  obtain ⟨hl', _, _, hd'⟩ := keyedOutput_ok.mp hother
  obtain ⟨_, hk, _⟩ := bind_ok.mp (hdigest p ⟨rfl, rfl⟩)
  obtain ⟨hl, _⟩ := keyedOutput_ok.mp hk
  exact keyedMessage_inj q.short p.short hl' hl (hfree (hd'.symm.trans heq)).2

end

/-! ## a credential of each format -/

namespace Demo

/-- a hash that returns its arguments -/
def transparentHmac : Hmac (Text × List UInt8) where
  mac := Prod.mk
  bytes _ := List.replicate 32 7
  length _ := rfl

/-- an encoding that is base64url on zeros -/
def zeroEncoding : Base64Url where
  encode l := List.replicate ((4 * l.length + 2) / 3) 0x41
  letters l b h := by rw [List.eq_of_mem_replicate h]; decide
  length _ := List.length_replicate

def firstProtector : SoftwareRuntimeProtector where
  deploymentContext := ascii "deployment"
  activeVersion := 1
  keys v := if v = 1 then some [1] else none
  bounded := by decide
  versions v h := by
    by_cases hv : v = 1
    · omega
    · exact absurd (if_neg hv) h
  active := by decide

end Demo

open Demo

theorem handoff_read_back : ∃ d, ∀ p', firstProtector.KeptBy 1 p' →
    DigestCall.digest transparentHmac (fun _ => some 5) p'
      (credentialWithId zeroEncoding firstProtector 5 (List.replicate 24 0))
      (.byId .handoffTicket 5) = .ok d := by
  have hi : Issued transparentHmac zeroEncoding (fun _ => some 5) firstProtector _ (some 5) 1 :=
    .withId 5 (List.replicate 24 0) rfl rfl
  obtain ⟨d, hd, _⟩ := (issued_credentials_read_back
    (fun h => ⟨congrArg Prod.fst h, congrArg Prod.snd h⟩) hi).2 (.byId .handoffTicket 5) rfl
  exact ⟨d, hd⟩

end OwlAuth
