import OwlAuth.Base.Aead
import OwlAuth.Custody.Context

/-!
# Envelopes of configuration secrets

`SoftwareCustodyProvider` seals a secret under its context and opens it again.  An envelope is a
version byte, a nonce and the ciphertext.  Indexing and slicing can panic, and the model says where.

* `SecretPlaintext`, `OpaqueEnvelope`  the two bounded values;
* `sealEnvelope`, `openEnvelope`  the layout;
* `seal`, `openSecret`  the two calls of the provider;
* `custody_round_trip_iff`  when a secret is sealed and opened again.
-/

namespace OwlAuth

open Fallible Octets

/-! ## values -/

def maxValueLen : Nat := 65536

structure SecretPlaintext where
  bytes : List UInt8
  nonempty : bytes ≠ []
  bounded : bytes.length ≤ maxValueLen

structure OpaqueEnvelope where
  bytes : List UInt8
  nonempty : bytes ≠ []
  bounded : bytes.length ≤ maxValueLen

variable (bytes : List UInt8)

def SecretPlaintext.fromZeroizing : Except ValueError SecretPlaintext :=
  if he : bytes = [] then .error .empty
  else if hl : bytes.length ≤ maxValueLen then .ok ⟨bytes, he, hl⟩
  else .error .tooLong

def OpaqueEnvelope.new : Except ValueError OpaqueEnvelope :=
  if he : bytes = [] then .error .empty
  else if hl : bytes.length ≤ maxValueLen then .ok ⟨bytes, he, hl⟩
  else .error .tooLong

structure SealedSecret where
  envelope : OpaqueEnvelope
  requestFingerprint : List UInt8

/-! ## errors and panics -/

inductive Fault
  | error (e : ProviderError)
  | panic

abbrev Guarded (α : Type) := Except Fault α

def unavailable : ProviderError := ⟨.unavailable, .exactInputSafe, some "software.unavailable"⟩

def integrity : ProviderError := ⟨.integrity, .never, some "software.integrity"⟩

def contextMismatch : ProviderError := ⟨.invalidRequest, .never, some "context.mismatch"⟩

/-- `bytes[i]` -/
def index (i : Nat) : Guarded UInt8 := require bytes[i]? .panic

/-- `bytes[start..]` -/
def sliceFrom (start : Nat) : Guarded (List UInt8) := do
  ensure (start ≤ bytes.length) .panic
  pure (bytes.drop start)

/-- `bytes.split_at(mid)` -/
def splitAt (mid : Nat) : Guarded (List UInt8 × List UInt8) := do
  ensure (mid ≤ bytes.length) .panic
  pure (bytes.take mid, bytes.drop mid)

/-! ## the provider -/

/-- the provider with its derived keys; `mac` is the keyed hash of framed parts, 32 bytes long -/
structure SoftwareCustodyProvider (κ : Type) where
  providerId : ProviderId
  secrets : κ
  mac : List UInt8 → List UInt8 → List UInt8
  macLength : ∀ context plaintext, (mac context plaintext).length = 32

def envelopeVersion : UInt8 := 1

def nonceLen : Nat := 24

section
variable {κ : Type} (c : Aead κ)

variable (p : SoftwareCustodyProvider κ)

variable (context : ProtectionContext)

def SoftwareCustodyProvider.validateContext
    (expectedKind : MaterialKind) : Except ProviderError Unit :=
  ensure (context.parts.providerId = p.providerId
    ∧ context.parts.providerFormatVersion.val = envelopeVersion.toUInt16
    ∧ context.parts.materialKind = expectedKind) contextMismatch

/-- `random` is what the random source returned -/
def sealEnvelope (key : κ) (random : Option (List UInt8)) (context : ProtectionContext)
    (plaintext : List UInt8) : Except ProviderError (List UInt8) := do
  let nonce ← require random unavailable
  let ciphertext ← require (c.encrypt key nonce context.canonical plaintext) unavailable
  pure (envelopeVersion :: nonce ++ ciphertext)

def openEnvelope (key : κ) (context : ProtectionContext) (envelope : List UInt8) :
    Guarded (List UInt8) := do
  -- the index is not evaluated if the envelope is short
  ensure (1 + nonceLen < envelope.length) (.error integrity)
  let version ← index envelope 0
  ensure (version = envelopeVersion) (.error integrity)
  let rest ← sliceFrom envelope 1
  let (nonce, ciphertext) ← splitAt rest nonceLen
  ensure (nonce.length = nonceLen) (.error integrity)
  require (c.decrypt key nonce context.canonical ciphertext) (.error integrity)

def orIntegrity {ε α : Type} (x : Except ε α) : Except ProviderError α :=
  match x with
  | .ok a => .ok a
  | .error _ => .error integrity

def SoftwareCustodyProvider.seal (random : Option (List UInt8)) (context : ProtectionContext)
    (plaintext : SecretPlaintext) : Except ProviderError SealedSecret := do
  p.validateContext context .configurationSecret
  let fingerprint := p.mac context.canonical plaintext.bytes
  let envelope ← sealEnvelope c p.secrets random context plaintext.bytes
  let envelope ← orIntegrity (OpaqueEnvelope.new envelope)
  ensure (fingerprint.length = 32) integrity
  pure ⟨envelope, fingerprint⟩

def SoftwareCustodyProvider.openSecret (envelope : OpaqueEnvelope) : Guarded SecretPlaintext := do
  (p.validateContext context .configurationSecret).mapError .error
  let plaintext ← openEnvelope c p.secrets context envelope.bytes
  (orIntegrity (SecretPlaintext.fromZeroizing plaintext)).mapError .error

/-! ## the layout -/

theorem openEnvelope_layout (key : κ) (context : ProtectionContext) {nonce ciphertext}
    (hn : nonce.length = nonceLen) (hc : ciphertext ≠ []) :
    openEnvelope c key context (envelopeVersion :: nonce ++ ciphertext)
      = require (c.decrypt key nonce context.canonical ciphertext) (.error integrity) := by
  have hlen : 1 + nonceLen < (envelopeVersion :: nonce ++ ciphertext).length := by
    have hpos := List.length_pos_iff.mpr hc
    rw [List.cons_append, List.length_cons, List.length_append, hn]
    omega
  have hmid : nonceLen ≤ (nonce ++ ciphertext).length := by
    rw [List.length_append, hn]
    omega
  have hslice : sliceFrom (envelopeVersion :: nonce ++ ciphertext) 1 = .ok (nonce ++ ciphertext) := by
    rw [sliceFrom, ensure_of _ (by omega)]
    rfl
  have hsplit : splitAt (nonce ++ ciphertext) nonceLen = .ok (nonce, ciphertext) := by
    rw [splitAt, ensure_of _ hmid]
    show Except.ok _ = _
    rw [List.take_left' hn, List.drop_left' hn]
  have hindex : index (envelopeVersion :: nonce ++ ciphertext) 0 = .ok envelopeVersion := rfl
  unfold openEnvelope
  rw [ensure_of _ hlen, hindex, hslice]
  show (splitAt (nonce ++ ciphertext) nonceLen >>= _) = _
  rw [hsplit]
  show (ensure (nonce.length = nonceLen) _ >>= _) = _
  rw [ensure_of _ hn]
  rfl

theorem openEnvelope_cases (key : κ) (context : ProtectionContext) (envelope : List UInt8) :
    openEnvelope c key context envelope = .error (.error integrity)
      ∨ ∃ nonce ciphertext, nonce.length = nonceLen ∧ ciphertext ≠ []
        ∧ envelope = envelopeVersion :: nonce ++ ciphertext := by
  by_cases hlen : 1 + nonceLen < envelope.length
  · cases envelope with
    | nil => cases hlen
    | cons version rest =>
      rw [List.length_cons] at hlen
      by_cases hv : version = envelopeVersion
      · refine .inr ⟨rest.take nonceLen, rest.drop nonceLen, ?_, ?_, ?_⟩
        · rw [List.length_take]
          omega
        · intro hnil
          have := List.drop_eq_nil_iff.mp hnil
          omega
        · rw [List.cons_append, List.take_append_drop, hv]
      · refine .inl ?_
        have hindex : index (version :: rest) 0 = .ok version := rfl
        unfold openEnvelope
        rw [ensure_of _ (by rw [List.length_cons]; exact hlen), hindex]
        show (ensure (version = envelopeVersion) _ >>= _) = _
        rw [ensure_not _ hv]
        rfl
  · refine .inl ?_
    unfold openEnvelope
    rw [ensure_not _ hlen]
    rfl

theorem openEnvelope_no_panic (key : κ) (context : ProtectionContext) (envelope : List UInt8) :
    openEnvelope c key context envelope ≠ .error .panic := by
  intro h
  rcases openEnvelope_cases c key context envelope with he | ⟨nonce, ciphertext, hn, hc, rfl⟩
  · rw [he] at h
    cases h
  · rw [openEnvelope_layout c key context hn hc] at h
    cases hd : c.decrypt key nonce context.canonical ciphertext with
    | none => rw [hd] at h; cases h
    | some m => rw [hd] at h; cases h

theorem openSecret_no_panic
    (envelope : OpaqueEnvelope) : p.openSecret c context envelope ≠ .error .panic := by
  intro h
  unfold SoftwareCustodyProvider.openSecret at h
  cases hv : p.validateContext context .configurationSecret with
  | error e =>
    rw [hv] at h
    cases h
  | ok u =>
    rw [hv] at h
    cases ho : openEnvelope c p.secrets context envelope.bytes with
    | error f =>
      rw [ho] at h
      cases h
      exact openEnvelope_no_panic c _ _ _ ho
    | ok plaintext =>
      rw [ho] at h
      change (orIntegrity (SecretPlaintext.fromZeroizing plaintext)).mapError Fault.error = _ at h
      cases hp : SecretPlaintext.fromZeroizing plaintext with
      | error e => rw [hp] at h; cases h
      | ok s => rw [hp] at h; cases h

/-! ## sealing and opening -/

/-- the context names the provider, its format version and the kind of the material -/
def SoftwareCustodyProvider.Named : Prop :=
  context.parts.providerId = p.providerId
    ∧ context.parts.providerFormatVersion.val = envelopeVersion.toUInt16
    ∧ context.parts.materialKind = .configurationSecret

def SoftwareCustodyProvider.encryption (nonce : List UInt8) (context : ProtectionContext)
    (plaintext : SecretPlaintext) : Aead.Encryption κ :=
  ⟨p.secrets, nonce, context.canonical, plaintext.bytes⟩

def envelopeOverhead : Nat := 1 + nonceLen + Aead.tagLen

/-- a secret is sealed, opened again under its context and under no other, and nothing panics -/
structure RoundTrip (nonce : List UInt8) (context : ProtectionContext)
    (plaintext : SecretPlaintext) : Prop where
  opens : ∃ s, p.seal c (some nonce) context plaintext = .ok s
    ∧ p.openSecret c context s.envelope = .ok plaintext
    ∧ ∀ context' : ProtectionContext, context'.parts ≠ context.parts →
      ∃ e, p.openSecret c context' s.envelope = .error (.error e)
  noPanic : ∀ context' envelope, p.openSecret c context' envelope ≠ .error .panic
  noPanicBytes : ∀ context' bytes, openEnvelope c p.secrets context' bytes ≠ .error .panic

variable {c} {made : Set (Aead.Encryption κ)} {p : SoftwareCustodyProvider κ}
  {context : ProtectionContext} {plaintext : SecretPlaintext} {nonce : List UInt8}

theorem sealEnvelope_ok (hideal : c.Ideal made) (hmade : p.encryption nonce context plaintext ∈ made) :
    ∃ ciphertext, sealEnvelope c p.secrets (some nonce) context plaintext.bytes
        = .ok (envelopeVersion :: nonce ++ ciphertext)
      ∧ ciphertext.length = plaintext.bytes.length + Aead.tagLen
      ∧ c.decrypt p.secrets nonce context.canonical ciphertext = some plaintext.bytes := by
  obtain ⟨ciphertext, henc, hlen, hdec⟩ := hideal.seals _ hmade
  refine ⟨ciphertext, ?_, hlen, hdec⟩
  have henc' : c.encrypt p.secrets nonce context.canonical plaintext.bytes = some ciphertext := henc
  show (require (c.encrypt p.secrets nonce context.canonical plaintext.bytes) unavailable >>= _) = _
  rw [henc']
  rfl

theorem envelope_too_long {bytes} (hl : ¬ bytes.length ≤ maxValueLen) :
    OpaqueEnvelope.new bytes = .error .tooLong := by
  have he : bytes ≠ [] := by
    rintro rfl
    exact hl (Nat.zero_le _)
  unfold OpaqueEnvelope.new
  rw [dif_neg he, dif_neg hl]

theorem seal_eq (hideal : c.Ideal made) (hnamed : p.Named context) (hn : nonce.length = nonceLen)
    (hmade : p.encryption nonce context plaintext ∈ made) :
    (plaintext.bytes.length + envelopeOverhead ≤ maxValueLen →
      ∃ s ciphertext, p.seal c (some nonce) context plaintext = .ok s
        ∧ s.envelope.bytes = envelopeVersion :: nonce ++ ciphertext ∧ ciphertext ≠ []
        ∧ c.decrypt p.secrets nonce context.canonical ciphertext = some plaintext.bytes)
      ∧ (¬ plaintext.bytes.length + envelopeOverhead ≤ maxValueLen →
        p.seal c (some nonce) context plaintext = .error integrity) := by
  obtain ⟨ciphertext, hseal, hlen, hdec⟩ := sealEnvelope_ok hideal hmade
  have hsize : (envelopeVersion :: nonce ++ ciphertext).length
      = plaintext.bytes.length + envelopeOverhead := by
    rw [List.cons_append, List.length_cons, List.length_append, hn, hlen, envelopeOverhead]
    omega
  have hvalid : p.validateContext context .configurationSecret = .ok () := ensure_of _ hnamed
  have hbody : p.seal c (some nonce) context plaintext
      = (orIntegrity (OpaqueEnvelope.new (envelopeVersion :: nonce ++ ciphertext)) >>= fun envelope =>
        ensure ((p.mac context.canonical plaintext.bytes).length = 32) integrity >>= fun _ =>
          pure ⟨envelope, p.mac context.canonical plaintext.bytes⟩) := by
    unfold SoftwareCustodyProvider.seal
    rw [hvalid]
    show (sealEnvelope c p.secrets (some nonce) context plaintext.bytes >>= _) = _
    rw [hseal]
    rfl
  constructor
  · intro hfits
    have hct : ciphertext ≠ [] := by
      rintro rfl
      rw [List.length_nil, Aead.tagLen] at hlen
      omega
    have hne : envelopeVersion :: nonce ++ ciphertext ≠ [] := List.cons_ne_nil _ _
    refine ⟨⟨⟨_, hne, hsize ▸ hfits⟩, p.mac context.canonical plaintext.bytes⟩, ciphertext, ?_, rfl,
      hct, hdec⟩
    rw [hbody, OpaqueEnvelope.new, dif_neg hne, dif_pos (hsize ▸ hfits), orIntegrity]
    show (ensure _ _ >>= _) = _
    rw [ensure_of _ (p.macLength _ _)]
    rfl
  · intro hno
    rw [hbody, envelope_too_long (hsize ▸ hno)]
    rfl

theorem openSecret_other (hideal : c.Ideal made) (hn : nonce.length = nonceLen)
    (hmade : p.encryption nonce context plaintext ∈ made) {envelope ciphertext} (hct : ciphertext ≠ [])
    (he : envelope.bytes = envelopeVersion :: nonce ++ ciphertext) {context'}
    (hother : context'.parts ≠ context.parts) :
    ∃ e, p.openSecret c context' envelope = .error (.error e) := by
  have haad : context'.canonical ≠ context.canonical :=
    fun h => hother (ProtectionContext.parts_inj h)
  have hnone := hideal.rejects hmade haad ciphertext
  unfold SoftwareCustodyProvider.openSecret
  cases hv : p.validateContext context' .configurationSecret with
  | error e => exact ⟨e, rfl⟩
  | ok u =>
    refine ⟨integrity, ?_⟩
    show (openEnvelope c p.secrets context' envelope.bytes >>= _) = _
    rw [he, openEnvelope_layout c _ _ hn hct]
    show (require (c.decrypt p.secrets nonce context'.canonical ciphertext) _ >>= _) = _
    rw [show c.decrypt p.secrets nonce context'.canonical ciphertext = none from hnone]
    rfl

theorem openSecret_same (hnamed : p.Named context) (hn : nonce.length = nonceLen)
    {envelope ciphertext} (hct : ciphertext ≠ [])
    (he : envelope.bytes = envelopeVersion :: nonce ++ ciphertext)
    (hdec : c.decrypt p.secrets nonce context.canonical ciphertext = some plaintext.bytes) :
    p.openSecret c context envelope = .ok plaintext := by
  have hvalid : p.validateContext context .configurationSecret = .ok () := ensure_of _ hnamed
  unfold SoftwareCustodyProvider.openSecret
  rw [hvalid]
  show (openEnvelope c p.secrets context envelope.bytes >>= _) = _
  rw [he, openEnvelope_layout c _ _ hn hct, hdec]
  show (orIntegrity (SecretPlaintext.fromZeroizing plaintext.bytes)).mapError Fault.error = _
  rw [SecretPlaintext.fromZeroizing, dif_neg plaintext.nonempty, dif_pos plaintext.bounded]
  rfl

/-- **Custody of configuration secrets.**  A secret that the provider is asked to seal under a
context of its own is sealed, opened again under this context and under no other, exactly if it
leaves room for the version, the nonce and the tag in an envelope: it has at most 65495 bytes. -/
theorem custody_round_trip_iff (hideal : c.Ideal made) (hnamed : p.Named context)
    (hn : nonce.length = nonceLen) (hmade : p.encryption nonce context plaintext ∈ made) :
    RoundTrip c p nonce context plaintext ↔ plaintext.bytes.length ≤ 65495 := by
  have hroom : plaintext.bytes.length + envelopeOverhead ≤ maxValueLen
      ↔ plaintext.bytes.length ≤ 65495 := by
    rw [envelopeOverhead, nonceLen, Aead.tagLen, maxValueLen]
    omega
  obtain ⟨hfits, hlong⟩ := seal_eq hideal hnamed hn hmade
  rw [← hroom]
  constructor
  · intro h
    by_contra hno
    obtain ⟨s, hs, _⟩ := h.opens
    cases hs.symm.trans (hlong hno)
  · intro h
    obtain ⟨s, ciphertext, hs, he, hct, hdec⟩ := hfits h
    exact ⟨⟨s, hs, openSecret_same hnamed hn hct he hdec,
        fun context' hother => openSecret_other hideal hn hmade hct he hother⟩,
      fun context' envelope => openSecret_no_panic c p context' envelope,
      fun context' bytes => openEnvelope_no_panic c p.secrets context' bytes⟩

end

namespace Demo

def custodyText (n : Nat) (allowed : UInt8 → Bool) (hn : 1 ≤ n) (ha : allowed 0x6f = true) :
    BoundedText n allowed :=
  ⟨[0x6f], List.cons_ne_nil _ _, hn, fun b hb => by rw [List.mem_singleton.mp hb]; exact ha⟩

def custodyProvider : SoftwareCustodyProvider Unit where
  providerId := ⟨[0x6f], by decide, ⟨0x6f, rfl, by decide⟩, nofun⟩
  secrets := ()
  mac := fun _ _ => List.replicate 32 0
  macLength := fun _ _ => rfl

def custodyContext : ProtectionContext :=
  .ofParts
    ⟨.v1, custodyText 128 identifierByte (by decide) rfl, .deployment,
      custodyText 128 identifierByte (by decide) rfl, .configurationSecret,
      custodyText 64 labelByte (by decide) rfl, custodyText 128 identifierByte (by decide) rfl,
      1, custodyText 64 labelByte (by decide) rfl, custodyProvider.providerId, ⟨1, by decide⟩⟩
    (by decide)

def custodyNonce : List UInt8 := List.replicate 24 7

def zeros (n : Nat) (hpos : 0 < n) (hmax : n ≤ maxValueLen) : SecretPlaintext :=
  ⟨List.replicate n 0, by rw [Ne, List.replicate_eq_nil_iff]; omega, by simpa using hmax⟩

/-- a cipher for one encryption: it appends a tag, and removes it from that ciphertext only -/
def onceCipher (e : Aead.Encryption Unit) : Aead Unit where
  encrypt := fun _ _ _ message => some (message ++ List.replicate Aead.tagLen 0)
  decrypt := fun _ nonce aad ciphertext =>
    if nonce = e.nonce ∧ aad = e.aad ∧ ciphertext = e.message ++ List.replicate Aead.tagLen 0 then
      some e.message
    else none

theorem onceCipher_ideal (e : Aead.Encryption Unit) : (onceCipher e).Ideal {e} := by
  refine ⟨?_, ?_, ?_⟩
  · rintro _ rfl
    refine ⟨_, rfl, ?_, if_pos ⟨rfl, rfl, rfl⟩⟩
    rw [List.length_append, List.length_replicate]
  · intro key nonce aad ct message h
    unfold onceCipher at h
    dsimp only at h
    split at h
    · rename_i hsame
      obtain ⟨rfl, rfl, _⟩ := hsame
      cases h
      rfl
    · cases h
  · rintro _ rfl _ rfl _ _
    rfl

end Demo

open Demo

theorem custody_round_trip_iff_short :
    RoundTrip (onceCipher (custodyProvider.encryption custodyNonce
        custodyContext (zeros 3 (by decide) (by decide))))
      custodyProvider custodyNonce custodyContext (zeros 3 (by decide) (by decide)) :=
  (custody_round_trip_iff (onceCipher_ideal _) ⟨rfl, rfl, rfl⟩ rfl rfl).mpr (by decide)

/-- a secret of 65496 bytes is admitted and cannot be sealed -/
theorem long_secret_is_not_sealed :
    custodyProvider.seal (onceCipher (custodyProvider.encryption custodyNonce
        custodyContext (zeros 65496 (by decide) (by decide))))
      (some custodyNonce) custodyContext (zeros 65496 (by decide) (by decide))
        = .error integrity := by
  refine (seal_eq (onceCipher_ideal _) ⟨rfl, rfl, rfl⟩ rfl rfl).2 ?_
  rw [zeros, List.length_replicate]
  decide

end OwlAuth
