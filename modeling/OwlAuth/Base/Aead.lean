import Mathlib.Data.Set.Basic

/-!
# Ideal authenticated encryption

A cipher whose ciphertexts cannot be forged, relative to the encryptions that were made: what
decrypts was encrypted, under the same key, nonce and associated data, and no nonce was drawn twice
under a key.  A cipher with short tags cannot keep all associated data apart at once, so the
assumption is about the encryptions of a deployment and not about all there could be.

* `Aead`, `Encryption`  the cipher, and one use of it;
* `Aead.Ideal c made`  the encryptions `made` cannot be forged;
* `Ideal.rejects`  an encryption is opened under no other associated data.
-/

structure Aead (κ : Type) where
  encrypt : κ → List UInt8 → List UInt8 → List UInt8 → Option (List UInt8)
  decrypt : κ → List UInt8 → List UInt8 → List UInt8 → Option (List UInt8)

namespace Aead

structure Encryption (κ : Type) where
  key : κ
  (nonce aad message : List UInt8)

def tagLen : Nat := 16

/-- the encryptions `made` cannot be forged -/
structure Ideal {κ : Type} (c : Aead κ) (made : Set (Encryption κ)) : Prop where
  seals : ∀ e ∈ made, ∃ ct, c.encrypt e.key e.nonce e.aad e.message = some ct
    ∧ ct.length = e.message.length + tagLen ∧ c.decrypt e.key e.nonce e.aad ct = some e.message
  authentic : ∀ key nonce aad ct message, c.decrypt key nonce aad ct = some message →
    (⟨key, nonce, aad, message⟩ : Encryption κ) ∈ made
  fresh : ∀ e ∈ made, ∀ e' ∈ made, e.key = e'.key → e.nonce = e'.nonce → e = e'

section
variable {κ : Type} {c : Aead κ} {made : Set (Encryption κ)}

theorem Ideal.rejects (h : c.Ideal made) {e} (he : e ∈ made) {aad}
    (haad : aad ≠ e.aad) (ct : List UInt8) : c.decrypt e.key e.nonce aad ct = none := by
  cases hd : c.decrypt e.key e.nonce aad ct with
  | none => rfl
  | some message =>
    have hmade := h.authentic _ _ _ _ _ hd
    have hsame := h.fresh _ hmade e he rfl rfl
    exact absurd (congrArg Encryption.aad hsame) haad

end

end Aead
