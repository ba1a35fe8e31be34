import OwlAuth.Data.Database

/-!
# Custody of protected materials

A material is reserved before its provider is called, receives the handle the provider returned,
and is erased in the end.

* `reserveMaterial`  the reservation of an owner's generation; the same one again is kept;
* `finalizePendingMaterial`  the returned handle stored, once;
* `eraseById`  the handle dropped, once.

The protection context of a material is a function of its other columns and is left out.
-/

namespace OwlAuth

open Fallible

def erasedMaterial (now : Instant) (m : ProtectedMaterial) : ProtectedMaterial :=
  { m with opaqueValue := none, state := .erased, erasedAt := some now }

def SameOwner (m o : ProtectedMaterial) : Prop :=
  o.projectId = m.projectId ∧ o.ownerKind = m.ownerKind ∧ o.ownerId = m.ownerId
    ∧ o.generation = m.generation
  deriving Decidable

variable (materials : Table ProtectedMaterial)

def reserveMaterial (m : ProtectedMaterial) : Tx (Table ProtectedMaterial) :=
  match materials.find? (SameOwner m) with
  | some existing => do
    ensure (existing.id = m.id ∧ existing.materialKind = m.materialKind
      ∧ existing.providerId = m.providerId
      ∧ existing.providerFormatVersion = m.providerFormatVersion) .idempotencyConflict
    pure materials
  | none => do
    ensure (0 < m.generation) .invalidInput
    insertRow materials m fun o => ¬ SameOwner m o

def finalizePendingMaterial (materialId : Uuid)
    (projectId : Option Uuid) (opaqueValue : List UInt8) (safeFingerprint : Option Digest) :
    Tx (Table ProtectedMaterial) := do
  let m ← require (materials.find? fun m => m.id = materialId ∧ m.projectId = projectId) .notFound
  match m.state with
  | .pending =>
    pure (materials.set
      { m with
        opaqueValue := some opaqueValue
        safeFingerprint := safeFingerprint
        state := .live })
  | .live => do
    -- a keyed fingerprint decides for a randomized envelope, exact bytes for a signing handle
    ensure (m.safeFingerprint = safeFingerprint
      ∧ (safeFingerprint.isSome ∨ m.opaqueValue = some opaqueValue)) .idempotencyConflict
    pure materials
  | .erased => do
    ensure safeFingerprint.isSome .invalidTransition
    ensure (m.safeFingerprint = safeFingerprint) .idempotencyConflict
    pure materials

def eraseById (materialId : Uuid) (erasedAt : Instant) : Tx (Table ProtectedMaterial) := do
  let m ← require (materials.find? fun m => m.id = materialId) .notFound
  match m.state with
  | .erased => pure materials
  | _ => pure (materials.set (erasedMaterial erasedAt m))

end OwlAuth
