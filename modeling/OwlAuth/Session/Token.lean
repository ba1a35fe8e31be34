import OwlAuth.Data.Database

/-!
# The signing key behind an access token

A preparation captures the active key of the project's ring (`activeSigningSnapshot`), the token is
signed outside the database, and the commit checks that nothing moved meanwhile
(`lockSigningEpoch`).
-/

namespace OwlAuth

open Fallible Table

def tokenPurpose : String := "application_tokens"
def tokenAlgorithm : String := "EdDSA"

structure SigningSnapshot where
  (ringId keyId : Uuid)
  (issuer kid : String)
  publicJwk : Jwk
  materialId : Uuid
  epoch : Int

/-- `ORDER BY activated_at DESC, id ASC`; a null sorts first -/
def activatedBefore (a b : SigningKey) : Bool :=
  match a.activatedAt, b.activatedAt with
  | none, none => decide (a.id < b.id)
  | none, some _ => true
  | some _, none => false
  | some x, some y => decide (y < x ∨ (x = y ∧ a.id < b.id))

def SigningKey.maySign (key : SigningKey) (now : Instant) : Prop :=
  ∃ start ∈ key.signNotBefore, start ≤ now

instance (key : SigningKey) (now : Instant) : Decidable (key.maySign now) :=
  match h : key.signNotBefore with
  | none => isFalse (by rintro ⟨s, hs, _⟩; rw [h] at hs; cases hs)
  | some start =>
    if hle : start ≤ now then isTrue ⟨start, h, hle⟩
    else isFalse (by rintro ⟨s, hs, hle'⟩; rw [h] at hs; cases hs; exact hle hle')

def activeSigningSnapshot (db : Database) (projectId : Uuid) (now : Instant) : Tx SigningSnapshot := do
  let ring ← require
    (db.rings.find? fun r =>
      r.projectId = projectId ∧ r.purpose = tokenPurpose ∧ r.algorithm = tokenAlgorithm) .notFound
  let key ← require
    (db.keys.first? (fun k => k.projectId = projectId ∧ k.ringId = ring.id ∧ k.state = .active)
      activatedBefore) .notFound
  ensure (key.maySign now) .revisionConflict
  pure {
    ringId := ring.id
    keyId := key.id
    issuer := ring.issuer
    kid := key.kid
    publicJwk := key.publicJwk
    materialId := key.signerMaterialId
    epoch := ring.signingEpoch }

def lockSigningEpoch (db : Database) (projectId ringId keyId : Uuid) (signingEpoch : Int)
    (now : Instant) : Tx Unit := do
  let ring ← require (db.rings.find? fun r => r.id = ringId ∧ r.projectId = projectId) .notFound
  let key ← require
    (db.keys.find? fun k => k.id = keyId ∧ k.projectId = projectId ∧ k.ringId = ringId) .notFound
  ensure (ring.signingEpoch = signingEpoch ∧ ring.purpose = tokenPurpose
    ∧ ring.algorithm = tokenAlgorithm ∧ key.state = .active ∧ key.maySign now) .revisionConflict

def accessTokenLifetime (policy : ProjectPolicy) : Tx Int := do
  let lifetime ← require policy.accessTokenLifetimeSeconds .integrity
  ensure (60 ≤ lifetime ∧ lifetime ≤ 3600) .integrity
  pure lifetime

theorem accessTokenLifetime_ok {policy lifetime}
    (h : accessTokenLifetime policy = .ok lifetime) : 60 ≤ lifetime ∧ lifetime ≤ 3600 := by
  obtain ⟨_, _, _, hl, h⟩ := peel₂ h
  cases h
  exact ensure_ok.mp hl

end OwlAuth
