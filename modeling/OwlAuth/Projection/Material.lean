import OwlAuth.Data.Database

/-!
# Runtime projections

A projection is the view of a project user that one application sees.  It is derived from the
user row and from the verified address of the user's primary email identity.

* `authoritativeRuntimeProjectionMaterial`  what the projection of a user should hold now;
* `semanticChange`  a public field of the view changed: the revision moves;
* `repairRuntimeProjection`  the stored row brought up to date;
* `wireProjectionDocument`  the stored row as the application reads it.
-/

namespace OwlAuth

open Fallible

/-! ## the document -/

def isAsciiIdentifier (c : Char) : Bool := c.isAlphanum || c == '_' || c == '-'

/-- `PublicId::parse` accepts -/
def validPublicId (value : String) : Bool :=
  decide (8 ≤ value.utf8ByteSize ∧ value.utf8ByteSize ≤ 96) && value.toList.all isAsciiIdentifier

def isControl (c : Char) : Bool := decide (c.toNat < 32 ∨ (127 ≤ c.toNat ∧ c.toNat ≤ 159))

/-- the address `UserProjection::materialize` accepts -/
def validVerifiedEmail (value : String) : Bool :=
  decide (3 ≤ value.utf8ByteSize ∧ value.utf8ByteSize ≤ 320) && !value.toList.any isControl

def parsesOptional (parses : String → Bool) : Option String → Bool
  | none => true
  | some value => parses value

variable (env : Environment) (db : Database)

/-- `projection_material_with_verified_email`: the wire document and its digest -/
def projectionMaterialWithVerifiedEmail (user : ProjectUser) (projectionRevision : Int)
    (verifiedEmail : Option String) : Tx (ProjectionDocument × Digest) := do
  ensure (0 < projectionRevision) .integrity
  ensure (validPublicId user.publicId = true) .integrity
  ensure (user.status ≠ .merged) .integrity
  ensure (parsesOptional env.displayNameParses user.profile.displayName = true) .integrity
  ensure (parsesOptional env.pictureUrlParses user.profile.pictureUrl = true) .integrity
  ensure (parsesOptional env.localeParses user.profile.locale = true) .integrity
  ensure (1 ≤ user.userRevision) .integrity
  ensure (user.createdAt ≤ user.updatedAt) .integrity
  ensure (parsesOptional validVerifiedEmail verifiedEmail = true) .integrity
  let document : ProjectionDocument :=
    { profile := user.profile
      verifiedEmail := verifiedEmail
      projectionRevision := projectionRevision
      status := user.status
      userId := user.publicId
      userRevision := user.userRevision
      createdAt := user.createdAt
      updatedAt := user.updatedAt }
  pure (document, env.documentDigest document)

/-- the stored form of a document never holds the address -/
def safeProjectionDocument (document : ProjectionDocument) : ProjectionDocument :=
  { document with verifiedEmail := none }

def decryptedProjectionVerifiedEmail (projection : ApplicationUserProjection) :
    Tx (Option String) :=
  match projection.verifiedEmailSourceIdentityId, projection.verifiedEmailCiphertext,
      projection.verifiedEmailKeyVersion with
  | none, none, none => pure none
  | some _, some ciphertext, some keyVersion => do
    ensure (0 < keyVersion) .integrity
    let plaintext ← env.unprotectProjectionEmail projection.projectId projection.applicationId
      projection.userId projection.projectionRevision ⟨ciphertext, keyVersion⟩
    pure (some plaintext)
  | _, _, _ => .error .integrity

def wireProjectionDocument (projection : ApplicationUserProjection) : Tx ProjectionDocument := do
  let email ← decryptedProjectionVerifiedEmail env projection
  let document : ProjectionDocument := { projection.document with verifiedEmail := email }
  ensure (projection.canonicalDigest = env.documentDigest document) .integrity
  pure document

/-! ## the source of the address -/

def primaryVerifiedEmail (user : ProjectUser) : Tx (Option (Uuid × String)) :=
  match user.status with
  | .disabled => pure none
  | .merged => .error .integrity
  | .active =>
    match user.primarySourceKind with
    | .provider => pure none
    | .email => do
      let identityId ← require user.primaryEmailIdentityId .integrity
      let identity ← require
        (db.emailIdentities.find? fun i => i.projectId = user.projectId ∧ i.id = identityId)
        .integrity
      ensure (identity.userId = user.id) .integrity
      ensure (identity.verifiedAt.isSome = true) .integrity
      match identity.status with
      | .disabled => pure none
      | .active => do
        let plaintext ← env.readDurableEmail user.projectId identityId identity.address
        pure (some (identityId, plaintext))

def projectionAuthorityWriteVersion : Tx Int := do
  ensure (0 < env.projectionWriteVersion
    ∧ env.projectionWriteVersion ∈ env.projectionReadableVersions) .disabled
  pure env.projectionWriteVersion

/-! ## the material -/

structure ProjectionMaterial where
  revision : Int
  (document storageDocument : ProjectionDocument)
  digest : Digest
  verifiedEmailSourceIdentityId : Option Uuid
  verifiedEmailCiphertext : Option (List UInt8)
  verifiedEmailKeyVersion : Option Int
  (semanticChange storageRepairRequired : Bool)

variable (projection : Option ApplicationUserProjection)

/-- the view differs from the stored projection in its user, the user's revision or the source of
the address -/
def semanticChange (user : ProjectUser) (sourceEmail : Option (Uuid × String)) : Bool :=
  match projection with
  | none => true
  | some existing => decide (
      existing.userId ≠ user.id
      ∨ existing.sourceUserRevision ≠ user.userRevision
      ∨ existing.verifiedEmailSourceIdentityId ≠ sourceEmail.map Prod.fst
      ∨ existing.verifiedEmailCiphertext.isSome ≠ sourceEmail.isSome
      ∨ existing.verifiedEmailKeyVersion.isSome ≠ sourceEmail.isSome)

def materialRevision (changed : Bool) : Tx Int :=
  match projection with
  | none => pure 1
  | some existing =>
    if changed then do
      ensure (existing.projectionRevision < maxI64) .integrity
      pure (existing.projectionRevision + 1)
    else pure existing.projectionRevision

/-- the stored ciphertext may stay: nothing public changed and it is under the write key -/
def canReuseProtected (changed : Bool) (sourceEmail : Option (Uuid × String))
    (writeVersion : Option Int) : Bool :=
  match projection with
  | none => false
  | some existing => decide (
      changed = false
      ∧ existing.verifiedEmailSourceIdentityId = sourceEmail.map Prod.fst
      ∧ existing.verifiedEmailCiphertext.isSome = sourceEmail.isSome
      ∧ existing.verifiedEmailKeyVersion.isSome = sourceEmail.isSome
      ∧ existing.verifiedEmailKeyVersion = writeVersion)

/-- the address under the key of the projection: kept, or protected anew -/
def protectSourceEmail (reuse : Bool) (applicationId : Uuid) (user : ProjectUser) (revision : Int)
    (sourceEmail : Option (Uuid × String)) : Tx (Option (List UInt8) × Option Int) :=
  match sourceEmail with
  | none => pure (none, none)
  | some (_, email) =>
    if reuse then do
      let existing ← require projection .integrity
      pure (existing.verifiedEmailCiphertext, existing.verifiedEmailKeyVersion)
    else do
      let protectedEmail ←
        env.protectProjectionEmail user.projectId applicationId user.id revision email
      pure (some protectedEmail.ciphertext, some protectedEmail.keyVersion)

def storageRepairRequired (user : ProjectUser) (changed : Bool)
    (storageDocument : ProjectionDocument) (digest : Digest) (sourceIdentityId : Option Uuid)
    (ciphertext : Option (List UInt8)) (keyVersion : Option Int) : Bool :=
  match projection with
  | none => true
  | some existing => decide (
      changed = true
      ∨ existing.document ≠ storageDocument
      ∨ existing.verifiedEmailSourceIdentityId ≠ sourceIdentityId
      ∨ existing.verifiedEmailCiphertext ≠ ciphertext
      ∨ existing.verifiedEmailKeyVersion ≠ keyVersion
      ∨ existing.canonicalDigest ≠ digest
      ∨ existing.sourceBaseProfileDigest ≠ user.baseProfileDigest)

/-- a reused ciphertext must still open to the address -/
def checkReused (reuse : Bool) (email : Option String) : Tx Unit :=
  if reuse then do
    let existing ← require projection .integrity
    let plaintext ← decryptedProjectionVerifiedEmail env existing
    ensure (plaintext = email) .integrity
  else pure ()

/-- the key version is asked for only when an address is involved -/
def projectionWriteVersion (sourceEmail : Option (Uuid × String)) : Tx (Option Int) :=
  if sourceEmail.isSome = true
      ∨ (projection.any fun existing => existing.verifiedEmailCiphertext.isSome) = true then do
    let version ← projectionAuthorityWriteVersion env
    pure (some version)
  else pure none

def authoritativeRuntimeProjectionMaterial (applicationId : Uuid)
    (user : ProjectUser) : Tx ProjectionMaterial := do
  let sourceEmail ← primaryVerifiedEmail env db user
  let writeVersion ← projectionWriteVersion env projection sourceEmail
  let changed := semanticChange projection user sourceEmail
  let revision ← materialRevision projection changed
  let reuse := canReuseProtected projection changed sourceEmail writeVersion
  let stored ← protectSourceEmail env projection reuse applicationId user revision sourceEmail
  let material ← projectionMaterialWithVerifiedEmail env user revision (sourceEmail.map Prod.snd)
  checkReused env projection reuse (sourceEmail.map Prod.snd)
  let storageDocument := safeProjectionDocument material.1
  pure {
    revision := revision
    document := material.1
    storageDocument := storageDocument
    digest := material.2
    verifiedEmailSourceIdentityId := sourceEmail.map Prod.fst
    verifiedEmailCiphertext := stored.1
    verifiedEmailKeyVersion := stored.2
    semanticChange := changed
    storageRepairRequired := storageRepairRequired projection user changed storageDocument
      material.2 (sourceEmail.map Prod.fst) stored.1 stored.2 }

def repairedProjection (projection : ApplicationUserProjection) (user : ProjectUser)
    (material : ProjectionMaterial) (now : Instant) : ApplicationUserProjection :=
  if material.storageRepairRequired then
    { projection with
      userId := user.id
      projectionRevision := material.revision
      sourceUserRevision := user.userRevision
      canonicalDigest := material.digest
      sourceBaseProfileDigest := user.baseProfileDigest
      verifiedEmailSourceIdentityId := material.verifiedEmailSourceIdentityId
      verifiedEmailCiphertext := material.verifiedEmailCiphertext
      verifiedEmailKeyVersion := material.verifiedEmailKeyVersion
      document := material.storageDocument
      updatedAt := now }
  else projection

def repairRuntimeProjection (projection : ApplicationUserProjection) (applicationId : Uuid)
    (user : ProjectUser) (now : Instant) :
    Tx (Database × ApplicationUserProjection × ProjectionMaterial) := do
  let material ←
    authoritativeRuntimeProjectionMaterial env db (some projection) applicationId user
  let repaired := repairedProjection projection user material now
  pure ({ db with projections := db.projections.set repaired }, repaired, material)

end OwlAuth
