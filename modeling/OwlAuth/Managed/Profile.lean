import OwlAuth.Login.Completion
import OwlAuth.Managed.Reauthorization

/-!
# Profiles read over a managed connection

After a renewal or a reauthorization the profile of the identity is read from the provider and
stored in a transaction of its own, under the guard of the new credential
(`commitProfileForGuard`).  If the identity is the user's primary one the user's profile follows,
announced to every application of the user.
-/

namespace OwlAuth

open Fallible

structure CommitManagedProfile where
  guard : ConnectionGuard
  lease : Option (Uuid × Instant)
  profile : Profile
  (observedAt nextSync now : Instant)

variable (env : Environment) (c : CommitManagedProfile)

def ProfileTarget (m : ManagedConnection) : Prop :=
  AtGuard c.guard m ∧ m.userId = c.guard.userId
    ∧ m.providerConfigurationId = c.guard.providerConfigurationId
    ∧ m.linkedIdentityId = c.guard.linkedIdentityId
    ∧ ∀ lease ∈ c.lease, HeldUntil .renewal lease.1 lease.2 c.now m
  deriving Decidable

def synchronizedIdentity (identity : LinkedIdentity) : LinkedIdentity :=
  { identity with
    profile := c.profile
    observedAt := c.observedAt
    sourceProfileDigest := env.profileDigest c.profile
    identityRevision :=
      if identity.profile = c.profile then identity.identityRevision
      else identity.identityRevision + 1 }

def synchronizedUser (user : ProjectUser) : ProjectUser :=
  { user with
    profile := effectiveProfile user c.profile
    baseProfileDigest := env.profileDigest (effectiveProfile user c.profile)
    userRevision := user.userRevision + 1
    updatedAt := c.now }

/-- the user shows this identity's profile, and it differs from the one just read -/
def ProfileFollows (user : ProjectUser) : Prop :=
  user.primarySourceKind = .provider
    ∧ user.primaryProfileIdentityId = some c.guard.linkedIdentityId
    ∧ user.profile ≠ effectiveProfile user c.profile
  deriving Decidable

def followProfile (user : ProjectUser) (db : Database) : Tx Database :=
  if ProfileFollows c user then
    fanOutUser env { db with users := db.users.set (synchronizedUser env c user) }
      (synchronizedUser env c user) c.now
  else pure db

/-- a lease the profile came with ends here -/
def synchronizedConnection (identityRevision : Int) (m : ManagedConnection) : ManagedConnection :=
  { m with
    lastSafeOutcome := "read_succeeded"
    lastSynchronizedAt := some c.now
    nextSynchronizeAt := some c.nextSync
    consecutiveFailures := 0
    identityRevision := identityRevision
    lease := if c.lease.isSome then none else m.lease }

structure ProfileRows where
  connection : ManagedConnection
  identity : LinkedIdentity
  user : ProjectUser

def lockProfileRows (db : Database) : Option ProfileRows := do
  let g := c.guard
  let connection ← db.managedConnections.find? (ProfileTarget c)
  let identity ← db.identities.find? fun i => i.id = g.linkedIdentityId
    ∧ i.projectId = g.projectId ∧ i.userId = g.userId ∧ i.identityRevision = g.identityRevision
  let user ← db.users.find? fun u => u.id = g.userId ∧ u.projectId = g.projectId
  guard (user.status = .active ∧ user.securityRevision = g.userSecurityRevision)
  pure ⟨connection, identity, user⟩

def commitProfileForGuard (db : Database) : Tx (Committed Bool) := do
  let ok ← lockGuardAuthority db c.guard
  match if ok then lockProfileRows c db else none with
  | none => pure (.done db false)
  | some rows => do
    let identity := synchronizedIdentity env c rows.identity
    let db ← followProfile env c rows.user
      { db with identities := db.identities.set identity }
    pure (.done { db with
      managedConnections := db.managedConnections.set
        (synchronizedConnection c identity.identityRevision rows.connection) } true)

end OwlAuth
