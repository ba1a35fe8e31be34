import OwlAuth.Signing.Step

/-!
# Signing-key operations, call by call

What the calls do to the operation behind a signing key: its state, and the lease under which the
provider is called.

* `LeaseHeld`  the lease a call presents is the operation's, and has not expired;
* `KeyOperationsKept`  what a call may do without an answer of the provider;
* `LeaseGranted`  a lease on the next call of the provider;
* `OperationAnswered`  an answer that was recorded under a lease that is held, or one that had been
    recorded before.
-/

namespace OwlAuth

open Fallible Table

def LeaseHeld (env : Environment) (o : KeyProvisioningOperation) (lease : SigningProviderLease) :
    Prop :=
  o.providerLeaseToken = some lease.token
    ∧ ∃ expiresAt ∈ o.providerLeaseExpiresAt, env.databaseClock < expiresAt

/-- no answer of the provider was recorded: the operation does not become ready to be provisioned, nor
failed, and it is given up only where nothing was to be cleaned up -/
structure KeyOperationKept (o o' : KeyProvisioningOperation) : Prop where
  id : o'.id = o.id
  token : ∀ t ∈ o'.providerLeaseToken, o.providerLeaseToken = some t
  prepared : o'.state = .prepared → o.state = .prepared
  failed : o'.state = .failed → o.state = .failed
  abandoned : o'.state = .abandoned → o.state = .abandoned ∨ o.state = .prepared ∨ o.state = .failed

theorem KeyOperationKept.refl (o : KeyProvisioningOperation) : KeyOperationKept o o :=
  ⟨rfl, fun _ h => h, fun h => h, fun h => h, fun h => .inl h⟩

variable {o o' : KeyProvisioningOperation} {lease : SigningProviderLease} {c : ChangeSigningKey}
  {r : Committed Unit}

theorem KeyOperationKept.of_state (id : o'.id = o.id)
    (token : ∀ t ∈ o'.providerLeaseToken, o.providerLeaseToken = some t)
    (prepared : o'.state ≠ .prepared) (failed : o'.state ≠ .failed)
    (abandoned : o'.state ≠ .abandoned) : KeyOperationKept o o' :=
  ⟨id, token, fun h => absurd h prepared, fun h => absurd h failed, fun h => absurd h abandoned⟩

def NewOperation (o : KeyProvisioningOperation) : Prop :=
  o.state = .prepared ∧ o.providerLeaseToken = none

def KeyOperationsKept (db db' : Database) : Prop :=
  Evolves KeyOperationKept NewOperation db.operations db'.operations

/-- a lease was granted, on an operation whose lease was released or had expired -/
structure LeaseGranted (env : Environment) (id : Uuid) (action : SigningProviderAction)
    (db db' : Database) (o : KeyProvisioningOperation) : Prop where
  mem : o ∈ db.operations
  named : o.id = id
  free : ∀ expiresAt ∈ o.providerLeaseExpiresAt, expiresAt ≤ env.databaseClock
  written : ∃ state leaseUntil, claimedState o.state = .ok (state, action.call)
    ∧ db'.operations = db.operations.set
      (leasedOperation o state action.call action.lease.token env.databaseClock leaseUntil)

/-- an answer of the provider left the operation in a state that satisfies `P`, or changed nothing -/
inductive OperationAnswered (env : Environment) (id : Uuid) (lease : SigningProviderLease)
    (P : ProvisioningOperationState → Prop) (db db' : Database) : Prop
  | known (same : db' = db)
  | recorded (o o' : KeyProvisioningOperation) (mem : o ∈ db.operations)
      (operations : db'.operations = db.operations.set o') (named : o.id = id)
      (held : LeaseHeld env o lease) (kept : o'.id = o.id)
      (released : o'.providerLeaseToken = none) (state : P o'.state)

/-- the provider holds something, or may -/
def Outstanding (s : ProvisioningOperationState) : Prop :=
  s ≠ .prepared ∧ s ≠ .failed ∧ s ≠ .abandoned

section
variable {env : Environment} {db db' : Database}

theorem KeyOperationsKept.of_eq (h : db'.operations = db.operations) : KeyOperationsKept db db' :=
  Evolves.of_eq .refl h

theorem KeyOperationsKept.set (ho : o ∈ db.operations) (h : db'.operations = db.operations.set o')
    (hk : KeyOperationKept o o') : KeyOperationsKept db db' := by
  show Evolves KeyOperationKept NewOperation db.operations db'.operations
  rw [h]
  exact evolves_set .refl ho hk.id hk

theorem OperationAnswered.stale {id P} (h : OperationAnswered env id lease P db db')
    (hstale : ∀ o ∈ db.operations, o.id = id → ¬ LeaseHeld env o lease) : db' = db := by
  cases h with
  | known same => exact same
  | recorded o o' mem operations named held => exact absurd held (hstale o mem named)

/-! ## the operation a call names -/

theorem namedOperation_ok {projectId prepared} (h : namedOperation db projectId prepared = .ok o) :
    o ∈ db.operations ∧ o.id = prepared.operationId := by
  obtain ⟨_, ho, _, _, h⟩ := peel₂ h
  cases h
  obtain ⟨hmem, hid, _⟩ := find_ok ho
  exact ⟨hmem, hid⟩

theorem ensureSigningProviderLease_ok {u}
    (h : ensureSigningProviderLease env o lease = .ok u) : LeaseHeld env o lease := by
  have hheld := ensure_ok.mp h
  exact hheld

/-! ## preparation and transitions of the key -/

theorem prepareSigningKey_operations {c r} (h : prepareSigningKey env c db = .ok r) :
    KeyOperationsKept db r.db := by
  obtain ⟨_, hm, h⟩ := bind_ok.mp h
  cases h
  obtain ⟨_, hm⟩ := later hm
  split at hm
  · obtain ⟨_, _, _, hm⟩ := later₃ hm
    cases hm
    exact .of_eq rfl
  · obtain ⟨_, _, _, hm⟩ := later₃ hm
    obtain ⟨_, _, ⟨_, _⟩, _, _, _, hm⟩ := peel₃ hm
    obtain ⟨_, _, _, hi, hm⟩ := peel₂ hm
    cases hm
    exact evolves_insert .refl (insertRowOr_ok hi).2 ⟨rfl, rfl⟩

theorem abandonedOperation_kept (now)
    (h : o.state = .prepared ∨ o.state = .failed ∨ cleanupRequired o.state = true) :
    KeyOperationKept o (abandonedOperation now o) := by
  have hstate : (abandonedOperation now o).state
      = if cleanupRequired o.state then .cleanupPending else .abandoned := rfl
  refine ⟨rfl, nofun, fun hs => ?_, fun hs => ?_, fun hs => ?_⟩
  · rw [hstate] at hs
    split at hs <;> cases hs
  · rw [hstate] at hs
    split at hs <;> cases hs
  · rw [hstate] at hs
    split at hs
    · cases hs
    · rename_i hno
      rcases h with h | h | h
      · exact .inr (.inl h)
      · exact .inr (.inr h)
      · exact absurd h hno

theorem transitionSigningKey_operations {target r} (h : transitionSigningKey env c target db = .ok r) :
    KeyOperationsKept db r.db := by
  obtain ⟨_, _, _, h⟩ := later₃ h
  obtain ⟨_, _, _, h⟩ := later₃ h
  obtain ⟨_, _, h⟩ := later₂ h
  obtain ⟨⟨_, _⟩, hend, _, _, h⟩ := peel₂ h
  cases h
  unfold endOperation at hend
  split at hend
  · obtain ⟨_, ho, _, hs, hend⟩ := peel₂ hend
    cases hend
    exact .set (find_ok ho).1 rfl (abandonedOperation_kept env.databaseClock (ensure_ok.mp hs))
  · cases hend
    exact .of_eq rfl

/-! ## leases -/

theorem claimSigningProviderAction_operations {c r}
    (h : claimSigningProviderAction env c db = .ok r) :
    (KeyOperationsKept db r.db ∧ ∃ e, r.reply = .error e)
      ∨ ∃ action o, r.reply = .ok action
        ∧ LeaseGranted env c.prepared.operationId action db r.db o := by
  obtain ⟨_, _, _, _, operation, ho, h⟩ := peel₃ h
  obtain ⟨hmem, hid⟩ := namedOperation_ok ho
  split at h
  · obtain ⟨_, h⟩ := later h
    cases h
    have hstep : ∀ c, KeyOperationsKept db (execute db (transitionSigningKey env c .revoked db)) :=
      fun _ => execute_of (P := KeyOperationsKept db) (.of_eq rfl)
        fun _ => transitionSigningKey_operations
    unfold containPreparedKey
    dsimp only
    split <;> exact .inl ⟨hstep _, _, rfl⟩
  · obtain ⟨_, hfree, _, _, ⟨state, call⟩, hclaimed, h⟩ := peel₃ h
    cases h
    exact .inr ⟨⟨call, ⟨env.newUuid 0⟩⟩, operation, rfl, hmem, hid, ensure_ok.mp hfree, state,
      _, hclaimed, rfl⟩

/-! ## answers of the provider -/

theorem recordSigningProviderFailure_operations {c}
    (h : recordSigningProviderFailure env c db = .ok r) :
    OperationAnswered env c.prepared.operationId c.lease
      (fun s => s = failedState c.providerCall c.retry) db r.db := by
  obtain ⟨operation, ho, _, hlease, h⟩ := peel₂ h
  cases h
  obtain ⟨hmem, hid⟩ := namedOperation_ok ho
  exact .recorded operation _ hmem rfl hid (ensureSigningProviderLease_ok hlease) rfl rfl rfl

theorem recordSigningProviderAbsence_operations {c}
    (h : recordSigningProviderAbsence env c db = .ok r) :
    OperationAnswered env c.prepared.operationId c.lease
      (fun s => s = .prepared ∨ s = .failed) db r.db := by
  obtain ⟨operation, ho, _, _, h⟩ := peel₂ h
  obtain ⟨_, hlease, project, _, h⟩ := peel₂ h
  cases h
  obtain ⟨hmem, hid⟩ := namedOperation_ok ho
  have hafter : (absentOperation c project operation).id = operation.id
      ∧ (absentOperation c project operation).providerLeaseToken = none
      ∧ ((absentOperation c project operation).state = .prepared
        ∨ (absentOperation c project operation).state = .failed) := by
    unfold absentOperation
    split
    · exact ⟨rfl, rfl, .inr rfl⟩
    · exact ⟨rfl, rfl, .inl rfl⟩
  exact .recorded operation _ hmem rfl hid (ensureSigningProviderLease_ok hlease) hafter.1
    hafter.2.1 hafter.2.2

theorem queueSigningProviderCleanup_operations {c}
    (h : queueSigningProviderCleanup env c db = .ok r) :
    OperationAnswered env c.prepared.operationId c.lease Outstanding db r.db := by
  obtain ⟨operation, ho, h⟩ := bind_ok.mp h
  split at h
  · cases h
    exact .known rfl
  · obtain ⟨_, _, _, hlease, h⟩ := peel₂ h
    cases h
    obtain ⟨hmem, hid⟩ := namedOperation_ok ho
    exact .recorded operation _ hmem rfl hid (ensureSigningProviderLease_ok hlease) rfl rfl
      (by refine ⟨?_, ?_, ?_⟩ <;> rintro ⟨⟩)

theorem recordProtectedSigningKeyMaterial_operations {c}
    (h : recordProtectedSigningKeyMaterial env c db = .ok r) :
    OperationAnswered env c.prepared.operationId c.lease Outstanding db r.db := by
  obtain ⟨project, _, operation, ho, _, _, h⟩ := peel₃ h
  split at h
  · obtain ⟨_, h⟩ := later h
    cases h
    exact .known rfl
  · obtain ⟨_, _, _, hlease, _, _, h⟩ := peel₃ h
    obtain ⟨_, _, _, h⟩ := later₃ h
    cases h
    obtain ⟨hmem, hid⟩ := namedOperation_ok ho
    exact .recorded operation _ hmem rfl hid (ensureSigningProviderLease_ok hlease) rfl rfl
      (by unfold recordedOperation; split <;> refine ⟨?_, ?_, ?_⟩ <;> rintro ⟨⟩)

theorem completeSigningProviderCleanup_operations {c}
    (h : completeSigningProviderCleanup env c db = .ok r) :
    OperationAnswered env c.prepared.operationId c.lease
      (fun s => s = .abandoned ∧ c.destroyed = true ∨ Outstanding s) db r.db := by
  obtain ⟨_, _, ring, _, key, _, h⟩ := peel₃ h
  obtain ⟨operation, ho, _, _, _, hlease, h⟩ := peel₃ h
  obtain ⟨hmem, hid⟩ := namedOperation_ok ho
  have hheld := ensureSigningProviderLease_ok hlease
  split at h
  · cases h
    exact .recorded operation _ hmem rfl hid hheld rfl rfl (.inr ⟨nofun, nofun, nofun⟩)
  · rename_i hno
    rw [Bool.not_eq_false] at hno
    split at h
    · obtain ⟨_, h⟩ := later h
      cases h
      exact .recorded operation _ hmem rfl hid hheld rfl rfl (.inl ⟨rfl, hno⟩)
    · obtain ⟨_, _, materials, _, h⟩ := peel₂ h
      split at h <;> cases h <;>
        exact .recorded operation _ hmem rfl hid hheld rfl rfl (.inl ⟨rfl, hno⟩)

/-! ## publication -/

theorem publishSigningKey_operations {c r} (h : publishSigningKey c db = .ok r) :
    KeyOperationsKept db r.db := by
  obtain ⟨_, _, operation, ho, h⟩ := peel₂ h
  have hmem := (namedOperation_ok ho).1
  have hcontained : KeyOperationsKept db (containStoredKey db operation) :=
    .set hmem rfl (.of_state rfl (fun _ ht => ht) (by rintro ⟨⟩) (by rintro ⟨⟩) (by rintro ⟨⟩))
  split at h
  · cases h
    exact .of_eq rfl
  · split at h
    · split at h
      · cases h
        exact hcontained
      · cases h
    · obtain ⟨_, _, _, h⟩ := later₃ h
      split at h
      · cases h
        exact hcontained
      · obtain ⟨_, h⟩ := later h
        cases h
        exact .set hmem rfl (.of_state rfl (fun _ ht => ht) (by rintro ⟨⟩) (by rintro ⟨⟩)
          (by rintro ⟨⟩))

end

end OwlAuth
