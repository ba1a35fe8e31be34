import OwlAuth.Signing.Provisioning

/-!
# What a signing-key call can do

`SigningStep env db db'` has one case for each way a committed call changes the keys and the rings;
the operations and the materials are not looked at here.

* `operated`  neither keys nor rings;
* `prepared`  a new candidate, in a ring that may be new, of a project that had none;
* `described`  one key, in the state it was in;
* `moved`  one key, to a later state, with the revision of its ring;
* `activated`  the candidate and the key it replaces, with the revision and the epoch of their ring.
-/

namespace OwlAuth

open Fallible Table

/-- the same key: what names it never changes, nor what verifiers know of it once it was made -/
structure SameKey (k k' : SigningKey) : Prop where
  id : k'.id = k.id
  projectId : k'.projectId = k.projectId
  ringId : k'.ringId = k.ringId
  kid : k'.kid = k.kid
  verifyNotAfter : k'.verifyNotAfter = k.verifyNotAfter
  publicJwk : k.state ≠ .provisioning → k'.publicJwk = k.publicJwk

/-- the ring a candidate is put into was there, or is new -/
def RingReady (db : Database) (ring : KeyRing) (rings : Table KeyRing) : Prop :=
  (rings = db.rings ∧ ring ∈ db.rings) ∨ db.rings.insert ring = some rings

structure KeyInRing (db : Database) (ring : KeyRing) (key : SigningKey) : Prop where
  ringMem : ring ∈ db.rings
  keyMem : key ∈ db.keys
  ringId : key.ringId = ring.id
  projectId : key.projectId = ring.projectId

/-- one key moves to a later state; it neither becomes active nor retiring this way -/
structure KeyMove (env : Environment) (key key' : SigningKey) : Prop where
  same : SameKey key key'
  allowed : key.state.transition key'.state = true
  notActive : key'.state ≠ .active
  notRetiring : key'.state ≠ .retiring
  retired : key'.state = .retired → ∃ cutoff ∈ key.verifyNotAfter, cutoff ≤ env.databaseClock

inductive SigningStep (env : Environment) (db : Database) : Database → Prop
  | operated (operations : Table KeyProvisioningOperation) (materials : Table ProtectedMaterial) :
      SigningStep env db { db with operations := operations, materials := materials }
  | prepared (ring : KeyRing) (key : SigningKey) (rings : Table KeyRing) (keys : Table SigningKey)
      (operations : Table KeyProvisioningOperation) (materials : Table ProtectedMaterial)
      (ready : RingReady db ring rings) (inserted : db.keys.insert key = some keys)
      (ringId : key.ringId = ring.id) (projectId : key.projectId = ring.projectId)
      (state : key.state = .provisioning)
      (free : ∀ k ∈ db.keys, ¬ CandidateOf key.projectId k) :
      SigningStep env db
        { db with rings := rings, keys := keys, operations := operations, materials := materials }
  | described (key key' : SigningKey) (operations : Table KeyProvisioningOperation)
      (materials : Table ProtectedMaterial) (mem : key ∈ db.keys) (same : SameKey key key')
      (state : key'.state = key.state) :
      SigningStep env db
        { db with keys := db.keys.set key', operations := operations, materials := materials }
  | moved (ring : KeyRing) (key key' : SigningKey) (epoch : Int)
      (operations : Table KeyProvisioningOperation) (materials : Table ProtectedMaterial)
      (here : KeyInRing db ring key) (move : KeyMove env key key')
      (later : ring.signingEpoch ≤ epoch)
      (noticed : key.state ≠ .provisioning → ring.signingEpoch < epoch) :
      SigningStep env db
        { db with
          keys := db.keys.set key'
          rings := db.rings.set { ring with revision := ring.revision + 1, signingEpoch := epoch }
          operations := operations
          materials := materials }
  | activated (ring : KeyRing) (candidate : SigningKey) (here : KeyInRing db ring candidate)
      (state : candidate.state = .published) :
      SigningStep env db
        { db with
          keys := (demotedKeys env db ring).set
            (activatedKey env.databaseClock candidate (ring.revision + 1))
          rings := db.rings.set (advancedRing ring) }

theorem SigningStep.refl (env db) : SigningStep env db db :=
  .operated db.operations db.materials

abbrev OnlySigning (db db' : Database) : Prop :=
  db' = { db with
    rings := db'.rings
    keys := db'.keys
    operations := db'.operations
    materials := db'.materials }

variable {env : Environment} {db : Database} {keyId : Uuid}
  {r : Committed SigningKeyRecord} {ring : KeyRing} {key : SigningKey}
  {c : ChangeSigningKey} {target : KeyState} {project : Project}
  {operation : KeyProvisioningOperation}

theorem SigningStep.frame {db'} (h : SigningStep env db db') : OnlySigning db db' := by
  cases h with
  | _ => rfl

/-! ## the reads -/

theorem findRing_ok {projectId ringId r} (h : findRing db projectId ringId = .ok r) :
    r ∈ db.rings ∧ r.id = ringId ∧ r.projectId = projectId :=
  find_ok h

theorem keyInRing_of_found {projectId ringId}
    (hr : ring ∈ db.rings ∧ ring.id = ringId ∧ ring.projectId = projectId)
    (hk : findRingKey db projectId ringId keyId = .ok key) : KeyInRing db ring key := by
  obtain ⟨hr, hid, hp⟩ := hr
  obtain ⟨hk, _, hkp, hkr⟩ := find_ok hk
  exact ⟨hr, hk, hkr.trans hid.symm, hkp.trans hp.symm⟩

/-! ## keys that move -/

theorem activateSigningKeyIfReady_step (h : activateSigningKeyIfReady env c db = .ok r) :
    SigningStep env db r.db := by
  obtain ⟨_, _, _, _, ring, hr, h⟩ := peel₃ h
  obtain ⟨_, _, candidate, hc, _, hs, h⟩ := peel₃ h
  cases h
  obtain ⟨hr, _, hrp⟩ := findRing_ok hr
  exact .activated ring candidate (keyInRing_of_found ⟨hr, rfl, hrp⟩ hc) (ensure_ok.mp hs).1

theorem checkKeyTransition_ok {now u} (h : checkKeyTransition key target now = .ok u) :
    key.state.transition target = true
      ∧ (target = .retired → ∃ cutoff ∈ key.verifyNotAfter, cutoff ≤ now) := by
  unfold checkKeyTransition at h
  split at h
  · rename_i ht
    obtain ⟨hs, hcut⟩ := ensure_ok.mp h
    rw [hs, ht]
    exact ⟨rfl, fun _ => hcut⟩
  · rename_i ht
    exact ⟨ensure_ok.mp h, fun h' => absurd h' ht⟩

theorem transitionSigningKey_step (h : transitionSigningKey env c target db = .ok r)
    (ht : target = .retired ∨ target = .revoked) : SigningStep env db r.db := by
  obtain ⟨_, _, _, h⟩ := later₃ h
  obtain ⟨ring, hr, _, _, key, hk, h⟩ := peel₃ h
  obtain ⟨_, _, _, hcheck, h⟩ := peel₂ h
  obtain ⟨⟨operations, material⟩, _, materials, _, h⟩ := peel₂ h
  cases h
  obtain ⟨hr, _, hrp⟩ := findRing_ok hr
  obtain ⟨hallowed, hretired⟩ := checkKeyTransition_ok hcheck
  have hend : ∀ s, s = .active ∨ s = .retiring →
      effectiveTarget key (protectedOperationState db key target) target ≠ s := by
    intro s hs he
    unfold effectiveTarget at he
    split at he <;> rcases ht with rfl | rfl <;> rcases hs with rfl | rfl <;> cases he
  have hmove : KeyMove env key (movedKey key _ (ring.revision + 1) material env.databaseClock) :=
    ⟨⟨rfl, rfl, rfl, rfl, rfl, fun _ => rfl⟩, hallowed, hend _ (.inl rfl), hend _ (.inr rfl), hretired⟩
  exact .moved ring key _ (ring.signingEpoch + 1) operations materials
    (keyInRing_of_found ⟨hr, rfl, hrp⟩ hk) hmove (Int.le_of_lt (Int.lt_succ _))
    (fun _ => Int.lt_succ _)

/-! ## provisioning -/

theorem reserveSigningKey_step {c r}
    (h : reserveSigningKey env c project db = .ok r) (hp : project.id = c.projectId) :
    SigningStep env db r.1 := by
  obtain ⟨_, _, _, _, _, hfree, h⟩ := peel₃ h
  obtain ⟨_, _, ⟨ring, rings⟩, hring, keys, hkeys, h⟩ := peel₃ h
  obtain ⟨materials, _, operations, _, h⟩ := peel₂ h
  cases h
  obtain ⟨hready, hrp⟩ : RingReady db ring rings ∧ ring.projectId = project.id := by
    obtain ⟨issuer, _, h⟩ := bind_ok.mp hring
    split at h
    · rename_i found hf
      cases h
      obtain ⟨hmem, hfor⟩ := find?_some hf
      exact ⟨.inl ⟨rfl, hmem⟩, hfor.1⟩
    · obtain ⟨_, hi, h⟩ := bind_ok.mp h
      cases h
      exact ⟨.inr (insertRowOr_ok hi).2, rfl⟩
  have hnone : db.keys.find? (CandidateOf c.projectId) = none :=
    Option.isNone_iff_eq_none.mp (ensure_ok.mp hfree)
  exact .prepared ring (newSigningKey env c ring) rings keys operations materials hready
    (insertRowOr_ok hkeys).2 rfl (hp.symm.trans hrp.symm) rfl
    (fun k hk => find?_none hnone hk)

theorem prepareSigningKey_step {c r}
    (h : prepareSigningKey env c db = .ok r) : SigningStep env db r.db := by
  obtain ⟨_, hm, h⟩ := bind_ok.mp h
  cases h
  obtain ⟨_, hp, hm⟩ := bind_ok.mp hm
  split at hm
  · obtain ⟨_, _, _, hm⟩ := later₃ hm
    cases hm
    exact .refl env db
  · exact reserveSigningKey_step hm (findProject_ok hp).2

theorem claimSigningProviderAction_step {c r} (h : claimSigningProviderAction env c db = .ok r) :
    SigningStep env db r.db := by
  obtain ⟨_, _, _, h⟩ := later₃ h
  split at h
  · obtain ⟨_, h⟩ := later h
    cases h
    have hstep : ∀ c, SigningStep env db (execute db (transitionSigningKey env c .revoked db)) :=
      fun _ => execute_of (.refl env db) fun r h => transitionSigningKey_step h (.inr rfl)
    unfold containPreparedKey
    dsimp only
    split <;> exact hstep _
  · obtain ⟨_, _, _, h⟩ := later₃ h
    cases h
    exact .operated _ _

theorem recordSigningProviderAbsence_step {c r}
    (h : recordSigningProviderAbsence env c db = .ok r) : SigningStep env db r.db := by
  obtain ⟨_, _, h⟩ := later₂ h
  obtain ⟨_, _, h⟩ := later₂ h
  cases h
  exact .operated _ _

theorem queueSigningProviderCleanup_step {c r}
    (h : queueSigningProviderCleanup env c db = .ok r) : SigningStep env db r.db := by
  obtain ⟨_, h⟩ := later h
  split at h
  · cases h; exact .refl env db
  · obtain ⟨_, _, h⟩ := later₂ h
    cases h
    exact .operated _ _

theorem recordProtectedSigningKeyMaterial_step {c r}
    (h : recordProtectedSigningKeyMaterial env c db = .ok r) :
    SigningStep env db r.db := by
  obtain ⟨_, _, _, h⟩ := later₃ h
  split at h
  · obtain ⟨_, h⟩ := later h
    cases h
    exact .refl env db
  · obtain ⟨_, _, _, _, key, hk, h⟩ := peel₃ h
    obtain ⟨_, hs, _, _, _, _, h⟩ := peel₃ h
    cases h
    obtain ⟨hprov, _⟩ := ensure_ok.mp hs
    -- only a key that is still provisioned receives its public part
    have hsame : SameKey key (recordedKey c key) :=
      ⟨rfl, rfl, rfl, rfl, rfl, fun hne => absurd hprov hne⟩
    exact .described key _ _ _ (find_ok hk).1 hsame rfl

theorem publishStoredKey_step {c} (h : publishStoredKey c operation db = .ok r) :
    SigningStep env db r.db := by
  obtain ⟨ring, hr, key, hk, _, hs, h⟩ := peel₃ h
  split at h
  · cases h; exact .operated _ _
  · obtain ⟨_, h⟩ := later h
    cases h
    obtain ⟨_, hprov, _⟩ := ensure_ok.mp hs
    have hmove : KeyMove env key (publishedKey c.publishedAt key (ring.revision + 1)) :=
      ⟨⟨rfl, rfl, rfl, rfl, rfl, fun _ => rfl⟩, by rw [hprov]; rfl, by rintro ⟨⟩, by rintro ⟨⟩,
        by rintro ⟨⟩⟩
    exact .moved ring key _ ring.signingEpoch _ _ (keyInRing_of_found (findRing_ok hr) hk) hmove
      (Int.le_refl _) (fun hne => absurd hprov hne)

theorem publishSigningKey_step {c} (h : publishSigningKey c db = .ok r) :
    SigningStep env db r.db := by
  obtain ⟨_, _, h⟩ := later₂ h
  split at h
  · cases h; exact .refl env db
  · split at h
    · split at h
      · cases h; exact .operated _ _
      · cases h
    · exact publishStoredKey_step h

variable {r : Committed Unit} {c : CompleteSigningProviderCleanup}

theorem abandonCleanedKey_step (h : abandonCleanedKey c ring key operation db = .ok r)
    (hkey : KeyInRing db ring key) : SigningStep env db r.db := by
  obtain ⟨_, hs, materials, _, h⟩ := peel₂ h
  have hsame : ∀ revision,
      SameKey key (abandonedKey key operation.materialId revision) :=
    fun _ => ⟨rfl, rfl, rfl, rfl, rfl, fun _ => rfl⟩
  split at h
  · rename_i hprov
    cases h
    have hmove : KeyMove env key
        (abandonedKey key operation.materialId (ring.revision + 1)) :=
      ⟨hsame _, by rw [hprov]; rfl, nofun, nofun, nofun⟩
    exact .moved ring key _ (ring.signingEpoch + 1) _ _ hkey hmove (Int.le_of_lt (Int.lt_succ _))
      (fun _ => Int.lt_succ _)
  · rename_i hprov
    cases h
    have hgone : key.state = .abandoned := (ensure_ok.mp hs).resolve_left hprov
    exact .described key _ _ _ hkey.keyMem (hsame _) hgone.symm

theorem completeSigningProviderCleanup_step (h : completeSigningProviderCleanup env c db = .ok r) :
    SigningStep env db r.db := by
  obtain ⟨_, _, _, hr, _, hk, h⟩ := peel₃ h
  obtain ⟨_, _, _, h⟩ := later₃ h
  split at h
  · cases h; exact .operated _ _
  · split at h
    · obtain ⟨_, h⟩ := later h
      cases h
      exact .operated _ _
    · exact abandonCleanedKey_step h (keyInRing_of_found (findRing_ok hr) hk)

end OwlAuth
