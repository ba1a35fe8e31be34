import OwlAuth.System.EmailProofs

/-!
# Proofs of an email identity that exists already

An email proof of an identity that exists is taken as evidence only if the aliases stored for the
identity are the ones that the deployment derives now from the proven address.

* `deriveMutationEmailAliases`  one alias for each key version that can be read;
* `revalidateExistingEmail`  the evidence against the rows of the identity;
* `existing_email_accepted_iff`  the owner's right proof is taken exactly if an alias is stored for
    every version that can be read.
-/

namespace OwlAuth

open Fallible

/-- the keys of email lookups, by their versions -/
structure EmailIdentityRing where
  readable : List Int
  active : Int
  digest : Uuid → String → Int → Digest

namespace EmailIdentityRing

def lookup (ring : EmailIdentityRing) (projectId : Uuid) (address : String) (version : Int) :
    VersionedDigest :=
  ⟨ring.digest projectId address version, version⟩

def digestAt (ring : EmailIdentityRing) (projectId : Uuid) (address : String) (version : Int) :
    Tx VersionedDigest := do
  ensure (version ∈ ring.readable) .integrity
  pure (ring.lookup projectId address version)

end EmailIdentityRing

def verifyMutationEmailChallengeLookup (ring : EmailIdentityRing) (projectId : Uuid)
    (address : String) (expected : VersionedDigest) : Tx VersionedDigest := do
  let derived ← ring.digestAt projectId address expected.keyVersion
  ensure (derived = expected) .integrity
  pure derived

def deriveMutationEmailAliases (ring : EmailIdentityRing) (projectId : Uuid) (address : String) :
    Tx (List VersionedDigest × VersionedDigest) := do
  ensure (ring.readable ≠ [] ∧ ring.readable.length ≤ 16 ∧ 0 < ring.active
    ∧ ring.active ∈ ring.readable) .integrity
  let aliases ← ring.readable.mapM (ring.digestAt projectId address)
  let active ← require (aliases.find? fun a => a.keyVersion = ring.active) .integrity
  pure (aliases, active)

/-- `prepare_email_proof_material` for a slot whose identity exists -/
def prepareEmailProofMaterial (slot : MutationSlot) (aliases : List VersionedDigest)
    (active : VersionedDigest) (authority : Int) (verified : VersionedDigest) :
    Tx ExistingEmailEvidence :=
  match slot.existing with
  | some (.email identityId revision) => do
    ensure (0 < revision) .integrity
    pure ⟨identityId, revision, verified, aliases, active, authority⟩
  | _ => .error .integrity

/-- `complete_verified_email_proof` up to the rows that record the proof -/
def completeVerifiedEmailProof (ring : EmailIdentityRing) (projectId : Uuid) (address : String)
    (slot : MutationSlot) (challengeLookup : VersionedDigest) (db : Database) : Tx Unit := do
  let verified ← verifyMutationEmailChallengeLookup ring projectId address challengeLookup
  let (aliases, active) ← deriveMutationEmailAliases ring projectId address
  let material ← prepareEmailProofMaterial slot aliases active 1 verified
  revalidateExistingEmail projectId slot material challengeLookup db

variable (ring : EmailIdentityRing) (address : String) (slot : MutationSlot)
  (challengeLookup : VersionedDigest) (identity : EmailIdentity) (db : Database)

/-- the owner of an active identity proved its address, and the ring reads what is stored of it -/
structure OwnersProof : Prop where
  keys : ring.readable.length ≤ 16 ∧ 0 < ring.active ∧ ring.active ∈ ring.readable
  stored : identity ∈ db.emailIdentities
  active : identity.status = .active
  canonical : 0 < identity.canonicalizationVersion
  owner : identity.userId = slot.proofUserId
  target : slot.existing = some (.email identity.id identity.identityRevision)
  revision : 0 < identity.identityRevision
  aliases : ∀ a ∈ db.emailAliases, a.projectId = identity.projectId → a.identityId = identity.id →
    a.lookupDigest.keyVersion ∈ ring.readable
      ∧ a.lookupDigest = ring.lookup identity.projectId address a.lookupDigest.keyVersion
  challenge : challengeLookup.keyVersion ∈ ring.readable
    ∧ challengeLookup = ring.lookup identity.projectId address challengeLookup.keyVersion

def AliasesComplete : Prop :=
  ∀ v ∈ ring.readable, ∃ a ∈ db.emailAliases.rows, a.projectId = identity.projectId
    ∧ a.identityId = identity.id ∧ a.lookupDigest.keyVersion = v
  deriving Decidable

variable {ring address slot challengeLookup identity db}

theorem deriveMutationEmailAliases_eq {projectId} (hring : ring.readable.length ≤ 16
    ∧ 0 < ring.active ∧ ring.active ∈ ring.readable) :
    deriveMutationEmailAliases ring projectId address
      = .ok (ring.readable.map (ring.lookup projectId address),
          ring.lookup projectId address ring.active) := by
  have hderived : ring.readable.mapM (ring.digestAt projectId address)
      = .ok (ring.readable.map (ring.lookup projectId address)) :=
    mapM_of_ok fun v hv => by rw [EmailIdentityRing.digestAt, ensure_of _ hv]; rfl
  have hactive : (ring.readable.map (ring.lookup projectId address)).find?
      (fun a => decide (a.keyVersion = ring.active))
        = some (ring.lookup projectId address ring.active) := by
    cases h : (ring.readable.map (ring.lookup projectId address)).find?
        (fun a => decide (a.keyVersion = ring.active)) with
    | none =>
      have hno := List.find?_eq_none.mp h _ (List.mem_map_of_mem hring.2.2)
      exact absurd (decide_eq_true rfl) hno
    | some a =>
      obtain ⟨v, -, rfl⟩ := List.mem_map.mp (List.mem_of_find?_eq_some h)
      have hv := List.find?_some h
      rw [show v = ring.active from of_decide_eq_true hv]
  rw [deriveMutationEmailAliases, ensure_of _ ⟨List.ne_nil_of_mem hring.2.2, hring⟩, ok_bind,
    hderived, ok_bind, hactive]
  rfl

theorem verifyMutationEmailChallengeLookup_eq (h : OwnersProof ring address slot challengeLookup
    identity db) :
    verifyMutationEmailChallengeLookup ring identity.projectId address challengeLookup
      = .ok challengeLookup := by
  rw [verifyMutationEmailChallengeLookup, EmailIdentityRing.digestAt, ensure_of _ h.challenge.1]
  change (ensure (ring.lookup _ _ _ = challengeLookup) _ >>= fun _ => .ok (ring.lookup _ _ _)) = _
  rw [← h.challenge.2, ensure_of _ rfl]
  rfl

/-- what is stored of the identity is derived again; the other way round is what can fail -/
theorem stored_eq_derived_iff (h : OwnersProof ring address slot challengeLookup identity db) :
    (storedAliases identity.projectId identity.id db
        ⊆ ring.readable.map (ring.lookup identity.projectId address)
      ∧ ring.readable.map (ring.lookup identity.projectId address)
        ⊆ storedAliases identity.projectId identity.id db) ↔ AliasesComplete ring identity db := by
  constructor
  · rintro ⟨-, hall⟩ v hv
    obtain ⟨a, ha, heq⟩ := List.mem_map.mp (hall (List.mem_map_of_mem hv))
    obtain ⟨ha, hof⟩ := List.mem_filter.mp ha
    obtain ⟨hp, hi⟩ := of_decide_eq_true hof
    exact ⟨a, ha, hp, hi, congrArg VersionedDigest.keyVersion heq⟩
  · refine fun hall => ⟨fun d hd => ?_, fun d hd => ?_⟩
    · obtain ⟨a, ha, rfl⟩ := List.mem_map.mp hd
      obtain ⟨ha, hof⟩ := List.mem_filter.mp ha
      obtain ⟨hp, hi⟩ := of_decide_eq_true hof
      obtain ⟨hv, heq⟩ := h.aliases a ha hp hi
      exact List.mem_map.mpr ⟨_, hv, heq.symm⟩
    · obtain ⟨v, hv, rfl⟩ := List.mem_map.mp hd
      obtain ⟨a, ha, hp, hi, rfl⟩ := hall v hv
      rw [← (h.aliases a ha hp hi).2]
      exact List.mem_map_of_mem (List.mem_filter.mpr ⟨ha, decide_eq_true ⟨hp, hi⟩⟩)

theorem existing_email_accepted_iff (ring : EmailIdentityRing) (address : String)
    (slot : MutationSlot) (challengeLookup : VersionedDigest) (identity : EmailIdentity)
    (db : Database) (h : OwnersProof ring address slot challengeLookup identity db) :
    completeVerifiedEmailProof ring identity.projectId address slot challengeLookup db = .ok ()
      ↔ AliasesComplete ring identity db := by
  have hfind : db.emailIdentities.find? (fun i => i.projectId = identity.projectId
      ∧ i.id = identity.id) = some identity :=
    Table.find?_eq_some h.stored ⟨rfl, rfl⟩ fun _ _ hi => hi.2
  have hin : challengeLookup ∈ ring.readable.map (ring.lookup identity.projectId address) :=
    List.mem_map.mpr ⟨_, h.challenge.1, h.challenge.2.symm⟩
  have hactive := List.mem_map_of_mem (f := ring.lookup identity.projectId address) h.keys.2.2
  rw [completeVerifiedEmailProof, verifyMutationEmailChallengeLookup_eq h, ok_bind,
    deriveMutationEmailAliases_eq h.keys, ok_bind]
  simp only [prepareEmailProofMaterial, h.target, ensure_of _ h.revision, ok_bind]
  change revalidateExistingEmail _ _ _ _ _ = _ ↔ _
  simp only [revalidateExistingEmail, h.target, ensure_of, and_self, hactive, hin, hfind, require,
    ok_bind, h.active, h.owner, h.canonical, true_and]
  rw [ensure_ok, stored_eq_derived_iff h]

/-! ## an identity created by a sign-in, after a second key was added -/

namespace Demo

/-- the digest of the address at the first version is the one the sign-in stored -/
def twoKeys : EmailIdentityRing := ⟨[1, 2], 2, fun _ _ v => if v = 1 then 310 else 320⟩

def fledglingSlot : MutationSlot := ⟨41, 1, 40, .identityOwner, 33, 1, 1, some (.email 34 1), 2, 1,
  .email ⟨1, 1, 1⟩, .emailChallengePending, 2, none, none⟩

def fledglingEmail : EmailIdentity :=
  ⟨34, 1, 33, .active, 1, 1, ⟨List.replicate 41 0, 1⟩, some (seconds 20)⟩

theorem fledgling_proof : OwnersProof twoKeys "owl@example.test" fledglingSlot ⟨320, 2⟩
    fledglingEmail (run lodge codeLogin) where
  keys := by decide
  stored := List.mem_singleton_self fledglingEmail
  active := rfl
  canonical := by decide
  owner := rfl
  target := rfl
  revision := by decide
  aliases := by decide +kernel
  challenge := by decide

end Demo

open Demo

/-- the owner's proof under the second key is refused: the sign-in stored the first alias only -/
theorem rotated_proof_refused : OwnersProof twoKeys "owl@example.test" fledglingSlot
      ⟨320, 2⟩ fledglingEmail (run lodge codeLogin)
    ∧ completeVerifiedEmailProof twoKeys fledglingEmail.projectId "owl@example.test"
        fledglingSlot ⟨320, 2⟩ (run lodge codeLogin) = .error .revisionConflict :=
  ⟨fledgling_proof, by decide +kernel⟩

theorem rotated_aliases_incomplete :
    ¬ AliasesComplete twoKeys fledglingEmail (run lodge codeLogin) := by
  intro h
  have hok := (existing_email_accepted_iff twoKeys "owl@example.test" fledglingSlot
    ⟨320, 2⟩ fledglingEmail _ fledgling_proof).mpr h
  revert hok
  decide +kernel

end OwlAuth
