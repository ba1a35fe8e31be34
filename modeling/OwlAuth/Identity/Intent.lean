import Mathlib.Tactic.MkIffOfInductiveProp
import OwlAuth.Base.Run
import OwlAuth.Identity.Authority

/-!
# Identity-mutation intents

An intent to link, unlink or merge identities holds one or two slots, each of which has to be
proved by its owner before the change is made.

* `create`  the intent of a plan, with one pending slot for each role of its kind;
* `bindBrowser`  ties the intent to one browser;
* `startProvider` … `replaceEmailChallenge`  move one slot (`transitionSlot`);
* `attachReceipt`  proves one slot;
* `confirmReady`, `complete` close the intent once every slot is proved;
* `cancel`, `expire`, `terminalize`  end it without the change;
* `Op`, `step`, `run`  any sequence of operations, each of which may answer an error.

A method that answers an error leaves the intent as it was, with one exception: `bindBrowser`
writes the binding before it advances the revision.
-/

namespace OwlAuth

open Fallible (ensure require foldOk bind_ok ensure_ok require_ok)

/-! ## kinds, statuses, roles -/

inductive IdentityMutationKind
  | link | unlink | merge
  deriving DecidableEq

inductive IdentityMutationStatus
  | pendingProof | ready | completed | expired | cancelled
  deriving DecidableEq

def IdentityMutationStatus.isTerminal : IdentityMutationStatus → Bool
  | completed | expired | cancelled => true
  | pendingProof | ready => false

inductive IdentityMutationSlotRole
  | destinationOwner | candidateIdentity | identityOwner | winnerOwner | loserOwner
  deriving DecidableEq

def IdentityMutationSlotRole.purpose : IdentityMutationSlotRole → String
  | destinationOwner => "link.destination_owner"
  | candidateIdentity => "link.candidate_identity"
  | identityOwner => "unlink.identity_owner"
  | winnerOwner => "merge.winner_owner"
  | loserOwner => "merge.loser_owner"

inductive IdentityMutationSlotState
  | pending
  | providerAuthorizationStarted
  | providerExchangeInProgress
  | providerExchangeFailed
  | emailAddressEntry
  | emailChallengePending
  | proved
  | expired
  deriving DecidableEq

inductive IdentityProofReceiptStatus
  | issued | consumed | expired
  deriving DecidableEq

inductive IdentityMutationEffect
  | applied | expired
  deriving DecidableEq

/-! ## what a slot is about -/

structure ExistingIdentitySnapshot where
  (projectId userId identityId : Uuid)
  identityKind : IdentityKind
  (expectedUserRevision expectedUserSecurityRevision expectedIdentityRevision : Int)
  deriving DecidableEq

structure CandidateTarget where
  (projectId destinationUserId : Uuid)
  (expectedUserRevision expectedUserSecurityRevision : Int)
  identityKind : IdentityKind
  deriving DecidableEq

inductive IdentityMutationSlotTarget
  | existing (identity : ExistingIdentitySnapshot)
  | candidate (c : CandidateTarget)
  deriving DecidableEq

namespace IdentityMutationSlotTarget

def projectId : IdentityMutationSlotTarget → Uuid
  | existing identity => identity.projectId
  | candidate c => c.projectId

def userId : IdentityMutationSlotTarget → Uuid
  | existing identity => identity.userId
  | candidate c => c.destinationUserId

def expectedUserRevision : IdentityMutationSlotTarget → Int
  | existing identity => identity.expectedUserRevision
  | candidate c => c.expectedUserRevision

def expectedUserSecurityRevision : IdentityMutationSlotTarget → Int
  | existing identity => identity.expectedUserSecurityRevision
  | candidate c => c.expectedUserSecurityRevision

def identityKind : IdentityMutationSlotTarget → IdentityKind
  | existing identity => identity.identityKind
  | candidate c => c.identityKind

end IdentityMutationSlotTarget

inductive IdentityMutationPlan
  | link (destinationIdentity : ExistingIdentitySnapshot) (candidateKind : IdentityKind)
      (destinationAuthority candidateAuthority : ProofMethodAuthority)
  | unlink (identity : ExistingIdentitySnapshot) (authority : ProofMethodAuthority)
  | merge (winnerIdentity loserIdentity : ExistingIdentitySnapshot)
      (winnerAuthority loserAuthority : ProofMethodAuthority)

/-! ## bindings, receipts, slots, intents -/

structure InteractionBrowserBinding where
  digest : Digest
  (digestKeyVersion revision : Int)
  deriving DecidableEq

def initialBrowserBindingRevision : Int := 1

def InteractionBrowserBinding.validate (b : InteractionBrowserBinding) : Checked Unit :=
  ensure (0 < b.digestKeyVersion ∧ b.revision = initialBrowserBindingRevision) .invalidValue

inductive IdentityProofEvidence
  | existingIdentity (identityId : Uuid) (identityRevision : Int)
  | candidateEvidence (evidenceId : Uuid) (evidenceRevision : Int)
  deriving DecidableEq

structure IdentityProofReceiptSnapshot where
  (id projectId intentId slotId : Uuid)
  role : IdentityMutationSlotRole
  purpose : String
  browserBinding : InteractionBrowserBinding
  proofUserId : Uuid
  (proofUserRevision proofUserSecurityRevision capturedIntentRevision : Int)
  evidence : IdentityProofEvidence
  (issuedAt expiresAt : Instant)
  deriving DecidableEq

structure RestoredIdentityProofReceipt where
  snapshot : IdentityProofReceiptSnapshot
  status : IdentityProofReceiptStatus
  deriving DecidableEq

structure IdentityMutationProofSlot where
  id : Uuid
  role : IdentityMutationSlotRole
  ordinal : Nat
  target : IdentityMutationSlotTarget
  authority : ProofMethodAuthority
  state : IdentityMutationSlotState
  slotRevision : Int
  receipt : Option RestoredIdentityProofReceipt
  deriving DecidableEq

def IdentityMutationProofSlot.holds (s : IdentityMutationProofSlot)
    (status : IdentityProofReceiptStatus) : Bool :=
  match s.receipt with
  | some receipt => receipt.status == status
  | none => false

structure IdentityMutationIntent where
  (id projectId : Uuid)
  kind : IdentityMutationKind
  status : IdentityMutationStatus
  intentRevision : Int
  browserBinding : Option InteractionBrowserBinding
  slots : List IdentityMutationProofSlot
  (createdAt expiresAt : Instant)
  deriving DecidableEq

def maxIntentLifetime : Int := minutes 10
def maxReceiptLifetime : Int := minutes 5

def validateLifetime (createdAt expiresAt : Instant) : Checked Unit :=
  ensure (createdAt < expiresAt ∧ expiresAt ≤ createdAt + maxIntentLifetime) .invalidValue

/-! ## the slot set of a kind -/

variable (projectId : Uuid)

def validateExisting (identity : ExistingIdentitySnapshot) : Checked Unit := do
  ensure (identity.projectId = projectId ∧ 0 < identity.expectedUserRevision
    ∧ 0 < identity.expectedUserSecurityRevision ∧ 0 < identity.expectedIdentityRevision)
    .invalidValue
  rejectNil identity.userId
  rejectNil identity.identityId

def validateTarget : IdentityMutationSlotTarget → Checked Unit
  | .existing identity => validateExisting projectId identity
  | .candidate c => do
    ensure (c.projectId = projectId ∧ 0 < c.expectedUserRevision
      ∧ 0 < c.expectedUserSecurityRevision) .invalidValue
    rejectNil c.destinationUserId

def IdentityMutationKind.roles : IdentityMutationKind → List IdentityMutationSlotRole
  | link => [.destinationOwner, .candidateIdentity]
  | unlink => [.identityOwner]
  | merge => [.winnerOwner, .loserOwner]

def validTargets : IdentityMutationKind → List IdentityMutationSlotTarget → Bool
  | .link, [.existing destination, .candidate c] =>
    destination.userId == c.destinationUserId
      && destination.expectedUserRevision == c.expectedUserRevision
      && destination.expectedUserSecurityRevision == c.expectedUserSecurityRevision
  | .unlink, [.existing _] => true
  | .merge, [.existing winner, .existing loser] =>
    winner.userId != loser.userId && winner.identityId != loser.identityId
  | _, _ => false

structure SlotShape where
  role : IdentityMutationSlotRole
  ordinal : Nat
  target : IdentityMutationSlotTarget

def IdentityMutationProofSlot.shape (s : IdentityMutationProofSlot) : SlotShape :=
  ⟨s.role, s.ordinal, s.target⟩

def validateSlotShapes (kind : IdentityMutationKind) (shapes : List SlotShape) : Checked Unit := do
  foldOk (fun _ shape => validateTarget projectId shape.target) () shapes
  ensure (shapes.map (·.role) = kind.roles ∧ shapes.map (·.ordinal) = List.range' 1 shapes.length
    ∧ ∀ shape ∈ shapes, shape.target.projectId = projectId) .invalidValue
  ensure (validTargets kind (shapes.map (·.target)) = true) .invalidValue

def validateSlotSet (kind : IdentityMutationKind)
    (slots : List IdentityMutationProofSlot) : Checked Unit :=
  validateSlotShapes projectId kind (slots.map (·.shape))

/-! ## creation -/

abbrev SlotDefinition :=
  IdentityMutationSlotRole × IdentityMutationSlotTarget × ProofMethodAuthority

def IdentityMutationPlan.definitions :
    IdentityMutationPlan → Checked (IdentityMutationKind × List SlotDefinition)
  | .link destination candidateKind destinationAuthority candidateAuthority => do
    validateExisting projectId destination
    pure (.link,
      [(.destinationOwner, .existing destination, destinationAuthority),
        (.candidateIdentity,
          .candidate
            { projectId := projectId
              destinationUserId := destination.userId
              expectedUserRevision := destination.expectedUserRevision
              expectedUserSecurityRevision := destination.expectedUserSecurityRevision
              identityKind := candidateKind },
          candidateAuthority)])
  | .unlink identity authority => do
    validateExisting projectId identity
    pure (.unlink, [(.identityOwner, .existing identity, authority)])
  | .merge winner loser winnerAuthority loserAuthority => do
    validateExisting projectId winner
    validateExisting projectId loser
    ensure (winner.userId ≠ loser.userId ∧ winner.identityId ≠ loser.identityId) .invalidValue
    pure (.merge,
      [(.winnerOwner, .existing winner, winnerAuthority),
        (.loserOwner, .existing loser, loserAuthority)])

/-- the slots of the definitions from index `n` on; `newId` draws the random slot ids -/
def buildSlots (urls : UrlLibrary) (newId : Nat → Uuid) (projectId : Uuid) :
    Nat → List SlotDefinition → Checked (List IdentityMutationProofSlot)
  | _, [] => .ok []
  | n, (role, target, authority) :: rest => do
    authority.validate urls projectId target.identityKind
    let slots ← buildSlots urls newId projectId (n + 1) rest
    pure
      ({ id := newId n
         role := role
         ordinal := n + 1
         target := target
         authority := authority
         state := .pending
         slotRevision := 1
         receipt := none } :: slots)

def deriveSlots (urls : UrlLibrary) (newId : Nat → Uuid) (projectId : Uuid)
    (plan : IdentityMutationPlan) :
    Checked (IdentityMutationKind × List IdentityMutationProofSlot) := do
  let definitions ← plan.definitions projectId
  let slots ← buildSlots urls newId projectId 0 definitions.2
  validateSlotSet projectId definitions.1 slots
  pure (definitions.1, slots)

namespace IdentityMutationIntent

def nextRevision (revision : Int) : Checked Int := do
  ensure (revision < maxI64) .invalidTransition
  pure (revision + 1)

theorem nextRevision_ok {revision next} (h : nextRevision revision = .ok next) :
    next = revision + 1 ∧ revision < maxI64 := by
  obtain ⟨_, hlt, h⟩ := bind_ok.mp h
  cases h
  exact ⟨rfl, ensure_ok.mp hlt⟩

theorem nextRevision_error {revision e}
    (h : nextRevision revision = .error e) : maxI64 ≤ revision := by
  by_contra hlt
  have hok : nextRevision revision = .ok (revision + 1) :=
    bind_ok.mpr ⟨(), ensure_ok.mpr (Int.not_le.mp hlt), rfl⟩
  rw [h] at hok
  cases hok

def create (urls : UrlLibrary) (newId : Nat → Uuid) (id projectId : Uuid)
    (plan : IdentityMutationPlan) (createdAt expiresAt : Instant) :
    Checked IdentityMutationIntent := do
  rejectNil id
  rejectNil projectId
  validateLifetime createdAt expiresAt
  let derived ← deriveSlots urls newId projectId plan
  pure
    { id := id
      projectId := projectId
      kind := derived.1
      status := .pendingProof
      intentRevision := 1
      browserBinding := none
      slots := derived.2
      createdAt := createdAt
      expiresAt := expiresAt }

/-! ## reading slots, ending an intent -/

variable (i : IdentityMutationIntent)

variable (role : IdentityMutationSlotRole)

def slot : Checked IdentityMutationProofSlot :=
  match i.slots.filter (fun s => decide (s.role = role)) with
  | [s] => .ok s
  | _ => .error .invalidTransition

def updateSlot
    (f : IdentityMutationProofSlot → IdentityMutationProofSlot) : List IdentityMutationProofSlot :=
  i.slots.map (fun s => if s.role = role then f s else s)

def effectiveConfirmationDeadline : Instant :=
  (i.slots.filterMap (fun s => s.receipt.map (·.snapshot.expiresAt))).foldl min i.expiresAt

def nextSlotRevisions : List IdentityMutationProofSlot → Checked (List Int)
  | [] => .ok []
  | s :: slots => do
    let next ← nextRevision s.slotRevision
    let rest ← nextSlotRevisions slots
    pure (next :: rest)

def expireReceipt (r : RestoredIdentityProofReceipt) : RestoredIdentityProofReceipt :=
  if r.status = .issued then { r with status := .expired } else r

def terminatedSlot (s : IdentityMutationProofSlot) (slotRevision : Int) :
    IdentityMutationProofSlot :=
  { s with state := .expired, receipt := s.receipt.map expireReceipt, slotRevision := slotRevision }

def terminalize (status : IdentityMutationStatus) : Checked IdentityMutationIntent := do
  ensure ((status = .expired ∨ status = .cancelled) ∧ i.status.isTerminal = false)
    .invalidTransition
  let intentRevision ← nextRevision i.intentRevision
  let slotRevisions ← nextSlotRevisions i.slots
  pure
    { i with
      status := status
      intentRevision := intentRevision
      slots := List.zipWith terminatedSlot i.slots slotRevisions }

variable (expectedRevision : Int)

variable (now : Instant)

/-- nothing if the intent still waits for proof, the expired intent if its deadline has passed -/
def ensurePending : Checked (Option IdentityMutationIntent) := do
  ensure (i.status = .pendingProof ∧ i.intentRevision = expectedRevision) .invalidTransition
  if i.effectiveConfirmationDeadline ≤ now then
    let expired ← i.terminalize .expired
    pure (some expired)
  else
    pure none

/-! ## the browser -/

def admitsBinding (binding : InteractionBrowserBinding)
    (now : Instant) : Checked (Option IdentityMutationIntent) := do
  binding.validate
  match ← i.ensurePending expectedRevision now with
  | some expired => pure (some expired)
  | none =>
    ensure (i.browserBinding = none
      ∧ ∀ s ∈ i.slots, s.state = .pending ∧ s.receipt = none) .invalidTransition
    pure none

def bindBrowser (binding : InteractionBrowserBinding)
    (now : Instant) : IdentityMutationIntent × Checked IdentityMutationEffect :=
  match i.admitsBinding expectedRevision binding now with
  | .error e => (i, .error e)
  | .ok (some expired) => (expired, .ok .expired)
  | .ok none =>
    -- the binding is written first, so it stays if the revision cannot advance
    let bound := { i with browserBinding := some binding }
    match nextRevision i.intentRevision with
    | .error e => (bound, .error e)
    | .ok next => ({ bound with intentRevision := next }, .ok .applied)

/-! ## moving a slot -/

def transitionSlot (expectedRevision : Int) (now : Instant)
    (transition : ProofMethodAuthority → IdentityMutationSlotState → Checked IdentityMutationSlotState) :
    Checked (IdentityMutationIntent × IdentityMutationEffect) := do
  match ← i.ensurePending expectedRevision now with
  | some expired => pure (expired, .expired)
  | none =>
    ensure (i.browserBinding ≠ none) .invalidTransition
    let nextIntentRevision ← nextRevision i.intentRevision
    let slot ← i.slot role
    let nextState ← transition slot.authority slot.state
    let nextSlotRevision ← nextRevision slot.slotRevision
    pure ({ i with
      slots := i.updateSlot role (fun s =>
        { s with state := nextState, slotRevision := nextSlotRevision })
      intentRevision := nextIntentRevision }, .applied)

/-- a move of a slot of the given method, from one of `sources` to `target` -/
def slotMove (kind : IdentityKind) (sources : List IdentityMutationSlotState)
    (target : IdentityMutationSlotState) (authority : ProofMethodAuthority)
    (state : IdentityMutationSlotState) : Checked IdentityMutationSlotState := do
  ensure (authority.identityKind = kind ∧ state ∈ sources) .invalidTransition
  pure target

section
variable (role : IdentityMutationSlotRole) (expectedRevision : Int) (now : Instant)

def startProvider :=
  i.transitionSlot role expectedRevision now
    (slotMove .provider [.pending] .providerAuthorizationStarted)

def claimProviderCallback :=
  i.transitionSlot role expectedRevision now
    (slotMove .provider [.providerAuthorizationStarted] .providerExchangeInProgress)

def failProviderExchange :=
  i.transitionSlot role expectedRevision now
    (slotMove .provider [.providerAuthorizationStarted, .providerExchangeInProgress]
      .providerExchangeFailed)

def beginEmail :=
  i.transitionSlot role expectedRevision now (slotMove .email [.pending] .emailAddressEntry)

def markEmailChallengePending :=
  i.transitionSlot role expectedRevision now
    (slotMove .email [.emailAddressEntry] .emailChallengePending)

def replaceEmailChallenge :=
  i.transitionSlot role expectedRevision now
    (slotMove .email [.emailChallengePending] .emailChallengePending)

end

/-! ## proving a slot -/

def evidenceFits : IdentityMutationSlotTarget → IdentityProofEvidence → Bool
  | .existing identity, .existingIdentity identityId identityRevision =>
    identityId == identity.identityId && identityRevision == identity.expectedIdentityRevision
  | .candidate _, .candidateEvidence evidenceId evidenceRevision =>
    evidenceId != 0 && decide (0 < evidenceRevision)
  | _, _ => false

/-- the receipt is one for this slot of this intent -/
@[mk_iff]
structure ReceiptFits (s : IdentityMutationProofSlot)
    (receipt : IdentityProofReceiptSnapshot) : Prop where
  project : receipt.projectId = i.projectId
  intent : receipt.intentId = i.id
  slot : receipt.slotId = s.id
  role : receipt.role = s.role
  binding : some receipt.browserBinding = i.browserBinding
  purpose : receipt.purpose = s.role.purpose
  captured : 0 < receipt.capturedIntentRevision
  issued : i.createdAt ≤ receipt.issuedAt
  lives : receipt.issuedAt < receipt.expiresAt
  lifetime : receipt.expiresAt ≤ receipt.issuedAt + maxReceiptLifetime
  within : receipt.expiresAt ≤ i.expiresAt
  user : receipt.proofUserId = s.target.userId
  userRevision : receipt.proofUserRevision = s.target.expectedUserRevision
  userSecurityRevision :
    receipt.proofUserSecurityRevision = s.target.expectedUserSecurityRevision

instance (i : IdentityMutationIntent) (s : IdentityMutationProofSlot)
    (receipt : IdentityProofReceiptSnapshot) : Decidable (ReceiptFits i s receipt) :=
  decidable_of_iff' _ (receiptFits_iff i s receipt)

def validateReceiptForSlot (receipt : IdentityProofReceiptSnapshot)
    (s : IdentityMutationProofSlot) : Checked Unit := do
  rejectNil receipt.id
  receipt.browserBinding.validate
  ensure (ReceiptFits i s receipt) .invalidValue
  ensure (evidenceFits s.target receipt.evidence = true) .invalidValue

def awaitsReceipt : IdentityMutationSlotState → Bool
  | .providerExchangeInProgress | .emailChallengePending => true
  | _ => false

def provedSlot (receipt : IdentityProofReceiptSnapshot) (slotRevision : Int)
    (s : IdentityMutationProofSlot) : IdentityMutationProofSlot :=
  { s with state := .proved, receipt := some ⟨receipt, .issued⟩, slotRevision := slotRevision }

def attachReceipt (receipt : IdentityProofReceiptSnapshot) :
    Checked (IdentityMutationIntent × IdentityMutationEffect) := do
  ensure (i.status = .pendingProof ∧ i.intentRevision = expectedRevision
    ∧ i.browserBinding ≠ none) .invalidTransition
  let slot ← i.slot receipt.role
  i.validateReceiptForSlot receipt slot
  ensure (receipt.capturedIntentRevision = expectedRevision ∧ receipt.issuedAt ≤ now
    ∧ now < receipt.expiresAt) .invalidValue
  ensure (awaitsReceipt slot.state = true ∧ slot.receipt = none) .invalidTransition
  match ← i.ensurePending expectedRevision now with
  | some expired => pure (expired, .expired)
  | none =>
    let nextIntentRevision ← nextRevision i.intentRevision
    let nextSlotRevision ← nextRevision slot.slotRevision
    pure ({ i with
      slots := i.updateSlot receipt.role (provedSlot receipt nextSlotRevision)
      intentRevision := nextIntentRevision }, .applied)

/-! ## closing the intent -/

def confirmReady : Checked (IdentityMutationIntent × IdentityMutationEffect) := do
  match ← i.ensurePending expectedRevision now with
  | some expired => pure (expired, .expired)
  | none =>
    ensure (∀ s ∈ i.slots, s.state = .proved ∧ s.holds .issued = true) .invalidTransition
    let nextIntentRevision ← nextRevision i.intentRevision
    pure ({ i with intentRevision := nextIntentRevision, status := .ready }, .applied)

def consumedSlot (s : IdentityMutationProofSlot) (slotRevision : Int) : IdentityMutationProofSlot :=
  { s with
    receipt := s.receipt.map (fun receipt => { receipt with status := .consumed })
    slotRevision := slotRevision }

def complete : Checked (IdentityMutationIntent × IdentityMutationEffect) := do
  ensure (i.status = .ready ∧ i.intentRevision = expectedRevision) .invalidTransition
  if i.effectiveConfirmationDeadline ≤ now then
    let expired ← i.terminalize .expired
    pure (expired, .expired)
  else
    ensure (∀ s ∈ i.slots, s.holds .issued = true) .invalidTransition
    let nextIntentRevision ← nextRevision i.intentRevision
    let slotRevisions ← nextSlotRevisions i.slots
    pure ({ i with
      slots := List.zipWith consumedSlot i.slots slotRevisions
      status := .completed
      intentRevision := nextIntentRevision }, .applied)

def cancel : Checked (IdentityMutationIntent × IdentityMutationEffect) := do
  ensure (i.status.isTerminal = false ∧ i.intentRevision = expectedRevision) .invalidTransition
  if i.effectiveConfirmationDeadline ≤ now then
    let expired ← i.terminalize .expired
    pure (expired, .expired)
  else
    let cancelled ← i.terminalize .cancelled
    pure (cancelled, .applied)

def expire : Checked (IdentityMutationIntent × Bool) :=
  if i.status.isTerminal = true ∨ now < i.effectiveConfirmationDeadline then
    pure (i, false)
  else do
    let expired ← i.terminalize .expired
    pure (expired, true)

/-! ## any sequence of operations -/

inductive Op
  | bindBrowser (expectedRevision : Int) (binding : InteractionBrowserBinding) (now : Instant)
  | startProvider (role : IdentityMutationSlotRole) (expectedRevision : Int) (now : Instant)
  | claimProviderCallback (role : IdentityMutationSlotRole) (expectedRevision : Int)
      (now : Instant)
  | failProviderExchange (role : IdentityMutationSlotRole) (expectedRevision : Int)
      (now : Instant)
  | beginEmail (role : IdentityMutationSlotRole) (expectedRevision : Int) (now : Instant)
  | markEmailChallengePending (role : IdentityMutationSlotRole) (expectedRevision : Int)
      (now : Instant)
  | replaceEmailChallenge (role : IdentityMutationSlotRole) (expectedRevision : Int)
      (now : Instant)
  | attachReceipt (expectedRevision : Int) (now : Instant)
      (receipt : IdentityProofReceiptSnapshot)
  | confirmReady (expectedRevision : Int) (now : Instant)
  | complete (expectedRevision : Int) (now : Instant)
  | cancel (expectedRevision : Int) (now : Instant)
  | expire (now : Instant)

/-- an answer: the effect, or nothing for an `expire` that found nothing to do -/
abbrev Answer := Checked (Option IdentityMutationEffect)

def settled (body : Checked (IdentityMutationIntent × IdentityMutationEffect)) :
    IdentityMutationIntent × Answer :=
  match body with
  | .ok (next, effect) => (next, .ok (some effect))
  | .error e => (i, .error e)

def swept (body : Checked (IdentityMutationIntent × Bool)) : IdentityMutationIntent × Answer :=
  match body with
  | .ok (next, done) => (next, .ok (if done then some .expired else none))
  | .error e => (i, .error e)

def answered : Op → IdentityMutationIntent × Answer
  | .bindBrowser expected binding now =>
    let (next, result) := i.bindBrowser expected binding now
    (next, result.map some)
  | .startProvider role expected now => i.settled (i.startProvider role expected now)
  | .claimProviderCallback role expected now =>
    i.settled (i.claimProviderCallback role expected now)
  | .failProviderExchange role expected now => i.settled (i.failProviderExchange role expected now)
  | .beginEmail role expected now => i.settled (i.beginEmail role expected now)
  | .markEmailChallengePending role expected now =>
    i.settled (i.markEmailChallengePending role expected now)
  | .replaceEmailChallenge role expected now =>
    i.settled (i.replaceEmailChallenge role expected now)
  | .attachReceipt expected now receipt => i.settled (i.attachReceipt expected now receipt)
  | .confirmReady expected now => i.settled (i.confirmReady expected now)
  | .complete expected now => i.settled (i.complete expected now)
  | .cancel expected now => i.settled (i.cancel expected now)
  | .expire now => i.swept (i.expire now)

def step (op : Op) (i : IdentityMutationIntent) : IdentityMutationIntent := (i.answered op).1

def answer (op : Op) (i : IdentityMutationIntent) : Answer := (i.answered op).2

def applied (op : Op) (i : IdentityMutationIntent) : Bool :=
  match answer op i with
  | .ok (some .applied) => true
  | _ => false

def run (ops : List Op) : IdentityMutationIntent :=
  Machine.run step i ops

/-! ## a concrete intent: a link proved by two email challenges -/

namespace Demo

def urls : UrlLibrary where
  Url := Empty
  parse _ := none
  scheme u := nomatch u
  hostStr u := nomatch u
  username u := nomatch u
  password u := nomatch u
  query u := nomatch u
  fragment u := nomatch u
  cannotBeABase u := nomatch u
  toString u := nomatch u
  pushSegments u := nomatch u

def authority : ProofMethodAuthority := .email ⟨1, 2, 1, 1, 1, 1⟩

def owner : ExistingIdentitySnapshot := ⟨1, 3, 4, .email, 1, 1, 1⟩

def newId (n : Nat) : Uuid := n + 20

def intent : IdentityMutationIntent where
  id := 10
  projectId := 1
  kind := .link
  status := .pendingProof
  intentRevision := 1
  browserBinding := none
  slots :=
    [⟨20, .destinationOwner, 1, .existing owner, authority, .pending, 1, none⟩,
      ⟨21, .candidateIdentity, 2, .candidate ⟨1, 3, 1, 1, .email⟩, authority, .pending, 1, none⟩]
  createdAt := 0
  expiresAt := minutes 10

def browser : InteractionBrowserBinding := ⟨77, 1, 1⟩

def receipt (id slotId : Uuid) (role : IdentityMutationSlotRole) (captured : Int)
    (evidence : IdentityProofEvidence) : IdentityProofReceiptSnapshot :=
  ⟨id, 1, 10, slotId, role, role.purpose, browser, 3, 1, 1, captured, evidence, 5, minutes 4⟩

def ops : List Op :=
  [.bindBrowser 1 browser 1,
    .beginEmail .destinationOwner 2 2,
    .markEmailChallengePending .destinationOwner 3 3,
    .beginEmail .candidateIdentity 4 4,
    .markEmailChallengePending .candidateIdentity 5 5,
    .attachReceipt 6 6 (receipt 30 20 .destinationOwner 6 (.existingIdentity 4 1)),
    .attachReceipt 7 7 (receipt 31 21 .candidateIdentity 7 (.candidateEvidence 5 1)),
    .confirmReady 8 8,
    .complete 9 9]

end Demo

end IdentityMutationIntent

end OwlAuth
