import OwlAuth.Base.Method
import OwlAuth.Identity.Restore

/-!
# Identity-mutation intents, write by write

The methods of an intent work on `&mut self`: a field written before a check that fails stays written.
Here every method is spelled out in the order of its reads, checks and writes, and shown to do what
`IdentityMutationIntent.answered` says, so that the order matters in one method only.

* `eachSlot`  the loops over slots and their next revisions, which write one slot at a time;
* `InPlace.perform` any operation;
* `perform_exec`  it answers and leaves what the model of whole intents says;
* `failed_operations_write_nothing`  a failure leaves the intent as it was, unless a browser is bound
    at the last revision.
-/

namespace OwlAuth

open Fallible (ensure require bind_ok peel₂ later ensure_ok require_ok)
open Method (exec check Settles exec_bind_ok exec_bind_error)

namespace IdentityMutationIntent

open IdentityMutationIntent.Demo

abbrev InPlace (α : Type) : Type := Method IdentityMutationIntent DomainError α

namespace InPlace

/-! ## slots in turn -/

/-- `for (slot, next_slot_revision) in self.slots.iter_mut().zip(next_slot_revisions)` -/
def eachSlot (f : IdentityMutationProofSlot → Int → Checked IdentityMutationProofSlot) :
    Nat → List Int → InPlace Unit
  | _, [] => pure ()
  | k, next :: rest => do
    let i ← get
    match i.slots[k]? with
    | none => pure ()
    | some s =>
      let written ← check (f s next)
      set { i with slots := i.slots.set k written }
      eachSlot f (k + 1) rest

theorem exec_eachSlot_cons {f k next rest} {i s written}
    (hs : i.slots[k]? = some s) (hf : f s next = .ok written) :
    exec (eachSlot f k (next :: rest)) i
      = exec (eachSlot f (k + 1) rest) { i with slots := i.slots.set k written } := by
  show exec (match i.slots[k]? with
    | none => pure ()
    | some s => do
      let written ← check (f s next)
      set { i with slots := i.slots.set k written }
      eachSlot f (k + 1) rest) i = _
  rw [hs]
  show exec (check (f s next) >>= fun written => _) i = _
  rw [hf]
  rfl

theorem exec_eachSlot {f g slots} (hf : ∀ s ∈ slots, ∀ next, f s next = .ok (g s next)) :
    ∀ {revisions done i},
      revisions.length = slots.length → i.slots = done ++ slots →
      exec (eachSlot f done.length revisions) i
        = (.ok (), { i with slots := done ++ List.zipWith g slots revisions }) := by
  induction slots with
  | nil =>
    intro revisions done i hlen hi
    cases List.length_eq_zero_iff.mp hlen
    show (Except.ok (), i) = _
    rw [List.zipWith_nil_left, ← hi]
  | cons s slots ih =>
    intro revisions done i hlen hi
    cases revisions with
    | nil => cases hlen
    | cons next rest =>
      have hs : i.slots[done.length]? = some s := by
        rw [hi, List.getElem?_append_right (Nat.le_refl _), Nat.sub_self]
        rfl
      have hset : i.slots.set done.length (g s next) = (done ++ [g s next]) ++ slots := by
        rw [hi, List.set_append_right _ _ (Nat.le_refl _), Nat.sub_self, List.append_assoc]
        rfl
      have hlength : done.length + 1 = (done ++ [g s next]).length := by
        rw [List.length_append]
        rfl
      rw [exec_eachSlot_cons hs (hf s List.mem_cons_self next), hlength,
        ih (fun s hs => hf s (List.mem_cons_of_mem _ hs)) (Nat.succ.inj hlen) hset,
        List.append_assoc]
      rfl

/-! ## ending an intent -/

variable (status : IdentityMutationStatus)

def terminalize : InPlace Unit := do
  let i ← get
  check (ensure ((status = .expired ∨ status = .cancelled) ∧ i.status.isTerminal = false)
    .invalidTransition)
  let nextIntentRevision ← check (nextRevision i.intentRevision)
  let slotRevisions ← check (nextSlotRevisions i.slots)
  eachSlot (fun s next => .ok (terminatedSlot s next)) 0 slotRevisions
  modify fun i => { i with status := status }
  modify fun i => { i with intentRevision := nextIntentRevision }

variable (expectedRevision : Int)

variable (now : Instant)

def ensurePending : InPlace (Option IdentityMutationEffect) := do
  let i ← get
  check (ensure (i.status = .pendingProof ∧ i.intentRevision = expectedRevision) .invalidTransition)
  if i.effectiveConfirmationDeadline ≤ now then
    terminalize .expired
    pure (some .expired)
  else
    pure none

/-! ## the operations -/

def bindBrowser (binding : InteractionBrowserBinding) (now : Instant) :
    InPlace IdentityMutationEffect := do
  check binding.validate
  match ← ensurePending expectedRevision now with
  | some outcome => pure outcome
  | none =>
    let i ← get
    check (ensure (i.browserBinding = none
      ∧ ∀ s ∈ i.slots, s.state = .pending ∧ s.receipt = none) .invalidTransition)
    modify fun i => { i with browserBinding := some binding }
    -- the one check that stands behind a write
    let nextIntentRevision ← check (nextRevision i.intentRevision)
    modify fun i => { i with intentRevision := nextIntentRevision }
    pure .applied

variable (role : IdentityMutationSlotRole)

def transitionSlot (expectedRevision : Int) (now : Instant)
    (transition : ProofMethodAuthority → IdentityMutationSlotState →
      Checked IdentityMutationSlotState) : InPlace IdentityMutationEffect := do
  match ← ensurePending expectedRevision now with
  | some outcome => pure outcome
  | none =>
    let i ← get
    check (ensure (i.browserBinding ≠ none) .invalidTransition)
    let nextIntentRevision ← check (nextRevision i.intentRevision)
    let slot ← check (i.slot role)
    let nextState ← check (transition slot.authority slot.state)
    let nextSlotRevision ← check (nextRevision slot.slotRevision)
    modify fun i => { i with slots := i.updateSlot role fun s => { s with state := nextState } }
    modify fun i =>
      { i with slots := i.updateSlot role fun s => { s with slotRevision := nextSlotRevision } }
    modify fun i => { i with intentRevision := nextIntentRevision }
    pure .applied

def attachReceipt (receipt : IdentityProofReceiptSnapshot) : InPlace IdentityMutationEffect := do
  let i ← get
  check (ensure (i.status = .pendingProof ∧ i.intentRevision = expectedRevision
    ∧ i.browserBinding ≠ none) .invalidTransition)
  let slot ← check (i.slot receipt.role)
  check (i.validateReceiptForSlot receipt slot)
  check (ensure (receipt.capturedIntentRevision = expectedRevision ∧ receipt.issuedAt ≤ now
    ∧ now < receipt.expiresAt) .invalidValue)
  check (ensure (awaitsReceipt slot.state = true ∧ slot.receipt = none) .invalidTransition)
  match ← ensurePending expectedRevision now with
  | some outcome => pure outcome
  | none =>
    let nextIntentRevision ← check (nextRevision i.intentRevision)
    let slot ← check (i.slot receipt.role)
    let nextSlotRevision ← check (nextRevision slot.slotRevision)
    modify fun i =>
      { i with slots := i.updateSlot receipt.role fun s => { s with state := .proved } }
    modify fun i => { i with
      slots := i.updateSlot receipt.role fun s => { s with receipt := some ⟨receipt, .issued⟩ } }
    modify fun i => { i with
      slots := i.updateSlot receipt.role fun s => { s with slotRevision := nextSlotRevision } }
    modify fun i => { i with intentRevision := nextIntentRevision }
    pure .applied

def confirmReady : InPlace IdentityMutationEffect := do
  match ← ensurePending expectedRevision now with
  | some outcome => pure outcome
  | none =>
    let i ← get
    check (ensure (∀ s ∈ i.slots, s.state = .proved ∧ s.holds .issued = true) .invalidTransition)
    let nextIntentRevision ← check (nextRevision i.intentRevision)
    modify fun i => { i with intentRevision := nextIntentRevision }
    modify fun i => { i with status := .ready }
    pure .applied

/-- one turn of the loop of `complete`, which fails on a slot without a receipt -/
def consumeSlot (s : IdentityMutationProofSlot) (slotRevision : Int) :
    Checked IdentityMutationProofSlot := do
  let receipt ← require s.receipt .invalidTransition
  pure { s with receipt := some { receipt with status := .consumed }, slotRevision := slotRevision }

def complete : InPlace IdentityMutationEffect := do
  let i ← get
  check (ensure (i.status = .ready ∧ i.intentRevision = expectedRevision) .invalidTransition)
  if i.effectiveConfirmationDeadline ≤ now then
    terminalize .expired
    pure .expired
  else
    check (ensure (∀ s ∈ i.slots, s.holds .issued = true) .invalidTransition)
    let nextIntentRevision ← check (nextRevision i.intentRevision)
    let slotRevisions ← check (nextSlotRevisions i.slots)
    eachSlot consumeSlot 0 slotRevisions
    modify fun i => { i with status := .completed }
    modify fun i => { i with intentRevision := nextIntentRevision }
    pure .applied

def cancel : InPlace IdentityMutationEffect := do
  let i ← get
  check (ensure (i.status.isTerminal = false ∧ i.intentRevision = expectedRevision)
    .invalidTransition)
  if i.effectiveConfirmationDeadline ≤ now then
    terminalize .expired
    pure .expired
  else
    terminalize .cancelled
    pure .applied

def expire : InPlace Bool := do
  let i ← get
  if i.status.isTerminal = true ∨ now < i.effectiveConfirmationDeadline then
    pure false
  else
    terminalize .expired
    pure true

def perform : Op → InPlace (Option IdentityMutationEffect)
  | .bindBrowser expected binding now => some <$> bindBrowser expected binding now
  | .startProvider role expected now => some <$> transitionSlot role expected now
      (slotMove .provider [.pending] .providerAuthorizationStarted)
  | .claimProviderCallback role expected now => some <$> transitionSlot role expected now
      (slotMove .provider [.providerAuthorizationStarted] .providerExchangeInProgress)
  | .failProviderExchange role expected now => some <$> transitionSlot role expected now
      (slotMove .provider [.providerAuthorizationStarted, .providerExchangeInProgress]
        .providerExchangeFailed)
  | .beginEmail role expected now => some <$> transitionSlot role expected now
      (slotMove .email [.pending] .emailAddressEntry)
  | .markEmailChallengePending role expected now => some <$> transitionSlot role expected now
      (slotMove .email [.emailAddressEntry] .emailChallengePending)
  | .replaceEmailChallenge role expected now => some <$> transitionSlot role expected now
      (slotMove .email [.emailChallengePending] .emailChallengePending)
  | .attachReceipt expected now receipt => some <$> attachReceipt expected now receipt
  | .confirmReady expected now => some <$> confirmReady expected now
  | .complete expected now => some <$> complete expected now
  | .cancel expected now => some <$> cancel expected now
  | .expire now => (fun done => if done then some .expired else none) <$> expire now

/-! ## the methods do what the model of whole intents says -/

variable {i : IdentityMutationIntent}

theorem nextSlotRevisions_length {slots revisions}
    (h : nextSlotRevisions slots = .ok revisions) : revisions.length = slots.length := by
  rw [nextSlotRevisions_ok h, List.length_map]

theorem terminalize_settles :
    Settles (terminalize status) i (i.terminalize status >>= fun j => pure (j, ())) := by
  unfold IdentityMutationIntent.terminalize
  simp only [bind_assoc, pure_bind]
  refine .read (.checked fun _ _ => .checked fun _ _ => .checked fun revisions hrevisions => ?_)
  have hloop := exec_eachSlot (f := fun s next => .ok (terminatedSlot s next)) (i := i)
    (fun _ _ _ => rfl) (nextSlotRevisions_length hrevisions) (List.nil_append i.slots).symm
  exact exec_bind_ok hloop

def pendingOutcome (i : IdentityMutationIntent) :
    Option IdentityMutationIntent → IdentityMutationIntent × Option IdentityMutationEffect
  | some expired => (expired, some .expired)
  | none => (i, none)

variable (expected : Int)

theorem ensurePending_settles (now) :
    Settles (ensurePending expected now) i
      (i.ensurePending expected now >>= fun o => pure (pendingOutcome i o)) := by
  unfold IdentityMutationIntent.ensurePending
  simp only [bind_assoc]
  refine .read (.checked fun _ _ => ?_)
  split
  · have hended := terminalize_settles (i := i) .expired
    cases hbody : i.terminalize .expired with
    | error e =>
      rw [hbody] at hended
      exact exec_bind_error hended
    | ok expired =>
      rw [hbody] at hended
      exact exec_bind_ok hended
  · rfl

theorem pending_settles {expected now m body} (h : Settles m i body) :
    Settles
      (do
        match ← ensurePending expected now with
        | some outcome => pure outcome
        | none => m) i
      (do
        match ← i.ensurePending expected now with
        | some expired => pure (expired, .expired)
        | none => body) := by
  have hpending := ensurePending_settles (i := i) expected now
  cases hbody : i.ensurePending expected now with
  | error e =>
    rw [hbody] at hpending
    exact exec_bind_error hpending
  | ok o =>
    rw [hbody] at hpending
    cases o with
    | some expired => exact exec_bind_ok hpending
    | none => exact (exec_bind_ok hpending).trans h

theorem updateSlot_updateSlot {f g} (hf : ∀ s, (f s).role = s.role) :
    updateSlot { i with slots := i.updateSlot role f } role g
      = i.updateSlot role fun s => g (f s) := by
  show (i.slots.map _).map _ = i.slots.map _
  rw [List.map_map]
  refine List.map_congr_left fun s _ => ?_
  show (if (if s.role = role then f s else s).role = role then g (if s.role = role then f s else s)
    else if s.role = role then f s else s) = if s.role = role then g (f s) else s
  by_cases h : s.role = role
  · rw [if_pos h, if_pos ((hf s).trans h), if_pos h]
  · rw [if_neg h, if_neg h, if_neg h]

theorem transitionSlot_settles (now)
    (transition : ProofMethodAuthority → IdentityMutationSlotState →
      Checked IdentityMutationSlotState) :
    Settles (transitionSlot role expected now transition) i
      (i.transitionSlot role expected now transition) := by
  refine pending_settles (.read (.checked fun _ _ => .checked fun revision _ => .checked fun s _ =>
    .checked fun state _ => .checked fun slotRevision _ => ?_))
  have hslots := updateSlot_updateSlot (i := i) role
    (f := fun s => { s with state := state }) (g := fun s => { s with slotRevision := slotRevision })
    fun _ => rfl
  show (Except.ok IdentityMutationEffect.applied, ({ i with
    slots := updateSlot { i with slots := _ } role _
    intentRevision := revision } : IdentityMutationIntent)) = _
  rw [hslots]
  rfl

theorem attachReceipt_settles (now) (receipt : IdentityProofReceiptSnapshot) :
    Settles (attachReceipt expected now receipt) i (i.attachReceipt expected now receipt) := by
  refine .read (.checked fun _ _ => .checked fun s hs => .checked fun _ _ => .checked fun _ _ =>
    .checked fun _ _ => pending_settles (.checked fun revision _ => ?_))
  -- the slot is looked up a second time, to be written
  rw [hs]
  refine (exec_bind_ok rfl).trans (Settles.checked fun slotRevision _ => ?_)
  have hfirst := updateSlot_updateSlot (i := i) receipt.role
    (f := fun s => { s with state := .proved })
    (g := fun s => { s with receipt := some ⟨receipt, .issued⟩ }) fun _ => rfl
  have hsecond := updateSlot_updateSlot (i := i) receipt.role
    (f := fun s => { s with state := .proved, receipt := some ⟨receipt, .issued⟩ })
    (g := fun s => { s with slotRevision := slotRevision }) fun _ => rfl
  show (Except.ok IdentityMutationEffect.applied, ({ i with
    slots := updateSlot { i with slots := updateSlot { i with slots := _ } receipt.role _ }
      receipt.role _
    intentRevision := revision } : IdentityMutationIntent)) = _
  rw [hfirst, hsecond]
  rfl

theorem ended_settles (effect : α) :
    Settles (do terminalize status; pure effect) i
      (i.terminalize status >>= fun j => pure (j, effect)) := by
  have hended := terminalize_settles (i := i) status
  cases hbody : i.terminalize status with
  | error e =>
    rw [hbody] at hended
    exact exec_bind_error hended
  | ok j =>
    rw [hbody] at hended
    exact exec_bind_ok hended

theorem consumeSlot_ok {s} (h : s.holds .issued = true) (next : Int) :
    consumeSlot s next = .ok (consumedSlot s next) := by
  obtain ⟨_, hreceipt, _⟩ := holds_iff.mp h
  unfold consumeSlot consumedSlot
  rw [hreceipt]
  rfl

theorem complete_settles (now) : Settles (complete expected now) i (i.complete expected now) := by
  refine .read (.checked fun _ _ => ?_)
  split
  · exact ended_settles .expired _
  · refine .checked fun _ hissued => .checked fun _ _ => .checked fun revisions hrevisions => ?_
    have hloop := exec_eachSlot (i := i) (fun s hs => consumeSlot_ok (ensure_ok.mp hissued s hs))
      (nextSlotRevisions_length hrevisions) (List.nil_append i.slots).symm
    exact exec_bind_ok hloop

theorem cancel_settles (now) : Settles (cancel expected now) i (i.cancel expected now) := by
  refine .read (.checked fun _ _ => ?_)
  split
  · exact ended_settles .expired _
  · exact ended_settles .cancelled _

theorem expire_settles (now) : Settles (expire now) i (i.expire now) := by
  refine .read ?_
  unfold IdentityMutationIntent.expire
  split
  · rfl
  · exact ended_settles .expired _

theorem exec_bindBrowser (binding : InteractionBrowserBinding) (now) :
    exec (bindBrowser expected binding now) i
      = ((i.bindBrowser expected binding now).2, (i.bindBrowser expected binding now).1) := by
  unfold bindBrowser IdentityMutationIntent.bindBrowser admitsBinding
  cases binding.validate with
  | error e => rfl
  | ok u =>
    refine (exec_bind_ok (m := (check (.ok u) : InPlace Unit)) rfl).trans ?_
    have hpending := ensurePending_settles (i := i) expected now
    cases hbody : i.ensurePending expected now with
    | error e =>
      rw [hbody] at hpending
      exact exec_bind_error hpending
    | ok o =>
      rw [hbody] at hpending
      refine (exec_bind_ok hpending).trans ?_
      cases o with
      | some expired => rfl
      | none =>
        refine (exec_bind_ok (m := (get : InPlace IdentityMutationIntent)) rfl).trans ?_
        by_cases hfree : i.browserBinding = none
          ∧ ∀ s ∈ i.slots, s.state = .pending ∧ s.receipt = none
        · have hensure : ensure (i.browserBinding = none
              ∧ ∀ s ∈ i.slots, s.state = .pending ∧ s.receipt = none)
              DomainError.invalidTransition = .ok () := ensure_ok.mpr hfree
          rw [hensure]
          cases nextRevision i.intentRevision with
          | error e => rfl
          | ok next => rfl
        · have hensure : ensure (i.browserBinding = none
              ∧ ∀ s ∈ i.slots, s.state = .pending ∧ s.receipt = none)
              DomainError.invalidTransition = .error .invalidTransition := if_neg hfree
          rw [hensure]
          rfl

theorem exec_settled {m body} (h : Settles m i body) :
    exec (some <$> m) i = ((i.settled body).2, (i.settled body).1) := by
  have hm : exec (some <$> m) i = exec (m >>= fun a => pure (some a)) i := by
    rw [map_eq_pure_bind]
  rw [hm]
  cases body with
  | error e => exact exec_bind_error h
  | ok r => exact exec_bind_ok h

/-- **Every method answers and leaves what the model of whole intents says.** -/
theorem perform_exec (op : Op) (i : IdentityMutationIntent) :
    exec (perform op) i = (answer op i, step op i) := by
  cases op with
  | bindBrowser expected binding now =>
    have h := exec_bindBrowser (i := i) expected binding now
    show exec (some <$> bindBrowser expected binding now) i
      = ((i.bindBrowser expected binding now).2.map some, (i.bindBrowser expected binding now).1)
    rw [map_eq_pure_bind]
    cases hanswer : (i.bindBrowser expected binding now).2 with
    | error e =>
      rw [hanswer] at h
      exact exec_bind_error h
    | ok effect =>
      rw [hanswer] at h
      exact exec_bind_ok h
  | attachReceipt expected now receipt =>
    exact exec_settled (attachReceipt_settles expected now receipt)
  | confirmReady expected now =>
    exact exec_settled (pending_settles (.read (.checked fun _ _ => .checked fun _ _ => rfl)))
  | complete expected now => exact exec_settled (complete_settles expected now)
  | cancel expected now => exact exec_settled (cancel_settles expected now)
  | expire now =>
    have h := expire_settles (i := i) now
    show exec ((fun done => if done then some .expired else none) <$> expire now) i
      = ((i.swept (i.expire now)).2, (i.swept (i.expire now)).1)
    rw [map_eq_pure_bind]
    cases hbody : i.expire now with
    | error e =>
      rw [hbody] at h
      exact exec_bind_error h
    | ok r =>
      rw [hbody] at h
      exact exec_bind_ok h
  | startProvider role expected now | claimProviderCallback role expected now
  | failProviderExchange role expected now | beginEmail role expected now
  | markEmailChallengePending role expected now | replaceEmailChallenge role expected now =>
    exact exec_settled (transitionSlot_settles role expected now _)

end InPlace

/-! ## failures -/

/-- the operation binds a browser that the intent would take, at a revision that cannot advance -/
def BindsAtLastRevision (i : IdentityMutationIntent) : Op → Prop
  | .bindBrowser expected binding now =>
    binding.validate = .ok () ∧ i.status = .pendingProof ∧ i.intentRevision = expected
      ∧ now < i.effectiveConfirmationDeadline ∧ i.browserBinding = none
      ∧ (∀ s ∈ i.slots, s.state = .pending ∧ s.receipt = none) ∧ maxI64 ≤ i.intentRevision
  | _ => False

variable {i : IdentityMutationIntent}

theorem ensurePending_none {expected now} :
    i.ensurePending expected now = .ok none ↔ i.status = .pendingProof
      ∧ i.intentRevision = expected ∧ now < i.effectiveConfirmationDeadline := by
  constructor
  · intro h
    obtain ⟨_, hpending, h⟩ := bind_ok.mp h
    split at h
    · obtain ⟨_, h⟩ := later h
      cases h
    · rename_i hlive
      exact ⟨(ensure_ok.mp hpending).1, (ensure_ok.mp hpending).2, Int.not_le.mp hlive⟩
  · rintro ⟨hstatus, hrevision, hlive⟩
    refine bind_ok.mpr ⟨(), ensure_ok.mpr ⟨hstatus, hrevision⟩, ?_⟩
    rw [if_neg (Int.not_le.mpr hlive)]
    rfl

theorem admitsBinding_none {expected binding now} :
    i.admitsBinding expected binding now = .ok none ↔ binding.validate = .ok ()
      ∧ i.ensurePending expected now = .ok none ∧ i.browserBinding = none
      ∧ ∀ s ∈ i.slots, s.state = .pending ∧ s.receipt = none := by
  constructor
  · intro h
    obtain ⟨_, hvalid, o, ho, h⟩ := peel₂ h
    cases o with
    | some expired => cases h
    | none =>
      obtain ⟨_, hfree, _⟩ := bind_ok.mp h
      exact ⟨hvalid, ho, ensure_ok.mp hfree⟩
  · rintro ⟨hvalid, hpending, hfree⟩
    exact bind_ok.mpr ⟨(), hvalid, bind_ok.mpr ⟨none, hpending,
      bind_ok.mpr ⟨(), ensure_ok.mpr hfree, rfl⟩⟩⟩

/-- a binding that failed was not written, unless the revision was the last -/
theorem bindBrowser_failed {expected binding now e}
    (h : (i.bindBrowser expected binding now).2 = .error e) :
    (i.bindBrowser expected binding now).1 = i
      ↔ ¬ BindsAtLastRevision i (.bindBrowser expected binding now) := by
  unfold bindBrowser at h ⊢
  cases hadmits : i.admitsBinding expected binding now with
  | error e' =>
    refine ⟨fun _ hlast => ?_, fun _ => rfl⟩
    obtain ⟨hvalid, hstatus, hrevision, hlive, hfree, hidle, _⟩ := hlast
    have hok := admitsBinding_none.mpr
      ⟨hvalid, ensurePending_none.mpr ⟨hstatus, hrevision, hlive⟩, hfree, hidle⟩
    rw [hadmits] at hok
    cases hok
  | ok o =>
    rw [hadmits] at h
    cases o with
    | some expired => cases h
    | none =>
      obtain ⟨hvalid, hpending, hfree, hidle⟩ := admitsBinding_none.mp hadmits
      obtain ⟨hstatus, hrevision, hlive⟩ := ensurePending_none.mp hpending
      cases hnext : nextRevision i.intentRevision with
      | ok next =>
        rw [hnext] at h
        cases h
      | error e' =>
        refine ⟨fun hsame _ => ?_, fun hnot => absurd ⟨hvalid, hstatus, hrevision, hlive, hfree,
          hidle, nextRevision_error hnext⟩ hnot⟩
        have hbound : some binding = i.browserBinding :=
          congrArg IdentityMutationIntent.browserBinding hsame
        rw [hfree] at hbound
        cases hbound

/-- **An operation that fails leaves every field of the intent as it was**, whatever its arguments and
however high the revisions, except for a browser that is bound at the last revision: there the binding
stays written. -/
theorem failed_operations_write_nothing (i : IdentityMutationIntent) (op : Op) (e : DomainError)
    (h : (Method.exec (InPlace.perform op) i).1 = .error e) :
    (Method.exec (InPlace.perform op) i).2 = i ↔ ¬ BindsAtLastRevision i op := by
  rw [InPlace.perform_exec] at h ⊢
  have hsettled : ∀ body, (i.settled body).2 = .error e → (i.settled body).1 = i := by
    intro body hbody
    cases body with
    | error _ => rfl
    | ok _ => cases hbody
  cases op with
  | bindBrowser expected binding now =>
    change (i.bindBrowser expected binding now).2.map some = .error e at h
    cases hanswer : (i.bindBrowser expected binding now).2 with
    | error e' => exact bindBrowser_failed hanswer
    | ok effect =>
      rw [hanswer] at h
      cases h
  | expire now =>
    refine ⟨fun _ hlast => hlast, fun _ => ?_⟩
    change (i.swept (i.expire now)).2 = .error e at h
    show (i.swept (i.expire now)).1 = i
    cases hbody : i.expire now with
    | error _ => rfl
    | ok _ =>
      rw [hbody] at h
      cases h
  | startProvider | claimProviderCallback | failProviderExchange | beginEmail
  | markEmailChallengePending | replaceEmailChallenge | attachReceipt | confirmReady | complete
  | cancel =>
    exact ⟨fun _ hlast => hlast, fun _ => hsettled _ h⟩

namespace Demo

def lastRecord : RestoredIdentityMutationIntent := { intent.record with intentRevision := maxI64 }

def lastIntent : IdentityMutationIntent := { intent with intentRevision := maxI64 }

end Demo

theorem failed_operations_write_nothing_cancel :
    restore urls lastRecord = .ok lastIntent
      ∧ (Method.exec (InPlace.perform (.cancel maxI64 0)) lastIntent).2 = lastIntent :=
  ⟨rfl, (failed_operations_write_nothing lastIntent (.cancel maxI64 0) .invalidTransition
    rfl).mpr fun h => h⟩

/-- A browser is bound at the last revision: the answer is an error, and the intent is bound. -/
theorem binding_stays_at_last_revision :
    restore urls lastRecord = .ok lastIntent
      ∧ (Method.exec (InPlace.perform (.bindBrowser maxI64 browser 0)) lastIntent).1
        = .error .invalidTransition
      ∧ (Method.exec (InPlace.perform (.bindBrowser maxI64 browser 0))
        lastIntent).2.browserBinding = some browser
      ∧ lastIntent.browserBinding = none :=
  ⟨rfl, rfl, rfl, rfl⟩

end IdentityMutationIntent

end OwlAuth
