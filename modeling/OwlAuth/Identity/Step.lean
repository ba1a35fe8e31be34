import OwlAuth.Identity.Intent

/-!
# What one operation does to an intent

* `SlotMove`  the moves of a slot between two states, by the method that proves it;
* `IntentChange`  everything an operation can do: refuse, end the intent, bind it, move or prove
    one slot, make it ready, complete it;
* `answered_change`  every operation does one of these.
-/

namespace OwlAuth

open Fallible (ensure require bind_ok peel₂ peel₃ later ensure_ok require_ok)

inductive SlotMove : IdentityKind → IdentityMutationSlotState → IdentityMutationSlotState → Prop
  | started : SlotMove .provider .pending .providerAuthorizationStarted
  | claimed : SlotMove .provider .providerAuthorizationStarted .providerExchangeInProgress
  | failedStart : SlotMove .provider .providerAuthorizationStarted .providerExchangeFailed
  | failedExchange : SlotMove .provider .providerExchangeInProgress .providerExchangeFailed
  | begun : SlotMove .email .pending .emailAddressEntry
  | challenged : SlotMove .email .emailAddressEntry .emailChallengePending
  | replaced : SlotMove .email .emailChallengePending .emailChallengePending

variable {kind : IdentityKind} {state target : IdentityMutationSlotState}
  {i : IdentityMutationIntent} {role : IdentityMutationSlotRole} {s : IdentityMutationProofSlot}
  {slots : List IdentityMutationProofSlot} {revisions : List Int} {expected : Int} {now : Instant}
  {op : Op}

theorem SlotMove.source (h : SlotMove kind state target) :
    state ≠ .proved ∧ state ≠ .providerExchangeFailed ∧ state ≠ .expired := by
  cases h <;> decide

theorem SlotMove.target_open (h : SlotMove kind state target) :
    target ≠ .proved ∧ target ≠ .expired := by
  cases h <;> decide

namespace IdentityMutationIntent

/-! ## small facts about the helpers -/

theorem slot_ok (h : i.slot role = .ok s) :
    s ∈ i.slots ∧ s.role = role ∧ ∀ o ∈ i.slots, o.role = role → o = s := by
  unfold slot at h
  split at h
  · rename_i o hfilter
    cases h
    have hmem : ∀ o, o ∈ i.slots ∧ o.role = role ↔ o = s := by
      intro o
      rw [← List.mem_singleton (b := s), ← hfilter, List.mem_filter, decide_eq_true_eq]
    obtain ⟨hs, hrole⟩ := (hmem s).mpr rfl
    exact ⟨hs, hrole, fun o ho hr => (hmem o).mp ⟨ho, hr⟩⟩
  · cases h

theorem mem_updateSlot {o f} (h : i.slot role = .ok s) :
    o ∈ i.updateSlot role f ↔ (o ∈ i.slots ∧ o.role ≠ role) ∨ o = f s := by
  obtain ⟨hs, hrole, huniq⟩ := slot_ok h
  unfold updateSlot
  rw [List.mem_map]
  constructor
  · rintro ⟨q, hq, rfl⟩
    by_cases hr : q.role = role
    · rw [if_pos hr, huniq q hq hr]; exact .inr rfl
    · rw [if_neg hr]; exact .inl ⟨hq, hr⟩
  · rintro (⟨ho, hr⟩ | rfl)
    · exact ⟨o, ho, if_neg hr⟩
    · exact ⟨s, hs, if_pos hrole⟩

theorem nextSlotRevisions_ok (h : nextSlotRevisions slots = .ok revisions) :
    revisions = slots.map (fun s => s.slotRevision + 1) := by
  induction slots generalizing revisions with
  | nil => cases h; rfl
  | cons s slots ih =>
    obtain ⟨_, hnext, _, hrest, h⟩ := peel₂ h
    cases h
    rw [(nextRevision_ok hnext).1, ih hrest, List.map_cons]

theorem zipWith_nextSlotRevisions (f : IdentityMutationProofSlot → Int → IdentityMutationProofSlot)
    (h : nextSlotRevisions slots = .ok revisions) :
    List.zipWith f slots revisions = slots.map (fun s => f s (s.slotRevision + 1)) := by
  rw [nextSlotRevisions_ok h, List.zipWith_map_right, List.zipWith_self]

def ended (i : IdentityMutationIntent) (status : IdentityMutationStatus) : IdentityMutationIntent :=
  { i with
    status := status
    intentRevision := i.intentRevision + 1
    slots := i.slots.map (fun s => terminatedSlot s (s.slotRevision + 1)) }

theorem terminalize_ok {next status} (h : i.terminalize status = .ok next) :
    (status = .expired ∨ status = .cancelled) ∧ i.status.isTerminal = false
      ∧ next = i.ended status := by
  obtain ⟨_, hstatus, _, hrevision, _, hrevisions, h⟩ := peel₃ h
  have hslots := zipWith_nextSlotRevisions terminatedSlot hrevisions
  cases h
  rw [(nextRevision_ok hrevision).1, hslots]
  exact ⟨(ensure_ok.mp hstatus).1, (ensure_ok.mp hstatus).2, rfl⟩

theorem ensurePending_ok {o} (h : i.ensurePending expected now = .ok o) :
    i.status = .pendingProof ∧ i.intentRevision = expected
      ∧ (o = none ∨ o = some (i.ended .expired)) := by
  obtain ⟨_, hstatus, h⟩ := bind_ok.mp h
  obtain ⟨hpending, hrevision⟩ := ensure_ok.mp hstatus
  refine ⟨hpending, hrevision, ?_⟩
  split at h
  · obtain ⟨_, hexpired, h⟩ := bind_ok.mp h
    cases h
    rw [(terminalize_ok hexpired).2.2]
    exact .inr rfl
  · cases h
    exact .inl rfl

theorem validateReceiptForSlot_ok {receipt} (h : i.validateReceiptForSlot receipt s = .ok ()) :
    receipt.id ≠ 0 ∧ receipt.browserBinding.validate = .ok () ∧ ReceiptFits i s receipt
      ∧ evidenceFits s.target receipt.evidence = true := by
  obtain ⟨_, hid, _, hbinding, _, hfits, hevidence⟩ := peel₃ h
  exact ⟨ensure_ok.mp hid, hbinding, ensure_ok.mp hfits, ensure_ok.mp hevidence⟩

/-! ## the change -/

def Op.movedRole : Op → Option IdentityMutationSlotRole
  | startProvider role _ _ => some role
  | claimProviderCallback role _ _ => some role
  | failProviderExchange role _ _ => some role
  | beginEmail role _ _ => some role
  | markEmailChallengePending role _ _ => some role
  | replaceEmailChallenge role _ _ => some role
  | _ => none

structure Unbound (i : IdentityMutationIntent) : Prop where
  pending : i.status = .pendingProof
  unbound : i.browserBinding = none
  idle : ∀ s ∈ i.slots, s.state = .pending ∧ s.receipt = none

/-- the receipt may be attached to the slot of its role -/
structure Attachable (i : IdentityMutationIntent) (now : Instant)
    (receipt : IdentityProofReceiptSnapshot) (s : IdentityMutationProofSlot) : Prop where
  pending : i.status = .pendingProof
  slot : i.slot receipt.role = .ok s
  valid : i.validateReceiptForSlot receipt s = .ok ()
  captured : receipt.capturedIntentRevision = i.intentRevision
  live : now < receipt.expiresAt
  awaited : awaitsReceipt s.state = true
  fresh : s.receipt = none

def withProof (i : IdentityMutationIntent) (receipt : IdentityProofReceiptSnapshot)
    (s : IdentityMutationProofSlot) : IdentityMutationIntent :=
  { i with
    slots := i.updateSlot receipt.role (provedSlot receipt (s.slotRevision + 1))
    intentRevision := i.intentRevision + 1 }

def withMove (i : IdentityMutationIntent) (role : IdentityMutationSlotRole)
    (s : IdentityMutationProofSlot) (target : IdentityMutationSlotState) : IdentityMutationIntent :=
  { i with
    slots := i.updateSlot role (fun o =>
      { o with state := target, slotRevision := s.slotRevision + 1 })
    intentRevision := i.intentRevision + 1 }

def consumed (i : IdentityMutationIntent) : IdentityMutationIntent :=
  { i with
    slots := i.slots.map (fun s => consumedSlot s (s.slotRevision + 1))
    status := .completed
    intentRevision := i.intentRevision + 1 }

/-- everything an operation can do, with its answer -/
inductive IntentChange (i : IdentityMutationIntent) : Op → IdentityMutationIntent → Answer → Prop
  | refused (op : Op) (e : DomainError) : IntentChange i op i (.error e)
  | idle (now : Instant) : IntentChange i (.expire now) i (.ok none)
  | ended (op : Op) (status : IdentityMutationStatus) (effect : IdentityMutationEffect)
      (hstatus : status = .expired ∨ status = .cancelled) (hlive : i.status.isTerminal = false)
      (heffect : effect = .expired ∨ ∃ expected now, op = .cancel expected now) :
      IntentChange i op (i.ended status) (.ok (some effect))
  | bound (expected : Int) (binding : InteractionBrowserBinding) (now : Instant)
      (hbinding : binding.validate = .ok ()) (h : Unbound i) :
      IntentChange i (.bindBrowser expected binding now)
        { i with browserBinding := some binding, intentRevision := i.intentRevision + 1 }
        (.ok (some .applied))
  | halfBound (expected : Int) (binding : InteractionBrowserBinding) (now : Instant)
      (e : DomainError) (hbinding : binding.validate = .ok ()) (h : Unbound i)
      (hfull : maxI64 ≤ i.intentRevision) :
      IntentChange i (.bindBrowser expected binding now)
        { i with browserBinding := some binding } (.error e)
  | moved (op : Op) (role : IdentityMutationSlotRole) (s : IdentityMutationProofSlot)
      (target : IdentityMutationSlotState) (hop : op.movedRole = some role)
      (hpending : i.status = .pendingProof) (hbound : i.browserBinding ≠ none)
      (hslot : i.slot role = .ok s)
      (hmove : SlotMove s.authority.identityKind s.state target) :
      IntentChange i op (i.withMove role s target) (.ok (some .applied))
  | attached (expected : Int) (now : Instant) (receipt : IdentityProofReceiptSnapshot)
      (s : IdentityMutationProofSlot) (h : Attachable i now receipt s) :
      IntentChange i (.attachReceipt expected now receipt) (i.withProof receipt s)
        (.ok (some .applied))
  | readied (expected : Int) (now : Instant) (hpending : i.status = .pendingProof)
      (hproved : ∀ s ∈ i.slots, s.state = .proved ∧ s.holds .issued = true) :
      IntentChange i (.confirmReady expected now)
        { i with intentRevision := i.intentRevision + 1, status := .ready }
        (.ok (some .applied))
  | completed (expected : Int) (now : Instant) (hready : i.status = .ready)
      (hlive : now < i.effectiveConfirmationDeadline)
      (hissued : ∀ s ∈ i.slots, s.holds .issued = true) :
      IntentChange i (.complete expected now) i.consumed (.ok (some .applied))

/-! ## every operation -/

variable {i : IdentityMutationIntent}

theorem settled_change {body}
    (h : ∀ next effect, body = .ok (next, effect) → IntentChange i op next (.ok (some effect))) :
    IntentChange i op (i.settled body).1 (i.settled body).2 := by
  cases hbody : body with
  | error e => exact .refused op e
  | ok result => exact h result.1 result.2 hbody

theorem expired_change {expired} (h : i.ensurePending expected now = .ok (some expired)) :
    IntentChange i op expired (.ok (some .expired)) := by
  obtain ⟨hpending, _, hnone | hsome⟩ := ensurePending_ok h
  · cases hnone
  · obtain rfl := Option.some.inj hsome
    exact .ended op .expired .expired (.inl rfl) (by rw [hpending]; rfl) (.inl rfl)

theorem transitionSlot_change {sources}
    (hop : op.movedRole = some role) (hmoves : ∀ state ∈ sources, SlotMove kind state target) :
    IntentChange i op
      (i.settled (i.transitionSlot role expected now (slotMove kind sources target))).1
      (i.settled (i.transitionSlot role expected now (slotMove kind sources target))).2 := by
  refine settled_change (fun next effect h => ?_)
  obtain ⟨o, ho, h⟩ := bind_ok.mp h
  cases o with
  | some expired => cases h; exact expired_change ho
  | none =>
    obtain ⟨_, hbound, _, hrevision, s, hs, h⟩ := peel₃ h
    obtain ⟨state, hstate, _, hslotRevision, h⟩ := peel₂ h
    obtain ⟨_, hadmitted, hstate⟩ := bind_ok.mp hstate
    obtain ⟨hkind, hsource⟩ := ensure_ok.mp hadmitted
    have hmove := hmoves s.state hsource
    cases h
    cases hstate
    rw [(nextRevision_ok hrevision).1, (nextRevision_ok hslotRevision).1]
    exact .moved op role s target hop (ensurePending_ok ho).1 (ensure_ok.mp hbound) hs
      (hkind ▸ hmove)

variable (expected : Int)

theorem bindBrowser_change (binding : InteractionBrowserBinding) (now) :
    IntentChange i (.bindBrowser expected binding now)
      (i.bindBrowser expected binding now).1 ((i.bindBrowser expected binding now).2.map some) := by
  unfold bindBrowser
  cases hadmits : i.admitsBinding expected binding now with
  | error e => exact .refused _ e
  | ok o =>
    obtain ⟨_, hvalid, h⟩ := bind_ok.mp hadmits
    obtain ⟨p, hp, h⟩ := bind_ok.mp h
    cases p with
    | some expired => cases h; exact expired_change hp
    | none =>
      obtain ⟨_, hfree, h⟩ := bind_ok.mp h
      obtain ⟨hunbound, hidle⟩ := ensure_ok.mp hfree
      have hi : Unbound i := ⟨(ensurePending_ok hp).1, hunbound, hidle⟩
      cases h
      cases hnext : nextRevision i.intentRevision with
      | error e => exact .halfBound expected binding now e hvalid hi (nextRevision_error hnext)
      | ok next =>
        rw [(nextRevision_ok hnext).1]
        exact .bound expected binding now hvalid hi

theorem attachReceipt_change (now) (receipt : IdentityProofReceiptSnapshot) :
    IntentChange i (.attachReceipt expected now receipt)
      (i.settled (i.attachReceipt expected now receipt)).1
      (i.settled (i.attachReceipt expected now receipt)).2 := by
  refine settled_change (fun next effect h => ?_)
  obtain ⟨_, hstatus, s, hs, _, hvalid, h⟩ := peel₃ h
  obtain ⟨_, htimes, _, hstate, o, ho, h⟩ := peel₃ h
  cases o with
  | some expired => cases h; exact expired_change ho
  | none =>
    obtain ⟨_, hrevision, _, hslotRevision, h⟩ := peel₂ h
    obtain ⟨hpending, hexpected, _⟩ := ensure_ok.mp hstatus
    obtain ⟨hcaptured, _, hlive⟩ := ensure_ok.mp htimes
    obtain ⟨hawaited, hfresh⟩ := ensure_ok.mp hstate
    cases h
    rw [(nextRevision_ok hrevision).1, (nextRevision_ok hslotRevision).1]
    exact .attached expected now receipt s
      ⟨hpending, hs, hvalid, hcaptured.trans hexpected.symm, hlive, hawaited, hfresh⟩

theorem confirmReady_change (now) :
    IntentChange i (.confirmReady expected now)
      (i.settled (i.confirmReady expected now)).1 (i.settled (i.confirmReady expected now)).2 := by
  refine settled_change (fun next effect h => ?_)
  obtain ⟨o, ho, h⟩ := bind_ok.mp h
  cases o with
  | some expired => cases h; exact expired_change ho
  | none =>
    obtain ⟨_, hproved, _, hrevision, h⟩ := peel₂ h
    cases h
    rw [(nextRevision_ok hrevision).1]
    exact .readied expected now (ensurePending_ok ho).1 (ensure_ok.mp hproved)

theorem complete_change (now) :
    IntentChange i (.complete expected now)
      (i.settled (i.complete expected now)).1 (i.settled (i.complete expected now)).2 := by
  refine settled_change (fun next effect h => ?_)
  obtain ⟨_, hstatus, h⟩ := bind_ok.mp h
  obtain ⟨hready, _⟩ := ensure_ok.mp hstatus
  split at h
  · obtain ⟨expired, hexpired, h⟩ := bind_ok.mp h
    obtain ⟨_, hlive, rfl⟩ := terminalize_ok hexpired
    cases h
    exact .ended _ .expired .expired (.inl rfl) hlive (.inl rfl)
  · rename_i hdeadline
    obtain ⟨_, hissued, revision, hrevision, revisions, hrevisions, h⟩ := peel₃ h
    have hslots := zipWith_nextSlotRevisions consumedSlot hrevisions
    cases h
    rw [(nextRevision_ok hrevision).1, hslots]
    exact .completed expected now hready (Int.not_le.mp hdeadline) (ensure_ok.mp hissued)

theorem cancel_change (now) :
    IntentChange i (.cancel expected now)
      (i.settled (i.cancel expected now)).1 (i.settled (i.cancel expected now)).2 := by
  refine settled_change (fun next effect h => ?_)
  obtain ⟨_, h⟩ := later h
  have hcancel : effect = .expired ∨ ∃ e n, Op.cancel expected now = .cancel e n :=
    .inr ⟨expected, now, rfl⟩
  split at h
  · obtain ⟨ended, hended, h⟩ := bind_ok.mp h
    obtain ⟨hstatus, hlive, rfl⟩ := terminalize_ok hended
    cases h
    exact .ended _ _ _ hstatus hlive hcancel
  · obtain ⟨ended, hended, h⟩ := bind_ok.mp h
    obtain ⟨hstatus, hlive, rfl⟩ := terminalize_ok hended
    cases h
    exact .ended _ _ _ hstatus hlive hcancel

theorem expire_change (now) :
    IntentChange i (.expire now) (i.swept (i.expire now)).1 (i.swept (i.expire now)).2 := by
  cases hexpire : i.expire now with
  | error e => exact .refused _ e
  | ok result =>
    obtain ⟨_, _⟩ := result
    unfold expire at hexpire
    split at hexpire
    · cases hexpire; exact .idle now
    · obtain ⟨_, hended, h⟩ := bind_ok.mp hexpire
      obtain ⟨hstatus, hlive, rfl⟩ := terminalize_ok hended
      cases h
      exact .ended _ _ _ hstatus hlive (.inl rfl)

/-- **Every operation does one of the changes.** -/
theorem answered_change (op : Op) (i : IdentityMutationIntent) :
    IntentChange i op (step op i) (answer op i) := by
  cases op with
  | bindBrowser expected binding now => exact bindBrowser_change expected binding now
  | startProvider role expected now =>
    exact transitionSlot_change rfl (by rintro _ (_ | ⟨_, ⟨⟩⟩); exact .started)
  | claimProviderCallback role expected now =>
    exact transitionSlot_change rfl (by rintro _ (_ | ⟨_, ⟨⟩⟩); exact .claimed)
  | failProviderExchange role expected now =>
    refine transitionSlot_change rfl ?_
    rintro _ (_ | ⟨_, (_ | ⟨_, ⟨⟩⟩)⟩)
    · exact .failedStart
    · exact .failedExchange
  | beginEmail role expected now =>
    exact transitionSlot_change rfl (by rintro _ (_ | ⟨_, ⟨⟩⟩); exact .begun)
  | markEmailChallengePending role expected now =>
    exact transitionSlot_change rfl (by rintro _ (_ | ⟨_, ⟨⟩⟩); exact .challenged)
  | replaceEmailChallenge role expected now =>
    exact transitionSlot_change rfl (by rintro _ (_ | ⟨_, ⟨⟩⟩); exact .replaced)
  | attachReceipt expected now receipt => exact attachReceipt_change expected now receipt
  | confirmReady expected now => exact confirmReady_change expected now
  | complete expected now => exact complete_change expected now
  | cancel expected now => exact cancel_change expected now
  | expire now => exact expire_change now

end IdentityMutationIntent

end OwlAuth
