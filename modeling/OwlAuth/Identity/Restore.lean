import OwlAuth.Identity.Step

/-!
# Restoring an intent from its record

`restore` rebuilds an intent from the record that was stored and checks it as a whole.  The record
of every intent that `create` or `restore` produced, and that any operations then changed, is
accepted again and gives the same intent.

* `record`, `fromRecord`  the copy of the fields and the way back;
* `validateRestored`, `restore`  the checks;
* `SlotOk`, `IntentOk`  what the checks say about one slot and about the intent;
* `IntentIds`  what they say about the ids of slots and receipts;
* `restore_ok_iff`  the checks say just this;
* `IntentChange.ok`, `IntentChange.ids`  every operation keeps both.
-/

namespace OwlAuth

open Fallible (ensure require foldOk bind_ok peel₂ peel₃ unit_bind later ensure_ok require_ok
  foldOk_cons)

structure RestoredIdentityMutationProofSlot where
  id : Uuid
  role : IdentityMutationSlotRole
  ordinal : Nat
  target : IdentityMutationSlotTarget
  state : IdentityMutationSlotState
  slotRevision : Int
  receipt : Option RestoredIdentityProofReceipt

structure RestoredIdentityMutationIntent where
  (id projectId : Uuid)
  kind : IdentityMutationKind
  status : IdentityMutationStatus
  intentRevision : Int
  browserBinding : Option InteractionBrowserBinding
  slots : List (RestoredIdentityMutationProofSlot × ProofMethodAuthority)
  (createdAt expiresAt : Instant)

namespace IdentityMutationProofSlot

def record (s : IdentityMutationProofSlot) :
    RestoredIdentityMutationProofSlot × ProofMethodAuthority :=
  (⟨s.id, s.role, s.ordinal, s.target, s.state, s.slotRevision, s.receipt⟩, s.authority)

def fromRecord (r : RestoredIdentityMutationProofSlot × ProofMethodAuthority) :
    IdentityMutationProofSlot :=
  ⟨r.1.id, r.1.role, r.1.ordinal, r.1.target, r.2, r.1.state, r.1.slotRevision, r.1.receipt⟩

def standsIn (s : IdentityMutationProofSlot) : IdentityMutationStatus → Bool
  | .pendingProof => s.state != .expired
  | .ready => s.state == .proved && s.holds .issued
  | .completed => s.state == .proved && s.holds .consumed
  | .expired | .cancelled => s.state == .expired

end IdentityMutationProofSlot

def ProofMethodAuthority.admits : ProofMethodAuthority → IdentityMutationSlotState → Bool
  | provider _, .emailAddressEntry | provider _, .emailChallengePending => false
  | email _, .providerAuthorizationStarted | email _, .providerExchangeInProgress
  | email _, .providerExchangeFailed => false
  | _, _ => true

def IdentityProofReceiptStatus.standsIn :
    IdentityProofReceiptStatus → IdentityMutationSlotState → IdentityMutationStatus → Bool
  | issued, .proved, .pendingProof | issued, .proved, .ready => true
  | consumed, .proved, .completed => true
  | expired, .expired, .expired | expired, .expired, .cancelled => true
  | _, _, _ => false

def unprovedStandsIn : IdentityMutationSlotState → IdentityMutationStatus → Bool
  | .proved, _ => false
  | .expired, .expired | .expired, .cancelled => true
  | .expired, _ => false
  | _, _ => true

theorem SlotMove.admitted {authority : ProofMethodAuthority}
    {state target : IdentityMutationSlotState} (h : SlotMove authority.identityKind state target) :
    authority.admits target = true := by
  cases authority <;> cases h <;> rfl

theorem SlotMove.unproved {kind state target}
    (h : SlotMove kind state target) (status : IdentityMutationStatus) :
    unprovedStandsIn target status = true := by
  cases h <;> rfl

variable {o s : IdentityMutationProofSlot} {seen : Seen} {r : RestoredIdentityProofReceipt}
  {plan : IdentityMutationPlan} {j : IdentityMutationIntent} {now : Instant} {op : Op} {a : Answer}

namespace IdentityMutationIntent

open IdentityMutationIntent.Demo

def record (i : IdentityMutationIntent) : RestoredIdentityMutationIntent :=
  ⟨i.id, i.projectId, i.kind, i.status, i.intentRevision, i.browserBinding,
    i.slots.map (·.record), i.createdAt, i.expiresAt⟩

def fromRecord (r : RestoredIdentityMutationIntent) : IdentityMutationIntent :=
  ⟨r.id, r.projectId, r.kind, r.status, r.intentRevision, r.browserBinding,
    r.slots.map IdentityMutationProofSlot.fromRecord, r.createdAt, r.expiresAt⟩

theorem fromRecord_record (i : IdentityMutationIntent) : fromRecord i.record = i := by
  have hslots : (i.slots.map (·.record)).map IdentityMutationProofSlot.fromRecord = i.slots := by
    rw [List.map_map]
    exact List.map_id i.slots
  show { i with slots := (i.slots.map (·.record)).map IdentityMutationProofSlot.fromRecord } = i
  rw [hslots]

/-! ## the checks -/

def validateBrowserBindingState (i : IdentityMutationIntent) : Checked Unit :=
  match i.browserBinding with
  | some _ => ensure (1 < i.intentRevision) .invalidValue
  | none =>
    ensure ((i.status = .pendingProof ∨ i.status = .expired ∨ i.status = .cancelled)
      ∧ ∀ s ∈ i.slots, s.receipt = none ∧ (s.state = .pending ∨ s.state = .expired))
      .invalidValue

abbrev Seen := List Uuid × List Uuid

variable (urls : UrlLibrary)

def validateRestoredSlot (i : IdentityMutationIntent) (seen : Seen)
    (s : IdentityMutationProofSlot) : Checked Seen := do
  rejectNil s.id
  ensure (0 < s.slotRevision ∧ s.id ∉ seen.1 ∧ s.target.projectId = i.projectId) .invalidValue
  s.authority.validate urls i.projectId s.target.identityKind
  ensure (s.authority.admits s.state = true) .invalidValue
  match s.receipt with
  | some receipt =>
    i.validateReceiptForSlot receipt.snapshot s
    ensure (receipt.snapshot.capturedIntentRevision < i.intentRevision
      ∧ receipt.snapshot.id ∉ seen.2) .invalidValue
    ensure (receipt.status.standsIn s.state i.status = true) .invalidValue
    pure (s.id :: seen.1, receipt.snapshot.id :: seen.2)
  | none =>
    ensure (unprovedStandsIn s.state i.status = true) .invalidValue
    pure (s.id :: seen.1, seen.2)

def validateRestored (i : IdentityMutationIntent) : Checked Unit := do
  validateSlotSet i.projectId i.kind i.slots
  i.validateBrowserBindingState
  let _ ← foldOk (validateRestoredSlot urls i) ([], []) i.slots
  ensure (∀ s ∈ i.slots, s.standsIn i.status = true) .invalidValue

def validateBinding : Option InteractionBrowserBinding → Checked Unit
  | some binding => binding.validate
  | none => .ok ()

theorem validateBinding_iff {o} :
    validateBinding o = .ok () ↔ ∀ b, o = some b → b.validate = .ok () := by
  cases o with
  | none => exact ⟨fun _ _ h => (by cases h), fun _ => rfl⟩
  | some b => exact ⟨fun h _ hb => by cases hb; exact h, fun h => h b rfl⟩

def restore (r : RestoredIdentityMutationIntent) : Checked IdentityMutationIntent := do
  rejectNil r.id
  rejectNil r.projectId
  validateBinding r.browserBinding
  validateLifetime r.createdAt r.expiresAt
  ensure (0 < r.intentRevision) .invalidValue
  validateRestored urls (fromRecord r)
  pure (fromRecord r)

/-! ## what the checks say -/

structure SlotOk (i : IdentityMutationIntent) (s : IdentityMutationProofSlot) : Prop where
  revision : 0 < s.slotRevision
  project : s.target.projectId = i.projectId
  authority : s.authority.validate urls i.projectId s.target.identityKind = .ok ()
  state : s.authority.admits s.state = true
  receipt : ∀ r, s.receipt = some r → i.validateReceiptForSlot r.snapshot s = .ok ()
    ∧ r.snapshot.capturedIntentRevision < i.intentRevision
    ∧ r.status.standsIn s.state i.status = true
  unproved : s.receipt = none → unprovedStandsIn s.state i.status = true

structure IntentOk (i : IdentityMutationIntent) : Prop where
  id : i.id ≠ 0
  project : i.projectId ≠ 0
  lifetime : validateLifetime i.createdAt i.expiresAt = .ok ()
  revision : 0 < i.intentRevision
  slotSet : validateSlotSet i.projectId i.kind i.slots = .ok ()
  bound : ∀ b, i.browserBinding = some b → b.validate = .ok () ∧ 1 < i.intentRevision
  unbound : i.browserBinding = none →
    (i.status = .pendingProof ∨ i.status = .expired ∨ i.status = .cancelled)
      ∧ ∀ s ∈ i.slots, s.receipt = none ∧ (s.state = .pending ∨ s.state = .expired)
  slots : ∀ s ∈ i.slots, SlotOk urls i s
  stands : ∀ s ∈ i.slots, s.standsIn i.status = true

def IdsDiffer (s o : IdentityMutationProofSlot) : Prop :=
  s.id ≠ o.id ∧ ∀ r ∈ s.receipt, ∀ q ∈ o.receipt, r.snapshot.id ≠ q.snapshot.id

structure IntentIds (i : IdentityMutationIntent) : Prop where
  slots : ∀ s ∈ i.slots, s.id ≠ 0
  differ : i.slots.Pairwise IdsDiffer

def Unseen (seen : Seen) (s : IdentityMutationProofSlot) : Prop :=
  s.id ∉ seen.1 ∧ ∀ r ∈ s.receipt, r.snapshot.id ∉ seen.2

def noted (seen : Seen) (s : IdentityMutationProofSlot) : Seen :=
  (s.id :: seen.1, (s.receipt.map (·.snapshot.id)).toList ++ seen.2)

theorem unseen_noted : Unseen (noted seen s) o ↔ Unseen seen o ∧ IdsDiffer s o := by
  have hcons : ∀ (a b : Uuid) (l : List Uuid), a ∉ b :: l ↔ a ∉ l ∧ b ≠ a := by
    intro a b l
    rw [List.mem_cons, not_or, and_comm]
    exact and_congr Iff.rfl ⟨Ne.symm, Ne.symm⟩
  have hid := hcons o.id s.id seen.1
  have hreceipt : ∀ q : RestoredIdentityProofReceipt,
      q.snapshot.id ∉ (s.receipt.map (·.snapshot.id)).toList ++ seen.2
        ↔ q.snapshot.id ∉ seen.2 ∧ ∀ r ∈ s.receipt, r.snapshot.id ≠ q.snapshot.id := by
    intro q
    cases s.receipt with
    | none => simp
    | some r => simpa using hcons q.snapshot.id r.snapshot.id seen.2
  constructor
  · rintro ⟨h, hr⟩
    refine ⟨⟨(hid.mp h).1, fun q hq => ((hreceipt q).mp (hr q hq)).1⟩, (hid.mp h).2, ?_⟩
    intro r hmem q hq
    exact ((hreceipt q).mp (hr q hq)).2 r hmem
  · rintro ⟨⟨h, hr⟩, hne, hdiffer⟩
    refine ⟨hid.mpr ⟨h, hne⟩, fun q hq => (hreceipt q).mpr ⟨hr q hq, ?_⟩⟩
    intro r hmem
    exact hdiffer r hmem q hq

variable {urls : UrlLibrary} {i : IdentityMutationIntent}

theorem validateRestoredSlot_iff {seen'} :
    validateRestoredSlot urls i seen s = .ok seen'
      ↔ (s.id ≠ 0 ∧ SlotOk urls i s ∧ Unseen seen s) ∧ noted seen s = seen' := by
  simp only [validateRestoredSlot, rejectNil, unit_bind, ensure_ok]
  cases hr : s.receipt with
  | some r =>
    have hnoted : noted seen s = (s.id :: seen.1, r.snapshot.id :: seen.2) := by
      rw [noted, hr]; rfl
    simp only [unit_bind, ensure_ok, hnoted]
    constructor
    · rintro ⟨hid, ⟨hrevision, hnew, hproject⟩, hauthority, hstate, hvalid, ⟨hcaptured, hfresh⟩,
        hstands, h⟩
      refine ⟨⟨hid, ⟨hrevision, hproject, hauthority, hstate, fun q hq => ?_, fun hnone => ?_⟩, hnew,
        fun q hq => ?_⟩, Except.ok.inj h⟩
      · cases hr.symm.trans hq
        exact ⟨hvalid, hcaptured, hstands⟩
      · cases hr.symm.trans hnone
      · cases hr.symm.trans hq
        exact hfresh
    · rintro ⟨⟨hid, hok, hnew, hfresh⟩, rfl⟩
      obtain ⟨hvalid, hcaptured, hstands⟩ := hok.receipt r hr
      exact ⟨hid, ⟨hok.revision, hnew, hok.project⟩, hok.authority, hok.state, hvalid,
        ⟨hcaptured, hfresh r hr⟩, hstands, rfl⟩
  | none =>
    have hnoted : noted seen s = (s.id :: seen.1, seen.2) := by rw [noted, hr]; rfl
    have hfree : ∀ q, s.receipt ≠ some q := fun q hq => by cases hr.symm.trans hq
    simp only [unit_bind, ensure_ok, hnoted]
    constructor
    · rintro ⟨hid, ⟨hrevision, hnew, hproject⟩, hauthority, hstate, hstands, h⟩
      exact ⟨⟨hid, ⟨hrevision, hproject, hauthority, hstate, fun q hq => absurd hq (hfree q),
        fun _ => hstands⟩, hnew, fun q hq => absurd hq (hfree q)⟩, Except.ok.inj h⟩
    · rintro ⟨⟨hid, hok, hnew, _⟩, rfl⟩
      exact ⟨hid, ⟨hok.revision, hnew, hok.project⟩, hok.authority, hok.state, hok.unproved hr, rfl⟩

theorem foldSlots_iff {slots} :
    (∃ seen', foldOk (validateRestoredSlot urls i) seen slots = .ok seen')
      ↔ (∀ s ∈ slots, s.id ≠ 0 ∧ SlotOk urls i s ∧ Unseen seen s) ∧ slots.Pairwise IdsDiffer := by
  induction slots generalizing seen with
  | nil => exact ⟨fun _ => ⟨fun s hs => absurd hs List.not_mem_nil, .nil⟩, fun _ => ⟨seen, rfl⟩⟩
  | cons s slots ih =>
    rw [List.pairwise_cons]
    constructor
    · rintro ⟨seen', h⟩
      rw [foldOk_cons] at h
      obtain ⟨_, hs, h⟩ := bind_ok.mp h
      obtain ⟨hfirst, rfl⟩ := validateRestoredSlot_iff.mp hs
      obtain ⟨hrest, hdiffer⟩ := ih.mp ⟨seen', h⟩
      refine ⟨fun o ho => ?_, fun o ho => (unseen_noted.mp (hrest o ho).2.2).2, hdiffer⟩
      rcases List.mem_cons.mp ho with rfl | ho
      · exact hfirst
      · obtain ⟨hid, hok, hunseen⟩ := hrest o ho
        exact ⟨hid, hok, (unseen_noted.mp hunseen).1⟩
    · rintro ⟨hall, hfirst, hdiffer⟩
      have hs := hall s List.mem_cons_self
      have hrest : ∀ o ∈ slots, o.id ≠ 0 ∧ SlotOk urls i o ∧ Unseen (noted seen s) o := by
        intro o ho
        obtain ⟨hid, hok, hunseen⟩ := hall o (List.mem_cons_of_mem _ ho)
        exact ⟨hid, hok, unseen_noted.mpr ⟨hunseen, hfirst o ho⟩⟩
      obtain ⟨seen', h⟩ := ih.mpr ⟨hrest, hdiffer⟩
      refine ⟨seen', ?_⟩
      rw [foldOk_cons]
      exact bind_ok.mpr ⟨noted seen s, validateRestoredSlot_iff.mpr ⟨hs, rfl⟩, h⟩

theorem validateBrowserBindingState_iff :
    i.validateBrowserBindingState = .ok ()
      ↔ (∀ b, i.browserBinding = some b → 1 < i.intentRevision)
        ∧ (i.browserBinding = none →
          (i.status = .pendingProof ∨ i.status = .expired ∨ i.status = .cancelled)
            ∧ ∀ s ∈ i.slots, s.receipt = none ∧ (s.state = .pending ∨ s.state = .expired)) := by
  unfold validateBrowserBindingState
  cases hb : i.browserBinding with
  | some b =>
    rw [ensure_ok]
    exact ⟨fun h => ⟨fun _ _ => h, fun hn => by cases hn⟩, fun h => h.1 b rfl⟩
  | none =>
    rw [ensure_ok]
    exact ⟨fun h => ⟨fun _ hs => (by cases hs), fun _ => h⟩, fun h => h.2 rfl⟩

/-- **What `restore` accepts, and what it returns.** -/
theorem restore_ok_iff {r} :
    restore urls r = .ok i ↔ fromRecord r = i ∧ IntentOk urls i ∧ IntentIds i := by
  constructor
  · intro h
    obtain ⟨_, hid, _, hproject, _, hbinding, h⟩ := peel₃ h
    obtain ⟨_, hlifetime, _, hrevision, _, hrestored, h⟩ := peel₃ h
    cases h
    obtain ⟨_, hset, h⟩ := bind_ok.mp hrestored
    obtain ⟨_, hstate, seen, hslots, hstands⟩ := peel₂ h
    obtain ⟨hslots, hdiffer⟩ := foldSlots_iff.mp ⟨seen, hslots⟩
    obtain ⟨hbound, hunbound⟩ := validateBrowserBindingState_iff.mp hstate
    exact ⟨rfl, ⟨ensure_ok.mp hid, ensure_ok.mp hproject, hlifetime, ensure_ok.mp hrevision, hset,
      fun b hb => ⟨validateBinding_iff.mp hbinding b hb, hbound b hb⟩, hunbound,
      fun s hs => (hslots s hs).2.1, ensure_ok.mp hstands⟩, fun s hs => (hslots s hs).1, hdiffer⟩
  · rintro ⟨rfl, hok, hids⟩
    have hbinding : validateBinding r.browserBinding = .ok () :=
      validateBinding_iff.mpr (fun b hb => (hok.bound b hb).1)
    obtain ⟨seen, hseen⟩ := foldSlots_iff.mpr
      ⟨fun s hs => ⟨hids.slots s hs, hok.slots s hs,
        (⟨List.not_mem_nil, fun _ _ => List.not_mem_nil⟩ : Unseen ([], []) s)⟩, hids.differ⟩
    have hrestored : validateRestored urls (fromRecord r) = .ok () :=
      unit_bind.mpr ⟨hok.slotSet, unit_bind.mpr ⟨validateBrowserBindingState_iff.mpr
        ⟨fun b hb => (hok.bound b hb).2, hok.unbound⟩,
        bind_ok.mpr ⟨seen, hseen, ensure_ok.mpr hok.stands⟩⟩⟩
    simp only [restore, rejectNil, unit_bind, ensure_ok]
    exact ⟨hok.id, hok.project, hbinding, hok.lifetime, hok.revision, hrestored, rfl⟩

/-! ## creation -/

theorem buildSlots_ok {newId projectId n definitions slots}
    (h : buildSlots urls newId projectId n definitions = .ok slots) :
    slots.map (·.id) = (List.range' n definitions.length).map newId
      ∧ ∀ s ∈ slots, s.state = .pending ∧ s.receipt = none ∧ s.slotRevision = 1
        ∧ s.authority.validate urls projectId s.target.identityKind = .ok () := by
  induction definitions generalizing n slots with
  | nil => cases h; exact ⟨rfl, fun s hs => absurd hs List.not_mem_nil⟩
  | cons d definitions ih =>
    obtain ⟨_, _, _⟩ := d
    obtain ⟨_, hvalid, _, hrest, h⟩ := peel₂ h
    obtain ⟨hids, hslots⟩ := ih hrest
    cases h
    refine ⟨?_, fun s hs => ?_⟩
    · rw [List.map_cons, hids, List.length_cons, List.range'_succ, List.map_cons]
    · rcases List.mem_cons.mp hs with rfl | hs
      · exact ⟨rfl, rfl, rfl, hvalid⟩
      · exact hslots s hs

theorem validateSlotSet_ok {projectId kind slots} (h : validateSlotSet projectId kind slots = .ok ()) :
    slots.map (·.role) = kind.roles ∧ ∀ s ∈ slots, s.target.projectId = projectId := by
  obtain ⟨_, _, _, hshape, _⟩ := peel₂ h
  obtain ⟨hroles, _, hproject⟩ := ensure_ok.mp hshape
  rw [List.map_map] at hroles
  exact ⟨hroles, fun s hs => hproject s.shape (List.mem_map_of_mem hs)⟩

theorem create_ok {newId id projectId createdAt expiresAt}
    (h : create urls newId id projectId plan createdAt expiresAt = .ok i) :
    IntentOk urls i ∧ Unbound i ∧ i.intentRevision = 1
      ∧ ∃ n, i.slots.map (·.id) = (List.range' 0 n).map newId := by
  obtain ⟨_, hid, _, hproject, h⟩ := peel₂ h
  obtain ⟨_, hlifetime, ⟨_, slots⟩, hderived, h⟩ := peel₂ h
  cases h
  obtain ⟨_, h⟩ := later hderived
  obtain ⟨_, hbuilt, _, hset, h⟩ := peel₂ h
  cases h
  obtain ⟨hids, hslots⟩ := buildSlots_ok hbuilt
  have hpending : ∀ s ∈ slots, s.state = .pending ∧ s.receipt = none :=
    fun s hs => ⟨(hslots s hs).1, (hslots s hs).2.1⟩
  refine ⟨⟨ensure_ok.mp hid, ensure_ok.mp hproject, hlifetime, Int.one_pos, hset, ?_, ?_, ?_, ?_⟩,
    ⟨rfl, rfl, hpending⟩, rfl, _, hids⟩
  · intro b hb
    cases hb
  · exact fun _ => ⟨.inl rfl, fun s hs => ⟨(hpending s hs).2, .inl (hpending s hs).1⟩⟩
  · intro s hs
    obtain ⟨hstate, hreceipt, hrevision, hauthority⟩ := hslots s hs
    refine ⟨by rw [hrevision]; exact Int.one_pos, (validateSlotSet_ok hset).2 s hs, hauthority, ?_,
      ?_, ?_⟩
    · rw [hstate]; cases s.authority <;> rfl
    · intro r hr
      rw [hreceipt] at hr
      cases hr
    · intro _
      rw [hstate]
      rfl
  · intro s hs
    unfold IdentityMutationProofSlot.standsIn
    rw [(hpending s hs).1]
    rfl

/-! ## every operation keeps the checks -/

theorem validateSlotSet_map {projectId kind slots f} (hf : ∀ s, (f s).shape = s.shape) :
    validateSlotSet projectId kind (slots.map f) = validateSlotSet projectId kind slots := by
  unfold validateSlotSet
  rw [List.map_map]
  exact congrArg _ (List.map_congr_left (fun s _ => hf s))

namespace IntentOk

theorem roles_nodup (h : IntentOk urls i) : (i.slots.map (·.role)).Nodup := by
  rw [(validateSlotSet_ok h.slotSet).1]
  cases i.kind <;> decide

theorem slots_ne_nil (h : IntentOk urls i) : i.slots ≠ [] := by
  intro hnil
  have hroles := (validateSlotSet_ok h.slotSet).1
  rw [hnil] at hroles
  cases hk : i.kind <;> rw [hk] at hroles <;> cases hroles

theorem bound_of_issued (h : IntentOk urls i) (hissued : ∀ s ∈ i.slots, s.holds .issued = true) :
    i.browserBinding ≠ none := by
  obtain ⟨s, hs⟩ := List.exists_mem_of_ne_nil _ h.slots_ne_nil
  intro hunbound
  have hheld := hissued s hs
  unfold IdentityMutationProofSlot.holds at hheld
  rw [((h.unbound hunbound).2 s hs).1] at hheld
  cases hheld

theorem bound_advance (h : IntentOk urls i) (b : InteractionBrowserBinding)
    (hb : i.browserBinding = some b) : b.validate = .ok () ∧ 1 < i.intentRevision + 1 := by
  obtain ⟨hvalid, hrevision⟩ := h.bound b hb
  exact ⟨hvalid, by omega⟩

end IntentOk

/-- the parts of an intent and a slot that a receipt is compared with -/
structure SameOwner (i j : IdentityMutationIntent) (s o : IdentityMutationProofSlot) : Prop where
  intent : j.id = i.id
  project : j.projectId = i.projectId
  binding : j.browserBinding = i.browserBinding
  created : j.createdAt = i.createdAt
  expires : j.expiresAt = i.expiresAt
  slot : o.id = s.id
  role : o.role = s.role
  target : o.target = s.target

theorem receipt_transfer {r} (hr : i.validateReceiptForSlot r s = .ok ()) (h : SameOwner i j s o) :
    j.validateReceiptForSlot r o = .ok () := by
  obtain ⟨hid, hbinding, f, hevidence⟩ := validateReceiptForSlot_ok hr
  have hfits : ReceiptFits j o r := by
    refine ⟨?_, ?_, ?_, ?_, ?_, ?_, f.captured, ?_, f.lives, f.lifetime, ?_, ?_, ?_, ?_⟩
    · rw [h.project]; exact f.project
    · rw [h.intent]; exact f.intent
    · rw [h.slot]; exact f.slot
    · rw [h.role]; exact f.role
    · rw [h.binding]; exact f.binding
    · rw [h.role]; exact f.purpose
    · rw [h.created]; exact f.issued
    · rw [h.expires]; exact f.within
    · rw [h.target]; exact f.user
    · rw [h.target]; exact f.userRevision
    · rw [h.target]; exact f.userSecurityRevision
  simp only [validateReceiptForSlot, rejectNil, unit_bind, ensure_ok, h.target]
  exact ⟨hid, hbinding, hfits, hevidence⟩

theorem SlotOk.carried {p} (h : SlotOk urls i s) (hr : s.receipt = some r)
    (same : SameOwner i j s o) (hj : j.intentRevision = i.intentRevision + 1) (hp : p) :
    j.validateReceiptForSlot r.snapshot o = .ok ()
      ∧ r.snapshot.capturedIntentRevision < j.intentRevision ∧ p :=
  have hr := h.receipt r hr
  ⟨receipt_transfer hr.1 same, hj ▸ hr.2.1.trans (Int.lt_succ _), hp⟩

theorem SlotOk.advance (h : SlotOk urls i s) (slots : List IdentityMutationProofSlot) :
    SlotOk urls { i with slots := slots, intentRevision := i.intentRevision + 1 } s := by
  refine ⟨h.revision, h.project, h.authority, h.state, fun r hr => ?_, h.unproved⟩
  exact h.carried hr ⟨rfl, rfl, rfl, rfl, rfl, rfl, rfl, rfl⟩ rfl (h.receipt r hr).2.2

theorem holds_iff {status} :
    s.holds status = true ↔ ∃ r, s.receipt = some r ∧ r.status = status := by
  unfold IdentityMutationProofSlot.holds
  cases s.receipt with
  | none => exact ⟨fun h => (by cases h), fun ⟨_, h, _⟩ => (by cases h)⟩
  | some r =>
    constructor
    · intro h
      exact ⟨r, rfl, eq_of_beq h⟩
    · rintro ⟨_, h, hstatus⟩
      cases h
      exact beq_iff_eq.mpr hstatus

theorem SlotOk.issued (h : SlotOk urls i s) (hlive : i.status.isTerminal = false)
    (hr : s.receipt = some r) : r.status = .issued ∧ s.state = .proved := by
  have hstands := (h.receipt r hr).2.2
  cases hs : i.status <;> rw [hs] at hstands hlive <;> cases hlive
    <;> cases hrs : r.status <;> rw [hrs] at hstands
    <;> cases hst : s.state <;> rw [hst] at hstands <;> cases hstands
  all_goals exact ⟨rfl, rfl⟩

theorem ended_ok {status} (h : IntentOk urls i)
    (hstatus : status = .expired ∨ status = .cancelled) (hlive : i.status.isTerminal = false) :
    IntentOk urls (i.ended status) := by
  have hmem : ∀ s ∈ (i.ended status).slots,
      ∃ o ∈ i.slots, terminatedSlot o (o.slotRevision + 1) = s := fun s hs => List.mem_map.mp hs
  refine ⟨h.id, h.project, h.lifetime, h.revision.trans (Int.lt_succ _), ?_,
    h.bound_advance, ?_, ?_, ?_⟩
  · show validateSlotSet i.projectId i.kind (i.slots.map _) = .ok ()
    rw [validateSlotSet_map (f := fun s => terminatedSlot s (s.slotRevision + 1)) (fun _ => rfl)]
    exact h.slotSet
  · intro hnone
    refine ⟨.inr hstatus, fun s hs => ?_⟩
    obtain ⟨o, ho, rfl⟩ := hmem s hs
    refine ⟨?_, .inr rfl⟩
    show o.receipt.map expireReceipt = none
    rw [((h.unbound hnone).2 o ho).1]
    rfl
  · intro s hs
    obtain ⟨o, ho, rfl⟩ := hmem s hs
    have hok := h.slots o ho
    refine ⟨hok.revision.trans (Int.lt_succ _), hok.project, hok.authority, ?_, ?_, ?_⟩
    · show o.authority.admits .expired = true
      cases o.authority <;> rfl
    · intro r hr
      obtain ⟨q, hq, rfl⟩ := Option.map_eq_some_iff.mp hr
      have hexpired : expireReceipt q = { q with status := .expired } :=
        if_pos (hok.issued hlive hq).1
      rw [hexpired]
      refine hok.carried (r := q) hq ⟨rfl, rfl, rfl, rfl, rfl, rfl, rfl, rfl⟩ rfl ?_
      show IdentityProofReceiptStatus.expired.standsIn .expired status = true
      rcases hstatus with rfl | rfl <;> rfl
    · intro _
      show unprovedStandsIn .expired status = true
      rcases hstatus with rfl | rfl <;> rfl
  · intro s hs
    obtain ⟨o, _, rfl⟩ := hmem s hs
    show (terminatedSlot o _).standsIn status = true
    rcases hstatus with rfl | rfl <;> rfl

theorem bound_ok {b revision} (h : IntentOk urls i)
    (hi : Unbound i) (hb : b.validate = .ok ()) (hrevision : 1 < revision) :
    IntentOk urls { i with browserBinding := some b, intentRevision := revision } := by
  refine ⟨h.id, h.project, h.lifetime, by show 0 < revision; omega, h.slotSet, ?_, ?_, ?_, h.stands⟩
  · intro b' hb'
    cases hb'
    exact ⟨hb, hrevision⟩
  · intro hnone
    cases hnone
  · intro s hs
    have hok := h.slots s hs
    refine ⟨hok.revision, hok.project, hok.authority, hok.state, fun r hr => ?_, hok.unproved⟩
    -- no slot has a receipt yet, so nothing depends on the old binding
    rw [(hi.idle s hs).2] at hr
    cases hr

theorem updated_ok {role f} (h : IntentOk urls i)
    (hpending : i.status = .pendingProof) (hbound : i.browserBinding ≠ none)
    (hslot : i.slot role = .ok s) (hshape : ∀ o, (f o).shape = o.shape) (hf : SlotOk urls { i with
      slots := i.updateSlot role f, intentRevision := i.intentRevision + 1 } (f s))
    (hstands : (f s).state ≠ .expired) :
    IntentOk urls { i with
      slots := i.updateSlot role f, intentRevision := i.intentRevision + 1 } := by
  refine ⟨h.id, h.project, h.lifetime, h.revision.trans (Int.lt_succ _), ?_,
    h.bound_advance, fun hnone => absurd hnone hbound, ?_, ?_⟩
  · show validateSlotSet i.projectId i.kind (i.updateSlot role f) = .ok ()
    unfold updateSlot
    rw [validateSlotSet_map]
    · exact h.slotSet
    · intro o
      split
      · exact hshape o
      · rfl
  · intro o ho
    rcases (mem_updateSlot hslot).mp ho with ⟨ho, _⟩ | rfl
    · exact (h.slots o ho).advance _
    · exact hf
  · intro o ho
    rcases (mem_updateSlot hslot).mp ho with ⟨ho, _⟩ | rfl
    · exact h.stands o ho
    · show (f s).standsIn i.status = true
      rw [hpending]
      exact bne_iff_ne.mpr hstands

theorem moved_ok {role target}
    (h : IntentOk urls i) (hpending : i.status = .pendingProof) (hbound : i.browserBinding ≠ none)
    (hslot : i.slot role = .ok s) (hmove : SlotMove s.authority.identityKind s.state target) :
    IntentOk urls (i.withMove role s target) := by
  have hok := h.slots s (slot_ok hslot).1
  have hreceipt : s.receipt = none := by
    cases hr : s.receipt with
    | none => rfl
    | some r =>
      exact absurd (hok.issued (by rw [hpending]; rfl) hr).2 hmove.source.1
  refine updated_ok h hpending hbound hslot (fun _ => rfl) ?_ hmove.target_open.2
  refine ⟨hok.revision.trans (Int.lt_succ _), hok.project, hok.authority,
    hmove.admitted, fun r hr => ?_, fun _ => hmove.unproved i.status⟩
  have hr : s.receipt = some r := hr
  rw [hreceipt] at hr
  cases hr

theorem attached_ok {receipt} (h : IntentOk urls i)
    (ha : Attachable i now receipt s) : IntentOk urls (i.withProof receipt s) := by
  have hok := h.slots s (slot_ok ha.slot).1
  have hbound : i.browserBinding ≠ none := by
    obtain ⟨_, _, hfits, _⟩ := validateReceiptForSlot_ok ha.valid
    rw [← hfits.binding]
    exact Option.some_ne_none _
  refine updated_ok h ha.pending hbound ha.slot (fun _ => rfl) ?_ (fun e => by cases e)
  refine ⟨hok.revision.trans (Int.lt_succ _), hok.project, hok.authority, ?_,
    fun r hr => ?_, fun hnone => by cases hnone⟩
  · show s.authority.admits .proved = true
    cases s.authority <;> rfl
  · cases hr
    refine ⟨receipt_transfer ha.valid ⟨rfl, rfl, rfl, rfl, rfl, rfl, rfl, rfl⟩, ?_, ?_⟩
    · show receipt.capturedIntentRevision < i.intentRevision + 1
      rw [ha.captured]
      omega
    · show IdentityProofReceiptStatus.issued.standsIn .proved i.status = true
      rw [ha.pending]
      rfl

theorem readied_ok (h : IntentOk urls i)
    (hproved : ∀ s ∈ i.slots, s.state = .proved ∧ s.holds .issued = true) :
    IntentOk urls { i with intentRevision := i.intentRevision + 1, status := .ready } := by
  refine ⟨h.id, h.project, h.lifetime, h.revision.trans (Int.lt_succ _), h.slotSet,
    h.bound_advance,
    fun hnone => absurd hnone (h.bound_of_issued (fun s hs => (hproved s hs).2)), ?_, ?_⟩
  · intro s hs
    have hok := h.slots s hs
    obtain ⟨hstate, hholds⟩ := hproved s hs
    obtain ⟨_, hq, hissued⟩ := holds_iff.mp hholds
    refine ⟨hok.revision, hok.project, hok.authority, hok.state, fun r hr => ?_, fun hnone => ?_⟩
    · refine hok.carried hr ⟨rfl, rfl, rfl, rfl, rfl, rfl, rfl, rfl⟩ rfl ?_
      obtain rfl := Option.some.inj (hq.symm.trans hr)
      rw [hissued, hstate]
      rfl
    · rw [hq] at hnone
      cases hnone
  · intro s hs
    obtain ⟨hstate, hholds⟩ := hproved s hs
    show (s.state == .proved && s.holds .issued) = true
    rw [hstate, hholds]
    rfl

theorem completed_ok (h : IntentOk urls i) (hready : i.status = .ready)
    (hissued : ∀ s ∈ i.slots, s.holds .issued = true) : IntentOk urls i.consumed := by
  have hmem : ∀ s ∈ i.consumed.slots,
      ∃ o ∈ i.slots, consumedSlot o (o.slotRevision + 1) = s := fun s hs => List.mem_map.mp hs
  have hproved : ∀ o ∈ i.slots, o.state = .proved := by
    intro o ho
    obtain ⟨q, hq, _⟩ := holds_iff.mp (hissued o ho)
    exact ((h.slots o ho).issued (by rw [hready]; rfl) hq).2
  refine ⟨h.id, h.project, h.lifetime, h.revision.trans (Int.lt_succ _), ?_,
    h.bound_advance, fun hnone => absurd hnone (h.bound_of_issued hissued), ?_, ?_⟩
  · show validateSlotSet i.projectId i.kind (i.slots.map _) = .ok ()
    rw [validateSlotSet_map (f := fun s => consumedSlot s (s.slotRevision + 1)) (fun _ => rfl)]
    exact h.slotSet
  · intro s hs
    obtain ⟨o, ho, rfl⟩ := hmem s hs
    have hok := h.slots o ho
    obtain ⟨q, hq, _⟩ := holds_iff.mp (hissued o ho)
    refine ⟨hok.revision.trans (Int.lt_succ _), hok.project, hok.authority, hok.state,
      fun r hr => ?_, fun hnone => ?_⟩
    · obtain ⟨p, hp, rfl⟩ := Option.map_eq_some_iff.mp hr
      refine hok.carried (r := p) hp ⟨rfl, rfl, rfl, rfl, rfl, rfl, rfl, rfl⟩ rfl ?_
      show IdentityProofReceiptStatus.consumed.standsIn o.state .completed = true
      rw [hproved o ho]
      rfl
    · have hnone : o.receipt.map _ = none := hnone
      rw [hq] at hnone
      cases hnone
  · intro s hs
    obtain ⟨o, ho, rfl⟩ := hmem s hs
    obtain ⟨q, hq, _⟩ := holds_iff.mp (hissued o ho)
    have hholds : (consumedSlot o (o.slotRevision + 1)).holds .consumed = true := by
      refine holds_iff.mpr ⟨{ q with status := .consumed }, ?_, rfl⟩
      show o.receipt.map _ = _
      rw [hq]
      rfl
    show (o.state == .proved && (consumedSlot o (o.slotRevision + 1)).holds .consumed) = true
    rw [hproved o ho, hholds]
    rfl

/-- **Every operation keeps the checks, whether it succeeds or not.** -/
theorem IntentChange.ok (hc : IntentChange i op j a) (h : IntentOk urls i) : IntentOk urls j := by
  cases hc with
  | refused => exact h
  | idle => exact h
  | ended op status effect hstatus hlive => exact ended_ok h hstatus hlive
  | bound expected b now hb hi => exact bound_ok h hi hb (by have := h.revision; omega)
  | halfBound expected b now e hb hi hfull =>
    refine bound_ok h hi hb ?_
    unfold maxI64 at hfull
    omega
  | moved op role s target hop hpending hbound hslot hmove =>
    exact moved_ok h hpending hbound hslot hmove
  | attached expected now receipt s ha => exact attached_ok h ha
  | readied expected now hpending hproved => exact readied_ok h hproved
  | completed expected now hready hlive hissued => exact completed_ok h hready hissued

/-! ## every operation keeps the ids apart -/

def receiptIds (i : IdentityMutationIntent) : List Uuid :=
  i.slots.filterMap (fun s => s.receipt.map (·.snapshot.id))

/-- a receipt that an operation attached has an id the intent did not hold -/
def FreshReceipt (i : IdentityMutationIntent) : Op → Prop
  | .attachReceipt expected now receipt =>
    applied (.attachReceipt expected now receipt) i = true → receipt.id ∉ i.receiptIds
  | _ => True

theorem ids_map {f} (h : IntentIds i) (hid : ∀ s, (f s).id = s.id)
    (hreceipt : ∀ s, ∀ r ∈ (f s).receipt, ∃ q ∈ s.receipt, q.snapshot = r.snapshot) :
    (∀ s ∈ i.slots.map f, s.id ≠ 0) ∧ (i.slots.map f).Pairwise IdsDiffer := by
  constructor
  · intro s hs
    obtain ⟨o, ho, rfl⟩ := List.mem_map.mp hs
    rw [hid]
    exact h.slots o ho
  · rw [List.pairwise_map]
    refine h.differ.imp (fun {s o} hdiffer => ⟨?_, ?_⟩)
    · rw [hid, hid]
      exact hdiffer.1
    · intro r hr q hq
      obtain ⟨r', hr', hsame⟩ := hreceipt s r hr
      obtain ⟨q', hq', hsame'⟩ := hreceipt o q hq
      rw [← hsame, ← hsame']
      exact hdiffer.2 r' hr' q' hq'

theorem attached_ids {receipt} (h : IntentIds i)
    (ha : Attachable i now receipt s) (hfresh : receipt.id ∉ i.receiptIds) :
    IntentIds (i.withProof receipt s) := by
  have huniq := (slot_ok ha.slot).2.2
  -- the id of the new receipt differs from that of every receipt already there
  have hnew : ∀ o ∈ i.slots, ∀ r ∈ o.receipt, r.snapshot.id ≠ receipt.id := by
    intro o ho r hr e
    exact hfresh (e ▸ List.mem_filterMap.mpr ⟨o, ho, by rw [hr]; rfl⟩)
  have hmap : ∀ o, (if o.role = receipt.role
      then provedSlot receipt (s.slotRevision + 1) o else o).id = o.id := by
    intro o
    split <;> rfl
  refine ⟨fun o ho => ?_, ?_⟩
  · obtain ⟨q, hq, rfl⟩ := List.mem_map.mp ho
    rw [hmap]
    exact h.slots q hq
  · show (i.slots.map _).Pairwise IdsDiffer
    rw [List.pairwise_map]
    refine h.differ.imp_of_mem (fun {a b} ha' hb' hdiffer => ⟨?_, ?_⟩)
    · rw [hmap, hmap]
      exact hdiffer.1
    · intro r hr q hq
      split at hr
      · rename_i hrole
        cases hr
        split at hq
        · rename_i hrole'
          -- two slots of the role would be one
          exact absurd (congrArg _ ((huniq a ha' hrole).trans (huniq b hb' hrole').symm)) hdiffer.1
        · exact (hnew b hb' q hq).symm
      · split at hq
        · cases hq
          exact hnew a ha' r hr
        · exact hdiffer.2 r hr q hq

theorem IntentChange.ids (hc : IntentChange i op j a) (h : IntentIds i)
    (hfresh : ∀ expected now receipt, op = .attachReceipt expected now receipt →
      a = .ok (some .applied) → receipt.id ∉ i.receiptIds) : IntentIds j := by
  cases hc with
  | refused => exact h
  | idle => exact h
  | ended op status effect hstatus hlive =>
    obtain ⟨hids, hdiffer⟩ := ids_map (f := fun s => terminatedSlot s (s.slotRevision + 1)) h
      (fun _ => rfl) (fun s r hr => by
        obtain ⟨q, hq, rfl⟩ := Option.map_eq_some_iff.mp hr
        refine ⟨q, hq, ?_⟩
        unfold expireReceipt
        split <;> rfl)
    exact ⟨hids, hdiffer⟩
  | bound expected b now hb hi => exact ⟨h.slots, h.differ⟩
  | halfBound expected b now e hb hi hfull => exact ⟨h.slots, h.differ⟩
  | moved op role s target hop hpending hbound hslot hmove =>
    obtain ⟨hids, hdiffer⟩ := ids_map (f := fun o => if o.role = role then
      { o with state := target, slotRevision := s.slotRevision + 1 } else o) h
      (fun _ => by split <;> rfl) (fun _ r hr => ⟨r, by split at hr <;> exact hr, rfl⟩)
    exact ⟨hids, hdiffer⟩
  | attached expected now receipt s ha =>
    exact attached_ids h ha (hfresh expected now receipt rfl rfl)
  | readied expected now hpending hproved => exact ⟨h.slots, h.differ⟩
  | completed expected now hready hlive hissued =>
    obtain ⟨hids, hdiffer⟩ := ids_map (f := fun s => consumedSlot s (s.slotRevision + 1)) h
      (fun _ => rfl) (fun s r hr => by
        obtain ⟨q, hq, rfl⟩ := Option.map_eq_some_iff.mp hr
        exact ⟨q, hq, rfl⟩)
    exact ⟨hids, hdiffer⟩

theorem create_ids {newId id projectId createdAt expiresAt}
    (h : create urls newId id projectId plan createdAt expiresAt = .ok i) (hnil : ∀ n, newId n ≠ 0)
    (hinj : Function.Injective newId) : IntentIds i := by
  obtain ⟨_, hunbound, _, n, hids⟩ := create_ok h
  refine ⟨fun s hs => ?_, ?_⟩
  · have hmem : s.id ∈ (List.range' 0 n).map newId := hids ▸ List.mem_map_of_mem hs
    obtain ⟨k, _, hk⟩ := List.mem_map.mp hmem
    rw [← hk]
    exact hnil k
  · have hnodup : (i.slots.map (·.id)).Nodup := by
      have hrange : (List.range' 0 n).Nodup := List.nodup_range'
      rw [hids]
      exact hrange.map hinj
    refine (List.pairwise_map.mp hnodup).imp_of_mem (fun {s o} hs _ hne => ⟨hne, ?_⟩)
    intro r hr
    rw [(hunbound.idle s hs).2] at hr
    cases hr

/-- **The record of a live intent restores to it.**  The intent was created, with distinct slot ids,
or restored; any operations followed, of which the successful attachments brought receipt ids the
intent did not hold. -/
theorem restore_round_trip
    (hstart : (∃ newId id projectId plan createdAt expiresAt,
        (∀ n, newId n ≠ 0) ∧ Function.Injective newId
          ∧ create urls newId id projectId plan createdAt expiresAt = .ok i)
      ∨ ∃ r, restore urls r = .ok i)
    (ops : List Op) (hfresh : Machine.Along step FreshReceipt i ops) :
    restore urls (i.run ops).record = .ok (i.run ops) := by
  have hi : IntentOk urls i ∧ IntentIds i := by
    rcases hstart with ⟨newId, id, projectId, plan, createdAt, expiresAt, hnil, hinj, h⟩ | ⟨r, h⟩
    · exact ⟨(create_ok h).1, create_ids h hnil hinj⟩
    · exact (restore_ok_iff.mp h).2
  have hrun : IntentOk urls (i.run ops) ∧ IntentIds (i.run ops) :=
    Machine.run_inv_along step (I := fun j => IntentOk urls j ∧ IntentIds j)
      (fun j op hj hop => ⟨(answered_change op j).ok hj.1, (answered_change op j).ids hj.2
        (fun expected now receipt hattach ha => by
          subst hattach
          exact hop (by unfold applied; rw [ha]))⟩)
      ops hi hfresh
  exact restore_ok_iff.mpr ⟨fromRecord_record _, hrun⟩

theorem linked_intent_restores :
    (intent.run ops).status = .completed
      ∧ restore Demo.urls (intent.run ops).record = .ok (intent.run ops) :=
  ⟨by decide +kernel,
    restore_round_trip
      (.inl ⟨newId, 10, 1, .link owner .email authority authority, 0,
        minutes 10, fun n => Nat.succ_ne_zero (n + 19), fun _ _ h => Nat.add_right_cancel h, rfl⟩)
      ops
      ⟨trivial, trivial, trivial, trivial, trivial, fun _ => by decide +kernel,
        fun _ => by decide +kernel, trivial, trivial, trivial⟩⟩

end IdentityMutationIntent

end OwlAuth
