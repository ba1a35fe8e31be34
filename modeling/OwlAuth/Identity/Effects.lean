import OwlAuth.Base.Fence
import OwlAuth.Identity.History

/-!
# When an operation has an effect

An operation has an effect if it answers `Applied` or `Expired`.  It then came with the revision the
intent had, and raised it by one; it answers `Applied` before the confirmation deadline only.

* `Op.now`, `Op.expectedRevision`  the clock and the revision an operation comes with;
* `answer_effective`  what an effect says of the intent it was answered by;
* `le_deadline_iff`, `Keeps`  the deadline, and why it never moves back;
* `intent_deadline_kept`  the deadline over a run, and what holds once it has passed;
* `one_effect_per_revision`  commands that expect one revision have one effect at most.
-/

namespace OwlAuth

open Fallible (ensure require bind_ok peel₂ peel₃ later later₂ later₃ ensure_ok require_ok)

variable {expected : Int} {next : IdentityMutationIntent} {effect : IdentityMutationEffect}
  {t : Instant}

namespace IdentityMutationIntent

open IdentityMutationIntent.Demo Machine

variable {urls : UrlLibrary} {i j : IdentityMutationIntent} {op : Op} {a : Answer}

def Op.now : Op → Instant
  | bindBrowser _ _ now => now
  | startProvider _ _ now => now
  | claimProviderCallback _ _ now => now
  | failProviderExchange _ _ now => now
  | beginEmail _ _ now => now
  | markEmailChallengePending _ _ now => now
  | replaceEmailChallenge _ _ now => now
  | attachReceipt _ now _ => now
  | confirmReady _ now => now
  | complete _ now => now
  | cancel _ now => now
  | expire now => now

def Op.expectedRevision : Op → Option Int
  | bindBrowser expected _ _ => some expected
  | startProvider _ expected _ => some expected
  | claimProviderCallback _ expected _ => some expected
  | failProviderExchange _ expected _ => some expected
  | beginEmail _ expected _ => some expected
  | markEmailChallengePending _ expected _ => some expected
  | replaceEmailChallenge _ expected _ => some expected
  | attachReceipt expected _ _ => some expected
  | confirmReady expected _ => some expected
  | complete expected _ => some expected
  | cancel expected _ => some expected
  | expire _ => none

/-! ## effects -/

structure Effective (i : IdentityMutationIntent) (expected : Int) (now : Instant)
    (next : IdentityMutationIntent) (effect : IdentityMutationEffect) : Prop where
  revision : i.intentRevision = expected
  live : effect = .applied → now < i.effectiveConfirmationDeadline
  raised : next.intentRevision = i.intentRevision + 1

theorem ensurePending_live {now} (h : i.ensurePending expected now = .ok none) :
    now < i.effectiveConfirmationDeadline := by
  obtain ⟨_, h⟩ := later h
  split at h
  · obtain ⟨_, h⟩ := later h
    cases h
  · rename_i hdeadline
    exact Int.not_le.mp hdeadline

theorem effective_of_expired {now expired} (h : i.ensurePending expected now = .ok (some expired)) :
    Effective i expected now expired .expired := by
  obtain ⟨_, hrevision, hnone | hsome⟩ := ensurePending_ok h
  · cases hnone
  · obtain rfl := Option.some.inj hsome
    exact ⟨hrevision, (fun h => by cases h), rfl⟩

theorem effective_of_terminalize {now status}
    (hrevision : i.intentRevision = expected) (h : i.terminalize status = .ok next)
    (hlive : effect = .applied → now < i.effectiveConfirmationDeadline) :
    Effective i expected now next effect := by
  obtain ⟨_, _, rfl⟩ := terminalize_ok h
  exact ⟨hrevision, hlive, rfl⟩

theorem bindBrowser_effective {binding now}
    (h : (i.bindBrowser expected binding now).2 = .ok effect) :
    Effective i expected now (i.bindBrowser expected binding now).1 effect := by
  unfold bindBrowser at h ⊢
  cases hadmits : i.admitsBinding expected binding now with
  | error e => rw [hadmits] at h; cases h
  | ok o =>
    rw [hadmits] at h
    obtain ⟨_, _, p, hp, hadmits⟩ := peel₂ hadmits
    cases p with
    | some expired =>
      cases hadmits
      cases h
      exact effective_of_expired hp
    | none =>
      obtain ⟨_, hadmits⟩ := later hadmits
      cases hadmits
      cases hnext : nextRevision i.intentRevision with
      | error e =>
        rw [hnext] at h
        cases h
      | ok next =>
        exact ⟨(ensurePending_ok hp).2.1, fun _ => ensurePending_live hp, (nextRevision_ok hnext).1⟩

theorem transitionSlot_effective {role now transition}
    (h : i.transitionSlot role expected now transition = .ok (next, effect)) :
    Effective i expected now next effect := by
  obtain ⟨o, ho, h⟩ := bind_ok.mp h
  cases o with
  | some expired =>
    cases h
    exact effective_of_expired ho
  | none =>
    obtain ⟨_, _, _, hrevision, _, _, h⟩ := peel₃ h
    obtain ⟨_, _, h⟩ := later₂ h
    cases h
    exact ⟨(ensurePending_ok ho).2.1, fun _ => ensurePending_live ho, (nextRevision_ok hrevision).1⟩

theorem attachReceipt_effective {now receipt}
    (h : i.attachReceipt expected now receipt = .ok (next, effect)) :
    Effective i expected now next effect := by
  obtain ⟨_, _, _, h⟩ := later₃ h
  obtain ⟨_, _, _, _, o, ho, h⟩ := peel₃ h
  cases o with
  | some expired =>
    cases h
    exact effective_of_expired ho
  | none =>
    obtain ⟨_, hrevision, _, _, h⟩ := peel₂ h
    cases h
    exact ⟨(ensurePending_ok ho).2.1, fun _ => ensurePending_live ho, (nextRevision_ok hrevision).1⟩

theorem confirmReady_effective {now} (h : i.confirmReady expected now = .ok (next, effect)) :
    Effective i expected now next effect := by
  obtain ⟨o, ho, h⟩ := bind_ok.mp h
  cases o with
  | some expired =>
    cases h
    exact effective_of_expired ho
  | none =>
    obtain ⟨_, _, _, hrevision, h⟩ := peel₂ h
    cases h
    exact ⟨(ensurePending_ok ho).2.1, fun _ => ensurePending_live ho, (nextRevision_ok hrevision).1⟩

theorem complete_effective {now} (h : i.complete expected now = .ok (next, effect)) :
    Effective i expected now next effect := by
  obtain ⟨_, hstatus, h⟩ := bind_ok.mp h
  have hrevision := (ensure_ok.mp hstatus).2
  split at h
  · obtain ⟨expired, hexpired, h⟩ := bind_ok.mp h
    cases h
    exact effective_of_terminalize hrevision hexpired fun h => by cases h
  · rename_i hdeadline
    obtain ⟨_, _, revision, hnext, _, _, h⟩ := peel₃ h
    cases h
    exact ⟨hrevision, fun _ => Int.not_le.mp hdeadline, (nextRevision_ok hnext).1⟩

theorem cancel_effective {now} (h : i.cancel expected now = .ok (next, effect)) :
    Effective i expected now next effect := by
  obtain ⟨_, hstatus, h⟩ := bind_ok.mp h
  have hrevision := (ensure_ok.mp hstatus).2
  split at h
  · obtain ⟨expired, hexpired, h⟩ := bind_ok.mp h
    cases h
    exact effective_of_terminalize hrevision hexpired fun h => by cases h
  · rename_i hdeadline
    obtain ⟨cancelled, hcancelled, h⟩ := bind_ok.mp h
    cases h
    exact effective_of_terminalize hrevision hcancelled fun _ => Int.not_le.mp hdeadline

theorem expire_effective {now} (h : (i.swept (i.expire now)).2 = .ok (some effect)) :
    Effective i i.intentRevision now (i.swept (i.expire now)).1 effect := by
  cases hexpire : i.expire now with
  | error e => rw [hexpire] at h; cases h
  | ok result =>
    rw [hexpire] at h
    unfold expire at hexpire
    split at hexpire
    · cases hexpire
      cases h
    · obtain ⟨_, hexpired, hexpire⟩ := bind_ok.mp hexpire
      cases hexpire
      cases h
      exact effective_of_terminalize rfl hexpired fun h => by cases h

theorem settled_effective {body now} (h : (i.settled body).2 = .ok (some effect))
    (hbody : ∀ next, body = .ok (next, effect) → Effective i expected now next effect) :
    Effective i expected now (i.settled body).1 effect := by
  cases body with
  | error e => cases h
  | ok result =>
    cases h
    exact hbody result.1 rfl

/-- **An effect** was answered to the revision the intent had, raised it, and was applied in time. -/
theorem answer_effective (h : answer op i = .ok (some effect)) :
    Effective i (op.expectedRevision.getD i.intentRevision) op.now (step op i) effect := by
  cases op with
  | bindBrowser expected binding now =>
    have hanswer : (i.bindBrowser expected binding now).2 = .ok effect := by
      change (i.bindBrowser expected binding now).2.map some = _ at h
      cases hb : (i.bindBrowser expected binding now).2 with
      | error e => rw [hb] at h; cases h
      | ok effect' => rw [hb] at h; cases h; rfl
    exact bindBrowser_effective hanswer
  | startProvider | claimProviderCallback | failProviderExchange | beginEmail
    | markEmailChallengePending | replaceEmailChallenge =>
    exact settled_effective h fun _ hbody => transitionSlot_effective hbody
  | attachReceipt => exact settled_effective h fun _ hbody => attachReceipt_effective hbody
  | confirmReady => exact settled_effective h fun _ hbody => confirmReady_effective hbody
  | complete => exact settled_effective h fun _ hbody => complete_effective hbody
  | cancel => exact settled_effective h fun _ hbody => cancel_effective hbody
  | expire now => exact expire_effective h

theorem IntentChange.quiet (h : IntentChange i op j a) (ha : ∀ effect, a ≠ .ok (some effect)) :
    j.intentRevision = i.intentRevision ∧ j.slots = i.slots := by
  cases h with
  | refused => exact ⟨rfl, rfl⟩
  | idle => exact ⟨rfl, rfl⟩
  | halfBound => exact ⟨rfl, rfl⟩
  | ended _ _ effect => exact absurd rfl (ha effect)
  | bound => exact absurd rfl (ha .applied)
  | moved => exact absurd rfl (ha .applied)
  | attached => exact absurd rfl (ha .applied)
  | readied => exact absurd rfl (ha .applied)
  | completed => exact absurd rfl (ha .applied)

/-! ## the deadline -/

theorem le_foldl_min (l : List Instant) : ∀ a, t ≤ l.foldl min a ↔ t ≤ a ∧ ∀ x ∈ l, t ≤ x := by
  induction l with
  | nil => intro a; simp
  | cons x l ih =>
    intro a
    rw [List.foldl_cons, ih, le_min_iff, List.forall_mem_cons, and_assoc]

theorem le_deadline_iff : t ≤ i.effectiveConfirmationDeadline
    ↔ t ≤ i.expiresAt ∧ ∀ s ∈ i.slots, ∀ r ∈ s.receipt, t ≤ r.snapshot.expiresAt := by
  unfold effectiveConfirmationDeadline
  rw [le_foldl_min]
  refine and_congr Iff.rfl ⟨fun h s hs r hr => h _ ?_, fun h x hx => ?_⟩
  · exact List.mem_filterMap.mpr ⟨s, hs, by rw [hr]; rfl⟩
  · obtain ⟨s, hs, hx⟩ := List.mem_filterMap.mp hx
    obtain ⟨r, hr, rfl⟩ := Option.map_eq_some_iff.mp hx
    exact h s hs r hr

/-- whatever expires in `i` still does in `j` -/
structure Keeps (i j : IdentityMutationIntent) : Prop where
  expiresAt : j.expiresAt = i.expiresAt
  receipts : ∀ s ∈ i.slots, ∀ r ∈ s.receipt, ∃ o ∈ j.slots, ∃ q ∈ o.receipt, q.snapshot = r.snapshot

theorem Keeps.refl (i : IdentityMutationIntent) : Keeps i i :=
  ⟨rfl, fun s hs r hr => ⟨s, hs, r, hr, rfl⟩⟩

theorem Keeps.trans {k} (h : Keeps i j) (h' : Keeps j k) : Keeps i k := by
  refine ⟨h'.expiresAt.trans h.expiresAt, fun s hs r hr => ?_⟩
  obtain ⟨o, ho, q, hq, hsnapshot⟩ := h.receipts s hs r hr
  obtain ⟨o', ho', q', hq', hsnapshot'⟩ := h'.receipts o ho q hq
  exact ⟨o', ho', q', hq', hsnapshot'.trans hsnapshot⟩

theorem Keeps.deadline (h : Keeps i j) :
    j.effectiveConfirmationDeadline ≤ i.effectiveConfirmationDeadline := by
  obtain ⟨hexpires, hreceipts⟩ := le_deadline_iff.mp (le_refl j.effectiveConfirmationDeadline)
  refine le_deadline_iff.mpr ⟨h.expiresAt ▸ hexpires, fun s hs r hr => ?_⟩
  obtain ⟨o, ho, q, hq, hsnapshot⟩ := h.receipts s hs r hr
  exact hsnapshot ▸ hreceipts o ho q hq

theorem keeps_of_map {f} (hexpires : j.expiresAt = i.expiresAt) (hslots : j.slots = i.slots.map f)
    (hf : ∀ s ∈ i.slots, ∀ r ∈ s.receipt, ∃ q ∈ (f s).receipt, q.snapshot = r.snapshot) :
    Keeps i j := by
  refine ⟨hexpires, fun s hs r hr => ?_⟩
  obtain ⟨q, hq, hsnapshot⟩ := hf s hs r hr
  exact ⟨f s, hslots ▸ List.mem_map_of_mem hs, q, hq, hsnapshot⟩

theorem IntentChange.keeps (h : IntentChange i op j a) : Keeps i j := by
  cases h with
  | refused => exact Keeps.refl i
  | idle => exact Keeps.refl i
  | ended =>
    refine keeps_of_map rfl rfl fun s _ r hr => ⟨expireReceipt r, ?_, ?_⟩
    · exact Option.mem_map_of_mem expireReceipt hr
    · unfold expireReceipt
      split <;> rfl
  | bound => exact ⟨rfl, (Keeps.refl i).receipts⟩
  | halfBound => exact ⟨rfl, (Keeps.refl i).receipts⟩
  | moved =>
    refine keeps_of_map rfl rfl fun s _ r hr => ⟨r, ?_, rfl⟩
    split <;> exact hr
  | attached expected now receipt s ha =>
    refine keeps_of_map rfl rfl fun o ho r hr => ⟨r, ?_, rfl⟩
    split
    · -- the slot that is proved held no receipt
      rename_i hrole
      obtain rfl := (slot_ok ha.slot).2.2 o ho hrole
      rw [ha.fresh] at hr
      cases hr
    · exact hr
  | readied => exact ⟨rfl, (Keeps.refl i).receipts⟩
  | completed =>
    refine keeps_of_map rfl rfl fun s _ r hr => ⟨{ r with status := .consumed }, ?_, rfl⟩
    exact Option.mem_map_of_mem _ hr

theorem run_keeps (i : IdentityMutationIntent) (ops : List Op) : Keeps i (i.run ops) :=
  run_rel step (I := fun _ => True) Keeps.refl (fun _ _ _ h h' => h.trans h')
    (fun _ _ _ => trivial) (fun j op _ => (answered_change op j).keeps) ops trivial

theorem IntentOk.closed (h : IntentOk urls i) (hi : i.status = .expired ∨ i.status = .cancelled)
    {s} (hs : s ∈ i.slots) :
    s.state = .expired ∧ ∀ r ∈ s.receipt, r.status ≠ .issued ∧ r.status ≠ .consumed := by
  have hstands := h.stands s hs
  have hstate : s.state = .expired := by
    obtain hstatus | hstatus := hi <;> rw [hstatus] at hstands <;> exact beq_iff_eq.mp hstands
  refine ⟨hstate, fun r hr => ?_⟩
  have hreceipt := ((h.slots s hs).receipt r hr).2.2
  rw [hstate] at hreceipt
  -- next to an expired slot only an expired receipt stands
  constructor <;> intro hr' <;> rw [hr'] at hreceipt <;> obtain hstatus | hstatus := hi <;>
    rw [hstatus] at hreceipt <;> cases hreceipt

inductive Started (urls : UrlLibrary) (i : IdentityMutationIntent) : Prop
  | created {newId : Nat → Uuid} {id projectId : Uuid} {plan : IdentityMutationPlan}
      {createdAt expiresAt : Instant}
      (h : create urls newId id projectId plan createdAt expiresAt = .ok i) : Started urls i
  | restored {r : RestoredIdentityMutationIntent} (h : restore urls r = .ok i) : Started urls i

theorem Started.ok (h : Started urls i) : IntentOk urls i := by
  cases h with
  | created h => exact (create_ok h).1
  | restored h => exact (restore_ok_iff.mp h).2.1

/-- **The confirmation deadline over a run.**  `before` leads to the state that is spoken of, `later`
is what happens after it. -/
theorem intent_deadline_kept (hi : Started urls i) (before later : List Op) :
    (i.run (before ++ later)).effectiveConfirmationDeadline
        ≤ (i.run before).effectiveConfirmationDeadline
      ∧ (i.run before).effectiveConfirmationDeadline ≤ (i.run before).expiresAt
      ∧ (i.run before).expiresAt = i.expiresAt
      ∧ (∀ mid op post, later = mid ++ op :: post →
          (i.run before).effectiveConfirmationDeadline ≤ op.now →
          answer op (i.run (before ++ mid)) ≠ .ok (some .applied))
      ∧ ((i.run before).status = .expired ∨ (i.run before).status = .cancelled →
          (∀ s ∈ (i.run before).slots, s.state = .expired
            ∧ ∀ r ∈ s.receipt, r.status ≠ .issued ∧ r.status ≠ .consumed)
          ∧ i.run (before ++ later) = i.run before) := by
  have hcut : ∀ rest, i.run (before ++ rest) = (i.run before).run rest :=
    Machine.run_append step i before
  refine ⟨?_, (le_deadline_iff.mp (le_refl _)).1, (run_keeps i before).expiresAt, ?_, ?_⟩
  · rw [hcut]
    exact (run_keeps (i.run before) later).deadline
  · intro mid op post _ hlate happlied
    rw [hcut] at happlied
    have hlive := (answer_effective happlied).live rfl
    have hdeadline := (run_keeps (i.run before) mid).deadline
    exact absurd (le_trans hdeadline hlate) (not_le_of_gt hlive)
  · intro hended
    have hok : IntentOk urls (i.run before) :=
      run_inv step (fun j op h => (answered_change op j).ok h) before hi.ok
    refine ⟨fun s hs => hok.closed hended hs, ?_⟩
    rw [hcut]
    refine run_terminal ?_ later
    obtain hstatus | hstatus := hended <;> rw [hstatus] <;> rfl

theorem cancelled_intent_deadline :
    (intent.run [.cancel 1 0]).status = .cancelled
      ∧ intent.run ([.cancel 1 0] ++ ops) = intent.run [.cancel 1 0]
      ∧ (intent.run [.cancel 1 0]).effectiveConfirmationDeadline ≤ minutes 10 := by
  have hcreate : create Demo.urls newId 10 1
      (.link owner .email authority authority) 0 (minutes 10)
        = .ok intent := rfl
  have hcancelled : (intent.run [.cancel 1 0]).status = .cancelled := by decide +kernel
  obtain ⟨_, hexpires, hsame, _, hended⟩ :=
    intent_deadline_kept (.created hcreate) [.cancel 1 0] ops
  exact ⟨hcancelled, (hended (.inr hcancelled)).2, le_of_le_of_eq hexpires hsame⟩

/-! ## one revision, one effect -/

def effectsOf : Answer → List IdentityMutationEffect
  | .ok (some effect) => [effect]
  | _ => []

def effectLog (i : IdentityMutationIntent) (ops : List Op) : List IdentityMutationEffect :=
  trace step (fun op j => effectsOf (answer op j)) i ops

theorem mem_effectsOf (h : effect ∈ effectsOf a) : a = .ok (some effect) := by
  unfold effectsOf at h
  split at h
  · rw [List.mem_singleton.mp h]
  · cases h

theorem effectsOf_nil (h : effectsOf a = []) (effect : IdentityMutationEffect) :
    a ≠ .ok (some effect) := by
  rintro rfl
  cases h

theorem length_effectsOf (a : Answer) : (effectsOf a).length ≤ 1 := by
  unfold effectsOf
  split
  · exact Nat.le_refl 1
  · exact Nat.zero_le 1

theorem step_revision (op : Op) (i : IdentityMutationIntent) :
    (step op i).intentRevision = i.intentRevision + (effectsOf (answer op i)).length := by
  cases h : effectsOf (answer op i) with
  | nil =>
    rw [((answered_change op i).quiet (effectsOf_nil h)).1]
    exact (Int.add_zero _).symm
  | cons effect rest =>
    have hmem : effect ∈ effectsOf (answer op i) := h ▸ List.mem_cons_self
    have hlength : (effect :: rest).length ≤ 1 := h ▸ length_effectsOf _
    rw [(answer_effective (mem_effectsOf hmem)).raised]
    rw [List.length_cons] at hlength ⊢
    omega

theorem run_revision (ops : List Op) : ∀ i : IdentityMutationIntent,
    (i.run ops).intentRevision = i.intentRevision + (effectLog i ops).length := by
  induction ops with
  | nil => intro i; exact (Int.add_zero _).symm
  | cons op ops ih =>
    intro i
    have hrest : ((step op i).run ops).intentRevision
        = (step op i).intentRevision + (effectLog (step op i) ops).length := ih (step op i)
    have hlog : (effectLog i (op :: ops)).length
        = (effectsOf (answer op i)).length + (effectLog (step op i) ops).length :=
      List.length_append
    show ((step op i).run ops).intentRevision = _
    rw [hrest, hlog, step_revision]
    omega

def SlotsRise (i j : IdentityMutationIntent) : Prop :=
  List.Forall₂ (fun s o => o.id = s.id ∧ s.slotRevision ≤ o.slotRevision) i.slots j.slots

theorem SlotsRise.refl (i : IdentityMutationIntent) : SlotsRise i i :=
  List.forall₂_same.mpr fun _ _ => ⟨rfl, Int.le_refl _⟩

theorem slotsRise_of_map {f} (hslots : j.slots = i.slots.map f)
    (hf : ∀ s ∈ i.slots, (f s).id = s.id ∧ s.slotRevision ≤ (f s).slotRevision) :
    SlotsRise i j := by
  unfold SlotsRise
  rw [hslots, List.forall₂_map_right_iff]
  exact List.forall₂_same.mpr hf

theorem IntentChange.slotsRise (h : IntentChange i op j a) : SlotsRise i j := by
  -- the slot of a role is the only one that is written
  have hone : ∀ {role : IdentityMutationSlotRole} {s : IdentityMutationProofSlot}
      {f : IdentityMutationProofSlot → IdentityMutationProofSlot}, i.slot role = .ok s →
      (f s).id = s.id → s.slotRevision ≤ (f s).slotRevision → ∀ o ∈ i.slots,
      (if o.role = role then f o else o).id = o.id
        ∧ o.slotRevision ≤ (if o.role = role then f o else o).slotRevision := by
    intro role s f hslot hid hrevision o ho
    split
    · rename_i hrole
      obtain rfl := (slot_ok hslot).2.2 o ho hrole
      exact ⟨hid, hrevision⟩
    · exact ⟨rfl, Int.le_refl _⟩
  have hnext : ∀ revision : Int, revision ≤ revision + 1 := fun _ => by omega
  cases h with
  | refused => exact SlotsRise.refl i
  | idle => exact SlotsRise.refl i
  | ended => exact slotsRise_of_map rfl fun s _ => ⟨rfl, hnext s.slotRevision⟩
  | bound => exact SlotsRise.refl i
  | halfBound => exact SlotsRise.refl i
  | moved _ _ s _ _ _ _ hslot =>
    exact slotsRise_of_map rfl (hone hslot rfl (hnext s.slotRevision))
  | attached _ _ _ s ha => exact slotsRise_of_map rfl (hone ha.slot rfl (hnext s.slotRevision))
  | readied => exact SlotsRise.refl i
  | completed => exact slotsRise_of_map rfl fun s _ => ⟨rfl, hnext s.slotRevision⟩

theorem step_fenced (op : Op) (i : IdentityMutationIntent) :
    Fence.Fenced intentRevision (fun j => j.slots.map (·.slotRevision)) i (step op i) := by
  have hrevision := step_revision op i
  refine ⟨by omega, fun hsame => ?_⟩
  have hnil : effectsOf (answer op i) = [] := List.length_eq_zero_iff.mp (by omega)
  show (step op i).slots.map _ = _
  rw [((answered_change op i).quiet (effectsOf_nil hnil)).2]

theorem run_fenced (i : IdentityMutationIntent) (ops : List Op) :
    Fence.Fenced intentRevision (fun j => j.slots.map (·.slotRevision)) i (i.run ops) :=
  run_rel step (I := fun _ => True) Fence.Fenced.refl (fun _ _ _ h h' => h.trans h')
    (fun _ _ _ => trivial) (fun j op _ => step_fenced op j) ops trivial

/-- **One revision, one effect.**  Of the commands that expect one revision of an intent, in
whatever order they come, one at most has an effect. -/
theorem one_effect_per_revision (i : IdentityMutationIntent) (expected : Int) (ops : List Op)
    (hops : ∀ op ∈ ops, op.expectedRevision = some expected) :
    (effectLog i ops).length ≤ 1
      ∧ (i.run ops).intentRevision = i.intentRevision + (effectLog i ops).length
      ∧ ∀ before op after, ops = before ++ op :: after →
        ((step op (i.run before)).intentRevision
            = (i.run before).intentRevision + (effectsOf (answer op (i.run before))).length)
          ∧ SlotsRise (i.run before) (step op (i.run before))
          ∧ Fence.Fenced intentRevision (fun j => j.slots.map (·.slotRevision))
              (i.run before) (step op (i.run before)) := by
  refine ⟨?_, run_revision ops i, ?_⟩
  · refine trace_le_one step _ (fun op j => length_effectsOf (answer op j)) ?_
    intro before op mid op' after hsplit effect heffect effect' heffect'
    have hexpected : ∀ o, o ∈ ops → ∀ {k : IdentityMutationIntent} {e : IdentityMutationEffect},
        e ∈ effectsOf (answer o k) → k.intentRevision = expected := by
      intro o ho k e he
      have hrevision := (answer_effective (mem_effectsOf he)).revision
      rwa [hops o ho, Option.getD_some] at hrevision
    have hfirst := hexpected op (by rw [hsplit]; simp) heffect
    have hsecond := hexpected op' (by rw [hsplit]; simp) heffect'
    -- the first effect raised the revision, which never goes back
    have hraised := (answer_effective (mem_effectsOf heffect)).raised
    have hrun : Machine.run step i (before ++ op :: mid)
        = (step op (Machine.run step i before)).run mid := Machine.run_append step i before _
    have hlater : (step op (Machine.run step i before)).intentRevision
        ≤ ((step op (Machine.run step i before)).run mid).intentRevision :=
      (run_fenced (step op (Machine.run step i before)) mid).1
    rw [hrun] at hsecond
    omega
  · intro before op after _
    exact ⟨step_revision op _, (answered_change op _).slotsRise, step_fenced op _⟩

theorem one_effect_of_two_cancellations :
    effectLog intent [.cancel 1 0, .cancel 1 0] = [.applied]
      ∧ (intent.run [.cancel 1 0, .cancel 1 0]).intentRevision = 2 := by
  have hlog : effectLog intent [.cancel 1 0, .cancel 1 0] = [.applied] := by decide +kernel
  have hops : ∀ op ∈ ([.cancel 1 0, .cancel 1 0] : List Op), op.expectedRevision = some 1 := by
    simp [Op.expectedRevision]
  have hone := one_effect_per_revision intent 1 [.cancel 1 0, .cancel 1 0] hops
  refine ⟨hlog, ?_⟩
  rw [hone.2.1, hlog]
  rfl

end IdentityMutationIntent

end OwlAuth
