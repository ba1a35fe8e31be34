import OwlAuth.Identity.Restore

/-!
# How a completed intent came about

Once an intent is completed, its whole history is known: one browser was bound, every slot was
proved by one attached receipt while it waited for it, no receipt had expired at completion, and no
provider exchange of a slot ever failed.

* `bindingLog`, `receiptLog`  the bindings and the receipts that the operations of a run applied;
* `Frame`  what no operation changes;
* `Bindings`, `Receipts`  the state agrees with these two logs;
* `Spoiled`  a slot whose exchange failed stays unproved;
* `completed_intent_was_proved`  the main result.
-/

namespace OwlAuth

open Machine

variable {op : Op} {receipt : IdentityProofReceiptSnapshot} {s : IdentityMutationProofSlot}

namespace IdentityMutationIntent

/-! ## the logs of a run -/

def bindingsOf : Op → Answer → List InteractionBrowserBinding
  | .bindBrowser _ binding _, .ok (some .applied) => [binding]
  | _, _ => []

def receiptsOf : Op → Answer → List IdentityProofReceiptSnapshot
  | .attachReceipt _ _ receipt, .ok (some .applied) => [receipt]
  | _, _ => []

def bindingLog (i : IdentityMutationIntent) (ops : List Op) : List InteractionBrowserBinding :=
  trace step (fun op j => bindingsOf op (answer op j)) i ops

def receiptLog (i : IdentityMutationIntent) (ops : List Op) : List IdentityProofReceiptSnapshot :=
  trace step (fun op j => receiptsOf op (answer op j)) i ops

theorem mem_receiptLog {i ops} (h : receipt ∈ receiptLog i ops) :
    ∃ before expected now after, ops = before ++ .attachReceipt expected now receipt :: after
      ∧ answer (.attachReceipt expected now receipt) (i.run before) = .ok (some .applied) := by
  obtain ⟨before, _, after, hsplit, hmem⟩ := (mem_trace step _).mp h
  unfold receiptsOf at hmem
  split at hmem
  · rename_i happlied
    obtain rfl := List.mem_singleton.mp hmem
    exact ⟨before, _, _, after, hsplit, happlied⟩
  · cases hmem

variable {urls : UrlLibrary} {i j : IdentityMutationIntent} {op : Op} {a : Answer}

/-! ## what no operation changes -/

def fixedPart (s : IdentityMutationProofSlot) :
    Uuid × IdentityMutationSlotRole × IdentityMutationSlotTarget :=
  (s.id, s.role, s.target)

structure Frame (i j : IdentityMutationIntent) : Prop where
  id : j.id = i.id
  project : j.projectId = i.projectId
  slots : j.slots.map fixedPart = i.slots.map fixedPart

theorem Frame.refl (i : IdentityMutationIntent) : Frame i i := ⟨rfl, rfl, rfl⟩

theorem Frame.slot (h : Frame i j) (hs : s ∈ i.slots) :
    ∃ o ∈ j.slots, o.id = s.id ∧ o.role = s.role ∧ o.target = s.target := by
  have hmem : fixedPart s ∈ j.slots.map fixedPart := h.slots ▸ List.mem_map_of_mem hs
  obtain ⟨o, ho, hfixed⟩ := List.mem_map.mp hmem
  exact ⟨o, ho, congrArg Prod.fst hfixed, congrArg (·.2.1) hfixed, congrArg (·.2.2) hfixed⟩

theorem map_fixedPart {slots : List IdentityMutationProofSlot}
    {f : IdentityMutationProofSlot → IdentityMutationProofSlot}
    (hf : ∀ s, fixedPart (f s) = fixedPart s) :
    (slots.map f).map fixedPart = slots.map fixedPart := by
  rw [List.map_map]
  exact List.map_congr_left (fun s _ => hf s)

theorem updateSlot_fixedPart {role f} (hf : ∀ s, fixedPart (f s) = fixedPart s) :
    (i.updateSlot role f).map fixedPart = i.slots.map fixedPart := by
  refine map_fixedPart (fun s => ?_)
  split
  · exact hf s
  · rfl

theorem IntentChange.frame (h : IntentChange i op j a) : Frame i j := by
  cases h with
  | refused => exact Frame.refl i
  | idle => exact Frame.refl i
  | ended => exact ⟨rfl, rfl, map_fixedPart (fun _ => rfl)⟩
  | bound => exact ⟨rfl, rfl, rfl⟩
  | halfBound => exact ⟨rfl, rfl, rfl⟩
  | moved => exact ⟨rfl, rfl, updateSlot_fixedPart (fun _ => rfl)⟩
  | attached => exact ⟨rfl, rfl, updateSlot_fixedPart (fun _ => rfl)⟩
  | readied => exact ⟨rfl, rfl, rfl⟩
  | completed => exact ⟨rfl, rfl, map_fixedPart (fun _ => rfl)⟩

theorem run_frame (i : IdentityMutationIntent) (ops : List Op) : Frame i (i.run ops) :=
  run_rel step (I := fun _ => True) (R := Frame) Frame.refl (fun _ _ _ h h' =>
      ⟨h'.id.trans h.id, h'.project.trans h.project, h'.slots.trans h.slots⟩)
    (fun _ _ _ => trivial) (fun j op _ => (answered_change op j).frame) ops trivial

theorem IntentChange.terminal (h : IntentChange i op j a) (hi : i.status.isTerminal = true) :
    j = i := by
  cases h with
  | refused => rfl
  | idle => rfl
  | ended op status effect hstatus hlive => rw [hi] at hlive; cases hlive
  | bound expected b now hb hu => rw [hu.pending] at hi; cases hi
  | halfBound expected b now e hb hu hfull => rw [hu.pending] at hi; cases hi
  | moved op role s target hop hpending => rw [hpending] at hi; cases hi
  | attached expected now receipt s ha => rw [ha.pending] at hi; cases hi
  | readied expected now hpending => rw [hpending] at hi; cases hi
  | completed expected now hready => rw [hready] at hi; cases hi

theorem run_terminal (hi : i.status.isTerminal = true) (ops : List Op) : i.run ops = i :=
  run_inv step (I := fun j => j = i)
    (fun j op hj => by subst hj; exact (answered_change op j).terminal hi) ops rfl

theorem IntentChange.completes (h : IntentChange i op j a) (hi : i.status ≠ .completed)
    (hj : j.status = .completed) :
    ∃ expected now, op = .complete expected now ∧ a = .ok (some .applied)
      ∧ now < i.effectiveConfirmationDeadline
      ∧ (∀ s ∈ i.slots, s.holds .issued = true) ∧ j = i.consumed := by
  cases h with
  | refused => exact absurd hj hi
  | idle => exact absurd hj hi
  | ended op status effect hstatus =>
    have hj : status = .completed := hj
    rcases hstatus with rfl | rfl <;> cases hj
  | bound => exact absurd hj hi
  | halfBound => exact absurd hj hi
  | moved => exact absurd hj hi
  | attached => exact absurd hj hi
  | readied => cases hj
  | completed expected now hready hlive hissued =>
    exact ⟨expected, now, rfl, rfl, hlive, hissued, rfl⟩

/-! ## the state agrees with the logs -/

/-- the binding is the one applied, if there is one; without a binding nothing was counted yet -/
structure Bindings (i : IdentityMutationIntent) (log : List InteractionBrowserBinding) : Prop where
  log : log = i.browserBinding.toList
  fresh : i.browserBinding = none → i.status = .pendingProof → i.intentRevision = 1

theorem IntentChange.bindings (h : IntentChange i op j a) {log} (hi : Bindings i log) :
    Bindings j (log ++ bindingsOf op a) := by
  cases h with
  | refused op e =>
    rw [show bindingsOf op (.error e) = [] by cases op <;> rfl, List.append_nil]; exact hi
  | idle now => rw [show bindingsOf (.expire now) _ = [] from rfl, List.append_nil]; exact hi
  | ended op status effect hstatus hlive heffect =>
    have hnone : bindingsOf op (.ok (some effect)) = [] := by
      rcases heffect with rfl | ⟨expected, now, rfl⟩
      · cases op <;> rfl
      · rfl
    rw [hnone, List.append_nil]
    refine ⟨hi.log, fun _ hpending => ?_⟩
    have hpending : status = .pendingProof := hpending
    rcases hstatus with rfl | rfl <;> cases hpending
  | bound expected b now hb hu =>
    refine ⟨?_, fun hnone => by cases hnone⟩
    show log ++ [b] = [b]
    rw [hi.log, hu.unbound]
    rfl
  | halfBound expected b now e hb hu hfull =>
    rw [hi.fresh hu.unbound hu.pending] at hfull
    exact absurd hfull (by decide)
  | moved op role s target hop hpending hbound =>
    rw [show bindingsOf op _ = [] by (cases op <;> first | rfl | cases hop), List.append_nil]
    exact ⟨hi.log, fun hnone => absurd hnone hbound⟩
  | attached expected now receipt s ha =>
    rw [show bindingsOf (.attachReceipt expected now receipt) _ = [] from rfl, List.append_nil]
    refine ⟨hi.log, fun hnone => ?_⟩
    have hbound : some receipt.browserBinding = none :=
      (validateReceiptForSlot_ok ha.valid).2.2.1.binding.trans hnone
    cases hbound
  | readied expected now hpending hproved =>
    rw [show bindingsOf (.confirmReady expected now) _ = [] from rfl, List.append_nil]
    exact ⟨hi.log, fun _ h => by cases h⟩
  | completed expected now hready =>
    rw [show bindingsOf (.complete expected now) _ = [] from rfl, List.append_nil]
    exact ⟨hi.log, fun _ h => by cases h⟩

def Receipts (i : IdentityMutationIntent) (log : List IdentityProofReceiptSnapshot) : Prop :=
  ∀ s ∈ i.slots, ∀ r, s.receipt = some r → r.snapshot ∈ log

theorem IntentChange.receipts (h : IntentChange i op j a) {log} (hi : Receipts i log) :
    Receipts j (log ++ receiptsOf op a) := by
  intro o ho r hr
  suffices hslots : r.snapshot ∈ log ++ receiptsOf op a
      ∨ ∃ s ∈ i.slots, ∃ q, s.receipt = some q ∧ q.snapshot = r.snapshot by
    rcases hslots with hmem | ⟨s, hs, q, hq, hsame⟩
    · exact hmem
    · exact hsame ▸ List.mem_append_left _ (hi s hs q hq)
  cases h with
  | refused => exact .inr ⟨o, ho, r, hr, rfl⟩
  | idle => exact .inr ⟨o, ho, r, hr, rfl⟩
  | ended op status =>
    obtain ⟨s, hs, rfl⟩ := List.mem_map.mp ho
    obtain ⟨q, hq, rfl⟩ := Option.map_eq_some_iff.mp hr
    refine .inr ⟨s, hs, q, hq, ?_⟩
    unfold expireReceipt
    split <;> rfl
  | bound => exact .inr ⟨o, ho, r, hr, rfl⟩
  | halfBound => exact .inr ⟨o, ho, r, hr, rfl⟩
  | moved op role s target hop hpending hbound hslot =>
    rcases (mem_updateSlot hslot).mp ho with ⟨ho, _⟩ | rfl
    · exact .inr ⟨o, ho, r, hr, rfl⟩
    · exact .inr ⟨s, (slot_ok hslot).1, r, hr, rfl⟩
  | attached expected now receipt s ha =>
    rcases (mem_updateSlot ha.slot).mp ho with ⟨ho, _⟩ | rfl
    · exact .inr ⟨o, ho, r, hr, rfl⟩
    · cases hr
      exact .inl (List.mem_append_right _ (List.mem_singleton.mpr rfl))
  | readied => exact .inr ⟨o, ho, r, hr, rfl⟩
  | completed =>
    obtain ⟨s, hs, rfl⟩ := List.mem_map.mp ho
    obtain ⟨q, hq, rfl⟩ := Option.map_eq_some_iff.mp hr
    exact .inr ⟨s, hs, q, hq, rfl⟩

/-! ## failed exchanges -/

def Spoiled (role : IdentityMutationSlotRole) (i : IdentityMutationIntent) : Prop :=
  ∀ s ∈ i.slots, s.role = role → s.state = .providerExchangeFailed ∨ s.state = .expired

theorem IntentChange.spoiled {role} (h : IntentChange i op j a)
    (hi : Spoiled role i) : Spoiled role j := by
  intro o ho hrole
  cases h with
  | refused => exact hi o ho hrole
  | idle => exact hi o ho hrole
  | ended op status =>
    obtain ⟨s, hs, rfl⟩ := List.mem_map.mp ho
    exact .inr rfl
  | bound => exact hi o ho hrole
  | halfBound => exact hi o ho hrole
  | moved op role' s target hop hpending hbound hslot hmove =>
    rcases (mem_updateSlot hslot).mp ho with ⟨ho, _⟩ | rfl
    · exact hi o ho hrole
    · obtain ⟨_, hfailed, hexpired⟩ := hmove.source
      rcases hi s (slot_ok hslot).1 hrole with h | h
      · exact absurd h hfailed
      · exact absurd h hexpired
  | attached expected now receipt s ha =>
    rcases (mem_updateSlot ha.slot).mp ho with ⟨ho, _⟩ | rfl
    · exact hi o ho hrole
    · have hawaited := ha.awaited
      rcases hi s (slot_ok ha.slot).1 hrole with h | h <;> rw [h] at hawaited <;> cases hawaited
  | readied => exact hi o ho hrole
  | completed =>
    obtain ⟨s, hs, rfl⟩ := List.mem_map.mp ho
    exact hi s hs hrole

/-! ## deadlines -/

theorem foldl_min_le (l : List Int) (b : Int) : l.foldl min b ≤ b ∧ ∀ x ∈ l, l.foldl min b ≤ x := by
  induction l generalizing b with
  | nil => exact ⟨Int.le_refl b, fun x hx => absurd hx List.not_mem_nil⟩
  | cons y l ih =>
    obtain ⟨hb, hl⟩ := ih (min b y)
    refine ⟨Int.le_trans hb (Int.min_le_left b y), fun x hx => ?_⟩
    rcases List.mem_cons.mp hx with rfl | hx
    · exact Int.le_trans hb (Int.min_le_right b x)
    · exact hl x hx

theorem deadline_le {r} (hs : s ∈ i.slots) (hr : s.receipt = some r) :
    i.effectiveConfirmationDeadline ≤ r.snapshot.expiresAt :=
  (foldl_min_le _ _).2 _ (List.mem_filterMap.mpr ⟨s, hs, by rw [hr]; rfl⟩)

/-! ## the history of a completed intent -/

/-- the receipt proves the slot of the intent from the browser -/
structure Proves (i : IdentityMutationIntent) (s : IdentityMutationProofSlot)
    (browser : InteractionBrowserBinding) (receipt : IdentityProofReceiptSnapshot) : Prop where
  intent : receipt.intentId = i.id
  project : receipt.projectId = i.projectId
  slot : receipt.slotId = s.id
  role : receipt.role = s.role
  purpose : receipt.purpose = s.role.purpose
  browser : receipt.browserBinding = browser
  user : receipt.proofUserId = s.target.userId
  userRevision : receipt.proofUserRevision = s.target.expectedUserRevision
  userSecurityRevision :
    receipt.proofUserSecurityRevision = s.target.expectedUserSecurityRevision
  identity : ∀ identity, s.target = .existing identity →
    receipt.evidence = .existingIdentity identity.identityId identity.expectedIdentityRevision

theorem evidenceFits_existing {identity evidence}
    (h : evidenceFits (.existing identity) evidence = true) :
    evidence = .existingIdentity identity.identityId identity.expectedIdentityRevision := by
  cases evidence with
  | existingIdentity identityId identityRevision =>
    obtain ⟨hid, hrevision⟩ := Bool.and_eq_true_iff.mp h
    rw [eq_of_beq hid, eq_of_beq hrevision]
  | candidateEvidence => cases h

theorem IntentChange.attaches {expected now}
    (h : IntentChange i (.attachReceipt expected now receipt) j (.ok (some .applied))) :
    ∃ s, Attachable i now receipt s := by
  cases h with
  | ended op status effect hstatus hlive heffect =>
    rcases heffect with h | ⟨_, _, h⟩ <;> cases h
  | moved op role s target hop => cases hop
  | attached _ _ _ s ha => exact ⟨s, ha⟩

section
variable {newId : Nat → Uuid} {id projectId : Uuid} {plan : IdentityMutationPlan}
  {createdAt expiresAt : Instant} {intent : IdentityMutationIntent}
  (hcreate : create urls newId id projectId plan createdAt expiresAt = .ok intent)
include hcreate

variable (ops : List Op)

theorem run_ok : IntentOk urls (intent.run ops) :=
  run_inv step (I := IntentOk urls) (fun j op hj => (answered_change op j).ok hj) ops
    (create_ok hcreate).1

theorem run_bindings : Bindings (intent.run ops) (bindingLog intent ops) := by
  obtain ⟨_, hunbound, hrevision, _⟩ := create_ok hcreate
  have hstart : Bindings intent [] := ⟨by rw [hunbound.unbound]; rfl, fun _ _ => hrevision⟩
  exact trace_inv step _ (J := Bindings)
    (fun j log op hj => (answered_change op j).bindings hj) ops hstart

theorem run_receipts : Receipts (intent.run ops) (receiptLog intent ops) := by
  obtain ⟨_, hunbound, _, _⟩ := create_ok hcreate
  have hstart : Receipts intent [] := by
    intro s hs r hr
    rw [(hunbound.idle s hs).2] at hr
    cases hr
  exact trace_inv step _ (J := Receipts)
    (fun j log op hj => (answered_change op j).receipts hj) ops hstart

theorem failed_never_completes {before after} (hs : s ∈ (intent.run before).slots)
    (hfailed : s.state = .providerExchangeFailed) :
    (intent.run (before ++ after)).status ≠ .completed := by
  intro hdone
  have hspoiled : Spoiled s.role (intent.run before) := by
    intro o ho hrole
    obtain rfl := List.inj_on_of_nodup_map (run_ok hcreate before).roles_nodup ho hs hrole
    exact .inl hfailed
  have happend : intent.run (before ++ after) = (intent.run before).run after :=
    Machine.run_append step intent before after
  have hlater : Spoiled s.role (intent.run (before ++ after)) := by
    rw [happend]
    exact run_inv step (I := Spoiled s.role)
      (fun j op hj => (answered_change op j).spoiled hj) after hspoiled
  obtain ⟨o, ho, _, hrole, _⟩ := (run_frame (intent.run before) after).slot hs
  rw [← happend] at ho
  have hstands := (run_ok hcreate (before ++ after)).stands o ho
  rw [hdone] at hstands
  have hproved : o.state = .proved := eq_of_beq (Bool.and_eq_true_iff.mp hstands).1
  rcases hlater o ho hrole with h | h <;> rw [h] at hproved <;> cases hproved

/-- **A completed intent was proved.**  One browser was bound; for every slot a receipt was attached
while the slot waited for it, by that browser and for the user and identity fixed at creation, and
it had not expired when the intent was completed; no provider exchange ever failed. -/
theorem completed_intent_was_proved (hdone : (intent.run ops).status = .completed) :
    ∃ browser pre expected now post,
      ops = pre ++ .complete expected now :: post
      ∧ applied (.complete expected now) (intent.run pre) = true
      ∧ bindingLog intent ops = [browser]
      ∧ (∀ s ∈ intent.slots, ∃ before expected' now' receipt after,
          pre = before ++ .attachReceipt expected' now' receipt :: after
          ∧ applied (.attachReceipt expected' now' receipt) (intent.run before) = true
          ∧ bindingLog intent before = [browser]
          ∧ (∃ o ∈ (intent.run before).slots, o.id = s.id ∧ o.role = s.role
              ∧ (o.state = .providerExchangeInProgress ∨ o.state = .emailChallengePending))
          ∧ Proves intent s browser receipt
          ∧ now < receipt.expiresAt)
      ∧ ∀ before after, ops = before ++ after →
          ∀ s ∈ (intent.run before).slots, s.state ≠ .providerExchangeFailed := by
  obtain ⟨_, hunbound, _, _⟩ := create_ok hcreate
  have hstart : intent.status ≠ .completed := by rw [hunbound.pending]; decide
  obtain ⟨pre, op, post, rfl, hpre, hlast⟩ :=
    exists_step step (P := fun j => j.status = .completed) hstart hdone
  have hchange := answered_change op (intent.run pre)
  obtain ⟨expected, now, rfl, hanswer, hlive, hissued, hconsumed⟩ := hchange.completes hpre hlast
  -- nothing changes after completion
  have hfinal : intent.run (pre ++ .complete expected now :: post) = (intent.run pre).consumed := by
    have hcut : intent.run (pre ++ .complete expected now :: post)
        = (step (.complete expected now) (intent.run pre)).run post :=
      Machine.run_append step intent pre _
    rw [hcut, hconsumed]
    exact run_terminal rfl post
  have hok := run_ok hcreate pre
  obtain ⟨browser, hbrowser⟩ := Option.ne_none_iff_exists'.mp (hok.bound_of_issued hissued)
  refine ⟨browser, pre, expected, now, post, rfl, by unfold applied; rw [hanswer], ?_, ?_, ?_⟩
  · rw [(run_bindings hcreate _).log, hfinal]
    show (intent.run pre).browserBinding.toList = [browser]
    rw [hbrowser]
    rfl
  · intro s hs
    obtain ⟨o, ho, hid, hrole, htarget⟩ := (run_frame intent pre).slot hs
    obtain ⟨r, hr, _⟩ := holds_iff.mp (hissued o ho)
    obtain ⟨_, _, hfits, hevidence⟩ := validateReceiptForSlot_ok ((hok.slots o ho).receipt r hr).1
    obtain ⟨before, expected', now', after, hsplit, happlied⟩ :=
      mem_receiptLog (run_receipts hcreate pre o ho r hr)
    have hattach := answered_change (.attachReceipt expected' now' r.snapshot) (intent.run before)
    rw [happlied] at hattach
    obtain ⟨q, hq⟩ := hattach.attaches
    obtain ⟨_, _, hfits', _⟩ := validateReceiptForSlot_ok hq.valid
    have hbrowser' : (intent.run before).browserBinding = some browser := by
      rw [← hfits'.binding, hfits.binding, hbrowser]
    have hawaited := hq.awaited
    refine ⟨before, expected', now', r.snapshot, after, hsplit, by unfold applied; rw [happlied],
      ?_, ⟨q, (slot_ok hq.slot).1, ?_, ?_, by revert hawaited; cases q.state <;> decide⟩, ?_,
      Int.lt_of_lt_of_le hlive (deadline_le ho hr)⟩
    · rw [(run_bindings hcreate before).log, hbrowser']
      rfl
    · rw [← hid, ← hfits.slot, hfits'.slot]
    · rw [← hrole, ← hfits.role, hfits'.role]
    · have hframe := run_frame intent pre
      refine ⟨hfits.intent.trans hframe.id, hfits.project.trans hframe.project,
        hfits.slot.trans hid, hfits.role.trans hrole, ?_, ?_, ?_, ?_, ?_, ?_⟩
      · rw [← hrole]; exact hfits.purpose
      · exact Option.some.inj (hfits.binding.trans hbrowser)
      · rw [← htarget]; exact hfits.user
      · rw [← htarget]; exact hfits.userRevision
      · rw [← htarget]; exact hfits.userSecurityRevision
      · intro identity hexisting
        rw [htarget, hexisting] at hevidence
        exact evidenceFits_existing hevidence
  · intro before after hsplit s hs hfailed
    rw [hsplit] at hdone
    exact failed_never_completes hcreate hs hfailed hdone

end

theorem linked_intent_was_proved :
    (Demo.intent.run Demo.ops).status = .completed
      ∧ ∃ browser pre expected now post,
        Demo.ops = pre ++ .complete expected now :: post
        ∧ applied (.complete expected now) (Demo.intent.run pre) = true
        ∧ bindingLog Demo.intent Demo.ops = [browser] := by
  have hcreate : create Demo.urls Demo.newId 10 1
      (.link Demo.owner .email Demo.authority Demo.authority) 0 (minutes 10)
        = .ok Demo.intent := rfl
  have hdone : (Demo.intent.run Demo.ops).status = .completed := by decide +kernel
  obtain ⟨browser, pre, expected, now, post, hsplit, happlied, hlog, _⟩ :=
    completed_intent_was_proved hcreate Demo.ops hdone
  exact ⟨hdone, browser, pre, expected, now, post, hsplit, happlied, hlog⟩

end IdentityMutationIntent

end OwlAuth
