import OwlAuth.Identity.Effects
import OwlAuth.System.MailLeases

/-!
# The mail of an identity mutation

What the mail of a challenge does to the intent that waits for its answer.

* `Untouched`, `terminalize_untouched`  the end of one intent leaves every other one, with its
    receipts, challenges and messages, as it was;
* `expired_iff_due`  so maintenance may end exactly the intents that were due;
* `maintenance_justified_iff`  which includes intents whose only fault is a message that was
    delivered, or that belongs to a challenge already answered or replaced;
* `resend_after_withheld_iff`  a slot whose newest challenge was withheld gets no further one,
    for want of a challenge that can still be answered.
-/

namespace OwlAuth

open Fallible Table Demo

variable {env : Environment} {db db' : Database} {i a : MutationIntent}

/-! ## maintenance -/

/-- the message has used up its attempts or its time, and no worker is sending it -/
def SpentMessage (clock : Instant) (m : MailOutbox) : Prop :=
  (m.maxAttempts ≤ m.attempts ∨ m.usefulUntil ≤ clock)
    ∧ (m.status ≠ .leased ∨ ∃ t ∈ m.leaseExpiresAt, t ≤ clock)
  deriving Decidable

/-- some challenge of the intent, whatever became of it, has a spent message -/
def HasSpentMessage (env : Environment) (db : Database) (i : MutationIntent) : Prop :=
  ∃ ch ∈ db.emailChallenges, ch.projectId = i.projectId ∧ ch.owner.OfIntent i.id
    ∧ ∃ m ∈ db.mailOutbox, MessageOf ch m ∧ SpentMessage env.databaseClock m
  deriving Decidable

/-- no challenge of the same slot that is pending is newer -/
def NewestPending (db : Database) (ch : EmailChallenge) : Prop :=
  ch.status = .pending ∧ ∀ o ∈ db.emailChallenges,
    o.projectId = ch.projectId → o.owner = ch.owner → o.status = .pending →
      o.generation ≤ ch.generation
  deriving Decidable

/-- no attempt to send the message is left: it is spent, or has ended without an answer to wait for -/
def Unsendable (clock : Instant) (m : MailOutbox) : Prop :=
  m.status = .permanentFailure ∨ m.status = .cancelled ∨ m.status = .expired ∨ SpentMessage clock m
  deriving Decidable

/-- the intent has outlived its deadline, or a proof it waits for can no longer arrive -/
def Justified (env : Environment) (db : Database) (i : MutationIntent) : Prop :=
  effectiveDeadline db i ≤ env.databaseClock
    ∨ ∃ ch ∈ db.emailChallenges, ch.projectId = i.projectId ∧ ch.owner.OfIntent i.id
      ∧ NewestPending db ch ∧ (ch.expiresAt ≤ env.databaseClock
        ∨ ∃ m ∈ db.mailOutbox, MessageOf ch m ∧ m.status ≠ .delivered
          ∧ Unsendable env.databaseClock m)
  deriving Decidable

/-- `email_challenges_mutation_one_pending_idx` -/
def OnePending (db : Database) : Prop :=
  ∀ ch ∈ db.emailChallenges, ∀ o ∈ db.emailChallenges, o.projectId = ch.projectId →
    o.owner = ch.owner → ch.status = .pending → o.status = .pending → o.id = ch.id
  deriving Decidable

theorem not_ofIntent {o : ChallengeOwner} (h : o.OfIntent i.id) (hne : a.id ≠ i.id) :
    ¬ o.OfIntent a.id := by
  cases o with
  | login => exact h.elim
  | identityMutation n => exact fun h' => hne (h'.symm.trans h)

/-- what maintenance reads of an intent is as it was -/
structure Untouched (i : MutationIntent) (db db' : Database) : Prop where
  mem : i ∈ db'.intents
  receipts : ∀ r ∈ db'.receipts, r.intentId = i.id → r ∈ db.receipts
  challenges : ∀ ch ∈ db'.emailChallenges, ch.owner.OfIntent i.id → ch ∈ db.emailChallenges
  messages : ∀ ch ∈ db'.emailChallenges, ch.owner.OfIntent i.id →
    ∀ m ∈ db'.mailOutbox, MessageOf ch m → m ∈ db.mailOutbox

theorem Untouched.trans {db''} (h : Untouched i db db') (h' : Untouched i db' db'') :
    Untouched i db db'' where
  mem := h'.mem
  receipts := fun r hr hi => h.receipts r (h'.receipts r hr hi) hi
  challenges := fun ch hch ho => h.challenges ch (h'.challenges ch hch ho) ho
  messages := fun ch hch ho m hm hof =>
    h.messages ch (h'.challenges ch hch ho) ho m (h'.messages ch hch ho m hm hof) hof

theorem Untouched.due (h : Untouched i db db') (hdue : IntentDue env db' i) :
    IntentDue env db i := by
  obtain ⟨hopen, hexp | ⟨r, hr, hp, hi, hle⟩ | ⟨ch, hch, hp, ho, hrest⟩
    | ⟨ch, hch, hp, ho, m, hm, hof, hrest⟩⟩ := hdue
  · exact ⟨hopen, .inl hexp⟩
  · exact ⟨hopen, .inr (.inl ⟨r, h.receipts r hr hi, hp, hi, hle⟩)⟩
  · exact ⟨hopen, .inr (.inr (.inl ⟨ch, h.challenges ch hch ho, hp, ho, hrest⟩))⟩
  · exact ⟨hopen, .inr (.inr (.inr ⟨ch, h.challenges ch hch ho, hp, ho, m,
      h.messages ch hch ho m hm hof, hof, hrest⟩))⟩

theorem terminalize_untouched {status} (hi : i ∈ db.intents) (hne : a.id ≠ i.id)
    (h : terminalize env db a status = .ok db') : Untouched i db db' := by
  obtain ⟨_, _, _, hrow, h⟩ := peel₂ h
  cases h
  obtain ⟨_, _, hrow, _⟩ := find_ok hrow
  have kept : ∀ ch ∈ expireChallengesOf db a env.databaseClock, ch.owner.OfIntent i.id →
      ch ∈ db.emailChallenges := by
    intro ch hch ho
    rcases mem_update.mp hch with ⟨hmem, _⟩ | ⟨o, _, ⟨_, hof, _⟩, rfl⟩
    · exact hmem
    · exact absurd hof (not_ofIntent ho hne)
  refine ⟨mem_set.mpr (.inl ⟨hi, fun he => hne (hrow.symm.trans he.symm)⟩), ?_, kept, ?_⟩
  · intro r (hr : r ∈ expireReceiptsOf db a) hri
    rcases mem_update.mp hr with ⟨hmem, _⟩ | ⟨o, _, ⟨_, hof, _⟩, rfl⟩
    · exact hmem
    · exact absurd (hof.symm.trans hri) hne
  · -- a message withdrawn is of a challenge of `a`, which is no challenge of `i`
    intro ch hch ho m (hm : m ∈ cancelMail env db a.projectId (ChallengeOwner.OfIntent a.id)) hof
    rcases mem_update.mp hm with ⟨hmem, _⟩ | ⟨o, _, ⟨_, ch', hch', _, ho', hof'⟩, rfl⟩
    · exact hmem
    · have he : ch = ch' := eq_of_key (kept ch hch ho) hch' (hof.2.1.symm.trans hof'.2.1)
      exact absurd (he ▸ ho') (not_ofIntent ho hne)

theorem untouched_of_not_due {limit due} (hi : i ∈ db.intents) (hnot : ¬ IntentDue env db i)
    (h : terminalizeDueIdentityMutations env limit due db = .ok db') : Untouched i db db' := by
  refine foldOk_inv (Untouched i db) ?_ ⟨hi, fun _ h _ => h, fun _ h _ => h, fun _ _ _ _ h _ => h⟩ h
  intro db₁ id db₂ _ h₁ h₂
  split at h₂
  · cases h₂; exact h₁
  · rename_i found hfound
    obtain ⟨hmem, _, hdue⟩ := find?_some hfound
    refine h₁.trans (terminalize_untouched h₁.mem (fun he => hnot (h₁.due ?_)) h₂)
    exact eq_of_key hmem h₁.mem he ▸ hdue

/-- maintenance can end an open intent exactly if it is due -/
theorem expired_iff_due (hi : i ∈ db.intents) (hopen : i.Open) :
    (∃ limit due db', terminalizeDueIdentityMutations env limit due db = .ok db'
        ∧ ∃ j ∈ db'.intents, j.id = i.id ∧ j.status = .expired) ↔ IntentDue env db i := by
  constructor
  · rintro ⟨limit, due, db', h, j, hj, hid, hexpired⟩
    by_contra hnot
    have he : j = i := eq_of_key hj (untouched_of_not_due hi hnot h).mem hid
    rw [← he] at hopen
    rcases hopen with h | h <;> rw [hexpired] at h <;> cases h
  · intro hdue
    have hfind : db.intents.find? (fun j => j.id = i.id ∧ IntentDue env db j) = some i :=
      find?_eq_some hi ⟨rfl, hdue⟩ fun _ _ h => h.1
    have hrow : db.intents.find?
        (fun j => j.projectId = i.projectId ∧ j.id = i.id ∧ j.Open) = some i :=
      find?_eq_some hi ⟨rfl, rfl, hopen⟩ fun _ _ h => h.2.1
    obtain ⟨db', hok, hended⟩ : ∃ db', terminalize env db i .expired = .ok db'
        ∧ endedIntent .expired env.databaseClock i ∈ db'.intents := by
      rw [terminalize, ensure_of _ (.inl rfl), ok_bind, hrow]
      exact ⟨_, rfl, mem_set_self _ hi rfl⟩
    refine ⟨1, [i.id], db', ?_, _, hended, rfl, rfl⟩
    rw [terminalizeDueIdentityMutations, List.take_succ_cons, List.take_zero, foldOk_cons, hfind]
    show (terminalize env db i .expired >>= pure) = _
    rw [hok]
    rfl

theorem due_iff_justified (hone : OnePending db) (hopen : i.Open) :
    IntentDue env db i ↔ HasSpentMessage env db i ∨ (IntentDue env db i ∧ Justified env db i) := by
  refine ⟨fun h => ?_, fun h => h.elim (fun h => ?_) And.left⟩
  · obtain ⟨_, hexp | ⟨_, hr, hp, hi, hle⟩ | ⟨ch, hch, hp, ho, hs, hle⟩ | hspent⟩ := id h
    · refine .inr ⟨h, .inl (le_trans ?_ hexp)⟩
      exact ((IdentityMutationIntent.le_foldl_min _ _).mp le_rfl).1
    · refine .inr ⟨h, .inl (le_trans ?_ hle)⟩
      exact ((IdentityMutationIntent.le_foldl_min _ _).mp le_rfl).2 _
        (List.mem_map_of_mem (mem_filter.mpr ⟨hr, hp, hi⟩))
    · refine .inr ⟨h, .inr ⟨ch, hch, hp, ho, ⟨hs, fun o hom hop hoo hos => ?_⟩, .inl hle⟩⟩
      exact (eq_of_key hom hch (hone ch hch o hom hop hoo hs hos)) ▸ le_rfl
    · exact .inl hspent
  · exact ⟨hopen, .inr (.inr (.inr h))⟩

/-- **Maintenance ends an open intent only for a deadline or for a proof that can no longer arrive**
exactly if no other intent has a message, of whatever challenge and outcome, that is spent. -/
theorem maintenance_justified_iff (env : Environment) (db : Database) (hone : OnePending db) :
    (∀ limit due db', terminalizeDueIdentityMutations env limit due db = .ok db' →
        ∀ i ∈ db.intents, i.Open → (∃ j ∈ db'.intents, j.id = i.id ∧ j.status = .expired) →
          Justified env db i)
      ↔ ∀ i ∈ db.intents, i.Open → ¬ Justified env db i → ¬ HasSpentMessage env db i := by
  constructor
  · intro h i hi hopen hnot hspent
    have hdue := (due_iff_justified hone hopen).mpr (.inl hspent)
    obtain ⟨limit, due, db', hok, hexpired⟩ := (expired_iff_due hi hopen).mpr hdue
    exact hnot (h limit due db' hok i hi hopen hexpired)
  · intro h limit due db' hok i hi hopen hexpired
    by_contra hnot
    have hdue := (expired_iff_due hi hopen).mp ⟨limit, due, db', hok, hexpired⟩
    rcases (due_iff_justified hone hopen).mp hdue with hspent | ⟨_, hj⟩
    · exact h i hi hopen hnot hspent
    · exact hnot hj

namespace Demo

def unlinking : MutationIntent :=
  ⟨40, 1, .unlink ⟨3, 1, 1⟩, .pendingProof, 2, 1, 1, .preserve, minutes 10, none, trivial⟩

def emailIdentity : EmailIdentity :=
  ⟨11, 1, 3, .active, 1, 1, ⟨List.replicate 41 0, 1⟩, some 0⟩

def ownerSlot : MutationSlot := ⟨41, 1, 40, .identityOwner, 3, 1, 1, some (.email 11 1), 2, 1,
  .email ⟨1, 1, 1⟩, .emailChallengePending, 2, none, none⟩

def slotCode : EmailChallenge := { code with owner := .identityMutation 40 41 }

/-- the code was delivered and answered, and its receipt is good for some minutes -/
def answered : Database :=
  { start with
    emailIdentities := .single emailIdentity
    intents := .single unlinking
    slots := .single { ownerSlot with state := .proved, provedAt := some (minutes 4) }
    receipts := .single ⟨42, 1, 40, 41, .issued, minutes 9, none⟩
    emailChallenges := .single { slotCode with
      status := .consumed, consumedAt := some (minutes 4), terminalAt := some (minutes 4) }
    mailOutbox := .single { message with
      transactionId := none, status := .delivered, deliveredAt := some 0, terminalAt := some 0 } }

def sixMinutes : Environment := { Demo.env with databaseClock := minutes 6 }

end Demo

/-- the code of an answered challenge stops being useful, and the intent goes with it -/
theorem answered_intent_expires :
    unlinking ∈ answered.intents ∧ unlinking.Open
      ∧ ¬ Justified sixMinutes answered unlinking
      ∧ ∃ limit due db',
        terminalizeDueIdentityMutations sixMinutes limit due answered = .ok db'
        ∧ ∃ j ∈ db'.intents, j.id = unlinking.id ∧ j.status = .expired := by
  have hmem : unlinking ∈ answered.intents := List.mem_singleton_self _
  exact ⟨hmem, .inl rfl, by decide +kernel, (expired_iff_due hmem (.inl rfl)).mpr (by decide +kernel)⟩

theorem answered_intent_unjustified :
    OnePending Demo.answered
      ∧ ¬ ∀ limit due db',
        terminalizeDueIdentityMutations sixMinutes limit due Demo.answered = .ok db' →
        ∀ i ∈ Demo.answered.intents, i.Open →
          (∃ j ∈ db'.intents, j.id = i.id ∧ j.status = .expired) →
          Justified sixMinutes Demo.answered i := by
  have hone : OnePending Demo.answered := by decide +kernel
  refine ⟨hone, fun h => ?_⟩
  exact (maintenance_justified_iff sixMinutes Demo.answered hone).mp h unlinking
    (List.mem_singleton_self _) (.inl rfl) (by decide +kernel) (by decide +kernel)

/-! ## the next challenge of a slot -/

/-- the owners of a slot are as the intent froze them -/
def OwnersFrozen (db : Database) (intent : MutationIntent) (slot : MutationSlot) : Prop :=
  ∃ project ∈ db.projects, ∃ application ∈ db.applications, ∃ user ∈ db.users,
    project.id = intent.projectId
    ∧ (application.id = slot.applicationId ∧ application.projectId = intent.projectId)
    ∧ (user.id = slot.proofUserId ∧ user.projectId = intent.projectId)
    ∧ project.status = .active ∧ project.metadataRevision = intent.projectMetadataRevision
    ∧ project.securityRevision = intent.projectSecurityRevision ∧ application.status = .active
    ∧ application.securityRevision = slot.applicationSecurityRevision ∧ user.status = .active
    ∧ user.userRevision = slot.expectedUserRevision
    ∧ user.securityRevision = slot.expectedUserSecurityRevision
  deriving Decidable

/-- a slot of a live intent waits for the answer to a challenge that was withheld, and its policy,
unchanged, allows another -/
structure Withheld (env : Environment) (stored : Uuid → Option HostedCredentials)
    (c : PrepareMutationEmailGeneration) (db : Database) (intent : MutationIntent)
    (slot : MutationSlot) (frozen : SlotEmail) (policy : AdmittedEmailMethod) : Prop where
  intentMem : intent ∈ db.intents
  intentId : intent.id = c.intentId
  browser : stored c.intentId = some c.presented
  digests : 0 < c.presented.handle.keyVersion ∧ 0 < c.presented.browserBinding.keyVersion
    ∧ 0 < c.presented.csrf.keyVersion
  revision : intent.intentRevision = c.expectedRevision
  live : intent.status = .pendingProof ∧ env.databaseClock < effectiveDeadline db intent
  slotMem : slot ∈ db.slots
  slotId : slot.intentId = c.intentId ∧ slot.id = c.proofSlotId
  waits : slot.state = .emailChallengePending ∧ slot.method = .email frozen
  owners : OwnersFrozen db intent slot
  method : currentEmailMethod env db slot frozen = .ok policy
  withheld : ∃ ch ∈ challengesOfSlot db intent.projectId c.intentId c.proofSlotId,
    NewestOfOwner db ch ∧ ch.status = .deliveryUnavailable
  generations : newestGeneration (challengesOfSlot db intent.projectId c.intentId c.proofSlotId)
    < min policy.maxGenerations 5
  rested : ∀ ch ∈ challengesOfSlot db intent.projectId c.intentId c.proofSlotId,
    ch.issuedAt + seconds policy.resendAfterSeconds ≤ env.databaseClock

/-- `owlauth_enforce_email_challenge_typed_owner`, of a slot that waits for the answer to a challenge:
exactly one of its challenges is pending or withheld, and none was consumed -/
def TypedOwner (db : Database) (intent : MutationIntent) (slot : MutationSlot) : Prop :=
  slot.projectId = intent.projectId
    ∧ ((challengesOfSlot db slot.projectId slot.intentId slot.id).filter fun ch =>
      ch.status = .pending ∨ ch.status = .deliveryUnavailable).length = 1
    ∧ ∀ ch ∈ challengesOfSlot db slot.projectId slot.intentId slot.id, ch.status ≠ .consumed
  deriving Decidable

/-- the challenge of a slot that was or can be answered, which the authority of the slot is read by -/
def answerable (db : Database) (slot : MutationSlot) : Option EmailChallenge :=
  db.emailChallenges.find? fun ch =>
    ch.projectId = slot.projectId ∧ ch.owner = .identityMutation slot.intentId slot.id
      ∧ (ch.status = .pending ∨ ch.status = .consumed)

section
variable {stored : Uuid → Option HostedCredentials} {c : PrepareMutationEmailGeneration}
  {intent : MutationIntent} {slot : MutationSlot} {frozen : SlotEmail} {policy : AdmittedEmailMethod}

theorem revalidateSlotAuthority_of_frozen (h : OwnersFrozen db intent slot)
    (hmethod : slot.method = .email frozen) :
    revalidateSlotAuthority env db intent slot = revalidateSlotEmail env db slot frozen := by
  obtain ⟨p, hp, a, ha, u, hu, hpid, haid, huid, hrest⟩ := h
  have hp : db.projects.find? (fun p => p.id = intent.projectId) = some p :=
    find?_eq_some hp hpid fun _ _ h => h.trans hpid.symm
  have ha : db.applications.find?
      (fun a => a.id = slot.applicationId ∧ a.projectId = intent.projectId) = some a :=
    find?_eq_some ha haid fun _ _ h => h.1.trans haid.1.symm
  have hu : db.users.find?
      (fun u => u.id = slot.proofUserId ∧ u.projectId = intent.projectId) = some u :=
    find?_eq_some hu huid fun _ _ h => h.1.trans huid.1.symm
  rw [revalidateSlotAuthority, hp, ha, hu, hmethod]
  show (ensure _ _ >>= fun _ => _) = _
  rw [ensure_of _ hrest]
  rfl

theorem revalidateSlotEmail_iff (hmethod : currentEmailMethod env db slot frozen = .ok policy)
    (hstate : slot.state = .emailChallengePending) :
    revalidateSlotEmail env db slot frozen = .ok ()
      ↔ ∃ ch, answerable db slot = some ch
        ∧ SmtpUsableExactly db slot.projectId ch.authority.smtp env.databaseClock := by
  obtain ⟨⟨_, _⟩, hfound, _, hcurrent, _⟩ := peel₂ hmethod
  rw [revalidateSlotEmail, hfound, ok_bind]
  dsimp only
  rw [hcurrent, ok_bind, if_pos (.inl hstate)]
  constructor
  · intro h
    obtain ⟨ch, hch, husable⟩ := bind_ok.mp h
    exact ⟨ch, require_ok.mp hch, ensure_ok.mp husable⟩
  · rintro ⟨ch, hch, husable⟩
    exact bind_ok.mpr ⟨ch, require_ok.mpr hch, ensure_ok.mpr husable⟩

/-- beside a withheld challenge the schema leaves none that was or can be answered -/
theorem TypedOwner.unanswerable {w ch} (h : TypedOwner db intent slot)
    (hw : w ∈ challengesOfSlot db slot.projectId slot.intentId slot.id)
    (hwithheld : w.status = .deliveryUnavailable) : answerable db slot ≠ some ch := by
  intro hch
  obtain ⟨hmem, hp, ho, hs⟩ := find?_some hch
  have hmem : ch ∈ challengesOfSlot db slot.projectId slot.intentId slot.id :=
    mem_filter.mpr ⟨hmem, hp, ho⟩
  obtain ⟨_, hone, hconsumed⟩ := h
  rcases hs with hs | hs
  · -- the withheld one and a pending one would be two
    obtain ⟨o, hone⟩ := List.length_eq_one_iff.mp hone
    have only : ∀ k ∈ challengesOfSlot db slot.projectId slot.intentId slot.id,
        k.status = .pending ∨ k.status = .deliveryUnavailable → k = o := fun k hk hs =>
      List.mem_singleton.mp (hone ▸ List.mem_filter.mpr ⟨hk, decide_eq_true hs⟩)
    rw [only ch hmem (.inl hs), ← only w hw (.inr hwithheld), hwithheld] at hs
    cases hs
  · exact hconsumed ch hmem hs

theorem prepareMutationEmailGeneration_iff (h : Withheld env stored c db intent slot frozen policy) :
    (∃ p, prepareMutationEmailGeneration env stored c db = .ok (.done db p))
      ↔ ∃ ch, answerable db slot = some ch
        ∧ SmtpUsableExactly db slot.projectId ch.authority.smtp env.databaseClock := by
  have hlock : lockAuthenticatedIntent stored db c.intentId c.presented = .ok intent := by
    have hfind : db.intents.find? (fun i => i.id = c.intentId) = some intent :=
      find?_eq_some h.intentMem h.intentId fun _ _ hs => hs.trans h.intentId.symm
    obtain ⟨h₁, h₂, h₃⟩ := h.digests
    rw [lockAuthenticatedIntent, validateDigest, ensure_of _ h₁, validateDigest, ensure_of _ h₂,
      validateDigest, ensure_of _ h₃, ensure_of _ h.browser, lockIntent, hfind]
    rfl
  have hslot : lockSlot db c.intentId c.proofSlotId = .ok slot :=
    require_ok.mpr (find?_eq_some h.slotMem h.slotId fun _ _ hs => hs.2.trans h.slotId.2.symm)
  have hlive : ¬ effectiveDeadline db intent ≤ env.databaseClock := not_le.mpr h.live.2
  have hexpire : expireLockedIfNeeded env db intent = .ok none := if_neg fun he => hlive he.2
  have hpending : requirePendingRevision env db intent c.expectedRevision = .ok () := by
    rw [requirePendingRevision, ensure_of _ h.revision, ok_bind, ensure_of _ ⟨h.live.1, hlive⟩]
  have hfrozen : emailSlotMethod slot slot.applicationId = .ok frozen := by
    rw [emailSlotMethod, ensure_of _ ⟨.inr h.waits.1, rfl⟩, ok_bind, h.waits.2]
    rfl
  rw [← revalidateSlotEmail_iff h.method h.waits.1, prepareMutationEmailGeneration, hlock, ok_bind,
    hslot, ok_bind, unlessExpired, hexpire, ok_bind]
  dsimp only
  rw [hpending, ok_bind, hfrozen, ok_bind, revalidateSlotAuthority_of_frozen h.owners h.waits.2]
  constructor
  · rintro ⟨p, hp⟩
    exact (bind_ok.mp hp).elim fun _ hp => hp.1
  · intro hok
    rw [hok, ok_bind, h.method, ok_bind, ensure_of _ (lt_min_iff.mp h.generations), ok_bind,
      ensure_of _ h.rested]
    exact ⟨_, rfl⟩

/-- **A slot whose newest challenge was withheld gets the next one** exactly if another challenge of
it is still pending or was consumed, which the schema does not allow: it never does. -/
theorem resend_after_withheld_iff (h : Withheld env stored c db intent slot frozen policy) :
    ((∃ p, prepareMutationEmailGeneration env stored c db = .ok (.done db p))
      ↔ ∃ ch, answerable db slot = some ch
        ∧ SmtpUsableExactly db slot.projectId ch.authority.smtp env.databaseClock)
      ∧ (TypedOwner db intent slot →
        ¬ ∃ p, prepareMutationEmailGeneration env stored c db = .ok (.done db p)) := by
  have hiff := prepareMutationEmailGeneration_iff h
  refine ⟨hiff, fun htyped hok => ?_⟩
  obtain ⟨ch, hch, _⟩ := hiff.mp hok
  obtain ⟨w, hw, _, hwithheld⟩ := h.withheld
  rw [← htyped.1, ← h.slotId.1, ← h.slotId.2] at hw
  exact htyped.unanswerable hw hwithheld hch

end

namespace Demo

def withheldCode : Database :=
  { start with
    emailIdentities := .single emailIdentity
    intents := .single unlinking
    slots := .single ownerSlot
    emailChallenges := .single { slotCode with status := .deliveryUnavailable, terminalAt := some 0 } }

def hosted : HostedCredentials := ⟨⟨43, 1⟩, ⟨44, 1⟩, ⟨45, 1⟩⟩

def resend : PrepareMutationEmailGeneration := ⟨40, 41, hosted, 2⟩

def twoMinutes : Environment := { Demo.env with databaseClock := minutes 2 }

theorem withheldCode_withheld :
    Withheld twoMinutes (fun _ => some hosted) resend withheldCode unlinking ownerSlot ⟨1, 1, 1⟩
      emailMethod where
  intentMem := List.mem_singleton_self _
  intentId := rfl
  browser := rfl
  digests := by decide
  revision := rfl
  live := by decide +kernel
  slotMem := List.mem_singleton_self _
  slotId := ⟨rfl, rfl⟩
  waits := ⟨rfl, rfl⟩
  owners := by decide +kernel
  method := rfl
  withheld := by decide +kernel
  generations := by decide +kernel
  rested := by decide +kernel

end Demo

theorem withheld_code_not_resent :
    Withheld twoMinutes (fun _ => some hosted) resend withheldCode
        unlinking ownerSlot ⟨1, 1, 1⟩ emailMethod
      ∧ TypedOwner withheldCode unlinking ownerSlot
      ∧ prepareMutationEmailGeneration twoMinutes (fun _ => some hosted) resend
        withheldCode = .error .revisionConflict :=
  ⟨withheldCode_withheld, by decide +kernel, rfl⟩

theorem withheld_code_unanswerable :
    ¬ ∃ p, prepareMutationEmailGeneration twoMinutes (fun _ => some hosted) resend
      withheldCode = .ok (.done withheldCode p) :=
  (resend_after_withheld_iff withheldCode_withheld).2 (by decide +kernel)

end OwlAuth
