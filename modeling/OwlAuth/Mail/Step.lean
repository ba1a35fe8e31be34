import OwlAuth.Mail.Outbox

/-!
# What a call does to the messages

* `Withdrawn`  a waiting message is cancelled, every other one is left alone;
* `MailMove`  what a call can do to a message at most;
* `Terminations`  intents ended: their mail withdrawn, challenges of logins untouched;
* `Grant`  a claim granted: what held when it was;
* `claimDueMail_ok`, `finishMailAttempt_ok`, `maintainShortTermData_mail` the calls of the workers;
* `commitEmailGeneration_mail`, `MutationStep` the calls that send and withdraw.
-/

namespace OwlAuth

open Fallible Table

/-! ## one message -/

def MailStatus.terminal : MailStatus → Bool
  | .delivered => true
  | .permanentFailure => true
  | .expired => true
  | .cancelled => true
  | _ => false

/-- the message keeps its bound, never loses an attempt, and is left alone once it has ended -/
structure MailMove (m m' : MailOutbox) : Prop where
  id : m'.id = m.id
  maxAttempts : m'.maxAttempts = m.maxAttempts
  attempts : m.attempts ≤ m'.attempts
  bounded : m.attempts ≤ m.maxAttempts → m'.attempts ≤ m'.maxAttempts
  ended : m.status.terminal = true → m'.status = m.status

theorem MailMove.refl (m : MailOutbox) : MailMove m m :=
  ⟨rfl, rfl, Int.le_refl _, fun h => h, fun _ => rfl⟩

variable {m m' m'' : MailOutbox} {t : Table EmailChallenge} {t' mail' : Table MailOutbox}
  {clock : Instant} {env : Environment} {c : FinishMailAttempt} {db db' : Database}
  {r : Committed Unit} {intent : MutationIntent} {mutation : Bool} {ch : EmailChallenge}
  {worker : String} {lease : Int} {selectedId : Uuid}

theorem MailMove.trans (h : MailMove m m') (h' : MailMove m' m'') : MailMove m m'' where
  id := h'.id.trans h.id
  maxAttempts := h'.maxAttempts.trans h.maxAttempts
  attempts := Int.le_trans h.attempts h'.attempts
  bounded hb := h'.bounded (h.bounded hb)
  ended ht := by
    have h₁ := h.ended ht
    rw [h'.ended (by rw [h₁]; exact ht), h₁]

theorem MailMove.of_open (hopen : m.status.terminal = false) (hid : m'.id = m.id)
    (hmax : m'.maxAttempts = m.maxAttempts) (hatt : m'.attempts = m.attempts) : MailMove m m' where
  id := hid
  maxAttempts := hmax
  attempts := by rw [hatt]
  bounded h := by rw [hatt, hmax]; exact h
  ended h := by rw [hopen] at h; cases h

def FreshMail (m : MailOutbox) : Prop := m.attempts = 0 ∧ m.maxAttempts = 5

abbrev MailMoved (t t' : Table MailOutbox) : Prop :=
  Evolves MailMove (fun m => ∃ o, FreshMail o ∧ MailMove o m) t t'

theorem MailMoved.trans {t t''} (h : MailMoved t t') (h' : MailMoved t' t'') : MailMoved t t'' :=
  Evolves.trans (fun _ _ _ => MailMove.trans)
    (fun _ _ ⟨o, ho, hm⟩ hm' => ⟨o, ho, hm.trans hm'⟩) h h'

theorem Claimable.not_terminal (h : Claimable clock m) : m.status.terminal = false := by
  rcases h with h | h | h | ⟨h, _⟩ <;> rw [h] <;> rfl

def Withdrawn (clock : Instant) (m m' : MailOutbox) : Prop :=
  m' = m ∨ (Claimable clock m ∧ m' = cancelledMail clock m)

theorem Withdrawn.refl (m : MailOutbox) : Withdrawn clock m m := .inl rfl

theorem Withdrawn.trans (h : Withdrawn clock m m') (h' : Withdrawn clock m' m'') :
    Withdrawn clock m m'' := by
  rcases h with rfl | ⟨hc, rfl⟩
  · exact h'
  · rcases h' with rfl | ⟨hc', _⟩
    · exact .inr ⟨hc, rfl⟩
    · have := hc'.not_terminal
      cases this

theorem Withdrawn.move (h : Withdrawn clock m m') : MailMove m m' := by
  rcases h with rfl | ⟨hc, rfl⟩
  · exact .refl _
  · exact .of_open hc.not_terminal rfl rfl rfl

theorem Withdrawn.eq_of_claimable (h : Withdrawn clock m m') (hc : Claimable clock m') :
    m' = m := by
  rcases h with h | ⟨_, rfl⟩
  · exact h
  · have := hc.not_terminal
    cases this

abbrev MailWithdrawn (clock : Instant) (t t' : Table MailOutbox) : Prop :=
  Evolves (Withdrawn clock) (fun _ => False) t t'

theorem MailWithdrawn.moved {t} (h : MailWithdrawn clock t t') : MailMoved t t' :=
  h.mono (fun _ _ => Withdrawn.move) (fun _ => False.elim)

theorem cancelMail_withdrawn (env db) (projectId : Uuid)
    (owns : ChallengeOwner → Prop) [DecidablePred owns] :
    MailWithdrawn env.databaseClock db.mailOutbox (cancelMail env db projectId owns) := by
  apply evolves_update Withdrawn.refl
  intro m _ h
  exact .inr ⟨h.1, rfl⟩

theorem enqueueMail_moved {authorization mail}
    (hm : FreshMail m) (h : enqueueMail authorization mail m = .ok mail') :
    MailMoved mail mail' := by
  unfold enqueueMail at h
  split at h
  · obtain ⟨_, h⟩ := later h
    exact evolves_insert .refl (insertRow_ok h).2 ⟨m, hm, .refl m⟩
  · cases h; exact .refl .refl _

theorem commitEmailGeneration_mail {c}
    (h : commitEmailGeneration env c db = .ok r) : MailMoved db.mailOutbox r.db.mailOutbox := by
  obtain ⟨_, _, _, h⟩ := later₃ h
  obtain ⟨_, _, _, h⟩ := later₃ h
  obtain ⟨_, _, h⟩ := later₂ h
  obtain ⟨_, _, _, hm, h⟩ := peel₂ h
  cases h
  exact (cancelMail_withdrawn env db _ _).moved.trans (enqueueMail_moved ⟨rfl, rfl⟩ hm)

/-! ## intents that end -/

def LoginChallengesKept (t t' : Table EmailChallenge) : Prop :=
  ∀ ch : EmailChallenge, ¬ ch.owner.OfMutation → (ch ∈ t' ↔ ch ∈ t)

theorem LoginChallengesKept.refl (t : Table EmailChallenge) : LoginChallengesKept t t :=
  fun _ _ => Iff.rfl

variable {t' : Table EmailChallenge}

theorem LoginChallengesKept.trans {t''} (h : LoginChallengesKept t t')
    (h' : LoginChallengesKept t' t'') : LoginChallengesKept t t'' :=
  fun ch hch => (h' ch hch).trans (h ch hch)

theorem LoginChallengesKept.update {p} [DecidablePred p] {f} (hf : ∀ ch, (f ch).id = ch.id)
    (hp : ∀ ch, p ch → ch.owner.OfMutation) (ho : ∀ ch, (f ch).owner = ch.owner) :
    LoginChallengesKept t (t.update p f hf) := by
  intro ch hch
  rw [mem_update]
  constructor
  · rintro (⟨h, _⟩ | ⟨o, _, hpo, rfl⟩)
    · exact h
    · rw [ho] at hch
      exact absurd (hp o hpo) hch
  · intro h
    exact .inl ⟨h, fun hpc => hch (hp ch hpc)⟩

theorem ChallengeOwner.OfIntent.ofMutation {intentId : Uuid} {o : ChallengeOwner}
    (h : o.OfIntent intentId) : o.OfMutation := by
  cases o with
  | login t => exact h
  | identityMutation i s => trivial

abbrev OnlyCeremony (db db' : Database) : Prop :=
  db' = { db with
    emailChallenges := db'.emailChallenges
    mailOutbox := db'.mailOutbox
    intents := db'.intents
    slots := db'.slots
    receipts := db'.receipts
    evidence := db'.evidence }

structure Terminations (clock : Instant) (db db' : Database) : Prop where
  frame : OnlyCeremony db db'
  mail : MailWithdrawn clock db.mailOutbox db'.mailOutbox
  challenges : LoginChallengesKept db.emailChallenges db'.emailChallenges

theorem Terminations.refl (db) : Terminations clock db db :=
  ⟨rfl, .refl .refl _, .refl _⟩

theorem Terminations.trans {db''} (h : Terminations clock db db')
    (h' : Terminations clock db' db'') : Terminations clock db db'' where
  frame := by
    have hf := h.frame
    have hf' := h'.frame
    rw [hf] at hf'
    exact hf'
  mail := Evolves.trans (fun _ _ _ => Withdrawn.trans) (fun _ _ hn => hn.elim) h.mail h'.mail
  challenges := h.challenges.trans h'.challenges

theorem terminalize_ok {status} (h : terminalize env db intent status = .ok db') :
    Terminations env.databaseClock db db' := by
  obtain ⟨_, _, h⟩ := later₂ h
  cases h
  refine ⟨rfl, cancelMail_withdrawn env db _ _, ?_⟩
  show LoginChallengesKept db.emailChallenges (expireChallengesOf db intent _)
  apply LoginChallengesKept.update
  · intro ch h
    exact h.2.1.ofMutation
  · intro ch
    rfl

theorem expireLockedIfNeeded_ok (h : expireLockedIfNeeded env db intent = .ok (some db')) :
    Terminations env.databaseClock db db' := by
  unfold expireLockedIfNeeded at h
  split at h
  · obtain ⟨_, h₁, h⟩ := bind_ok.mp h
    cases h
    exact terminalize_ok h₁
  · cases h

theorem terminalizeDueIdentityMutations_ok {limit due}
    (h : terminalizeDueIdentityMutations env limit due db = .ok db') :
    Terminations env.databaseClock db db' := by
  refine foldOk_inv (fun db₁ => Terminations env.databaseClock db db₁) ?_ (.refl db) h
  intro db₁ id db₂ _ h₁ h₂
  split at h₂
  · cases h₂; exact h₁
  · exact h₁.trans (terminalize_ok h₂)

/-! ## claims -/

/-- a login or a slot waits for an answer to the challenge, under the owners it captured -/
def ChallengeAwaited (env : Environment) (db : Database) (ch : EmailChallenge) : Prop :=
  (∃ l ∈ db.logins.rows, ch.owner = .login l.id ∧ l.projectId = ch.projectId
    ∧ l.status = .emailChallengePending ∧ env.databaseClock < l.expiresAt
    ∧ OwnersAt db l.projectId l.applicationId l.projectMetadataRevision l.projectSecurityRevision
      l.applicationSecurityRevision
    ∧ MethodCurrent db l.projectId l.applicationId ch.authority)
  ∨ SlotWaits env db ch

/-- the job tells of the message, and of its attempt -/
def JobFor (m : MailOutbox) (owner : ChallengeOwner) (job : ClaimedMailJob) : Prop :=
  job = { job with
    id := m.id
    projectId := m.projectId
    owner := owner
    challengeId := m.challengeId
    challengeGeneration := m.challengeGeneration
    smtp := m.smtp
    attempts := m.attempts + 1 }

/-- the message `m` of the challenge `ch` was leased -/
structure Grant (env : Environment) (db : Database) (job : ClaimedMailJob) (m : MailOutbox)
    (ch : EmailChallenge) : Prop where
  mailMem : m ∈ db.mailOutbox
  challengeMem : ch ∈ db.emailChallenges
  message : MessageOf ch m
  due : OutboxDue env m
  challengeOpen : ChallengeOpen env ch
  newest : NewestOfOwner db ch
  awaited : ChallengeAwaited env db ch
  smtp : SmtpUsableExactly db m.projectId m.smtp env.databaseClock
  job : JobFor m ch.owner job

def grantedMail (job : ClaimedMailJob) (m : MailOutbox) : MailOutbox :=
  leasedMail job.leaseOwner job.leaseExpiresAt m

/-- a claim that granted a job: intents were ended first, then the row was leased -/
def Granted (env : Environment) (db : Database) (job : ClaimedMailJob) (db' : Database) : Prop :=
  ∃ m ch, Grant env db job m ch
    ∧ db' = { db with mailOutbox := db.mailOutbox.set (grantedMail job m) }

theorem identityMutationIsEarliestDue_some {id}
    (h : identityMutationIsEarliestDue env db = some (id, mutation)) :
    ∃ m ∈ db.mailOutbox, ∃ ch ∈ db.emailChallenges, m.id = id ∧ DueFor env db m ch
      ∧ ch.owner.transactionId.isNone = mutation := by
  obtain ⟨m, hm, ch, hch, h⟩ := bind_some₂.mp h
  cases h
  obtain ⟨hchm, hdue⟩ := find?_some hch
  exact ⟨m, (first?_some hm).1, ch, hchm, rfl, hdue, rfl⟩

theorem claimedMailJob_ok {m owner server expiry fingerprint job}
    (h : claimedMailJob env m owner server worker expiry fingerprint = .ok job) :
    JobFor m owner job ∧ job.leaseOwner = worker ∧ job.leaseExpiresAt = expiry := by
  obtain ⟨_, _, h⟩ := later₂ h
  cases h
  exact ⟨rfl, rfl, rfl⟩

theorem leaseMail_ok {row server claim r} (hrow : row ∈ db.mailOutbox)
    (hch : ch ∈ db.emailChallenges) (hmsg : MessageOf ch row)
    (h : leaseMail env db row ch.owner server worker lease = some claim) (hr : claim = .ok r) :
    DueFor env db row ch ∧ JobFor row ch.owner r.2
      ∧ r.1 = { db with mailOutbox := db.mailOutbox.set (grantedMail r.2 row) } := by
  obtain ⟨_, hearliest, m, hm, h⟩ := bind_some₂.mp h
  cases h
  obtain ⟨_, _, job, hjob, hr⟩ := peel₂ hr
  cases hr
  -- the message of the last comparison is the row, and its challenge is the one read before
  obtain ⟨m₀, hm₀, ch₀, hch₀, hid, hdue, _⟩ :=
    identityMutationIsEarliestDue_some ((Option.guard_eq_some' _).mp hearliest)
  have hm₀ : m₀ = row := eq_of_key hm₀ hrow hid
  rw [hm₀] at hdue
  have hch₀ : ch₀ = ch := eq_of_key hch₀ hch (hdue.1.2.1.symm.trans hmsg.2.1)
  rw [hch₀] at hdue
  obtain ⟨hmm, hmid, _⟩ := find?_some hm
  have hm : m = row := eq_of_key hmm hrow hmid
  obtain ⟨hfor, howner, hexpiry⟩ := claimedMailJob_ok hjob
  refine ⟨hdue, hfor, ?_⟩
  rw [hm, grantedMail, howner, hexpiry]

theorem claimDueLoginMail_ok {claim r}
    (h : claimDueLoginMail env db worker lease selectedId = some claim) (hr : claim = .ok r) :
    Granted env db r.2 r.1 := by
  obtain ⟨_, _, t, _, login, _, h⟩ := bind_some₃.mp h
  obtain ⟨_, _, _, _, ⟨_, _⟩, _, h⟩ := bind_some₃.mp h
  obtain ⟨ch, hch, _, _, _, _, h⟩ := bind_some₃.mp h
  obtain ⟨_, _, _, _, row, hrow, h⟩ := bind_some₃.mp h
  obtain ⟨hchm, _, howner, _⟩ := find?_some hch
  obtain ⟨hrowm, _, _, hrowt, hmsg, _, _⟩ := find?_some hrow
  obtain ⟨⟨_, hdue, hopen, hwaits, hnewest, hsmtp⟩, hjob, hdb⟩ := leaseMail_ok hrowm hchm hmsg h hr
  refine ⟨row, ch, ⟨hrowm, hchm, hmsg, hdue, hopen, hnewest, ?_, hsmtp, hjob⟩, hdb⟩
  -- the login that waits is the one the challenge belongs to
  rcases hwaits with ⟨_, l, hl, hlp, hlt, hls, hle, hown, hmeth⟩ | ⟨hnone, _⟩
  · have hid : t = l.id := Option.some.inj (hrowt.symm.trans hlt)
    exact .inl ⟨l, hl, by rw [howner, hid], hlp.trans hmsg.1, hls, hle, hown, hmeth⟩
  · rw [howner] at hnone; cases hnone

theorem leaseMutationMail_ok {candidate claim r}
    (hch : ch ∈ db.emailChallenges) (howner : ch.owner.OfIntent intent.id)
    (h : leaseMutationMail env db candidate ch intent worker lease = some claim)
    (hr : claim = .ok r) : Granted env db r.2 r.1 := by
  obtain ⟨_, _, _, _, _, _, h⟩ := bind_some₃.mp h
  obtain ⟨⟨_, _⟩, _, h⟩ := Option.bind_eq_some_iff.mp h
  obtain ⟨_, _, _, _, _, _, h⟩ := bind_some₃.mp h
  obtain ⟨_, _, _, _, row, hrow, h⟩ := bind_some₃.mp h
  obtain ⟨hrowm, _, _, _, hmsg, _⟩ := find?_some hrow
  obtain ⟨⟨_, hdue, hopen, hwaits, hnewest, hsmtp⟩, hjob, hdb⟩ := leaseMail_ok hrowm hch hmsg h hr
  refine ⟨row, ch, ⟨hrowm, hch, hmsg, hdue, hopen, hnewest, ?_, hsmtp, hjob⟩, hdb⟩
  rcases hwaits with ⟨hsome, _⟩ | ⟨_, _, hslot⟩
  · generalize ch.owner = o at hsome howner
    cases o with
    | login t => exact howner.elim
    | identityMutation i s => cases hsome
  · exact .inr hslot

def ClaimResult (env : Environment) (db : Database) (r : Database × Option ClaimedMailJob) : Prop :=
  ∃ db₁, Terminations env.databaseClock db db₁
    ∧ ((r.2 = none ∧ r.1 = db₁) ∨ ∃ job, r.2 = some job ∧ Granted env db₁ job r.1)

theorem ClaimResult.of_none (h : Terminations env.databaseClock db db') :
    ClaimResult env db (db', none) :=
  ⟨db', h, .inl ⟨rfl, rfl⟩⟩

theorem orElseKept_result {o r} (ho : orElseKept db o = .ok r)
    (h : ∀ claim g, o = some claim → claim = .ok g → Granted env db g.2 g.1) :
    ClaimResult env db r := by
  cases o with
  | none => cases ho; exact .of_none (.refl db)
  | some claim =>
    obtain ⟨g, hg, ho⟩ := bind_ok.mp ho
    cases ho
    exact ⟨db, .refl db, .inr ⟨g.2, rfl, h claim g rfl hg⟩⟩

theorem claimLane_ok {r}
    (h : claimLane env db worker lease selectedId mutation = .ok r) : ClaimResult env db r := by
  unfold claimLane at h
  split at h
  · unfold claimDueIdentityMutationMail at h
    split at h
    · cases h; exact .of_none (.refl db)
    · rename_i candidate ch intent hfound
      obtain ⟨_, _, _, hch, _, hi, hfound⟩ := bind_some₃.mp hfound
      cases hfound
      obtain ⟨expired, he, h⟩ := bind_ok.mp h
      split at h
      · cases h; exact .of_none (expireLockedIfNeeded_ok he)
      · exact orElseKept_result h fun _ _ =>
          leaseMutationMail_ok (find?_some hch).1 (find?_some hi).2.2
  · exact orElseKept_result h fun _ _ => claimDueLoginMail_ok

theorem compareAndClaim_ok {n} :
    ∀ {db r}, compareAndClaim env worker lease n db = .ok r → ClaimResult env db r := by
  induction n with
  | zero => intro db r h; cases h; exact .of_none (.refl db)
  | succ n ih =>
    intro db r h
    unfold compareAndClaim at h
    split at h
    · cases h; exact .of_none (.refl db)
    · obtain ⟨⟨db₁, job⟩, hlane, h⟩ := bind_ok.mp h
      have hlane := claimLane_ok hlane
      cases job with
      | some job => cases h; exact hlane
      | none =>
        obtain ⟨db₂, hterm, ⟨_, hdb⟩ | ⟨job, hjob, _⟩⟩ := hlane
        · have hdb : db₁ = db₂ := hdb
          obtain ⟨db₃, hterm', hrest⟩ := ih (show compareAndClaim env worker lease n db₁ = .ok r from h)
          rw [hdb] at hterm'
          exact ⟨db₃, hterm.trans hterm', hrest⟩
        · cases hjob

theorem claimDueMail_ok {c r} (h : claimDueMail env c db = .ok r) :
    ∃ job, r.reply = .ok job ∧ ClaimResult env db (r.db, job) := by
  obtain ⟨_, _, _, hdue, ⟨_, job⟩, hclaim, h⟩ := peel₃ h
  cases h
  obtain ⟨db₃, hterm, hrest⟩ := compareAndClaim_ok hclaim
  exact ⟨job, rfl, db₃, (terminalizeDueIdentityMutations_ok hdue).trans hterm, hrest⟩

theorem Granted.moved {job} (h : Granted env db job db') :
    MailMoved db.mailOutbox db'.mailOutbox := by
  obtain ⟨m, ch, hg, rfl⟩ := h
  refine evolves_set .refl hg.mailMem rfl ⟨rfl, rfl, ?_, ?_, ?_⟩
  · show m.attempts ≤ m.attempts + 1
    omega
  · intro _
    show m.attempts + 1 ≤ m.maxAttempts
    exact hg.due.2.1
  · intro ht
    rw [hg.due.1.not_terminal] at ht
    cases ht

theorem ClaimResult.moved {r} (h : ClaimResult env db r) :
    MailMoved db.mailOutbox r.1.mailOutbox := by
  obtain ⟨_, hterm, ⟨_, hr⟩ | ⟨_, _, hg⟩⟩ := h
  · rw [hr]; exact hterm.mail.moved
  · exact hterm.mail.moved.trans hg.moved

/-! ## reports and maintenance -/

theorem finishMailAttempt_ok (h : finishMailAttempt env c db = .ok r) :
    ∃ m ∈ db.mailOutbox, HoldsLease env.databaseClock c.job m
      ∧ r.db = { db with mailOutbox := db.mailOutbox.set (finishedMail c m) } := by
  obtain ⟨row, hrow, _, _, h⟩ := peel₂ h
  cases h
  obtain ⟨hm, hh⟩ := find_ok hrow
  exact ⟨row, hm, hh, rfl⟩

theorem finishMailAttempt_moved (h : finishMailAttempt env c db = .ok r) :
    MailMoved db.mailOutbox r.db.mailOutbox := by
  obtain ⟨m, hm, hh, hr⟩ := finishMailAttempt_ok h
  have hopen : m.status.terminal = false := by rw [hh.2.1]; rfl
  rw [hr]
  exact evolves_set .refl hm rfl (.of_open hopen rfl rfl rfl)

theorem maintainShortTermData_mail (env) (c : MaintainShortTermData) (db) :
    MailMoved db.mailOutbox (maintainShortTermData env c db).mailOutbox := by
  -- whichever statement it is, the messages it ends were waiting
  have hended : ∀ (p : MailOutbox → Prop) [DecidablePred p] (f : MailOutbox → MailOutbox)
      (hf : ∀ m, (f m).id = m.id), (∀ m, p m → ActiveMail m) →
      (∀ m, (f m).maxAttempts = m.maxAttempts ∧ (f m).attempts = m.attempts) →
      MailMoved db.mailOutbox (db.mailOutbox.update p f hf) := by
    intro p _ f hf hp hkeep
    refine evolves_update MailMove.refl hf ?_
    intro m _ hm
    refine .of_open ?_ (hf m) (hkeep m).1 (hkeep m).2
    rcases hp m hm with h | h | h | h <;> rw [h] <;> rfl
  unfold maintainShortTermData
  split
  · apply hended
    · intro m; rfl
    · intro m h; exact h.1.2.1
    · intro m; exact ⟨rfl, rfl⟩
  · apply hended
    · intro m; rfl
    · intro m h; exact h.1.2.1
    · intro m; exact ⟨rfl, rfl⟩
  · exact .refl .refl _
  · exact .refl .refl _

/-! ## the calls of the ceremony -/

/-- what a call of the ceremony does to challenges and messages -/
structure MutationStep (db db' : Database) : Prop where
  frame : OnlyCeremony db db'
  mail : MailMoved db.mailOutbox db'.mailOutbox
  challenges : LoginChallengesKept db.emailChallenges db'.emailChallenges

theorem MutationStep.refl (db) : MutationStep db db := ⟨rfl, .refl .refl _, .refl _⟩

theorem Terminations.step (h : Terminations clock db db') : MutationStep db db' :=
  ⟨h.frame, h.mail.moved, h.challenges⟩

variable {c : CommitIdentityMutationEmailGeneration}

theorem sendMutationChallenge_step {slot method}
    (h : sendMutationChallenge env c db intent slot method = .ok r) : MutationStep db r.db := by
  obtain ⟨expiresAt, _, authorization, _, challenges, hch, h⟩ := peel₃ h
  obtain ⟨mail, hm, _, _, h⟩ := peel₂ h
  cases h
  refine ⟨rfl, (cancelMail_withdrawn env db _ _).moved.trans (enqueueMail_moved ⟨rfl, rfl⟩ hm), ?_⟩
  have hsup : LoginChallengesKept db.emailChallenges
      (supersedeChallenges db c.projectId c.owner env.databaseClock) := by
    apply LoginChallengesKept.update
    · intro ch hp
      rw [hp.2.1]
      trivial
    · intro ch
      rfl
  have hnew := (insertRow_ok hch).2
  refine hsup.trans fun o ho => (mem_insert hnew).trans ⟨fun h => h.resolve_right ?_, .inl⟩
  rintro rfl
  exact ho trivial

end OwlAuth
