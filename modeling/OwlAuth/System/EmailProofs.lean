import OwlAuth.Login.Challenges
import OwlAuth.System.LoginLifecycle

/-!
# Email proofs over whole runs

Checking a proof and consuming it are separate transactions, generations are superseded in between,
and a link may be opened in another browser.

* `step_challenges`  what any call does to the challenges of logins;
* `otpRejections`  the challenge against which a call compared a wrong code;
* `completedProofs`  the proof a call consumed;
* `CheckedFirst`  a proof is handed in for consumption only after a check accepted it;
* `ProofsOf`  the challenges of a login are within the bounds of its snapshot;
* `email_proofs_bounded`  the whole statement for every run.
-/

namespace OwlAuth

open Fallible Table Machine

/-! ## every call -/

structure LoginChallengesMoved (db db' : Database) : Prop where
  forward : ∀ ch ∈ db.emailChallenges, ¬ ch.owner.OfMutation →
    ∃ ch' ∈ db'.emailChallenges, ChallengeMove ch ch'
  backward : ∃ id, ∀ ch' ∈ db'.emailChallenges, ¬ ch'.owner.OfMutation →
    (∃ ch ∈ db.emailChallenges, ChallengeMove ch ch') ∨ (ch'.id = id ∧ FreshChallenge db ch')

variable {db db' : Database} {ch ch' : EmailChallenge} {s : LoginEmailMethodSnapshot} {t : Uuid}
  {v : VerifyEmailProof} {pre calls post : List Call}

theorem LoginChallengesMoved.of_moved
    (h : Evolves ChallengeMove (fun _ => False) db.emailChallenges db'.emailChallenges) :
    LoginChallengesMoved db db' where
  forward ch hch _ := h.forward ch hch
  backward := ⟨0, fun ch' hch' _ => (h.backward ch' hch').imp_right False.elim⟩

theorem LoginChallengesMoved.of_kept
    (h : LoginChallengesKept db.emailChallenges db'.emailChallenges) :
    LoginChallengesMoved db db' where
  forward ch hch ho := ⟨ch, (h ch ho).mpr hch, .refl ch⟩
  backward := ⟨0, fun ch' hch' ho => .inl ⟨ch', (h ch' ho).mp hch', .refl ch'⟩⟩

theorem LoginChallengesMoved.of_eq (h : db'.emailChallenges = db.emailChallenges) :
    LoginChallengesMoved db db' :=
  .of_moved (.of_eq .refl h)

theorem LoginOp.step_challenges (o : LoginOp) (env db) :
    LoginChallengesMoved db (o.step env db) := by
  have hr := (o.step_login env db).frame
  cases o with
  | commitEmailGeneration c =>
    refine execute_of (P := LoginChallengesMoved db) (.of_eq rfl) fun r h => ?_
    have hevolves := commitEmailGeneration_challenges h
    exact ⟨fun ch hch _ => hevolves.forward ch hch, c.challengeId,
      fun ch' hch' _ => hevolves.backward ch' hch'⟩
  | establishMagicTransferContext c =>
    refine execute_of (P := LoginChallengesMoved db) (.of_eq rfl) fun r h => ?_
    obtain ⟨_, hr⟩ := establishMagicTransferContext_frame h
    exact .of_eq (by rw [hr])
  | verifyEmailProof c =>
    exact execute_of (P := LoginChallengesMoved db) (.of_eq rfl)
      fun _ h => .of_moved (verifyEmailProof_challenges h)
  | _ => exact .of_eq (by rw [hr]; rfl)

theorem CompletionOp.step_challenges (o : CompletionOp) (env db) :
    LoginChallengesMoved db (o.step env db) := by
  have hstep := o.step_completion env db
  cases o with
  | completeEmailProof c =>
    refine execute_of (P := LoginChallengesMoved db) (.of_eq rfl) fun _ h => .of_moved ?_
    obtain ⟨_, _, _, hc, _, hr, _⟩ := completeEmailProof_challenge h
    rw [hr]
    exact evolves_set .refl (findProofTarget_ok hc.target).1.1 rfl (.ended nofun rfl)
  | _ =>
    rcases hstep with h | ⟨_, _, _, _, _, _, _, hr⟩
    · have hr := h.frame
      exact .of_eq (by rw [hr]; rfl)
    · exact .of_eq (by rw [hr]; rfl)

theorem MailOp.step_challenges (o : MailOp) (env db) : LoginChallengesMoved db (o.step env db) := by
  cases o with
  | claimDueMail c =>
    refine execute_of (P := LoginChallengesMoved db) (.of_eq rfl) fun r h => ?_
    obtain ⟨_, _, db₁, hterm, ⟨_, hr⟩ | ⟨_, _, _, _, _, hr⟩⟩ := claimDueMail_ok h
    · have hr : r.db = db₁ := hr
      rw [hr]; exact .of_kept hterm.challenges
    · dsimp only at hr
      refine .of_kept ?_
      rw [hr]; exact hterm.challenges
  | finishMailAttempt c =>
    refine execute_of (P := LoginChallengesMoved db) (.of_eq rfl) fun r h => ?_
    obtain ⟨_, _, _, hr⟩ := finishMailAttempt_ok h
    exact .of_eq (by rw [hr])
  | maintainShortTermData c =>
    show LoginChallengesMoved db (OwlAuth.maintainShortTermData env c db)
    unfold OwlAuth.maintainShortTermData
    split
    · exact .of_eq rfl
    · exact .of_eq rfl
    · refine .of_moved ?_
      apply evolves_update ChallengeMove.refl
      · intro ch
        rfl
      · intro ch _ _
        exact .ended nofun rfl
    · exact .of_eq rfl
  | changeMailAuthority c => exact .of_eq rfl

/-- **Every call** moves the challenges of logins as `ChallengeMove` says. -/
theorem step_challenges (call db) : LoginChallengesMoved db (step call db) := by
  have hr := step_only call db
  obtain ⟨env, op⟩ := call
  cases op with
  | login o => exact o.step_challenges env db
  | completion o => exact o.step_challenges env db
  | mutation o => exact .of_kept (o.step_mutation env db).challenges
  | mail o => exact o.step_challenges env db
  | confirmation c => exact .of_kept (step_confirmation env c db).challenges
  | _ => exact .of_eq (congrArg Database.emailChallenges hr :)

theorem run_challenge (calls) (hch : ch ∈ db.emailChallenges) (ho : ¬ ch.owner.OfMutation) :
    ∃ ch' ∈ (run db calls).emailChallenges, ChallengeMove ch ch' := by
  refine run_inv step
    (I := fun d : Database => ∃ ch' ∈ d.emailChallenges, ChallengeMove ch ch') ?_ calls
    ⟨ch, hch, .refl ch⟩
  rintro d call ⟨m, hm, hmove⟩
  obtain ⟨m', hm', hmove'⟩ := (step_challenges call d).forward m hm (by rw [hmove.owner]; exact ho)
  exact ⟨m', hm', hmove.trans hmove'⟩

theorem run_challenge_row (calls) (hch : ch ∈ db.emailChallenges)
    (ho : ¬ ch.owner.OfMutation) (hch' : ch' ∈ (run db calls).emailChallenges)
    (hid : ch'.id = ch.id) : ChallengeMove ch ch' := by
  obtain ⟨_, hm, hmove⟩ := run_challenge calls hch ho
  rw [eq_of_key hch' hm (hid.trans hmove.id.symm)]
  exact hmove

/-! ## snapshots -/

/-- a call keeps the snapshots, or adds that of a login it creates -/
inductive SnapshotStep (db db' : Database) : Prop
  | kept (h : db'.emailSnapshots = db.emailSnapshots)
  | added (s : LoginEmailMethodSnapshot) (inserted : db.emailSnapshots.insert s
        = some db'.emailSnapshots)
      (bounds : 1 ≤ s.method.otpMaxAttempts ∧ 1 ≤ s.method.maxGenerations)
      (absent : ∀ l ∈ db.logins, l.id ≠ s.transactionId)
      (created : ∃ l ∈ db'.logins, l.id = s.transactionId)

theorem LoginOp.step_snapshots (o : LoginOp) (env db) : SnapshotStep db (o.step env db) := by
  have hr := (o.step_login env db).frame
  cases o with
  | createLoginTransaction c =>
    refine execute_of (.kept rfl) fun r h => ?_
    obtain ⟨_, _, _, hi, hdb, _⟩ := createLoginTransaction_ok h
    rcases createLoginTransaction_snapshots h with hs | ⟨_, hattempts, hgenerations, hs⟩
    · exact .kept hs
    · refine .added _ hs ⟨hattempts, hgenerations⟩ (fun l hl => (insert_some hi).1 l hl) ?_
      rw [hdb]
      exact ⟨newLogin c, (mem_insert hi).mpr (.inr rfl), rfl⟩
  | _ => exact .kept (by rw [hr]; rfl)

theorem step_snapshots (call db) : SnapshotStep db (step call db) := by
  have hr := step_only call db
  obtain ⟨env, op⟩ := call
  cases op with
  | login o => exact o.step_snapshots env db
  | _ => exact .kept (congrArg Database.emailSnapshots hr :)

theorem step_snapshot_mem (call) (hs : s ∈ db.emailSnapshots) :
    s ∈ (step call db).emailSnapshots := by
  rcases step_snapshots call db with h | ⟨_, hi, _, _, _⟩
  · rw [h]; exact hs
  · exact (mem_insert hi).mpr (.inl hs)

/-! ## the challenges of one login -/

/-- the challenge is one of those the snapshot admits -/
structure AdmittedBy (s : LoginEmailMethodSnapshot) (ch : EmailChallenge) : Prop where
  projectId : ch.projectId = s.projectId
  otpMaxAttempts : ch.otpMaxAttempts = s.method.otpMaxAttempts
  generation_pos : 1 ≤ ch.generation
  generation_le : ch.generation ≤ s.method.maxGenerations
  otpAttempts : 0 ≤ ch.otpAttempts
  within : ch.status = .pending → ch.otpAttempts < ch.otpMaxAttempts

theorem ChallengeMove.admittedBy (hm : ChallengeMove ch ch') (h : AdmittedBy s ch) :
    AdmittedBy s ch' where
  projectId := hm.projectId.trans h.projectId
  otpMaxAttempts := hm.otpMaxAttempts.trans h.otpMaxAttempts
  generation_pos := by rw [hm.generation]; exact h.generation_pos
  generation_le := by rw [hm.generation]; exact h.generation_le
  otpAttempts := Int.le_trans h.otpAttempts hm.otpAttempts
  within := hm.within h.within

/-- the login `t` has at most one snapshot -/
structure SnapshotOf (t : Uuid) (db : Database) : Prop where
  owned : ∀ s ∈ db.emailSnapshots, s.transactionId = t → ∃ l ∈ db.logins, l.id = t
  bounds : ∀ s ∈ db.emailSnapshots, s.transactionId = t →
    1 ≤ s.method.otpMaxAttempts ∧ 1 ≤ s.method.maxGenerations
  single : ∀ s ∈ db.emailSnapshots, ∀ s' ∈ db.emailSnapshots, s.transactionId = t →
    s'.transactionId = t → s = s'

theorem step_snapshotOf (call) (h : SnapshotOf t db) : SnapshotOf t (step call db) := by
  have howned : ∀ s ∈ db.emailSnapshots, s.transactionId = t →
      ∃ l ∈ (step call db).logins, l.id = t := by
    intro s hs ht
    obtain ⟨l, hl, hid⟩ := h.owned s hs ht
    obtain ⟨l', hl', hf⟩ := (step_logins call db).forward l hl
    exact ⟨l', hl', hf.id.trans hid⟩
  rcases step_snapshots call db with heq | ⟨new, hi, hbounds, habsent, hcreated⟩
  · exact ⟨by rw [heq]; exact howned, by rw [heq]; exact h.bounds, by rw [heq]; exact h.single⟩
  · -- the snapshot of a new login is the first one of that login
    have hfirst : ∀ s ∈ db.emailSnapshots, s.transactionId = t → new.transactionId ≠ t := by
      intro s hs ht hnt
      obtain ⟨l, hl, hid⟩ := h.owned s hs ht
      exact habsent l hl (hid.trans hnt.symm)
    refine ⟨?_, ?_, ?_⟩
    · intro s hs ht
      rcases (mem_insert hi).mp hs with hs | rfl
      · exact howned s hs ht
      · rw [← ht]; exact hcreated
    · intro s hs ht
      rcases (mem_insert hi).mp hs with hs | rfl
      · exact h.bounds s hs ht
      · exact hbounds
    · intro s hs s' hs' ht ht'
      rcases (mem_insert hi).mp hs with hs | rfl <;>
        rcases (mem_insert hi).mp hs' with hs' | rfl
      · exact h.single s hs s' hs' ht ht'
      · exact absurd ht' (hfirst s hs ht)
      · exact absurd ht (hfirst s' hs' ht')
      · rfl

/-- the challenges of the login `t` are within the bounds of its one snapshot, one for each
generation -/
structure ProofsOf (t : Uuid) (db : Database) : Prop where
  snapshot : SnapshotOf t db
  admitted : ∀ ch ∈ db.emailChallenges, ch.owner = .login t →
    ∃ s ∈ db.emailSnapshots, s.transactionId = t ∧ AdmittedBy s ch
  generations : ∀ ch ∈ db.emailChallenges, ∀ ch' ∈ db.emailChallenges, ch.owner = .login t →
    ch'.owner = .login t → ch.generation = ch'.generation → ch.id = ch'.id

theorem ChallengeOwner.not_ofMutation {o : ChallengeOwner} (h : o = .login t) : ¬ o.OfMutation := by
  rw [h]; exact fun hf => hf

theorem step_challenges_of (call db) :
    ∃ new, ∀ ch' ∈ (step call db).emailChallenges, ch'.owner = .login t →
      (∃ ch ∈ db.emailChallenges, ch.owner = .login t ∧ ChallengeMove ch ch')
        ∨ (ch'.id = new ∧ FreshChallenge db ch') := by
  obtain ⟨new, hback⟩ := (step_challenges call db).backward
  refine ⟨new, fun ch' hch' ho => ?_⟩
  rcases hback ch' hch' (ChallengeOwner.not_ofMutation ho) with ⟨ch, hch, hm⟩ | hf
  · exact .inl ⟨ch, hch, hm.owner.symm.trans ho, hm⟩
  · exact .inr hf

theorem ProofsOf.fresh (h : ProofsOf t db) (hf : FreshChallenge db ch) (hch : ch.owner = .login t) :
    (∃ s ∈ db.emailSnapshots, s.transactionId = t ∧ AdmittedBy s ch)
      ∧ ∀ o ∈ db.emailChallenges, o.owner = .login t → o.generation < ch.generation := by
  obtain ⟨h₀, hpos, s, hs, hown, hproj, hmax, hle, hlt⟩ := hf
  have ht : s.transactionId = t := by
    rw [hch] at hown
    exact (ChallengeOwner.login.inj hown).symm
  have hattempts := (h.snapshot.bounds s hs ht).1
  refine ⟨⟨s, hs, ht, hproj, hmax, hpos, hle, by rw [h₀], fun _ => by rw [h₀, hmax]; omega⟩, ?_⟩
  intro o ho hoo
  obtain ⟨s', hs', ht', ha⟩ := h.admitted o ho hoo
  have hss : s' = s := h.snapshot.single s' hs' s hs ht' ht
  refine hlt o ho ?_ (hoo.trans hch.symm)
  rw [ha.projectId, hss, hproj]

theorem step_proofsOf (db call) (h : ProofsOf t db) : ProofsOf t (step call db) := by
  obtain ⟨new, hback⟩ := step_challenges_of (t := t) call db
  refine ⟨step_snapshotOf call h.snapshot, ?_, ?_⟩
  · intro ch' hch' ho
    have hadm : ∃ s ∈ db.emailSnapshots, s.transactionId = t ∧ AdmittedBy s ch' := by
      rcases hback ch' hch' ho with ⟨ch, hch, hcho, hm⟩ | ⟨_, hf⟩
      · obtain ⟨s, hs, hst, ha⟩ := h.admitted ch hch hcho
        exact ⟨s, hs, hst, hm.admittedBy ha⟩
      · exact (h.fresh hf ho).1
    obtain ⟨s, hs, hst, ha⟩ := hadm
    exact ⟨s, step_snapshot_mem call hs, hst, ha⟩
  · intro a' ha' b' hb' hao hbo hgen
    rcases hback a' ha' hao with ⟨a, ha, haown, hma⟩ | ⟨hia, hfa⟩ <;>
      rcases hback b' hb' hbo with ⟨b, hb, hbown, hmb⟩ | ⟨hib, hfb⟩
    · have hid := h.generations a ha b hb haown hbown
        (by rw [← hma.generation, ← hmb.generation]; exact hgen)
      rw [hma.id, hmb.id, hid]
    · have hlt := (h.fresh hfb hbo).2 a ha haown
      have := hma.generation
      omega
    · have hlt := (h.fresh hfa hao).2 b hb hbown
      have := hmb.generation
      omega
    · rw [hia, hib]

def NotStarted (t : Uuid) (db : Database) : Prop :=
  (∀ s ∈ db.emailSnapshots, s.transactionId ≠ t) ∧ ∀ ch ∈ db.emailChallenges, ch.owner ≠ .login t

theorem NotStarted.proofsOf (h : NotStarted t db) : ProofsOf t db where
  snapshot :=
    ⟨fun s hs ht => absurd ht (h.1 s hs), fun s hs ht => absurd ht (h.1 s hs),
      fun s hs _ _ ht _ => absurd ht (h.1 s hs)⟩
  admitted ch hch ho := absurd ho (h.2 ch hch)
  generations ch hch _ _ ho _ _ := absurd ho (h.2 ch hch)

theorem run_proofsOf (h : NotStarted t db) (calls) : ProofsOf t (run db calls) :=
  run_inv step step_proofsOf calls h.proofsOf

theorem run_snapshot_mem (calls) (hs : s ∈ db.emailSnapshots) : s ∈ (run db calls).emailSnapshots :=
  run_inv step (I := fun d : Database => s ∈ d.emailSnapshots)
    (fun _ call h => step_snapshot_mem call h) calls hs

/-! ## wrong codes -/

def WrongCode (v : VerifyEmailProof) (ch : EmailChallenge) : Prop :=
  v.proofKind = .otp ∧ proofDigest ch v.proofKind ≠ some v.proofDigest
  deriving Decidable

/-- the challenges against which a call compared a code that was not theirs -/
def otpRejections (call : Call) (db : Database) : List EmailChallenge :=
  match call.op with
  | .login (.verifyEmailProof v) =>
    match comparedProof v db with
    | .ok (some ch) => if WrongCode v ch then [ch] else []
    | _ => []
  | .completion (.completeEmailProof c) =>
    match comparedCompletion c db with
    | .ok (_, ch) => if WrongCode c.verification ch then [ch] else []
    | .error _ => []
  | _ => []

def rejectedCodes (t : Uuid) (call : Call) (db : Database) : List EmailChallenge :=
  (otpRejections call db).filter fun ch => decide (ch.owner = .login t)

def acceptedProofs (call : Call) (db : Database) : List VerifyEmailProof :=
  match call.op with
  | .login (.verifyEmailProof v) =>
    match answer (verifyEmailProof v db) with
    | .ok (.accepted _) => [v]
    | _ => []
  | _ => []

def completedProofs (call : Call) (db : Database) : List VerifyEmailProof :=
  match call.op with
  | .completion (.completeEmailProof c) =>
    match answer (completeEmailProof call.env c db) with
    | .ok _ => [c.verification]
    | .error _ => []
  | _ => []

/-- a proof is handed in for consumption only after a check accepted it -/
def CheckedFirst (db : Database) (calls : List Call) : Prop :=
  ∀ pre env c post, calls = pre ++ ⟨env, .completion (.completeEmailProof c)⟩ :: post →
    c.verification ∈ trace step acceptedProofs db pre

theorem acceptedProofs_mem {call} (h : v ∈ acceptedProofs call db) :
    ∃ login ch, Compared db v login ch ∧ proofDigest ch v.proofKind = some v.proofDigest := by
  unfold acceptedProofs at h
  split at h
  · rename_i w _
    split at h
    · rename_i accepted ha
      obtain rfl := List.mem_singleton.mp h
      obtain ⟨db', hr⟩ := answer_ok ha
      obtain ⟨ch, hch, hr⟩ := bind_ok.mp hr
      cases ch with
      | none => cases hr
      | some ch =>
        obtain ⟨login, hc⟩ := comparedProof_ok hch
        refine ⟨login, ch, hc, ?_⟩
        by_contra hne
        unfold decideProof at hr
        dsimp only at hr
        rw [if_neg hne] at hr
        cases hr
    · cases h
  · cases h

theorem accepted_proof_kept (h : v ∈ trace step acceptedProofs db pre)
    (hch : ch ∈ (run db pre).emailChallenges) (hid : ch.id = v.challengeId) :
    proofDigest ch v.proofKind = some v.proofDigest := by
  obtain ⟨_, call, after, rfl, hv⟩ := (mem_trace step acceptedProofs).mp h
  obtain ⟨_, o, hc, hd⟩ := acceptedProofs_mem hv
  obtain ⟨⟨ho, hoid, _, hown⟩, _⟩ := findProofTarget_ok hc.target
  rw [run_append] at hch
  have hmove : ChallengeMove o ch :=
    run_challenge_row (call :: after) ho (ChallengeOwner.not_ofMutation hown) hch
      (hid.trans hoid.symm)
  rw [← hd]
  cases v.proofKind with
  | otp => exact hmove.otp
  | magicLink => exact hmove.magic

theorem otpRejections_mem {call} (hchecked : CheckedFirst db calls)
    (hcalls : calls = pre ++ call :: post) (h : ch ∈ otpRejections call (run db pre)) :
    ∃ env v, call = ⟨env, .login (.verifyEmailProof v)⟩
      ∧ comparedProof v (run db pre) = .ok (some ch) ∧ WrongCode v ch := by
  obtain ⟨env, op⟩ := call
  unfold otpRejections at h
  dsimp only at h
  split at h
  · rename_i v
    split at h
    · rename_i o ho
      split at h
      · rename_i hwrong
        obtain rfl := List.mem_singleton.mp h
        exact ⟨env, v, rfl, ho, hwrong⟩
      · cases h
    · cases h
  · rename_i c
    split at h
    · rename_i login o ho
      split at h
      · rename_i hwrong
        have hc := comparedCompletion_ok ho
        obtain ⟨⟨hom, hoid, _, _⟩, _⟩ := findProofTarget_ok hc.target
        exact absurd (accepted_proof_kept (hchecked pre env c post hcalls) hom hoid) hwrong.2
      · cases h
    · cases h
  · cases h

theorem otpRejections_length (call db) : (otpRejections call db).length ≤ 1 := by
  unfold otpRejections
  split
  · split
    · split
      · exact Nat.le_refl 1
      · exact Nat.zero_le 1
    · exact Nat.zero_le 1
  · split
    · split
      · exact Nat.le_refl 1
      · exact Nat.zero_le 1
    · exact Nat.zero_le 1
  · exact Nat.zero_le 1

theorem rejectedCodes_mem {call} (hchecked : CheckedFirst db calls)
    (hcalls : calls = pre ++ call :: post) (h : ch ∈ rejectedCodes t call (run db pre)) :
    ch ∈ (run db pre).emailChallenges ∧ ch.owner = .login t ∧ ch.status = .pending
      ∧ ∃ ch' ∈ (run db (pre ++ [call])).emailChallenges, ChallengeMove ch ch'
        ∧ ch'.otpAttempts = ch.otpAttempts + 1 := by
  obtain ⟨hmem, ho⟩ := List.mem_filter.mp h
  obtain ⟨_, v, rfl, hcompared, hwrong⟩ := otpRejections_mem hchecked hcalls hmem
  obtain ⟨_, hc⟩ := comparedProof_ok hcompared
  obtain ⟨⟨hchm, _, _, _⟩, _⟩ := findProofTarget_ok hc.target
  refine ⟨hchm, of_decide_eq_true ho, hc.live.1, rejectedOtp v.now ch, ?_, rejectedOtp_move _ _,
    by unfold rejectedOtp; split <;> rfl⟩
  have hrejected : (execute (run db pre) (verifyEmailProof v (run db pre))).emailChallenges
      = (run db pre).emailChallenges.set (rejectedOtp v.now ch) := by
    unfold verifyEmailProof
    rw [hcompared]
    show (decideProof v _ (some ch)).db.emailChallenges = _
    unfold decideProof
    dsimp only
    rw [if_neg hwrong.2]
    show (rejectProof _ ch v).emailChallenges = _
    unfold rejectProof
    rw [if_pos hwrong.1]
  rw [run_snoc]
  exact hrejected ▸ mem_set_self _ hchm (rejectedOtp_id _ _)

theorem rejectedCodes_ordered (hnew : NotStarted t db) (hchecked : CheckedFirst db calls) :
    (trace step (rejectedCodes t) db calls).Pairwise fun a b =>
      a.generation = b.generation → a.otpAttempts < b.otpAttempts := by
  refine trace_pairwise step (rejectedCodes t) ?_ ?_
  · intro pre a post _
    exact pairwise_of_length_le_one
      (Nat.le_trans (List.length_filter_le _ _) (otpRejections_length a _))
  · intro pre a mid b post hcalls x hx y hy hgen
    obtain ⟨_, hxo, _, x', hx', hmove, hcount⟩ := rejectedCodes_mem hchecked hcalls hx
    have hcalls' : calls = (pre ++ a :: mid) ++ b :: post := by
      rw [hcalls, List.append_assoc]; rfl
    obtain ⟨hym, hyo, _, _⟩ := rejectedCodes_mem hchecked hcalls' hy
    have hsplit : run db (pre ++ a :: mid) = run (run db (pre ++ [a])) mid := by
      rw [← run_append, List.append_assoc]; rfl
    -- the challenge of the first code is that of the second: they are of one generation
    have hx'o : ¬ x'.owner.OfMutation := ChallengeOwner.not_ofMutation (hmove.owner.trans hxo)
    obtain ⟨x'', hx'', hmove'⟩ := run_challenge mid hx' hx'o
    rw [← hsplit] at hx''
    have hid : x''.id = y.id := by
      refine (run_proofsOf hnew (pre ++ a :: mid)).generations x'' hx'' y hym ?_ hyo ?_
      · rw [hmove'.owner, hmove.owner]; exact hxo
      · rw [hmove'.generation, hmove.generation]; exact hgen
    rw [eq_of_key hx'' hym hid] at hmove'
    have := hmove'.otpAttempts
    omega

theorem rejectedCodes_admitted (hnew : NotStarted t db) (hchecked : CheckedFirst db calls)
    (h : ch ∈ trace step (rejectedCodes t) db calls) :
    ∃ s ∈ (run db calls).emailSnapshots, s.transactionId = t ∧ AdmittedBy s ch
      ∧ ch.otpAttempts < s.method.otpMaxAttempts := by
  obtain ⟨pre, call, post, hcalls, hch⟩ := (mem_trace step (rejectedCodes t)).mp h
  obtain ⟨hm, ho, hpending, _⟩ := rejectedCodes_mem hchecked hcalls hch
  obtain ⟨s, hs, hst, ha⟩ := (run_proofsOf hnew pre).admitted ch hm ho
  refine ⟨s, ?_, hst, ha, ha.otpMaxAttempts ▸ ha.within hpending⟩
  rw [hcalls, run_append]
  exact run_snapshot_mem (call :: post) hs

/-! ## completions -/

/-- a login whose proof was consumed, or that has ended, waits for no proof any more -/
def PastProof (s : LoginTransactionStatus) : Bool :=
  match s with
  | .handoffIssued => true
  | .completed => true
  | .expired => true
  | .cancelled => true
  | .providerExchangeFailed => true
  | _ => false

theorem pastProof_closed : StatusClosed PastProof := by
  refine ⟨rfl, fun s s' h ha => ?_⟩
  unfold LoginTransactionStatus.Allowed at ha
  revert h ha
  cases s <;> cases s' <;> decide

theorem completedProofs_mem {call} (h : v ∈ completedProofs call db) :
    ∃ login ch, Compared db v login ch ∧ proofDigest ch v.proofKind = some v.proofDigest
      ∧ (∃ ch' ∈ (step call db).emailChallenges, ch'.id = ch.id ∧ ch'.owner = ch.owner
        ∧ ch'.status = .consumed)
      ∧ ∃ l ∈ (step call db).logins, l.id = login.id ∧ l.status = .handoffIssued := by
  obtain ⟨env, op⟩ := call
  unfold completedProofs at h
  dsimp only at h
  split at h
  · rename_i c
    split at h
    · rename_i issued ha
      obtain rfl := List.mem_singleton.mp h
      obtain ⟨db', hr⟩ := answer_ok ha
      have hstep : step ⟨env, .completion (.completeEmailProof c)⟩ db = db' := by
        show execute db (completeEmailProof env c db) = db'
        rw [hr]; rfl
      obtain ⟨login, ch, userId, hc, hdigest, hchallenges, hlogins⟩ :=
        completeEmailProof_challenge hr
      have hchallenges : db'.emailChallenges = _ := hchallenges
      have hlogins : db'.logins = _ := hlogins
      have hlogin := (findLogin_ok hc.loginFound).1
      have hch := (findProofTarget_ok hc.target).1.1
      refine ⟨login, ch, hc, hdigest, ?_, ?_⟩
      · rw [hstep, hchallenges]
        exact ⟨_, mem_set_self _ hch rfl, rfl, rfl, rfl⟩
      · rw [hstep, hlogins]
        exact ⟨_, mem_set_self _ hlogin rfl, rfl, rfl⟩
    · cases h
  · cases h

theorem completedProofs_length (call db) : (completedProofs call db).length ≤ 1 := by
  unfold completedProofs
  split
  · split
    · exact Nat.le_refl 1
    · exact Nat.zero_le 1
  · exact Nat.zero_le 1

def completionsOf (t : Uuid) (call : Call) (db : Database) : List VerifyEmailProof :=
  (completedProofs call db).filter fun v => decide (v.transactionId = t)

theorem completionsOf_le_one (t : Uuid) (db calls) :
    (trace step (completionsOf t) db calls).length ≤ 1 := by
  refine trace_le_one step (completionsOf t) ?_ ?_
  · intro call db
    exact Nat.le_trans (List.length_filter_le _ _) (completedProofs_length call db)
  · intro pre a mid b post _ v hv w hw
    obtain ⟨hv, hvt⟩ := List.mem_filter.mp hv
    obtain ⟨hw, hwt⟩ := List.mem_filter.mp hw
    obtain ⟨_, _, hc, _, _, l, hl, hlid, hls⟩ := completedProofs_mem hv
    obtain ⟨login', _, hc', _⟩ := completedProofs_mem hw
    obtain ⟨_, hid, _⟩ := findLogin_ok hc.loginFound
    obtain ⟨hl', hid', _⟩ := findLogin_ok hc'.loginFound
    have hsplit : Machine.run step db (pre ++ a :: mid)
        = run (step a (Machine.run step db pre)) mid := Machine.run_append step db pre (a :: mid)
    rw [hsplit] at hl'
    have hsame : login'.id = l.id := by
      rw [hid', hlid, hid, of_decide_eq_true hvt, of_decide_eq_true hwt]
    have hpast := run_login_row (P := fun l => PastProof l.status = true)
      (fun _ _ _ hf => hf.closed pastProof_closed) mid hl (by rw [hls]; rfl) hl' hsame
    rw [hc'.live.2.1] at hpast
    cases hpast

theorem completed_challenge_once {call w} (hw : w ∈ trace step completedProofs db pre)
    (hv : v ∈ completedProofs call (run db pre)) : w.challengeId ≠ v.challengeId := by
  intro hsame
  obtain ⟨before, a, after, rfl, hwa⟩ := (mem_trace step completedProofs).mp hw
  obtain ⟨_, _, hc, _, ⟨_, hch', hid', hown', hconsumed⟩, _⟩ := completedProofs_mem hwa
  obtain ⟨_, _, hc', _⟩ := completedProofs_mem hv
  obtain ⟨⟨_, hid, _, hown⟩, _⟩ := findProofTarget_ok hc.target
  obtain ⟨⟨ho, hoid, _, _⟩, _⟩ := findProofTarget_ok hc'.target
  have hsplit : run db (before ++ a :: after) = run (step a (run db before)) after :=
    run_append db before (a :: after)
  rw [hsplit] at ho
  have hmove := run_challenge_row after hch'
    (ChallengeOwner.not_ofMutation (hown'.trans hown)) ho
    (by rw [hoid, ← hsame, ← hid, hid'])
  have hpending := hmove.pending hc'.live.1
  rw [hconsumed] at hpending
  cases hpending

/-! ## the statement -/

/-- the proof may be consumed: it is that of the newest challenge of its login, still pending, before
every deadline, and presented by the bound browser or with a transfer context `unused` -/
def Consumable (db : Database) (v : VerifyEmailProof) (unused : MagicTransferContext → Prop) : Prop :=
  ∃ login ∈ db.logins, ∃ ch ∈ db.emailChallenges,
    login.id = v.transactionId ∧ ch.id = v.challengeId ∧ ch.owner = .login v.transactionId
      ∧ ch.status = .pending ∧ proofDigest ch v.proofKind = some v.proofDigest
      ∧ (∀ o ∈ db.emailChallenges, o.owner = .login v.transactionId → o.generation ≤ ch.generation)
      ∧ (∃ expiresAt ∈ proofExpiresAt ch v.proofKind, v.now < expiresAt)
      ∧ v.now < ch.expiresAt ∧ v.now < login.expiresAt
      ∧ ((v.transferContext = none ∧ HoldsCredentials login v)
        ∨ ∃ x ∈ db.transferContexts, Carries v x ∧ x.csrf = v.csrf ∧ x.status = .pending
          ∧ v.now < x.expiresAt ∧ unused x)

theorem completed_consumable {call} (hnew : NotStarted t db) (ht : v.transactionId = t)
    (hv : v ∈ completedProofs call (run db pre)) :
    Consumable (run db pre) v fun x => ∀ w ∈ trace step completedProofs db pre, ¬ Carries w x := by
  obtain ⟨login, ch, hc, hdigest, _⟩ := completedProofs_mem hv
  obtain ⟨hlogin, hlid, _⟩ := findLogin_ok hc.loginFound
  obtain ⟨⟨hch, hid, hproj, hown⟩, hauth⟩ := findProofTarget_ok hc.target
  obtain ⟨hpending, _, hnewest, hchexp, hlexp⟩ := hc.live
  have hproofs := run_proofsOf hnew pre
  refine ⟨login, hlogin, ch, hch, hlid, hid, hown, hpending, hdigest, ?_, hc.unexpired, hchexp,
    hlexp, ?_⟩
  · -- every challenge of the login is of its project, so the newest one of the project is the newest
    intro o ho hoo
    obtain ⟨s, hs, hst, ha⟩ := hproofs.admitted o ho (ht ▸ hoo)
    obtain ⟨s', hs', hst', ha'⟩ := hproofs.admitted ch hch (ht ▸ hown)
    have hss : s = s' := hproofs.snapshot.single s hs s' hs' hst hst'
    have hop : o.projectId = v.projectId := by
      rw [ha.projectId, hss, ← ha'.projectId]; exact hproj
    rw [hnewest]
    exact le_newestGeneration (mem_filter.mpr ⟨ho, hop, hoo⟩)
  · rcases validateEmailConfirmationAuthority_ok hauth with hheld | ⟨x, hx, hcarries, hrest⟩
    · exact .inl hheld
    · refine .inr ⟨x, hx, hcarries, hrest.1, hrest.2.1, hrest.2.2, fun w hw hwx => ?_⟩
      exact completed_challenge_once hw hv (hwx.1.symm.trans hcarries.1)

/-- **Email proofs are bounded.**  In every run that starts before the login `t` does, `t` is completed
at most once, and a completion consumes the proof of the newest challenge, while it is pending,
before every deadline, from the bound browser or with a transfer context no completion has used.  If
a proof is handed in for consumption only after a check accepted it, the wrong codes compared for `t`
are at most as many as its snapshot admits attempts for each generation, times its generations. -/
theorem email_proofs_bounded (t : Uuid) (db : Database) (hnew : NotStarted t db)
    (calls : List Call) :
    (CheckedFirst db calls →
      (trace step (rejectedCodes t) db calls = []
        ∨ ∃ s ∈ (run db calls).emailSnapshots, s.transactionId = t)
      ∧ ∀ s ∈ (run db calls).emailSnapshots, s.transactionId = t →
        ((trace step (rejectedCodes t) db calls).length : Int)
          ≤ s.method.otpMaxAttempts * s.method.maxGenerations)
    ∧ (trace step (completionsOf t) db calls).length ≤ 1
    ∧ ∀ pre call post, calls = pre ++ call :: post → ∀ v ∈ completedProofs call (run db pre),
      v.transactionId = t →
      Consumable (run db pre) v fun x =>
        ∀ w ∈ trace step completedProofs db pre, ¬ Carries w x := by
  refine ⟨fun hchecked => ⟨?_, ?_⟩, completionsOf_le_one t db calls, ?_⟩
  · cases h : trace step (rejectedCodes t) db calls with
    | nil => exact .inl rfl
    | cons ch l =>
      have hmem : ch ∈ trace step (rejectedCodes t) db calls := by
        rw [h]; exact List.mem_cons_self
      obtain ⟨s, hs, hst, _⟩ := rejectedCodes_admitted hnew hchecked hmem
      exact .inr ⟨s, hs, hst⟩
  · intro s hs hst
    have hbounds := (run_proofsOf hnew calls).snapshot.bounds s hs hst
    have hadmitted : ∀ ch ∈ trace step (rejectedCodes t) db calls,
        AdmittedBy s ch ∧ ch.otpAttempts < s.method.otpMaxAttempts := by
      intro ch hch
      obtain ⟨s', hs', hst', ha⟩ := rejectedCodes_admitted hnew hchecked hch
      rw [(run_proofsOf hnew calls).snapshot.single s hs s' hs' hst hst']
      exact ha
    refine length_le_of_levels EmailChallenge.generation EmailChallenge.otpAttempts
      (rejectedCodes_ordered hnew hchecked) ?_ ?_ (by omega) (by omega)
    · intro ch hch
      exact ⟨(hadmitted ch hch).1.generation_pos, (hadmitted ch hch).1.generation_le⟩
    · intro ch hch
      exact ⟨(hadmitted ch hch).1.otpAttempts, (hadmitted ch hch).2⟩
  · intro pre call post _ v hv ht
    exact completed_consumable hnew ht hv

/-! ## a login by code -/

def Op.consumesProof : Op → Bool
  | .completion o => o.byEmail
  | _ => false

theorem checkedFirst_of_none (h : ∀ call ∈ calls, call.op.consumesProof = false) :
    CheckedFirst db calls := by
  intro pre env c post hcalls
  have := h ⟨env, .completion (.completeEmailProof c)⟩ (by rw [hcalls]; simp)
  cases this

theorem CheckedFirst.snoc (h : CheckedFirst db calls) {env c}
    (hc : c.verification ∈ trace step acceptedProofs db calls) :
    CheckedFirst db (calls ++ [⟨env, .completion (.completeEmailProof c)⟩]) := by
  intro pre env' c' post hcalls
  rcases List.eq_nil_or_concat post with rfl | ⟨post', _, rfl⟩
  · obtain ⟨rfl, hlast⟩ := List.append_inj' hcalls rfl
    cases hlast
    exact hc
  · refine h pre env' c' post' ?_
    rw [List.concat_eq_append, ← List.cons_append, ← List.append_assoc] at hcalls
    exact (List.append_inj' hcalls rfl).1

namespace Demo

def startEmailLogin : Call := startWith 30 0 [] (some emailMethod)

def selectEmail : Call := visit (.selectEmailMethod ⟨1, 30, 2, ⟨301, 1⟩, ⟨302, 1⟩, seconds 2⟩)

def sendCodeCommand : CommitEmailGeneration :=
  ⟨⟨1, 2, 1, 31, 32, 1, ⟨310, 1⟩, [⟨310, 1⟩], ⟨List.replicate 41 0, 1⟩, some ⟨311, 1⟩, none,
    ⟨List.replicate 41 0, 1⟩, ⟨List.replicate 41 0, 1⟩, "<32.owl@example.test>"⟩, 30, 3, seconds 3,
    some (minutes 4), none, minutes 4⟩

def sendCode : Call := visit (.commitEmailGeneration sendCodeCommand)

def answerCode (digest : Nat) : VerifyEmailProof :=
  ⟨1, 30, 31, .otp, ⟨digest, 1⟩, some ⟨301, 1⟩, ⟨302, 1⟩, none, 4, seconds 20⟩

def checkCode (digest : Nat) : Call := visit (.verifyEmailProof (answerCode digest))

def consumeCode : CompleteEmailProof :=
  ⟨answerCode 311, 33, "usr_fledgling", 34, ⟨List.replicate 41 0, 1⟩, ⟨310, 1⟩, [⟨310, 1⟩],
    ⟨310, 1⟩, 1, 35, none, ⟨350, 1⟩, 36, ⟨360, 1⟩⟩

def guesses : List Call :=
  [startEmailLogin, bindBrowser, selectEmail, sendCode, checkCode 1, checkCode 2, checkCode 311]

def codeLogin : List Call :=
  guesses ++ [⟨env, .completion (.completeEmailProof consumeCode)⟩]

/-- the code is guessed by completions alone, which no check comes before -/
def uncheckedGuesses : List Call :=
  guesses.take 4 ++ List.replicate 26
    ⟨env, .completion (.completeEmailProof { consumeCode with verification := answerCode 1 })⟩

end Demo

theorem demo_code_login :
    (trace step (rejectedCodes 30) Demo.lodge Demo.codeLogin).map
        EmailChallenge.otpAttempts = [0, 1]
      ∧ (trace step (completionsOf 30) Demo.lodge Demo.codeLogin).length = 1
      ∧ ∀ s ∈ (run Demo.lodge Demo.codeLogin).emailSnapshots, s.transactionId = 30 →
        ((trace step (rejectedCodes 30) Demo.lodge Demo.codeLogin).length : Int)
          ≤ s.method.otpMaxAttempts * s.method.maxGenerations := by
  have hnew : NotStarted 30 Demo.lodge :=
    ⟨fun s hs => absurd hs (not_mem_empty s), fun ch hch => absurd hch (not_mem_empty ch)⟩
  have haccepted : Demo.consumeCode.verification
      ∈ trace step acceptedProofs Demo.lodge Demo.guesses := by
    decide +kernel
  have hchecked : CheckedFirst Demo.lodge Demo.codeLogin :=
    (checkedFirst_of_none (by decide)).snoc haccepted
  exact ⟨by decide +kernel, by decide +kernel,
    ((email_proofs_bounded 30 Demo.lodge hnew Demo.codeLogin).1 hchecked).2⟩

/-- A completion compares the code and does not count: twenty-six wrong ones are compared for a login
that admits twenty-five. -/
theorem unchecked_completions_not_counted :
    (trace step (rejectedCodes 30) Demo.lodge Demo.uncheckedGuesses).length = 26
      ∧ ∃ s ∈ (run Demo.lodge Demo.uncheckedGuesses).emailSnapshots.rows, s.transactionId = 30
        ∧ s.method.otpMaxAttempts * s.method.maxGenerations = 25 := by
  decide +kernel

end OwlAuth
