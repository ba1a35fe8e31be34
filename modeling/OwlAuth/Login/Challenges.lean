import OwlAuth.Login.Email

/-!
# What a call does to the challenges of a login

* `comparedCompletion`  the challenge whose stored digest a completion compares with the presented
    one, as `comparedProof` is for a check (`completeEmailProof_challenge`);
* `ChallengeMove`  a challenge keeps its proofs, loses no counted attempt and is never reopened;
* `FreshChallenge`  a challenge as a generation is committed.
-/

namespace OwlAuth

open Fallible Table

/-! ## where the comparison is made -/

variable {v : VerifyEmailProof} {db : Database} {challenge ch : EmailChallenge}
  {c : CompleteEmailProof} {r : Committed IssuedHandoff} {login : LoginTransaction}
  {env : Environment}

/-- the login and the challenge a completion compares, as a check does -/
def comparedCompletion (c : CompleteEmailProof) (db : Database) :
    Tx (LoginTransaction × EmailChallenge) := do
  let v := c.verification
  validateEmailCompletion c
  let login ← findLogin db v.projectId v.transactionId
  let _ ← lockLoginApplicationOwners db login
  let challenge ← findProofTarget db v login
  ensure (ChallengeLive db login challenge v) .invalidTransition
  revalidatePolicyAndSmtp db login challenge.applicationId challenge.authority v.now
  ensure (ProofUnexpired challenge v) .invalidTransition
  pure (login, challenge)

/-- a check that compared: the challenge is the one named, and it can be answered -/
structure Compared (db : Database) (v : VerifyEmailProof) (login : LoginTransaction)
    (challenge : EmailChallenge) : Prop where
  loginFound : findLogin db v.projectId v.transactionId = .ok login
  target : findProofTarget db v login = .ok challenge
  live : ChallengeLive db login challenge v
  unexpired : ProofUnexpired challenge v

theorem comparedProof_ok (h : comparedProof v db = .ok (some challenge)) :
    ∃ login, Compared db v login challenge := by
  obtain ⟨_, _, _, h⟩ := later₃ h
  obtain ⟨login, hl, owners, _, h⟩ := peel₂ h
  obtain ⟨_, _, ch, hch, h⟩ := peel₂ h
  split at h
  · rename_i hlive
    obtain ⟨_, h⟩ := later h
    split at h
    · rename_i hun
      cases h
      exact ⟨login, hl, hch, hlive, hun⟩
    · cases h
  · cases h

theorem comparedCompletion_ok {r}
    (h : comparedCompletion c db = .ok r) : Compared db c.verification r.1 r.2 := by
  obtain ⟨_, _, _, hl, _, _, h⟩ := peel₃ h
  obtain ⟨_, hch, _, hlive, h⟩ := peel₂ h
  obtain ⟨_, _, _, hun, h⟩ := peel₂ h
  cases h
  exact ⟨hl, hch, ensure_ok.mp hlive, ensure_ok.mp hun⟩

theorem findProofTarget_ok (h : findProofTarget db v login = .ok challenge) :
    (challenge ∈ db.emailChallenges ∧ challenge.id = v.challengeId
      ∧ challenge.projectId = v.projectId ∧ challenge.owner = .login v.transactionId)
      ∧ validateEmailConfirmationAuthority db login challenge v = .ok () := by
  obtain ⟨_, hch, _, _, _, hauth, h⟩ := peel₃ h
  cases h
  exact ⟨find_ok hch, hauth⟩

/-! ## one challenge -/

/-- the challenge keeps its proofs, loses no counted attempt and is never reopened -/
structure ChallengeMove (ch ch' : EmailChallenge) : Prop where
  id : ch'.id = ch.id
  projectId : ch'.projectId = ch.projectId
  owner : ch'.owner = ch.owner
  generation : ch'.generation = ch.generation
  otp : ch'.otp = ch.otp
  magic : ch'.magic = ch.magic
  otpMaxAttempts : ch'.otpMaxAttempts = ch.otpMaxAttempts
  otpAttempts : ch.otpAttempts ≤ ch'.otpAttempts
  pending : ch'.status = .pending → ch.status = .pending
  within : (ch.status = .pending → ch.otpAttempts < ch.otpMaxAttempts) →
    ch'.status = .pending → ch'.otpAttempts < ch'.otpMaxAttempts

theorem ChallengeMove.refl (ch : EmailChallenge) : ChallengeMove ch ch :=
  ⟨rfl, rfl, rfl, rfl, rfl, rfl, rfl, Int.le_refl _, fun h => h, fun h => h⟩

theorem ChallengeMove.trans {a b c} (h : ChallengeMove a b)
    (h' : ChallengeMove b c) : ChallengeMove a c where
  id := h'.id.trans h.id
  projectId := h'.projectId.trans h.projectId
  owner := h'.owner.trans h.owner
  generation := h'.generation.trans h.generation
  otp := h'.otp.trans h.otp
  magic := h'.magic.trans h.magic
  otpMaxAttempts := h'.otpMaxAttempts.trans h.otpMaxAttempts
  otpAttempts := Int.le_trans h.otpAttempts h'.otpAttempts
  pending hc := h.pending (h'.pending hc)
  within ha := h'.within (h.within ha)

theorem ChallengeMove.ended {ch'} (hs : ch'.status ≠ .pending) (h : ch' = { ch with
      status := ch'.status
      consumedAt := ch'.consumedAt
      terminalAt := ch'.terminalAt }) : ChallengeMove ch ch' := by
  have hpending : ch'.status = .pending → False := hs
  rw [h]
  exact ⟨rfl, rfl, rfl, rfl, rfl, rfl, rfl, Int.le_refl _, fun h => (hpending h).elim,
    fun _ h => (hpending h).elim⟩

@[simp] theorem rejectedOtp_id (now : Instant) (ch : EmailChallenge) :
    (rejectedOtp now ch).id = ch.id := by
  unfold rejectedOtp; split <;> rfl

theorem rejectedOtp_move (now) (ch : EmailChallenge) : ChallengeMove ch (rejectedOtp now ch) := by
  have hle : ch.otpAttempts ≤ ch.otpAttempts + 1 := by omega
  unfold rejectedOtp
  split
  · exact ⟨rfl, rfl, rfl, rfl, rfl, rfl, rfl, hle, nofun, nofun⟩
  · rename_i hmax
    refine ⟨rfl, rfl, rfl, rfl, rfl, rfl, rfl, hle, fun h => h, fun _ _ => ?_⟩
    show ch.otpAttempts + 1 < ch.otpMaxAttempts
    omega

/-! ## a new generation -/

theorem le_newestGeneration {challenges} (h : ch ∈ challenges) :
    ch.generation ≤ newestGeneration challenges := by
  induction challenges with
  | nil => cases h
  | cons o os ih =>
    show ch.generation ≤ max o.generation (newestGeneration os)
    rcases List.mem_cons.mp h with rfl | h
    · exact Int.le_max_left _ _
    · exact Int.le_trans (ih h) (Int.le_max_right _ _)

/-- the first challenge of its generation, with every attempt left, as the snapshot of its login
admits it -/
def FreshChallenge (db : Database) (ch : EmailChallenge) : Prop :=
  ch.otpAttempts = 0 ∧ 1 ≤ ch.generation
    ∧ ∃ s ∈ db.emailSnapshots, ch.owner = .login s.transactionId ∧ ch.projectId = s.projectId
      ∧ ch.otpMaxAttempts = s.method.otpMaxAttempts ∧ ch.generation ≤ s.method.maxGenerations
      ∧ ∀ o ∈ db.emailChallenges, o.projectId = ch.projectId → o.owner = ch.owner →
        o.generation < ch.generation

theorem commitEmailGeneration_challenges {c r} (h : commitEmailGeneration env c db = .ok r) :
    Evolves ChallengeMove (fun ch => ch.id = c.challengeId ∧ FreshChallenge db ch)
      db.emailChallenges r.db.emailChallenges := by
  obtain ⟨_, hv, login, _, snapshot, hsnap, h⟩ := peel₃ h
  obtain ⟨_, hgen, _, _, _, _, h⟩ := peel₃ h
  obtain ⟨_, _, authorization, _, h⟩ := peel₂ h
  obtain ⟨challenges, hins, mail, _, h⟩ := peel₂ h
  cases h
  obtain ⟨hsm, hsp, hst⟩ := find_ok hsnap
  obtain ⟨_, hnewest, hmax, _⟩ := ensure_ok.mp hgen
  have hpos : 1 ≤ c.expectedGeneration := by
    obtain ⟨_, _, _, hv, _⟩ := peel₂ hv
    exact (ensure_ok.mp hv).1
  have hfresh : FreshChallenge db
      (newChallenge c snapshot.method (authorization = .dispatch) env.databaseClock) := by
    refine ⟨rfl, hpos, snapshot, hsm, by rw [hst]; rfl, hsp.symm, rfl, hmax, ?_⟩
    intro o ho hop hoo
    have hmem : o ∈ challengesOf db c.projectId c.transactionId := mem_filter.mpr ⟨ho, hop, hoo⟩
    have hle := le_newestGeneration hmem
    show o.generation < c.expectedGeneration
    omega
  have hinsert := evolves_insert
    (N := fun ch => ch.id = c.challengeId ∧ FreshChallenge db ch) ChallengeMove.refl
    (insertRow_ok hins).2 ⟨rfl, hfresh⟩
  have hended : Evolves ChallengeMove (fun _ => False) db.emailChallenges
      (supersedeChallenges db c.projectId (.login c.transactionId) env.databaseClock) :=
    evolves_update .refl _ fun _ _ _ => .ended (fun h => nomatch h) rfl
  exact hended.trans (fun _ _ _ => ChallengeMove.trans) (fun _ _ => False.elim) hinsert

/-! ## checks and completions -/

theorem decideProof_challenges {ch} (hch : ∀ o ∈ ch, o ∈ db.emailChallenges) :
    Evolves ChallengeMove (fun _ => False) db.emailChallenges
      (decideProof v db ch).db.emailChallenges := by
  have kept : Evolves ChallengeMove (fun _ => False) db.emailChallenges db.emailChallenges :=
    .refl .refl _
  cases ch with
  | none => exact kept
  | some ch =>
    unfold decideProof
    dsimp only
    split
    · exact kept
    · show Evolves _ _ _ (rejectProof db ch v).emailChallenges
      unfold rejectProof
      split
      · exact evolves_set .refl (hch ch rfl) (rejectedOtp_id _ _) (rejectedOtp_move _ _)
      · exact kept

theorem verifyEmailProof_challenges {r} (h : verifyEmailProof v db = .ok r) :
    Evolves ChallengeMove (fun _ => False) db.emailChallenges r.db.emailChallenges := by
  obtain ⟨_, hch, h⟩ := bind_ok.mp h
  cases h
  refine decideProof_challenges fun o ho => ?_
  rw [ho] at hch
  obtain ⟨_, hc⟩ := comparedProof_ok hch
  exact (findProofTarget_ok hc.target).1.1

def HoldsCredentials (login : LoginTransaction) (v : VerifyEmailProof) : Prop :=
  login.csrf = some v.csrf ∧ ∃ b, v.browserBinding = some b ∧ login.browserBinding = some b

/-- the proof comes with the transfer context `x` -/
def Carries (v : VerifyEmailProof) (x : MagicTransferContext) : Prop :=
  x.challengeId = v.challengeId ∧ v.transferContext = some x.context

theorem validateEmailConfirmationAuthority_ok
    (h : validateEmailConfirmationAuthority db login challenge v = .ok ()) :
    (v.transferContext = none ∧ HoldsCredentials login v)
      ∨ ∃ x ∈ db.transferContexts, Carries v x ∧ x.csrf = v.csrf ∧ x.status = .pending
        ∧ v.now < x.expiresAt := by
  unfold validateEmailConfirmationAuthority at h
  split at h
  · rename_i context hcontext
    obtain ⟨_, _, x, hx, _⟩ := peel₂ h
    obtain ⟨hm, hch, hctx, hcsrf, hpending, hlt⟩ := find_ok hx
    exact .inr ⟨x, hm, ⟨hch, by rw [hcontext, hctx]⟩, hcsrf, hpending, hlt⟩
  · rename_i hnone
    obtain ⟨_, hcsrf, b, hb, h⟩ := peel₂ h
    exact .inl ⟨hnone, ensure_ok.mp hcsrf, b, require_ok.mp hb, ensure_ok.mp h⟩

theorem completeEmailProof_challenge (h : completeEmailProof env c db = .ok r) :
    ∃ login challenge userId, Compared db c.verification login challenge
      ∧ proofDigest challenge c.verification.proofKind = some c.verification.proofDigest
      ∧ r.db.emailChallenges
        = db.emailChallenges.set (consumedChallenge challenge c.verification.now)
      ∧ r.db.logins
        = db.logins.set (issuedLogin login userId c.verification.now c.verification.now) := by
  obtain ⟨_, _, login, hl, h⟩ := peel₂ h
  obtain ⟨_, _, challenge, hproved, h⟩ := peel₂ h
  obtain ⟨_, hch, _, hlive, hproved⟩ := peel₂ hproved
  obtain ⟨_, _, _, hun, _, hdigest, hproved⟩ := peel₃ hproved
  obtain ⟨_, _, hproved⟩ := later₂ hproved
  cases hproved
  obtain ⟨_, _, ⟨db₁, user⟩, hst, h⟩ := peel₂ h
  obtain ⟨⟨_, _⟩, _, ⟨_, _⟩, _, _, _, h⟩ := peel₃ h
  cases h
  obtain ⟨_, _, _, hf⟩ := storeEmailIdentity_frame hst
  dsimp only at hf
  refine ⟨login, challenge, user.id, ⟨hl, hch, ensure_ok.mp hlive, ensure_ok.mp hun⟩,
    ensure_ok.mp hdigest, ?_, ?_⟩
  · show db₁.emailChallenges.set _ = _
    rw [hf]
  · show db₁.logins.set _ = _
    rw [hf]

end OwlAuth
