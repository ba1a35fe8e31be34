import OwlAuth.System.Revisions

/-!
# Refused refreshes stay refused

A refresh is refused when the session, its family or its browser session no longer admits it.  Of
these the browser session is shared: a later login in the same browser renews its row in place.
So a refusal lasts, except that a deadline is compared with the clock of the replica that serves
the call, and that the deadlines of a browser session can be moved by a completed login.

* `BrowserChange`, `step_browsers`  what any call can do to the browser sessions;
* `CapturesBehind`  nothing captured a revision ahead of its owner, and no session one ahead of
    its browser session;
* `Lapse`, `Lapsed`  why a session is not refreshed;
* `refused_refresh_stays_refused`  the whole statement for every run.
-/

namespace OwlAuth

open Fallible Table Machine

/-! ## browser sessions -/

def Op.completes : Op → Bool
  | .completion _ => true
  | _ => false

/-- what a call can do to the browser sessions: only the completion of a login does more than end
them -/
inductive BrowserChange (db db' : Database) : Bool → Prop
  | quiet (h : Evolves BrowserEnd (fun _ => False) db.browserSessions db'.browserSessions) :
      BrowserChange db db' false
  | completed (h : Evolves (BrowserMove (CapturesNow db')) (CapturesNow db')
      db.browserSessions db'.browserSessions) : BrowserChange db db' true

variable {db db' : Database} {es : List CommitHandoffExchange} {k : CapturedRevisions}
  {b b' : BrowserSession} {s s' : ApplicationSession} {f : RefreshFamily} {id : Uuid}
  {calls : List Call}

theorem BrowserChange.of_eq (h : db'.browserSessions = db.browserSessions) :
    BrowserChange db db' false :=
  .quiet (.of_eq .refl h)

theorem SessionStep.browsers {env} (h : SessionStep env db db' es) :
    BrowserChange db db' false := by
  cases h with
  | exchanged c ticket login owners binding projection db₁ _ _ _ _ _ hviews _ =>
    obtain ⟨_, _, _, _, _, rfl⟩ := hviews.only
    exact .of_eq rfl
  | browserEnded b now logouts hb hs =>
    exact .quiet (evolves_set .refl hb rfl (.inr ⟨hs, now, rfl⟩))
  | _ => exact .of_eq rfl

theorem RevocationStep.browsers (h : RevocationStep db db') : BrowserChange db db' false := by
  rcases h with rfl | ⟨_, _, _, _, rfl⟩ | ⟨_, now, hb, hs, rfl⟩
  · exact .of_eq rfl
  · exact .of_eq rfl
  · exact .quiet (evolves_set .refl hb rfl (.inr ⟨hs, now, rfl⟩))

/-- **Every call** changes the browser sessions as `BrowserChange` says. -/
theorem step_browsers (call db) : BrowserChange db (step call db) call.op.completes := by
  have hr := step_only call db
  obtain ⟨env, op⟩ := call
  cases op with
  | completion o =>
    show BrowserChange db (o.step env db) true
    rcases o.step_completion env db with ⟨hr, _⟩ | ⟨_, _, _, _, _, hb, _, _⟩
    · rw [hr]; exact .completed (.of_eq .refl rfl)
    · exact .completed hb
  | session o => exact (o.step_session env db).browsers
  | revocation o => exact (o.step_revocation db).browsers
  | confirmation c => exact .quiet (step_confirmation env c db).ended.browsers
  | _ => exact .of_eq (congrArg Database.browserSessions hr :)

theorem BrowserChange.moved {completes} (h : BrowserChange db db' completes) :
    Evolves (BrowserMove (CapturesNow db')) (CapturesNow db') db.browserSessions
      db'.browserSessions := by
  cases h with
  | quiet h => exact h.mono (fun _ _ => BrowserEnd.move) (fun _ => False.elim)
  | completed h => exact h

/-! ## no capture is ahead -/

/-- the captured revisions are at most the current ones -/
structure NotAhead (db : Database) (k : CapturedRevisions) : Prop where
  project : ∃ p ∈ db.projects, p.id = k.projectId
    ∧ k.projectSecurityRevision ≤ p.securityRevision
  application : ∃ a ∈ db.applications, a.id = k.applicationId
    ∧ k.applicationSecurityRevision ≤ a.securityRevision
  user : ∃ u ∈ db.users, u.id = k.userId ∧ k.userSecurityRevision ≤ u.securityRevision
  policy : ∃ p ∈ db.policies, p.projectId = k.projectId
    ∧ k.claimsRevision ≤ p.claimsRevision ∧ k.policySessionRevision ≤ p.sessionRevision

theorem NotAhead.later (h : NotAhead db k) (ho : OwnersMove db db') : NotAhead db' k := by
  obtain ⟨⟨p, hp, hpid, hple⟩, ⟨a, ha, haid, hale⟩, ⟨u, hu, huid, hule⟩, ⟨q, hq, hqid, hqc, hqs⟩⟩ := h
  obtain ⟨p', hp', hpm⟩ := ho.projects.forward p hp
  obtain ⟨a', ha', ham⟩ := ho.applications.forward a ha
  obtain ⟨u', hu', hum⟩ := ho.users.forward u hu
  obtain ⟨q', hq', hqm⟩ := ho.policies.forward q hq
  exact ⟨⟨p', hp', hpm.id.trans hpid, Int.le_trans hple hpm.securityRevision⟩,
    ⟨a', ha', ham.id.trans haid, Int.le_trans hale ham.securityRevision⟩,
    ⟨u', hu', hum.id.trans huid, Int.le_trans hule hum.securityRevision⟩,
    ⟨q', hq', hqm.projectId.trans hqid, Int.le_trans hqc hqm.claimsRevision,
      Int.le_trans hqs hqm.sessionRevision⟩⟩

theorem Agrees.notAhead {project application user policy}
    (h : Agrees db k project application user policy) : NotAhead db k :=
  ⟨⟨project, h.projectMem, h.projectId, Int.le_of_eq h.project.symm⟩,
    ⟨application, h.applicationMem, h.applicationId, Int.le_of_eq h.application.symm⟩,
    ⟨user, h.userMem, h.userId, Int.le_of_eq h.user.symm⟩,
    ⟨policy, h.policyMem, h.policyId, Int.le_of_eq h.claims.symm, Int.le_of_eq h.session.symm⟩⟩

/-- the revisions a browser session captured are at most the current ones -/
structure BrowserBehind (db : Database) (b : BrowserSession) : Prop where
  project : ∃ p ∈ db.projects, p.id = b.projectId
    ∧ b.projectSecurityRevision ≤ p.securityRevision
  user : ∃ u ∈ db.users, u.id = b.userId ∧ b.userSecurityRevision ≤ u.securityRevision
  policy : ∃ p ∈ db.policies, p.projectId = b.projectId
    ∧ b.policySessionRevision ≤ p.sessionRevision

theorem CapturesNow.behind (h : CapturesNow db b) : BrowserBehind db b := by
  obtain ⟨⟨p, hp, hpid, hpr⟩, ⟨u, hu, huid, hur⟩, ⟨q, hq, hqid, hqr⟩⟩ := h
  exact ⟨⟨p, hp, hpid, Int.le_of_eq hpr.symm⟩, ⟨u, hu, huid, Int.le_of_eq hur.symm⟩,
    ⟨q, hq, hqid, Int.le_of_eq hqr.symm⟩⟩

theorem BrowserBehind.later (h : BrowserBehind db b) (ho : OwnersMove db db')
    (hp : b'.projectId = b.projectId) (hu : b'.userId = b.userId) (hs : SameCapture b b') :
    BrowserBehind db' b' := by
  obtain ⟨⟨p, hpm, hpid, hple⟩, ⟨u, hum, huid, hule⟩, ⟨q, hqm, hqid, hqle⟩⟩ := h
  obtain ⟨p', hp', hpmove⟩ := ho.projects.forward p hpm
  obtain ⟨u', hu', humove⟩ := ho.users.forward u hum
  obtain ⟨q', hq', hqmove⟩ := ho.policies.forward q hqm
  refine ⟨⟨p', hp', ?_, ?_⟩, ⟨u', hu', ?_, ?_⟩, ⟨q', hq', ?_, ?_⟩⟩
  · rw [hpmove.id, hpid, hp]
  · rw [hs.project]; exact Int.le_trans hple hpmove.securityRevision
  · rw [humove.id, huid, hu]
  · rw [hs.user]; exact Int.le_trans hule humove.securityRevision
  · rw [hqmove.projectId, hqid, hp]
  · rw [hs.policy]; exact Int.le_trans hqle hqmove.sessionRevision

structure BehindBrowser (s : ApplicationSession) (b : BrowserSession) : Prop where
  projectId : b.projectId = s.projectId
  userId : b.userId = s.userId
  project : s.projectSecurityRevision ≤ b.projectSecurityRevision
  user : s.userSecurityRevision ≤ b.userSecurityRevision
  policy : s.policySessionRevision ≤ b.policySessionRevision

theorem SessionKept.behindBrowser (h : SessionKept s s') (hb : BehindBrowser s b) :
    BehindBrowser s' b := by
  have hc := h.captured
  obtain ⟨hp, _, hu, hpr, _, hur, _, hqr⟩ := CapturedRevisions.mk.inj hc
  refine ⟨hb.projectId.trans hp.symm, hb.userId.trans hu.symm, ?_, ?_, ?_⟩
  · rw [hpr]; exact hb.project
  · rw [hur]; exact hb.user
  · rw [hqr]; exact hb.policy

structure CapturesBehind (db : Database) : Prop where
  sessions : ∀ s ∈ db.sessions, NotAhead db s.captured
  browsers : ∀ b ∈ db.browserSessions, BrowserBehind db b
  links : ∀ s ∈ db.sessions, ∀ id, s.browserSessionId = some id →
    ∃ b ∈ db.browserSessions, b.id = id ∧ BehindBrowser s b

theorem RefreshChange.opened_or_kept (h : RefreshChange db db' es) (hs : s' ∈ db'.sessions) :
    (∃ s ∈ db.sessions, SessionKept s s')
      ∨ ∃ c ticket login owners binding, ExchangeAccepted db c ticket login owners
          ∧ s' = openedSession c ticket owners binding := by
  cases h with
  | quiet hss _ _ =>
    obtain ⟨s, hm, hmove⟩ := hss.source hs
    exact .inl ⟨s, hm, hmove.sessionKept⟩
  | opened c _ _ _ _ _ _ _ hss _ _ _ haccepted =>
    rcases (mem_insert hss).mp hs with hs | rfl
    · exact .inl ⟨s', hs, .refl s'⟩
    · exact .inr ⟨c, haccepted⟩
  | rotated _ _ _ _ _ _ _ hss => exact .inl ⟨s', by rw [← hss]; exact hs, .refl s'⟩

theorem ExchangeAccepted.opened {c ticket login owners}
    (h : ExchangeAccepted db c ticket login owners) (binding : ApplicationUserBinding) :
    Agrees db (openedSession c ticket owners binding).captured owners.project owners.application
        owners.user owners.policy
      ∧ owners.browser ∈ db.browserSessions
      ∧ BehindBrowser (openedSession c ticket owners binding) owners.browser := by
  obtain ⟨hp, ha, hu, hpol, hb, _, _, ⟨hbp, hbu, hbs⟩, _⟩ := checkExchangeOwners_ok h.owners
  obtain ⟨hpm, hpid⟩ := findProject_ok hp
  obtain ⟨ham, haid, _⟩ := findApplication_ok ha
  obtain ⟨hum, huid, _⟩ := findUser_ok hu
  obtain ⟨hpolm, hpolid⟩ := findPolicy_ok hpol
  obtain ⟨hbm, _, hbproject, hbuser⟩ := find_ok hb
  exact ⟨⟨hpm, hpid, ham, haid, hum, rfl, hpolm, hpolid, rfl, rfl, rfl, rfl, rfl⟩, hbm,
    ⟨hbproject, hbuser.trans huid.symm, Int.le_of_eq hbp.symm, Int.le_of_eq hbu.symm,
      Int.le_of_eq hbs.symm⟩⟩

theorem BehindBrowser.later (h : BehindBrowser s b) (ho : OwnersMove db db')
    (hb : b ∈ db.browserSessions) (hbehind : BrowserBehind db b)
    (hbrowsers : Evolves (BrowserMove (CapturesNow db')) (CapturesNow db')
      db.browserSessions db'.browserSessions) :
    ∃ b' ∈ db'.browserSessions, b'.id = b.id ∧ BehindBrowser s b' := by
  obtain ⟨b', hb', hm⟩ := hbrowsers.forward b hb
  refine ⟨b', hb', hm.id, ?_⟩
  rcases hm.captured with hsame | hnow
  · refine ⟨hm.projectId.trans h.projectId, hm.userId.trans h.userId, ?_, ?_, ?_⟩
    · rw [hsame.project]; exact h.project
    · rw [hsame.user]; exact h.user
    · rw [hsame.policy]; exact h.policy
  · obtain ⟨⟨p', hp', hpid', hpr⟩, ⟨u', hu', huid', hur⟩, ⟨q', hq', hqid', hqr⟩⟩ := hnow
    obtain ⟨⟨p, hpm, hpid, hple⟩, ⟨u, hum, huid, hule⟩, ⟨q, hqm, hqid, hqle⟩⟩ :=
      hbehind.later ho rfl rfl (.refl b)
    -- a key names one row, so both statements are about the same owners
    obtain rfl : p = p' := eq_of_key hpm hp' (hpid.trans (hm.projectId.symm.trans hpid'.symm))
    obtain rfl : u = u' := eq_of_key hum hu' (huid.trans (hm.userId.symm.trans huid'.symm))
    obtain rfl : q = q' := eq_of_key hqm hq' (hqid.trans (hm.projectId.symm.trans hqid'.symm))
    refine ⟨hm.projectId.trans h.projectId, hm.userId.trans h.userId, ?_, ?_, ?_⟩
    · rw [← hpr]; exact Int.le_trans h.project hple
    · rw [← hur]; exact Int.le_trans h.user hule
    · rw [← hqr]; exact Int.le_trans h.policy hqle

theorem CapturesBehind.step (hi : CapturesBehind db) (call) : CapturesBehind (step call db) := by
  have ho := step_owners call db
  have hbrowsers := (step_browsers call db).moved
  have hsource := fun s' (hs' : s' ∈ (OwlAuth.step call db).sessions) =>
    (step_refresh call db).opened_or_kept hs'
  constructor
  · intro s' hs'
    rcases hsource s' hs' with ⟨s, hs, hk⟩ | ⟨c, ticket, login, owners, binding, ha, rfl⟩
    · rw [hk.captured]; exact (hi.sessions s hs).later ho
    · exact (ha.opened binding).1.notAhead.later ho
  · intro b' hb'
    rcases hbrowsers.backward b' hb' with ⟨b, hb, hm⟩ | hnow
    · rcases hm.captured with hsame | hnow
      · exact (hi.browsers b hb).later ho hm.projectId hm.userId hsame
      · exact hnow.behind
    · exact hnow.behind
  · intro s' hs' id hid
    rcases hsource s' hs' with ⟨s, hs, hk⟩ | ⟨c, ticket, login, owners, binding, ha, rfl⟩
    · obtain ⟨b, hb, hbid, hlink⟩ := hi.links s hs id (hk.browserSessionId.symm.trans hid)
      obtain ⟨b', hb', hid', hlink'⟩ := hlink.later ho hb (hi.browsers b hb) hbrowsers
      exact ⟨b', hb', hid'.trans hbid, hk.behindBrowser hlink'⟩
    · obtain ⟨_, hb, hlink⟩ := ha.opened binding
      obtain ⟨b', hb', hid', hlink'⟩ := hlink.later ho hb (hi.browsers _ hb) hbrowsers
      exact ⟨b', hb', hid'.trans (Option.some.inj hid), hlink'⟩

/-! ## one family for each session -/

def SingleFamily (db : Database) : Prop :=
  ∀ f ∈ db.families, ∀ f' ∈ db.families, f.applicationSessionId = f'.applicationSessionId → f = f'

theorem RefreshChange.singleFamily (h : RefreshChange db db' es) (hi : RefreshInv db)
    (hone : SingleFamily db) : SingleFamily db' := by
  cases h with
  | quiet _ hfs _ =>
    intro f₁ h₁ f₂ h₂ he
    obtain ⟨o₁, ho₁, hend₁⟩ := hfs.source h₁
    obtain ⟨o₂, ho₂, hend₂⟩ := hfs.source h₂
    have hk₁ := hend₁.familyKept
    have hk₂ := hend₂.familyKept
    have hsame : o₁ = o₂ := hone o₁ ho₁ o₂ ho₂
      (hk₁.applicationSessionId.symm.trans (he.trans hk₂.applicationSessionId))
    exact eq_of_key h₁ h₂ (hk₁.id.trans ((congrArg RefreshFamily.id hsame).trans hk₂.id.symm))
  | opened _ s f _ ho _ _ _ hss hfs =>
    -- the id of the new session was free, so no old family can name it
    have hother : ∀ o ∈ db.families, o.applicationSessionId ≠ f.applicationSessionId := by
      intro o hom he
      obtain ⟨s₀, hs₀, hown⟩ := hi.sessions o hom
      exact (insert_some hss).1 s₀ hs₀ (hown.id.trans (he.trans ho.id.symm))
    intro f₁ h₁ f₂ h₂ he
    rcases (mem_insert hfs).mp h₁ with h₁ | rfl <;>
      rcases (mem_insert hfs).mp h₂ with h₂ | rfl
    · exact hone f₁ h₁ f₂ h₂ he
    · exact absurd he (hother f₁ h₁)
    · exact absurd he.symm (hother f₂ h₂)
    · rfl
  | rotated f₀ _ _ _ hf₀ _ _ _ hfs =>
    intro f₁ h₁ f₂ h₂ he
    rcases (rotated_family hf₀ hfs).mp h₁ with ⟨h₁, hne₁⟩ | rfl <;>
      rcases (rotated_family hf₀ hfs).mp h₂ with ⟨h₂, hne₂⟩ | rfl
    · exact hone f₁ h₁ f₂ h₂ he
    · exact absurd (hone f₁ h₁ f₀ hf₀ he) hne₁
    · exact absurd (hone f₂ h₂ f₀ hf₀ he.symm) hne₂
    · rfl

theorem run_singleFamily (hi : RefreshInv db) (hone : SingleFamily db) (calls) :
    SingleFamily (run db calls) :=
  (run_inv (I := fun db => RefreshInv db ∧ SingleFamily db) step
    (fun db call h => ⟨(step_refresh call db).inv h.1, (step_refresh call db).singleFamily h.1 h.2⟩)
    calls ⟨hi, hone⟩).2

/-! ## why a session is not refreshed -/

inductive Lapse
  | status | lifetime | revision | browserStatus | browserLifetime | browserRevision
  deriving DecidableEq

def Lapse.isDeadline : Lapse → Bool
  | lifetime => true
  | browserLifetime => true
  | _ => false

/-- the session, its family or its browser session does not admit a refresh at `now` -/
inductive Lapsed (db : Database) (s : ApplicationSession) (f : RefreshFamily) (now : Instant) :
    Lapse → Prop
  | status (h : s.status ≠ .active ∨ f.status ≠ .active) : Lapsed db s f now .status
  | lifetime (h : s.absoluteExpiresAt ≤ now ∨ f.absoluteExpiresAt ≤ now) :
      Lapsed db s f now .lifetime
  | revision (h : SomeRevision (· ≠ ·) db s.captured) : Lapsed db s f now .revision
  | browserStatus (b : BrowserSession) (mem : b ∈ db.browserSessions)
      (id : s.browserSessionId = some b.id) (h : b.status ≠ .active) :
      Lapsed db s f now .browserStatus
  | browserLifetime (b : BrowserSession) (mem : b ∈ db.browserSessions)
      (id : s.browserSessionId = some b.id)
      (h : b.idleExpiresAt ≤ now ∨ b.absoluteExpiresAt ≤ now) : Lapsed db s f now .browserLifetime
  | browserRevision (b : BrowserSession) (project : Project) (user : ProjectUser)
      (policy : ProjectPolicy) (mem : b ∈ db.browserSessions) (id : s.browserSessionId = some b.id)
      (projectFound : findProject db s.projectId = .ok project)
      (userFound : findUser db s.projectId s.userId = .ok user)
      (policyFound : findPolicy db s.projectId = .ok policy)
      (h : ¬ BrowserCurrent project user policy b) : Lapsed db s f now .browserRevision

/-- a captured revision that differs was passed, since none is ahead -/
theorem NotAhead.passed (h : NotAhead db k) (hd : SomeRevision (· ≠ ·) db k) : Passed db k := by
  obtain ⟨⟨p, hp, hpid, hple⟩, ⟨a, ha, haid, hale⟩, ⟨u, hu, huid, hule⟩, ⟨q, hq, hqid, hqc, hqs⟩⟩ := h
  cases hd with
  | project p' hp' hid hne =>
    obtain rfl : p' = p := eq_of_key hp' hp (hid.trans hpid.symm)
    exact .project p' hp' hid (Int.lt_iff_le_and_ne.mpr ⟨hple, hne⟩)
  | application a' ha' hid hne =>
    obtain rfl : a' = a := eq_of_key ha' ha (hid.trans haid.symm)
    exact .application a' ha' hid (Int.lt_iff_le_and_ne.mpr ⟨hale, hne⟩)
  | user u' hu' hid hne =>
    obtain rfl : u' = u := eq_of_key hu' hu (hid.trans huid.symm)
    exact .user u' hu' hid (Int.lt_iff_le_and_ne.mpr ⟨hule, hne⟩)
  | claims q' hq' hid hne =>
    obtain rfl : q' = q := eq_of_key hq' hq (hid.trans hqid.symm)
    exact .claims q' hq' hid (Int.lt_iff_le_and_ne.mpr ⟨hqc, hne⟩)
  | session q' hq' hid hne =>
    obtain rfl : q' = q := eq_of_key hq' hq (hid.trans hqid.symm)
    exact .session q' hq' hid (Int.lt_iff_le_and_ne.mpr ⟨hqs, hne⟩)

theorem CapturesBehind.passed_of_browser (hi : CapturesBehind db) {project user policy}
    (hs : s ∈ db.sessions) (hb : b ∈ db.browserSessions) (hid : s.browserSessionId = some b.id)
    (hp : findProject db s.projectId = .ok project)
    (hu : findUser db s.projectId s.userId = .ok user)
    (hpol : findPolicy db s.projectId = .ok policy) (h : ¬ BrowserCurrent project user policy b) :
    Passed db s.captured := by
  obtain ⟨b', hb', hbid, hlink⟩ := hi.links s hs b.id hid
  obtain rfl : b' = b := eq_of_key hb' hb hbid
  obtain ⟨⟨p, hpm, hpid, hple⟩, ⟨u, hum, huid, hule⟩, ⟨q, hqm, hqid, hqle⟩⟩ := hi.browsers b' hb
  obtain ⟨hpm', hpid'⟩ := findProject_ok hp
  obtain ⟨hum', huid', _⟩ := findUser_ok hu
  obtain ⟨hqm', hqid'⟩ := findPolicy_ok hpol
  obtain rfl : p = project := eq_of_key hpm hpm' (hpid.trans (hlink.projectId.trans hpid'.symm))
  obtain rfl : u = user := eq_of_key hum hum' (huid.trans (hlink.userId.trans huid'.symm))
  obtain rfl : q = policy := eq_of_key hqm hqm' (hqid.trans (hlink.projectId.trans hqid'.symm))
  by_cases h₁ : b'.projectSecurityRevision = p.securityRevision
  · by_cases h₂ : b'.userSecurityRevision = u.securityRevision
    · have h₃ : b'.policySessionRevision ≠ q.sessionRevision := fun he => h ⟨h₁, h₂, he⟩
      exact .session q hqm hqid' (Int.lt_of_le_of_lt hlink.policy (Int.lt_iff_le_and_ne.mpr ⟨hqle, h₃⟩))
    · exact .user u hum huid' (Int.lt_of_le_of_lt hlink.user (Int.lt_iff_le_and_ne.mpr ⟨hule, h₂⟩))
  · exact .project p hpm hpid' (Int.lt_of_le_of_lt hlink.project (Int.lt_iff_le_and_ne.mpr ⟨hple, h₁⟩))

variable {reason : Lapse}

theorem Lapsed.not_admitted {now} (h : Lapsed db s f now reason) (hi : CapturesBehind db)
    (hs : s ∈ db.sessions) : ¬ RefreshAdmitted db s f now := by
  intro ha
  -- the browser session is one row, so the one that lapsed is the one that was admitted
  have hbrowser : ∀ b ∈ db.browserSessions, s.browserSessionId = some b.id → BrowserLive b now := by
    intro b hb hid
    obtain ⟨_, hb', hbid, hlive⟩ := ha.browser b.id hid
    rw [← eq_of_key hb' hb hbid]
    exact hlive
  cases h with
  | status h => exact h.elim (· ha.sessionActive) (· ha.familyActive)
  | lifetime h =>
    exact h.elim (Int.not_le.mpr ha.sessionLifetime) (Int.not_le.mpr ha.familyLifetime)
  | revision h => exact ha.notPassed ((hi.sessions s hs).passed h)
  | browserStatus b hb hid h => exact h (hbrowser b hb hid).1
  | browserLifetime b hb hid h =>
    obtain ⟨_, hidle, habsolute⟩ := hbrowser b hb hid
    exact h.elim (Int.not_le.mpr hidle) (Int.not_le.mpr habsolute)
  | browserRevision b project user policy hb hid hp hu hpol h =>
    exact ha.notPassed (hi.passed_of_browser hs hb hid hp hu hpol h)

/-! ## every run -/

/-- the browser session is good beyond `now`, as far as its deadlines go -/
def BrowserOutlasts (db : Database) (id : Uuid) (now : Instant) : Prop :=
  ∃ b ∈ db.browserSessions, b.id = id ∧ now < b.idleExpiresAt ∧ now < b.absoluteExpiresAt

theorem BrowserChange.outlasts {completes now}
    (h : BrowserChange db db' completes) (hbefore : ¬ BrowserOutlasts db id now)
    (hafter : BrowserOutlasts db' id now) : completes = true := by
  cases h with
  | completed _ => rfl
  | quiet h =>
    obtain ⟨b', hb', hid, hlife⟩ := hafter
    obtain ⟨b, hb, hend⟩ := h.source hb'
    refine absurd ⟨b, hb, ?_⟩ hbefore
    rcases hend with rfl | ⟨_, _, rfl⟩
    · exact ⟨hid, hlife⟩
    · exact ⟨hid, hlife⟩

theorem run_browser_ended (hb : b ∈ db.browserSessions) (hs : b.status ≠ .active)
    (calls) : b ∈ (run db calls).browserSessions := by
  refine run_inv (I := fun db => b ∈ db.browserSessions) step (fun db call h => ?_) calls hb
  obtain ⟨_, hb', hm⟩ := (step_browsers call db).moved.forward b h
  rw [← hm.ended hs]
  exact hb'

/-- **What has ended stays ended**: no row of its id is active again. -/
theorem ended_stays_ended (db calls) :
    (∀ s ∈ db.sessions, s.status ≠ .active →
        ∀ s' ∈ (run db calls).sessions, s'.id = s.id → s'.status ≠ .active)
      ∧ (∀ b ∈ db.browserSessions, b.status ≠ .active →
        ∀ b' ∈ (run db calls).browserSessions, b'.id = b.id → b'.status ≠ .active)
      ∧ ∀ f ∈ db.families, f.status ≠ .active →
        ∀ f' ∈ (run db calls).families, f'.id = f.id → f'.status ≠ .active := by
  have hc := run_captures db calls
  refine ⟨fun s hs he s' hs' hid => ?_, fun b hb he b' hb' hid =>
    eq_of_key (run_browser_ended hb he calls) hb' hid.symm ▸ he, fun f hf he f' hf' hid => ?_⟩
  · obtain ⟨_, h, hk⟩ := hc.sessions s hs
    exact eq_of_key h hs' (hk.id.trans hid.symm) ▸ hk.ended he
  · obtain ⟨_, h, hk⟩ := hc.families f hf
    exact eq_of_key h hf' (hk.id.trans hid.symm) ▸ hk.ended he

/-- how a refresh can still succeed after a deadline was reached: the clock of the later call is
behind, or a completed login moved the deadlines of the browser session -/
def Excused (start : Database) (sofar mid : List Call) (later : Call) (s : ApplicationSession)
    (now : Instant) (reason : Lapse) : Prop :=
  (reason.isDeadline = true ∧ ∃ now', later.op.refreshClock = some now' ∧ now' < now)
    ∨ (reason = .browserLifetime ∧ ∃ id, s.browserSessionId = some id
        ∧ ∃ pre login post, mid = pre ++ login :: post ∧ login.op.completes = true
          ∧ ¬ BrowserOutlasts (run start (sofar ++ pre)) id now
          ∧ BrowserOutlasts (run start (sofar ++ pre ++ [login])) id now)

/-- a refresh that is admitted although something had lapsed is excused -/
theorem Lapsed.excused {f' now now'} (h : Lapsed db s f now reason)
    (hi : CapturesBehind db) (hs : s ∈ db.sessions) (hsk : SessionKept s s') (hfk : FamilyKept f f')
    (ha : RefreshAdmitted (run db calls) s' f' now') : (reason.isDeadline = true ∧ now' < now)
      ∨ (reason = .browserLifetime ∧ ∃ id, s.browserSessionId = some id
          ∧ ¬ BrowserOutlasts db id now ∧ BrowserOutlasts (run db calls) id now) := by
  have hpassed : Passed db s.captured → False := fun h => by
    refine ha.notPassed ?_
    rw [hsk.captured]
    exact passed_later h (run_owners db calls)
  cases h with
  | status h =>
    exact (h.elim (fun h => hsk.ended h ha.sessionActive) (fun h => hfk.ended h ha.familyActive)).elim
  | lifetime h =>
    have hsl := ha.sessionLifetime
    have hfl := ha.familyLifetime
    rw [hsk.absoluteExpiresAt] at hsl
    rw [hfk.absoluteExpiresAt] at hfl
    exact .inl ⟨rfl, h.elim (Int.lt_of_lt_of_le hsl) (Int.lt_of_lt_of_le hfl)⟩
  | revision h => exact (hpassed ((hi.sessions s hs).passed h)).elim
  | browserStatus b hb hid h =>
    obtain ⟨b', hb', hbid, hlive⟩ := ha.browser b.id (hsk.browserSessionId.trans hid)
    have hkept := run_browser_ended hb h calls
    rw [eq_of_key hb' hkept hbid] at hlive
    exact absurd hlive.1 h
  | browserLifetime b hb hid h =>
    obtain ⟨b', hb', hbid, _, hidle, habsolute⟩ := ha.browser b.id (hsk.browserSessionId.trans hid)
    rcases Int.lt_or_le now' now with hlt | hle
    · exact .inl ⟨rfl, hlt⟩
    · refine .inr ⟨rfl, b.id, hid, ?_, b', hb', hbid, Int.lt_of_le_of_lt hle hidle,
        Int.lt_of_le_of_lt hle habsolute⟩
      rintro ⟨_, ho, hoid, hoidle, hoabsolute⟩
      rw [eq_of_key ho hb hoid] at hoidle hoabsolute
      exact h.elim (Int.not_le.mpr hoidle) (Int.not_le.mpr hoabsolute)
  | browserRevision b project user policy hb hid hp hu hpol h =>
    exact (hpassed (hi.passed_of_browser hs hb hid hp hu hpol h)).elim

theorem refreshClock_not_completes {op : Op} {now : Instant} (h : op.refreshClock = some now) :
    op.completes = false := by
  cases op with
  | completion o => cases h
  | _ => rfl

/-- no session was opened yet, and no browser session captured a revision ahead of its owners -/
structure BeforeSessions (db : Database) : Prop where
  none : NoSessions db
  browsers : ∀ b ∈ db.browserSessions, BrowserBehind db b

theorem BeforeSessions.capturesBehind (h : BeforeSessions db) : CapturesBehind db := by
  have nos : ∀ s, s ∉ db.sessions := by rw [h.none.1]; exact not_mem_empty
  exact ⟨fun s hs => absurd hs (nos s), h.browsers, fun s hs => absurd hs (nos s)⟩

theorem NoSessions.singleFamily (h : NoSessions db) : SingleFamily db := by
  have nof : ∀ f, f ∉ db.families := by rw [h.2.1]; exact not_mem_empty
  exact fun f hf => absurd hf (nof f)

/-- **A refused refresh stays refused.**  When a refresh presents a token of a session that has
lapsed, it is refused, and a later refresh of the session succeeds only if it is excused: after a
deadline was reached, by a clock that is behind the one of the refusal, or by a completed login
that moved the deadlines of the browser session.  A status or a revision excuses nothing. -/
theorem refused_refresh_stays_refused {start : Database} (hstart : BeforeSessions start)
    (sofar mid : List Call) (attempt later : Call) (g : RefreshTokenGeneration)
    (f : RefreshFamily) (s : ApplicationSession) (now : Instant) (reason : Lapse)
    (hg : g ∈ (run start sofar).generations) (hf : f ∈ (run start sofar).families)
    (hs : s ∈ (run start sofar).sessions) (hgf : g.familyId = f.id)
    (hfs : f.applicationSessionId = s.id) (htoken : attempt.op.presentedToken = some g.token)
    (hclock : attempt.op.refreshClock = some now)
    (hlapsed : Lapsed (run start sofar) s f now reason) :
    acceptedChains attempt (run start sofar) = []
      ∧ ∀ k ∈ acceptedChains later (run start (sofar ++ attempt :: mid)), k.1 = s.id →
          Excused start (sofar ++ [attempt]) mid later s now reason := by
  have hbehind : CapturesBehind (run start sofar) :=
    run_inv OwlAuth.step (fun _ call h => h.step call) sofar hstart.capturesBehind
  have hrefresh := run_refreshInv hstart.none.refreshInv sofar
  constructor
  · -- the presented token leads to this family and this session, which are not admitted
    refine List.eq_nil_iff_forall_not_mem.mpr fun k hk => ?_
    obtain ⟨s', hs', f', hf', now', hclock', _, _, hof, hadmitted, g', hg', hgf', htoken'⟩ :=
      accepted_chain hk
    obtain rfl : g' = g := hrefresh.tokens g' hg' g hg (Option.some.inj (htoken'.symm.trans htoken))
    obtain rfl : f' = f := eq_of_key hf' hf (hgf'.symm.trans hgf)
    obtain rfl : s' = s := eq_of_key hs' hs (hof.symm.trans hfs)
    obtain rfl : now' = now := Option.some.inj (hclock'.symm.trans hclock)
    exact hlapsed.not_admitted hbehind hs hadmitted
  · intro k hk hks
    obtain ⟨s', hs', f', hf', now', hclock', hsid, _, hof, hadmitted, _⟩ := accepted_chain hk
    rw [run_append] at hs' hf' hadmitted
    have hkept := run_captures (run start sofar) (attempt :: mid)
    obtain ⟨s₁, hs₁, hsk⟩ := hkept.sessions s hs
    obtain rfl : s' = s₁ := eq_of_key hs' hs₁ (hsid.trans (hks.trans hsk.id.symm))
    obtain ⟨f₁, hf₁, hfk⟩ := hkept.families f hf
    have hone := run_singleFamily hrefresh
      (run_singleFamily hstart.none.refreshInv hstart.none.singleFamily sofar) (attempt :: mid)
    obtain rfl : f' = f₁ := hone f' hf' f₁ hf₁
      (hof.trans (hsk.id.trans (hfs.symm.trans hfk.applicationSessionId.symm)))
    rcases hlapsed.excused hbehind hs hsk hfk hadmitted with ⟨hd, hlt⟩ | ⟨hr, id, hid, hno, hyes⟩
    · exact .inl ⟨hd, now', hclock', hlt⟩
    · refine .inr ⟨hr, id, hid, ?_⟩
      -- the refused call itself is a refresh and moves no deadline
      have hattempt : ¬ BrowserOutlasts (run start (sofar ++ [attempt])) id now := by
        intro hafter
        rw [run_snoc] at hafter
        have hcompletes := (step_browsers attempt _).outlasts hno hafter
        have hnot := refreshClock_not_completes hclock
        rw [hnot] at hcompletes
        cases hcompletes
      have hsplit : run (run start sofar) (attempt :: mid)
          = run (run start (sofar ++ [attempt])) mid := by
        rw [run_snoc]; rfl
      rw [hsplit] at hyes
      obtain ⟨pre, login, post, hmid, hbefore, hafter⟩ :=
        exists_step (P := fun db => BrowserOutlasts db id now) OwlAuth.step hattempt hyes
      have hcompletes := (step_browsers login _).outlasts hbefore hafter
      refine ⟨pre, login, post, hmid, hcompletes, ?_, ?_⟩
      · rw [run_append]
        exact hbefore
      · rw [run_snoc, run_append]
        exact hafter

def refreshError (call : Call) (db : Database) : Option ApplicationError :=
  match call.op with
  | .session (.prepareRefreshRotation c) =>
    match answer (prepareRefreshRotation call.env c db) with
    | .ok _ => none
    | .error e => some e
  | _ => none

section
open Demo

/-- a second login of the same user, at its provider since shortly before the browser session
expires -/
def Demo.laterLogin : LoginTransaction :=
  { login with
    id := 11
    interaction := ⟨110, 1⟩
    status := .providerExchangeInProgress
    userId := none
    providerConfigurationId := some 10
    authenticatedAt := none
    expiresAt := hours 8 + minutes 10 }

def Demo.renewable : Database :=
  { start with
    logins := ⟨[login, laterLogin], by decide⟩
    loginMethods := .single ⟨1, 11, "idp", .provider, some 10, "Idp", some 1, some 1, some .oidc,
      some 1⟩
    providers := .single ⟨10, 1, "idp", .oidc, "Idp", "https://idp.example.test",
      "https://auth.example.test/callback", 11, .active, 1, false, 1⟩
    egressPolicies := .single ⟨1, 1⟩
    assignments := .single ⟨1, 2, 10, .active, 1⟩ }

/-- that login completes in the browser whose session has expired -/
def Demo.completeLater : Call := ⟨env, .completion (.completeAuthenticatedIdentity {
  projectId := 1
  transactionId := 11
  expectedTransactionRevision := 3
  issuer := "https://idp.example.test"
  subject := "owl"
  profile := ⟨none, none, none⟩
  renewable := none
  newUserId := 12
  newUserPublicId := "usr_other"
  newIdentityId := 13
  browserSessionId := 14
  existingBrowserCredential := some ⟨40, 1⟩
  browserCredential := ⟨41, 1⟩
  handoffId := 15
  handoffTicket := ⟨150, 1⟩
  now := hours 8 + seconds 1 })⟩

def Demo.prepare (now : Instant) : Call := call (.prepareRefreshRotation ⟨1, 2, ⟨240, 1⟩, now⟩)

theorem Demo.renewable_before : BeforeSessions renewable := by
  refine ⟨⟨rfl, rfl, rfl⟩, fun b hb => ?_⟩
  obtain rfl := List.mem_singleton.mp hb
  exact ⟨⟨project, List.mem_cons_self, rfl, by decide⟩, ⟨user, List.mem_cons_self, rfl, by decide⟩,
    ⟨policy, List.mem_cons_self, rfl, by decide⟩⟩

/-- eight hours after the last login the refresh is refused; one second later a login in the same
browser renews the browser session, and one second after that the refresh is accepted -/
theorem renewed_browser_readmits_refresh :
    refreshError (prepare (hours 8)) (run renewable [exchange]) = some .disabled
      ∧ acceptedChains (prepare (hours 8 + seconds 2))
          (run renewable [exchange, prepare (hours 8), completeLater]) = [(22, 23)] := by
  constructor <;> decide +kernel

def Demo.openedSession : ApplicationSession :=
  (run renewable [exchange]).sessions.rows.head (by decide +kernel)

def Demo.openedFamily : RefreshFamily :=
  (run renewable [exchange]).families.rows.head (by decide +kernel)

def Demo.openedGeneration : RefreshTokenGeneration :=
  (run renewable [exchange]).generations.rows.head (by decide +kernel)

theorem expired_browser_refuses_refresh :
    BeforeSessions renewable
      ∧ acceptedChains (prepare (hours 8)) (run renewable [exchange]) = []
      ∧ ∀ k ∈ acceptedChains (prepare (hours 8 + seconds 2))
          (run renewable [exchange, prepare (hours 8)]), k.1 ≠ Demo.openedSession.id := by
  have hbrowser : browser ∈ (run renewable [exchange]).browserSessions := List.mem_cons_self
  have hlapsed : Lapsed (run renewable [exchange]) Demo.openedSession Demo.openedFamily (hours 8)
      .browserLifetime :=
    .browserLifetime browser hbrowser (by decide +kernel) (.inl (by decide))
  obtain ⟨hnone, hlater⟩ := refused_refresh_stays_refused renewable_before [exchange] []
    (prepare (hours 8)) (prepare (hours 8 + seconds 2)) openedGeneration Demo.openedFamily
    Demo.openedSession (hours 8) .browserLifetime (List.head_mem _) (List.head_mem _)
    (List.head_mem _) (by decide +kernel) (by decide +kernel) (by decide +kernel) rfl hlapsed
  refine ⟨renewable_before, hnone, fun k hk hks => ?_⟩
  rcases hlater k hk hks with ⟨_, _, hclock, hlt⟩ | ⟨_, _, _, pre, _, _, hmid, _⟩
  · obtain rfl := Option.some.inj hclock
    exact absurd hlt (by decide)
  · cases pre <;> cases hmid

end

end OwlAuth
