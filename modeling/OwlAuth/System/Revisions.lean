import OwlAuth.System.HandoffTickets

/-!
# Revisions that were passed stay passed

Disabling an owner or changing a policy touches no ticket and no session.  It advances a revision,
and whatever captured the old one is refused from then on, also after the owner was enabled again.

* `OwnersMove`, `step_owners`  no call takes a security or policy revision back;
* `CapturedRevisions`, `Passed`  what a ticket or a session captured, and that a part of it is
    below the current one;
* `CaptureKept`, `step_captures`  no call changes what was captured;
* `Agrees`  what every acceptance compared;
* `acceptedTickets`, `acceptedChains`, `shownSessions`  what a call accepted;
* `passed_revisions_stay_refused` the whole statement for every run.
-/

namespace OwlAuth

open Fallible Table

/-! ## owners -/

/-- projects, applications, users and policies stay, and none of their revisions goes back -/
structure OwnersMove (db db' : Database) : Prop where
  projects : Evolves ProjectMove (fun _ => False) db.projects db'.projects
  applications : Evolves ApplicationMove (fun _ => False) db.applications db'.applications
  policies : Evolves PolicyMove (fun _ => False) db.policies db'.policies
  users : Evolves UserMove (fun _ => True) db.users db'.users

theorem OwnersMove.refl (db) : OwnersMove db db :=
  ⟨.refl .refl _, .refl .refl _, .refl .refl _, .refl .refl _⟩

variable {db db' db'' : Database} {now : Instant} {s : ApplicationSession} {f : RefreshFamily}
  {es : List CommitHandoffExchange}

theorem OwnersMove.trans (h : OwnersMove db db') (h' : OwnersMove db' db'') : OwnersMove db db'' :=
  ⟨h.projects.trans (fun _ _ _ h h' => ⟨h'.id.trans h.id,
      h.securityRevision.trans h'.securityRevision⟩) (fun _ _ hf _ => hf) h'.projects,
    h.applications.trans (fun _ _ _ h h' => ⟨h'.id.trans h.id, h'.projectId.trans h.projectId,
        h.securityRevision.trans h'.securityRevision, fun hd => h'.disabled (h.disabled hd)⟩)
      (fun _ _ hf _ => hf) h'.applications,
    h.policies.trans (fun _ _ _ h h' => ⟨h'.projectId.trans h.projectId,
        h.claimsRevision.trans h'.claimsRevision, h.sessionRevision.trans h'.sessionRevision⟩)
      (fun _ _ hf _ => hf) h'.policies,
    h.users.trans (fun _ _ _ => UserMove.trans) (fun _ _ _ _ => trivial) h'.users⟩

theorem UserMoved.users {env} (h : UserMoved env now db db') :
    Evolves UserMove (fun _ => True) db.users db'.users := by
  rcases h with rfl | ⟨_, hu, status, _, hmerged, _, hf⟩
  · exact .refl .refl _
  · obtain ⟨_, _, _, _, hr⟩ := fanOutUser_frame hf
    rw [hr]
    exact evolves_set .refl hu rfl
      ⟨rfl, rfl, rfl, Int.le_of_lt (Int.lt_succ _), fun h => absurd h hmerged⟩

theorem step_users (call db) : Evolves UserMove (fun _ => True) db.users (step call db).users := by
  have hr := step_only call db
  obtain ⟨env, op⟩ := call
  cases op with
  | completion o =>
    rcases o.step_completion env db with ⟨hr, _⟩ | ⟨_, _, _, _, _, _, hu, _⟩
    · show Evolves _ _ db.users (o.step env db).users
      rw [hr]; exact .refl .refl _
    · exact hu
  | user o =>
    obtain ⟨_, h⟩ := o.step_user env db
    exact h.users
  | confirmation c =>
    exact (step_confirmation env c db).users.mono (fun _ _ h => h) fun _ hf => hf.elim
  | managed o => exact (o.step_managed env db).users.mono (fun _ _ h => h) fun _ hf => hf.elim
  | _ => exact .of_eq .refl (congrArg Database.users hr :)

/-- **Every call** leaves the revisions of the owners where they are or takes them forward. -/
theorem step_owners (call db) : OwnersMove db (step call db) := by
  have hu := step_users call db
  have hr := step_only call db
  obtain ⟨env, op⟩ := call
  cases op with
  | configuration o =>
    have h := o.step_owner env db
    exact ⟨h.projects, h.applications, h.policies, hu⟩
  | _ =>
    exact ⟨.of_eq .refl (congrArg Database.projects hr :),
      .of_eq .refl (congrArg Database.applications hr :),
      .of_eq .refl (congrArg Database.policies hr :), hu⟩

/-! ## what was captured -/

/-- the owners that a ticket or a session names, and the revisions it captured of them -/
structure CapturedRevisions where
  (projectId applicationId userId : Uuid)
  (projectSecurityRevision applicationSecurityRevision userSecurityRevision claimsRevision : Int)
  policySessionRevision : Int

def HandoffTicket.captured (t : HandoffTicket) : CapturedRevisions :=
  ⟨t.projectId, t.applicationId, t.userId, t.projectSecurityRevision, t.applicationSecurityRevision,
    t.userSecurityRevision, t.claimsRevision, t.policySessionRevision⟩

def ApplicationSession.captured (s : ApplicationSession) : CapturedRevisions :=
  ⟨s.projectId, s.applicationId, s.userId, s.projectSecurityRevision, s.applicationSecurityRevision,
    s.userSecurityRevision, s.claimsRevision, s.policySessionRevision⟩

/-- one of the captured revisions stands in the relation `R` to the current one -/
inductive SomeRevision (R : Int → Int → Prop) (db : Database) (k : CapturedRevisions) : Prop
  | project (p : Project) (mem : p ∈ db.projects) (id : p.id = k.projectId)
      (h : R k.projectSecurityRevision p.securityRevision)
  | application (a : Application) (mem : a ∈ db.applications) (id : a.id = k.applicationId)
      (h : R k.applicationSecurityRevision a.securityRevision)
  | user (u : ProjectUser) (mem : u ∈ db.users) (id : u.id = k.userId)
      (h : R k.userSecurityRevision u.securityRevision)
  | claims (p : ProjectPolicy) (mem : p ∈ db.policies) (id : p.projectId = k.projectId)
      (h : R k.claimsRevision p.claimsRevision)
  | session (p : ProjectPolicy) (mem : p ∈ db.policies) (id : p.projectId = k.projectId)
      (h : R k.policySessionRevision p.sessionRevision)

abbrev Passed (db : Database) (k : CapturedRevisions) : Prop := SomeRevision (· < ·) db k

variable {k : CapturedRevisions}

theorem passed_later (h : Passed db k) (ho : OwnersMove db db') : Passed db' k := by
  cases h with
  | project p hp hid hlt =>
    obtain ⟨p', hp', hm⟩ := ho.projects.forward p hp
    exact .project p' hp' (hm.id.trans hid) (Int.lt_of_lt_of_le hlt hm.securityRevision)
  | application a ha hid hlt =>
    obtain ⟨a', ha', hm⟩ := ho.applications.forward a ha
    exact .application a' ha' (hm.id.trans hid) (Int.lt_of_lt_of_le hlt hm.securityRevision)
  | user u hu hid hlt =>
    obtain ⟨u', hu', hm⟩ := ho.users.forward u hu
    exact .user u' hu' (hm.id.trans hid) (Int.lt_of_lt_of_le hlt hm.securityRevision)
  | claims p hp hid hlt =>
    obtain ⟨p', hp', hm⟩ := ho.policies.forward p hp
    exact .claims p' hp' (hm.projectId.trans hid) (Int.lt_of_lt_of_le hlt hm.claimsRevision)
  | session p hp hid hlt =>
    obtain ⟨p', hp', hm⟩ := ho.policies.forward p hp
    exact .session p' hp' (hm.projectId.trans hid) (Int.lt_of_lt_of_le hlt hm.sessionRevision)

/-- the owners that were found carry exactly the captured revisions -/
structure Agrees (db : Database) (k : CapturedRevisions) (project : Project)
    (application : Application) (user : ProjectUser) (policy : ProjectPolicy) : Prop where
  projectMem : project ∈ db.projects
  projectId : project.id = k.projectId
  applicationMem : application ∈ db.applications
  applicationId : application.id = k.applicationId
  userMem : user ∈ db.users
  userId : user.id = k.userId
  policyMem : policy ∈ db.policies
  policyId : policy.projectId = k.projectId
  project : project.securityRevision = k.projectSecurityRevision
  application : application.securityRevision = k.applicationSecurityRevision
  user : user.securityRevision = k.userSecurityRevision
  claims : policy.claimsRevision = k.claimsRevision
  session : policy.sessionRevision = k.policySessionRevision

theorem Agrees.not_passed {project application user policy}
    (h : Agrees db k project application user policy) : ¬ Passed db k := by
  intro hp
  cases hp with
  | project p hp hid hlt =>
    obtain rfl := eq_of_key hp h.projectMem (hid.trans h.projectId.symm)
    rw [h.project] at hlt
    exact Int.lt_irrefl _ hlt
  | application a ha hid hlt =>
    obtain rfl := eq_of_key ha h.applicationMem (hid.trans h.applicationId.symm)
    rw [h.application] at hlt
    exact Int.lt_irrefl _ hlt
  | user u hu hid hlt =>
    obtain rfl := eq_of_key hu h.userMem (hid.trans h.userId.symm)
    rw [h.user] at hlt
    exact Int.lt_irrefl _ hlt
  | claims p hp hid hlt =>
    obtain rfl := eq_of_key hp h.policyMem (hid.trans h.policyId.symm)
    rw [h.claims] at hlt
    exact Int.lt_irrefl _ hlt
  | session p hp hid hlt =>
    obtain rfl := eq_of_key hp h.policyMem (hid.trans h.policyId.symm)
    rw [h.session] at hlt
    exact Int.lt_irrefl _ hlt

/-! ## captures do not change -/

/-- a session stays with what it captured and with its deadline, and does not come back -/
structure SessionKept (s s' : ApplicationSession) : Prop where
  id : s'.id = s.id
  captured : s'.captured = s.captured
  browserSessionId : s'.browserSessionId = s.browserSessionId
  absoluteExpiresAt : s'.absoluteExpiresAt = s.absoluteExpiresAt
  ended : s.status ≠ .active → s'.status ≠ .active

theorem SessionKept.refl (s : ApplicationSession) : SessionKept s s :=
  ⟨rfl, rfl, rfl, rfl, fun h => h⟩

theorem SessionMove.sessionKept {s'} (h : SessionMove s s') : SessionKept s s' := by
  refine ⟨?_, ?_, ?_, ?_, fun hs => ?_⟩
  · rw [h.kept]
  · rw [h.kept]; rfl
  · rw [h.kept]
  · rw [h.kept]
  · rw [h.ended hs]; exact hs

structure FamilyKept (f f' : RefreshFamily) : Prop where
  id : f'.id = f.id
  applicationSessionId : f'.applicationSessionId = f.applicationSessionId
  absoluteExpiresAt : f'.absoluteExpiresAt = f.absoluteExpiresAt
  ended : f.status ≠ .active → f'.status ≠ .active

theorem FamilyKept.refl (f : RefreshFamily) : FamilyKept f f := ⟨rfl, rfl, rfl, fun h => h⟩

theorem FamilyEnd.familyKept {f'} (h : FamilyEnd f f') : FamilyKept f f' := by
  rcases h with rfl | ⟨ha, _, _, rfl⟩
  · exact .refl _
  · exact ⟨rfl, rfl, rfl, fun h => absurd ha h⟩

/-- tickets, sessions and families stay, with what they captured -/
structure CaptureKept (db db' : Database) : Prop where
  tickets : ∀ t ∈ db.tickets, ∃ t' ∈ db'.tickets, t'.id = t.id ∧ t'.captured = t.captured
  sessions : ∀ s ∈ db.sessions, ∃ s' ∈ db'.sessions, SessionKept s s'
  families : ∀ f ∈ db.families, ∃ f' ∈ db'.families, FamilyKept f f'

theorem CaptureKept.refl (db) : CaptureKept db db :=
  ⟨fun t ht => ⟨t, ht, rfl, rfl⟩, fun s hs => ⟨s, hs, .refl s⟩, fun f hf => ⟨f, hf, .refl f⟩⟩

theorem CaptureKept.trans (h : CaptureKept db db') (h' : CaptureKept db' db'') :
    CaptureKept db db'' := by
  refine ⟨fun t ht => ?_, fun s hs => ?_, fun f hf => ?_⟩
  · obtain ⟨t', ht', hid, hk⟩ := h.tickets t ht
    obtain ⟨t'', ht'', hid', hk'⟩ := h'.tickets t' ht'
    exact ⟨t'', ht'', hid'.trans hid, hk'.trans hk⟩
  · obtain ⟨s', hs', hk⟩ := h.sessions s hs
    obtain ⟨s'', hs'', hk'⟩ := h'.sessions s' hs'
    exact ⟨s'', hs'', hk'.id.trans hk.id, hk'.captured.trans hk.captured,
      hk'.browserSessionId.trans hk.browserSessionId,
      hk'.absoluteExpiresAt.trans hk.absoluteExpiresAt, fun ha => hk'.ended (hk.ended ha)⟩
  · obtain ⟨f', hf', hk⟩ := h.families f hf
    obtain ⟨f'', hf'', hk'⟩ := h'.families f' hf'
    exact ⟨f'', hf'', hk'.id.trans hk.id, hk'.applicationSessionId.trans hk.applicationSessionId,
      hk'.absoluteExpiresAt.trans hk.absoluteExpiresAt, fun ha => hk'.ended (hk.ended ha)⟩

theorem HandoffChange.ticket_kept {cs} (h : HandoffChange db db' cs es) {t} (ht : t ∈ db.tickets) :
    ∃ t' ∈ db'.tickets, t'.id = t.id ∧ t'.captured = t.captured := by
  cases h with
  | moved _ _ htickets _ => exact ⟨t, by rw [htickets]; exact ht, rfl, rfl⟩
  | issued _ _ _ _ h => exact ⟨t, (mem_insert h.inserted).mpr (.inl ht), rfl, rfl⟩
  | expired htickets _ =>
    obtain ⟨t', ht', he⟩ := htickets.forward t ht
    exact ⟨t', ht', by rw [he.same], by rw [he.same]; rfl⟩
  | exchanged c ticket _ _ ha htickets _ =>
    rw [htickets]
    -- the ticket that is replaced keeps all but its status and the time of its end
    by_cases he : t = ticket
    · exact ⟨_, mem_set_self _ ha.ticketMem rfl, by rw [he]; rfl, by rw [he]; rfl⟩
    · exact ⟨t, (mem_set_of (r := consumedTicket _ _) ha.ticketMem rfl).mpr (.inl ⟨ht, he⟩), rfl,
        rfl⟩

theorem RefreshChange.family_kept (h : RefreshChange db db' es) (hf : f ∈ db.families) :
    ∃ f' ∈ db'.families, FamilyKept f f' := by
  cases h with
  | quiet _ hfs _ =>
    obtain ⟨f', hf', he⟩ := hfs.forward f hf
    exact ⟨f', hf', he.familyKept⟩
  | opened _ _ _ _ _ _ _ _ _ hfs => exact ⟨f, (mem_insert hfs).mpr (.inl hf), .refl f⟩
  | rotated f₀ g₀ _ now hf₀ _ hc _ hfs =>
    by_cases he : f = f₀
    · have hk : FamilyKept f (rotatedFamily f₀ (g₀.generation + 1)) := by
        rw [he]; exact ⟨rfl, rfl, rfl, fun h => h⟩
      exact ⟨_, (rotated_family hf₀ hfs).mpr (.inr rfl), hk⟩
    · exact ⟨f, (rotated_family hf₀ hfs).mpr (.inl ⟨hf, he⟩), .refl f⟩

/-- **Every call** keeps what tickets and sessions captured. -/
theorem step_captures (call db) : CaptureKept db (step call db) :=
  ⟨fun _ ht => (step_handoff call db).ticket_kept ht,
    fun _ hs => ((step_refresh call db).session_moved hs).imp fun _ h => ⟨h.1, h.2.sessionKept⟩,
    fun _ hf => (step_refresh call db).family_kept hf⟩

theorem run_owners (db calls) : OwnersMove db (run db calls) :=
  Machine.run_rel step (I := fun _ => True) (R := OwnersMove) .refl (fun _ _ _ => .trans)
    (fun _ _ _ => trivial) (fun db call _ => step_owners call db) calls trivial

theorem run_captures (db calls) : CaptureKept db (run db calls) :=
  Machine.run_rel step (I := fun _ => True) (R := CaptureKept) .refl (fun _ _ _ => .trans)
    (fun _ _ _ => trivial) (fun db call _ => step_captures call db) calls trivial

/-! ## what a call accepted -/

/-- the tickets a call accepted, in the preparation or in the commit of an exchange -/
def acceptedTickets (call : Call) (db : Database) : List Uuid :=
  match call.op with
  | .session (.prepareHandoffExchange c) =>
    match answer (prepareHandoffExchange call.env c db) with
    | .ok preparation => [preparation.ticketId]
    | .error _ => []
  | .session (.commitHandoffExchange c) =>
    match answer (commitHandoffExchange call.env c db) with
    | .ok _ => [c.preparation.ticketId]
    | .error _ => []
  | _ => []

/-- a session with its refresh family, both by id -/
abbrev AcceptedChain := Uuid × Uuid

/-- the sessions a rotation accepted, in its preparation or in its commit, with their families -/
def acceptedChains (call : Call) (db : Database) : List AcceptedChain :=
  match call.op with
  | .session (.prepareRefreshRotation c) =>
    match answer (prepareRefreshRotation call.env c db) with
    | .ok (.ready preparation) => [(preparation.applicationSessionId, preparation.familyId)]
    | _ => []
  | .session (.rotateRefreshToken c) =>
    match answer (rotateRefreshToken call.env c db) with
    | .ok (.rotated _ applicationSessionId familyId _ _) => [(applicationSessionId, familyId)]
    | _ => []
  | _ => []

def Op.refreshClock : Op → Option Instant
  | .session (.prepareRefreshRotation c) => some c.now
  | .session (.rotateRefreshToken c) => some c.now
  | _ => none

def Op.presentedToken : Op → Option VersionedDigest
  | .session (.prepareRefreshRotation c) => some c.presentedToken
  | .session (.rotateRefreshToken c) => some c.presentedToken
  | _ => none

/-- the session a read through an access token showed -/
def shownSessions (call : Call) (db : Database) : List Uuid :=
  match call.op with
  | .session (.currentSession c allowRevoked) =>
    match answer (currentSession call.env c allowRevoked db) with
    | .ok _ => [c.applicationSessionId]
    | .error _ => []
  | _ => []

theorem Agrees.of_found {project application user policy projectId applicationId}
    (hp : findProject db projectId = .ok project)
    (ha : findApplication db projectId applicationId = .ok application)
    (hu : findUser db projectId k.userId = .ok user) (hpol : findPolicy db projectId = .ok policy)
    (hkp : k.projectId = projectId) (hka : k.applicationId = applicationId)
    (h : project.securityRevision = k.projectSecurityRevision
      ∧ application.securityRevision = k.applicationSecurityRevision
      ∧ user.securityRevision = k.userSecurityRevision
      ∧ policy.claimsRevision = k.claimsRevision
      ∧ policy.sessionRevision = k.policySessionRevision) :
    Agrees db k project application user policy := by
  obtain ⟨hpm, hpid⟩ := findProject_ok hp
  obtain ⟨ham, haid, _⟩ := findApplication_ok ha
  obtain ⟨hum, huid, _⟩ := findUser_ok hu
  obtain ⟨hpolm, hpolid⟩ := findPolicy_ok hpol
  obtain ⟨h₁, h₂, h₃, h₄, h₅⟩ := h
  exact ⟨hpm, hpid.trans hkp.symm, ham, haid.trans hka.symm, hum, huid, hpolm,
    hpolid.trans hkp.symm, h₁, h₂, h₃, h₄, h₅⟩

theorem accepted_ticket {call id} (h : id ∈ acceptedTickets call db) :
    ∃ t ∈ db.tickets, t.id = id ∧ ¬ Passed db t.captured := by
  unfold acceptedTickets at h
  split at h
  · split at h
    · rename_i preparation hanswer
      obtain ⟨db', hbody⟩ := answer_ok hanswer
      obtain ⟨ticket, ht, project, application, user, policy, p, hreply, hid, htp, hta, hp, ha, hu,
        hpol, hcurrent, _⟩ := prepareHandoffExchange_ok hbody
      cases hreply
      have hagrees : Agrees db ticket.captured project application user policy :=
        .of_found hp ha hu hpol htp hta hcurrent.2.2.2
      refine ⟨ticket, ht, ?_, hagrees.not_passed⟩
      rw [List.mem_singleton.mp h, hid]
    · cases h
  · split at h
    · rename_i hanswer
      obtain ⟨db', hbody⟩ := answer_ok hanswer
      rcases commitHandoffExchange_ok hbody with ⟨_, _, _, hr⟩ | ⟨ticket, login, owners, binding,
        _, _, _, _, _, _, haccepted, _⟩
      · cases hr
      · obtain ⟨hp, ha, hu, hpol, _, hcurrent, _⟩ := checkExchangeOwners_ok haccepted.owners
        have hagrees : Agrees db ticket.captured _ _ _ _ := .of_found hp ha hu hpol
          haccepted.ticketProject haccepted.ticketApplication hcurrent.2.2.2
        refine ⟨ticket, haccepted.ticketMem, ?_, hagrees.not_passed⟩
        rw [List.mem_singleton.mp h]
        exact haccepted.ticketId
    · cases h
  · cases h

/-- everything about a session, its family and its browser session that a refresh was admitted for -/
structure RefreshAdmitted (db : Database) (s : ApplicationSession) (f : RefreshFamily)
    (now : Instant) : Prop where
  sessionActive : s.status = .active
  familyActive : f.status = .active
  sessionLifetime : now < s.absoluteExpiresAt
  familyLifetime : now < f.absoluteExpiresAt
  notPassed : ¬ Passed db s.captured
  browser : ∀ id, s.browserSessionId = some id →
    ∃ b ∈ db.browserSessions, b.id = id ∧ BrowserLive b now

theorem Refreshable.admitted {p a presented route project application user policy}
    (hr : Routed db p a presented route) (h : Refreshable route now)
    (hp : findProject db p = .ok project) (ha : findApplication db p a = .ok application)
    (hu : findUser db p route.session.userId = .ok user) (hpol : findPolicy db p = .ok policy)
    (hc : SessionCurrent project application user policy route.session)
    (hb : checkBrowserSession db project user policy route.session now = .ok ()) :
    RefreshAdmitted db route.session route.family now := by
  obtain ⟨_, hfa, hsa, _, hfl, hsl, _⟩ := h
  have hagrees : Agrees db route.session.captured project application user policy :=
    .of_found hp ha hu hpol hr.sessionProject hr.sessionApplication hc.2.2.2
  refine ⟨hsa, hfa, hsl, hfl, hagrees.not_passed, fun id hid => ?_⟩
  unfold checkBrowserSession at hb
  rw [hid] at hb
  obtain ⟨b, hfound, hb⟩ := bind_ok.mp hb
  obtain ⟨hbm, hbid, _⟩ := find_ok hfound
  exact ⟨b, hbm, hbid, (ensure_ok.mp hb).1⟩

theorem accepted_chain {call k} (h : k ∈ acceptedChains call db) :
    ∃ s ∈ db.sessions, ∃ f ∈ db.families, ∃ now, call.op.refreshClock = some now
      ∧ s.id = k.1 ∧ f.id = k.2 ∧ f.applicationSessionId = s.id ∧ RefreshAdmitted db s f now
      ∧ ∃ g ∈ db.generations, g.familyId = f.id ∧ call.op.presentedToken = some g.token := by
  unfold acceptedChains at h
  split at h
  · rename_i c hop
    split at h
    · rename_i preparation hanswer
      obtain ⟨db', hbody⟩ := answer_ok hanswer
      obtain ⟨route, hr, ⟨_, hreplay⟩ | ⟨_, hbody⟩⟩ := prepareRefreshRotation_ok hbody
      · cases hreplay
      · obtain ⟨_, _, _, _, _, _, _, p, ha, _, _, _, _, _, hsid, hfid, hr'⟩ :=
          prepareCurrentGeneration_ok hbody
        cases hr'
        obtain rfl := List.mem_singleton.mp h
        exact ⟨route.session, hr.session, route.family, hr.family, c.now, by rw [hop]; rfl,
          hsid.symm, hfid.symm, hr.sessionId.symm, ha.refreshable.admitted hr ha.projectFound
            ha.applicationFound ha.userFound ha.policyFound ha.current ha.browser,
          route.generation, hr.generation, hr.familyId, by rw [hop]; exact congrArg some hr.token.symm⟩
    · cases h
  · rename_i c hop
    split at h
    · rename_i hanswer
      obtain ⟨db', hbody⟩ := answer_ok hanswer
      obtain ⟨route, hr, _, _, ⟨_, hreplay⟩ | ⟨_, hbody⟩⟩ := rotateRefreshToken_ok hbody
      · cases hreplay
      · obtain ⟨_, _, _, _, _, ha, _, hdone⟩ := rotateCurrentGeneration_ok hbody
        cases hdone
        obtain rfl := List.mem_singleton.mp h
        exact ⟨route.session, hr.session, route.family, hr.family, c.now, by rw [hop]; rfl, rfl, rfl,
          hr.sessionId.symm, ha.refreshable.admitted hr ha.projectFound ha.applicationFound
            ha.userFound ha.policyFound ha.current ha.browser,
          route.generation, hr.generation, hr.familyId, by rw [hop]; exact congrArg some hr.token.symm⟩
    · cases h
  · cases h

theorem shown_session {call id} (h : id ∈ shownSessions call db) :
    ∃ s ∈ db.sessions, s.id = id ∧ ¬ Passed db s.captured := by
  unfold shownSessions at h
  split at h
  · split at h
    · rename_i hanswer
      obtain ⟨db', hbody⟩ := answer_ok hanswer
      obtain ⟨o, _, _, _, ho, hadmitted, _⟩ := currentSession_ok hbody
      obtain ⟨⟨hpm, hpid, _⟩, ⟨ham, _, _⟩, ⟨hum, _, _⟩, ⟨hpolm, hpolid⟩, hsm, hsid, hsp, hsa, hsu⟩ :=
        findSessionOwners_ok ho
      obtain ⟨_, _, h₁, h₂, h₃, h₄, h₅, h₆⟩ := hadmitted
      obtain rfl := List.mem_singleton.mp h
      have hagrees : Agrees db o.session.captured o.project o.application o.user o.policy :=
        ⟨hpm, hpid.trans hsp.symm, ham, hsa.symm, hum, hsu.symm, hpolm, hpolid.trans hsp.symm,
          h₁.symm, h₂.symm, h₃.symm, h₅.trans h₄.symm, h₆.symm⟩
      exact ⟨o.session, hsm, hsid, hagrees.not_passed⟩
    · cases h
  · cases h

/-! ## every run -/

/-- **What captured a passed revision is never accepted again.**  From any database, over any run:
the revisions of projects, applications, users and policies never go back; a ticket with a passed
revision is not exchanged; a session with a passed revision is not shown, and neither it nor its
refresh family is rotated. -/
theorem passed_revisions_stay_refused (db : Database) (calls : List Call) :
    OwnersMove db (run db calls)
    ∧ ∀ pre call post, calls = pre ++ call :: post →
      (∀ t ∈ db.tickets, Passed db t.captured → t.id ∉ acceptedTickets call (run db pre))
      ∧ (∀ s ∈ db.sessions, Passed db s.captured →
          s.id ∉ shownSessions call (run db pre)
          ∧ ∀ k ∈ acceptedChains call (run db pre), k.1 ≠ s.id
            ∧ ∀ f ∈ db.families, f.applicationSessionId = s.id → k.2 ≠ f.id) := by
  refine ⟨run_owners db calls, fun pre call post _ => ?_⟩
  have ho := run_owners db pre
  have hk := run_captures db pre
  -- the row of a ticket or session that is found later captured the same
  have hticket : ∀ t ∈ db.tickets, Passed db t.captured →
      ∀ t' ∈ (run db pre).tickets, t'.id = t.id → Passed (run db pre) t'.captured := by
    intro t ht hpassed t' ht' hid
    obtain ⟨o, hom, hoid, hcaptured⟩ := hk.tickets t ht
    obtain rfl : t' = o := eq_of_key ht' hom (hid.trans hoid.symm)
    rw [hcaptured]
    exact passed_later hpassed ho
  have hsession : ∀ s ∈ db.sessions, Passed db s.captured →
      ∀ s' ∈ (run db pre).sessions, s'.id = s.id → Passed (run db pre) s'.captured := by
    intro s hs hpassed s' hs' hid
    obtain ⟨o, hom, hkept⟩ := hk.sessions s hs
    obtain rfl : s' = o := eq_of_key hs' hom (hid.trans hkept.id.symm)
    rw [hkept.captured]
    exact passed_later hpassed ho
  refine ⟨fun t ht hpassed haccepted => ?_, fun s hs hpassed => ⟨fun hshown => ?_, ?_⟩⟩
  · obtain ⟨t', ht', hid, hnot⟩ := accepted_ticket haccepted
    exact hnot (hticket t ht hpassed t' ht' hid)
  · obtain ⟨s', hs', hid, hnot⟩ := shown_session hshown
    exact hnot (hsession s hs hpassed s' hs' hid)
  · intro k haccepted
    obtain ⟨s', hs', f', hf', _, _, hsid, hfid, hof, hadmitted, _⟩ := accepted_chain haccepted
    refine ⟨fun he => ?_, fun f hf hfs he => ?_⟩
    · exact hadmitted.notPassed (hsession s hs hpassed s' hs' (hsid.trans he))
    · obtain ⟨o, hom, hkept⟩ := hk.families f hf
      obtain rfl : f' = o := eq_of_key hf' hom ((hfid.trans he).trans hkept.id.symm)
      have hof' : s'.id = s.id := hof.symm.trans (hkept.applicationSessionId.trans hfs)
      exact hadmitted.notPassed (hsession s hs hpassed s' hs' hof')

section
open Demo

def Demo.disableUser : Call := ⟨env, .user (.disableProjectUser ⟨1, 3, 1, seconds 2⟩)⟩
def Demo.enableUser : Call := ⟨env, .user (.enableProjectUser ⟨1, 3, 2, seconds 3⟩)⟩

/-- the ticket would have been accepted; after its user was disabled and enabled again, it is not -/
theorem ticket_of_reenabled_user_is_refused :
    acceptedTickets exchange start = [6]
      ∧ (∀ u ∈ (run start [disableUser, enableUser]).users.rows, u.status = .active)
      ∧ ticket.id ∉ acceptedTickets exchange (run (run start [disableUser]) [enableUser]) := by
  refine ⟨by decide +kernel, by decide +kernel, ?_⟩
  have hpassed : Passed (run start [disableUser]) ticket.captured :=
    .user (movedUser user .disabled (seconds 2)) List.mem_cons_self rfl (by decide)
  exact ((passed_revisions_stay_refused (run start [disableUser]) [enableUser, exchange]).2
    [enableUser] exchange [] rfl).1 ticket List.mem_cons_self hpassed

end

end OwlAuth
