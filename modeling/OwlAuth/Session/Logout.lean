import OwlAuth.Base.Evolve
import OwlAuth.Session.Handoff

/-!
# Logout

* `logoutApplicationSession`  the application session and its refresh family are revoked;
* `prepareBrowserLogout`, `bindBrowserLogout`, `confirmBrowserLogout`  the interaction that ends
  the browser session: prepared by the application, bound to the browser, confirmed by the user.
-/

namespace OwlAuth

open Fallible Table

structure LogoutApplicationSession where
  (projectId applicationId userId applicationSessionId : Uuid)
  now : Instant

structure PrepareBrowserLogout where
  (id projectId applicationId userId applicationSessionId browserSessionId : Uuid)
  preparation : VersionedDigest
  now : Instant

structure BindBrowserLogout where
  (preparation browserCredential csrf : VersionedDigest)
  expectedInteractionRevision : Int
  now : Instant

structure ConfirmBrowserLogout where
  (preparation browserCredential csrf : VersionedDigest)
  expectedInteractionRevision : Int
  now : Instant

structure BrowserLogoutRecord where
  (id projectId browserSessionId : Uuid)
  interactionRevision : Int
  expiresAt : Instant

def browserLogoutRecord (i : BrowserLogoutInteraction) : BrowserLogoutRecord :=
  ⟨i.id, i.projectId, i.browserSessionId, i.interactionRevision, i.expiresAt⟩

/-! ## application session -/

def revokedSession (session : ApplicationSession) (now : Instant) : ApplicationSession :=
  { session with
    status := .revoked
    sessionRevision := session.sessionRevision + 1
    revokedAt := some now }

variable (db : Database) (i : BrowserLogoutInteraction)

def revokeSessionAndFamily (session : ApplicationSession) (family : RefreshFamily)
    (reason : RevocationReason) (now : Instant) : Database :=
  { db with
    sessions :=
      if session.status = .active then db.sessions.set (revokedSession session now)
      else db.sessions
    families :=
      if family.status = .active then db.families.set (revokedFamily family reason now)
      else db.families }

def logoutApplicationSession (c : LogoutApplicationSession) (db : Database) :
    Tx (Committed Unit) := do
  let session ← require
    (db.sessions.find? fun s =>
      s.id = c.applicationSessionId ∧ s.projectId = c.projectId
        ∧ s.applicationId = c.applicationId ∧ s.userId = c.userId) .notFound
  let family ← require
    (db.families.find? fun f =>
      f.projectId = c.projectId ∧ f.applicationSessionId = c.applicationSessionId) .integrity
  pure (.done (revokeSessionAndFamily db session family .logout c.now) ())

/-! ## browser session -/

structure LogoutOwners where
  project : Project
  user : ProjectUser
  policy : ProjectPolicy
  session : ApplicationSession

def lockLogoutOwners (projectId applicationId userId applicationSessionId : Uuid)
    (expectedSessionRevision : Option Int) (now : Instant) : Tx LogoutOwners := do
  let project ← findProject db projectId
  let application ← findApplication db projectId applicationId
  let user ← findUser db projectId userId
  let policy ← findPolicy db projectId
  let session ← require
    (db.sessions.find? fun s =>
      s.id = applicationSessionId ∧ s.projectId = projectId ∧ s.applicationId = applicationId
        ∧ s.userId = userId) .notFound
  ensure (session.status = .active ∧ now < session.absoluteExpiresAt
    ∧ SessionCurrent project application user policy session
    ∧ ∀ revision ∈ expectedSessionRevision, revision = session.sessionRevision) .revisionConflict
  pure ⟨project, user, policy, session⟩

def findLogoutBrowser (projectId userId browserSessionId : Uuid) : Tx BrowserSession :=
  require (db.browserSessions.find? fun b =>
    b.id = browserSessionId ∧ b.projectId = projectId ∧ b.userId = userId) .notFound

def prepareBrowserLogout (c : PrepareBrowserLogout) (db : Database) :
    Tx (Committed BrowserLogoutRecord) := do
  validateDigest c.preparation
  let owners ← lockLogoutOwners db c.projectId c.applicationId c.userId c.applicationSessionId none
    c.now
  let browser ← findLogoutBrowser db c.projectId c.userId c.browserSessionId
  ensure (owners.session.browserSessionId = some browser.id ∧ BrowserLive browser c.now
    ∧ BrowserCurrent owners.project owners.user owners.policy browser) .invalidTransition
  let expiresAt := min (c.now + seconds 60) (min owners.session.absoluteExpiresAt
    (min browser.idleExpiresAt browser.absoluteExpiresAt))
  ensure (c.now < expiresAt) .invalidTransition
  let interaction : BrowserLogoutInteraction :=
    { id := c.id
      projectId := c.projectId
      applicationId := c.applicationId
      userId := c.userId
      applicationSessionId := c.applicationSessionId
      browserSessionId := c.browserSessionId
      preparation := c.preparation
      status := .prepared
      interactionRevision := 1
      csrf := none
      applicationSessionRevision := owners.session.sessionRevision
      browserSessionRevision := browser.sessionRevision
      expiresAt := expiresAt
      csrfBoundAt := none
      consumedAt := none }
  let logouts ← insertRow db.logouts interaction fun i => i.preparation ≠ c.preparation
  pure (.done { db with logouts := logouts } (browserLogoutRecord interaction))

def expiredLogout : BrowserLogoutInteraction :=
  { i with status := .expired, interactionRevision := i.interactionRevision + 1 }

/-- a live interaction past its deadline expires; the flag says whether it was live -/
def expireBrowserLogout : Database × Bool :=
  if i.status = .prepared ∨ i.status = .csrfBound then
    ({ db with logouts := db.logouts.set (expiredLogout i) }, true)
  else (db, false)

def checkLogoutBrowser (owners : LogoutOwners) (credential : VersionedDigest)
    (now : Instant) : Tx BrowserSession := do
  let browser ← findLogoutBrowser db i.projectId i.userId i.browserSessionId
  ensure (browser.credential = credential ∧ owners.session.browserSessionId = some browser.id
    ∧ BrowserLive browser now ∧ browser.sessionRevision = i.browserSessionRevision
    ∧ BrowserCurrent owners.project owners.user owners.policy browser) .notFound
  pure browser

def boundLogout (c : BindBrowserLogout) (i : BrowserLogoutInteraction) : BrowserLogoutInteraction :=
  { i with
    status := .csrfBound
    interactionRevision := i.interactionRevision + 1
    csrf := some c.csrf
    csrfBoundAt := some c.now }

def bindBrowserLogout (c : BindBrowserLogout) (db : Database) :
    Tx (Committed BrowserLogoutRecord) := do
  validateDigest c.preparation
  validateDigest c.browserCredential
  validateDigest c.csrf
  let interaction ← require
    (db.logouts.find? fun i => i.preparation = c.preparation) .notFound
  if interaction.expiresAt ≤ c.now then
    let (db, expired) := expireBrowserLogout db interaction
    pure (.fail db (if expired then .invalidTransition else .notFound))
  else do
    ensure (interaction.status = .prepared
      ∧ interaction.interactionRevision = c.expectedInteractionRevision) .revisionConflict
    let owners ← lockLogoutOwners db interaction.projectId interaction.applicationId
      interaction.userId interaction.applicationSessionId
      (some interaction.applicationSessionRevision) c.now
    let _ ← checkLogoutBrowser db interaction owners c.browserCredential c.now
    let bound := boundLogout c interaction
    pure (.done { db with logouts := db.logouts.set bound } (browserLogoutRecord bound))

def terminatedBrowser (browser : BrowserSession) (now : Instant) : BrowserSession :=
  { browser with
    status := .terminated
    sessionRevision := browser.sessionRevision + 1
    terminatedAt := some now }

def consumedLogout (now : Instant) : BrowserLogoutInteraction :=
  { i with
    status := .consumed
    interactionRevision := i.interactionRevision + 1
    consumedAt := some now }

def confirmBrowserLogout (c : ConfirmBrowserLogout) (db : Database) :
    Tx (Committed BrowserLogoutRecord) := do
  validateDigest c.preparation
  validateDigest c.browserCredential
  validateDigest c.csrf
  let interaction ← require
    (db.logouts.find? fun i => i.preparation = c.preparation) .notFound
  if interaction.expiresAt ≤ c.now then
    pure (.fail (expireBrowserLogout db interaction).1 .invalidTransition)
  else do
    ensure (interaction.status = .csrfBound
      ∧ interaction.interactionRevision = c.expectedInteractionRevision
      ∧ interaction.csrf = some c.csrf) .notFound
    let owners ← lockLogoutOwners db interaction.projectId interaction.applicationId
      interaction.userId interaction.applicationSessionId
      (some interaction.applicationSessionRevision) c.now
    let browser ← checkLogoutBrowser db interaction owners c.browserCredential c.now
    let consumed := consumedLogout interaction c.now
    pure (.done
      { db with
        browserSessions := db.browserSessions.set (terminatedBrowser browser c.now)
        logouts := db.logouts.set consumed } (browserLogoutRecord consumed))

/-! ## what a committed call did -/

/-- how a session can change: it keeps its owners and what it captured, and an ended one stays as
it is -/
structure SessionMove (s s' : ApplicationSession) : Prop where
  kept : s' = { s with
    status := s'.status
    sessionRevision := s'.sessionRevision
    revokedAt := s'.revokedAt }
  ended : s.status ≠ .active → s' = s
  revision : s.sessionRevision ≤ s'.sessionRevision

theorem SessionMove.refl (s : ApplicationSession) : SessionMove s s :=
  ⟨rfl, fun _ => rfl, Int.le_refl _⟩

variable {s : ApplicationSession} {db : Database} {r : Committed BrowserLogoutRecord}
  {owners : LogoutOwners}

theorem revokedSession_move (hs : s.status = .active) (now) :
    SessionMove s (revokedSession s now) :=
  ⟨rfl, fun h => absurd hs h, Int.le.intro 1 rfl⟩

def FamilyEnd (f f' : RefreshFamily) : Prop :=
  f' = f ∨ f.status = .active ∧ ∃ reason now, f' = revokedFamily f reason now

theorem FamilyEnd.refl (f : RefreshFamily) : FamilyEnd f f := .inl rfl

theorem evolves_revokedFamily {t f} (hf : f ∈ t) (reason : RevocationReason) (now) :
    Evolves FamilyEnd (fun _ => False) t
      (if f.status = .active then t.set (revokedFamily f reason now) else t) := by
  split
  · rename_i ha
    exact evolves_set .refl hf rfl (.inr ⟨ha, reason, now, rfl⟩)
  · exact .refl .refl _

theorem logoutApplicationSession_ok {c r} (h : logoutApplicationSession c db = .ok r) :
    ∃ session ∈ db.sessions, ∃ family ∈ db.families,
      session.id = c.applicationSessionId ∧ family.applicationSessionId = c.applicationSessionId
        ∧ r = .done (revokeSessionAndFamily db session family .logout c.now) () := by
  obtain ⟨session, hs, family, hf, h⟩ := peel₂ h
  cases h
  obtain ⟨hsm, hsid, _⟩ := find_ok hs
  obtain ⟨hfm, _, hfid⟩ := find_ok hf
  exact ⟨session, hsm, family, hfm, hsid, hfid, rfl⟩

theorem lockLogoutOwners_ok {projectId applicationId userId applicationSessionId revision now}
    (h : lockLogoutOwners db projectId applicationId userId applicationSessionId revision now
      = .ok owners) :
    owners.session ∈ db.sessions ∧ owners.session.id = applicationSessionId
      ∧ ∀ r ∈ revision, r = owners.session.sessionRevision := by
  obtain ⟨_, _, _, h⟩ := later₃ h
  obtain ⟨_, _, _, hs, _, hc, h⟩ := peel₃ h
  cases h
  obtain ⟨hsm, hsid, _⟩ := find_ok hs
  exact ⟨hsm, hsid, (ensure_ok.mp hc).2.2.2⟩

/-- the interaction of a preparation: what it captured of both sessions, and its deadline -/
structure PreparedLogout (db : Database) (c : PrepareBrowserLogout) (s : ApplicationSession)
    (b : BrowserSession) (i : BrowserLogoutInteraction) : Prop where
  sessionMem : s ∈ db.sessions
  browserMem : b ∈ db.browserSessions
  sessionId : s.id = c.applicationSessionId
  browserId : b.id = c.browserSessionId
  id : i.id = c.id
  preparation : i.preparation = c.preparation
  applicationSessionId : i.applicationSessionId = c.applicationSessionId
  browserSessionId : i.browserSessionId = c.browserSessionId
  applicationSessionRevision : i.applicationSessionRevision = s.sessionRevision
  browserSessionRevision : i.browserSessionRevision = b.sessionRevision
  expiresAt : i.expiresAt = min (c.now + seconds 60)
    (min s.absoluteExpiresAt (min b.idleExpiresAt b.absoluteExpiresAt))

theorem prepareBrowserLogout_ok {c} (h : prepareBrowserLogout c db = .ok r) :
    ∃ s b i logouts, PreparedLogout db c s b i ∧ i.status = .prepared
      ∧ db.logouts.insert i = some logouts
      ∧ r = .done { db with logouts := logouts } (browserLogoutRecord i) := by
  obtain ⟨_, _, owners, ho, browser, hb, h⟩ := peel₃ h
  obtain ⟨_, _, _, _, logouts, hi, h⟩ := peel₃ h
  cases h
  obtain ⟨hbm, hbid, _⟩ := find_ok hb
  obtain ⟨hsm, hsid, _⟩ := lockLogoutOwners_ok ho
  exact ⟨owners.session, browser, _, logouts,
    ⟨hsm, hbm, hsid, hbid, rfl, rfl, rfl, rfl, rfl, rfl, rfl⟩, rfl, (insertRow_ok hi).2, rfl⟩

theorem expireBrowserLogout_db (db i) :
    (expireBrowserLogout db i).1 = db ∨ (i.status = .prepared ∨ i.status = .csrfBound) ∧
    (expireBrowserLogout db i).1 = { db with logouts := db.logouts.set (expiredLogout i) } := by
  unfold expireBrowserLogout
  split
  · rename_i hlive
    exact .inr ⟨hlive, rfl⟩
  · exact .inl rfl

/-- what a bind and a confirmation check of both sessions of an interaction -/
structure LogoutChecked (db : Database) (i : BrowserLogoutInteraction)
    (credential : VersionedDigest) (now : Instant) (s : ApplicationSession) (b : BrowserSession) :
    Prop where
  sessionMem : s ∈ db.sessions
  sessionId : s.id = i.applicationSessionId
  sessionRevision : s.sessionRevision = i.applicationSessionRevision
  browserMem : b ∈ db.browserSessions
  browserId : b.id = i.browserSessionId
  browserRevision : b.sessionRevision = i.browserSessionRevision
  credential : b.credential = credential
  live : BrowserLive b now

theorem checkLogout_ok {i credential now b}
    (ho : lockLogoutOwners db i.projectId i.applicationId i.userId i.applicationSessionId
      (some i.applicationSessionRevision) now = .ok owners)
    (hb : checkLogoutBrowser db i owners credential now = .ok b) :
    LogoutChecked db i credential now owners.session b := by
  obtain ⟨hsm, hsid, hrevision⟩ := lockLogoutOwners_ok ho
  obtain ⟨_, hf, _, hc, hb⟩ := peel₂ hb
  cases hb
  obtain ⟨hbm, hbid, _⟩ := find_ok hf
  obtain ⟨hcredential, _, hlive, hbrev, _⟩ := ensure_ok.mp hc
  exact ⟨hsm, hsid, (hrevision _ rfl).symm, hbm, hbid, hbrev, hcredential, hlive⟩

theorem bindBrowserLogout_ok {c} (h : bindBrowserLogout c db = .ok r) :
    ∃ i ∈ db.logouts, i.preparation = c.preparation
      ∧ ((∃ e, r = .fail (expireBrowserLogout db i).1 e)
        ∨ i.status = .prepared ∧ (∃ s b, LogoutChecked db i c.browserCredential c.now s b)
          ∧ r = .done { db with logouts := db.logouts.set (boundLogout c i) }
            (browserLogoutRecord (boundLogout c i))) := by
  obtain ⟨_, _, h⟩ := later₂ h
  obtain ⟨_, _, i, hi, h⟩ := peel₂ h
  obtain ⟨him, hip⟩ := find_ok hi
  refine ⟨i, him, hip, ?_⟩
  split at h
  · cases h
    exact .inl ⟨_, rfl⟩
  · obtain ⟨_, hs, _, ho, b, hb, h⟩ := peel₃ h
    cases h
    exact .inr ⟨(ensure_ok.mp hs).1, ⟨_, _, checkLogout_ok ho hb⟩, rfl⟩

theorem confirmBrowserLogout_ok {c} (h : confirmBrowserLogout c db = .ok r) :
    ∃ i ∈ db.logouts, i.preparation = c.preparation
      ∧ (r = .fail (expireBrowserLogout db i).1 .invalidTransition
        ∨ i.status = .csrfBound ∧ i.csrf = some c.csrf ∧ c.now < i.expiresAt
          ∧ ∃ s b, LogoutChecked db i c.browserCredential c.now s b
            ∧ r = .done
              { db with
                browserSessions := db.browserSessions.set (terminatedBrowser b c.now)
                logouts := db.logouts.set (consumedLogout i c.now) }
              (browserLogoutRecord (consumedLogout i c.now))) := by
  obtain ⟨_, _, h⟩ := later₂ h
  obtain ⟨_, _, i, hi, h⟩ := peel₂ h
  obtain ⟨him, hip⟩ := find_ok hi
  refine ⟨i, him, hip, ?_⟩
  split at h
  · cases h
    exact .inl rfl
  · rename_i hopen
    obtain ⟨_, hs, owners, ho, b, hb, h⟩ := peel₃ h
    cases h
    obtain ⟨hbound, _, hcsrf⟩ := ensure_ok.mp hs
    exact .inr ⟨hbound, hcsrf, Int.not_le.mp hopen, _, _, checkLogout_ok ho hb, rfl⟩

end OwlAuth
