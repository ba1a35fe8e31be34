import OwlAuth.Session.Logout

/-!
# Browser sessions and handoff tickets at the end of a login

* `rotateOrCreateBrowserSession`  the browser session a login ends in: the presented one renewed in
    place, or a new one;
* `insertHandoff`  the ticket the application will redeem;
* `BrowserMove`, `BrowserEnd`  how a browser session can change.
-/

namespace OwlAuth

open Fallible Table

structure BrowserSessionCompletion where
  (projectId userId : Uuid)
  userSecurityRevision : Int
  browserSessionId : Uuid
  existingBrowserCredential : Option VersionedDigest
  browserCredential : VersionedDigest
  (projectSecurityRevision policySessionRevision : Int)
  now : Instant

variable (c : BrowserSessionCompletion)

def rotatedBrowser (existing : BrowserSession) : BrowserSession :=
  { existing with
    credential := c.browserCredential
    sessionRevision := existing.sessionRevision + 1
    projectSecurityRevision := c.projectSecurityRevision
    userSecurityRevision := c.userSecurityRevision
    policySessionRevision := c.policySessionRevision
    authenticatedAt := c.now
    lastActivityAt := c.now
    idleExpiresAt := c.now + hours 8
    absoluteExpiresAt := c.now + hours 24 }

def newBrowser : BrowserSession :=
  { id := c.browserSessionId
    projectId := c.projectId
    userId := c.userId
    credential := c.browserCredential
    status := .active
    sessionRevision := 1
    projectSecurityRevision := c.projectSecurityRevision
    userSecurityRevision := c.userSecurityRevision
    policySessionRevision := c.policySessionRevision
    authenticatedAt := c.now
    lastActivityAt := c.now
    idleExpiresAt := c.now + hours 8
    absoluteExpiresAt := c.now + hours 24
    terminatedAt := none }

variable (t : Table BrowserSession)

def presentedBrowser (credential : Option VersionedDigest) : Option BrowserSession :=
  match credential with
  | none => none
  | some d => t.find? fun b => b.credential = d

def createBrowserSession (c : BrowserSessionCompletion) :
    Tx (Table BrowserSession × BrowserSession) := do
  let t ← insertRow t (newBrowser c) fun b => b.credential ≠ c.browserCredential
  pure (t, newBrowser c)

def rotateOrCreateBrowserSession (c : BrowserSessionCompletion) :
    Tx (Table BrowserSession × BrowserSession) :=
  match presentedBrowser t c.existingBrowserCredential with
  | none => createBrowserSession t c
  | some existing =>
    if existing.projectId = c.projectId ∧ existing.userId = c.userId
        ∧ existing.status = .active then do
      ensure (∀ b ∈ t.rows, b.id ≠ existing.id → b.credential ≠ c.browserCredential) .persistence
      pure (t.set (rotatedBrowser c existing), rotatedBrowser c existing)
    else if existing.projectId = c.projectId ∧ existing.status = .active then
      createBrowserSession (t.set (terminatedBrowser existing c.now)) c
    else createBrowserSession t c

structure HandoffIssue where
  id : Uuid
  digest : VersionedDigest
  (userId browserSessionId : Uuid)
  authenticationMethod : AuthenticationMethod
  (authenticatedAt issuedAt expiresAt : Instant)
  userSecurityRevision : Int

/-- the ticket of a login; the provider columns are set for provider logins only -/
def handoffTicketRow (c : HandoffIssue) (login : LoginTransaction) (provider : Option Uuid) :
    HandoffTicket :=
  { id := c.id
    projectId := login.projectId
    loginTransactionId := login.id
    applicationId := login.applicationId
    userId := c.userId
    browserSessionId := c.browserSessionId
    providerConfigurationId := provider
    ticket := c.digest
    status := .issued
    redirectUri := login.redirectUri
    applicationPkceChallenge := login.applicationPkceChallenge
    authenticationMethod := c.authenticationMethod
    authenticatedAt := c.authenticatedAt
    projectSecurityRevision := login.projectSecurityRevision
    applicationSecurityRevision := login.applicationSecurityRevision
    userSecurityRevision := c.userSecurityRevision
    providerRevision := provider.bind fun _ => login.providerRevision
    assignmentSecurityRevision := provider.bind fun _ => login.assignmentSecurityRevision
    claimsRevision := login.claimsRevision
    policySessionRevision := login.sessionRevision
    issuedAt := c.issuedAt
    expiresAt := c.expiresAt
    consumedAt := none }

def ticketProvider (c : HandoffIssue) (login : LoginTransaction) : Tx (Option Uuid) :=
  if c.authenticationMethod = .provider then do
    let provider ← require login.providerConfigurationId .integrity
    pure (some provider)
  else pure none

def insertHandoff (t : Table HandoffTicket) (c : HandoffIssue) (login : LoginTransaction) :
    Tx (Table HandoffTicket × HandoffTicket) := do
  ensure (c.issuedAt < c.expiresAt
    ∧ c.expiresAt = min (c.issuedAt + seconds 60) login.expiresAt) .integrity
  let provider ← ticketProvider c login
  let ticket := handoffTicketRow c login provider
  let t ← insertRow t ticket fun o =>
    o.ticket ≠ ticket.ticket
      ∧ ¬ (o.projectId = ticket.projectId ∧ o.loginTransactionId = ticket.loginTransactionId)
  pure (t, ticket)

def issuedLogin (login : LoginTransaction) (userId : Uuid) (authenticatedAt now : Instant) :
    LoginTransaction :=
  { login with
    status := .handoffIssued
    transactionRevision := login.transactionRevision + 1
    userId := some userId
    authenticatedAt := some authenticatedAt
    updatedAt := now }

/-! ## what they did -/

structure CapturedBy (b : BrowserSession) : Prop where
  projectId : b.projectId = c.projectId
  userId : b.userId = c.userId
  project : b.projectSecurityRevision = c.projectSecurityRevision
  user : b.userSecurityRevision = c.userSecurityRevision
  policy : b.policySessionRevision = c.policySessionRevision

/-- the revisions a browser session captured are those of its owners in `db` -/
structure CapturesNow (db : Database) (b : BrowserSession) : Prop where
  project : ∃ p ∈ db.projects, p.id = b.projectId ∧ p.securityRevision = b.projectSecurityRevision
  user : ∃ u ∈ db.users, u.id = b.userId ∧ u.securityRevision = b.userSecurityRevision
  policy : ∃ p ∈ db.policies, p.projectId = b.projectId
    ∧ p.sessionRevision = b.policySessionRevision

structure SameCapture (b b' : BrowserSession) : Prop where
  project : b'.projectSecurityRevision = b.projectSecurityRevision
  user : b'.userSecurityRevision = b.userSecurityRevision
  policy : b'.policySessionRevision = b.policySessionRevision

theorem SameCapture.refl (b : BrowserSession) : SameCapture b b := ⟨rfl, rfl, rfl⟩

/-- how a browser session can change: an ended one stays as it is, no change goes unnumbered, and
one that captured new revisions satisfies `P` -/
structure BrowserMove (P : BrowserSession → Prop) (b b' : BrowserSession) : Prop where
  id : b'.id = b.id
  projectId : b'.projectId = b.projectId
  userId : b'.userId = b.userId
  ended : b.status ≠ .active → b' = b
  revision : b.sessionRevision ≤ b'.sessionRevision
  captured : SameCapture b b' ∨ P b'

theorem BrowserMove.refl {P} (b : BrowserSession) : BrowserMove P b b :=
  ⟨rfl, rfl, rfl, fun _ => rfl, Int.le_refl _, .inl (.refl b)⟩

variable {b b' : BrowserSession} {t : Table BrowserSession} {c : BrowserSessionCompletion}
  {r : Table BrowserSession × BrowserSession}

def BrowserEnd (b b' : BrowserSession) : Prop :=
  b' = b ∨ b.status = .active ∧ ∃ now, b' = terminatedBrowser b now

theorem BrowserEnd.refl (b : BrowserSession) : BrowserEnd b b := .inl rfl

theorem BrowserEnd.move {P} (h : BrowserEnd b b') : BrowserMove P b b' := by
  rcases h with rfl | ⟨hs, now, rfl⟩
  · exact .refl _
  · exact ⟨rfl, rfl, rfl, fun h => absurd hs h, by show _ ≤ b.sessionRevision + 1; omega,
      .inl ⟨rfl, rfl, rfl⟩⟩

theorem presentedBrowser_some {credential}
    (h : presentedBrowser t credential = some b) : b ∈ t ∧ credential = some b.credential := by
  unfold presentedBrowser at h
  split at h
  · cases h
  · obtain ⟨hm, hd⟩ := find?_some h
    exact ⟨hm, by rw [hd]⟩

theorem rotateOrCreateBrowserSession_ok (h : rotateOrCreateBrowserSession t c = .ok r) :
    (∃ existing ∈ t, existing.projectId = c.projectId ∧ existing.userId = c.userId
        ∧ existing.status = .active ∧ c.existingBrowserCredential = some existing.credential
        ∧ r = (t.set (rotatedBrowser c existing), rotatedBrowser c existing))
      ∨ ∃ t₁, (t₁ = t ∨ ∃ existing ∈ t, existing.status = .active
            ∧ t₁ = t.set (terminatedBrowser existing c.now))
          ∧ t₁.insert (newBrowser c) = some r.1 ∧ r.2 = newBrowser c := by
  have hcreate : ∀ {t₁ : Table BrowserSession}, createBrowserSession t₁ c = .ok r →
      t₁.insert (newBrowser c) = some r.1 ∧ r.2 = newBrowser c := by
    intro t₁ h₁
    obtain ⟨t₂, hi, h₁⟩ := bind_ok.mp h₁
    cases h₁
    exact ⟨(insertRow_ok hi).2, rfl⟩
  unfold rotateOrCreateBrowserSession at h
  split at h
  · exact .inr ⟨t, .inl rfl, hcreate h⟩
  · rename_i existing he
    obtain ⟨hmem, hcred⟩ := presentedBrowser_some he
    split at h
    · rename_i hc
      obtain ⟨_, h⟩ := later h
      cases h
      exact .inl ⟨existing, hmem, hc.1, hc.2.1, hc.2.2, hcred, rfl⟩
    · split at h
      · rename_i hc
        exact .inr ⟨_, .inr ⟨existing, hmem, hc.2, rfl⟩, hcreate h⟩
      · exact .inr ⟨t, .inl rfl, hcreate h⟩

theorem rotateOrCreateBrowserSession_evolves (h : rotateOrCreateBrowserSession t c = .ok r) :
    Evolves (BrowserMove (CapturedBy c)) (CapturedBy c) t r.1 := by
  rcases rotateOrCreateBrowserSession_ok h with ⟨b, hb, hp, hu, hs, _, rfl⟩ | ⟨_, ht, hi, _⟩
  · refine evolves_set .refl hb rfl
      ⟨rfl, rfl, rfl, fun h => absurd hs h, ?_, .inr ⟨hp, hu, rfl, rfl, rfl⟩⟩
    show _ ≤ b.sessionRevision + 1
    omega
  · have hnew : CapturedBy c (newBrowser c) := ⟨rfl, rfl, rfl, rfl, rfl⟩
    rcases ht with rfl | ⟨b, hb, hs, rfl⟩
    · exact evolves_insert .refl hi hnew
    · have hend : BrowserEnd b (terminatedBrowser b c.now) := .inr ⟨hs, c.now, rfl⟩
      have h₁ : Evolves (BrowserMove (CapturedBy c)) (CapturedBy c) t
          (t.set (terminatedBrowser b c.now)) :=
        evolves_set .refl hb rfl hend.move
      exact h₁.insert hi hnew

end OwlAuth
