import OwlAuth.Projection.FanOut
import OwlAuth.Session.Token

/-!
# What a session must still satisfy to be used

Revocation is logical: disabling an owner or changing a policy advances a revision, and every use
of a session compares the revisions it captured with the current ones.

* `SessionCurrent`  the owners are active and no captured revision was passed;
* `BrowserLive`  the browser session is active and not expired;
* `BrowserCurrent`  the revisions the browser session captured are the current ones;
* `checkBrowserSession`  the two browser conditions, for a session that has a browser session.
-/

namespace OwlAuth

open Fallible

/-- active owners, and the revisions a session captured are the current ones -/
def SessionCurrent (project : Project) (application : Application) (user : ProjectUser)
    (policy : ProjectPolicy) (session : ApplicationSession) : Prop :=
  project.status = .active ∧ application.status = .active ∧ user.status = .active
    ∧ project.securityRevision = session.projectSecurityRevision
    ∧ application.securityRevision = session.applicationSecurityRevision
    ∧ user.securityRevision = session.userSecurityRevision
    ∧ policy.claimsRevision = session.claimsRevision
    ∧ policy.sessionRevision = session.policySessionRevision
  deriving Decidable

def BrowserLive (browser : BrowserSession) (now : Instant) : Prop :=
  browser.status = .active ∧ now < browser.idleExpiresAt ∧ now < browser.absoluteExpiresAt
  deriving Decidable

def BrowserCurrent (project : Project) (user : ProjectUser) (policy : ProjectPolicy)
    (browser : BrowserSession) : Prop :=
  browser.projectSecurityRevision = project.securityRevision
    ∧ browser.userSecurityRevision = user.securityRevision
    ∧ browser.policySessionRevision = policy.sessionRevision
  deriving Decidable

def findBrowserSession (db : Database) (projectId userId browserSessionId : Uuid) :
    Tx BrowserSession :=
  require (db.browserSessions.find? fun b =>
    b.id = browserSessionId ∧ b.projectId = projectId ∧ b.userId = userId) .integrity

def checkBrowserSession (db : Database) (project : Project) (user : ProjectUser)
    (policy : ProjectPolicy) (session : ApplicationSession) (now : Instant) : Tx Unit :=
  match session.browserSessionId with
  | none => pure ()
  | some browserSessionId => do
    let browser ← findBrowserSession db project.id user.id browserSessionId
    ensure (BrowserLive browser now ∧ BrowserCurrent project user policy browser) .disabled

end OwlAuth
