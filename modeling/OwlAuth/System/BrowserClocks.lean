import OwlAuth.System.LoginLifecycle
import OwlAuth.System.Refusals

/-!
# The clocks of browser sessions

A browser session carries four linked instants.  A fresh login writes all of them from the clock of
the replica that completed it, a reuse writes two of them, and a termination none.

* `BrowserWrite`  the only ways a call can write a browser session;
* `TimesLinked`  the deadlines follow from the authentication and the last activity;
* `ClockAhead`  no fresh login presents a session with a clock behind its last activity;
* `browser_sessions_keep_time`  the clocks are kept in the runs whose calls are of this kind;
* `activity_goes_back`  a replica whose clock is behind takes the last activity back.
-/

namespace OwlAuth

open Fallible Table Demo Machine

/-! ## every call -/

/-- the browser credential that comes with a fresh login, and its clock -/
def Op.presents : Op → Option (VersionedDigest × Instant)
  | .completion (.completeAuthenticatedIdentity c) =>
    c.existingBrowserCredential.map fun d => (d, c.now)
  | .completion (.completeEmailProof c) =>
    c.existingBrowserCredential.map fun d => (d, c.verification.now)
  | _ => none

/-- how a call writes a browser session; `presented` is what came with a fresh login -/
inductive BrowserWrite (presented : Option (VersionedDigest × Instant)) (b : BrowserSession) :
    BrowserSession → Prop
  | kept : BrowserWrite presented b b
  | rotated (c : BrowserSessionCompletion) (active : b.status = .active)
      (fresh : presented = some (b.credential, c.now)) :
      BrowserWrite presented b (rotatedBrowser c b)
  | reused (now : Instant) (active : b.status = .active) :
      BrowserWrite presented b (reusedBrowser b now)
  | ended (now : Instant) (active : b.status = .active) :
      BrowserWrite presented b (terminatedBrowser b now)

def CreatedBrowser (b : BrowserSession) : Prop := ∃ c, b = newBrowser c

abbrev BrowsersWritten (presented : Option (VersionedDigest × Instant))
    (t t' : Table BrowserSession) : Prop :=
  Evolves (BrowserWrite presented) CreatedBrowser t t'

variable {presented : Option (VersionedDigest × Instant)} {t : Table BrowserSession}
  {b b' : BrowserSession} {db : Database}

theorem BrowsersWritten.of_eq {t'} (h : t' = t) : BrowsersWritten presented t t' :=
  Evolves.of_eq (fun _ => .kept) h

theorem BrowserEnd.write (h : BrowserEnd b b') : BrowserWrite presented b b' := by
  rcases h with rfl | ⟨hs, now, rfl⟩
  · exact .kept
  · exact .ended now hs

theorem rotateOrCreateBrowserSession_written {c r} (h : rotateOrCreateBrowserSession t c = .ok r) :
    BrowsersWritten (c.existingBrowserCredential.map fun d => (d, c.now)) t r.1 := by
  rcases rotateOrCreateBrowserSession_ok h with ⟨b, hb, _, _, hs, hcred, rfl⟩ | ⟨_, ht, hi, _⟩
  · have hfresh : c.existingBrowserCredential.map (fun d => (d, c.now))
        = some (b.credential, c.now) := by rw [hcred]; rfl
    exact evolves_set (fun _ => .kept) hb rfl (.rotated c hs hfresh)
  · have hnew : CreatedBrowser (newBrowser c) := ⟨c, rfl⟩
    rcases ht with rfl | ⟨b, hb, hs, rfl⟩
    · exact evolves_insert (fun _ => .kept) hi hnew
    · have hend : BrowsersWritten (c.existingBrowserCredential.map fun d => (d, c.now)) t
          (t.set (terminatedBrowser b c.now)) :=
        evolves_set (fun _ => .kept) hb rfl (.ended c.now hs)
      exact hend.insert hi hnew

theorem CompletionOp.step_browserWrites (o : CompletionOp) (env db) :
    BrowsersWritten (Op.completion o).presents db.browserSessions
      (o.step env db).browserSessions := by
  have kept {presented} : BrowsersWritten presented db.browserSessions db.browserSessions :=
    .of_eq rfl
  cases o with
  | completeAuthenticatedIdentity c =>
    refine execute_on Database.browserSessions kept fun r h => ?_
    rcases completeAuthenticatedIdentity_ok h with h | ⟨login, _, _, _, _, _, _, h⟩
    · have hr := h.frame
      exact .of_eq (by rw [hr])
    · obtain ⟨_, hb⟩ := h.rotated
      exact rotateOrCreateBrowserSession_written hb
  | confirmBrowserSessionReuse c =>
    refine execute_on Database.browserSessions kept fun r h => ?_
    rcases confirmBrowserSessionReuse_ok h with h | ⟨login, _, _, h⟩
    · have hr := h.frame
      exact .of_eq (by rw [hr])
    · rw [h.frame]
      exact evolves_set (fun _ => .kept) h.browserMem rfl (.reused c.now h.live.1)
  | completeEmailProof c =>
    refine execute_on Database.browserSessions kept fun r h => ?_
    obtain ⟨login, _, _, _, _, _, h⟩ := completeEmailProof_ok h
    obtain ⟨_, hb⟩ := h.rotated
    exact rotateOrCreateBrowserSession_written hb

/-- **Every call** writes the browser sessions as `BrowserWrite` says. -/
theorem step_browserWrites (call db) :
    BrowsersWritten call.op.presents db.browserSessions (step call db).browserSessions := by
  have hr := step_only call db
  obtain ⟨env, op⟩ := call
  cases op with
  | completion o => exact o.step_browserWrites env db
  | session o =>
    cases (o.step_session env db).browsers with
    | quiet h => exact h.mono (fun _ _ => BrowserEnd.write) (fun _ => False.elim)
  | revocation o =>
    cases (o.step_revocation db).browsers with
    | quiet h => exact h.mono (fun _ _ => BrowserEnd.write) (fun _ => False.elim)
  | confirmation c =>
    exact (step_confirmation env c db).ended.browsers.mono (fun _ _ => BrowserEnd.write)
      (fun _ => False.elim)
  | _ => exact .of_eq (congrArg Database.browserSessions hr :)

/-! ## what a write does to the clocks -/

/-- the deadlines of a browser session follow from its authentication and its last activity -/
structure TimesLinked (b : BrowserSession) : Prop where
  absolute : b.absoluteExpiresAt = b.authenticatedAt + hours 24
  idle : b.idleExpiresAt = min (b.lastActivityAt + hours 8) b.absoluteExpiresAt

theorem freshTimes_linked (now) : now + hours 8 = min (now + hours 8) (now + hours 24) := by
  have h : now + hours 8 ≤ now + hours 24 := Int.add_le_add_left (by decide) now
  exact (min_eq_left h).symm

theorem BrowserWrite.authentication (h : BrowserWrite none b b') :
    b'.authenticatedAt = b.authenticatedAt ∧ b'.absoluteExpiresAt = b.absoluteExpiresAt := by
  cases h with
  | rotated c _ fresh => cases fresh
  | kept => exact ⟨rfl, rfl⟩
  | reused now => exact ⟨rfl, rfl⟩
  | ended now => exact ⟨rfl, rfl⟩

theorem BrowserWrite.terminated (h : BrowserWrite presented b b') (hb : b.status = .terminated) :
    b'.status = .terminated := by
  cases h with
  | kept => exact hb
  | rotated c active => rw [hb] at active; cases active
  | reused now active => rw [hb] at active; cases active
  | ended now active => rfl

theorem BrowserWrite.activity (h : BrowserWrite presented b b')
    (hfresh : ∀ p ∈ presented, p.1 = b.credential → b.lastActivityAt ≤ p.2) :
    b.lastActivityAt ≤ b'.lastActivityAt := by
  cases h with
  | kept => exact Int.le_refl _
  | rotated c _ fresh => exact hfresh _ fresh rfl
  | reused now => exact Int.le_max_left ..
  | ended now => exact Int.le_refl _

theorem written_row {call} (hb : b ∈ db.browserSessions)
    (hb' : b' ∈ (step call db).browserSessions) (hid : b'.id = b.id) :
    BrowserWrite call.op.presents b b' := by
  obtain ⟨b₁, hb₁, hw⟩ := (step_browserWrites call db).forward b hb
  have he : b₁ = b' := eq_of_key hb₁ hb' (.trans (by cases hw <;> rfl) hid.symm)
  exact he ▸ hw

/-! ## whole runs -/

def AllLinked (db : Database) : Prop := ∀ b ∈ db.browserSessions, TimesLinked b

theorem AllLinked.step (h : AllLinked db) (call) : AllLinked (step call db) := by
  intro b' hb'
  rcases (step_browserWrites call db).backward b' hb' with ⟨b, hb, hw⟩ | hnew
  · have hlinked := h b hb
    cases hw with
    | kept => exact hlinked
    | rotated c => exact ⟨rfl, freshTimes_linked c.now⟩
    | reused now => exact ⟨hlinked.absolute, rfl⟩
    | ended now => exact ⟨hlinked.absolute, hlinked.idle⟩
  · obtain ⟨c, rfl⟩ := hnew
    exact ⟨rfl, freshTimes_linked c.now⟩

def Op.reuses : Op → Bool
  | .completion (.confirmBrowserSessionReuse _) => true
  | _ => false

theorem Op.presents_of_reuses {op : Op} (h : op.reuses = true) : op.presents = none := by
  cases op with
  | completion o =>
    cases o with
    | confirmBrowserSessionReuse c => rfl
    | completeAuthenticatedIdentity c => cases h
    | completeEmailProof c => cases h
  | _ => cases h

/-- what a call has to keep of the clocks of the browser sessions, but for the last activity -/
structure KeepsDeadlines (db : Database) (call : Call) : Prop where
  linked : AllLinked (step call db)
  reuse : call.op.reuses = true →
    ∀ b ∈ db.browserSessions, ∀ b' ∈ (step call db).browserSessions, b'.id = b.id →
      b'.authenticatedAt = b.authenticatedAt ∧ b'.absoluteExpiresAt = b.absoluteExpiresAt
  ended : ∀ b ∈ db.browserSessions, ∀ b' ∈ (step call db).browserSessions, b'.id = b.id →
    b.status = .terminated → b'.status = .terminated

structure KeepsTime (db : Database) (call : Call) : Prop extends KeepsDeadlines db call where
  activity : ∀ b ∈ db.browserSessions, ∀ b' ∈ (step call db).browserSessions, b'.id = b.id →
    b.lastActivityAt ≤ b'.lastActivityAt

/-- the clock of a fresh login is at or after the last activity of the session it presents, whether
the login succeeds or not -/
def ClockAhead (db : Database) (call : Call) : Prop :=
  ∀ p ∈ call.op.presents, ∀ b ∈ db.browserSessions.rows, p.1 = b.credential → b.lastActivityAt ≤ p.2
  deriving Decidable

theorem AllLinked.keepsDeadlines (h : AllLinked db) (call) : KeepsDeadlines db call := by
  refine ⟨h.step call, fun hreuse b hb b' hb' hid => ?_, fun b hb b' hb' hid hs => ?_⟩
  · have hw := written_row hb hb' hid
    rw [Op.presents_of_reuses hreuse] at hw
    exact hw.authentication
  · exact (written_row hb hb' hid).terminated hs

/-- **The clocks of browser sessions.**  In every run from a state in which the deadlines follow
from the other two instants they follow in every state, a reuse leaves the authentication and the
absolute deadline, and what is terminated stays so.  The last activity never goes back either, if no
fresh login presents a session with a clock behind its last activity. -/
theorem browser_sessions_keep_time (db : Database) (h₀ : AllLinked db) (calls : List Call) :
    Along step KeepsDeadlines db calls
      ∧ (Along step ClockAhead db calls → Along step KeepsTime db calls) := by
  constructor
  · exact along_inv (P := fun _ _ => True) step (fun _ call h _ => h.step call)
      (fun _ call h _ => h.keepsDeadlines call) calls h₀
      (along_of_forall step db fun _ _ => trivial)
  · refine along_inv step (fun _ call h _ => h.step call) (fun s call h hahead => ?_) calls h₀
    refine ⟨h.keepsDeadlines call, fun b hb b' hb' hid => ?_⟩
    exact (written_row hb hb' hid).activity fun p hp => hahead p hp b hb

/-! ## two replicas -/

namespace Demo

def regular : Database :=
  { lodge with identities := .single { identity with issuer := googleIssuer } }

def startSecondLogin : Call := startWith 41 (minutes 5) [googleMethod] none

def bindSecondLogin : Call :=
  visit (.bindHostedBrowser ⟨⟨410, 1⟩, ⟨411, 1⟩, ⟨412, 1⟩, 1, minutes 5⟩)

/-- the second login goes on with the browser session, six minutes in -/
def reuseSession : Call :=
  ⟨env, .completion (.confirmBrowserSessionReuse
    ⟨1, 41, 2, ⟨411, 1⟩, ⟨412, 1⟩, ⟨40, 1⟩, 46, ⟨460, 1⟩, minutes 6⟩)⟩

/-- the first login comes back from the provider and renews the browser session -/
def returnWith (grant : Option RenewableGrant) (now : Instant) : Call :=
  ⟨env, .completion (.completeAuthenticatedIdentity
    ⟨1, 30, 4, googleIssuer, "owl", ⟨none, none, none⟩, grant, 33, "usr_fledgling", 34, 35,
      some ⟨40, 1⟩, ⟨350, 1⟩, 36, ⟨360, 1⟩, now⟩)⟩

def renewAt : Instant → Call := returnWith none

/-- a login waits for its provider while another one goes on with the browser session -/
def twoLogins : List Call :=
  [startLogin, bindBrowser, selectProvider, callbackAt (minutes 1), startSecondLogin,
    bindSecondLogin, reuseSession]

def activityAfter (calls : List Call) : Option (Instant × BrowserSessionStatus) :=
  ((run regular calls).browserSessions.find? fun b => b.id = 4).map
    fun b => (b.lastActivityAt, b.status)

theorem regular_linked : AllLinked regular := by
  intro b hb
  rw [List.mem_singleton.mp (hb : b ∈ [browser])]
  exact ⟨rfl, rfl⟩

end Demo

/-- One replica confirms a reuse at six minutes, another one, four minutes behind, completes a
fresh login of the same browser: the last activity goes back to two minutes. -/
theorem activity_goes_back :
    activityAfter Demo.twoLogins = some (minutes 6, .active)
      ∧ activityAfter (Demo.twoLogins ++ [Demo.renewAt (minutes 2)])
        = some (minutes 2, .active)
      ∧ ¬ Along step KeepsTime Demo.regular (Demo.twoLogins ++ [Demo.renewAt (minutes 2)]) := by
  refine ⟨by decide +kernel, by decide +kernel, fun h => ?_⟩
  have hlast := ((along_append step KeepsTime _ _ _).mp h).2.1.activity
  have hback : ¬ ∀ b ∈ (run Demo.regular Demo.twoLogins).browserSessions.rows,
      ∀ b' ∈ (step (Demo.renewAt (minutes 2))
        (run Demo.regular Demo.twoLogins)).browserSessions.rows,
        b'.id = b.id → b.lastActivityAt ≤ b'.lastActivityAt := by decide +kernel
  exact hback hlast

theorem demo_browser_clocks :
    Along step ClockAhead regular (twoLogins ++ [renewAt (minutes 7)])
      ∧ Along step KeepsTime regular (twoLogins ++ [renewAt (minutes 7)]) := by
  have hahead : Along step ClockAhead regular
      (twoLogins ++ [renewAt (minutes 7)]) := by decide +kernel
  exact ⟨hahead, (browser_sessions_keep_time regular regular_linked _).2 hahead⟩

end OwlAuth
