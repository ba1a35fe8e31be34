import OwlAuth.System.BrowserClocks

/-!
# Browser logouts over whole runs

An application prepares a logout, the browser binds it, the user confirms it.  Logins, reuse and
revocations go on in between.

* `Numbered`  revisions of sessions only grow, and the credential of a browser session changes
    only with its revision;
* `LogoutWrite`, `step_logouts`  what a call does to a logout interaction;
* `LogoutPast`  the preparation and the bind that an interaction goes back to;
* `endedBy`  the browser sessions that were ended through an interaction;
* `browser_logouts_end_once`  the main result.
-/

namespace OwlAuth

open Fallible Table Demo Machine

/-! ## revisions of sessions -/

structure SessionNumbered (s s' : ApplicationSession) : Prop where
  id : s'.id = s.id
  revision : s.sessionRevision ≤ s'.sessionRevision

structure BrowserNumbered (b b' : BrowserSession) : Prop where
  id : b'.id = b.id
  revision : b.sessionRevision ≤ b'.sessionRevision
  credential : b'.sessionRevision = b.sessionRevision → b'.credential = b.credential
  terminated : b.status = .terminated → b'.status = .terminated

theorem BrowserNumbered.refl (b : BrowserSession) : BrowserNumbered b b :=
  ⟨rfl, Int.le_refl _, fun _ => rfl, fun h => h⟩

variable {b b' : BrowserSession} {c : ConfirmBrowserLogout} {db db' db'' db₀ : Database}
  {s s' : ApplicationSession} {calls : List Call} {i i' : BrowserLogoutInteraction}

theorem BrowserNumbered.trans {a c} (h : BrowserNumbered a b)
    (h' : BrowserNumbered b c) : BrowserNumbered a c := by
  refine ⟨h'.id.trans h.id, Int.le_trans h.revision h'.revision, fun he => ?_,
    fun ht => h'.terminated (h.terminated ht)⟩
  -- a revision that is the same at both ends is the same in between
  have hab : b.sessionRevision = a.sessionRevision :=
    Int.le_antisymm (by rw [← he]; exact h'.revision) h.revision
  exact (h'.credential (he.trans hab.symm)).trans (h.credential hab)

theorem BrowserWrite.numbered {presented}
    (h : BrowserWrite presented b b') : BrowserNumbered b b' := by
  have hterminated := h.terminated
  have hnext : b.sessionRevision ≤ b.sessionRevision + 1 := by omega
  have hmoved : b.sessionRevision + 1 ≠ b.sessionRevision := by omega
  cases h with
  | kept => exact .refl b
  | rotated c => exact ⟨rfl, hnext, fun he => absurd he hmoved, hterminated⟩
  | reused now => exact ⟨rfl, hnext, fun _ => rfl, hterminated⟩
  | ended now => exact ⟨rfl, hnext, fun _ => rfl, hterminated⟩

structure Numbered (db db' : Database) : Prop where
  sessions : ∀ s ∈ db.sessions, ∃ s' ∈ db'.sessions, SessionNumbered s s'
  browsers : ∀ b ∈ db.browserSessions, ∃ b' ∈ db'.browserSessions, BrowserNumbered b b'

theorem Numbered.refl (db) : Numbered db db :=
  ⟨fun s hs => ⟨s, hs, rfl, Int.le_refl _⟩, fun b hb => ⟨b, hb, .refl b⟩⟩

theorem Numbered.trans (h : Numbered db db') (h' : Numbered db' db'') : Numbered db db'' := by
  constructor
  · intro s hs
    obtain ⟨s', hs', hn⟩ := h.sessions s hs
    obtain ⟨s'', hs'', hn'⟩ := h'.sessions s' hs'
    exact ⟨s'', hs'', hn'.id.trans hn.id, Int.le_trans hn.revision hn'.revision⟩
  · intro b hb
    obtain ⟨b', hb', hn⟩ := h.browsers b hb
    obtain ⟨b'', hb'', hn'⟩ := h'.browsers b' hb'
    exact ⟨b'', hb'', hn.trans hn'⟩

/-- a revision that never falls, and is the same twice, was the same in between -/
theorem revision_between {ρ : Type} [Keyed ρ Uuid] {R : ρ → ρ → Prop} {f : ρ → Int} {t t' : Table ρ}
    {a o c} (hR : ∀ x y, R x y → Keyed.key y = Keyed.key x ∧ f x ≤ f y) (h : ∃ y ∈ t, R a y)
    (h' : ∀ x ∈ t, ∃ y ∈ t', R x y) (ho : o ∈ t) (hc : c ∈ t') (hid : Keyed.key o = Keyed.key a)
    (hid' : Keyed.key c = Keyed.key a) (he : f c = f a) : f o = f a := by
  obtain ⟨y, hy, hn⟩ := h
  obtain rfl : y = o := eq_of_key hy ho ((hR _ _ hn).1.trans hid.symm)
  obtain ⟨z, hz, hn'⟩ := h' y hy
  obtain rfl : z = c := eq_of_key hz hc (((hR _ _ hn').1.trans hid).trans hid'.symm)
  exact Int.le_antisymm (by rw [← he]; exact (hR _ _ hn').2) (hR _ _ hn).2

theorem step_numbered (call db) : Numbered db (step call db) := by
  refine ⟨fun s hs => ?_, fun b hb => ?_⟩
  · obtain ⟨s', hs', hm⟩ := (step_refresh call db).session_moved hs
    exact ⟨s', hs', hm.sessionKept.id, hm.revision⟩
  · obtain ⟨b', hb', hw⟩ := (step_browserWrites call db).forward b hb
    exact ⟨b', hb', hw.numbered⟩

theorem run_numbered (db calls) : Numbered db (run db calls) :=
  run_rel step (I := fun _ => True) (R := Numbered) .refl (fun _ _ _ => .trans)
    (fun _ _ _ => trivial) (fun db call _ => step_numbered call db) calls trivial

theorem numbered_split {before after mid rest call}
    (hcalls : calls = before ++ call :: after) (hsplit : after = mid ++ rest) :
    Numbered (run db₀ before) (run db₀ (before ++ call :: mid))
      ∧ Numbered (run db₀ (before ++ call :: mid)) (run db₀ calls) := by
  have hfirst := run_numbered (run db₀ before) (call :: mid)
  have hlast := run_numbered (run db₀ (before ++ call :: mid)) rest
  rw [← run_append] at hfirst hlast
  rw [hcalls, hsplit]
  rw [List.append_assoc, List.cons_append] at hlast
  exact ⟨hfirst, hlast⟩

/-! ## interactions -/

inductive LogoutWrite (call : Call) (db : Database) (i : BrowserLogoutInteraction) :
    BrowserLogoutInteraction → Prop
  | kept : LogoutWrite call db i i
  | expired (live : i.status = .prepared ∨ i.status = .csrfBound) :
      LogoutWrite call db i (expiredLogout i)
  | bound (c : BindBrowserLogout) (s : ApplicationSession) (b : BrowserSession)
      (op : call.op = .session (.bindBrowserLogout c)) (prepared : i.status = .prepared)
      (named : i.preparation = c.preparation)
      (checked : LogoutChecked db i c.browserCredential c.now s b)
      (accepted : answer (bindBrowserLogout c db) = .ok (browserLogoutRecord (boundLogout c i))) :
      LogoutWrite call db i (boundLogout c i)
  | consumed (now : Instant) (bound : i.status = .csrfBound) :
      LogoutWrite call db i (consumedLogout i now)

def NewLogout (call : Call) (db : Database) (i : BrowserLogoutInteraction) : Prop :=
  ∃ c s b, call.op = .session (.prepareBrowserLogout c) ∧ i.status = .prepared
    ∧ PreparedLogout db c s b i

abbrev LogoutsWritten (call : Call) (db : Database) (t t' : Table BrowserLogoutInteraction) :
    Prop :=
  Evolves (LogoutWrite call db) (NewLogout call db) t t'

theorem LogoutsWritten.of_eq {call t t'} (h : t' = t) : LogoutsWritten call db t t' :=
  Evolves.of_eq (fun _ => .kept) h

theorem expireBrowserLogout_written {call} (hi : i ∈ db.logouts) :
    LogoutsWritten call db db.logouts (expireBrowserLogout db i).1.logouts := by
  rcases expireBrowserLogout_db db i with h | ⟨hlive, h⟩
  · rw [h]
    exact .of_eq rfl
  · rw [h]
    exact evolves_set (fun _ => .kept) hi rfl (.expired hlive)

theorem SessionOp.step_logouts (o : SessionOp) (env db) :
    LogoutsWritten ⟨env, .session o⟩ db db.logouts (o.step env db).logouts := by
  have kept : LogoutsWritten ⟨env, .session o⟩ db db.logouts db.logouts := .of_eq rfl
  cases o with
  | prepareHandoffExchange c =>
    refine execute_on Database.logouts kept fun r h => ?_
    rw [prepareHandoffExchange_db h]
    exact kept
  | commitHandoffExchange c =>
    refine execute_on Database.logouts kept fun r h => ?_
    rcases commitHandoffExchange_ok h with ⟨_, _, _, rfl⟩ | ⟨_, _, _, _, _, _, _, _, _, _, _, _,
      hviews, _, rfl⟩
    · exact kept
    · obtain ⟨_, _, _, _, _, hdb⟩ := hviews.only
      rw [hdb]
      exact kept
  | prepareRefreshRotation c =>
    refine execute_on Database.logouts kept fun r h => ?_
    obtain ⟨_, _, ⟨_, rfl⟩ | ⟨_, h⟩⟩ := prepareRefreshRotation_ok h
    · exact kept
    · obtain ⟨_, _, _, _, _, _, _, _, _, _, _, _, _, _, _, _, rfl⟩ := prepareCurrentGeneration_ok h
      exact kept
  | rotateRefreshToken c =>
    refine execute_on Database.logouts kept fun r h => ?_
    obtain ⟨_, _, _, _, ⟨_, rfl⟩ | ⟨_, h⟩⟩ := rotateRefreshToken_ok h
    · exact kept
    · obtain ⟨_, _, _, _, _, _, _, rfl⟩ := rotateCurrentGeneration_ok h
      exact kept
  | logoutApplicationSession c =>
    refine execute_on Database.logouts kept fun r h => ?_
    obtain ⟨_, _, _, _, _, _, rfl⟩ := logoutApplicationSession_ok h
    exact kept
  | prepareBrowserLogout c =>
    refine execute_on Database.logouts kept fun r h => ?_
    obtain ⟨s, b, i, _, hp, hs, hi, rfl⟩ := prepareBrowserLogout_ok h
    exact evolves_insert (fun _ => .kept) hi ⟨c, s, b, rfl, hs, hp⟩
  | bindBrowserLogout c =>
    refine execute_on Database.logouts kept fun r h => ?_
    obtain ⟨i, hi, hp, ⟨_, rfl⟩ | ⟨hs, ⟨s, b, hc⟩, rfl⟩⟩ := bindBrowserLogout_ok h
    · exact expireBrowserLogout_written hi
    · refine evolves_set (fun _ => .kept) hi rfl (.bound c s b rfl hs hp hc ?_)
      rw [h]
      rfl
  | confirmBrowserLogout c =>
    refine execute_on Database.logouts kept fun r h => ?_
    obtain ⟨i, hi, _, rfl | ⟨hs, _, _, _, _, _, rfl⟩⟩ := confirmBrowserLogout_ok h
    · exact expireBrowserLogout_written hi
    · exact evolves_set (fun _ => .kept) hi rfl (.consumed c.now hs)
  | currentSession c allowRevoked =>
    refine execute_on Database.logouts kept fun r h => ?_
    obtain ⟨_, _, _, _, _, _, _, _, _, _, hr⟩ := currentSession_ok h
    rw [hr]
    exact kept

theorem step_logouts (call db) : LogoutsWritten call db db.logouts (step call db).logouts := by
  have hr := step_only call db
  obtain ⟨env, op⟩ := call
  cases op with
  | session o => exact o.step_logouts env db
  | _ => exact .of_eq (congrArg Database.logouts hr :)

theorem run_consumed (hi : i ∈ db.logouts) (hs : i.status = .consumed) (calls) :
    i ∈ (run db calls).logouts := by
  refine run_inv step (I := fun db : Database => i ∈ db.logouts) ?_ calls hi
  intro db call hi
  obtain ⟨_, hi', hw⟩ := (step_logouts call db).forward i hi
  cases hw with
  | kept => exact hi'
  | expired live => rcases live with h | h <;> rw [hs] at h <;> cases h
  | bound _ _ _ _ prepared => rw [hs] at prepared; cases prepared
  | consumed now bound => rw [hs] at bound; cases bound

/-! ## what an interaction goes back to -/

theorem LogoutWrite.prepared {call} (hw : LogoutWrite call db i i')
    {c} (h : PreparedLogout db₀ c s b i) : PreparedLogout db₀ c s b i' := by
  cases hw with
  | kept => exact h
  | _ =>
    exact ⟨h.sessionMem, h.browserMem, h.sessionId, h.browserId, h.id, h.preparation,
      h.applicationSessionId, h.browserSessionId, h.applicationSessionRevision,
      h.browserSessionRevision, h.expiresAt⟩

structure BoundLogout (db : Database) (c : BindBrowserLogout) (i : BrowserLogoutInteraction) :
    Prop where
  named : i.preparation = c.preparation
  csrf : i.csrf = some c.csrf
  checked : ∃ s b, LogoutChecked db i c.browserCredential c.now s b
  accepted : ∃ record, answer (bindBrowserLogout c db) = .ok record ∧ record.id = i.id

/-- the calls a run of which an interaction is the result -/
structure LogoutPast (db₀ : Database) (calls : List Call) (i : BrowserLogoutInteraction) :
    Prop where
  prepared : ∃ before env c after s b,
    calls = before ++ ⟨env, .session (.prepareBrowserLogout c)⟩ :: after
      ∧ PreparedLogout (run db₀ before) c s b i
  bound : i.status = .csrfBound → ∃ before env c between env' c' after s b,
    calls = before ++ ⟨env, .session (.prepareBrowserLogout c)⟩
        :: (between ++ ⟨env', .session (.bindBrowserLogout c')⟩ :: after)
      ∧ PreparedLogout (run db₀ before) c s b i
      ∧ BoundLogout (run db₀ (before ++ ⟨env, .session (.prepareBrowserLogout c)⟩ :: between)) c' i

theorem LogoutPast.write {call} (h : LogoutPast db₀ calls i)
    (hw : LogoutWrite call (run db₀ calls) i i') : LogoutPast db₀ (calls ++ [call]) i' := by
  obtain ⟨before, env, c, after, s, b, hcalls, hp⟩ := h.prepared
  constructor
  · refine ⟨before, env, c, after ++ [call], s, b, ?_, hw.prepared hp⟩
    rw [hcalls, List.append_assoc, List.cons_append]
  · intro hbound
    have hp' := hw.prepared hp
    cases hw with
    | kept =>
      obtain ⟨before, env, c, between, env', c', after, s, b, hcalls, hp, hb⟩ := h.bound hbound
      refine ⟨before, env, c, between, env', c', after ++ [call], s, b, ?_, hp, hb⟩
      rw [hcalls, List.append_assoc, List.cons_append, List.append_assoc, List.cons_append]
    | expired => cases hbound
    | bound c' s' b' op prepared named checked accepted =>
      obtain ⟨env', _⟩ := call
      cases op
      have hchecked : LogoutChecked (run db₀ calls) (boundLogout c' i) c'.browserCredential c'.now
          s' b' :=
        ⟨checked.sessionMem, checked.sessionId, checked.sessionRevision, checked.browserMem,
          checked.browserId, checked.browserRevision, checked.credential, checked.live⟩
      refine ⟨before, env, c, after, env', c', [], s, b, ?_, hp', named, rfl, ?_, ?_⟩
      · rw [hcalls, List.append_assoc, List.cons_append]
      · rw [← hcalls]
        exact ⟨s', b', hchecked⟩
      · rw [← hcalls]
        exact ⟨_, accepted, rfl⟩
    | consumed => cases hbound

theorem run_logoutPast (calls) : ∀ i ∈ (run db₀ calls).logouts,
    (∀ o ∈ db₀.logouts, o.id ≠ i.id) → LogoutPast db₀ calls i := by
  induction calls using List.reverseRecOn with
  | nil => exact fun i hi hnew => absurd rfl (hnew i hi)
  | append_singleton calls call ih =>
    intro i' hi' hnew
    rw [run_snoc] at hi'
    rcases (step_logouts call (run db₀ calls)).backward i' hi' with ⟨i, hi, hw⟩ | hprepared
    · exact (ih i hi (by cases hw <;> exact hnew)).write hw
    · obtain ⟨c, s, b, hop, hs, hp⟩ := hprepared
      obtain ⟨env, _⟩ := call
      cases hop
      refine ⟨⟨calls, env, c, [], s, b, rfl, hp⟩, fun hbound => ?_⟩
      rw [hs] at hbound
      cases hbound

/-! ## what ended a browser session -/

/-- the browser session that a call ended through the interaction -/
def endedBy (id : Uuid) (call : Call) (db : Database) : List Uuid :=
  match call.op with
  | .session (.confirmBrowserLogout c) =>
    match answer (confirmBrowserLogout c db) with
    | .ok record => if record.id = id then [record.browserSessionId] else []
    | .error _ => []
  | _ => []

theorem endedBy_length (id : Uuid) (call db) : (endedBy id call db).length ≤ 1 := by
  unfold endedBy
  split
  · split
    · split
      · exact Nat.le_refl 1
      · exact Nat.zero_le 1
    · exact Nat.zero_le 1
  · exact Nat.zero_le 1

/-- a confirmation that ended a browser session, with the interaction it consumed -/
structure Confirms (db : Database) (call : Call) (c : ConfirmBrowserLogout)
    (i : BrowserLogoutInteraction) (s : ApplicationSession) (b : BrowserSession) : Prop where
  op : call.op = .session (.confirmBrowserLogout c)
  mem : i ∈ db.logouts
  named : i.preparation = c.preparation
  bound : i.status = .csrfBound
  csrf : i.csrf = some c.csrf
  inTime : c.now < i.expiresAt
  checked : LogoutChecked db i c.browserCredential c.now s b
  written : step call db = { db with
    browserSessions := db.browserSessions.set (terminatedBrowser b c.now)
    logouts := db.logouts.set (consumedLogout i c.now) }

theorem mem_endedBy {id browserId call} (h : browserId ∈ endedBy id call db) :
    ∃ c i s b, Confirms db call c i s b ∧ i.id = id ∧ i.browserSessionId = browserId := by
  unfold endedBy at h
  split at h
  · rename_i c hop
    split at h
    · rename_i record hanswer
      split at h
      · rename_i hid
        obtain ⟨db', hbody⟩ := answer_ok hanswer
        obtain ⟨i, hi, hnamed, hfail | ⟨hs, hcsrf, htime, s, b, hchecked, hdone⟩⟩ :=
          confirmBrowserLogout_ok hbody
        · cases hfail
        · cases hdone
          obtain rfl := List.mem_singleton.mp h
          refine ⟨c, i, s, b, ⟨hop, hi, hnamed, hs, hcsrf, htime, hchecked, ?_⟩, hid, rfl⟩
          obtain ⟨env, op⟩ := call
          cases hop
          exact execute_ok hbody
      · cases h
    · cases h
  · cases h

theorem Confirms.after {call} (h : Confirms db call c i s b) :
    consumedLogout i c.now ∈ (step call db).logouts
      ∧ terminatedBrowser b c.now ∈ (step call db).browserSessions := by
  rw [h.written]
  exact ⟨mem_set_self (consumedLogout i c.now) h.mem rfl,
    mem_set_self (terminatedBrowser b c.now) h.checked.browserMem rfl⟩

/-- the calls that led to a confirmation: the preparation of the interaction, by which both sessions
are named, and its bind -/
structure LogoutHistory (db₀ : Database) (calls : List Call) (id browserId : Uuid)
    (c : ConfirmBrowserLogout) (before : List Call) (prepare : Call) (between : List Call)
    (bind : Call) (after : List Call) (p : PrepareBrowserLogout) (q : BindBrowserLogout)
    (s : ApplicationSession) (b : BrowserSession) : Prop where
  split : calls = before ++ prepare :: (between ++ bind :: after)
  prepared : prepare.op = .session (.prepareBrowserLogout p)
  bound : bind.op = .session (.bindBrowserLogout q)
  named : p.id = id
  session : s ∈ (run db₀ before).sessions ∧ s.id = p.applicationSessionId
  browser : b ∈ (run db₀ before).browserSessions ∧ b.id = browserId ∧ p.browserSessionId = browserId
  accepted : ∃ record, answer (bindBrowserLogout q (run db₀ (before ++ prepare :: between)))
    = .ok record ∧ record.id = id
  credential : q.browserCredential = c.browserCredential
  csrf : q.csrf = c.csrf
  sessionUnchanged : ∀ mid rest, between ++ bind :: after = mid ++ rest →
    ∀ s' ∈ (run db₀ (before ++ prepare :: mid)).sessions, s'.id = s.id →
      s'.sessionRevision = s.sessionRevision
  browserUnchanged : ∀ mid rest, between ++ bind :: after = mid ++ rest →
    ∀ b' ∈ (run db₀ (before ++ prepare :: mid)).browserSessions, b'.id = b.id →
      b'.sessionRevision = b.sessionRevision
  inTime : c.now < min (p.now + seconds 60)
    (min s.absoluteExpiresAt (min b.idleExpiresAt b.absoluteExpiresAt))

theorem Confirms.history {call} (h : Confirms (run db₀ calls) call c i s' b')
    (hnew : ∀ o ∈ db₀.logouts, o.id ≠ i.id) :
    ∃ before prepare between bind after p q s b,
      LogoutHistory db₀ calls i.id i.browserSessionId c before prepare between bind after p q s b := by
  obtain ⟨before, env, p, between, env', q, after, s, b, hcalls, hp, hb⟩ :=
    (run_logoutPast calls i h.mem hnew).bound h.bound
  obtain ⟨_, b₁, hchecked⟩ := hb.checked
  refine ⟨before, ⟨env, .session (.prepareBrowserLogout p)⟩, between,
    ⟨env', .session (.bindBrowserLogout q)⟩, after, p, q, s, b, hcalls, rfl, rfl, hp.id.symm,
    ⟨hp.sessionMem, hp.sessionId⟩, ⟨hp.browserMem, hp.browserId.trans hp.browserSessionId.symm,
      hp.browserSessionId.symm⟩, hb.accepted, ?_, ?_, ?_, ?_, ?_⟩
  · -- the browser session has the same revision at the bind and now, so the same credential
    obtain ⟨b₂, hb₂, hn⟩ := (run_numbered (run db₀
      (before ++ ⟨env, .session (.prepareBrowserLogout p)⟩ :: between))
      (⟨env', .session (.bindBrowserLogout q)⟩ :: after)).browsers b₁ hchecked.browserMem
    rw [← run_append, List.append_assoc, List.cons_append, ← hcalls] at hb₂
    obtain rfl : b₂ = b' := eq_of_key hb₂ h.checked.browserMem
      ((hn.id.trans hchecked.browserId).trans h.checked.browserId.symm)
    have hrevision : b₂.sessionRevision = b₁.sessionRevision :=
      h.checked.browserRevision.trans hchecked.browserRevision.symm
    rw [← hchecked.credential, ← h.checked.credential]
    exact (hn.credential hrevision).symm
  · exact Option.some.inj (hb.csrf.symm.trans h.csrf)
  · intro mid rest hsplit s₂ hs₂ hid
    obtain ⟨hfirst, hlast⟩ := numbered_split hcalls hsplit
    exact revision_between (f := ApplicationSession.sessionRevision) (fun _ _ h => ⟨h.id, h.revision⟩)
      (hfirst.sessions s hp.sessionMem) hlast.sessions hs₂ h.checked.sessionMem hid
      ((h.checked.sessionId.trans hp.applicationSessionId).trans hp.sessionId.symm)
      (h.checked.sessionRevision.trans hp.applicationSessionRevision)
  · intro mid rest hsplit b₂ hb₂ hid
    obtain ⟨hfirst, hlast⟩ := numbered_split hcalls hsplit
    exact revision_between (f := BrowserSession.sessionRevision) (fun _ _ h => ⟨h.id, h.revision⟩)
      (hfirst.browsers b hp.browserMem) hlast.browsers hb₂ h.checked.browserMem hid
      ((h.checked.browserId.trans hp.browserSessionId).trans hp.browserId.symm)
      (h.checked.browserRevision.trans hp.browserSessionRevision)
  · rw [← hp.expiresAt]
    exact h.inTime

/-- **A logout interaction ends one browser session, once.**  Over any run from a database without the
interaction: at most one confirmation ends a browser session through it; that confirmation comes after
an accepted bind by the same browser credential and brings the value the bind stored; since the
preparation neither session changed its revision; and the deadline, sixty seconds after the preparation
or the first expiry of either session, is still ahead.  From then on no refresh is accepted for any
application session that refers to the browser session. -/
theorem browser_logouts_end_once (db₀ : Database) (id : Uuid)
    (hnew : ∀ i ∈ db₀.logouts, i.id ≠ id) (calls : List Call) :
    (trace step (endedBy id) db₀ calls).length ≤ 1
      ∧ ∀ pre call post, calls = pre ++ call :: post →
        ∀ browserId ∈ endedBy id call (run db₀ pre),
          (∃ c, call.op = .session (.confirmBrowserLogout c)
            ∧ ∃ before prepare between bind after p q s b,
              LogoutHistory db₀ pre id browserId c before prepare between bind after p q s b)
          ∧ (∃ b ∈ (run db₀ (pre ++ [call])).browserSessions,
              b.id = browserId ∧ b.status = .terminated)
          ∧ ∀ mid later rest, post = mid ++ later :: rest →
            ∀ k ∈ acceptedChains later (run db₀ (pre ++ call :: mid)),
              ∀ s ∈ (run db₀ (pre ++ call :: mid)).sessions, s.id = k.1 →
                s.browserSessionId ≠ some browserId := by
  constructor
  · refine trace_le_one step (endedBy id) (endedBy_length id) ?_
    rintro pre first mid _ post _ _ hx _ hy
    obtain ⟨c, i, _, _, hc, hid, _⟩ := mem_endedBy hx
    obtain ⟨_, j, _, _, hd, hjd, _⟩ := mem_endedBy hy
    -- the interaction was consumed, and so it still is
    have hi : consumedLogout i c.now ∈ (run db₀ (pre ++ first :: mid)).logouts := by
      rw [run_append]
      exact run_consumed hc.after.1 rfl mid
    have he : j = consumedLogout i c.now := eq_of_key hd.mem hi (hjd.trans hid.symm)
    have hbound := hd.bound
    rw [he] at hbound
    cases hbound
  · rintro pre call post _ browserId hended
    obtain ⟨c, i, s, b, hc, rfl, rfl⟩ := mem_endedBy hended
    have hterminated := hc.after.2
    refine ⟨⟨c, hc.op, hc.history hnew⟩, ?_, ?_⟩
    · rw [run_snoc]
      exact ⟨_, hterminated, hc.checked.browserId, rfl⟩
    · rintro mid later rest _ k hk s₁ hs₁ hid hbrowser
      obtain ⟨s₂, hs₂, _, _, _, _, hsid, _, _, hadmitted, _⟩ := accepted_chain hk
      obtain rfl : s₁ = s₂ := eq_of_key hs₁ hs₂ (hid.trans hsid.symm)
      obtain ⟨b₁, hb₁, hb₁id, hlive⟩ := hadmitted.browser _ hbrowser
      obtain ⟨b₂, hb₂, hn⟩ := (run_numbered (step call (run db₀ pre)) mid).browsers _ hterminated
      rw [run_append] at hb₁
      obtain rfl : b₁ = b₂ := eq_of_key hb₁ hb₂
        ((hb₁id.trans hc.checked.browserId.symm).trans hn.id.symm)
      have hstatus := hn.terminated rfl
      rw [hlive.1] at hstatus
      cases hstatus

namespace Demo

def prepareLogout : Call :=
  call (.prepareBrowserLogout ⟨70, 1, 2, 3, 22, 4, ⟨700, 1⟩, seconds 2⟩)

def bindLogout : Call :=
  call (.bindBrowserLogout ⟨⟨700, 1⟩, ⟨40, 1⟩, ⟨701, 1⟩, 1, seconds 3⟩)

def confirmLogout : Call :=
  call (.confirmBrowserLogout ⟨⟨700, 1⟩, ⟨40, 1⟩, ⟨701, 1⟩, 2, seconds 4⟩)

def refreshOnce : Call := rotate refresh 25 ⟨250, 1⟩ (seconds 5)

end Demo

theorem browser_logouts_end_once_demo :
    acceptedChains refreshOnce (run Demo.start [Demo.exchange]) = [(22, 23)]
      ∧ endedBy 70 confirmLogout (run Demo.start [Demo.exchange, prepareLogout, bindLogout]) = [4]
      ∧ (∃ b ∈ (run Demo.start [Demo.exchange, prepareLogout, bindLogout,
          confirmLogout]).browserSessions, b.id = 4 ∧ b.status = .terminated)
      ∧ acceptedChains refreshOnce (run Demo.start [Demo.exchange, prepareLogout,
          bindLogout, confirmLogout]) = [] := by
  have hended : endedBy 70 confirmLogout
      (run Demo.start [Demo.exchange, prepareLogout, bindLogout]) = [4] := by
    decide +kernel
  have hnew : ∀ i ∈ Demo.start.logouts, i.id ≠ 70 := fun i hi => absurd hi (not_mem_empty i)
  have hall := (browser_logouts_end_once Demo.start 70 hnew
    [Demo.exchange, prepareLogout, bindLogout, confirmLogout, refreshOnce]).2
    [Demo.exchange, prepareLogout, bindLogout] confirmLogout [refreshOnce] rfl 4
    (by rw [hended]; exact List.mem_singleton.mpr rfl)
  exact ⟨by decide +kernel, hended, hall.2.1, by decide +kernel⟩

end OwlAuth
