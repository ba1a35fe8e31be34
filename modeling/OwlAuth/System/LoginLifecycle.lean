import OwlAuth.System.HandoffTickets

/-!
# Login transactions over whole runs

Some writers of a login ask the table of `LoginTransactionStatus` for the move they make, others
write the status they want.  What all of them together do:

* `LoginFollows`, `step_logins`  how a call can move a login: along the table, along a chain of its
    moves (completions and denials), or by its deadline;
* `run_login_row`  what every such move keeps, every run keeps;
* `PastClaim`  a login whose callback was claimed can never be claimed again;
* `logins_follow_their_states`  the whole statement for every run;
* `exchange_expired_off_the_table`  what the table does not allow and the code does.
-/

namespace OwlAuth

open Table Demo Machine
open Fallible Relation

/-! ## every call -/

/-- the calls that may take a login along more than one move of the table -/
def Op.endsLogin : Op → Bool
  | .completion _ => true
  | .login o => o.denies
  | _ => false

/-- how a call can move a login; `ends` if it completes the login or denies its callback -/
structure LoginFollows (ends : Bool) (l l' : LoginTransaction) : Prop where
  id : l'.id = l.id
  status : l'.status = l.status
    ∨ (l.status = .providerExchangeInProgress ∧ l'.status = .expired)
    ∨ l.status.Allowed l'.status
    ∨ (ends = true ∧ TransGen LoginTransactionStatus.Allowed l.status l'.status)
  revision : l'.status = l.status ∨ l'.transactionRevision = l.transactionRevision + 1
  binding : l'.browserBinding = l.browserBinding
    ∨ (l.status = .awaitingBrowserBinding ∧ l'.status = .awaitingMethodSelection)
    ∨ l'.browserBinding = none

variable {ends email : Bool} {s s' : LoginTransactionStatus} {l l' : LoginTransaction}
  {db db' : Database}

theorem LoginFollows.refl (l : LoginTransaction) : LoginFollows ends l l :=
  ⟨rfl, .inl rfl, .inl rfl, .inl rfl⟩

theorem LoginMove.follows {denial} (h : LoginMove denial l l')
    (hd : denial = true → ends = true) : LoginFollows ends l l' := by
  refine ⟨h.kept.id, ?_, h.turn.revision, h.turn.binding⟩
  have hs := h.turn.status
  generalize l.status = s, l'.status = s' at hs ⊢
  cases hs with
  | kept => exact .inl rfl
  | along h => exact .inr (.inr (.inl h))
  | denied h =>
    have hclaim : LoginTransactionStatus.Allowed .providerAuthorizationStarted
        .providerExchangeInProgress := rfl
    exact .inr (.inr (.inr ⟨hd h, .tail (.single hclaim) rfl⟩))
  | overtaken => exact .inr (.inl ⟨rfl, rfl⟩)

def FreshLogin (l : LoginTransaction) : Prop :=
  l.status = .awaitingBrowserBinding ∧ l.transactionRevision = 1 ∧ l.browserBinding = none

theorem LoginStep.follows {denial cs}
    (h : LoginStep denial email cs db db') (hd : denial = true → ends = true) :
    Evolves (LoginFollows ends) FreshLogin db.logins db'.logins := by
  refine h.moved.mono (fun _ _ hm => hm.follows hd) ?_
  rintro _ ⟨_, _, rfl⟩
  exact ⟨rfl, rfl, rfl⟩

theorem CompletionStep.follows (h : CompletionStep email db db') :
    Evolves (LoginFollows true) FreshLogin db.logins db'.logins := by
  rcases h with h | ⟨login, ticket, authenticatedAt, now, h, _, _, _⟩
  · exact h.follows nofun
  · rw [h.logins]
    have hf : LoginFollows true login (issuedLogin login ticket.userId authenticatedAt now) :=
      ⟨rfl, .inr (.inr (.inr ⟨rfl, h.path⟩)), .inr rfl, .inl rfl⟩
    exact evolves_set .refl h.loginMem rfl hf

theorem SessionStep.follows {env es} (h : SessionStep env db db' es) :
    Evolves (LoginFollows false) FreshLogin db.logins db'.logins := by
  cases h with
  | exchanged c ticket login owners binding projection db₁ sessions families generations ha hv hviews
      hopen =>
    have hs : login.status = .handoffIssued := ha.ofLogin.1
    have hallowed : login.status.Allowed (completedLogin login c.now).status := by
      rw [hs]; rfl
    have hf : LoginFollows false login (completedLogin login c.now) :=
      ⟨rfl, .inr (.inr (.inl hallowed)), .inr rfl, .inl rfl⟩
    exact evolves_set .refl ha.loginMem rfl hf
  | _ => exact .refl .refl _

/-- **Every call** moves logins as `LoginFollows` says. -/
theorem step_logins (call db) :
    Evolves (LoginFollows call.op.endsLogin) FreshLogin db.logins (step call db).logins := by
  have hr := step_only call db
  obtain ⟨env, op⟩ := call
  cases op with
  | login o => exact (o.step_login env db).follows fun h => h
  | completion o => exact (o.step_completion env db).follows
  | session o => exact (o.step_session env db).follows
  | _ => exact .of_eq .refl (congrArg Database.logins hr :)

/-! ## what every move keeps -/

theorem LoginTransactionStatus.not_allowed_of_terminal (h : s.terminal = true) :
    ¬ s.Allowed s' := by
  unfold Allowed
  revert h
  cases s <;> cases s' <;> decide

theorem LoginTransactionStatus.not_allowed_unbound (s : LoginTransactionStatus) :
    ¬ s.Allowed .awaitingBrowserBinding := by
  intro ha
  cases s <;> cases ha

theorem LoginFollows.terminal (h : LoginFollows ends l l') (ht : l.status.terminal = true) :
    l'.status = l.status := by
  rcases h.status with hs | ⟨hs, _⟩ | hs | ⟨_, hs⟩
  · exact hs
  · rw [hs] at ht; cases ht
  · exact absurd hs (LoginTransactionStatus.not_allowed_of_terminal ht)
  · obtain ⟨_, hs, _⟩ := TransGen.head'_iff.mp hs
    exact absurd hs (LoginTransactionStatus.not_allowed_of_terminal ht)

theorem LoginFollows.bound (h : LoginFollows ends l l') (hl : l.status ≠ .awaitingBrowserBinding) :
    l'.status ≠ .awaitingBrowserBinding := by
  intro hl'
  rcases h.status with hs | ⟨_, hs⟩ | hs | ⟨_, hs⟩
  · exact hl (hs.symm.trans hl')
  · rw [hs] at hl'; cases hl'
  · rw [hl'] at hs
    exact LoginTransactionStatus.not_allowed_unbound _ hs
  · rw [hl'] at hs
    obtain ⟨s, _, hs⟩ := TransGen.tail'_iff.mp hs
    exact LoginTransactionStatus.not_allowed_unbound s hs

/-- the login is bound to `b`, or it was and the binding was erased -/
def BoundTo (b : VersionedDigest) (l : LoginTransaction) : Prop :=
  l.status ≠ .awaitingBrowserBinding ∧ (l.browserBinding = some b ∨ l.browserBinding = none)

theorem LoginFollows.boundTo {b} (h : LoginFollows ends l l') (hb : BoundTo b l) :
    BoundTo b l' := by
  refine ⟨h.bound hb.1, ?_⟩
  rcases h.binding with he | hs | hn
  · rw [he]; exact hb.2
  · exact absurd hs.1 hb.1
  · exact .inr hn

/-- the callback of the login cannot be claimed any more -/
def PastClaim (s : LoginTransactionStatus) : Bool :=
  match s with
  | .awaitingBrowserBinding => false
  | .awaitingMethodSelection => false
  | .providerAuthorizationStarted => false
  | _ => true

theorem PastClaim.allowed (h : PastClaim s = true) (ha : s.Allowed s') : PastClaim s' = true := by
  unfold LoginTransactionStatus.Allowed at ha
  revert h ha
  cases s <;> cases s' <;> decide

/-- a set of statuses that holds `expired` and that no move of the table leaves -/
structure StatusClosed (P : LoginTransactionStatus → Bool) : Prop where
  expired : P .expired = true
  allowed : ∀ s s', P s = true → s.Allowed s' → P s' = true

theorem LoginFollows.closed {P} (hP : StatusClosed P)
    (h : LoginFollows ends l l') (hl : P l.status = true) : P l'.status = true := by
  rcases h.status with hs | ⟨_, hs⟩ | hs | ⟨_, hs⟩
  · rw [hs]; exact hl
  · rw [hs]; exact hP.expired
  · exact hP.allowed _ _ hl hs
  · generalize l'.status = s at hs
    induction hs with
    | single ha => exact hP.allowed _ _ hl ha
    | tail _ ha ih => exact hP.allowed _ _ ih ha

def BindingSound (db : Database) : Prop :=
  ∀ l ∈ db.logins, l.status = .awaitingBrowserBinding → l.browserBinding = none

theorem step_bindingSound (db call) (h : BindingSound db) : BindingSound (step call db) := by
  intro l' hl' hs
  rcases (step_logins call db).backward l' hl' with ⟨l, hl, hf⟩ | hnew
  · have hw : l.status = .awaitingBrowserBinding := by
      by_contra hne
      exact hf.bound hne hs
    rcases hf.binding with hb | ⟨_, hm⟩ | hn
    · rw [hb]; exact h l hl hw
    · rw [hs] at hm; cases hm
    · exact hn
  · exact hnew.2.2

theorem run_login_row {P : LoginTransaction → Prop}
    (hP : ∀ ends l l', LoginFollows ends l l' → P l → P l') (calls) (hl : l ∈ db.logins)
    (h : P l) (hl' : l' ∈ (run db calls).logins) (hid : l'.id = l.id) : P l' := by
  have hrow : ∃ l' ∈ (run db calls).logins, l'.id = l.id ∧ P l' := by
    refine run_inv step (I := fun d : Database => ∃ l' ∈ d.logins, l'.id = l.id ∧ P l') ?_
      calls ⟨l, hl, rfl, h⟩
    rintro d call ⟨m, hm, hid, hpm⟩
    obtain ⟨m', hm', hf⟩ := (step_logins call d).forward m hm
    exact ⟨m', hm', hf.id.trans hid, hP _ m m' hf hpm⟩
  obtain ⟨_, hm, hmid, hpm⟩ := hrow
  rw [eq_of_key hl' hm (hid.trans hmid.symm)]
  exact hpm

/-! ## the claim of a callback -/

def claimedCallbacks (call : Call) (db : Database) : List Uuid :=
  match call.op with
  | .login (.claimProviderCallback c) =>
    match answer (claimProviderCallback c db) with
    | .ok exchange => [exchange.transaction.id]
    | .error _ => []
  | _ => []

theorem claimedCallbacks_mem {call x} (h : x ∈ claimedCallbacks call db) :
    (∃ l ∈ db.logins, l.id = x ∧ PastClaim l.status = false)
      ∧ ∃ l ∈ (step call db).logins, l.id = x ∧ PastClaim l.status = true := by
  obtain ⟨env, op⟩ := call
  unfold claimedCallbacks at h
  dsimp only at h
  split at h
  · rename_i c
    split at h
    · rename_i exchange ha
      obtain rfl := List.mem_singleton.mp h
      obtain ⟨db', hr⟩ := answer_ok ha
      have hstep : step ⟨env, .login (.claimProviderCallback c)⟩ db = db' := by
        show execute db (claimProviderCallback c db) = db'
        rw [hr]; rfl
      obtain ⟨login, hl, hfail | ⟨e, ht, hid, hdone⟩⟩ := claimProviderCallback_ok hr
      · cases hfail
      · cases hdone
        have hs : login.status = .providerAuthorizationStarted := by
          revert ht; cases login.status <;> decide
        refine ⟨⟨login, hl, hid.symm, by rw [hs]; rfl⟩, ?_⟩
        rw [hstep]
        exact ⟨_, mem_set_self (movedLogin login .providerExchangeInProgress c.now) hl rfl,
          hid.symm, rfl⟩
    · cases h
  · cases h

theorem claimedCallbacks_nodup (call db) : (claimedCallbacks call db).Nodup := by
  unfold claimedCallbacks
  split
  · split
    · exact List.nodup_singleton _
    · exact List.nodup_nil
  · exact List.nodup_nil

theorem callbacks_claimed_once (db calls) : (trace step claimedCallbacks db calls).Nodup := by
  refine trace_nodup step claimedCallbacks (fun pre a _ _ => claimedCallbacks_nodup _ _) ?_
  intro pre a mid b post _ x hx hx'
  obtain ⟨_, l, hl, rfl, hpast⟩ := claimedCallbacks_mem hx
  obtain ⟨⟨_, hl', hid', hopen⟩, _⟩ := claimedCallbacks_mem hx'
  have hrun : Machine.run step db (pre ++ a :: mid)
      = run (step a (Machine.run step db pre)) mid := Machine.run_append step db pre (a :: mid)
  rw [hrun] at hl'
  have hlater := run_login_row (P := fun l => PastClaim l.status = true)
    (fun _ _ _ hf => hf.closed ⟨rfl, fun _ _ => PastClaim.allowed⟩) mid hl hpast hl' hid'
  rw [hopen] at hlater
  cases hlater

/-! ## the statement -/

/-- **Logins follow their states.**  In every run, a call that changes the status of a login raises
its revision by one; unless the deadline ends an exchange in progress, the change is a move of the
table, or, for a completion or a denial, a chain of such moves.  A final status stays, a binding
stays or is erased, and no callback is claimed twice. -/
theorem logins_follow_their_states (db : Database) (hdb : BindingSound db) (calls : List Call) :
    (∀ pre call post, calls = pre ++ call :: post → ∀ l ∈ (run db pre).logins,
      ∃ l' ∈ (run db (pre ++ [call])).logins, l'.id = l.id
        ∧ (l'.status ≠ l.status → l'.transactionRevision = l.transactionRevision + 1
          ∧ (¬ (l.status = .providerExchangeInProgress ∧ l'.status = .expired) →
            l.status.transition l'.status = true
              ∨ (call.op.endsLogin = true
                ∧ TransGen LoginTransactionStatus.Allowed l.status l'.status))))
      ∧ (∀ pre post, calls = pre ++ post → ∀ l ∈ (run db pre).logins,
        ∀ l' ∈ (run db calls).logins, l'.id = l.id →
          (l.status.terminal = true → l'.status = l.status)
            ∧ ∀ b, l.browserBinding = some b →
              l'.browserBinding = some b ∨ l'.browserBinding = none)
      ∧ (trace step claimedCallbacks db calls).Nodup := by
  refine ⟨?_, ?_, callbacks_claimed_once db calls⟩
  · intro pre call post _ l hl
    obtain ⟨l', hl', hf⟩ := (step_logins call (run db pre)).forward l hl
    rw [run_snoc]
    refine ⟨l', hl', hf.id, fun hne => ⟨hf.revision.resolve_left hne, fun hexp => ?_⟩⟩
    rcases hf.status with hs | hs | hs | hs
    · exact absurd hs hne
    · exact absurd hs hexp
    · exact .inl hs
    · exact .inr hs
  · intro pre post hcalls l hl l' hl' hid
    rw [hcalls, run_append] at hl'
    have hsound : BindingSound (run db pre) := run_inv step step_bindingSound pre hdb
    refine ⟨fun ht => ?_, fun b hb => ?_⟩
    · have hkept := run_login_row (P := fun m => m.status.terminal = true ∧ m.status = l.status)
        (fun _ a a' hf ha => ⟨by rw [hf.terminal ha.1]; exact ha.1, (hf.terminal ha.1).trans ha.2⟩)
        post hl ⟨ht, rfl⟩ hl' hid
      exact hkept.2
    · have hbound : BoundTo b l := by
        refine ⟨fun hs => ?_, .inl hb⟩
        rw [hsound l hl hs] at hb
        cases hb
      exact (run_login_row (fun _ _ _ hf => hf.boundTo) post hl hbound hl' hid).2

/-! ## a login through a provider -/

namespace Demo

def provider : ProviderConfiguration :=
  ⟨10, 1, "google", .google, "Google", googleIssuer, "https://auth.example.test/callback", 11,
    .active, 1, false, 1⟩

def lodge : Database :=
  { start with
    logins := .empty
    tickets := .empty
    redirects := .single ⟨1, 2, "https://app.example.test/callback"⟩
    providers := .single provider
    assignments := .single ⟨1, 2, 10, .active, 1⟩ }

def visit (o : LoginOp) : Call := ⟨env, .login o⟩

def startWith (id : Uuid) (now : Instant) (providers : List AdmittedProviderMethod)
    (email : Option AdmittedEmailMethod) : Call :=
  visit (.createLoginTransaction
    ⟨id, 1, 2, ⟨10 * id, 1⟩, "https://app.example.test/callback", challenge,
      ⟨List.replicate 17 0, 1⟩, none, ⟨1, 1, 1, 1, 1⟩, now, now + minutes 10, providers, email⟩)

def googleMethod : AdmittedProviderMethod := ⟨.google, "google", 10, "Google", googleIssuer, 1, none, 1⟩

def startLogin : Call := startWith 30 0 [googleMethod] none

def bindBrowser : Call := visit (.bindHostedBrowser ⟨⟨300, 1⟩, ⟨301, 1⟩, ⟨302, 1⟩, 1, seconds 1⟩)

def selectProvider : Call :=
  visit (.selectProviderMethod
    ⟨1, 30, 2, ⟨301, 1⟩, ⟨302, 1⟩, "google", 10, "https://auth.example.test/callback", ⟨303, 1⟩,
      ⟨304, 1⟩, ⟨List.replicate 17 0, 1⟩, seconds 2⟩)

def callbackAt (now : Instant) : Call :=
  visit (.claimProviderCallback ⟨"prj_roost", "google", 30, ⟨303, 1⟩, ⟨301, 1⟩, [1], now⟩)

def denial : Call :=
  visit (.denyProviderCallback
    ⟨"prj_roost", "google", 30, ⟨303, 1⟩, ⟨301, 1⟩, "auth.callback.denied", minutes 1⟩)

def statusAfter (calls : List Call) : Option LoginTransactionStatus :=
  ((run lodge calls).logins.find? fun l => l.id = 30).map LoginTransaction.status

end Demo

/-- The user comes back from the provider nine minutes after the start of the login; while the code
is exchanged, a second callback arrives after the deadline.  It claims nothing, but it ends the
exchange the first one claimed, a move the table does not have.  A denied callback is written as a
failed exchange, which the table allows only after a claim. -/
theorem exchange_expired_off_the_table :
    (statusAfter [startLogin, bindBrowser, selectProvider,
          callbackAt (minutes 9)] = some .providerExchangeInProgress
        ∧ statusAfter [startLogin, bindBrowser, selectProvider,
          callbackAt (minutes 9), callbackAt (minutes 10)] = some .expired
        ∧ (callbackAt (minutes 10)).op.endsLogin = false
        ∧ LoginTransactionStatus.transition .providerExchangeInProgress .expired = false)
      ∧ statusAfter [startLogin, bindBrowser, selectProvider]
          = some .providerAuthorizationStarted
        ∧ statusAfter [startLogin, bindBrowser, selectProvider, denial]
          = some .providerExchangeFailed
        ∧ LoginTransactionStatus.transition .providerAuthorizationStarted .providerExchangeFailed
          = false := by
  refine ⟨⟨?_, ?_, rfl, rfl⟩, ?_, ?_, rfl⟩
  · decide +kernel
  · decide +kernel
  · decide +kernel
  · decide +kernel

theorem demo_callback_claimed_once :
    trace step claimedCallbacks lodge
        [startLogin, bindBrowser, selectProvider, callbackAt (minutes 1),
          callbackAt (minutes 2)] = [30]
      ∧ (trace step claimedCallbacks lodge
        [startLogin, bindBrowser, selectProvider, callbackAt (minutes 1),
          callbackAt (minutes 2)]).Nodup := by
  have hsound : BindingSound lodge := fun l hl => absurd hl (not_mem_empty l)
  exact ⟨by decide +kernel, (logins_follow_their_states lodge hsound _).2.2⟩

end OwlAuth
