import OwlAuth.Base.Lockstep
import OwlAuth.System.EmailProofs

/-!
# What an email login tells about accounts

Until a proof is accepted, a login by email must not reveal whether the address has an account.

* `EmailCall`  what a browser can ask for before it has proved an address;
* `DifferInAccounts`  two databases with different users, email identities and aliases;
* `selectEmailMethod_agree`, `commitEmailGeneration_agree`, `verifyEmailProof_agree`  no call tells
    the two apart;
* `accounts_not_revealed`  no dialogue does.
-/

namespace OwlAuth

open Fallible Demo

/-! ## the dialogue -/

inductive EmailCall
  | selectEmailMethod (c : SelectEmailMethod)
  | prepareEmailGeneration (c : PrepareEmailGeneration)
  | commitEmailGeneration (env : Environment) (c : CommitEmailGeneration)
  | verifyEmailProof (v : VerifyEmailProof)

inductive EmailReply
  | selected (r : Tx EmailMethodSelection)
  | prepared (r : Tx EmailGenerationPreparation)
  | committed (r : Tx Unit)
  | checked (r : Tx EmailProofDecision)

def EmailCall.reply (db : Database) : EmailCall → EmailReply
  | selectEmailMethod c => .selected (answer (OwlAuth.selectEmailMethod c db))
  | prepareEmailGeneration c => .prepared (OwlAuth.prepareEmailGeneration c db)
  | commitEmailGeneration env c => .committed (answer (OwlAuth.commitEmailGeneration env c db))
  | verifyEmailProof v => .checked (answer (OwlAuth.verifyEmailProof v db))

def EmailCall.step (db : Database) : EmailCall → Database
  | selectEmailMethod c => execute db (OwlAuth.selectEmailMethod c db)
  | prepareEmailGeneration _ => db
  | commitEmailGeneration env c => execute db (OwlAuth.commitEmailGeneration env c db)
  | verifyEmailProof v => execute db (OwlAuth.verifyEmailProof v db)

/-- the database and the replies after a dialogue in which each call may be chosen from the replies
so far -/
def dialogue (moves : List (List EmailReply → EmailCall)) (db : Database) :
    Database × List EmailReply :=
  Machine.play (fun call db => EmailCall.step db call) (fun call db => EmailCall.reply db call)
    moves db []

/-! ## what the calls read -/

/-- the databases differ at most in users, email identities and their aliases -/
def DifferInAccounts (db db' : Database) : Prop :=
  ∃ users identities aliases,
    db' = { db with users := users, emailIdentities := identities, emailAliases := aliases }

/-- the same reply, and databases that still differ in nothing else -/
def Alike {α : Type} (r r' : Committed α) : Prop :=
  r.reply = r'.reply ∧ DifferInAccounts r.db r'.db

variable {db db' : Database}

theorem selectEmailMethod_agree (h : DifferInAccounts db db') (c : SelectEmailMethod) :
    Agree Alike (selectEmailMethod c db) (selectEmailMethod c db') := by
  obtain ⟨users, identities, aliases, rfl⟩ := h
  refine .same_bind fun _ => .same_bind fun _ => .same_bind fun login => .same_bind fun snapshot =>
    .same_bind fun _ => .same_bind fun _ => .same_bind fun _ => .same_bind fun _ =>
    .same_bind fun _ => .ok ?_
  exact ⟨rfl, users, identities, aliases, rfl⟩

theorem commitEmailGeneration_agree (h : DifferInAccounts db db') (env)
    (c : CommitEmailGeneration) :
    Agree Alike (commitEmailGeneration env c db) (commitEmailGeneration env c db') := by
  obtain ⟨users, identities, aliases, rfl⟩ := h
  refine .same_bind fun _ => .same_bind fun login => .same_bind fun snapshot => .same_bind fun _ =>
    .same_bind fun _ => .same_bind fun _ => .same_bind fun _ => .same_bind fun authorization =>
    .same_bind fun challenges => .same_bind fun mail => .ok ?_
  exact ⟨rfl, users, identities, aliases, rfl⟩

theorem verifyEmailProof_agree (h : DifferInAccounts db db') (v : VerifyEmailProof) :
    Agree Alike (verifyEmailProof v db) (verifyEmailProof v db') := by
  obtain ⟨users, identities, aliases, rfl⟩ := h
  refine .same_bind fun ch => .ok ?_
  cases ch with
  | none => exact ⟨rfl, users, identities, aliases, rfl⟩
  | some ch =>
    unfold decideProof
    dsimp only
    split
    · exact ⟨rfl, users, identities, aliases, rfl⟩
    · refine ⟨rfl, users, identities, aliases, ?_⟩
      show rejectProof _ ch v = _
      unfold rejectProof
      split <;> rfl

theorem answer_alike {α : Type} {x y : Tx (Committed α)} (h : Agree Alike x y) :
    answer x = answer y := by
  cases h with
  | error e => rfl
  | ok h => exact h.1

theorem execute_alike {α : Type} {x y : Tx (Committed α)}
    (hdb : DifferInAccounts db db') (h : Agree Alike x y) :
    DifferInAccounts (execute db x) (execute db' y) := by
  cases h with
  | error e => exact hdb
  | ok h => exact h.2

/-! ## the statement -/

theorem EmailCall.reply_alike (h : DifferInAccounts db db') (call : EmailCall) :
    call.reply db = call.reply db' := by
  cases call with
  | selectEmailMethod c => exact congrArg _ (answer_alike (selectEmailMethod_agree h c))
  | prepareEmailGeneration c =>
    obtain ⟨_, _, _, rfl⟩ := h
    rfl
  | commitEmailGeneration env c =>
    exact congrArg _ (answer_alike (commitEmailGeneration_agree h env c))
  | verifyEmailProof v => exact congrArg _ (answer_alike (verifyEmailProof_agree h v))

theorem EmailCall.step_alike (h : DifferInAccounts db db') (call : EmailCall) :
    DifferInAccounts (call.step db) (call.step db') := by
  cases call with
  | selectEmailMethod c => exact execute_alike h (selectEmailMethod_agree h c)
  | prepareEmailGeneration c => exact h
  | commitEmailGeneration env c => exact execute_alike h (commitEmailGeneration_agree h env c)
  | verifyEmailProof v => exact execute_alike h (verifyEmailProof_agree h v)

/-- **Accounts are not revealed.**  Two databases that differ at most in users, email identities and
aliases give the same replies to every dialogue of method selections, preparations, generations and
proof checks, and keep the same logins, challenges and messages. -/
theorem accounts_not_revealed {db db' : Database} (h : DifferInAccounts db db')
    (moves : List (List EmailReply → EmailCall)) :
    (dialogue moves db).2 = (dialogue moves db').2
      ∧ (dialogue moves db).1.logins = (dialogue moves db').1.logins
      ∧ (dialogue moves db).1.emailChallenges = (dialogue moves db').1.emailChallenges
      ∧ (dialogue moves db).1.mailOutbox = (dialogue moves db').1.mailOutbox
      ∧ DifferInAccounts (dialogue moves db).1 (dialogue moves db').1 := by
  obtain ⟨hreplies, hdiffer⟩ := Machine.play_lockstep (R := DifferInAccounts)
    (fun call db => EmailCall.step db call) (fun call db => EmailCall.reply db call)
    (fun _ _ call h => EmailCall.reply_alike h call) (fun _ _ call h => EmailCall.step_alike h call)
    moves [] h
  obtain ⟨_, _, _, hkept⟩ := id hdiffer
  unfold dialogue
  exact ⟨hreplies, by rw [hkept], by rw [hkept], by rw [hkept], hdiffer⟩

/-! ## an address with and without an account -/

namespace Demo

def stranger : Database := run lodge [startEmailLogin, bindBrowser]

/-- as `stranger`, but the address of `sendCode` belongs to a user -/
def known : Database :=
  { stranger with
    users := .single { user with primaryEmailIdentityId := some 40, primarySourceKind := .email }
    emailIdentities := .single ⟨40, 1, 3, .active, 1, 1, ⟨List.replicate 41 0, 1⟩, some 0⟩
    emailAliases := .single ⟨1, 40, 1, ⟨310, 1⟩⟩ }

/-- email is chosen and a code is sent; it is checked only if the sending was accepted -/
def probe : List (List EmailReply → EmailCall) :=
  [fun _ => .selectEmailMethod ⟨1, 30, 2, ⟨301, 1⟩, ⟨302, 1⟩, seconds 2⟩,
    fun _ => .prepareEmailGeneration ⟨1, 30, 3, ⟨301, 1⟩, ⟨302, 1⟩, seconds 3⟩,
    fun seen =>
      match seen.getLast? with
      | some (.prepared (.ok p)) =>
        .commitEmailGeneration env { sendCodeCommand with expectedGeneration := p.nextGeneration }
      | _ => .commitEmailGeneration env sendCodeCommand,
    fun _ => .verifyEmailProof (answerCode 1)]

end Demo

theorem demo_accounts_not_revealed :
    (dialogue probe stranger).1.mailOutbox.rows.length = 1
      ∧ (dialogue probe stranger).2 = (dialogue probe known).2 :=
  ⟨by decide +kernel, (accounts_not_revealed ⟨_, _, _, rfl⟩ probe).1⟩

end OwlAuth
