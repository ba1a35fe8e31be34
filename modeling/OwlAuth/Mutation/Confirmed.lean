import OwlAuth.Mail.Step
import OwlAuth.Managed.Transactions
import OwlAuth.Mutation.Confirm

/-!
# What a confirmation does

* `applyMutation`  is followed table by table: `applyMutation_ok` and the lemmas before it;
* `confirmControl_ok`  a confirmation ended its intent without effect, or checked what the intent
    froze, changed the identities and completed it;
* `ConfirmationStep`  the summary for the tables other areas look at: sessions, tickets and
    browsers end, users move on, managed connections make one step.
-/

namespace OwlAuth

open Fallible Table

variable {env : Environment} {db db' : Database} {user : ProjectUser} {p : UserPrimary}
  {identityId userId : Uuid} {source : PrimarySource} {winner loser owner : FrozenUser}
  {now : Instant} {intent : MutationIntent} {c : PreparedIdentityMutationConfirmation} {u : Unit}
  {r : Committed Unit}

/-! ## users and their primary source -/

theorem updateUserPrimary_ok (h : updateUserPrimary env db user p = .ok db') :
    user.status = .active
      ∧ fanOutUser env { db with users := db.users.set (withPrimary env user p) }
        (withPrimary env user p) env.databaseClock = .ok db' := by
  obtain ⟨_, hs, h⟩ := bind_ok.mp h
  exact ⟨ensure_ok.mp hs, h⟩

theorem unlinkPrimary_ok {projectId}
    (h : unlinkPrimary env db user identityId projectId source = .ok db') :
    db' = db ∨ ∃ p, updateUserPrimary env db user p = .ok db' := by
  cases source with
  | preserve =>
    obtain ⟨_, h⟩ := later h
    cases h
    exact .inl rfl
  | clear =>
    obtain ⟨_, h⟩ := later h
    exact .inr ⟨_, h⟩
  | provider id revision =>
    obtain ⟨_, _, _, h⟩ := later₃ h
    exact .inr ⟨_, h⟩
  | email id revision =>
    obtain ⟨_, _, h⟩ := later₂ h
    exact .inr ⟨_, h⟩

theorem mergePrimary_ok {winner projectId}
    (h : mergePrimary env db winner projectId source = .ok db') :
    ∃ p, updateUserPrimary env db winner p = .ok db' := by
  cases source with
  | preserve => cases h
  | clear => cases h
  | provider id revision =>
    obtain ⟨_, _, _, h⟩ := later₃ h
    exact ⟨_, h⟩
  | email id revision =>
    obtain ⟨_, _, h⟩ := later₂ h
    exact ⟨_, h⟩

def OnlyAnnounced (db db' : Database) : Prop :=
  ∃ users projections events deliveries states,
    db' = { db with
      users := users
      projections := projections
      events := events
      deliveries := deliveries
      dispatchStates := states }

theorem OnlyAnnounced.of_fanOut {users}
    (h : fanOutUser env { db with users := users } user now = .ok db') :
    OnlyAnnounced db db' ∧ db'.users = users := by
  obtain ⟨projections, events, deliveries, states, rfl⟩ := fanOutUser_frame h
  exact ⟨⟨users, projections, events, deliveries, states, rfl⟩, rfl⟩

/-! ## the pieces of a merge -/

def OnlyBindings (db db' : Database) : Prop :=
  ∃ bindings projections, db' = { db with bindings := bindings, projections := projections }

theorem mergeBindings_only (db) (projectId winnerId loserId : Uuid) (now) :
    OnlyBindings db (mergeBindings db projectId winnerId loserId now) := by
  -- one binding after the other, each leaving the other tables alone
  have hfold : ∀ (bs : List ApplicationUserBinding) (db₁ : Database), OnlyBindings db db₁ →
      OnlyBindings db (bs.foldl (mergeBinding projectId winnerId now) db₁) := by
    intro bs
    induction bs with
    | nil => exact fun _ h => h
    | cons b bs ih =>
      intro db₁ h
      obtain ⟨_, _, rfl⟩ := h
      refine ih _ ?_
      unfold mergeBinding
      split
      · exact ⟨_, _, rfl⟩
      · exact ⟨_, _, rfl⟩
  exact hfold _ db ⟨db.bindings, db.projections, rfl⟩

def TicketEnd (t t' : HandoffTicket) : Prop :=
  t' = t ∨ t.status = .issued ∧ t' = { t with status := .expired }

theorem TicketEnd.refl (t : HandoffTicket) : TicketEnd t t := .inl rfl

structure SessionsEnd (db db' : Database) : Prop where
  sessions : Evolves SessionMove (fun _ => False) db.sessions db'.sessions
  families : Evolves FamilyEnd (fun _ => False) db.families db'.families
  browsers : Evolves BrowserEnd (fun _ => False) db.browserSessions db'.browserSessions
  tickets : Evolves TicketEnd (fun _ => False) db.tickets db'.tickets

theorem SessionsEnd.of_eq (hs : db'.sessions = db.sessions) (hf : db'.families = db.families)
    (hb : db'.browserSessions = db.browserSessions) (ht : db'.tickets = db.tickets) :
    SessionsEnd db db' :=
  ⟨.of_eq .refl hs, .of_eq .refl hf, .of_eq .refl hb, .of_eq .refl ht⟩

theorem revokeLoserSessions_end (db) (projectId loserId : Uuid) (now) :
    SessionsEnd db (revokeLoserSessions db projectId loserId now) where
  sessions := evolves_update SessionMove.refl (f := fun s => revokedSession s now)
    (fun _ => rfl) fun _ _ hs => revokedSession_move hs.2.2 now
  families := evolves_update FamilyEnd.refl (f := fun f => revokedFamily f .ownerInvalidated now)
    (fun _ => rfl) fun _ _ hf => .inr ⟨hf.2.2, _, now, rfl⟩
  browsers := evolves_update BrowserEnd.refl (f := fun b => terminatedBrowser b now)
    (fun _ => rfl) fun _ _ hb => .inr ⟨hb.2.2, now, rfl⟩
  tickets := evolves_update TicketEnd.refl (f := fun t => { t with status := .expired })
    (fun _ => rfl) fun _ _ ht => .inr ⟨ht.2.2, rfl⟩

structure Retired (env : Environment) (db : Database) (projectId winnerId loserId : Uuid)
    (loser : ProjectUser) (db' : Database) : Prop where
  mem : loser ∈ db.users
  named : loser.id = loserId
  ofProject : loser.projectId = projectId
  active : loser.status = .active
  announced : fanOutUser env
    { revokeLoserSessions db projectId loserId env.databaseClock with
      users := db.users.set (mergedUser env winnerId loser) }
    { mergedUser env winnerId loser with status := .disabled } env.databaseClock = .ok db'

structure Merged (env : Environment) (intent : MutationIntent) (winner loser : FrozenUser)
    (db : Database) (retired : Database) (user : ProjectUser) (p : UserPrimary) (db' : Database) :
    Prop where
  retire : ∃ l, Retired env db intent.projectId winner.userId loser.userId l retired
  mem : user ∈ retired.users
  named : user.id = winner.userId
  primary : updateUserPrimary env
    (mergeBindings
      (moveManagedConnections
        ⟨intent.projectId, loser.userId, winner.userId, winner.securityRevision⟩
        (moveIdentities retired intent.projectId winner.userId loser.userId))
      intent.projectId winner.userId loser.userId env.databaseClock) user p = .ok db'

theorem mergeBindings_users (db) (projectId winnerId loserId : Uuid) (now) :
    (mergeBindings db projectId winnerId loserId now).users = db.users := by
  obtain ⟨_, _, h⟩ := mergeBindings_only db projectId winnerId loserId now
  rw [h]

theorem confirmMerge_ok (h : confirmMerge env intent winner loser db = .ok db') :
    ∃ retired user p, Merged env intent winner loser db retired user p db' := by
  obtain ⟨retired, hr, user, hu, h⟩ := peel₂ h
  obtain ⟨l, hl, hr⟩ := bind_ok.mp hr
  obtain ⟨hl, hlp, hli, hla⟩ := find_ok hl
  obtain ⟨p, hp⟩ := mergePrimary_ok h
  obtain ⟨hu, hui⟩ := find_ok hu
  rw [mergeBindings_users] at hu
  exact ⟨retired, user, p, ⟨l, hl, hli, hlp, hla, hr⟩, hu, hui, hp⟩

/-! ## unlink -/

theorem disconnectManagedIdentity_frame {projectId}
    (h : disconnectManagedIdentity projectId identityId now db = .ok db') :
    ∃ connections credentials,
      db' = { db with managedConnections := connections, managedCredentials := credentials } := by
  unfold disconnectManagedIdentity at h
  split at h
  · cases h; exact ⟨_, _, rfl⟩
  · split at h
    · cases h; exact ⟨_, _, rfl⟩
    · obtain ⟨_, h⟩ := later h
      cases h; exact ⟨_, _, rfl⟩

def disabledProviderIdentity (i : LinkedIdentity) : LinkedIdentity :=
  { i with status := .disabled, identityRevision := i.identityRevision + 1 }

def disabledEmailIdentity (i : EmailIdentity) : EmailIdentity :=
  { i with status := .disabled, identityRevision := i.identityRevision + 1 }

inductive IdentityDisabled (env : Environment) (projectId userId : Uuid) (db : Database) :
    Database → Prop
  | provider (i : LinkedIdentity) (mem : i ∈ db.identities) (project : i.projectId = projectId)
      (owner : i.userId = userId) (active : i.status = .active)
      {connections : Table ManagedConnection} {credentials : Table ManagedCredential}
      (disconnected : disconnectManagedIdentity projectId i.id env.databaseClock db
        = .ok { db with managedConnections := connections, managedCredentials := credentials }) :
      IdentityDisabled env projectId userId db
        { db with
          managedConnections := connections
          managedCredentials := credentials
          identities := db.identities.set (disabledProviderIdentity i) }
  | email (i : EmailIdentity) (mem : i ∈ db.emailIdentities) (project : i.projectId = projectId)
      (owner : i.userId = userId) (active : i.status = .active) :
      IdentityDisabled env projectId userId db
        { db with emailIdentities := db.emailIdentities.set (disabledEmailIdentity i) }

theorem disableIdentity_ok {projectId existing}
    (h : disableIdentity env db projectId userId existing = .ok db') :
    IdentityDisabled env projectId userId db db' := by
  cases existing with
  | provider id revision =>
    obtain ⟨_, hd, h⟩ := bind_ok.mp h
    obtain ⟨_, _, rfl⟩ := disconnectManagedIdentity_frame hd
    obtain ⟨i, hi, h⟩ := bind_ok.mp h
    obtain ⟨hi, hp, hid, ho, ha⟩ := find_ok hi
    cases h
    rw [← hid] at hd
    exact @IdentityDisabled.provider env projectId userId db i hi hp ho ha _ _ hd
  | email id revision =>
    obtain ⟨i, hi, h⟩ := bind_ok.mp h
    obtain ⟨hi, hp, _, ho, ha⟩ := find_ok hi
    cases h
    exact .email i hi hp ho ha

structure Unlinked (env : Environment) (intent : MutationIntent) (owner : FrozenUser)
    (db disabled db' : Database) : Prop where
  count : 1 < activeIdentityCount db intent.projectId owner.userId
  identity : IdentityDisabled env intent.projectId owner.userId db disabled
  primary : db' = disabled ∨ ∃ user ∈ db.users, user.id = owner.userId
    ∧ ∃ p, updateUserPrimary env disabled user p = .ok db'

theorem IdentityDisabled.users {projectId} (h : IdentityDisabled env projectId userId db db') :
    db'.users = db.users := by
  cases h <;> rfl

theorem confirmUnlink_ok (h : confirmUnlink env intent owner db = .ok db') :
    ∃ disabled, Unlinked env intent owner db disabled db' := by
  obtain ⟨_, hc, _, _, _, _, h⟩ := peel₃ h
  obtain ⟨disabled, hd, user, hu, h⟩ := peel₂ h
  have hd := disableIdentity_ok hd
  obtain ⟨hu, hui⟩ := find_ok hu
  rw [hd.users] at hu
  refine ⟨disabled, ensure_ok.mp hc, hd, ?_⟩
  rcases unlinkPrimary_ok h with h | ⟨p, h⟩
  · exact .inl h
  · exact .inr ⟨user, hu, hui, p, h⟩

/-! ## link -/

inductive IdentityLinked (env : Environment) (projectId userId : Uuid) (db : Database) :
    Database → Prop
  | provider (c : IdentityMutationProviderCandidate) {identities : Table LinkedIdentity}
      (fresh : ∀ i ∈ db.identities,
        ¬ (i.projectId = projectId ∧ i.issuer = c.issuer ∧ i.subject = c.subject))
      (inserted : db.identities.insert (linkedProviderIdentity env c projectId userId)
        = some identities) :
      IdentityLinked env projectId userId db { db with identities := identities }
  | email (c : IdentityMutationEmailCandidate) {identities : Table EmailIdentity}
      {aliases : Table EmailIdentityAlias} (free : ¬ AliasTaken db c projectId)
      (inserted : db.emailIdentities.insert (linkedEmailIdentity env c projectId userId)
        = some identities)
      (aliased : foldOk (fun t d => insertLinkedAlias t (candidateAlias c projectId d))
        db.emailAliases c.lookupAliases = .ok aliases) :
      IdentityLinked env projectId userId db
        { db with emailIdentities := identities, emailAliases := aliases }

theorem confirmLink_ok {destination} (h : confirmLink env c destination db = .ok db') :
    IdentityLinked env c.projectId destination.userId db db' := by
  obtain ⟨_, _, ⟨_, _⟩, _, h⟩ := peel₂ h
  dsimp only at h
  split at h
  · obtain ⟨_, h⟩ := later h
    obtain ⟨_, _, _, _, identities, hi, h⟩ := peel₃ h
    cases h
    obtain ⟨hfresh, hi⟩ := insertRowOr_ok hi
    exact .provider _ hfresh hi
  · obtain ⟨_, _, _, _, _, hfree, h⟩ := peel₃ h
    obtain ⟨identities, hi, _, ha, h⟩ := peel₂ h
    cases h
    exact .email _ (ensure_ok.mp hfree) (insertRowOr_ok hi).2 ha

/-! ## the confirmation -/

inductive MutationApplied (env : Environment) (c : PreparedIdentityMutationConfirmation)
    (intent : MutationIntent) (db db' : Database) : Prop
  | link (destination : FrozenUser) (operation : intent.operation = .link destination)
      (linked : IdentityLinked env c.projectId destination.userId db db')
  | unlink (owner : FrozenUser) (operation : intent.operation = .unlink owner)
      (disabled : Database) (unlinked : Unlinked env intent owner db disabled db')
  | merge (winner loser : FrozenUser) (operation : intent.operation = .merge winner loser)
      (retired : Database) (user : ProjectUser) (p : UserPrimary)
      (merged : Merged env intent winner loser db retired user p db')

theorem applyMutation_ok (h : applyMutation env c intent db = .ok db') :
    MutationApplied env c intent db db' := by
  unfold applyMutation at h
  split at h
  · rename_i destination ho
    exact .link destination ho (confirmLink_ok h)
  · rename_i owner ho
    obtain ⟨_, h⟩ := later h
    obtain ⟨disabled, h⟩ := confirmUnlink_ok h
    exact .unlink owner ho disabled h
  · rename_i winner loser ho
    obtain ⟨_, h⟩ := later h
    obtain ⟨retired, user, p, h⟩ := confirmMerge_ok h
    exact .merge winner loser ho retired user p h

structure ConfirmedIntent (env : Environment) (c : PreparedIdentityMutationConfirmation)
    (intent : MutationIntent) (db applied db' : Database) : Prop where
  mutation : MutationApplied env c intent db applied
  finished : db' = { applied with
    receipts := db'.receipts, intents := db'.intents, evidence := db'.evidence }

theorem finishConfirmation_frame (h : finishConfirmation env c intent db = .ok db') :
    db' = { db with
      receipts := db'.receipts, intents := db'.intents, evidence := db'.evidence } := by
  obtain ⟨_, _, h⟩ := later₂ h
  cases h
  rfl

theorem confirmControl_ok (h : confirmControl env c db = .ok r) :
    MutationStep db r.db ∨ ∃ intent applied, ConfirmedIntent env c intent db applied r.db := by
  obtain ⟨_, _, intent, _, h⟩ := peel₂ h
  obtain ⟨_, _, _, he, h⟩ := peel₂ h
  split at h
  · cases h; exact .inl (expireLockedIfNeeded_ok he).step
  · obtain ⟨_, _, h⟩ := later₂ h
    split at h
    · obtain ⟨_, hterm, h⟩ := bind_ok.mp h
      cases h
      exact .inl (terminalize_ok hterm).step
    · obtain ⟨applied, ha, _, hf, h⟩ := peel₂ h
      cases h
      exact .inr ⟨intent, applied, applyMutation_ok ha, finishConfirmation_frame hf⟩

/-! ## the tables of other areas -/

abbrev OnlyConfirmation (db db' : Database) : Prop :=
  db' = { db with
    users := db'.users
    identities := db'.identities
    emailIdentities := db'.emailIdentities
    emailAliases := db'.emailAliases
    managedConnections := db'.managedConnections
    managedCredentials := db'.managedCredentials
    emailChallenges := db'.emailChallenges
    mailOutbox := db'.mailOutbox
    intents := db'.intents
    slots := db'.slots
    receipts := db'.receipts
    evidence := db'.evidence
    browserSessions := db'.browserSessions
    tickets := db'.tickets
    sessions := db'.sessions
    families := db'.families
    bindings := db'.bindings
    projections := db'.projections
    events := db'.events
    deliveries := db'.deliveries
    dispatchStates := db'.dispatchStates }

structure ConfirmationStep (db db' : Database) : Prop where
  frame : OnlyConfirmation db db'
  ended : SessionsEnd db db'
  users : Evolves UserMove (fun _ => False) db.users db'.users
  vault : ∀ actor, VaultStep actor db.vault db'.vault
  mail : MailMoved db.mailOutbox db'.mailOutbox
  challenges : LoginChallengesKept db.emailChallenges db'.emailChallenges

theorem UserMove.trans {a b c} (h : UserMove a b) (h' : UserMove b c) : UserMove a c :=
  ⟨h'.id.trans h.id, h'.projectId.trans h.projectId, h'.createdAt.trans h.createdAt,
    Int.le_trans h.securityRevision h'.securityRevision, fun hm => h'.merged (h.merged hm)⟩

theorem ConfirmationStep.refl (db) : ConfirmationStep db db :=
  ⟨rfl, .of_eq rfl rfl rfl rfl, .refl .refl _, fun actor => .refl actor _, .refl .refl _, .refl _⟩

theorem MutationStep.confirmation (h : MutationStep db db') : ConfirmationStep db db' := by
  have hf := h.frame
  refine ⟨?_, ?_, ?_, ?_, h.mail, h.challenges⟩
  · rw [hf]
  · exact .of_eq (congrArg Database.sessions hf :) (congrArg Database.families hf :)
      (congrArg Database.browserSessions hf :) (congrArg Database.tickets hf :)
  · exact .of_eq .refl (congrArg Database.users hf :)
  · intro actor
    rw [show db'.vault = db.vault from (congrArg Database.vault hf :)]
    exact .refl actor _

theorem IdentityLinked.confirmation {projectId}
    (h : IdentityLinked env projectId userId db db') : ConfirmationStep db db' := by
  cases h <;>
    exact ⟨rfl, .of_eq rfl rfl rfl rfl, .refl .refl _, fun actor => .refl actor _, .refl .refl _,
      .refl _⟩

theorem IdentityDisabled.vault {projectId} (h : IdentityDisabled env projectId userId db db')
    (actor : VaultActor) : VaultStep actor db.vault db'.vault := by
  cases h with
  | provider i _ _ _ _ hd =>
    have hv : VaultStep actor db.vault _ := disconnectManagedIdentity_vault hd
    exact hv
  | email => exact .refl actor _

theorem OnlyAnnounced.vault (h : OnlyAnnounced db db') : db'.vault = db.vault := by
  obtain ⟨_, _, _, _, _, rfl⟩ := h
  rfl

theorem updateUserPrimary_users (hu : user ∈ db.users)
    (h : updateUserPrimary env db user p = .ok db') :
    Evolves UserMove (fun _ => False) db.users db'.users := by
  obtain ⟨_, h⟩ := updateUserPrimary_ok h
  obtain ⟨_, husers⟩ := OnlyAnnounced.of_fanOut h
  rw [husers]
  exact evolves_set .refl hu rfl ⟨rfl, rfl, rfl, Int.le_refl _, fun h => h⟩

theorem updateUserPrimary_only (h : updateUserPrimary env db user p = .ok db') :
    OnlyAnnounced db db' :=
  (OnlyAnnounced.of_fanOut (updateUserPrimary_ok h).2).1

theorem Unlinked.confirmation {disabled} (h : Unlinked env intent owner db disabled db') :
    ConfirmationStep db db' := by
  have hd : ConfirmationStep db disabled := by
    have hv := h.identity.vault
    cases h.identity <;>
      exact ⟨rfl, .of_eq rfl rfl rfl rfl, .refl .refl _, hv, .refl .refl _, .refl _⟩
  rcases h.primary with rfl | ⟨user, hu, _, _, hp⟩
  · exact hd
  · have hanon := updateUserPrimary_only hp
    have husers : Evolves UserMove (fun _ => False) db.users db'.users := by
      have hu' : user ∈ disabled.users := by rw [h.identity.users]; exact hu
      have := updateUserPrimary_users hu' hp
      rw [h.identity.users] at this
      exact this
    have hvault : ∀ actor, VaultStep actor db.vault db'.vault := by
      intro actor
      rw [hanon.vault]
      exact hd.vault actor
    obtain ⟨_, _, _, _, _, rfl⟩ := hanon
    refine ⟨?_, ?_, husers, hvault, hd.mail, hd.challenges⟩
    · have hf := hd.frame
      rw [hf]
    · exact ⟨hd.ended.sessions, hd.ended.families, hd.ended.browsers, hd.ended.tickets⟩

theorem Merged.confirmation {retired}
    (h : Merged env intent winner loser db retired user p db') : ConfirmationStep db db' := by
  obtain ⟨l, hl⟩ := h.retire
  have hend := revokeLoserSessions_end db intent.projectId loser.userId env.databaseClock
  obtain ⟨hanon, hretired⟩ := OnlyAnnounced.of_fanOut hl.announced
  have husers₁ : Evolves UserMove (fun _ => False) db.users retired.users := by
    rw [hretired]
    exact evolves_set .refl hl.mem rfl ⟨rfl, rfl, rfl, Int.le.intro 1 rfl, fun _ => rfl⟩
  have hprimary := h.primary
  have hanon' := updateUserPrimary_only hprimary
  have husers₂ := updateUserPrimary_users (by rw [mergeBindings_users]; exact h.mem) hprimary
  rw [mergeBindings_users] at husers₂
  have husers := husers₁.trans (R := UserMove) (fun _ _ _ => .trans) (fun _ _ => False.elim) husers₂
  have hvault := hanon'.vault
  obtain ⟨_, _, hb⟩ := mergeBindings_only
    (moveManagedConnections ⟨intent.projectId, loser.userId, winner.userId, winner.securityRevision⟩
      (moveIdentities retired intent.projectId winner.userId loser.userId))
    intent.projectId winner.userId loser.userId env.databaseClock
  rw [hb] at hanon' hvault
  have hkept : retired.vault = db.vault := hanon.vault
  have hmoved : ∀ actor, VaultStep actor db.vault db'.vault := by
    intro actor
    rw [hvault, ← hkept]
    exact moveManagedConnections_vault _ (moveIdentities retired _ _ _)
  obtain ⟨_, _, _, _, _, rfl⟩ := hanon
  obtain ⟨_, _, _, _, _, hdb⟩ := hanon'
  refine ⟨?_, ?_, husers, hmoved, ?_, ?_⟩
  · rw [hdb]; rfl
  · rw [hdb]
    exact ⟨hend.sessions, hend.families, hend.browsers, hend.tickets⟩
  · rw [hdb]; exact .refl .refl _
  · rw [hdb]; exact .refl _

theorem MutationApplied.confirmation (h : MutationApplied env c intent db db') :
    ConfirmationStep db db' := by
  cases h with
  | link _ _ h => exact h.confirmation
  | unlink _ _ _ h => exact h.confirmation
  | merge _ _ _ _ _ _ h => exact h.confirmation

theorem confirmControl_step (h : confirmControl env c db = .ok r) : ConfirmationStep db r.db := by
  rcases confirmControl_ok h with h | ⟨_, _, h⟩
  · exact h.confirmation
  · have ha := h.mutation.confirmation
    have hf := h.finished
    refine ⟨?_, ?_, ?_, fun actor => ?_, ?_, ?_⟩
    · have hf' := ha.frame
      rw [hf, hf']
    · rw [hf]
      exact ⟨ha.ended.sessions, ha.ended.families, ha.ended.browsers, ha.ended.tickets⟩
    · rw [hf]; exact ha.users
    · rw [hf]; exact ha.vault actor
    · rw [hf]; exact ha.mail
    · rw [hf]; exact ha.challenges

end OwlAuth
