import OwlAuth.System.ManagedCredentials

/-!
# Revocations that were asked for

Once a revocation or a disconnection of a connection was asked for, only the workers that revoke may
go on with it.  Every worker that renews is stopped by the revision of its guard, which the request
passed; but a renewal that lay abandoned is taken over whether or not a revocation was asked for, with
a guard of the new revision.

* `NoTakeOver`  no renewal is taken over while a request is pending on its connection;
* `requested_stays_active`  then a connection with a pending request is active, and some step of the
    workers that revoke selects it;
* `requested_not_renewed`  and, if nobody was about to send it, its credential is neither
    submitted nor sent any more.
-/

namespace OwlAuth

open Fallible Table Demo Machine

/-! ## connections a revocation was asked for -/

def AskedActive (v : Vault) : Prop :=
  ∀ c ∈ v.connections, c.revocationRequest ≠ none → c.state = .active

/-- the actor works on connections no revocation was asked for -/
def ActsFree (actor : VaultActor) (v : Vault) : Prop :=
  ∀ a ∈ actor, ∀ c ∈ v.connections, ∀ o, a.ActsOn c o → c.revocationRequest = none

variable {c c' m : ManagedConnection} {g : ConnectionGuard} {db db' : Database} {t : Task}
  {d : Deployment} {r : PreparedRenewal} {v : Vault} {o : RenewalOperation}

section
variable {actor : VaultActor} {v v' : Vault}

theorem AskedActive.of_evolves {R N cs} (hv : AskedActive v) (h : Evolves R N v.connections cs)
    (hR : ∀ c c', R c c' → c'.revocationRequest = c.revocationRequest ∧ c'.state = c.state)
    (hN : ∀ c, N c → c.revocationRequest = none) :
    ∀ c ∈ cs, c.revocationRequest ≠ none → c.state = .active := by
  intro c' hc' hr
  rcases h.backward c' hc' with ⟨c, hc, hm⟩ | hn
  · obtain ⟨hq, hs⟩ := hR c c' hm
    rw [hs]
    exact hv c hc (by rw [← hq]; exact hr)
  · exact absurd (hN c' hn) hr

theorem AskedActive.set (hv : AskedActive v) (hc : c ∈ v.connections) (hid : c'.id = c.id)
    (h : c'.revocationRequest ≠ none → c'.state = .active) :
    ∀ m ∈ v.connections.set c', m.revocationRequest ≠ none → m.state = .active := by
  intro m hm hr
  rcases (mem_set_of hc hid).mp hm with ⟨hm, _⟩ | rfl
  · exact hv m hm hr
  · exact h hr

theorem Quiet.asked (h : Quiet c c') :
    c'.revocationRequest = c.revocationRequest ∧ c'.state = c.state :=
  ⟨congrArg ConnectionView.revocationRequest h.view, congrArg ConnectionView.state h.view⟩

theorem AskedActive.quiet (hv : AskedActive v) (hc : c ∈ v.connections) (h : Quiet c c') :
    ∀ m ∈ v.connections.set c', m.revocationRequest ≠ none → m.state = .active := by
  refine hv.set hc h.id fun hr => ?_
  rw [h.asked.2]
  exact hv c hc (by rw [← h.asked.1]; exact hr)

/-- a step keeps what was asked for active, unless a renewal ends where a revocation was asked for -/
theorem AskedActive.step (hv : AskedActive v) (h : VaultStep actor v v') (ha : ActsFree actor v) :
    AskedActive v' := by
  cases h with
  | touched hc => exact hv.of_evolves hc (fun _ _ h => h.asked) fun _ hf => hf.elim
  | prepared hc hq => exact hv.quiet hc hq
  | submitted => exact hv
  | succeeded _ hc => exact hv.set hc rfl fun _ => rfl
  | @terminalized c o _ _ _ hc _ _ _ _ hacts =>
    obtain ⟨a, ha', hact⟩ := hacts
    exact hv.set hc rfl fun hr => absurd (ha a ha' c hc o hact) hr
  | requested hc hs => exact hv.set hc rfl fun _ => hs
  | dispatched hc hq => exact hv.quiet hc hq
  | ended hc he => exact hv.set hc he.move.id fun hr => absurd he.free hr
  | reconnected hc _ hr => exact hv.set hc hr.move.id fun _ => hr.state
  | connected _ hf _ _ hi =>
    intro m hm hr
    rcases (mem_insert hi).mp hm with hm | rfl
    · exact hv m hm hr
    · exact absurd hf hr
  | merged hc => exact hv.of_evolves hc (fun _ _ h => ⟨h.request, h.state⟩) fun _ hf => hf.elim
  | erased hc => exact hv.of_evolves hc (fun _ _ h => h.asked) fun _ hf => hf.elim
  | rewrapped hc hq => exact hv.quiet hc hq

/-! ## what a worker that renews knows -/

/-- nothing was asked of the connection while it is as the guard has it -/
def Unasked (v : Vault) (g : ConnectionGuard) : Prop :=
  ∀ c ∈ v.connections, c.id = g.connectionId → c.revision = g.connectionRevision →
    c.revocationRequest = none

theorem Unasked.step (hg : Unasked v g) (hheld : GuardHeld v g) (h : VaultStep actor v v') :
    Unasked v' g := by
  intro c' hc' hid hrev
  rcases h.connections.backward c' hc' with ⟨c, hc, hm⟩ | hnew
  · obtain ⟨m, hmem, hl⟩ := hheld
    have hcid : c.id = g.connectionId := hm.id.symm.trans hid
    have he : m = c := eq_of_key hmem hc (hl.connectionId.trans hcid.symm)
    rw [he] at hl
    have hle := hl.revision
    have hle' : c.revision ≤ c'.revision := hm.fenced.1
    have hsame : c'.revision = c.revision := by omega
    have hview : c'.view = c.view := hm.fenced.2 hsame
    have hreq : c'.revocationRequest = c.revocationRequest :=
      congrArg ConnectionView.revocationRequest hview
    rw [hreq]
    exact hg c hc hcid (hsame.symm.trans hrev)
  · exact hnew.2

end

def Task.renewalGuard : Task → Option ConnectionGuard
  | renewing w => some w.renewal.claim.guard
  | dispatching w _ => some w.renewal.claim.guard
  | answered w _ => some w.renewal.claim.guard
  | fenced w => some w.renewal.claim.guard
  | _ => none

def Task.Unasked (db : Database) (t : Task) : Prop :=
  ∀ g ∈ t.renewalGuard, OwlAuth.Unasked db.vault g

theorem Task.Unasked.move (ht : t.Unasked db) (hr : t.Right db) (h : ManagedMove db db') :
    t.Unasked db' := by
  obtain ⟨_, hv⟩ := h.vault
  intro g hg
  refine (ht g hg).step ?_ hv
  cases t with
  | renewing | dispatching | answered | fenced => cases hg; exact hr.1.guard
  | _ => cases hg

theorem Task.Unasked.actsFree (ht : t.Unasked db) (i : Input) : ActsFree (t.actor i) db.vault := by
  have hfree : ∀ w : RenewalWork, w.renewal.claim.guard ∈ t.renewalGuard →
      t.actor i = .worker ⟨w.renewal, i.now⟩ → ActsFree (t.actor i) db.vault := by
    intro w hg ha a hmem c hc o hacts
    rw [ha] at hmem
    cases hmem
    exact ht _ hg c hc hacts.connectionId hacts.revision
  cases t with
  | renewing w => exact hfree w rfl rfl
  | answered w => exact hfree w rfl rfl
  | fenced w => exact hfree w rfl rfl
  | _ => exact fun _ ha => nomatch ha

/-! ## moves -/

/-- no renewal is taken over while a request is pending on its connection -/
def NoTakeOver (d : Deployment) : DeploymentMove → Prop
  | .enter (.renew _ _ (.operation operationId) _ _ _) =>
    ∀ o ∈ d.store.renewalOperations.rows, o.id = operationId →
      ∀ c ∈ d.store.managedConnections.rows, c.id = o.connectionId → c.revocationRequest = none
  | _ => True

instance (d : Deployment) : DecidablePred (NoTakeOver d)
  | .enter (.renew _ _ (.operation operationId) _ _ _) =>
    inferInstanceAs (Decidable (∀ o ∈ d.store.renewalOperations.rows, o.id = operationId →
      ∀ c ∈ d.store.managedConnections.rows, c.id = o.connectionId → c.revocationRequest = none))
  | .enter (.renew _ _ (.connection _) _ _ _) | .enter (.call _) | .enter (.revoke _ _)
  | .enter (.rewrap _ _) | .enter (.completeCallback _ _) | .advance _ _ | .crash _ =>
    inferInstanceAs (Decidable True)

/-- the vault is sound, whoever a revocation was asked for is active, and workers that renew started
where nothing was asked -/
def Deployment.Asked (d : Deployment) : Prop :=
  Pool.Sound (fun db : Database => db.vault.Sound ∧ AskedActive db.vault)
    (fun db t => t.Right db ∧ t.Unasked db) d

theorem Deployment.Asked.sound (h : d.Asked) : d.Sound :=
  ⟨h.store.1, fun t ht => (h.tasks t ht).1⟩

theorem prepareNextRenewal_unasked {env c done}
    (h : prepareNextRenewal env c db = .ok done) (hr : done.reply = .ok (some r))
    (hfree : ∀ operationId, c.pick = .operation operationId →
      ∀ o ∈ db.renewalOperations.rows, o.id = operationId →
        ∀ m ∈ db.managedConnections.rows, m.id = o.connectionId → m.revocationRequest = none) :
    ∃ m ∈ db.managedConnections, GuardOf r.claim.guard m ∧ m.state = .active
      ∧ m.revocationRequest = none := by
  obtain ⟨_, h⟩ := later h
  split at h
  · rename_i operationId hpick
    obtain ⟨o, m, ht⟩ := recoverRenewal_ok h hr
    exact ⟨m, ht.connection, ht.guard, ht.active, hfree operationId hpick o ht.operation ht.operationId
      m ht.connection ht.renews.connectionId.symm⟩
  · obtain ⟨m, hs⟩ := startRenewal_ok h hr
    exact ⟨m, hs.connection, hs.guard, hs.active, hs.free⟩

theorem GuardOf.unasked (h : GuardOf g m) (hm : m ∈ v.connections)
    (hfree : m.revocationRequest = none) : Unasked v g := by
  intro c hc hid _
  have he : c = m := eq_of_key hc hm (hid.trans h.connectionId)
  rw [he]
  exact hfree

theorem Request.Started.unasked {r} (h : r.Started d.store db' t)
    (hr : NoTakeOver d (.enter r)) : t.Unasked db' := by
  cases h with
  | renewing _ hp =>
    obtain ⟨_, hm, hg, _, hfree⟩ := prepareNextRenewal_unasked hp rfl
      (fun operationId hpick => by cases hpick; exact hr)
    intro g hmem
    cases hmem
    exact (hg.unasked hm hfree).step (hg.held hm)
      (prepareNextRenewal_call hp : VaultCall .other d.store db').step
  | revoking | rewrapping | exchanging => exact fun g hg => nomatch hg

theorem Deployment.Asked.step (hd : d.Asked) (m : DeploymentMove) (hm : NoTakeOver d m) :
    (d.step m).Asked := by
  refine Pool.step_sound (R := ManagedMove)
    (fun _ _ _ hmove ht => ⟨ht.1.move hmove, ht.2.move ht.1 hmove⟩) m d ?_ ?_ hd
  · intro r hr hs
    rw [hr] at hm
    have hst := r.enter_stepped d.store hs.1
    refine ⟨⟨hs.1.step hst.vault, hs.2.step hst.vault fun a ha => absurd ha (r.not_mem_actor a)⟩,
      hst.move,
      fun t ht => ⟨hst.next t ht, (r.enter_started d.store t ht).unasked hm⟩⟩
  · intro n i t _ _ hs ht
    have hst := t.advance_stepped i d.store ht.1
    refine ⟨⟨hs.1.step hst.vault, hs.2.step hst.vault (ht.2.actsFree i)⟩, hst.move,
      fun u hu => ⟨hst.next u hu, fun g hg => ?_⟩⟩
    refine ht.2.move ht.1 hst.move g ?_
    cases t.advance_follows i d.store u hu with
    | dispatching | answered | fenced => exact hg
    | _ => cases hg

theorem Deployment.Fresh.asked (hd : d.Fresh) : d.Asked := by
  refine ⟨⟨hd.sound.store, fun c hc => ?_⟩, fun t ht => ?_⟩
  · have hc' : c ∈ d.store.managedConnections.rows := hc
    rw [hd.connections] at hc'
    cases hc'
  · rw [hd.tasks] at ht
    cases ht

/-! ## a step that resolves the request -/

/-- a worker that revokes may claim the connection at `now` -/
structure ClaimableRevocation (db : Database) (now : Instant) (c : ManagedConnection) : Prop where
  active : c.state = .active
  due : ClaimDue db c now .revocation
  unleased : c.Unleased now
  owners : ∃ owners, findConnectionOwners db c = .ok owners ∧ AuthorityCurrent owners c

/-- one of the three ways in which a request is resolved is open at `now` -/
def RevocationSelected (db : Database) (now : Instant) (c : ManagedConnection) : Prop :=
  AmbiguousRevocation now c ∨ StaleRevocation db c ∨ ClaimableRevocation db now c

theorem OwnersStand.owners (h : OwnersStand db c) :
    ∃ owners, findConnectionOwners db c = .ok owners ∧ AuthorityCurrent owners c := by
  obtain ⟨⟨p, hp, hpid, hps, hpr⟩, ⟨q, hq, hqp, hqid, hqs, hqm, hqr, hqmr⟩,
    ⟨u, hu, hup, huid, hus, hur⟩, ⟨i, hi, hip, hiid, _, his, hir⟩⟩ := h
  refine ⟨⟨p, q, u, i⟩, ?_, ⟨hps, hqs, hqm, hqr, hqmr, hus, hur, his, hir⟩, hpr⟩
  have fp : db.projects.find? (fun p => p.id = c.projectId) = some p :=
    find?_eq_some hp hpid fun _ _ h => h.trans hpid.symm
  have fq : db.providers.find?
      (fun p => p.id = c.providerConfigurationId ∧ p.projectId = c.projectId) = some q :=
    find?_eq_some hq ⟨hqid, hqp⟩ fun _ _ h => h.1.trans hqid.symm
  have fu : db.users.find? (fun u => u.id = c.userId ∧ u.projectId = c.projectId) = some u :=
    find?_eq_some hu ⟨huid, hup⟩ fun _ _ h => h.1.trans huid.symm
  have fi : db.identities.find?
      (fun i => i.id = c.linkedIdentityId ∧ i.projectId = c.projectId) = some i :=
    find?_eq_some hi ⟨hiid, hip⟩ fun _ _ h => h.1.trans hiid.symm
  unfold findConnectionOwners
  rw [fp, fq, fu, fi]
  rfl

theorem revocation_selected {now} (hactive : c.state = .active)
    (hasked : c.revocationRequest ≠ none) (hfree : c.Unleased now) :
    RevocationSelected db now c := by
  have hsome : c.revocationRequest.isSome = true := Option.isSome_iff_ne_none.mpr hasked
  cases hdispatch : c.revocationDispatch with
  | some dispatch => exact .inl ⟨hactive, by rw [hdispatch]; rfl, hsome, hfree⟩
  | none =>
    by_cases hstand : OwnersStand db c
    · exact .inr (.inr ⟨hactive, ⟨hasked, hdispatch⟩, hfree, hstand.owners⟩)
    · exact .inr (.inl ⟨hactive, hsome, hstand⟩)

/-- **If no renewal is taken over while a request is pending on its connection**, then in every
reachable state a connection with a pending request is active, and once nobody holds it one of the
steps that resolve the request selects it. -/
theorem requested_stays_active (d : Deployment) (hd : d.Fresh) (moves : List DeploymentMove)
    (hm : Along Deployment.step NoTakeOver d moves) :
    ∀ c ∈ (d.run moves).store.managedConnections, c.revocationRequest ≠ none →
      c.state = .active
        ∧ ∀ now, c.Unleased now → RevocationSelected (d.run moves).store now c := by
  intro c hc hasked
  have hkept : (d.run moves).Asked :=
    run_inv_along Deployment.step (fun _ m hs hP => hs.step m hP) moves hd.asked hm
  have hactive := hkept.store.2 c hc hasked
  exact ⟨hactive, fun now hfree => revocation_selected hactive hasked hfree⟩

namespace Demo

/-- the operator asks for a revocation of the connection as the login left it -/
def requestAt (now : Instant) : DeploymentMove :=
  .enter (.call ⟨env, .managed (.requestRevocation ⟨1, 3, 500, 1, 1, now⟩)⟩)

/-- a worker that prepared a renewal vanishes; its lease runs out and a revocation is asked for -/
def askedLate : List DeploymentMove :=
  connecting ++ [renewFrom 61 (minutes 3), .crash 0, requestAt (minutes 20)]

def refused : List DeploymentMove :=
  askedLate ++ [takeOver 62 (minutes 21), .advance 0 (meets (minutes 22)),
    .advance 0 { meets (minutes 22) with renewal := .invalidGrant },
    .advance 0 (meets (minutes 22))]

def connectionsAfter (moves : List DeploymentMove) : List (ConnectionState × Bool) :=
  (nest.run moves).store.managedConnections.rows.map
    fun c => (c.state, c.revocationRequest.isSome)

end Demo

/-- An abandoned renewal is taken over after a revocation was asked for.  The provider answers that
the grant is invalid, so the connection waits for the user to connect again, with the request still
pending: it is neither claimed nor ended by the workers that revoke. -/
theorem requested_connection_stuck :
    connectionsAfter askedLate = [(.active, true)]
      ∧ connectionsAfter Demo.refused = [(.reauthRequired, true)]
      ∧ ¬ Along Deployment.step NoTakeOver Demo.nest Demo.refused
      ∧ ∀ c ∈ (Demo.nest.run Demo.refused).store.managedConnections.rows,
        ¬ StaleRevocation (Demo.nest.run Demo.refused).store c ∧ c.lease = none := by
  decide +kernel

theorem requested_stays_active_late :
    (∃ c ∈ (Demo.nest.run Demo.askedLate).store.managedConnections.rows,
        c.revocationRequest ≠ none)
      ∧ ∀ c ∈ (Demo.nest.run Demo.askedLate).store.managedConnections,
        c.revocationRequest ≠ none → c.state = .active
          ∧ ∀ now, c.Unleased now → RevocationSelected (Demo.nest.run Demo.askedLate).store now c :=
  ⟨by decide +kernel,
    requested_stays_active Demo.nest nest_fresh Demo.askedLate (by decide +kernel)⟩

/-! ## a credential that is not renewed any more -/

/-- the credential generation `g` of the connection `id` is out of use: its revocation was asked for,
or the connection has ended or has another credential -/
def OutOfUse (id : Uuid) (g : Int) (v : Vault) : Prop :=
  ∃ c ∈ v.connections, c.id = id ∧ g ≤ c.credentialGeneration
    ∧ (c.credentialGeneration = g → c.state = .active → c.revocationRequest ≠ none)

section
variable {actor : VaultActor} {v v' : Vault} {id : Uuid} {g : Int}

/-- the request on a connection is still pending, for the credential it was made for -/
structure StillAsked (c c' : ManagedConnection) : Prop where
  asked : c'.revocationRequest ≠ none
  credentialGeneration : c'.credentialGeneration = c.credentialGeneration

theorem Quiet.stillAsked (h : Quiet c c') (hc : c.revocationRequest ≠ none) : StillAsked c c' :=
  ⟨by rw [h.asked.1]; exact hc, congrArg ConnectionView.credentialGeneration h.view⟩

theorem OwnerMoved.stillAsked (h : OwnerMoved c c') (hc : c.revocationRequest ≠ none) :
    StillAsked c c' :=
  ⟨by rw [h.request]; exact hc, congrArg ManagedCredentialContext.credentialGeneration h.context⟩

theorem VaultStep.asked (h : VaultStep actor v v') (ha : ActsFree actor v) (hc : c ∈ v.connections)
    (hasked : c.revocationRequest ≠ none) (hc' : c' ∈ v'.connections) (hid : c'.id = c.id) :
    StillAsked c c' ∨ c'.state ≠ .active := by
  have same : c' ∈ v.connections → StillAsked c c' ∨ c'.state ≠ .active := by
    intro hold
    rw [eq_of_key hold hc hid]
    exact .inl ⟨hasked, rfl⟩
  have written : ∀ {m m' : ManagedConnection}, m ∈ v.connections → c' ∈ v.connections.set m' →
      m'.id = m.id → (m = c → StillAsked m m' ∨ m'.state ≠ .active) →
      StillAsked c c' ∨ c'.state ≠ .active := by
    intro m m' hm hmem hmid hkeep
    rcases (mem_set_of hm hmid).mp hmem with ⟨hold, _⟩ | rfl
    · exact same hold
    · have he : m = c := eq_of_key hm hc (hmid.symm.trans hid)
      rw [← he]
      exact hkeep he
  have evolved : ∀ {R : ManagedConnection → ManagedConnection → Prop}
      {cs : Table ManagedConnection}, Evolves R (fun _ => False) v.connections cs → c' ∈ cs →
      (∀ m m', R m m' → m'.id = m.id) →
      (∀ m m', R m m' → m.revocationRequest ≠ none → StillAsked m m') →
      StillAsked c c' ∨ c'.state ≠ .active := by
    intro R cs hev hmem hRid hR
    obtain ⟨m, hm, hr⟩ := hev.source hmem
    have he : m = c := eq_of_key hm hc ((hRid m c' hr).symm.trans hid)
    rw [he] at hr
    exact .inl (hR c c' hr hasked)
  have taken : ∀ {m : ManagedConnection}, m.revocationRequest = none → m = c → False := by
    intro m hfree he
    rw [he] at hfree
    exact hasked hfree
  have quiet : ∀ {m m' : ManagedConnection}, Quiet m m' → m = c →
      StillAsked m m' ∨ m'.state ≠ .active := by
    intro m m' hq he
    exact .inl (hq.stillAsked (by rw [he]; exact hasked))
  cases h with
  | touched hev => exact evolved hev hc' (fun _ _ h => h.id) fun _ _ h => h.stillAsked
  | prepared hm hq => exact written hm hc' hq.id (quiet hq)
  | submitted => exact same hc'
  | @succeeded m o _ _ _ hacts hm =>
    obtain ⟨a, hmem, hact⟩ := hacts
    exact written hm hc' rfl fun he => (taken (ha a hmem m hm o hact) he).elim
  | @terminalized m o _ _ _ hm _ _ _ _ hacts =>
    obtain ⟨a, hmem, hact⟩ := hacts
    exact written hm hc' rfl fun he => (taken (ha a hmem m hm o hact) he).elim
  | requested hm _ hfree => exact written hm hc' rfl fun he => (taken hfree he).elim
  | dispatched hm hq => exact written hm hc' hq.id (quiet hq)
  | ended hm he => exact written hm hc' he.move.id fun _ => .inr he.state
  | reconnected hm hfree hr => exact written hm hc' hr.move.id fun he => (taken hfree he).elim
  | connected _ _ _ _ hi =>
    rcases (mem_insert hi).mp hc' with hold | rfl
    · exact same hold
    · exact absurd hid.symm ((insert_some hi).1 c hc)
  | merged hev => exact evolved hev hc' (fun _ _ h => h.move.id) fun _ _ h => h.stillAsked
  | erased hev => exact evolved hev hc' (fun _ _ h => h.id) fun _ _ h => h.stillAsked
  | rewrapped hm hq => exact written hm hc' hq.id (quiet hq)

/-- a request comes onto a connection when the actor asks for it, and the credential stays -/
def Recorded (actor : VaultActor) (c c' : ManagedConnection) : Prop :=
  c'.id = c.id ∧ (c.revocationRequest = none → c'.revocationRequest ≠ none →
    c'.credentialGeneration = c.credentialGeneration
      ∧ ∃ r, actor = .asks r ∧ AdmitsRevocation r c)

theorem Recorded.of_eq (hid : c'.id = c.id) (h : c'.revocationRequest = c.revocationRequest) :
    Recorded actor c c' :=
  ⟨hid, fun hnone hsome => absurd (h.trans hnone) hsome⟩

theorem VaultStep.recorded (h : VaultStep actor v v') :
    Evolves (Recorded actor) (fun c => c.revocationRequest = none) v.connections
      v'.connections := by
  have refl : ∀ c, Recorded actor c c := fun c => .of_eq rfl rfl
  have quiet : ∀ {c c'}, Quiet c c' → Recorded actor c c' := fun h => .of_eq h.id h.asked.1
  cases h with
  | touched hc => exact hc.mono (fun _ _ => quiet) fun _ hf => hf.elim
  | prepared hc hq => exact evolves_set refl hc hq.id (quiet hq)
  | submitted => exact .refl refl _
  | succeeded _ hc => exact evolves_set refl hc rfl (.of_eq rfl rfl)
  | terminalized hc => exact evolves_set refl hc rfl (.of_eq rfl rfl)
  | requested hc _ _ ha => exact evolves_set refl hc rfl ⟨rfl, fun _ _ => ⟨rfl, ha⟩⟩
  | dispatched hc hq => exact evolves_set refl hc hq.id (quiet hq)
  | ended hc he => exact evolves_set refl hc he.move.id ⟨he.move.id, fun _ h => absurd he.free h⟩
  | reconnected hc _ hr => exact evolves_set refl hc hr.move.id (.of_eq hr.move.id hr.request)
  | connected _ hf _ _ hi => exact evolves_insert refl hi hf
  | merged hc => exact hc.mono (fun _ _ h => .of_eq h.move.id h.request) fun _ hf => hf.elim
  | erased hc => exact hc.mono (fun _ _ => quiet) fun _ hf => hf.elim
  | rewrapped hc hq => exact evolves_set refl hc hq.id (quiet hq)

theorem OutOfUse.step (hv : OutOfUse id g v) (h : VaultStep actor v v') (ha : ActsFree actor v) :
    OutOfUse id g v' := by
  obtain ⟨c, hc, hid, hle, hout⟩ := hv
  obtain ⟨c', hc', hm⟩ := h.connections.forward c hc
  have hgrow := hm.credentialGeneration
  refine ⟨c', hc', hm.id.trans hid, Int.le_trans hle hgrow, fun hg hactive => ?_⟩
  have hsame : c'.credentialGeneration = c.credentialGeneration := by omega
  obtain ⟨hwas, _⟩ := hm.lasting hsame hactive
  have hasked := hout (by omega) hwas
  rcases h.asked ha hc hasked hc' hm.id with hr | hn
  · exact hr.asked
  · exact absurd hactive hn

theorem OutOfUse.not_free (hv : OutOfUse id g v) (hc : c ∈ v.connections) (hid : c.id = id)
    (hactive : c.state = .active) (hfree : c.revocationRequest = none) :
    g < c.credentialGeneration := by
  obtain ⟨m, hm, hmid, hle, hout⟩ := hv
  have he : m = c := eq_of_key hm hc (hmid.trans hid.symm)
  rw [he] at hle hout
  rcases Int.lt_or_eq_of_le hle with hlt | heq
  · exact hlt
  · exact absurd hfree (hout heq.symm hactive)

theorem OutOfUse.not_submitted (hv : OutOfUse id g v) (h : VaultStep actor v v')
    (ha : ActsFree actor v) {o'} (ho : o ∈ v.operations)
    (hoid : o.connectionId = id) (hg : o.expectedCredentialGeneration ≤ g)
    (hprepared : o.state = .prepared) (ho' : o' ∈ v'.operations) (hid : o'.id = o.id) :
    o'.state ≠ .submitted := by
  intro hs
  obtain ⟨a, hmem, c, hc, hactive, hren, hact⟩ := h.submission ho hprepared ho' hid hs
  have hlt := hv.not_free hc (hren.connectionId.symm.trans hoid) hactive (ha a hmem c hc o hact)
  rw [← hren.credentialGeneration] at hlt
  omega

end

/-! ### and not sent -/

/-- what the worker sends next without asking the store again -/
def Task.armed : Task → Option Generation
  | renewing w =>
    if w.renewal.operationState = .prepared then none else some w.renewal.generation
  | dispatching w _ => some w.renewal.generation
  | _ => none

/-- a revocation that would be recorded is asked for -/
def Asks (d : Deployment) (m : DeploymentMove) (c : ManagedConnection) : Prop :=
  match d.actor m with
  | .asks r => AdmitsRevocation r c
  | _ => False

instance (d m c) : Decidable (Asks d m c) := by
  unfold Asks
  split <;> infer_instance

theorem Asks.tasks {m} (h : Asks d m c) : ∀ t ∈ (d.step m).tasks, t ∈ d.tasks := by
  have hc := d.step_cases m
  generalize d.step m = d' at hc
  generalize d.sent m = l at hc
  cases hc with
  | idle hsub => exact fun t ht => hsub.subset ht
  | entered r =>
    cases r with
    | call => exact fun t ht => (List.mem_append.mp ht).resolve_right fun h => nomatch h
    | _ => cases h
  | advanced n i t hn =>
    unfold Asks at h
    rw [d.actor_advance hn] at h
    cases t <;> cases h

/-- where a revocation is asked for, nobody is about to send the credential of that connection -/
def NoneArmed (d : Deployment) (m : DeploymentMove) : Prop :=
  ∀ c ∈ d.store.managedConnections.rows, Asks d m c →
    ∀ t ∈ d.tasks, t.armed ≠ some (c.projectId, c.id, c.credentialGeneration)
  deriving Decidable

/-- the credential is out of use, and nobody is about to send it -/
structure Shelved (key : Generation) (d : Deployment) : Prop where
  outOfUse : OutOfUse key.2.1 key.2.2 d.store.vault
  unarmed : ∀ t ∈ d.tasks, t.armed ≠ some key

theorem Request.Started.unarmed {r key} (h : r.Started d.store db' t)
    (hr : NoTakeOver d (.enter r)) (hkey : OutOfUse key.2.1 key.2.2 d.store.vault) :
    t.armed ≠ some key := by
  cases h with
  | renewing _ hp =>
    obtain ⟨_, hm, hg, hactive, hfree⟩ := prepareNextRenewal_unasked hp rfl
      (fun operationId hpick => by cases hpick; exact hr)
    intro harmed
    unfold Task.armed at harmed
    dsimp only at harmed
    split at harmed
    · cases harmed
    · have he := Option.some.inj harmed
      rw [PreparedRenewal.generation, hg.projectId, hg.connectionId, hg.credentialGeneration] at he
      rw [← he] at hkey
      have hlt := hkey.not_free hm rfl hactive hfree
      exact Int.lt_irrefl _ hlt
  | revoking | rewrapping | exchanging => exact fun h => nomatch h

theorem Task.advance_unarmed {i key} (ht : t.Right db) (hu : t.Unasked db)
    (hkey : OutOfUse key.2.1 key.2.2 db.vault) (ha : t.armed ≠ some key) :
    ∀ u ∈ (t.advance i db).next, u.armed ≠ some key := by
  intro u hmem
  cases t.advance_follows i db u hmem with
  | dispatching w credential =>
    rcases submitRenewal_cases i w db with hn | ⟨_, _, _, hsub, _⟩ | ⟨hn, _⟩
    · change _ ∈ (submitRenewal i w db).next at hmem
      rw [hn] at hmem
      cases hmem
    · intro harmed
      have hgen : w.renewal.generation = key := Option.some.inj harmed
      obtain ⟨o, ho, hid, hprepared, rfl⟩ := markRenewalSubmitted_true hsub
      obtain ⟨p, hp, hpid, hpgen⟩ := ht.1.generation
      have he : p = o := eq_of_key hp ho (hpid.trans hid.symm)
      rw [he] at hpgen
      have hok : o.generation = key := hpgen.trans hgen
      exact hkey.not_submitted (markRenewalSubmitted_call hsub).step (hu.actsFree i) ho
        (congrArg (fun g => g.2.1) hok) (Int.le_of_eq (congrArg (fun g => g.2.2) hok)) hprepared
        (mem_set_self _ ho rfl) rfl rfl
    · intro harmed
      refine ha ?_
      unfold Task.armed
      dsimp only
      rw [if_neg hn]
      exact harmed
  | _ => exact fun h => nomatch h

theorem Shelved.step {key} (h : Shelved key d) (hd : d.Asked) (m : DeploymentMove)
    (hm : NoTakeOver d m) : Shelved key (d.step m) := by
  have hc := d.step_cases m
  generalize d.step m = d' at hc
  generalize d.sent m = l at hc
  cases hc with
  | idle hsub => exact ⟨h.outOfUse, fun t ht => h.unarmed t (hsub.subset ht)⟩
  | entered r =>
    refine ⟨h.outOfUse.step (r.enter_vault d.store) fun a ha => absurd ha (r.not_mem_actor a),
      fun t ht => ?_⟩
    rcases List.mem_append.mp ht with ht | ht
    · exact h.unarmed t ht
    · exact (r.enter_started d.store t ht).unarmed hm h.outOfUse
  | advanced n i t hn =>
    have hmem := List.mem_of_getElem? hn
    obtain ⟨hright, hun⟩ := hd.tasks t hmem
    refine ⟨h.outOfUse.step (t.advance_stepped i d.store hright).vault (hun.actsFree i),
      fun u hu => ?_⟩
    rcases List.mem_append.mp hu with hu | hu
    · exact h.unarmed u (List.mem_of_mem_eraseIdx hu)
    · exact Task.advance_unarmed hright hun h.outOfUse (h.unarmed t hmem) u hu

theorem Deployment.Asked.actsFree (hd : d.Asked) (m : DeploymentMove) :
    ActsFree (d.actor m) d.store.vault := by
  intro a ha
  cases m with
  | enter r => exact absurd ha (r.not_mem_actor a)
  | crash => cases ha
  | advance n i =>
    cases hn : d.tasks[n]? with
    | none =>
      rw [Deployment.actor, hn] at ha
      cases ha
    | some t =>
      rw [d.actor_advance hn] at ha
      exact (hd.tasks t (List.mem_of_getElem? hn)).2.actsFree i a ha

/-- the credentials of all connections with a request are shelved -/
structure AskedShelved (d : Deployment) : Prop where
  asked : d.Asked
  shelved : ∀ c ∈ d.store.managedConnections, c.revocationRequest ≠ none →
    Shelved (c.projectId, c.id, c.credentialGeneration) d

/-- a renewal is not taken over where a revocation was asked for, and one is asked for only where
nobody is about to send -/
def Undisturbed (d : Deployment) (m : DeploymentMove) : Prop := NoTakeOver d m ∧ NoneArmed d m
  deriving Decidable

theorem AskedShelved.step (h : AskedShelved d) (m : DeploymentMove) (hm : Undisturbed d m) :
    AskedShelved (d.step m) := by
  have hnext := h.asked.step m hm.1
  have hv := h.asked.sound.step_vault m
  have hfree := h.asked.actsFree m
  refine ⟨hnext, fun c' hc' hasked' => ?_⟩
  have hactive' : c'.state = .active := hnext.store.2 c' hc' hasked'
  rcases hv.connections.backward c' hc' with ⟨c, hc, hmove⟩ | hnew
  · by_cases hasked : c.revocationRequest = none
    · obtain ⟨m', hm', hid, hrecorded⟩ := (hv.recorded.backward c' hc').resolve_right hasked'
      rw [eq_of_key hm' hc (hid.symm.trans hmove.id)] at hrecorded
      obtain ⟨hgeneration, r, hactor, hadmits⟩ := hrecorded hasked hasked'
      have hasks : Asks d m c := by
        unfold Asks
        rw [hactor]
        exact hadmits
      refine ⟨⟨c', hc', rfl, Int.le_refl _, fun _ _ => hasked'⟩, fun t ht => ?_⟩
      rw [hmove.projectId, hmove.id, hgeneration]
      exact hm.2 c hc hasks t (hasks.tasks t ht)
    · have hstill := (hv.asked hfree hc hasked hc' hmove.id).resolve_right fun hn => hn hactive'
      have hs := (h.shelved c hc hasked).step h.asked m hm.1
      rw [hmove.projectId, hmove.id, hstill.credentialGeneration]
      exact hs
  · exact absurd hnew.2 hasked'

theorem Deployment.Fresh.askedShelved (hd : d.Fresh) : AskedShelved d := by
  refine ⟨hd.asked, fun c hc => ?_⟩
  have hc' : c ∈ d.store.managedConnections.rows := hc
  rw [hd.connections] at hc'
  cases hc'

theorem Vault.Sound.renewal_le (hv : v.Sound) (hc : c ∈ v.connections) (ho : o ∈ v.operations)
    (hid : o.connectionId = c.id) : o.expectedCredentialGeneration ≤ c.credentialGeneration := by
  obtain ⟨k, hk, hn⟩ := hv.renewed o ho
  obtain ⟨m, hm, hkn⟩ := hv.known k hk
  have hki : k.connectionId = o.connectionId := congrArg CredentialName.connectionId hn
  have he : m = c := eq_of_key hm hc (hkn.connectionId.symm.trans (hki.trans hid))
  rw [he] at hkn
  exact Int.le_trans (Int.le_of_eq (congrArg CredentialName.credentialGeneration hn).symm)
    hkn.credentialGeneration

/-- **If no renewal is taken over where a revocation was asked for, and one is asked for only where
nobody is about to send**, then from the moment a revocation or disconnection of a connection is on
record the renewals the connection has, and every later one of the same credential, are never
submitted any more, and the credential is never sent to the provider again. -/
theorem requested_not_renewed (d : Deployment) (hd : d.Fresh) (pre mid : List DeploymentMove)
    (hm : Along Deployment.step Undisturbed d (pre ++ mid)) (c : ManagedConnection)
    (hc : c ∈ (d.run pre).store.managedConnections) (hasked : c.revocationRequest ≠ none) :
    (∀ o ∈ (d.run pre).store.renewalOperations, o.connectionId = c.id →
        o.expectedCredentialGeneration ≤ c.credentialGeneration)
      ∧ ∀ m, (∀ o ∈ (d.run (pre ++ mid)).store.renewalOperations, o.connectionId = c.id →
          o.expectedCredentialGeneration ≤ c.credentialGeneration → o.state = .prepared →
          ∀ o' ∈ ((d.run (pre ++ mid)).step m).store.renewalOperations, o'.id = o.id →
            o'.state ≠ .submitted)
        ∧ ∀ s ∈ (d.run (pre ++ mid)).sent m,
          s.generation ≠ (c.projectId, c.id, c.credentialGeneration) := by
  obtain ⟨hpre, hmid⟩ := (along_append Deployment.step Undisturbed d pre mid).mp hm
  have hstart : AskedShelved (d.run pre) :=
    run_inv_along Deployment.step (fun _ m hs hP => hs.step m hP) pre hd.askedShelved hpre
  have hend : (d.run (pre ++ mid)).Asked
      ∧ Shelved (c.projectId, c.id, c.credentialGeneration) (d.run (pre ++ mid)) := by
    unfold Deployment.run
    rw [Machine.run_append]
    exact run_inv_along (I := fun d => d.Asked
        ∧ Shelved (c.projectId, c.id, c.credentialGeneration) d) Deployment.step
      (fun _ m hs hP => ⟨hs.1.step m hP.1, hs.2.step hs.1 m hP.1⟩) mid
      ⟨hstart.asked, hstart.shelved c hc hasked⟩ hmid
  obtain ⟨hasked', hshelved⟩ := hend
  refine ⟨fun o ho hid => hstart.asked.store.1.renewal_le hc ho hid, fun m => ⟨?_, ?_⟩⟩
  · intro o ho hid hg hprepared o' ho' hid'
    exact hshelved.outOfUse.not_submitted (hasked'.sound.step_vault m) (hasked'.actsFree m) ho hid
      hg hprepared ho' hid'
  · intro s hs he
    obtain ⟨w, ht, hw⟩ := Deployment.mem_sent hs
    refine hshelved.unarmed _ ht ?_
    show some w.renewal.generation = some (c.projectId, c.id, c.credentialGeneration)
    rw [← hw]
    exact congrArg some he

namespace Demo

/-- the states of the renewals, and the generations that were sent -/
def renewalsAfter (moves : List DeploymentMove) : List RenewalOperationState × List Generation :=
  ((nest.run moves).store.renewalOperations.rows.map RenewalOperation.state,
    (trace Deployment.step Deployment.sent nest moves).map Sent.generation)

/-- a second worker takes the abandoned renewal over and sends it -/
def sentLate : List DeploymentMove :=
  askedLate ++ [takeOver 62 (minutes 21), .advance 0 (meets (minutes 22)),
    .advance 0 (meets (minutes 22))]

/-- a worker submits a renewal and stalls; its lease runs out, a revocation is asked for, and then
the worker sends -/
def stalled : List DeploymentMove :=
  connecting ++ [renewFrom 61 (minutes 3), .advance 0 (meets (minutes 4)), requestAt (minutes 20)]

end Demo

/-- A revocation was asked for while a prepared renewal lay abandoned.  A worker takes the renewal
over, submits it and sends the credential.  A worker that stalled between the two also sends after
the request. -/
theorem requested_connection_renewed :
    connectionsAfter askedLate = [(.active, true)]
      ∧ renewalsAfter askedLate = ([.prepared], [])
      ∧ renewalsAfter sentLate = ([.submitted], [(1, 500, 1)])
      ∧ connectionsAfter sentLate = [(.active, true)]
      ∧ ¬ Along Deployment.step Undisturbed nest sentLate
      ∧ connectionsAfter stalled = [(.active, true)]
      ∧ (renewalsAfter stalled).2 = []
      ∧ (renewalsAfter (stalled ++ [.advance 0 (meets (minutes 21))])).2 = [(1, 500, 1)] := by
  decide +kernel

theorem requested_not_renewed_revoking :
    ∃ c ∈ (Demo.nest.run Demo.askedLate).store.managedConnections.rows, c.revocationRequest ≠ none
      ∧ ∀ m, ∀ s ∈ (Demo.nest.run (Demo.askedLate
          ++ [.enter (.revoke adapter ⟨500, 63, minutes 21, minutes 31⟩)])).sent m,
        s.generation ≠ (c.projectId, c.id, c.credentialGeneration) := by
  have hex : ∃ c ∈ (Demo.nest.run Demo.askedLate).store.managedConnections.rows,
      c.revocationRequest ≠ none := by decide +kernel
  obtain ⟨c, hc, hasked⟩ := hex
  exact ⟨c, hc, hasked, fun m => ((requested_not_renewed Demo.nest nest_fresh Demo.askedLate _
    (by decide +kernel) c hc hasked).2 m).2⟩

end OwlAuth
