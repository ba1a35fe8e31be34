import OwlAuth.Managed.Transactions

/-!
# Managed connections and their credentials belong together

What every step does to one of the three tables is read off `VaultStep` once:

* `VaultStep.connections`  connections move along `ConnectionMove`; a new one is active;
* `VaultStep.credentials`  credentials keep their name; a new one is the current one of its
    connection;
* `VaultStep.operations`  renewals move along `OperationMove`, or one is prepared for a connection
    whose generation had none.

From these, `Vault.Sound` is kept by every step: what can still be read is the current credential of
an active connection and sealed for it (`current`), a credential and a renewal have their
connection, and a generation is renewed once (`once`).
-/

namespace OwlAuth

open Table

/-! ## what a step does to each table -/

variable {c c' : ManagedConnection} {actor : VaultActor} {v v' : Vault}
  {k k' : ManagedCredential} {value : ProtectedCredential} {t t' : Table ManagedCredential}
  {cs : Table ManagedConnection} {o' o : RenewalOperation}

def FreshConnection (c : ManagedConnection) : Prop :=
  c.state = .active ∧ c.revocationRequest = none

theorem VaultStep.connections (h : VaultStep actor v v') :
    Evolves ConnectionMove FreshConnection v.connections v'.connections := by
  cases h with
  | touched hc _ => exact hc.mono (fun _ _ => Quiet.move) fun _ hf => hf.elim
  | prepared hc hq => exact evolves_set .refl hc hq.id hq.move
  | submitted => exact .refl .refl _
  | succeeded _ hc => exact evolves_set .refl hc rfl (.of_credential rfl rfl rfl rfl rfl rfl)
  | terminalized hc =>
    refine evolves_set .refl hc rfl (.of_end rfl rfl rfl rfl rfl rfl ?_)
    show terminatedState .reauthRequired _ ≠ .active
    unfold terminatedState
    split <;> exact fun h => nomatch h
  | requested hc =>
    exact evolves_set .refl hc rfl
      (.of_next rfl rfl rfl rfl (Int.le_refl _) (Int.le_refl _) fun _ hs => ⟨hs, rfl⟩)
  | dispatched hc hq => exact evolves_set .refl hc hq.id hq.move
  | ended hc he => exact evolves_set .refl hc he.move.id he.move
  | reconnected hc _ hr => exact evolves_set .refl hc hr.move.id hr.move
  | connected ha hf _ _ hi => exact evolves_insert .refl hi ⟨ha, hf⟩
  | merged hc => exact hc.mono (fun _ _ => OwnerMoved.move) fun _ hf => hf.elim
  | erased hc => exact hc.mono (fun _ _ => Quiet.move) fun _ hf => hf.elim
  | rewrapped hc hq => exact evolves_set .refl hc hq.id hq.move

structure CredentialName where
  (projectId connectionId : Uuid)
  (connectionGeneration credentialGeneration : Int)

def ManagedCredential.name (k : ManagedCredential) : CredentialName :=
  ⟨k.projectId, k.connectionId, k.connectionGeneration, k.credentialGeneration⟩

def ManagedConnection.credentialName (c : ManagedConnection) : CredentialName :=
  ⟨c.projectId, c.id, c.generation, c.credentialGeneration⟩

def RenewalOperation.credentialName (o : RenewalOperation) : CredentialName :=
  ⟨o.projectId, o.connectionId, o.expectedConnectionGeneration, o.expectedCredentialGeneration⟩

/-- the name of the credential that replaces the one the operation renews -/
def RenewalOperation.successorName (o : RenewalOperation) : CredentialName :=
  ⟨o.projectId, o.connectionId, o.expectedConnectionGeneration + 1,
    o.expectedCredentialGeneration + 1⟩

theorem CredentialMove.name (h : CredentialMove k k') : k'.name = k.name := by
  unfold ManagedCredential.name
  rw [h.projectId, h.connectionId, h.connectionGeneration, h.credentialGeneration]

theorem CredentialFor.name (h : CredentialFor c value k) : k.name = c.credentialName := by
  unfold ManagedCredential.name ManagedConnection.credentialName
  rw [h.projectId, h.connectionId, h.connectionGeneration, h.credentialGeneration]

def SameName (k k' : ManagedCredential) : Prop := k'.name = k.name

theorem SameName.refl (k : ManagedCredential) : SameName k k := rfl

theorem Spent.names (h : Spent c t t') {N} : Evolves SameName N t t' :=
  h.moved.mono (fun _ _ => CredentialMove.name) fun _ hf => hf.elim

theorem Stored.names (h : Stored c c' value t t') (hc : c' ∈ cs) :
    Evolves SameName (fun k => ∃ c ∈ cs, k.name = c.credentialName) t t' := by
  constructor
  · intro k hk
    obtain ⟨k', hk', hm⟩ := h.forward k hk
    exact ⟨k', hk', hm.name⟩
  · intro k' hk'
    rcases h.backward k' hk' with ⟨k, hk, hm, _⟩ | hn
    · exact .inl ⟨k, hk, hm.name⟩
    · exact .inr ⟨c', hc, hn.name⟩

theorem VaultStep.credentials (h : VaultStep actor v v') :
    Evolves SameName (fun k => ∃ c ∈ v'.connections, k.name = c.credentialName)
      v.credentials v'.credentials := by
  cases h with
  | touched | prepared | submitted | requested | merged => exact .refl SameName.refl _
  | succeeded _ hc _ _ _ _ _ hs =>
    exact hs.names (mem_set_self _ hc rfl)
  | terminalized _ _ _ _ hs => exact hs.names
  | dispatched _ _ hs => exact hs.names
  | ended _ _ hs => exact hs.names
  | reconnected hc _ hr _ hs => exact hs.names (mem_set_self _ hc hr.move.id)
  | connected _ _ hk _ hi hs =>
    exact evolves_insert SameName.refl hs ⟨_, (mem_insert hi).mpr (.inr rfl), hk.name⟩
  | erased _ hk => exact hk.mono (fun _ _ => CredentialMove.name) fun _ hf => hf.elim
  | rewrapped _ _ hk => exact evolves_set SameName.refl hk rfl rfl

/-- a renewal that may be prepared: of the current credential of an active connection no revocation
was asked for, and the first one of its generation -/
structure FreshRenewal (v : Vault) (o : RenewalOperation) : Prop where
  connection : ∃ c ∈ v.connections, c.state = .active ∧ c.revocationRequest = none ∧ RenewsNow c o
    ∧ ∃ k ∈ v.credentials, CurrentCredential c k
  state : o.state = .prepared
  first : ∀ o' ∈ v.operations, ¬ (o'.projectId = o.projectId ∧ o'.connectionId = o.connectionId
    ∧ o'.expectedConnectionGeneration = o.expectedConnectionGeneration)

theorem VaultStep.operations (h : VaultStep actor v v') :
    Evolves OperationMove (fun _ => False) v.operations v'.operations
      ∨ ∃ o, FreshRenewal v o ∧ v.operations.insert o = some v'.operations := by
  cases h with
  | touched _ ho => exact .inl (ho.mono (fun _ _ => OperationKept.move) fun _ hf => hf)
  | prepared hc _ ha hf hk hcur hr hs hfirst hi =>
    refine .inr ⟨_, ⟨⟨_, hc, ha, hf, hr, _, hk, hcur⟩, hs, fun o' ho' => ?_⟩, hi⟩
    rw [hr.projectId, hr.connectionId, hr.connectionGeneration]
    exact hfirst o' ho'
  | submitted _ _ _ _ ho hs =>
    exact .inl (evolves_set .refl ho rfl ⟨rfl, .inr (.inl hs), fun _ => rfl, fun _ => .inr rfl⟩)
  | succeeded _ _ _ ho hs =>
    exact .inl (evolves_set .refl ho rfl
      (.of_open (.inr hs) rfl rfl fun h => h.elim (fun h => nomatch h) fun h => nomatch h))
  | terminalized _ ho hopen =>
    exact .inl (evolves_set .refl ho rfl
      (.of_open hopen rfl rfl fun h => h.elim (fun h => nomatch h) fun h => nomatch h))
  | requested | dispatched | ended | connected | merged | rewrapped => exact .inl (.refl .refl _)
  | reconnected _ _ _ _ _ ho =>
    exact .inl (ho.mono (fun _ _ => OperationDropped.move) fun _ hf => hf)
  | erased _ _ ho => exact .inl (ho.mono (fun _ _ => OperationDropped.move) fun _ hf => hf)

/-- where a renewal after a step comes from: it was left or dropped, is new, or the actor moved it on
from the connection as it knows it -/
inductive OperationChange (actor : VaultActor) (v : Vault) (o' : RenewalOperation) : Prop
  | dropped (o : RenewalOperation) (mem : o ∈ v.operations) (dropped : OperationDropped o o')
  | prepared (state : o'.state = .prepared) (new : ∀ o ∈ v.operations, o.id ≠ o'.id)
  | moved (o : RenewalOperation) (c : ManagedConnection) (mem : o ∈ v.operations) (id : o'.id = o.id)
      (connection : c ∈ v.connections) (active : c.state = .active) (renews : RenewsNow c o)
      (acts : ∃ a ∈ actor, a.ActsOn c o)
      (state : (o.state = .prepared ∧ o'.state = .submitted)
        ∨ (o.state = .submitted ∧ o'.state = .successorCommitted))

theorem VaultStep.operation_change (h : VaultStep actor v v') (ho' : o' ∈ v'.operations) :
    OperationChange actor v o' := by
  have same : o' ∈ v.operations → OperationChange actor v o' :=
    fun hmem => .dropped o' hmem (.refl o')
  have evolved : ∀ {os : Table RenewalOperation},
      Evolves OperationDropped (fun _ => False) v.operations os → o' ∈ os →
      OperationChange actor v o' := by
    intro os hev hmem
    obtain ⟨o, ho, hd⟩ := hev.source hmem
    exact .dropped o ho hd
  cases h with
  | touched _ ho =>
    exact evolved (ho.mono (fun _ _ hk => ⟨hk.move, .inl hk.state⟩) fun _ hf => hf) ho'
  | prepared _ _ _ _ _ _ _ hprepared _ hi =>
    rcases (mem_insert hi).mp ho' with hold | rfl
    · exact same hold
    · exact .prepared hprepared (insert_some hi).1
  | @submitted c _ o now hc hactive _ _ ho hprepared hren hacts =>
    have hkey : Keyed.key (submittedRenewal now o) = Keyed.key o := rfl
    rcases (mem_set_of ho hkey).mp ho' with ⟨hold, _⟩ | rfl
    · exact same hold
    · exact .moved o c ho rfl hc hactive hren hacts (.inl ⟨hprepared, rfl⟩)
  | @succeeded c o _ now _ hacts hc hactive ho hsub hren =>
    have hkey : Keyed.key (committedRenewal now o) = Keyed.key o := rfl
    rcases (mem_set_of ho hkey).mp ho' with ⟨hold, _⟩ | rfl
    · exact same hold
    · exact .moved o c ho rfl hc hactive hren hacts (.inr ⟨hsub, rfl⟩)
  | @terminalized c o outcome now _ hc ho hopen =>
    have hkey : Keyed.key (terminatedRenewal .reauthRequired outcome now o) = Keyed.key o := rfl
    rcases (mem_set_of ho hkey).mp ho' with ⟨hold, _⟩ | rfl
    · exact same hold
    · exact .dropped o ho (.of_open hopen rfl rfl
        (fun h => h.elim (fun h => nomatch h) fun h => nomatch h) fun h => nomatch h)
  | requested | dispatched | ended | connected | merged | rewrapped => exact same ho'
  | reconnected _ _ _ _ _ ho => exact evolved ho ho'
  | erased _ _ ho => exact evolved ho ho'

theorem VaultStep.successor (h : VaultStep actor v v') (ho' : o' ∈ v'.operations)
    (hs : o'.state = .successorCommitted) :
    (∃ o ∈ v.operations, o.id = o'.id ∧ o.state = .successorCommitted)
      ∨ ∃ a ∈ actor, ∃ c, ∃ o ∈ v.operations, o.id = o'.id ∧ o.state = .submitted
        ∧ a.ActsOn c o := by
  cases h.operation_change ho' with
  | dropped o ho hd =>
    rcases hd.state with he | ⟨_, hn⟩
    · exact .inl ⟨o, ho, (congrArg RenewalIdentity.id hd.move.identity).symm, he.symm.trans hs⟩
    · exact absurd hs hn
  | prepared hp => rw [hp] at hs; cases hs
  | moved o c ho hid _ _ _ hacts hst =>
    rcases hst with ⟨_, hn⟩ | ⟨hsub, _⟩
    · rw [hn] at hs; cases hs
    · obtain ⟨a, ha, hact⟩ := hacts
      exact .inr ⟨a, ha, c, o, ho, hid.symm, hsub, hact⟩

/-- where a credential row after a step comes from: it was there, a login or a reauthorization brought
it, or it replaces the one that the actor's operation renews -/
theorem VaultStep.stored (h : VaultStep actor v v') (hk' : k' ∈ v'.credentials) :
    (∃ k ∈ v.credentials, k.name = k'.name) ∨ actor = .consent
      ∨ ∃ a ∈ actor, ∃ c, ∃ o ∈ v.operations, o.state = .submitted ∧ k'.name = o.successorName
        ∧ a.ActsOn c o ∧ ∃ o' ∈ v'.operations, o'.id = o.id ∧ o'.state = .successorCommitted := by
  have kept : ∀ {ks}, Evolves SameName (fun _ => False) v.credentials ks → k' ∈ ks →
      ∃ k ∈ v.credentials, k.name = k'.name := by
    intro ks hev hmem
    obtain ⟨k, hk, hn⟩ := hev.source hmem
    exact ⟨k, hk, hn.symm⟩
  cases h with
  | touched | prepared | submitted | requested | merged => exact .inl ⟨k', hk', rfl⟩
  | @succeeded c o _ now _ hacts _ _ ho hsub hren _ hs =>
    obtain ⟨a, ha, hact⟩ := hacts
    rcases hs.backward k' hk' with ⟨k, hk, hm, _⟩ | hnew
    · exact .inl ⟨k, hk, hm.name.symm⟩
    · have hname : k'.name = o.successorName := by
        rw [hnew.name, RenewalOperation.successorName, hren.projectId, hren.connectionId,
          hren.connectionGeneration, hren.credentialGeneration]
        rfl
      exact .inr (.inr ⟨a, ha, c, o, ho, hsub, hname, hact, committedRenewal now o,
        mem_set_self _ ho rfl, rfl, rfl⟩)
  | terminalized _ _ _ _ hs => exact .inl (kept hs.names hk')
  | dispatched _ _ hs => exact .inl (kept hs.names hk')
  | ended _ _ hs => exact .inl (kept hs.names hk')
  | reconnected _ _ _ _ _ _ hconsent => exact .inr (.inl hconsent)
  | connected _ _ _ _ _ _ hconsent => exact .inr (.inl hconsent)
  | erased _ hk =>
    exact .inl (kept (hk.mono (fun _ _ => CredentialMove.name) fun _ hf => hf) hk')
  | @rewrapped _ _ k value _ _ hk =>
    have hev := evolves_set (N := fun _ => False) SameName.refl hk
      (show Keyed.key (rewrappedCredential value k) = Keyed.key k from rfl) rfl
    exact .inl (kept hev hk')

theorem VaultStep.submission (h : VaultStep actor v v') (ho : o ∈ v.operations)
    (hprepared : o.state = .prepared) (ho' : o' ∈ v'.operations) (hid : o'.id = o.id)
    (hs : o'.state = .submitted) :
    ∃ a ∈ actor, ∃ c ∈ v.connections, c.state = .active ∧ RenewsNow c o ∧ a.ActsOn c o := by
  cases h.operation_change ho' with
  | dropped p hp hd =>
    have hpid : o'.id = p.id := congrArg RenewalIdentity.id hd.move.identity
    have he : p = o := eq_of_key hp ho (hpid.symm.trans hid)
    rcases hd.state with hst | ⟨hn, _⟩
    · rw [he, hprepared, hs] at hst; cases hst
    · exact absurd (.inr hs) hn
  | prepared hp => rw [hp] at hs; cases hs
  | moved p c hp hpid hc hactive hren hacts _ =>
    have he : p = o := eq_of_key hp ho (hpid.symm.trans hid)
    rw [he] at hren hacts
    obtain ⟨a, ha, hact⟩ := hacts
    exact ⟨a, ha, c, hc, hactive, hren, hact⟩

/-! ## what holds between the tables -/

/-- the credential is the readable one of the connection -/
structure Keeps (c : ManagedConnection) (k : ManagedCredential) : Prop where
  name : k.name = c.credentialName
  active : c.state = .active
  sealed : ∃ s, k.ciphertext = some s ∧ s.context = c.context ∧ s.sealedUnder = k.keyVersion

/-- the connection of a credential has that credential, or a later one -/
structure Knows (c : ManagedConnection) (k : ManagedCredential) : Prop where
  projectId : k.projectId = c.projectId
  connectionId : k.connectionId = c.id
  credentialGeneration : k.credentialGeneration ≤ c.credentialGeneration
  connectionGeneration : k.credentialGeneration = c.credentialGeneration → c.state = .active →
    k.connectionGeneration = c.generation

structure Vault.Sound (v : Vault) : Prop where
  current : ∀ k ∈ v.credentials, k.ciphertext.isSome = true → ∃ c ∈ v.connections, Keeps c k
  known : ∀ k ∈ v.credentials, ∃ c ∈ v.connections, Knows c k
  renewed : ∀ o ∈ v.operations, ∃ k ∈ v.credentials, k.name = o.credentialName
  reached : ∀ o ∈ v.operations, ∃ c ∈ v.connections, o.projectId = c.projectId
    ∧ o.connectionId = c.id ∧ o.expectedConnectionGeneration ≤ c.generation
  once : ∀ o₁ ∈ v.operations, ∀ o₂ ∈ v.operations, o₁.projectId = o₂.projectId →
    o₁.connectionId = o₂.connectionId →
    o₁.expectedConnectionGeneration = o₂.expectedConnectionGeneration → o₁ = o₂
  stamped : ∀ o ∈ v.operations, o.state = .submitted → o.submittedAt.isSome = true

section
variable {actor : VaultActor} {v v' : Vault}

theorem Knows.move (h : Knows c k) (hc : ConnectionMove c c') (hk : SameName k k') :
    Knows c' k' := by
  have hp : k'.projectId = k.projectId := congrArg CredentialName.projectId hk
  have hi : k'.connectionId = k.connectionId := congrArg CredentialName.connectionId hk
  have hg : k'.connectionGeneration = k.connectionGeneration :=
    congrArg CredentialName.connectionGeneration hk
  have hn : k'.credentialGeneration = k.credentialGeneration :=
    congrArg CredentialName.credentialGeneration hk
  have h₁ := h.credentialGeneration
  have h₂ := hc.credentialGeneration
  refine ⟨hp.trans (h.projectId.trans hc.projectId.symm),
    hi.trans (h.connectionId.trans hc.id.symm), by omega, fun he ha => ?_⟩
  obtain ⟨hca, hcg⟩ := hc.lasting (by omega) ha
  rw [hg, hcg]
  exact h.connectionGeneration (by omega) hca

theorem Knows.of_name (h : k.name = c.credentialName) : Knows c k :=
  ⟨congrArg CredentialName.projectId h, congrArg CredentialName.connectionId h,
    Int.le_of_eq (congrArg CredentialName.credentialGeneration h),
    fun _ _ => congrArg CredentialName.connectionGeneration h⟩

theorem OperationMove.credentialName (h : OperationMove o o') :
    o'.credentialName = o.credentialName := by
  have hi := h.identity
  unfold RenewalOperation.credentialName
  rw [show o'.projectId = o.projectId from congrArg RenewalIdentity.projectId hi,
    show o'.connectionId = o.connectionId from congrArg RenewalIdentity.connectionId hi,
    show o'.expectedConnectionGeneration = o.expectedConnectionGeneration from
      congrArg RenewalIdentity.expectedConnectionGeneration hi,
    show o'.expectedCredentialGeneration = o.expectedCredentialGeneration from
      congrArg RenewalIdentity.expectedCredentialGeneration hi]

theorem Vault.Sound.name_of_current (hv : v.Sound) (hc : c ∈ v.connections) (ha : c.state = .active)
    (hk : k ∈ v.credentials) (hcur : CurrentCredential c k) : k.name = c.credentialName := by
  obtain ⟨⟨hp, hi, _⟩, hg⟩ := hcur
  obtain ⟨m, hm, hkn⟩ := hv.known k hk
  have he : m = c := eq_of_key hm hc (hkn.connectionId.symm.trans hi)
  rw [he] at hkn
  unfold ManagedCredential.name ManagedConnection.credentialName
  rw [hp, hi, hg, hkn.connectionGeneration hg ha]

theorem Vault.Sound.step_renewed (hv : v.Sound) (h : VaultStep actor v v') :
    ∀ o ∈ v'.operations, ∃ k ∈ v'.credentials, k.name = o.credentialName := by
  intro o' ho'
  have hold : ∃ k ∈ v.credentials, k.name = o'.credentialName := by
    rcases h.operations with hm | ⟨o, hf, hi⟩
    · obtain ⟨o, ho, hoo⟩ := hm.source ho'
      obtain ⟨k, hk, hn⟩ := hv.renewed o ho
      exact ⟨k, hk, hn.trans hoo.credentialName.symm⟩
    · rcases (mem_insert hi).mp ho' with ho | rfl
      · exact hv.renewed o' ho
      · obtain ⟨_, hc, ha, _, hr, k, hk, hcur⟩ := hf.connection
        refine ⟨k, hk, (hv.name_of_current hc ha hk hcur).trans ?_⟩
        unfold ManagedConnection.credentialName RenewalOperation.credentialName
        rw [hr.projectId, hr.connectionId, hr.connectionGeneration, hr.credentialGeneration]
  obtain ⟨k, hk, hn⟩ := hold
  obtain ⟨k', hk', hkk⟩ := h.credentials.forward k hk
  exact ⟨k', hk', hkk.trans hn⟩

theorem Vault.Sound.step_reached (hv : v.Sound) (h : VaultStep actor v v') :
    ∀ o ∈ v'.operations, ∃ c ∈ v'.connections, o.projectId = c.projectId ∧ o.connectionId = c.id
      ∧ o.expectedConnectionGeneration ≤ c.generation := by
  intro o' ho'
  have hold : ∃ c ∈ v.connections, o'.projectId = c.projectId ∧ o'.connectionId = c.id
      ∧ o'.expectedConnectionGeneration ≤ c.generation := by
    rcases h.operations with hm | ⟨o, hf, hi⟩
    · obtain ⟨o, ho, hoo⟩ := hm.source ho'
      obtain ⟨c, hc, hp, hid, hg⟩ := hv.reached o ho
      have hn := hoo.credentialName
      exact ⟨c, hc, (congrArg CredentialName.projectId hn).trans hp,
        (congrArg CredentialName.connectionId hn).trans hid,
        Int.le_trans (Int.le_of_eq (congrArg CredentialName.connectionGeneration hn)) hg⟩
    · rcases (mem_insert hi).mp ho' with ho | rfl
      · exact hv.reached o' ho
      · obtain ⟨c, hc, _, _, hr, _⟩ := hf.connection
        exact ⟨c, hc, hr.projectId, hr.connectionId, Int.le_of_eq hr.connectionGeneration⟩
  obtain ⟨c, hc, hp, hid, hg⟩ := hold
  obtain ⟨c', hc', hm⟩ := h.connections.forward c hc
  exact ⟨c', hc', hp.trans hm.projectId.symm, hid.trans hm.id.symm, Int.le_trans hg hm.generation⟩

theorem Vault.Sound.step_once (hv : v.Sound) (h : VaultStep actor v v') :
    ∀ o₁ ∈ v'.operations, ∀ o₂ ∈ v'.operations, o₁.projectId = o₂.projectId →
      o₁.connectionId = o₂.connectionId →
      o₁.expectedConnectionGeneration = o₂.expectedConnectionGeneration → o₁ = o₂ := by
  intro o₁' ho₁ o₂' ho₂ hp hi hg
  rcases h.operations with hm | ⟨_, hf, hins⟩
  · obtain ⟨o₁, hm₁, h₁⟩ := hm.source ho₁
    obtain ⟨o₂, hm₂, h₂⟩ := hm.source ho₂
    have hn₁ := h₁.identity
    have hn₂ := h₂.identity
    have he : o₁ = o₂ := hv.once o₁ hm₁ o₂ hm₂
      ((congrArg RenewalIdentity.projectId hn₁).symm.trans
        (hp.trans (congrArg RenewalIdentity.projectId hn₂)))
      ((congrArg RenewalIdentity.connectionId hn₁).symm.trans
        (hi.trans (congrArg RenewalIdentity.connectionId hn₂)))
      ((congrArg RenewalIdentity.expectedConnectionGeneration hn₁).symm.trans
        (hg.trans (congrArg RenewalIdentity.expectedConnectionGeneration hn₂)))
    rw [he] at hn₁
    exact eq_of_key ho₁ ho₂ (congrArg RenewalIdentity.id (hn₁.trans hn₂.symm))
  · rcases (mem_insert hins).mp ho₁ with hm₁ | rfl
    · rcases (mem_insert hins).mp ho₂ with hm₂ | rfl
      · exact hv.once o₁' hm₁ o₂' hm₂ hp hi hg
      · exact absurd ⟨hp, hi, hg⟩ (hf.first o₁' hm₁)
    · rcases (mem_insert hins).mp ho₂ with hm₂ | rfl
      · exact absurd ⟨hp.symm, hi.symm, hg.symm⟩ (hf.first o₂' hm₂)
      · rfl

/-! ### what can still be read -/

structure Steady (c c' : ManagedConnection) : Prop where
  context : c'.context = c.context
  state : c'.state = c.state

theorem Quiet.steady (h : Quiet c c') : Steady c c' :=
  ⟨h.context, congrArg ConnectionView.state h.view⟩

theorem Keeps.steady (h : Keeps c k) (hs : Steady c c') : Keeps c' k := by
  obtain ⟨s, hk, hc, hu⟩ := h.sealed
  refine ⟨h.name.trans ?_, hs.state.trans h.active, s, hk, hc.trans hs.context.symm, hu⟩
  unfold ManagedConnection.credentialName
  rw [show c'.projectId = c.projectId from congrArg ManagedCredentialContext.projectId hs.context,
    show c'.id = c.id from congrArg ManagedCredentialContext.connectionId hs.context,
    show c'.generation = c.generation from
      congrArg ManagedCredentialContext.connectionGeneration hs.context,
    show c'.credentialGeneration = c.credentialGeneration from
      congrArg ManagedCredentialContext.credentialGeneration hs.context]

theorem Keeps.of_move (h : Keeps c k) (hm : CredentialMove k k') (hs : k'.ciphertext.isSome = true) :
    Keeps c k' := by
  rcases hm.content with ⟨hc, hv⟩ | hn
  · obtain ⟨s, hk, hctx, hu⟩ := h.sealed
    exact ⟨hm.name.trans h.name, h.active, s, hc.trans hk, hctx, hu.trans hv.symm⟩
  · rw [hn] at hs; cases hs

theorem CredentialMove.readable (hm : CredentialMove k k') (hs : k'.ciphertext.isSome = true) :
    k.ciphertext.isSome = true := by
  rcases hm.content with ⟨hc, _⟩ | hn
  · rw [← hc]; exact hs
  · rw [hn] at hs; cases hs

theorem Keeps.currentCredential (h : Keeps c k) : CurrentCredential c k := by
  obtain ⟨_, hk, _, _⟩ := h.sealed
  exact ⟨⟨congrArg CredentialName.projectId h.name, congrArg CredentialName.connectionId h.name,
    by rw [hk]; rfl⟩, congrArg CredentialName.credentialGeneration h.name⟩

theorem Vault.Sound.keeps_of_other (hv : v.Sound) (hc : c ∈ v.connections) (hi : c'.id = c.id)
    (hk : k ∈ v.credentials) (hm : CredentialMove k k') (hs : k'.ciphertext.isSome = true)
    (hn : ¬ CurrentCredential c k') : ∃ m ∈ v.connections.set c', Keeps m k' := by
  obtain ⟨m, hmem, hkeeps⟩ := hv.current k hk (hm.readable hs)
  have hkeeps' := hkeeps.of_move hm hs
  refine ⟨m, (mem_set_of hc hi).mpr (.inl ⟨hmem, fun he => ?_⟩), hkeeps'⟩
  rw [he] at hkeeps'
  exact hn hkeeps'.currentCredential

theorem Vault.Sound.keeps_of_spent (hv : v.Sound) (hc : c ∈ v.connections) (hi : c'.id = c.id)
    (hs : Spent c v.credentials t) :
    ∀ k ∈ t, k.ciphertext.isSome = true → ∃ m ∈ v.connections.set c', Keeps m k := by
  intro k' hk' hread
  obtain ⟨k, hk, hm⟩ := hs.moved.source hk'
  exact hv.keeps_of_other hc hi hk hm hread (hs.gone k' hk')

theorem Keeps.of_stored (hk : CredentialFor c value k) (hs : SealedFor c value)
    (ha : c.state = .active) : Keeps c k :=
  ⟨hk.name, ha, value.ciphertext, hk.ciphertext, hs.context, hs.sealedUnder.trans hk.keyVersion.symm⟩

theorem Vault.Sound.keeps_of_stored (hv : v.Sound) (hc : c ∈ v.connections) (hi : c'.id = c.id)
    (ha : c'.state = .active) (hsealed : SealedFor c' value)
    (hs : Stored c c' value v.credentials t) :
    ∀ k ∈ t, k.ciphertext.isSome = true → ∃ m ∈ v.connections.set c', Keeps m k := by
  intro k' hk' hread
  rcases hs.backward k' hk' with ⟨k, hk, hm, hn⟩ | hnew
  · exact hv.keeps_of_other hc hi hk hm hread hn
  · exact ⟨c', mem_set_self _ hc hi, .of_stored hnew hsealed ha⟩

theorem Vault.Sound.keeps_of_steady (hv : v.Sound) {N} (hc : Evolves Steady N v.connections cs) :
    ∀ k ∈ v.credentials, k.ciphertext.isSome = true → ∃ m ∈ cs, Keeps m k := by
  intro k hk hread
  obtain ⟨m, hm, hkeeps⟩ := hv.current k hk hread
  obtain ⟨m', hm', hs⟩ := hc.forward m hm
  exact ⟨m', hm', hkeeps.steady hs⟩

theorem Steady.refl (c : ManagedConnection) : Steady c c := ⟨rfl, rfl⟩

theorem evolves_steady_set {t} (hc : c ∈ t) (hq : Quiet c c') :
    Evolves Steady (fun _ => False) t (t.set c') :=
  evolves_set .refl hc hq.id hq.steady

theorem Vault.Sound.step_current (hv : v.Sound) (h : VaultStep actor v v') :
    ∀ k ∈ v'.credentials, k.ciphertext.isSome = true → ∃ c ∈ v'.connections, Keeps c k := by
  cases h with
  | touched hc => exact hv.keeps_of_steady (hc.mono (fun _ _ => Quiet.steady) fun _ hf => hf)
  | prepared hc hq => exact hv.keeps_of_steady (evolves_steady_set hc hq)
  | submitted => exact hv.current
  | succeeded _ hc _ _ _ _ hsealed hs => exact hv.keeps_of_stored hc rfl rfl hsealed hs
  | terminalized hc _ _ _ hs => exact hv.keeps_of_spent hc rfl hs
  | requested hc =>
    exact hv.keeps_of_steady (N := fun _ => False) (evolves_set .refl hc rfl ⟨rfl, rfl⟩)
  | dispatched hc hq hs => exact hv.keeps_of_spent hc hq.id hs
  | ended hc he hs => exact hv.keeps_of_spent hc he.move.id hs
  | reconnected hc _ hr hsealed hs =>
    exact hv.keeps_of_stored hc hr.move.id hr.state hsealed hs
  | connected ha _ hk hsealed hi hs =>
    intro k' hk' hread
    rcases (mem_insert hs).mp hk' with hold | rfl
    · obtain ⟨m, hm, hkeeps⟩ := hv.current k' hold hread
      exact ⟨m, (mem_insert hi).mpr (.inl hm), hkeeps⟩
    · exact ⟨_, (mem_insert hi).mpr (.inr rfl), .of_stored hk hsealed ha⟩
  | merged hc =>
    exact hv.keeps_of_steady (hc.mono (fun _ _ ho => ⟨ho.context, ho.state⟩) fun _ hf => hf)
  | erased hc hk =>
    intro k' hk' hread
    obtain ⟨k, hmem, hm⟩ := hk.source hk'
    obtain ⟨m, hmm, hkeeps⟩ := hv.current k hmem (hm.readable hread)
    obtain ⟨m', hm', hq⟩ := hc.forward m hmm
    exact ⟨m', hm', (hkeeps.of_move hm hread).steady hq.steady⟩
  | @rewrapped c c' k value hc hq hk hcur hsealed =>
    intro k' hk' hread
    have hset := evolves_steady_set hc hq
    have hrewrapped : Keyed.key (rewrappedCredential value k) = Keyed.key k := rfl
    rcases (mem_set_of hk hrewrapped).mp hk' with ⟨hold, _⟩ | rfl
    · exact hv.keeps_of_steady hset k' hold hread
    · obtain ⟨m, hm, hkeeps⟩ := hv.current k hk hcur.1.2.2
      have he : m = c := eq_of_key hm hc
        ((congrArg CredentialName.connectionId hkeeps.name).symm.trans hcur.1.2.1)
      rw [he] at hkeeps
      have hnew : Keeps c (rewrappedCredential value k) :=
        ⟨hkeeps.name, hkeeps.active, value.ciphertext, rfl, hsealed.context, hsealed.sealedUnder⟩
      exact ⟨c', mem_set_self _ hc hq.id, hnew.steady hq.steady⟩

theorem Vault.Sound.step (hv : v.Sound) (h : VaultStep actor v v') : v'.Sound := by
  refine ⟨hv.step_current h, fun k' hk' => ?known, hv.step_renewed h, hv.step_reached h,
    hv.step_once h, fun o' ho' hs => ?stamped⟩
  case known =>
    rcases h.credentials.backward k' hk' with ⟨k, hk, hkk⟩ | ⟨c, hc, hn⟩
    · obtain ⟨c, hc, hck⟩ := hv.known k hk
      obtain ⟨c', hc', hm⟩ := h.connections.forward c hc
      exact ⟨c', hc', hck.move hm hkk⟩
    · exact ⟨c, hc, .of_name hn⟩
  case stamped =>
    rcases h.operations with hm | ⟨o, hf, hi⟩
    · obtain ⟨o, ho, hoo⟩ := hm.source ho'
      rcases hoo.stamped hs with hso | hat
      · exact hoo.submittedAt (hv.stamped o ho hso)
      · exact hat
    · rcases (mem_insert hi).mp ho' with ho | rfl
      · exact hv.stamped o' ho hs
      · rw [hf.state] at hs
        cases hs

theorem GuardHeld.step {g} (hg : GuardHeld v g) (h : VaultStep actor v v') : GuardHeld v' g := by
  obtain ⟨c, hc, hl⟩ := hg
  obtain ⟨c', hc', hm⟩ := h.connections.forward c hc
  exact ⟨c', hc', hl.move hm⟩

theorem Vault.Sound.renewal_unique (hv : v.Sound) {o₁ o₂}
    (h₁ : o₁ ∈ v.operations) (h₂ : o₂ ∈ v.operations) (hp : o₁.projectId = o₂.projectId)
    (hi : o₁.connectionId = o₂.connectionId)
    (hk : o₁.expectedCredentialGeneration = o₂.expectedCredentialGeneration) : o₁ = o₂ := by
  obtain ⟨k₁, hk₁, hn₁⟩ := hv.renewed o₁ h₁
  obtain ⟨k₂, hk₂, hn₂⟩ := hv.renewed o₂ h₂
  have hp' : k₁.projectId = k₂.projectId := (congrArg CredentialName.projectId hn₁).trans
    (hp.trans (congrArg CredentialName.projectId hn₂).symm)
  have hi' : k₁.connectionId = k₂.connectionId := (congrArg CredentialName.connectionId hn₁).trans
    (hi.trans (congrArg CredentialName.connectionId hn₂).symm)
  have hk' : k₁.credentialGeneration = k₂.credentialGeneration :=
    (congrArg CredentialName.credentialGeneration hn₁).trans
      (hk.trans (congrArg CredentialName.credentialGeneration hn₂).symm)
  have he : k₁ = k₂ := eq_of_key hk₁ hk₂ (Prod.ext hp' (Prod.ext hi' hk'))
  rw [he] at hn₁
  exact hv.once o₁ h₁ o₂ h₂ hp hi (congrArg CredentialName.connectionGeneration (hn₁.symm.trans hn₂))

end

end OwlAuth
