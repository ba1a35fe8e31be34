import OwlAuth.Managed.Reauthorization

/-!
# How an interaction moves

An interaction goes from status to status and never back (`ReauthorizationStatus.rank`); what it froze
and its deadline stay (`InteractionMove`).

* `InteractionsMoved`  a transaction that touches interactions only;
* `…_moved`  each transaction of a reauthorization but the last;
* `ReauthorizationDone`  what the last one checks and writes (`completeReauthorizationCallback_ok`);
* `claimReauthorizationCallback_ok`  a claim takes an interaction past the point where it can be
    claimed.
-/

namespace OwlAuth

open Fallible Table

def ReauthorizationStatus.rank : ReauthorizationStatus → Nat
  | awaitingBrowserBinding => 0
  | awaitingProviderStart => 1
  | providerAuthorizationStarted => 2
  | providerExchangeInProgress => 3
  | completed | providerExchangeFailed | expired | cancelled => 4

theorem ReauthorizationStatus.rank_le (s : ReauthorizationStatus) : s.rank ≤ 4 := by
  cases s <;> decide

/-- only a completion may complete it -/
structure InteractionMove (completes : Bool) (i i' : ReauthorizationInteraction) : Prop where
  id : i'.id = i.id
  frozen : i'.frozen = i.frozen
  expiresAt : i'.expiresAt = i.expiresAt
  rank : i.status.rank ≤ i'.status.rank
  lasting : i.status.terminal = true → i'.status = i.status
  completed : i'.status = .completed → i.status = .completed ∨ completes = true

variable {i i' : ReauthorizationInteraction} {now : Instant} {db : Database}
  {interaction : VersionedDigest} {c : ReauthorizationCallback}
  {r : Committed ReauthorizationRecord} {n : NamedInteraction}
  {record : ReauthorizationRecord} {u : Unit} {successor : ProtectedCredential}
  {done : Committed ConnectionGuard}

section
variable {completes : Bool}

theorem InteractionMove.refl (i : ReauthorizationInteraction) : InteractionMove completes i i :=
  ⟨rfl, rfl, rfl, Nat.le_refl _, fun _ => rfl, .inl⟩

theorem InteractionMove.of_status (id : i'.id = i.id) (frozen : i'.frozen = i.frozen)
    (expiresAt : i'.expiresAt = i.expiresAt) (status : i'.status = i.status) :
    InteractionMove completes i i' :=
  ⟨id, frozen, expiresAt, Nat.le_of_eq (congrArg ReauthorizationStatus.rank status.symm),
    fun _ => status, fun h => .inl (status.symm.trans h)⟩

theorem InteractionMove.of_open (id : i'.id = i.id) (frozen : i'.frozen = i.frozen)
    (expiresAt : i'.expiresAt = i.expiresAt) (isOpen : i.status.terminal = false)
    (rank : i.status.rank ≤ i'.status.rank) (completed : i'.status = .completed → completes = true) :
    InteractionMove completes i i' :=
  ⟨id, frozen, expiresAt, rank, fun h => absurd h (by rw [isOpen]; decide),
    fun h => .inr (completed h)⟩

theorem endedInteraction_move {status} (isOpen : i.status.terminal = false)
    (ended : status.terminal = true) (completed : status = .completed → completes = true) :
    InteractionMove completes i (endedInteraction status now i) := by
  refine .of_open rfl rfl rfl isOpen ?_ completed
  show i.status.rank ≤ status.rank
  have hlast : status.rank = 4 := by cases status <;> first | rfl | cases ended
  rw [hlast]
  exact i.status.rank_le

end

/-! ## transactions -/

def Opened (i : ReauthorizationInteraction) : Prop := i.status = .awaitingBrowserBinding

def InteractionsMoved (db db' : Database) : Prop :=
  ∃ t, db' = { db with reauthorizations := t }
    ∧ Evolves (InteractionMove false) Opened db.reauthorizations t

theorem InteractionsMoved.refl (db) : InteractionsMoved db db :=
  ⟨db.reauthorizations, rfl, .refl .refl _⟩

theorem InteractionsMoved.of_set (hi : i ∈ db.reauthorizations) (hm : InteractionMove false i i') :
    InteractionsMoved db { db with reauthorizations := db.reauthorizations.set i' } :=
  ⟨_, rfl, evolves_set .refl hi hm.id hm⟩

theorem expireById_moved (db) (id : Uuid) (now) : InteractionsMoved db (expireById db id now) := by
  refine ⟨_, rfl, evolves_update InteractionMove.refl (atDeadline_id now) fun i _ _ => ?_⟩
  unfold atDeadline
  split
  · rename_i hdue
    exact endedInteraction_move hdue.2 rfl fun h => nomatch h
  · split
    · exact .of_status rfl rfl rfl rfl
    · exact .refl i

theorem expireByDigest_moved {db'} (h : expireByDigest db interaction now = some db') :
    InteractionsMoved db db' := by
  obtain ⟨_, hi, h⟩ := Option.bind_eq_some_iff.mp h
  cases h
  obtain ⟨hi, _, _, hopen⟩ := find?_some hi
  exact .of_set hi (endedInteraction_move hopen rfl fun hs => nomatch hs)

theorem createReauthorization_moved {c}
    (h : createReauthorization c db = .ok r) : InteractionsMoved db r.db := by
  obtain ⟨owners, _, kind, _, _, _, h⟩ := peel₃ h
  obtain ⟨egress, _, _, _, h⟩ := peel₂ h
  obtain ⟨t, hi, _, _, h⟩ := peel₂ h
  cases h
  have hopened : Opened (newInteraction c (frozenAuthority c owners kind egress)) := rfl
  exact ⟨t, rfl, evolves_insert .refl (insertRow_ok hi).2 hopened⟩

theorem readReauthorization_moved (h : readReauthorization n now db = .ok r) :
    InteractionsMoved db r.db := by
  obtain ⟨_, _, h⟩ := later₂ h
  cases h
  exact expireById_moved db n.interactionId now

theorem cancelReauthorization_moved {expectedRevision}
    (h : cancelReauthorization n expectedRevision now db = .ok r) : InteractionsMoved db r.db := by
  obtain ⟨i, hi, _, _, h⟩ := peel₂ h
  cases h
  obtain ⟨hi, _, _, hs, _⟩ := find_ok hi
  have hopen : i.status.terminal = false := by
    rcases hs with hs | hs | hs <;> rw [hs] <;> rfl
  exact .of_set hi (endedInteraction_move hopen rfl fun hs => nomatch hs)

theorem digestVersions_moved {id r}
    (h : digestVersions id now db = .ok r) : InteractionsMoved db r.db := by
  obtain ⟨_, h⟩ := later h
  split at h
  · cases h; exact expireById_moved db id now
  · cases h; exact .refl db

theorem bindReauthorizationBrowser_moved {c}
    (h : bindReauthorizationBrowser c db = .ok r) : InteractionsMoved db r.db := by
  unfold bindReauthorizationBrowser at h
  split at h
  · rename_i hexp
    cases h; exact expireByDigest_moved hexp
  · obtain ⟨i, hi, _, _, h⟩ := peel₂ h
    cases h
    obtain ⟨hi, _, hs, _⟩ := find_ok hi
    refine .of_set hi (.of_open rfl rfl rfl (by rw [hs]; rfl) ?_ fun hs => nomatch hs)
    rw [hs]
    exact Nat.le_succ 0

theorem hostedReadReauthorization_moved {browserBinding}
    (h : hostedReadReauthorization interaction browserBinding now db = .ok r) :
    InteractionsMoved db r.db := by
  unfold hostedReadReauthorization at h
  split at h
  · rename_i hexp
    cases h; exact expireByDigest_moved hexp
  · obtain ⟨_, _, h⟩ := later₂ h
    cases h; exact .refl db

theorem startReauthorizationProvider_moved {c}
    (h : startReauthorizationProvider c db = .ok r) : InteractionsMoved db r.db := by
  obtain ⟨_, _, h⟩ := later₂ h
  obtain ⟨_, hi, _, _, h⟩ := peel₂ h
  cases h
  obtain ⟨hi, _, _, _, _, _, hs, _⟩ := find_ok hi
  refine .of_set hi (.of_open rfl rfl rfl (by rw [hs]; rfl) ?_ fun hs => nomatch hs)
  rw [hs]
  exact Nat.le_succ 1

theorem claimReauthorizationCallback_ok {id r} (h : claimReauthorizationCallback id c db = .ok r) :
    (∃ i ∈ db.reauthorizations, i.id = id ∧ i.status = .providerAuthorizationStarted
        ∧ ∃ policy, r = .done
          { db with reauthorizations := db.reauthorizations.set (claimedInteraction c.now i) }
          (.claimed ⟨claimedInteraction c.now i, policy⟩))
      ∨ (InteractionsMoved db r.db ∧ ∀ record, r.reply ≠ .ok (.claimed record)) := by
  obtain ⟨i, hi, h⟩ := bind_ok.mp h
  obtain ⟨hi, hid, _⟩ := find_ok hi
  obtain ⟨current, _, h⟩ := bind_ok.mp h
  split at h
  · cases h
    exact .inr ⟨expireById_moved db id c.now, fun _ hr => nomatch hr⟩
  · split at h
    · rename_i hs
      obtain ⟨ok, _, h⟩ := bind_ok.mp h
      cases ok with
      | true =>
        obtain ⟨record, hrec, h⟩ := bind_ok.mp h
        obtain ⟨_, _, policy, _, hrec⟩ := peel₂ hrec
        cases hrec
        cases h
        exact .inl ⟨i, hi, hid, hs, policy, rfl⟩
      | false =>
        obtain ⟨_, h⟩ := later h
        cases h
        exact .inr ⟨.of_set hi (endedInteraction_move (by rw [hs]; rfl) rfl fun hs => nomatch hs),
          fun _ hr => nomatch hr⟩
    · cases h
      exact .inr ⟨.refl db, fun _ hr => nomatch hr⟩

theorem claimReauthorizationCallback_moved {id r}
    (h : claimReauthorizationCallback id c db = .ok r) : InteractionsMoved db r.db := by
  rcases claimReauthorizationCallback_ok h with ⟨_, hi, _, hs, _, rfl⟩ | ⟨h, _⟩
  · refine .of_set hi (.of_open rfl rfl rfl (by rw [hs]; rfl) ?_ fun hs => nomatch hs)
    rw [hs]
    exact Nat.le_succ 2
  · exact h

theorem denyReauthorizationCallback_moved (h : denyReauthorizationCallback c db = .ok r) :
    InteractionsMoved db r.db := by
  obtain ⟨i, hi, h⟩ := bind_ok.mp h
  obtain ⟨hi, _⟩ := find_ok hi
  obtain ⟨_, h⟩ := later h
  split at h
  · cases h; exact expireById_moved db i.id c.now
  · split at h
    · cases h; exact .refl db
    · obtain ⟨_, h⟩ := later h
      split at h
      · rename_i hs
        obtain ⟨_, h⟩ := later h
        cases h
        exact .of_set hi (endedInteraction_move (by rw [hs]; rfl) rfl fun hs => nomatch hs)
      · cases h; exact .refl db

theorem failReauthorizationCallback_moved {r}
    (h : failReauthorizationCallback record now db = .ok r) : InteractionsMoved db r.db := by
  unfold failReauthorizationCallback at h
  split at h
  · rename_i i hi
    obtain ⟨hi, _, _, hs⟩ := find?_some hi
    obtain ⟨_, h⟩ := later h
    cases h
    exact .of_set hi (endedInteraction_move (by rw [hs]; rfl) rfl fun hs => nomatch hs)
  · obtain ⟨_, _, h⟩ := later₂ h
    cases h; exact .refl db

theorem terminalizeUnreadableInteractions_moved (runtime target : List Int) (picked : List Uuid)
    (now db) :
    InteractionsMoved db (terminalizeUnreadableInteractions runtime target picked now db) :=
  ⟨_, rfl, evolves_update InteractionMove.refl (f := unreadableInteraction now)
    (fun _ => rfl) fun i _ h => .of_open rfl rfl rfl h.2.1 i.status.rank_le fun hs => nomatch hs⟩

theorem terminalizeExpiredInteractions_moved (picked : List Uuid) (now db) :
    InteractionsMoved db (terminalizeExpiredInteractions picked now db) := by
  refine ⟨_, rfl, evolves_update InteractionMove.refl (f := sweptInteraction now)
    (fun _ => rfl) fun i _ _ => ?_⟩
  by_cases ht : i.status.terminal = true
  · exact .of_status rfl rfl rfl (if_pos ht)
  · have hs : (sweptInteraction now i).status = .expired := if_neg ht
    refine .of_open rfl rfl rfl (Bool.eq_false_iff.mpr ht) ?_ fun h => ?_
    · rw [hs]; exact i.status.rank_le
    · rw [hs] at h; cases h

/-! ## completion -/

def FrozenEgressCurrent (db : Database) (i : ReauthorizationInteraction) : Prop :=
  if i.frozen.providerKind = .oidc then
    i.frozen.providerEgressPolicyRevision ≠ none
      ∧ egressRevision db i.frozen.projectId = i.frozen.providerEgressPolicyRevision
  else i.frozen.providerEgressPolicyRevision = none

theorem lockCurrentAuthority_ok (h : lockCurrentAuthority db i now = .ok u) :
    FrozenCurrent db i now := by
  obtain ⟨_, hc, h⟩ := bind_ok.mp h
  obtain ⟨_, hc⟩ := later hc
  cases hc
  have hboth := ensure_ok.mp h
  exact of_decide_eq_true (Bool.and_eq_true_iff.mp hboth).2

theorem lockCurrentAuthority_egress (h : lockCurrentAuthority db i now = .ok u) :
    FrozenEgressCurrent db i := by
  obtain ⟨current, hc, h⟩ := bind_ok.mp h
  obtain ⟨policyOk, hp, hc⟩ := bind_ok.mp hc
  cases hc
  have hok : policyOk = true := (Bool.and_eq_true_iff.mp (ensure_ok.mp h)).1
  unfold frozenPolicyCurrent at hp
  unfold FrozenEgressCurrent
  split at hp
  · rename_i hk
    obtain ⟨revision, hr, hp⟩ := bind_ok.mp hp
    have hr := require_ok.mp hr
    cases hp
    rw [if_pos hk, hr]
    exact ⟨Option.some_ne_none revision, of_decide_eq_true hok⟩
  · rename_i hk
    obtain ⟨_, hn, _⟩ := bind_ok.mp hp
    rw [if_neg hk]
    exact ensure_ok.mp hn

/-- what the last transaction of a reauthorization finds and writes -/
structure ReauthorizationDone (record : ReauthorizationRecord) (successor : ProtectedCredential)
    (now : Instant) (db : Database) (i : ReauthorizationInteraction) (m : ManagedConnection)
    (credentials : Table ManagedCredential) (done : Committed ConnectionGuard) : Prop where
  mem : i ∈ db.reauthorizations
  claimed : StillClaimed record.interaction i
  live : now < i.expiresAt
  current : FrozenCurrent db record.interaction now
  egress : FrozenEgressCurrent db record.interaction
  connection : m ∈ db.managedConnections
  connectionId : m.id = record.interaction.frozen.connectionId
  projectId : m.projectId = record.interaction.frozen.projectId
  generation : m.generation = record.interaction.frozen.expectedConnectionGeneration
  credentialGeneration :
    m.credentialGeneration = record.interaction.frozen.expectedCredentialGeneration
  stored : (db.managedCredentials.update
      (ReadableCredential record.interaction.frozen.projectId
        record.interaction.frozen.connectionId) (replacedCredential now) (fun _ => rfl)).insert
      (sealedCredentialRow (reauthorizedContext record.interaction.frozen) successor)
    = some credentials
  written : done = .done { db with
      managedCredentials := credentials
      managedConnections := db.managedConnections.set
        (reauthorizedConnection record.interaction now m)
      reauthorizations := db.reauthorizations.set (endedInteraction .completed now i) }
    (reauthorizedGuard record)

theorem completeReauthorizationCallback_ok
    (h : completeReauthorizationCallback record successor now db = .ok done) :
    ∃ i m credentials, ReauthorizationDone record successor now db i m credentials done := by
  obtain ⟨_, _, _, hauth, i, hi, h⟩ := peel₃ h
  obtain ⟨credentials, hins, m, hm, _, _, h⟩ := peel₃ h
  cases h
  obtain ⟨hi, hclaimed, hlive⟩ := find_ok hi
  obtain ⟨hm, hmp, hmi, _, hmg, hmk⟩ := find_ok hm
  exact ⟨i, m, credentials, hi, hclaimed, hlive, lockCurrentAuthority_ok hauth,
    lockCurrentAuthority_egress hauth, hm, hmi, hmp, hmg, hmk, (insertRow_ok hins).2, rfl⟩

end OwlAuth
