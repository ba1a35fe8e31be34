import OwlAuth.Control.Lifecycle
import OwlAuth.Webhook.Delivery

/-!
# What a webhook call can do

`WebhookStep env bares db db'` has one case for each way a committed call changes endpoints,
secrets, cleanups, materials, deliveries and attempts.

* endpoints  `prepared`, `touched`, `activated`, `bared`;
* secrets  `reprepared`, `finalized`, `rotated`, `overlapEnded`;
* cleanups  `cleanupLeased`, `cleanupErased`;
* deliveries  `replayed`, `claimed`, `ended`, `maintained`.

`bares` names the endpoint a call disables with all its secrets, and the clock it brings.
-/

namespace OwlAuth

open Fallible Table

structure SameGeneration (s s' : WebhookSecretGeneration) : Prop where
  endpointId : s'.endpointId = s.endpointId
  generation : s'.generation = s.generation
  materialId : s'.materialId = s.materialId
  state : s'.state = s.state

def NoneErased (materials materials' : Table ProtectedMaterial) : Prop :=
  ∀ m ∈ materials, m.state ≠ .erased → ∀ m' ∈ materials', m'.id = m.id → m'.state ≠ .erased

/-- a new pending secret, with its material reserved -/
structure Reserved (db : Database) (s : WebhookSecretGeneration)
    (materials : Table ProtectedMaterial) (secrets : Table WebhookSecretGeneration) : Prop where
  pending : s.state = .pending
  kept : NoneErased db.materials materials
  inserted : db.secrets.insert s = some secrets
  unique : ∀ o ∈ db.secrets, o.materialId ≠ s.materialId

def GivenUp (env : Environment) (db db' : Database) : Prop :=
  db' = db ∨ ∃ s ∈ db.secrets, s.state = .pending ∧ ∃ now cleanups,
    enqueueSecretCleanup env now now db.cleanups s = .ok cleanups
      ∧ db' = { db with secrets := db.secrets.set (retiredSecret now s), cleanups := cleanups }

/-- secrets were retired, and their erasure queued -/
def OnlyRetired (db db' : Database) : Prop :=
  ∃ secrets cleanups, db' = { db with secrets := secrets, cleanups := cleanups }

theorem GivenUp.only {env db db'} (h : GivenUp env db db') : OnlyRetired db db' := by
  rcases h with rfl | ⟨_, _, _, _, _, _, rfl⟩ <;> exact ⟨_, _, rfl⟩

structure Released (d d' : WebhookDelivery) : Prop where
  id : d'.id = d.id
  endpointId : d'.endpointId = d.endpointId
  attemptCount : d'.attemptCount = d.attemptCount
  leased : d.state = .leased
  notLeased : d'.state ≠ .leased
  again : d'.state = .pending → d.attemptCount < maxWebhookDeliveryAttempts

def Queued (d : WebhookDelivery) : Prop := d.state = .pending ∧ d.attemptCount = 0

/-- a pending endpoint becomes active with its pending secret -/
structure FirstActivated (db : Database) (e e' : WebhookEndpoint) (s : WebhookSecretGeneration) :
    Prop where
  mem : e ∈ db.endpoints
  pending : e.status = .pending
  secretMem : s ∈ db.secrets
  ofEndpoint : s.endpointId = e.id
  state : s.state = .pending
  id : e'.id = e.id
  current : e'.currentSecretGeneration = some s.generation
  overlap : e'.overlapSecretGeneration = e.overlapSecretGeneration
  active : e'.status = .active

/-- the pending secret becomes the current one, and the current one the overlap -/
structure SecretRotated (db : Database) (e e' : WebhookEndpoint)
    (pending current : WebhookSecretGeneration) : Prop where
  mem : e ∈ db.endpoints
  active : e.status = .active
  pendingMem : pending ∈ db.secrets
  pendingOf : pending.endpointId = e.id
  isPending : pending.state = .pending
  currentMem : current ∈ db.secrets
  currentOf : current.endpointId = e.id
  isCurrent : e.currentSecretGeneration = some current.generation
  isActive : current.state = .active
  id : e'.id = e.id
  newCurrent : e'.currentSecretGeneration = some pending.generation
  newOverlap : e'.overlapSecretGeneration = some current.generation
  status : e'.status = .active

/-- the overlap with `s` was over at `expiry`, and nothing else of the endpoint changes -/
structure OverlapEnded (env : Environment) (db : Database) (e e' : WebhookEndpoint)
    (s : WebhookSecretGeneration) (expiry : Instant) : Prop where
  mem : e ∈ db.endpoints
  expires : e.overlapExpiresAt = some expiry
  passed : expiry ≤ env.databaseClock
  secretMem : s ∈ db.secrets
  ofEndpoint : s.endpointId = e.id
  isOverlap : e.overlapSecretGeneration = some s.generation
  id : e'.id = e.id
  current : e'.currentSecretGeneration = e.currentSecretGeneration
  noOverlap : e'.overlapSecretGeneration = none
  status : e'.status = e.status

inductive WebhookStep (env : Environment) (bares : Option (Uuid × Instant)) (db : Database) :
    Database → Prop
  | kept {states : Table DispatchState} : WebhookStep env bares db { db with dispatchStates := states }
  | prepared (e : WebhookEndpoint) (endpoints : Table WebhookEndpoint)
      (s : WebhookSecretGeneration) (materials : Table ProtectedMaterial)
      (secrets : Table WebhookSecretGeneration)
      (inserted : db.endpoints.insert e = some endpoints)
      (noCurrent : e.currentSecretGeneration = none) (noOverlap : e.overlapSecretGeneration = none)
      (reserved : Reserved db s materials secrets) :
      WebhookStep env bares db
        { db with endpoints := endpoints, materials := materials, secrets := secrets }
  | touched (e e' : WebhookEndpoint) (mem : e ∈ db.endpoints) (same : SameSecrets e e') :
      WebhookStep env bares db { db with endpoints := db.endpoints.set e' }
  | activated (e e' : WebhookEndpoint) (s : WebhookSecretGeneration) (now : Instant)
      (h : FirstActivated db e e' s) :
      WebhookStep env bares db
        { db with
          secrets := db.secrets.set (activatedSecret now s)
          endpoints := db.endpoints.set e' }
  | bared (e e' : WebhookEndpoint) (now : Instant) (secrets : Table WebhookSecretGeneration)
      (cleanups : Table WebhookSecretCleanup) (mem : e ∈ db.endpoints)
      (why : bares = some (e.id, now))
      (retired : retireSecrets env e now db
        = .ok { db with secrets := secrets, cleanups := cleanups })
      (id : e'.id = e.id) (noCurrent : e'.currentSecretGeneration = none)
      (noOverlap : e'.overlapSecretGeneration = none) (status : e'.status = .disabled) :
      WebhookStep env bares db
        { db with secrets := secrets, cleanups := cleanups, endpoints := db.endpoints.set e' }
  | reprepared (s : WebhookSecretGeneration) (materials : Table ProtectedMaterial)
      (retired secrets : Table WebhookSecretGeneration) (cleanups : Table WebhookSecretCleanup)
      (givenUp : GivenUp env db { db with secrets := retired, cleanups := cleanups })
      (reserved : Reserved { db with secrets := retired, cleanups := cleanups } s materials secrets) :
      WebhookStep env bares db
        { db with secrets := secrets, cleanups := cleanups, materials := materials }
  | finalized (s s' : WebhookSecretGeneration) (materials : Table ProtectedMaterial)
      (mem : s ∈ db.secrets) (same : SameGeneration s s') (kept : NoneErased db.materials materials) :
      WebhookStep env bares db
        { db with materials := materials, secrets := db.secrets.set s' }
  | rotated (e e' : WebhookEndpoint) (pending current : WebhookSecretGeneration)
      (secrets : Table WebhookSecretGeneration) (cleanups : Table WebhookSecretCleanup)
      (h : SecretRotated db e e' pending current)
      (previous : retirePreviousOverlap env e db
        = .ok { db with secrets := secrets, cleanups := cleanups }) :
      WebhookStep env bares db
        { db with
          secrets := (secrets.set { current with state := .overlap }).set
            (activatedSecret env.databaseClock pending)
          cleanups := cleanups
          endpoints := db.endpoints.set e' }
  | overlapEnded (e e' : WebhookEndpoint) (s : WebhookSecretGeneration) (expiry now : Instant)
      (secrets : Table WebhookSecretGeneration) (cleanups : Table WebhookSecretCleanup)
      (h : OverlapEnded env db e e' s expiry)
      (retired : retireOverlap db.secrets s now = .ok secrets)
      (queued : enqueueSecretCleanup env now expiry db.cleanups s = .ok cleanups) :
      WebhookStep env bares db
        { db with secrets := secrets, endpoints := db.endpoints.set e', cleanups := cleanups }
  | cleanupLeased (k : ClaimSecretCleanup) (c : WebhookSecretCleanup) (mem : c ∈ db.cleanups)
      (due : CleanupDue db env.databaseClock c) :
      WebhookStep env bares db { db with cleanups := db.cleanups.set (leasedCleanup env k c) }
  | cleanupErased (c : WebhookSecretCleanup) (now : Instant) (materials : Table ProtectedMaterial)
      (mem : c ∈ db.cleanups) (leased : c.state = .leased)
      (erased : eraseById db.materials c.materialId now = .ok materials) :
      WebhookStep env bares db
        { db with cleanups := db.cleanups.set (erasedCleanup now c), materials := materials }
  | replayed (d : WebhookDelivery) (deliveries : Table WebhookDelivery)
      (states : Table DispatchState) (queued : Queued d)
      (inserted : db.deliveries.insert d = some deliveries) :
      WebhookStep env bares db { db with deliveries := deliveries, dispatchStates := states }
  | claimed (c : ClaimOne) (e : WebhookEndpoint) (d : WebhookDelivery)
      (states : Table DispatchState) (endpointMem : e ∈ db.endpoints)
      (ofEndpoint : d.endpointId = e.id) (mem : d ∈ db.deliveries) (pending : d.state = .pending)
      (free : EndpointFree db d.endpointId)
      (complete : LeaseComplete (leasedDelivery env c db e d)) :
      WebhookStep env bares db
        { db with
          deliveries := db.deliveries.set (leasedDelivery env c db e d)
          dispatchStates := states }
  | ended (d d' : WebhookDelivery) (a : WebhookDeliveryAttempt) (e e' : WebhookEndpoint)
      (attempts : Table WebhookDeliveryAttempt) (mem : d ∈ db.deliveries) (released : Released d d')
      (ofDelivery : a.deliveryId = d.id) (number : a.attemptNumber = d.attemptCount)
      (recorded : db.attempts.insert a = some attempts)
      (endpointMem : e ∈ db.endpoints) (same : SameSecrets e e') :
      WebhookStep env bares db
        { db with
          attempts := attempts
          deliveries := db.deliveries.set d'
          endpoints := db.endpoints.set e' }
  | maintained (c : MaintainWebhooks) : WebhookStep env bares db (maintain env c db)

variable {scope : EndpointScope} {e endpoint : WebhookEndpoint}
  {materials materials' : Table ProtectedMaterial} {projectId : Uuid} {now : Instant}
  {r : Committed WebhookEndpoint} {c : ChangeWebhookEndpoint} {db₁ : Database}

section
variable {env : Environment} {bares : Option (Uuid × Instant)} {db : Database}

/-! ## small facts about the helpers -/

theorem lockEndpoint_ok (h : lockEndpoint db scope = .ok e) :
    e ∈ db.endpoints ∧ e.id = scope.endpointId := by
  obtain ⟨hm, hid, _⟩ := find_ok h
  exact ⟨hm, hid⟩

theorem lockActiveEndpoint_ok (h : lockActiveEndpoint db scope = .ok e) :
    e ∈ db.endpoints ∧ e.id = scope.endpointId := by
  obtain ⟨_, h⟩ := later h
  exact lockEndpoint_ok h

theorem findSecret?_some {endpointId generation s}
    (h : findSecret? db endpointId generation = some s) :
    s ∈ db.secrets ∧ s.endpointId = endpointId ∧ s.generation = generation :=
  find?_some h

theorem NoneErased.refl (materials : Table ProtectedMaterial) : NoneErased materials materials := by
  intro m hm hs m' hm' hid
  rw [eq_of_key hm' hm hid]
  exact hs

theorem reserveMaterial_kept {m}
    (h : reserveMaterial materials m = .ok materials') : NoneErased materials materials' := by
  unfold reserveMaterial at h
  split at h
  · obtain ⟨_, h⟩ := later h
    cases h
    exact .refl materials
  · obtain ⟨_, h⟩ := later h
    obtain ⟨_, hi⟩ := insertRow_ok h
    intro o ho hs o' ho' hid
    rcases (mem_insert hi).mp ho' with ho' | rfl
    · rw [eq_of_key ho' ho hid]; exact hs
    · exact absurd hid.symm ((insert_some hi).1 o ho)

theorem finalizePendingMaterial_kept {materialId projectId value safe}
    (h : finalizePendingMaterial materials materialId projectId value safe = .ok materials') :
    NoneErased materials materials' := by
  obtain ⟨_, hm, h⟩ := bind_ok.mp h
  obtain ⟨hm, _⟩ := find_ok hm
  split at h
  · cases h
    intro o ho hs o' ho' hid
    rcases (mem_set_of hm (by rfl)).mp ho' with ⟨ho', _⟩ | rfl
    · rw [eq_of_key ho' ho hid]; exact hs
    · nofun
  · obtain ⟨_, h⟩ := later h
    cases h
    exact .refl materials
  · obtain ⟨_, _, h⟩ := later₂ h
    cases h
    exact .refl materials

theorem reserveSecret_ok {generation key fingerprint r}
    (h : reserveSecret env scope generation key fingerprint db = .ok r) :
    ∃ materials secrets, Reserved db r.2 materials secrets
      ∧ r.1 = { db with materials := materials, secrets := secrets } := by
  obtain ⟨_, _, materials, hm, secrets, hs, h⟩ := peel₃ h
  cases h
  obtain ⟨hu, hi⟩ := insertRow_ok hs
  exact ⟨materials, secrets, ⟨rfl, reserveMaterial_kept hm, hi, fun o ho => (hu o ho).1⟩, rfl⟩

/-! ## endpoints -/

theorem repeatedEndpoint_db {existing r}
    (h : repeatedEndpoint db projectId existing = .ok r) : r.db = db := by
  obtain ⟨_, _, h⟩ := later₂ h
  cases h
  rfl

theorem prepareEndpoint_step {c r} (h : prepareEndpoint env c db = .ok r) :
    WebhookStep env bares db r.db := by
  obtain ⟨_, _, h⟩ := later₂ h
  split at h
  · obtain ⟨_, h⟩ := later h
    rw [repeatedEndpoint_db h]; exact .kept
  · split at h
    · obtain ⟨_, h⟩ := later h
      rw [repeatedEndpoint_db h]; exact .kept
    · obtain ⟨_, _, endpoints, he, ⟨db₁, secret⟩, hs, h⟩ := peel₃ h
      cases h
      obtain ⟨materials, secrets, hres, hdb⟩ := reserveSecret_ok hs
      subst hdb
      exact .prepared _ endpoints secret materials secrets (insertRow_ok he).2 rfl rfl
        ⟨hres.pending, hres.kept, hres.inserted, hres.unique⟩

theorem recordEndpointTestSuccess_step (h : recordEndpointTestSuccess c db = .ok r) :
    WebhookStep env bares db r.db := by
  obtain ⟨e, he, _, _, h⟩ := peel₂ h
  obtain ⟨_, _, h⟩ := later₂ h
  cases h
  exact .touched e _ (lockActiveEndpoint_ok he).1 ⟨rfl, rfl, rfl, rfl, id⟩

theorem activatePreparedEndpoint_step (h : activatePreparedEndpoint c db = .ok r) :
    WebhookStep env bares db r.db := by
  obtain ⟨e, he, h⟩ := bind_ok.mp h
  obtain ⟨he, heid⟩ := lockActiveEndpoint_ok he
  split at h
  · obtain ⟨_, h⟩ := later h
    cases h
    exact .kept
  · obtain ⟨_, hp, _, _, _, _, h⟩ := peel₃ h
    obtain ⟨s, hs, _, hstate, _, _, h⟩ := peel₃ h
    cases h
    obtain ⟨hs, hse, hsg⟩ := findSecret?_some (require_ok.mp hs)
    exact .activated e _ s c.now ⟨he, ensure_ok.mp hp, hs, hse.trans heid.symm,
      (ensure_ok.mp hstate).1, rfl, congrArg some hsg.symm, rfl, rfl⟩

theorem updateEndpoint_step {c} (h : updateEndpoint c db = .ok r) :
    WebhookStep env bares db r.db := by
  obtain ⟨e, he, _, _, _, _, h⟩ := peel₃ h
  cases h
  exact .touched e _ (lockActiveEndpoint_ok he).1 ⟨rfl, rfl, rfl, rfl, id⟩

theorem retireSecrets_ok (h : retireSecrets env e now db = .ok db₁) :
    ∃ expiry cleanups, overlapNotBefore e = .ok expiry
      ∧ foldOk (fun t s => enqueueSecretCleanup env now (cleanupNotBefore e expiry now s) t s)
          db.cleanups (db.secrets.filter (OpenSecret e.id)) = .ok cleanups
      ∧ db₁ = { db with
          secrets := db.secrets.update (OpenSecret e.id) (retiredSecret now) (fun _ => rfl)
          cleanups := cleanups } := by
  obtain ⟨_, _, expiry, he, cleanups, hc, h⟩ := peel₃ h
  cases h
  exact ⟨expiry, cleanups, he, hc, rfl⟩

/-- an endpoint without overlap has nothing to retire before a rotation; otherwise the overlap is
over and its secret goes -/
theorem retirePreviousOverlap_ok (h : retirePreviousOverlap env e db = .ok db₁) :
    (e.overlapSecretGeneration = none ∧ db₁ = db)
      ∨ ∃ s ∈ db.secrets, ∃ expiry cleanups, s.endpointId = e.id
          ∧ e.overlapSecretGeneration = some s.generation ∧ e.overlapExpiresAt = some expiry
          ∧ expiry ≤ env.databaseClock
          ∧ enqueueSecretCleanup env env.databaseClock expiry db.cleanups s = .ok cleanups
          ∧ db₁ = { db with
              secrets := db.secrets.set (retiredSecret env.databaseClock s)
              cleanups := cleanups } := by
  unfold retirePreviousOverlap at h
  split at h
  · rename_i hnone
    cases h
    exact .inl ⟨hnone, rfl⟩
  · rename_i previous hprev
    obtain ⟨expiry, hexp, _, hpassed, h⟩ := peel₂ h
    obtain ⟨s, hs, cleanups, hc, h⟩ := peel₂ h
    cases h
    obtain ⟨hs, hse, hsg⟩ := findSecret?_some (require_ok.mp hs)
    exact .inr ⟨s, hs, expiry, cleanups, hse, by rw [hprev, hsg], require_ok.mp hexp,
      ensure_ok.mp hpassed, hc, rfl⟩

theorem retirePreviousOverlap_only (h : retirePreviousOverlap env e db = .ok db₁) :
    OnlyRetired db db₁ := by
  rcases retirePreviousOverlap_ok h with ⟨_, rfl⟩ | ⟨_, _, _, _, _, _, _, _, _, rfl⟩ <;>
    exact ⟨_, _, rfl⟩

theorem disableEndpoint_step (h : disableEndpoint env c db = .ok r) :
    WebhookStep env (some (c.scope.endpointId, c.now)) db r.db := by
  obtain ⟨_, _, e, he, _, _, h⟩ := peel₃ h
  obtain ⟨_, _, db₁, hr, h⟩ := peel₂ h
  cases h
  obtain ⟨he, heid⟩ := lockEndpoint_ok he
  obtain ⟨_, _, _, _, rfl⟩ := retireSecrets_ok hr
  exact .bared e _ c.now _ _ he (by rw [heid]) hr rfl rfl rfl rfl

variable {c : MaintainWebhookEndpoint}

theorem retireOneDisabledOwnerEndpoint_step {r}
    (h : retireOneDisabledOwnerEndpoint env c db = .ok r) :
    WebhookStep env (some (c.scope.endpointId, c.now)) db r.db := by
  obtain ⟨⟨_, _⟩, _, e, he, h⟩ := peel₂ h
  obtain ⟨he, heid⟩ := lockEndpoint_ok he
  split at h
  · cases h; exact .kept
  · obtain ⟨db₁, hr, _, _, h⟩ := peel₂ h
    cases h
    obtain ⟨_, _, _, _, rfl⟩ := retireSecrets_ok hr
    by_cases hd : e.status = .disabled
    · rw [if_pos hd]
      exact .bared e _ c.now _ _ he (by rw [heid]) hr rfl rfl rfl hd
    · rw [if_neg hd]
      exact .bared e _ c.now _ _ he (by rw [heid]) hr rfl rfl rfl rfl

/-! ## rotation -/

theorem repeatedRotation_db {existing r}
    (h : repeatedRotation db projectId endpoint existing = .ok r) : r.db = db := by
  obtain ⟨_, h⟩ := later h
  cases h
  rfl

variable {c : PrepareWebhookRotation}

theorem rotateSecret_step {r} (hg : GivenUp env db db₁)
    (h : rotateSecret env c endpoint db₁ = .ok r) : WebhookStep env bares db r.db := by
  obtain ⟨⟨db₂, s⟩, hs, h⟩ := bind_ok.mp h
  cases h
  obtain ⟨materials, secrets, hres, hdb⟩ := reserveSecret_ok hs
  subst hdb
  obtain ⟨_, _, rfl⟩ := hg.only
  exact .reprepared s materials _ secrets _ hg hres

theorem prepareSecretRotation_step {r}
    (h : prepareSecretRotation env c db = .ok r) : WebhookStep env bares db r.db := by
  obtain ⟨_, _, e, _, _, _, h⟩ := peel₃ h
  split at h
  · obtain ⟨_, h⟩ := later h
    rw [repeatedRotation_db h]; exact .kept
  · obtain ⟨_, h⟩ := later h
    split at h
    · exact rotateSecret_step (.inl rfl) h
    · rename_i pending hp
      obtain ⟨hp, _, hstate⟩ := find?_some hp
      split at h
      · rw [repeatedRotation_db h]; exact .kept
      · obtain ⟨cleanups, hc, h⟩ := bind_ok.mp h
        exact rotateSecret_step (.inr ⟨pending, hp, hstate, c.now, cleanups, hc, rfl⟩) h

theorem finalizeProtectedSecret_step {c r}
    (h : finalizeProtectedSecret env c db = .ok r) : WebhookStep env bares db r.db := by
  obtain ⟨_, _, _, h⟩ := later₃ h
  obtain ⟨_, _, s, hs, _, _, h⟩ := peel₃ h
  obtain ⟨_, _, _, _, materials, hm, h⟩ := peel₃ h
  have hkept := finalizePendingMaterial_kept hm
  obtain ⟨hs, _⟩ := findSecret?_some (require_ok.mp hs)
  split at h
  · cases h
    -- the secret has ended: only the material is written
    have hstep : WebhookStep env bares db
        { db with materials := materials, secrets := db.secrets.set s } :=
      .finalized s s materials hs ⟨rfl, rfl, rfl, rfl⟩ hkept
    rw [set_self hs] at hstep
    exact hstep
  · obtain ⟨_, h⟩ := later h
    cases h
    exact .finalized s _ materials hs ⟨rfl, rfl, rfl, rfl⟩ hkept

theorem activateSecretRotation_step {c}
    (h : activateSecretRotation env c db = .ok r) : WebhookStep env bares db r.db := by
  obtain ⟨_, _, e, he, h⟩ := peel₂ h
  obtain ⟨_, hactive, _, hcur, h⟩ := peel₂ h
  split at h
  · obtain ⟨_, h⟩ := later h
    cases h
    exact .kept
  · obtain ⟨_, _, pending, hp, _, hps, h⟩ := peel₃ h
    obtain ⟨current, hc, _, hcs, db₁, hprev, h⟩ := peel₃ h
    cases h
    obtain ⟨he, heid⟩ := lockActiveEndpoint_ok he
    obtain ⟨hpm, hpe, hpg⟩ := findSecret?_some (require_ok.mp hp)
    obtain ⟨hcm, hce, hcg⟩ := findSecret?_some (require_ok.mp hc)
    have hcur := require_ok.mp hcur
    obtain ⟨_, _, rfl⟩ := retirePreviousOverlap_only hprev
    exact .rotated e _ pending current _ _ ⟨he, ensure_ok.mp hactive, hpm, hpe.trans heid.symm,
      (ensure_ok.mp hps).1, hcm, hce.trans heid.symm, by rw [hcur, hcg], ensure_ok.mp hcs, rfl,
      congrArg some hpg.symm, congrArg some hcg.symm, ensure_ok.mp hactive⟩ hprev

theorem retireOneExpiredOverlap_step {c r}
    (h : retireOneExpiredOverlap env c db = .ok r) : WebhookStep env bares db r.db := by
  obtain ⟨_, _, e, he, h⟩ := peel₂ h
  obtain ⟨he, _⟩ := lockEndpoint_ok he
  split at h
  · cases h; exact .kept
  · rename_i hopen
    obtain ⟨generation, hg, s, hs, secrets, hret, h⟩ := peel₃ h
    obtain ⟨expiry, hexp, cleanups, hc, h⟩ := peel₂ h
    cases h
    obtain ⟨hs, hse, hsg⟩ := findSecret?_some (require_ok.mp hs)
    have hexp := require_ok.mp hexp
    have hpassed : expiry ≤ env.databaseClock := by
      obtain ⟨t, ht, hle⟩ := not_not.mp (not_or.mp hopen).2
      rw [hexp] at ht
      cases ht
      exact hle
    exact .overlapEnded e _ s expiry c.now secrets cleanups ⟨he, hexp, hpassed, hs, hse,
      by rw [require_ok.mp hg, hsg], rfl, rfl, rfl, rfl⟩ hret hc

/-! ## cleanups -/

theorem claimSecretCleanup_step {c r}
    (h : claimSecretCleanup env c db = .ok r) : WebhookStep env bares db r.db := by
  obtain ⟨_, h⟩ := later h
  split at h
  · cases h; exact .kept
  · rename_i cleanup hc
    cases h
    obtain ⟨hm, hdue⟩ := first?_some hc
    exact .cleanupLeased c cleanup hm hdue

variable {r : Committed Unit}

theorem finishSecretCleanup_step {c}
    (h : finishSecretCleanup env c db = .ok r) : WebhookStep env bares db r.db := by
  obtain ⟨cleanup, hc, materials, hm, _, _, h⟩ := peel₃ h
  cases h
  obtain ⟨hmem, _, hmat, hleased, _⟩ := find_ok hc
  rw [← hmat] at hm
  exact .cleanupErased cleanup c.now materials hmem hleased hm

/-! ## deliveries -/

theorem replayDelivery_step {c r}
    (h : replayDelivery env c db = .ok r) : WebhookStep env bares db r.db := by
  obtain ⟨_, _, _, h⟩ := later₃ h
  obtain ⟨_, _, _, h⟩ := later₃ h
  obtain ⟨_, _, _, _, deliveries, hd, h⟩ := peel₃ h
  cases h
  exact .replayed _ deliveries _ ⟨rfl, rfl⟩ (insertRow_ok hd).2

variable {r : Committed (Option ClaimedWebhookDelivery)}

theorem claimOne_step {c} (h : claimOne env c db = .ok r) : WebhookStep env bares db r.db := by
  obtain ⟨_, h⟩ := later h
  split at h
  · cases h; exact .kept
  · rename_i d hd
    obtain ⟨hd, _⟩ := find?_some hd
    obtain ⟨_, _, e, he, _, _, h⟩ := peel₃ h
    obtain ⟨he, heid⟩ := lockEndpoint_ok he
    split at h
    · cases h; exact .kept
    · split at h
      · rename_i hchosen
        -- the first that is due is the candidate itself
        obtain ⟨o, ho, hoid⟩ := Option.map_eq_some_iff.mp hchosen.1
        obtain ⟨hom, _, hdue⟩ := first?_some ho
        have hod : o = d := eq_of_key hom hd hoid
        rw [hod] at hdue
        obtain ⟨hp, _, _, hfree⟩ := hdue
        obtain ⟨_, _, _, hc, h⟩ := peel₂ h
        obtain ⟨_, _, h⟩ := later₂ h
        cases h
        exact .claimed c e d _ he heid.symm hd hp hfree (ensure_ok.mp hc)
      · split at h <;> cases h <;> exact .kept

theorem finish_step {c r} (h : finish c db = .ok r) : WebhookStep env bares db r.db := by
  obtain ⟨d, hd, ⟨project, application⟩, _, e, he, h⟩ := peel₃ h
  obtain ⟨_, hc, attempts, ha, h⟩ := peel₂ h
  cases h
  have hstate : ∀ active s, finishedState active d c.outcome.outcome c.nextAttemptAt = s →
      s ≠ .leased ∧ (s = .pending → d.attemptCount < maxWebhookDeliveryAttempts) := by
    rintro active _ rfl
    unfold finishedState
    split
    · exact ⟨nofun, nofun⟩
    · split
      · rename_i hc
        exact ⟨nofun, fun _ => hc.2.2.1⟩
      · split
        · exact ⟨nofun, nofun⟩
        · exact ⟨nofun, nofun⟩
  exact .ended d _ _ e _ attempts (find_ok hd).1 ⟨rfl, rfl, rfl, (ensure_ok.mp hc).1,
    (hstate _ _ rfl).1, (hstate _ _ rfl).2⟩ rfl rfl (insertRow_ok ha).2
    (lockEndpoint_ok he).1 (by unfold endpointAfter; split <;> exact ⟨rfl, rfl, rfl, rfl, id⟩)

theorem recoverOneExpiredDelivery_step {c r}
    (h : recoverOneExpiredDelivery env c db = .ok r) : WebhookStep env bares db r.db := by
  obtain ⟨⟨project, application⟩, _, e, he, h⟩ := peel₂ h
  obtain ⟨d, hd, _, _, h⟩ := peel₂ h
  split at h
  · cases h; exact .kept
  · rename_i hexpired
    obtain ⟨attempts, ha, h⟩ := bind_ok.mp h
    cases h
    have hstate : ∀ active s, recoveredState active d = s →
        s ≠ .leased ∧ (s = .pending → d.attemptCount < maxWebhookDeliveryAttempts) := by
      rintro active _ rfl
      unfold recoveredState
      split
      · exact ⟨nofun, nofun⟩
      · split
        · exact ⟨nofun, nofun⟩
        · rename_i hc
          exact ⟨nofun, fun _ => Int.not_le.mp hc⟩
    exact .ended d _ _ e _ attempts (find_ok hd).1 ⟨rfl, rfl, rfl, (not_not.mp hexpired).1,
      (hstate _ _ rfl).1, (hstate _ _ rfl).2⟩ rfl rfl (insertRow_ok ha).2
      (lockEndpoint_ok he).1 ⟨rfl, rfl, rfl, rfl, id⟩

/-! ## what the calls touch -/

/-- `db'` differs from `db` at most in what a webhook call touches -/
abbrev OnlyWebhooks (db db' : Database) : Prop :=
  db' = { db with
    endpoints := db'.endpoints
    secrets := db'.secrets
    cleanups := db'.cleanups
    materials := db'.materials
    events := db'.events
    deliveries := db'.deliveries
    attempts := db'.attempts
    dispatchStates := db'.dispatchStates }

theorem WebhookStep.frame {db'} (h : WebhookStep env bares db db') : OnlyWebhooks db db' := by
  cases h <;> rfl

end

end OwlAuth
