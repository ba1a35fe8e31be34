import OwlAuth.System.Deliveries

/-!
# Webhook secrets over whole runs

A secret is retired in one call, its cleanup leased in a second and its material erased in a third,
while rotations, disables, overlap retirements and deliveries go on in between.

* `SecretsStep`  what a call can do to endpoints, secrets, cleanups and leases: a secret that has
    ended stays so, a cleanup is queued only for a secret that ends in the same
    call, and not before the overlap it ends (`step_secrets`);
* `SecretsSound`  endpoints name secrets in use, cleanups secrets that have ended, leases the
    materials of their generations;
* `ServedUntil`  a generation that served as overlap until `expiry` still does, or has ended
    with a cleanup that waits for `expiry`;
* `OverlapRespected`  a call that disables an endpoint does not take its overlap to be over by a
    clock that is ahead of the database;
* `secrets_outlive_their_use`  the main result, and the run it fails on without the condition.

Project deletion erases configuration secrets at once, and the cleanup of signing keys erases
materials of its own; neither is looked at here.
-/

namespace OwlAuth

open Fallible Table Demo Machine

/-! ## secrets and what names them -/

def SecretEnded (s : WebhookSecretGeneration) : Prop := s.state = .retired ∨ s.state = .compromised

/-- the same generation with the same material; once it has ended it has ended -/
structure SecretMove (s s' : WebhookSecretGeneration) : Prop where
  endpointId : s'.endpointId = s.endpointId
  generation : s'.generation = s.generation
  materialId : s'.materialId = s.materialId
  ended : SecretEnded s → SecretEnded s'

theorem SecretMove.refl (s : WebhookSecretGeneration) : SecretMove s s := ⟨rfl, rfl, rfl, id⟩

theorem SecretMove.trans {s₁ s₂ s₃} (h : SecretMove s₁ s₂)
    (h' : SecretMove s₂ s₃) : SecretMove s₁ s₃ :=
  ⟨h'.endpointId.trans h.endpointId, h'.generation.trans h.generation,
    h'.materialId.trans h.materialId, fun he => h'.ended (h.ended he)⟩

def SecretsMoved (secrets secrets' : Table WebhookSecretGeneration) : Prop :=
  ∀ s ∈ secrets, ∃ s' ∈ secrets', SecretMove s s'

theorem SecretsMoved.refl (secrets) : SecretsMoved secrets secrets := fun s hs => ⟨s, hs, .refl s⟩

theorem SecretsMoved.trans {t₁ t₂ t₃} (h : SecretsMoved t₁ t₂) (h' : SecretsMoved t₂ t₃) :
    SecretsMoved t₁ t₃ := by
  intro s₁ hs₁
  obtain ⟨s₂, hs₂, hm⟩ := h s₁ hs₁
  obtain ⟨s₃, hs₃, hm'⟩ := h' s₂ hs₂
  exact ⟨s₃, hs₃, hm.trans hm'⟩

def DistinctMaterials (secrets : Table WebhookSecretGeneration) : Prop :=
  secrets.AtMostOne (fun _ => True) WebhookSecretGeneration.materialId

def GenerationEnded (secrets : Table WebhookSecretGeneration) (endpointId : Uuid) (g : Int) : Prop :=
  ∃ s ∈ secrets, s.endpointId = endpointId ∧ s.generation = g ∧ SecretEnded s

theorem retiredSecret_move (s : WebhookSecretGeneration) (now) :
    SecretMove s (retiredSecret now s) :=
  ⟨rfl, rfl, rfl, fun _ => .inl rfl⟩

variable {s s' o r : WebhookSecretGeneration} {db db' db₁ : Database} {c : WebhookSecretCleanup}
  {e e' : WebhookEndpoint} {secrets' : Table WebhookSecretGeneration} {d : WebhookDelivery}
  {now expiry t : Instant} {g : Int} {cleanups' : Table WebhookSecretCleanup}
  {m m' : ProtectedMaterial} {bares : Option (Uuid × Instant)} {calls : List Call}

theorem not_ended {state} (hs : s.state = state)
    (h : state ≠ .retired ∧ state ≠ .compromised) : ¬ SecretEnded s := by
  rintro (he | he)
  · exact h.1 (hs.symm.trans he)
  · exact h.2 (hs.symm.trans he)

/-- the endpoint signs with secrets in use, and with none before it is active -/
structure EndpointSound (secrets : Table WebhookSecretGeneration) (e : WebhookEndpoint) : Prop where
  pending : e.status = .pending →
    e.currentSecretGeneration = none ∧ e.overlapSecretGeneration = none
  current : ∀ g, e.currentSecretGeneration = some g →
    ∃ s ∈ secrets, s.endpointId = e.id ∧ s.generation = g ∧ s.state = .active
  overlap : ∀ g, e.overlapSecretGeneration = some g →
    ∃ s ∈ secrets, s.endpointId = e.id ∧ s.generation = g ∧ s.state = .overlap

/-- the leased delivery names the materials of its generations -/
structure LeaseSound (secrets : Table WebhookSecretGeneration) (d : WebhookDelivery) : Prop where
  current : ∀ m ∈ d.claimedSecretMaterialId, ∃ s ∈ secrets, s.endpointId = d.endpointId
    ∧ d.claimedSecretGeneration = some s.generation ∧ s.materialId = m
  overlap : ∀ m ∈ d.claimedOverlapMaterialId, ∃ s ∈ secrets, s.endpointId = d.endpointId
    ∧ d.claimedOverlapGeneration = some s.generation ∧ s.materialId = m

structure SecretsSound (db : Database) : Prop where
  endpoints : ∀ e ∈ db.endpoints, EndpointSound db.secrets e
  materials : DistinctMaterials db.secrets
  cleanups : ∀ c ∈ db.cleanups, ∃ s ∈ db.secrets, RetiredSecretOf c s
  leases : ∀ d ∈ db.deliveries, d.state = .leased → LeaseSound db.secrets d
  unclaimed : ∀ c ∈ db.cleanups, c.state ≠ .pending →
    ∀ d ∈ db.deliveries, ¬ ClaimsGeneration c.endpointId c.generation d

theorem SecretsSound.not_signing (h : SecretsSound db) (hc : c ∈ db.cleanups)
    (he : e ∈ db.endpoints) : ¬ SignsWith c.endpointId c.generation e := by
  obtain ⟨s, hs, hse, hsg, _, hended⟩ := h.cleanups c hc
  have clash : ∀ o ∈ db.secrets, o.endpointId = e.id → o.generation = c.generation →
      e.id = c.endpointId → ¬ SecretEnded o → False := by
    intro o ho hoe hog hid hopen
    have hkey : Keyed.key o = Keyed.key s :=
      Prod.ext (hoe.trans (hid.trans hse.symm)) (hog.trans hsg.symm)
    rw [eq_of_key ho hs hkey] at hopen
    exact hopen hended
  rintro ⟨hid, hg | hg⟩
  · obtain ⟨o, ho, hoe, hog, hstate⟩ := (h.endpoints e he).current _ hg
    exact clash o ho hoe hog hid (not_ended hstate (by decide))
  · obtain ⟨o, ho, hoe, hog, hstate⟩ := (h.endpoints e he).overlap _ hg
    exact clash o ho hoe hog hid (not_ended hstate (by decide))

/-! ## what a call can do -/

def OverlapUntil (endpointId : Uuid) (g : Int) (expiry : Instant) (e : WebhookEndpoint) : Prop :=
  e.id = endpointId ∧ e.overlapSecretGeneration = some g ∧ e.overlapExpiresAt = some expiry

/-- the same cleanup; it is leased only when it is due and nobody claims its generation -/
structure CleanupKept (now : Instant) (db' : Database) (c₀ c : WebhookSecretCleanup) : Prop where
  endpointId : c.endpointId = c₀.endpointId
  generation : c.generation = c₀.generation
  materialId : c.materialId = c₀.materialId
  notBefore : c.notBefore = c₀.notBefore
  unclaimed : c.state ≠ .pending → c₀.state ≠ .pending
    ∨ ∀ d ∈ db'.deliveries, ¬ ClaimsGeneration c.endpointId c.generation d
  due : c.state = .leased → c₀.state = .leased ∨ c.notBefore ≤ now

/-- a new cleanup, of a secret that ends in the same call; it waits for the end of an overlap -/
structure CleanupQueued (db db' : Database) (c : WebhookSecretCleanup)
    (s s' : WebhookSecretGeneration) : Prop where
  mem : s ∈ db.secrets
  mem' : s' ∈ db'.secrets
  move : SecretMove s s'
  inUse : ¬ SecretEnded s
  ended : SecretEnded s'
  ofSecret : CleanupOf s c
  materialId : c.materialId = s.materialId
  pending : c.state = .pending
  notBefore : ∀ e ∈ db.endpoints, ∀ expiry,
    OverlapUntil s.endpointId s.generation expiry e → expiry ≤ c.notBefore

def CleanupOrigin (now : Instant) (db db' : Database) (c : WebhookSecretCleanup) : Prop :=
  (∃ c₀ ∈ db.cleanups, CleanupKept now db' c₀ c) ∨ ∃ s s', CleanupQueued db db' c s s'

theorem CleanupOrigin.old (hc : c ∈ db.cleanups) : CleanupOrigin now db db' c :=
  .inl ⟨c, hc, rfl, rfl, rfl, rfl, .inl, .inl⟩

/-- an overlap goes on as it is, or its generation ends -/
def OverlapsServed (db db' : Database) : Prop :=
  ∀ e ∈ db.endpoints, ∀ g expiry, OverlapUntil e.id g expiry e →
    (∃ e' ∈ db'.endpoints, OverlapUntil e.id g expiry e') ∨ GenerationEnded db'.secrets e.id g

structure SecretsStep (now : Instant) (db db' : Database) : Prop where
  moved : SecretsMoved db.secrets db'.secrets
  endpoints : ∀ e ∈ db'.endpoints, EndpointSound db'.secrets e
  materials : DistinctMaterials db'.secrets
  cleanups : ∀ c ∈ db'.cleanups, CleanupOrigin now db db' c
  leases : ∀ d ∈ db'.deliveries, d.state = .leased → d ∈ db.deliveries
    ∨ (LeaseSound db'.secrets d ∧ ∀ c ∈ db'.cleanups,
        ¬ ClaimsGeneration c.endpointId c.generation d)
  overlaps : OverlapsServed db db'

def Names (secrets : Table WebhookSecretGeneration) (endpointId : Uuid) (generation : Option Int)
    (materialId : Uuid) : Prop :=
  ∃ s ∈ secrets, s.endpointId = endpointId ∧ generation = some s.generation
    ∧ s.materialId = materialId

theorem LeaseSound.moved {secrets} (h : LeaseSound secrets d) (hm : SecretsMoved secrets secrets') :
    LeaseSound secrets' d := by
  have hnames : ∀ {id generation m}, Names secrets id generation m →
      Names secrets' id generation m := by
    rintro _ _ _ ⟨s, hs, hse, hsg, hsm⟩
    obtain ⟨s', hs', hmove⟩ := hm s hs
    exact ⟨s', hs', hmove.endpointId.trans hse, by rw [hmove.generation]; exact hsg,
      hmove.materialId.trans hsm⟩
  exact ⟨fun m hmat => hnames (h.current m hmat), fun m hmat => hnames (h.overlap m hmat)⟩

theorem SecretsStep.sound (h : SecretsStep now db db') (hdb : SecretsSound db) :
    SecretsSound db' := by
  refine ⟨h.endpoints, h.materials, ?_, ?_, ?_⟩
  · intro c hc
    rcases h.cleanups c hc with ⟨c₀, hc₀, hk⟩ | ⟨s, s', hq⟩
    · obtain ⟨s, hs, he, hg, hm, hended⟩ := hdb.cleanups c₀ hc₀
      obtain ⟨s', hs', hmove⟩ := h.moved s hs
      exact ⟨s', hs', hmove.endpointId.trans (he.trans hk.endpointId.symm),
        hmove.generation.trans (hg.trans hk.generation.symm),
        hmove.materialId.trans (hm.trans hk.materialId.symm), hmove.ended hended⟩
    · exact ⟨s', hq.mem', hq.move.endpointId.trans hq.ofSecret.1.symm,
        hq.move.generation.trans hq.ofSecret.2.symm, hq.move.materialId.trans hq.materialId.symm,
        hq.ended⟩
  · intro d hd hl
    rcases h.leases d hd hl with hd | ⟨hd, _⟩
    · exact (hdb.leases d hd hl).moved h.moved
    · exact hd
  · intro c hc hnp d hd hclaims
    rcases h.cleanups c hc with ⟨c₀, hc₀, hk⟩ | ⟨s, s', hq⟩
    · rcases hk.unclaimed hnp with hnp₀ | hfree
      · rcases h.leases d hd hclaims.2.1 with hold | ⟨_, hnew⟩
        · refine hdb.unclaimed c₀ hc₀ hnp₀ d hold ?_
          rw [← hk.endpointId, ← hk.generation]
          exact hclaims
        · exact hnew c hc hclaims
      · exact hfree d hd hclaims
    · exact hnp hq.pending

/-! ### calls that leave the secrets alone -/

theorem EndpointSound.kept {secrets} (h : EndpointSound secrets e) (same : SameSecrets e e')
    (hkept : ∀ s ∈ secrets, s.endpointId = e.id → (s.state = .active ∨ s.state = .overlap) →
      ∃ s' ∈ secrets', SameGeneration s s') : EndpointSound secrets' e' := by
  have hused : ∀ {g state}, state = .active ∨ state = .overlap →
      (∃ s ∈ secrets, s.endpointId = e.id ∧ s.generation = g ∧ s.state = state) →
      ∃ s' ∈ secrets', s'.endpointId = e'.id ∧ s'.generation = g ∧ s'.state = state := by
    rintro _ _ huse ⟨s, hs, hse, hsg, rfl⟩
    obtain ⟨s', hs', hsame⟩ := hkept s hs hse huse
    exact ⟨s', hs', hsame.endpointId.trans (hse.trans same.id.symm),
      hsame.generation.trans hsg, hsame.state⟩
  refine ⟨?_, ?_, ?_⟩
  · rw [same.current, same.overlap]
    exact fun hp => h.pending (same.pending hp)
  · rw [same.current]
    exact fun g hg => hused (.inl rfl) (h.current g hg)
  · rw [same.overlap]
    exact fun g hg => hused (.inr rfl) (h.overlap g hg)

theorem EndpointSound.of_none {secrets} (noCurrent : e.currentSecretGeneration = none)
    (noOverlap : e.overlapSecretGeneration = none) : EndpointSound secrets e := by
  refine ⟨fun _ => ⟨noCurrent, noOverlap⟩, ?_, ?_⟩
  · intro g hg
    cases noCurrent.symm.trans hg
  · intro g hg
    cases noOverlap.symm.trans hg

theorem SameGeneration.refl (s : WebhookSecretGeneration) : SameGeneration s s :=
  ⟨rfl, rfl, rfl, rfl⟩

theorem SameGeneration.move (h : SameGeneration s s') : SecretMove s s' :=
  ⟨h.endpointId, h.generation, h.materialId, fun he => by unfold SecretEnded; rw [h.state]; exact he⟩

theorem overlaps_kept (h : ∀ e ∈ db.endpoints, ∃ e' ∈ db'.endpoints, SameSecrets e e') :
    OverlapsServed db db' := by
  intro e he g expiry ho
  obtain ⟨e', he', hsame⟩ := h e he
  exact .inl ⟨e', he', hsame.id.trans ho.1, hsame.overlap.trans ho.2.1, hsame.expiry.trans ho.2.2⟩

theorem SecretsStep.quiet (hdb : SecretsSound db) (hsecrets : db'.secrets = db.secrets)
    (hcleanups : db'.cleanups = db.cleanups)
    (hendpoints : Evolves SameSecrets (fun _ => False) db.endpoints db'.endpoints)
    (hleases : ∀ d ∈ db'.deliveries, d.state = .leased → d ∈ db.deliveries) :
    SecretsStep now db db' := by
  refine ⟨by rw [hsecrets]; exact .refl _, ?_, ?_, ?_, ?_, overlaps_kept hendpoints.forward⟩
  · intro e' he'
    obtain ⟨e, he, hsame⟩ := hendpoints.source he'
    refine (hdb.endpoints e he).kept hsame (fun s hs _ _ => ⟨s, ?_, .refl s⟩)
    rw [hsecrets]; exact hs
  · rw [hsecrets]; exact hdb.materials
  · intro c hc
    rw [hcleanups] at hc
    exact .old hc
  · intro d hd hl
    exact .inl (hleases d hd hl)

theorem OnlyQueued.leases {t t'} (h : OnlyQueued t t') : ∀ d ∈ t', d.state = .leased → d ∈ t := by
  intro d hd hl
  rcases h.backward d hd with ⟨_, ho, rfl⟩ | hq
  · exact ho
  · rw [hq.1] at hl; cases hl

/-! ### queueing a cleanup -/

theorem enqueueSecretCleanup_rows {env notBefore cleanups}
    (h : enqueueSecretCleanup env now notBefore cleanups s = .ok cleanups') (hc : c ∈ cleanups') :
    c ∈ cleanups ∨ c = newCleanup env s now notBefore := by
  unfold enqueueSecretCleanup at h
  split at h
  · cases h; exact .inl hc
  · exact (mem_insert (insertRow_ok h).2).mp hc

theorem foldCleanups_rows {env} {notBefore : WebhookSecretGeneration → Instant} {cleanups secrets}
    (h : foldOk (fun t s => enqueueSecretCleanup env now (notBefore s) t s) cleanups secrets
      = .ok cleanups') (hc : c ∈ cleanups') :
    c ∈ cleanups ∨ ∃ s ∈ secrets, c = newCleanup env s now (notBefore s) := by
  refine foldOk_inv
    (fun t => ∀ c ∈ t, c ∈ cleanups ∨ ∃ s ∈ secrets, c = newCleanup env s now (notBefore s))
    ?_ (fun _ h => .inl h) h c hc
  intro t s t' hs ht he c hc
  rcases enqueueSecretCleanup_rows he hc with hc | rfl
  · exact ht c hc
  · exact .inr ⟨s, hs, rfl⟩

theorem newCleanup_notBefore {env notBefore} (h : notBefore ≤ now → notBefore ≤ env.databaseClock) :
    notBefore ≤ (newCleanup env s now notBefore).notBefore := by
  show notBefore ≤ if notBefore ≤ now then env.databaseClock else notBefore
  by_cases hn : notBefore ≤ now
  · rw [if_pos hn]; exact h hn
  · rw [if_neg hn]

section
variable {env : Environment} {db : Database}

theorem SecretsSound.overlapping (h : SecretsSound db) (he : e ∈ db.endpoints) (hs : s ∈ db.secrets)
    (hse : s.endpointId = e.id) (hg : e.overlapSecretGeneration = some s.generation) :
    s.state = .overlap := by
  obtain ⟨o, ho, hoe, hog, hstate⟩ := (h.endpoints e he).overlap _ hg
  have hos : o = s := eq_of_key ho hs (Prod.ext (hoe.trans hse.symm) hog)
  rw [← hos]; exact hstate

theorem set_moved {secrets : Table WebhookSecretGeneration} (ho : o ∈ secrets) (h : SecretMove o r) :
    SecretsMoved secrets (secrets.set r) := by
  have hkey : Keyed.key r = Keyed.key o := Prod.ext h.endpointId h.generation
  exact (evolves_set (N := fun _ => False) SecretMove.refl ho hkey h).forward

theorem set_materials {secrets} (h : DistinctMaterials secrets) (ho : o ∈ secrets)
    (hm : SecretMove o r) : DistinctMaterials (secrets.set r) :=
  h.set_of_imp ho (Prod.ext hm.endpointId hm.generation) id hm.materialId

theorem mem_set_other {secrets : Table WebhookSecretGeneration} (ho : o ∈ secrets)
    (h : SecretMove o r) (hs : s ∈ secrets) (hne : s ≠ o) : s ∈ secrets.set r :=
  (mem_set_of ho (Prod.ext h.endpointId h.generation)).mpr (.inl ⟨hs, hne⟩)

theorem mem_set_new {secrets : Table WebhookSecretGeneration} (ho : o ∈ secrets)
    (h : SecretMove o r) : r ∈ secrets.set r :=
  mem_set_self r ho (Prod.ext h.endpointId h.generation)

theorem overlaps_set (he : e ∈ db.endpoints) (hid : e'.id = e.id)
    (hendpoints : db'.endpoints = db.endpoints.set e')
    (h : ∀ g expiry, OverlapUntil e.id g expiry e →
      OverlapUntil e.id g expiry e' ∨ GenerationEnded db'.secrets e.id g) :
    OverlapsServed db db' := by
  intro o ho g expiry hover
  rw [hendpoints]
  by_cases heq : o = e
  · rw [heq] at hover ⊢
    rcases h g expiry hover with h | h
    · exact .inl ⟨e', mem_set_self e' he hid, h⟩
    · exact .inr h
  · exact .inl ⟨o, (mem_set_of he hid).mpr (.inl ⟨ho, heq⟩), hover⟩

theorem endpoints_set {endpoints secrets}
    (hdb : SecretsSound db) (he : e ∈ db.endpoints) (hid : e'.id = e.id)
    (hendpoints : endpoints = db.endpoints.set e') (hown : EndpointSound secrets e')
    (hkept : ∀ s ∈ db.secrets, s.endpointId ≠ e.id → (s.state = .active ∨ s.state = .overlap) →
      ∃ s' ∈ secrets, SameGeneration s s') : ∀ o ∈ endpoints, EndpointSound secrets o := by
  intro o ho
  rw [hendpoints] at ho
  rcases (mem_set_of he hid).mp ho with ⟨ho, hne⟩ | rfl
  · refine (hdb.endpoints o ho).kept (.refl o) ?_
    intro s hs hso huse
    refine hkept s hs ?_ huse
    rw [hso]
    exact fun hid => hne (eq_of_key ho he hid)
  · exact hown

/-! ### one lemma for each way the secrets change -/

theorem insert_endpointSound {secrets}
    (h : secrets.insert s = some secrets') (he : EndpointSound secrets e) :
    EndpointSound secrets' e :=
  he.kept (.refl e) fun o ho _ _ => ⟨o, (mem_insert h).mpr (.inl ho), .refl o⟩

theorem Reserved.moved {materials secrets} (h : Reserved db s materials secrets) :
    SecretsMoved db.secrets secrets :=
  fun o ho => ⟨o, (mem_insert h.inserted).mpr (.inl ho), .refl o⟩

theorem Reserved.materials {materials secrets} (h : Reserved db s materials secrets)
    (hdb : DistinctMaterials db.secrets) : DistinctMaterials secrets :=
  hdb.insert h.inserted fun _ o ho heq => absurd heq (h.unique o ho)

theorem prepared_secrets {endpoints materials secrets} (hdb : SecretsSound db)
    (inserted : db.endpoints.insert e = some endpoints)
    (noCurrent : e.currentSecretGeneration = none) (noOverlap : e.overlapSecretGeneration = none)
    (reserved : Reserved db s materials secrets) :
    SecretsStep now db
      { db with endpoints := endpoints, materials := materials, secrets := secrets } := by
  refine ⟨reserved.moved, ?_, reserved.materials hdb.materials, ?_, fun d hd _ => .inl hd, ?_⟩
  · intro o ho
    rcases (mem_insert inserted).mp ho with ho | rfl
    · exact insert_endpointSound reserved.inserted (hdb.endpoints o ho)
    · exact .of_none noCurrent noOverlap
  · exact fun c hc => .old hc
  · exact overlaps_kept fun o ho => ⟨o, (mem_insert inserted).mpr (.inl ho), .refl o⟩

theorem activatedSecret_move (hs : s.state = .pending) (now) :
    SecretMove s (activatedSecret now s) :=
  ⟨rfl, rfl, rfl, fun he => absurd he (not_ended hs (by decide))⟩

theorem pending_set {secrets : Table WebhookSecretGeneration} (hs : s ∈ secrets)
    (hstate : s.state = .pending) (hm : SecretMove s r) (ho : o ∈ secrets)
    (huse : o.state = .active ∨ o.state = .overlap) :
    ∃ o' ∈ secrets.set r, SameGeneration o o' := by
  refine ⟨o, mem_set_other hs hm ho ?_, .refl o⟩
  rintro rfl
  rw [hstate] at huse
  rcases huse with h | h <;> cases h

theorem activated_secrets (hdb : SecretsSound db) (h : FirstActivated db e e' s) :
    SecretsStep t db
      { db with
        secrets := db.secrets.set (activatedSecret now s)
        endpoints := db.endpoints.set e' } := by
  have hmove := activatedSecret_move h.state now
  have hnone := ((hdb.endpoints e h.mem).pending h.pending).2
  refine ⟨set_moved h.secretMem hmove, ?_, set_materials hdb.materials h.secretMem hmove,
    fun c hc => .old hc, fun d hd _ => .inl hd, ?_⟩
  · refine endpoints_set hdb h.mem h.id rfl ⟨?_, ?_, ?_⟩
      fun o ho _ => pending_set h.secretMem h.state hmove ho
    · intro hp
      cases h.active.symm.trans hp
    · intro g hg
      cases h.current.symm.trans hg
      exact ⟨_, mem_set_new h.secretMem hmove, h.ofEndpoint.trans h.id.symm, rfl, rfl⟩
    · intro g hg
      rw [h.overlap, hnone] at hg
      cases hg
  · refine overlaps_set h.mem h.id rfl ?_
    intro g expiry ho
    cases hnone.symm.trans ho.2.1

theorem bared_secrets (hdb : SecretsSound db) (mem : e ∈ db.endpoints)
    (retired : retireSecrets env e now db = .ok db₁) (id : e'.id = e.id)
    (noCurrent : e'.currentSecretGeneration = none) (noOverlap : e'.overlapSecretGeneration = none)
    (respected : ∀ g expiry, OverlapUntil e.id g expiry e → expiry ≤ now →
      expiry ≤ env.databaseClock) :
    SecretsStep t db { db₁ with endpoints := db₁.endpoints.set e' } := by
  obtain ⟨expiry, _, hexp, hfold, rfl⟩ := retireSecrets_ok retired
  have hevolves := evolves_update (t := db.secrets) (R := SecretMove) (N := fun _ => False)
    (p := OpenSecret e.id) (f := retiredSecret now) SecretMove.refl (fun _ => rfl)
    (fun s _ _ => retiredSecret_move s now)
  have hretired : ∀ s ∈ db.secrets, OpenSecret e.id s → retiredSecret now s ∈
      db.secrets.update (OpenSecret e.id) (retiredSecret now) (fun _ => rfl) :=
    fun s hs hopen => mem_update.mpr (.inr ⟨s, hs, hopen, rfl⟩)
  have hother : ∀ s ∈ db.secrets, s.endpointId ≠ e.id → s ∈
      db.secrets.update (OpenSecret e.id) (retiredSecret now) (fun _ => rfl) :=
    fun s hs hne => mem_update.mpr (.inl ⟨hs, fun hopen => hne hopen.1⟩)
  refine ⟨hevolves.forward, ?_, ?_, ?_, fun d hd _ => .inl hd, ?_⟩
  · exact endpoints_set hdb mem id rfl (.of_none noCurrent noOverlap)
      fun s hs hne _ => ⟨s, hother s hs hne, .refl s⟩
  · have hmat : DistinctMaterials
        (db.secrets.update (OpenSecret e.id) (retiredSecret now) (fun _ => rfl)) :=
      hdb.materials.update_of_imp (fun _ _ _ h => h) (fun _ _ _ _ => rfl)
    exact hmat
  · intro c hc
    rcases foldCleanups_rows hfold hc with hc | ⟨s, hs, rfl⟩
    · exact .old hc
    · obtain ⟨hs, hopen⟩ := mem_filter.mp hs
      refine .inr ⟨s, retiredSecret now s, hs, hretired s hs hopen, retiredSecret_move s now, ?_,
        .inl rfl, ⟨rfl, rfl⟩, rfl, rfl, ?_⟩
      · rcases hopen.2 with h | h | h <;> exact not_ended h (by decide)
      · -- an overlap is kept until its expiry
        intro o ho T hT
        have hoe : o = e := eq_of_key ho mem (hT.1.trans hopen.1)
        rw [hoe] at hT
        have hTe : OverlapUntil e.id s.generation T e := ⟨rfl, hT.2.1, hT.2.2⟩
        have hexpiry : expiry = some T := by
          unfold overlapNotBefore at hexp
          rw [hT.2.1, hT.2.2] at hexp
          cases hexp
          rfl
        have hnb : cleanupNotBefore e expiry now s = T := by
          unfold cleanupNotBefore
          rw [if_pos hT.2.1, hexpiry]
          rfl
        rw [hnb]
        exact newCleanup_notBefore (respected s.generation T hTe)
  · refine overlaps_set mem id rfl ?_
    intro g T hT
    obtain ⟨s, hs, hse, hsg, hstate⟩ := (hdb.endpoints e mem).overlap g hT.2.1
    exact .inr ⟨retiredSecret now s, hretired s hs ⟨hse, .inr (.inr hstate)⟩, hse, hsg, .inl rfl⟩

theorem givenUp_secrets (hdb : SecretsSound db) (h : GivenUp env db db₁) :
    SecretsStep t db db₁ := by
  rcases h with rfl | ⟨s, hs, hstate, now, _, hq, rfl⟩
  · exact .quiet hdb rfl rfl (.refl SameSecrets.refl _) (fun d hd _ => hd)
  · have hmove := retiredSecret_move s now
    refine ⟨set_moved hs hmove, ?_, set_materials hdb.materials hs hmove, ?_,
      fun d hd _ => .inl hd, overlaps_kept fun e he => ⟨e, he, .refl e⟩⟩
    · intro e he
      refine (hdb.endpoints e he).kept (.refl e) ?_
      exact fun o ho _ => pending_set hs hstate hmove ho
    · intro c hc
      rcases enqueueSecretCleanup_rows hq hc with hc | rfl
      · exact .old hc
      · refine .inr ⟨s, _, hs, mem_set_new hs hmove, hmove, not_ended hstate (by decide),
          .inl rfl, ⟨rfl, rfl⟩, rfl, rfl, ?_⟩
        rintro e he T ⟨hid, hg, _⟩
        cases hstate.symm.trans (hdb.overlapping he hs hid.symm hg)

theorem SecretsStep.reserve {materials secrets} (h : SecretsStep t db db₁)
    (reserved : Reserved db₁ s materials secrets) :
    SecretsStep t db { db₁ with materials := materials, secrets := secrets } := by
  refine ⟨h.moved.trans reserved.moved, ?_, reserved.materials h.materials, ?_, ?_, ?_⟩
  · intro e he
    exact insert_endpointSound reserved.inserted (h.endpoints e he)
  · intro c hc
    rcases h.cleanups c hc with ⟨c₀, hc₀, hk⟩ | ⟨o, o', hq⟩
    · exact .inl ⟨c₀, hc₀, hk.endpointId, hk.generation, hk.materialId, hk.notBefore,
        hk.unclaimed, hk.due⟩
    · exact .inr ⟨o, o', hq.mem, (mem_insert reserved.inserted).mpr (.inl hq.mem'),
        hq.move, hq.inUse, hq.ended, hq.ofSecret, hq.materialId, hq.pending, hq.notBefore⟩
  · intro d hd hl
    rcases h.leases d hd hl with hd | ⟨hd, hfree⟩
    · exact .inl hd
    · exact .inr ⟨hd.moved reserved.moved, hfree⟩
  · intro e he g T hT
    rcases h.overlaps e he g T hT with he' | ⟨o', ho', hrest⟩
    · exact .inl he'
    · exact .inr ⟨o', (mem_insert reserved.inserted).mpr (.inl ho'), hrest⟩

theorem finalized_secrets {materials} (hdb : SecretsSound db)
    (mem : s ∈ db.secrets) (same : SameGeneration s s') :
    SecretsStep t db { db with materials := materials, secrets := db.secrets.set s' } := by
  have hevolves := evolves_set (t := db.secrets) (R := SameGeneration) (N := fun _ => False)
    (r := s') SameGeneration.refl mem (Prod.ext same.endpointId same.generation) same
  refine ⟨set_moved mem same.move, ?_, set_materials hdb.materials mem same.move, ?_,
    fun d hd _ => .inl hd, overlaps_kept fun e he => ⟨e, he, .refl e⟩⟩
  · intro e he
    exact (hdb.endpoints e he).kept (.refl e) fun o ho _ _ => hevolves.forward o ho
  · exact fun c hc => .old hc

/-! ### the end of an overlap -/

theorem overlapOver_secrets {cleanups} (hdb : SecretsSound db)
    (mem : e ∈ db.endpoints) (hs : s ∈ db.secrets) (hse : s.endpointId = e.id)
    (hg : e.overlapSecretGeneration = some s.generation)
    (expires : e.overlapExpiresAt = some expiry) (passed : expiry ≤ env.databaseClock)
    (hq : enqueueSecretCleanup env now expiry db.cleanups s = .ok cleanups) (db')
    (hmem : retiredSecret now s ∈ db'.secrets) : ∀ c ∈ cleanups, CleanupOrigin t db db' c := by
  intro c hc
  rcases enqueueSecretCleanup_rows hq hc with hc | rfl
  · exact .old hc
  · have hstate := hdb.overlapping mem hs hse hg
    refine .inr ⟨s, _, hs, hmem, retiredSecret_move s now, not_ended hstate (by decide),
      .inl rfl, ⟨rfl, rfl⟩, rfl, rfl, ?_⟩
    intro o ho T hT
    have hoe : o = e := eq_of_key ho mem (hT.1.trans hse)
    rw [hoe] at hT
    have hTe : expiry = T := Option.some.inj (expires.symm.trans hT.2.2)
    rw [← hTe]
    exact newCleanup_notBefore fun _ => passed

theorem overlapEnded_secrets {secrets cleanups} (hdb : SecretsSound db)
    (h : OverlapEnded env db e e' s expiry) (retired : retireOverlap db.secrets s now = .ok secrets)
    (queued : enqueueSecretCleanup env now expiry db.cleanups s = .ok cleanups) :
    SecretsStep t db
      { db with secrets := secrets, endpoints := db.endpoints.set e', cleanups := cleanups } := by
  have hs := h.secretMem
  have hstate := hdb.overlapping h.mem hs h.ofEndpoint h.isOverlap
  have hsecrets : secrets = db.secrets.set (retiredSecret now s) := by
    unfold retireOverlap at retired
    rw [if_pos hstate] at retired
    cases retired
    rfl
  subst hsecrets
  have hmove := retiredSecret_move s now
  refine ⟨set_moved hs hmove, ?_, set_materials hdb.materials hs hmove,
    overlapOver_secrets hdb h.mem hs h.ofEndpoint h.isOverlap h.expires h.passed queued _
      (mem_set_new hs hmove), fun d hd _ => .inl hd, ?_⟩
  · refine endpoints_set hdb h.mem h.id rfl ⟨?_, ?_, ?_⟩ ?_
    · intro hp
      rw [h.current]
      exact ⟨((hdb.endpoints e h.mem).pending (h.status.symm.trans hp)).1, h.noOverlap⟩
    · intro g hcur
      rw [h.current] at hcur
      obtain ⟨o, ho, hoe, hog, host⟩ := (hdb.endpoints e h.mem).current g hcur
      refine ⟨o, mem_set_other hs hmove ho ?_, hoe.trans h.id.symm, hog, host⟩
      rintro rfl
      rw [hstate] at host
      cases host
    · intro g hov
      cases h.noOverlap.symm.trans hov
    · intro o ho hne _
      refine ⟨o, mem_set_other hs hmove ho ?_, .refl o⟩
      rintro rfl
      exact hne h.ofEndpoint
  · refine overlaps_set h.mem h.id rfl ?_
    intro g T hT
    have hgen : s.generation = g := Option.some.inj (h.isOverlap.symm.trans hT.2.1)
    exact .inr ⟨retiredSecret now s, mem_set_new hs hmove, h.ofEndpoint, hgen, .inl rfl⟩

/-- what the retirement of the previous overlap leaves behind, before a rotation goes on -/
structure PreviousRetired (t : Instant) (db : Database) (e : WebhookEndpoint) (db₁ : Database) :
    Prop where
  materials : DistinctMaterials db₁.secrets
  moved : SecretsMoved db.secrets db₁.secrets
  kept : ∀ s ∈ db.secrets, s.endpointId ≠ e.id ∨ s.state ≠ .overlap → s ∈ db₁.secrets
  cleanups : ∀ db' : Database, (∀ s' ∈ db₁.secrets, SecretEnded s' → s' ∈ db'.secrets) →
    ∀ c ∈ db₁.cleanups, CleanupOrigin t db db' c
  overlap : ∀ g expiry, OverlapUntil e.id g expiry e → GenerationEnded db₁.secrets e.id g

theorem retirePreviousOverlap_retired (t : Instant) (hdb : SecretsSound db) (mem : e ∈ db.endpoints)
    (h : retirePreviousOverlap env e db = .ok db₁) : PreviousRetired t db e db₁ := by
  rcases retirePreviousOverlap_ok h with ⟨hnone, rfl⟩ | ⟨s, hs, expiry, _, hse, hg, hexp,
    hpassed, hq, rfl⟩
  · refine ⟨hdb.materials, fun s hs => ⟨s, hs, .refl s⟩, fun s hs _ => hs,
      fun db' _ c hc => .old hc, ?_⟩
    intro g expiry hT
    cases hnone.symm.trans hT.2.1
  · have hstate := hdb.overlapping mem hs hse hg
    have hmove := retiredSecret_move s env.databaseClock
    refine ⟨set_materials hdb.materials hs hmove, set_moved hs hmove, ?_, ?_, ?_⟩
    · intro o ho hor
      refine mem_set_other hs hmove ho ?_
      rintro rfl
      rcases hor with hne | hne
      · exact hne hse
      · exact hne hstate
    · intro db' hdb'
      exact overlapOver_secrets hdb mem hs hse hg hexp hpassed hq db'
        (hdb' _ (mem_set_new hs hmove) (.inl rfl))
    · intro g T hT
      have hgen : s.generation = g := Option.some.inj (hg.symm.trans hT.2.1)
      exact ⟨_, mem_set_new hs hmove, hse, hgen, .inl rfl⟩

/-- the two rows a rotation writes: the current secret overlaps, the pending one signs -/
def rotatedSecrets (secrets : Table WebhookSecretGeneration)
    (current pending : WebhookSecretGeneration) (now : Instant) : Table WebhookSecretGeneration :=
  (secrets.set { current with state := .overlap }).set (activatedSecret now pending)

/-- what holds of the two rows and of the others afterwards -/
structure RotatedSecrets (secrets : Table WebhookSecretGeneration)
    (current pending : WebhookSecretGeneration) (now : Instant) : Prop where
  moved : SecretsMoved secrets (rotatedSecrets secrets current pending now)
  materials : DistinctMaterials secrets →
    DistinctMaterials (rotatedSecrets secrets current pending now)
  kept : ∀ s ∈ secrets, s ≠ pending → s ≠ current → s ∈ rotatedSecrets secrets current pending now
  overlapMem : { current with state := .overlap } ∈ rotatedSecrets secrets current pending now
  activeMem : activatedSecret now pending ∈ rotatedSecrets secrets current pending now

theorem rotatedSecrets_rows {secrets current pending} (now) (hc : current ∈ secrets)
    (isActive : current.state = .active) (hp : pending ∈ secrets)
    (isPending : pending.state = .pending) : RotatedSecrets secrets current pending now := by
  have hcm : SecretMove current { current with state := .overlap } :=
    ⟨rfl, rfl, rfl, fun h => absurd h (not_ended isActive (by decide))⟩
  have hpm := activatedSecret_move isPending now
  have hne : pending ≠ current := by
    rintro rfl
    cases isPending.symm.trans isActive
  have hp₁ : pending ∈ secrets.set { current with state := .overlap } :=
    mem_set_other hc hcm hp hne
  refine ⟨(set_moved hc hcm).trans (set_moved hp₁ hpm),
    fun h => set_materials (set_materials h hc hcm) hp₁ hpm, ?_, ?_, mem_set_new hp₁ hpm⟩
  · intro s hs hsp hsc
    exact mem_set_other hp₁ hpm (mem_set_other hc hcm hs hsc) hsp
  · refine mem_set_other hp₁ hpm (mem_set_new hc hcm) ?_
    intro heq
    rw [← heq] at isPending
    cases isPending

theorem rotated_secrets {pending current secrets cleanups} (hdb : SecretsSound db)
    (h : SecretRotated db e e' pending current) (previous : retirePreviousOverlap env e db
      = .ok { db with secrets := secrets, cleanups := cleanups }) :
    SecretsStep t db
      { db with
        secrets := rotatedSecrets secrets current pending env.databaseClock
        cleanups := cleanups
        endpoints := db.endpoints.set e' } := by
  have hprev := retirePreviousOverlap_retired t hdb h.mem previous
  have hcurr := hprev.kept current h.currentMem (.inr (by rw [h.isActive]; nofun))
  have hpend := hprev.kept pending h.pendingMem (.inr (by rw [h.isPending]; nofun))
  have hrot := rotatedSecrets_rows env.databaseClock hcurr h.isActive hpend h.isPending
  have hended : ∀ s' ∈ secrets, SecretEnded s' →
      s' ∈ rotatedSecrets secrets current pending env.databaseClock := by
    intro s' hs' he
    refine hrot.kept s' hs' ?_ ?_
    · rintro rfl; exact not_ended h.isPending (by decide) he
    · rintro rfl; exact not_ended h.isActive (by decide) he
  refine ⟨hprev.moved.trans hrot.moved, ?_, hrot.materials hprev.materials,
    hprev.cleanups _ hended, fun d hd _ => .inl hd, ?_⟩
  · refine endpoints_set hdb h.mem h.id rfl ⟨?_, ?_, ?_⟩ ?_
    · intro hp
      cases h.status.symm.trans hp
    · intro g hcur
      cases h.newCurrent.symm.trans hcur
      exact ⟨_, hrot.activeMem, h.pendingOf.trans h.id.symm, rfl, rfl⟩
    · intro g hov
      cases h.newOverlap.symm.trans hov
      exact ⟨_, hrot.overlapMem, h.currentOf.trans h.id.symm, rfl, rfl⟩
    · intro o ho hoe _
      refine ⟨o, hrot.kept o (hprev.kept o ho (.inl hoe)) ?_ ?_, .refl o⟩
      · rintro rfl; exact hoe h.pendingOf
      · rintro rfl; exact hoe h.currentOf
  · refine overlaps_set h.mem h.id rfl ?_
    intro g T hT
    obtain ⟨s', hs', hrest⟩ := hprev.overlap g T hT
    exact .inr ⟨s', hended s' hs' hrest.2.2, hrest⟩

/-! ### leases -/

theorem secretMaterial_some {endpointId generation m}
    (h : secretMaterial db endpointId generation = some m) :
    Names db.secrets endpointId generation m := by
  obtain ⟨_, hg, h⟩ := Option.bind_eq_some_iff.mp h
  obtain ⟨s, hs, hm⟩ := Option.map_eq_some_iff.mp h
  obtain ⟨hs, hse, hsg⟩ := findSecret?_some hs
  exact ⟨s, hs, hse, by rw [hg, hsg], hm⟩

theorem liveOverlap_some (h : liveOverlap e now = some g) : e.overlapSecretGeneration = some g := by
  unfold liveOverlap at h
  split at h
  · exact h
  · cases h

theorem claimed_secrets {c states} (hdb : SecretsSound db)
    (endpointMem : e ∈ db.endpoints) (ofEndpoint : d.endpointId = e.id) (mem : d ∈ db.deliveries) :
    SecretsStep t db
      { db with
        deliveries := db.deliveries.set (leasedDelivery env c db e d)
        dispatchStates := states } := by
  refine ⟨.refl _, hdb.endpoints, hdb.materials, fun _ hk => .old hk, ?_,
    overlaps_kept fun e he => ⟨e, he, .refl e⟩⟩
  intro x hx hl
  have hkey : Keyed.key (leasedDelivery env c db e d) = Keyed.key d := rfl
  rcases (mem_set_of mem hkey).mp hx with ⟨hx, _⟩ | rfl
  · exact .inl hx
  · refine .inr ⟨⟨?_, ?_⟩, ?_⟩
    · intro m hm
      rw [show (leasedDelivery env c db e d).endpointId = e.id from ofEndpoint]
      exact secretMaterial_some hm
    · intro m hm
      rw [show (leasedDelivery env c db e d).endpointId = e.id from ofEndpoint]
      exact secretMaterial_some hm
    · -- the generations claimed are those of the endpoint, and those have no cleanup
      rintro k hk ⟨hke, _, hg⟩
      refine hdb.not_signing hk endpointMem ⟨ofEndpoint.symm.trans hke, ?_⟩
      rcases hg with hg | hg
      · exact .inl hg
      · exact .inr (liveOverlap_some hg)

theorem cleanupSet_secrets {c' materials} (hdb : SecretsSound db) (mem : c ∈ db.cleanups)
    (id : c'.id = c.id)
    (kept : CleanupKept t { db with cleanups := db.cleanups.set c', materials := materials } c c') :
    SecretsStep t db { db with cleanups := db.cleanups.set c', materials := materials } := by
  refine ⟨.refl _, hdb.endpoints, hdb.materials, ?_, fun d hd _ => .inl hd,
    overlaps_kept fun e he => ⟨e, he, .refl e⟩⟩
  intro x hx
  rcases (mem_set_of mem id).mp hx with ⟨hx, _⟩ | rfl
  · exact .old hx
  · exact .inl ⟨c, mem, kept⟩

end

/-! ### every call -/

/-- the overlap of an endpoint is not taken to be over by a clock that is ahead -/
def OverlapKept (env : Environment) (bares : Option (Uuid × Instant)) (db : Database) : Prop :=
  ∀ target ∈ bares, ∀ e ∈ db.endpoints, e.id = target.1 → e.overlapSecretGeneration.isSome = true →
    ∀ expiry ∈ e.overlapExpiresAt, expiry ≤ target.2 → expiry ≤ env.databaseClock

theorem maintain_leases (env) (c : MaintainWebhooks) (db) :
    ∀ d ∈ (maintain env c db).deliveries, d.state = .leased → d ∈ db.deliveries := by
  intro d hd hl
  rcases maintain_rows env c db d hd with hd | ⟨_, _, hc⟩
  · exact hd
  · cases hc.cancelled.symm.trans hl

theorem WebhookStep.secrets {env} (h : WebhookStep env bares db db')
    (hdb : SecretsSound db) (hkept : OverlapKept env bares db) :
    SecretsStep env.databaseClock db db' := by
  cases h with
  | kept => exact .quiet hdb rfl rfl (.refl .refl _) (fun d hd _ => hd)
  | prepared e endpoints s materials secrets inserted noCurrent noOverlap reserved =>
    exact prepared_secrets hdb inserted noCurrent noOverlap reserved
  | touched e e' mem same =>
    exact .quiet hdb rfl rfl (evolves_set .refl mem same.id same) (fun d hd _ => hd)
  | activated e e' s now h => exact activated_secrets hdb h
  | bared e e' now secrets cleanups mem why retired id noCurrent noOverlap status =>
    refine bared_secrets hdb mem retired id noCurrent noOverlap ?_
    intro g expiry hT
    exact hkept _ why e mem rfl (by rw [hT.2.1]; rfl) expiry hT.2.2
  | reprepared s materials retired secrets cleanups givenUp reserved =>
    exact (givenUp_secrets hdb givenUp).reserve reserved
  | finalized s s' materials mem same kept => exact finalized_secrets hdb mem same
  | rotated e e' pending current secrets cleanups h previous => exact rotated_secrets hdb h previous
  | overlapEnded e e' s expiry now secrets cleanups h retired queued =>
    exact overlapEnded_secrets hdb h retired queued
  | cleanupLeased k c mem due =>
    exact cleanupSet_secrets hdb mem rfl
      ⟨rfl, rfl, rfl, rfl, fun _ => .inr due.2.2.2.2, fun _ => .inr due.1⟩
  | cleanupErased c now materials mem leased erased =>
    exact cleanupSet_secrets hdb mem rfl
      ⟨rfl, rfl, rfl, rfl, fun _ => .inl (by rw [leased]; nofun), nofun⟩
  | replayed d deliveries states queued inserted =>
    exact .quiet hdb rfl rfl (.refl .refl _) (OnlyQueued.insert inserted queued).leases
  | claimed c e d states endpointMem ofEndpoint mem _ _ _ =>
    exact claimed_secrets hdb endpointMem ofEndpoint mem
  | ended d d' a e e' attempts mem released _ _ _ endpointMem same =>
    refine .quiet hdb rfl rfl (evolves_set .refl endpointMem same.id same) ?_
    intro x hx hl
    rcases (mem_set_of mem released.id).mp hx with ⟨hx, _⟩ | rfl
    · exact hx
    · exact absurd hl released.notLeased
  | maintained c => exact .quiet hdb rfl rfl (.refl .refl _) (maintain_leases env c db)

theorem eraseById_rows {materials materials' materialId}
    (h : eraseById materials materialId now = .ok materials') (hm : m ∈ materials)
    (hstate : m.state ≠ .erased) (hm' : m' ∈ materials') (hid : m'.id = m.id)
    (herased : m'.state = .erased) : materialId = m.id := by
  obtain ⟨o, ho, h⟩ := bind_ok.mp h
  obtain ⟨ho, hoid⟩ := find_ok ho
  have same : m' ∈ materials → materialId = m.id := fun hmem =>
    absurd herased (NoneErased.refl materials m hm hstate m' hmem hid)
  have set : ∀ o' : ProtectedMaterial, o'.id = o.id → m' ∈ materials.set o' →
      materialId = m.id := by
    intro o' ho' hmem
    rcases (mem_set_of ho ho').mp hmem with ⟨hmem, _⟩ | rfl
    · exact same hmem
    · exact hoid.symm.trans (ho'.symm.trans hid)
  split at h
  · cases h; exact same hm'
  · cases h; exact set (erasedMaterial now o) rfl hm'

theorem WebhookStep.erases {env} (h : WebhookStep env bares db db')
    (hm : m ∈ db.materials) (hstate : m.state ≠ .erased) (hm' : m' ∈ db'.materials)
    (hid : m'.id = m.id) (herased : m'.state = .erased) :
    ∃ c ∈ db.cleanups, c.state = .leased ∧ c.materialId = m.id := by
  have none : ∀ materials, NoneErased db.materials materials → m' ∈ materials →
      ∃ c ∈ db.cleanups, c.state = .leased ∧ c.materialId = m.id :=
    fun materials hkept hmem => absurd herased (hkept m hm hstate m' hmem hid)
  cases h with
  | prepared _ _ _ _ _ _ _ _ reserved => exact none _ reserved.kept hm'
  | reprepared _ _ _ _ _ _ reserved => exact none _ reserved.kept hm'
  | finalized _ _ _ _ _ kept => exact none _ kept hm'
  | cleanupErased c now materials mem leased erased =>
    exact ⟨c, mem, leased, eraseById_rows erased hm hstate hm' hid herased⟩
  | _ => exact none _ (.refl _) hm'

/-- the call neither deletes a project nor works on signing keys -/
def Call.keepsMaterials (call : Call) : Prop :=
  match call.op with
  | .configuration o => o.deletes = false
  | .signing _ => False
  | _ => True

/-- a call that disables an endpoint with all its secrets does not take the overlap of the endpoint
to be over by a clock that is ahead of the database -/
def OverlapRespected (db : Database) (call : Call) : Prop :=
  match call.op with
  | .webhook o => OverlapKept call.env o.bares db
  | _ => True

theorem step_secrets (call) (hdb : SecretsSound db) (hcall : call.keepsMaterials)
    (hkept : OverlapRespected db call) : SecretsStep call.env.databaseClock db (step call db) := by
  have hr := step_only call db
  have hv := step_views call db
  obtain ⟨env, op⟩ := call
  cases op with
  | configuration o =>
    have hdeliveries : (o.step env db).deliveries = db.deliveries :=
      (congrArg Database.deliveries hr :)
    refine .quiet hdb (congrArg Database.secrets hr :) (congrArg Database.cleanups hr :)
      (o.step_owner env db).endpoints ?_
    intro d hd _
    rw [← hdeliveries]
    exact hd
  | signing o => exact hcall.elim
  | webhook o => exact (o.step_webhook env db).secrets hdb hkept
  | _ =>
    -- every other call leaves the secrets alone and only queues deliveries
    obtain hv | ⟨_, ho⟩ := hv
    · exact .quiet hdb (congrArg Database.secrets hr :) (congrArg Database.cleanups hr :)
        (.of_eq .refl (congrArg Database.endpoints hr :)) hv.queued.leases
    · cases ho

theorem step_erases (call) (hcall : call.keepsMaterials) (hm : m ∈ db.materials)
    (hstate : m.state ≠ .erased) (hm' : m' ∈ (step call db).materials) (hid : m'.id = m.id)
    (herased : m'.state = .erased) :
    ∃ c ∈ db.cleanups, c.state = .leased ∧ c.materialId = m.id := by
  have hr := step_only call db
  have others : (step call db).materials = db.materials → False := by
    intro he
    rw [he] at hm'
    exact NoneErased.refl db.materials m hm hstate m' hm' hid herased
  obtain ⟨env, op⟩ := call
  cases op with
  | configuration o => exact (others ((o.step_owner env db).materials hcall)).elim
  | signing o => exact hcall.elim
  | webhook o => exact (o.step_webhook env db).erases hm hstate hm' hid herased
  | _ => exact (others (congrArg Database.materials hr :)).elim

/-! ## a generation that served as overlap -/

/-- generation `g` still overlaps until `expiry`, or it has ended and its cleanup waits for `expiry` -/
def ServedUntil (endpointId : Uuid) (g : Int) (expiry : Instant) (db : Database) : Prop :=
  (∃ e ∈ db.endpoints, OverlapUntil endpointId g expiry e)
    ∨ (GenerationEnded db.secrets endpointId g
      ∧ ∀ c ∈ db.cleanups, c.endpointId = endpointId → c.generation = g → expiry ≤ c.notBefore)

theorem SecretsStep.served (h : SecretsStep now db db') (hdb : SecretsSound db) {endpointId}
    (hs : ServedUntil endpointId g expiry db) : ServedUntil endpointId g expiry db' := by
  rcases hs with ⟨e, he, hT⟩ | ⟨⟨s, hs, hse, hsg, hended⟩, hwait⟩
  · have hid := hT.1
    have hTe : OverlapUntil e.id g expiry e := ⟨rfl, hT.2⟩
    rcases h.overlaps e he g expiry hTe with ⟨e', he', hT'⟩ | ⟨s', hs', hse', hsg', hended'⟩
    · exact .inl ⟨e', he', hT'.1.trans hid, hT'.2⟩
    · refine .inr ⟨⟨s', hs', hse'.trans hid, hsg', hended'⟩, ?_⟩
      -- a cleanup of this generation is a new one: the overlap had none
      intro c hc hce hcg
      rcases h.cleanups c hc with ⟨c₀, hc₀, hk⟩ | ⟨o, o', hq⟩
      · refine absurd ⟨?_, .inr ?_⟩ (hdb.not_signing hc₀ he)
        · rw [← hk.endpointId, hce]; exact hid
        · rw [← hk.generation, hcg]; exact hT.2.1
      · refine hq.notBefore e he expiry ⟨?_, ?_, hT.2.2⟩
        · rw [← hq.ofSecret.1, hce]; exact hid
        · rw [← hq.ofSecret.2, hcg]; exact hT.2.1
  · obtain ⟨s', hs', hmove⟩ := h.moved s hs
    refine .inr ⟨⟨s', hs', hmove.endpointId.trans hse, hmove.generation.trans hsg,
      hmove.ended hended⟩, ?_⟩
    intro c hc hce hcg
    rcases h.cleanups c hc with ⟨c₀, hc₀, hk⟩ | ⟨o, o', hq⟩
    · rw [hk.notBefore]
      exact hwait c₀ hc₀ (hk.endpointId.symm.trans hce) (hk.generation.symm.trans hcg)
    · -- a secret that has ended is not queued again
      have hos : o = s := eq_of_key hq.mem hs
        (Prod.ext (hq.ofSecret.1.symm.trans (hce.trans hse.symm))
          (hq.ofSecret.2.symm.trans (hcg.trans hsg.symm)))
      rw [← hos] at hended
      exact absurd hended hq.inUse

def DueBy (t : Instant) (db : Database) : Prop :=
  ∀ c ∈ db.cleanups, c.state = .leased → c.notBefore ≤ t

theorem SecretsStep.dueBy (h : SecretsStep now db db') (hnow : now ≤ t) (hdb : DueBy t db) :
    DueBy t db' := by
  intro c hc hl
  rcases h.cleanups c hc with ⟨c₀, hc₀, hk⟩ | ⟨_, _, hq⟩
  · rcases hk.due hl with hl₀ | hle
    · rw [hk.notBefore]; exact hdb c₀ hc₀ hl₀
    · exact le_trans hle hnow
  · cases hq.pending.symm.trans hl

/-! ## the main result -/

def Erases (call : Call) (db : Database) (m : ProtectedMaterial) : Prop :=
  m ∈ db.materials ∧ m.state ≠ .erased
    ∧ ∃ m' ∈ (step call db).materials, m'.id = m.id ∧ m'.state = .erased

/-- what a call of the run has to meet: it leaves the materials to the cleanups of their secrets,
respects the overlaps it ends, and comes at a time not after `t` -/
def CallRespects (t : Instant) (db : Database) (call : Call) : Prop :=
  call.keepsMaterials ∧ OverlapRespected db call ∧ call.env.databaseClock ≤ t

theorem run_secretsSound (h : SecretsSound db)
    (hcalls : Along step (CallRespects t) db calls) : SecretsSound (run db calls) :=
  run_inv_along step (I := SecretsSound)
    (fun _ call hdb hc => (step_secrets call hdb hc.1 hc.2.1).sound hdb) calls h hcalls

theorem run_secrets {Q : Database → Prop} (hQ : ∀ db call, SecretsSound db → Q db →
      CallRespects t db call → SecretsStep call.env.databaseClock db (step call db) →
      Q (step call db))
    (h : SecretsSound db) (hq : Q db) (hcalls : Along step (CallRespects t) db calls) :
    Q (run db calls) :=
  (run_inv_along step (I := fun db => SecretsSound db ∧ Q db)
    (fun db call hdb hc =>
      have hstep := step_secrets call hdb.1 hc.1 hc.2.1
      ⟨hstep.sound hdb.1, hQ db call hdb.1 hdb.2 hc hstep⟩) calls ⟨h, hq⟩ hcalls).2

theorem SecretsSound.unused (h : SecretsSound db) (hc : c ∈ db.cleanups) (hl : c.state = .leased)
    (hs : s ∈ db.secrets) (hm : s.materialId = c.materialId) :
    (c.endpointId = s.endpointId ∧ c.generation = s.generation)
      ∧ (∀ e ∈ db.endpoints, ¬ SignsWith s.endpointId s.generation e)
      ∧ ∀ d ∈ db.deliveries, d.state = .leased → d.claimedSecretMaterialId ≠ some s.materialId
          ∧ d.claimedOverlapMaterialId ≠ some s.materialId := by
  obtain ⟨o, ho, hoe, hog, hom, _⟩ := h.cleanups c hc
  have hos : o = s := h.materials o ho s hs (hom.trans hm.symm) trivial trivial
  rw [hos] at hoe hog
  refine ⟨⟨hoe.symm, hog.symm⟩, ?_, ?_⟩
  · intro e he
    rw [hoe, hog]
    exact h.not_signing hc he
  · intro d hd hdl
    have hfree := h.unclaimed c hc (by rw [hl]; nofun) d hd
    have hlease := h.leases d hd hdl
    have hnamed : ∀ {g}, Names db.secrets d.endpointId g s.materialId →
        d.endpointId = c.endpointId ∧ g = some c.generation := by
      rintro _ ⟨x, hx, hxe, rfl, hxm⟩
      rw [h.materials x hx s hs hxm trivial trivial] at hxe ⊢
      exact ⟨hxe.symm.trans hoe, congrArg some hog⟩
    constructor
    · intro hclaim
      obtain ⟨hde, hg⟩ := hnamed (hlease.current _ hclaim)
      exact hfree ⟨hde, hdl, .inl hg⟩
    · intro hclaim
      obtain ⟨hde, hg⟩ := hnamed (hlease.overlap _ hclaim)
      exact hfree ⟨hde, hdl, .inr hg⟩

/-- In every run of calls that neither delete a project nor work on signing keys, whose database
clock never goes back and whose disables respect the overlaps they end: the material of a secret is
erased only when its generation is neither the current one nor the overlap of an endpoint, no leased
delivery claims it, and every overlap it served as has expired. -/
theorem secrets_outlive_their_use {db : Database} (start : SecretsSound db) (calls : List Call)
    (clock : (calls.map fun call => call.env.databaseClock).Pairwise (· ≤ ·))
    (begun : ∀ call ∈ calls, DueBy call.env.databaseClock db)
    (keeps : ∀ call ∈ calls, call.keepsMaterials)
    (respects : Along step OverlapRespected db calls) :
    ∀ pre call post, calls = pre ++ call :: post → ∀ m, Erases call (run db pre) m →
      ∀ s ∈ (run db pre).secrets, s.materialId = m.id →
        (∀ e ∈ (run db pre).endpoints, ¬ SignsWith s.endpointId s.generation e)
          ∧ (∀ d ∈ (run db pre).deliveries, d.state = .leased →
              d.claimedSecretMaterialId ≠ some m.id ∧ d.claimedOverlapMaterialId ≠ some m.id)
          ∧ ∀ early late, pre = early ++ late → ∀ e ∈ (run db early).endpoints, ∀ expiry,
              OverlapUntil s.endpointId s.generation expiry e →
                expiry ≤ call.env.databaseClock := by
  rintro pre call post rfl m ⟨hm, hstate, _, hm', hid, herased⟩ s hs hsm
  -- every call before is one that the invariant rules cover
  have hbefore : ∀ c ∈ pre, c.env.databaseClock ≤ call.env.databaseClock := by
    intro c hc
    rw [List.map_append, List.pairwise_append] at clock
    exact clock.2.2 _ (List.mem_map.mpr ⟨c, hc, rfl⟩) _ (List.mem_map.mpr ⟨call, by simp, rfl⟩)
  have hrespects := ((along_append step OverlapRespected db pre (call :: post)).mp respects).1
  have hpre : Along step (CallRespects call.env.databaseClock) db pre := by
    refine along_of_mem step hrespects ?_
    intro s c hc hr
    exact ⟨keeps c (List.mem_append.mpr (.inl hc)), hr, hbefore c hc⟩
  have hsound := run_secretsSound start hpre
  have hdue := run_secrets (fun _ _ _ hdue hc hstep => hstep.dueBy hc.2.2 hdue) start
    (begun call (by simp)) hpre
  obtain ⟨c, hc, hl, hcm⟩ := step_erases call (keeps call (by simp)) hm hstate hm' hid herased
  obtain ⟨⟨hce, hcg⟩, hsign, hclaim⟩ := hsound.unused hc hl hs (hsm.trans hcm.symm)
  rw [← hsm]
  refine ⟨hsign, hclaim, ?_⟩
  rintro early late rfl e he expiry hT
  obtain ⟨hearly, hlate⟩ := (along_append step _ db early late).mp hpre
  have hserved := run_secrets (Q := ServedUntil _ _ expiry)
    (fun _ _ hdb hs _ hstep => hstep.served hdb hs) (run_secretsSound start hearly)
    (.inl ⟨e, he, hT⟩) hlate
  rw [← run_append] at hserved
  rcases hserved with ⟨o, ho, hTo⟩ | ⟨_, hwait⟩
  · exact absurd ⟨hTo.1, .inr hTo.2.1⟩ (hsign o ho)
  · exact le_trans (hwait c hc hce hcg) (hdue c hc hl)

/-! ## a disable in the middle of an overlap -/

namespace Demo

def secretMaterialRow (id : Uuid) (generation : Int) : ProtectedMaterial :=
  ⟨id, some 1, .webhookSecret, 20, generation, .configurationSecret, "local", 1, some [1], some 1,
    .live, none⟩

def overlapping : Database :=
  { start with
    endpoints := .single { endpoint with
      currentSecretGeneration := some 2
      overlapSecretGeneration := some 1
      overlapExpiresAt := some (hours 1) }
    secrets := ⟨[{ secret with state := .overlap },
      { secret with generation := 2, idempotencyKey := "second", materialId := 92 }], by decide⟩
    materials := ⟨[secretMaterialRow 91 1, secretMaterialRow 92 2], by decide⟩ }

def workerAt (now : Instant) (o : WebhookOp) : Call :=
  ⟨{ env with databaseClock := now }, .webhook o⟩

/-- the endpoint is disabled after ten minutes, by a replica whose clock shows `now` -/
def disableEndpointAt (now : Instant) : Call :=
  workerAt (minutes 10) (.disableEndpoint ⟨⟨1, 2, 20⟩, 2, now⟩)

def claimErasure (now : Instant) : Call := workerAt now (.claimSecretCleanup ⟨"worker", 40, 600⟩)

def finishErasure (now : Instant) : Call :=
  workerAt now (.finishSecretCleanup ⟨⟨501, 91, "worker", 40, 1⟩, now⟩)

end Demo

theorem Demo.overlapping_sound : SecretsSound overlapping := by
  refine ⟨?_, ?_, ?_, ?_, ?_⟩
  · intro e he
    rw [List.mem_singleton.mp he]
    refine ⟨nofun, ?_, ?_⟩
    · rintro g ⟨⟩
      exact ⟨_, List.mem_cons_of_mem _ List.mem_cons_self, rfl, rfl, rfl⟩
    · rintro g ⟨⟩
      exact ⟨_, List.mem_cons_self, rfl, rfl, rfl⟩
  · intro a ha b hb hab _ _
    rcases List.mem_cons.mp ha with rfl | ha <;> rcases List.mem_cons.mp hb with rfl | hb
    · rfl
    · rw [List.mem_singleton.mp hb] at hab; cases hab
    · rw [List.mem_singleton.mp ha] at hab; cases hab
    · rw [List.mem_singleton.mp ha, List.mem_singleton.mp hb]
  · intro c hc; exact absurd hc (not_mem_empty c)
  · intro d hd; exact absurd hd (not_mem_empty d)
  · intro c hc; exact absurd hc (not_mem_empty c)

def Demo.ErasesOverlap (pre : List Call) (call : Call) : Prop :=
  ∃ m, Erases call (run overlapping pre) m ∧ m.id = 91
    ∧ ∃ s ∈ (run overlapping pre).secrets, s.materialId = m.id ∧ s.endpointId = 20
      ∧ s.generation = 1

theorem Demo.erasesOverlap_of {pre call} (hbefore : ((run overlapping pre).materials.find? fun m =>
      m.id = 91 ∧ m.state ≠ .erased).isSome = true)
    (hafter : ((step call (run overlapping pre)).materials.find? fun m =>
      m.id = 91 ∧ m.state = .erased).isSome = true)
    (hsecret : ((run overlapping pre).secrets.find? fun s =>
      s.materialId = 91 ∧ s.endpointId = 20 ∧ s.generation = 1).isSome = true) :
    ErasesOverlap pre call := by
  obtain ⟨m, hm⟩ := Option.isSome_iff_exists.mp hbefore
  obtain ⟨m', hm'⟩ := Option.isSome_iff_exists.mp hafter
  obtain ⟨s, hs⟩ := Option.isSome_iff_exists.mp hsecret
  obtain ⟨hm, hid, hstate⟩ := find?_some hm
  obtain ⟨hm', hid', herased⟩ := find?_some hm'
  obtain ⟨hs, hsm, hplace⟩ := find?_some hs
  exact ⟨m, ⟨hm, hstate, m', hm', hid'.trans hid.symm, herased⟩, hid, s, hs, hsm.trans hid.symm,
    hplace⟩

/-- A replica whose clock is two hours ahead disables the endpoint: the secret that overlaps until
the end of the hour is erased after twelve minutes. -/
theorem overlap_secret_erased_early :
    (∃ e ∈ Demo.overlapping.endpoints, OverlapUntil 20 1 (hours 1) e)
      ∧ ErasesOverlap [disableEndpointAt (hours 2), claimErasure (minutes 11)]
          (finishErasure (minutes 12))
      ∧ (finishErasure (minutes 12)).env.databaseClock < hours 1 := by
  refine ⟨⟨_, List.mem_singleton.mpr rfl, rfl, rfl, rfl⟩, ?_, by decide⟩
  exact erasesOverlap_of (by decide +kernel) (by decide +kernel) (by decide +kernel)

/-- By a clock that agrees with the database, the same disable leaves the secret to the end of the
hour; it is erased then. -/
theorem overlap_secret_erased_in_time :
    ∃ (m : ProtectedMaterial) (s : WebhookSecretGeneration),
      Erases (finishErasure (minutes 62)) (run Demo.overlapping
        [disableEndpointAt (minutes 10), claimErasure (minutes 61)]) m
      ∧ s.materialId = m.id
      ∧ (∀ e ∈ (run Demo.overlapping
          [disableEndpointAt (minutes 10), claimErasure (minutes 61)]).endpoints,
        ¬ SignsWith s.endpointId s.generation e)
      ∧ hours 1 ≤ (finishErasure (minutes 62)).env.databaseClock := by
  obtain ⟨m, herases, hid, s, hs, hsm, hse, hsg⟩ : ErasesOverlap
      [disableEndpointAt (minutes 10), claimErasure (minutes 61)]
      (finishErasure (minutes 62)) :=
    erasesOverlap_of (by decide +kernel) (by decide +kernel) (by decide +kernel)
  have hrespects : Along step OverlapRespected Demo.overlapping
      [disableEndpointAt (minutes 10), claimErasure (minutes 61), finishErasure (minutes 62)] := by
    refine ⟨?_, nofun, nofun, trivial⟩
    rintro target ⟨⟩ e he _ _ expiry hexp hle
    exact hle
  obtain ⟨hsign, _, hserved⟩ := secrets_outlive_their_use overlapping_sound
    [disableEndpointAt (minutes 10), claimErasure (minutes 61),
      finishErasure (minutes 62)] (by decide)
    (fun _ _ c hc => absurd hc (not_mem_empty c)) (by simp [Call.keepsMaterials,
      disableEndpointAt, claimErasure, finishErasure, workerAt]) hrespects
    [disableEndpointAt (minutes 10), claimErasure (minutes 61)] _ [] rfl m herases s hs hsm
  refine ⟨m, s, herases, hsm, hsign, hserved [] _ rfl _ (List.mem_singleton.mpr rfl) (hours 1) ?_⟩
  rw [hse, hsg]
  exact ⟨rfl, rfl, rfl⟩

end OwlAuth
