import OwlAuth.Base.Unique
import OwlAuth.System.Calls

/-!
# Key rings over whole runs

Every call leaves the rings and keys alone or takes one `SigningStep` on them (`step_keyStore`).
From that:

* `KeyStore.Sound`  every key has its ring, a ring has at most one active key and a project at
    most one candidate; kept by every call;
* `StatesCounted`  a key that changes its state takes the revision of its ring one further;
* `ActiveFenced`  which key is active is fenced by the signing epoch of the ring;
* `tokenCaptures`, `tokenCommits`  the key and epoch a preparation captured, and those a committed
    exchange or rotation signed under.
-/

namespace OwlAuth

open Fallible Table Demo
open Fence (Fenced)

structure KeyStore where
  rings : Table KeyRing
  keys : Table SigningKey

def Database.keyStore (db : Database) : KeyStore := ⟨db.rings, db.keys⟩

theorem step_keyStore (call db) :
    ∃ db₁, SigningStep call.env db db₁ ∧ (step call db).keyStore = db₁.keyStore := by
  have hr := step_only call db
  obtain ⟨env, op⟩ := call
  cases op with
  | signing o => exact ⟨o.step env db, o.step_signing env db, rfl⟩
  | _ => exact ⟨db, .refl env db, (congrArg Database.keyStore hr :)⟩

/-! ## at most one active key, at most one candidate -/

structure KeyStore.Sound (s : KeyStore) : Prop where
  owned : ∀ k ∈ s.keys, ∃ r ∈ s.rings, r.id = k.ringId ∧ r.projectId = k.projectId
  oneActive : s.keys.AtMostOne (fun k => k.state = .active) SigningKey.ringId
  oneCandidate : s.keys.AtMostOne (fun k => k.state.candidate) SigningKey.projectId

variable {rings' : Table KeyRing} {ring' : KeyRing} {db db' : Database} {s u : KeyStore}
  {now : Instant}

theorem owned_set {rings : Table KeyRing} {keys : Table SigningKey} {key key' : SigningKey}
    (h : ∀ k ∈ keys, ∃ r ∈ rings, r.id = k.ringId ∧ r.projectId = k.projectId)
    (hrings : ∀ r ∈ rings, ∃ r' ∈ rings', r'.id = r.id ∧ r'.projectId = r.projectId)
    (hkey : key ∈ keys) (hid : key'.id = key.id) (hring : key'.ringId = key.ringId)
    (hproject : key'.projectId = key.projectId) :
    ∀ k ∈ keys.set key', ∃ r ∈ rings', r.id = k.ringId ∧ r.projectId = k.projectId := by
  have lift : ∀ k ∈ keys, ∃ r ∈ rings', r.id = k.ringId ∧ r.projectId = k.projectId := by
    intro k hk
    obtain ⟨r, hr, hrid, hrp⟩ := h k hk
    obtain ⟨r', hr', hid', hp'⟩ := hrings r hr
    exact ⟨r', hr', hid'.trans hrid, hp'.trans hrp⟩
  intro k hk
  rcases (mem_set_of (r := key') hkey hid).mp hk with ⟨hk, _⟩ | rfl
  · exact lift k hk
  · rw [hring, hproject]; exact lift key hkey

theorem set_ring_kept {rings : Table KeyRing} {ring : KeyRing} (hring : ring ∈ rings)
    (hid : ring'.id = ring.id) (hp : ring'.projectId = ring.projectId) :
    ∀ r ∈ rings, ∃ r' ∈ rings.set ring', r'.id = r.id ∧ r'.projectId = r.projectId := by
  intro r hr
  by_cases he : r = ring
  · exact ⟨ring', mem_set_self ring' hring hid, he ▸ hid, he ▸ hp⟩
  · exact ⟨r, (mem_set_of (r := ring') hring hid).mpr (.inl ⟨hr, he⟩), rfl, rfl⟩

theorem demotedKeys_ok (env) (h : db.keyStore.Sound) {ring} (hring : ring ∈ db.rings) :
    (∀ k ∈ demotedKeys env db ring, k.ringId = ring.id → k.state ≠ .active)
      ∧ (∀ k ∈ demotedKeys env db ring, (k ∈ db.keys) ∨
          ∃ old ∈ db.keys, old.ringId = ring.id ∧ old.state = .active
            ∧ k = retiringKey env old (ring.revision + 1))
      ∧ ∀ k ∈ db.keys, (k.ringId = ring.id ∧ k.state = .active) ∨ k ∈ demotedKeys env db ring := by
  unfold demotedKeys
  split
  · rename_i old hold
    obtain ⟨hold, hop, hor, hoa⟩ := find?_some hold
    have hkey : Keyed.key (retiringKey env old (ring.revision + 1)) = Keyed.key old := rfl
    refine ⟨?_, ?_, ?_⟩
    · intro k hk hkr ha
      rcases (mem_set_of hold hkey).mp hk with ⟨hk, hne⟩ | rfl
      · exact hne (h.oneActive k hk old hold (hkr.trans hor.symm) ha hoa)
      · cases ha
    · intro k hk
      rcases (mem_set_of hold hkey).mp hk with ⟨hk, _⟩ | rfl
      · exact .inl hk
      · exact .inr ⟨old, hold, hor, hoa, rfl⟩
    · intro k hk
      by_cases he : k = old
      · exact .inl (by rw [he]; exact ⟨hor, hoa⟩)
      · exact .inr ((mem_set_of hold hkey).mpr (.inl ⟨hk, he⟩))
  · rename_i hnone
    refine ⟨fun k hk hkr ha => ?_, fun k hk => .inl hk, fun k hk => .inr hk⟩
    obtain ⟨r, hr, hrid, hrp⟩ := h.owned k hk
    have he : r = ring := eq_of_key hr hring (hrid.trans hkr)
    exact find?_none hnone hk ⟨by rw [← hrp, he], hkr, ha⟩

/-- the demoted key leaves whatever a retiring key is not part of -/
theorem demotedKeys_atMostOne {env ring} {γ : Type}
    {P : SigningKey → Prop} {g : SigningKey → γ} (h : db.keys.AtMostOne P g)
    (hP : ∀ old revision, ¬ P (retiringKey env old revision)) :
    (demotedKeys env db ring).AtMostOne P g := by
  unfold demotedKeys
  split
  · rename_i old hold
    exact h.set_of_not (find?_some hold).1 rfl (hP old _)
  · exact h

theorem demotedKeys_owned {env} (h : db.keyStore.Sound) {ring} :
    ∀ k ∈ demotedKeys env db ring, ∃ r ∈ db.rings, r.id = k.ringId ∧ r.projectId = k.projectId := by
  unfold demotedKeys
  split
  · rename_i old hold
    exact owned_set h.owned (fun r hr => ⟨r, hr, rfl, rfl⟩) (find?_some hold).1 rfl rfl rfl
  · exact h.owned

theorem RingReady.kept {ring rings} (h : RingReady db ring rings) :
    ring ∈ rings ∧ ∀ r ∈ db.rings, r ∈ rings := by
  rcases h with ⟨rfl, hr⟩ | hi
  · exact ⟨hr, fun r h => h⟩
  · exact ⟨(mem_insert hi).mpr (.inr rfl), fun r h => (mem_insert hi).mpr (.inl h)⟩

theorem SigningStep.sound {env} (h : SigningStep env db db') (hdb : db.keyStore.Sound) :
    db'.keyStore.Sound := by
  cases h with
  | operated operations materials => exact ⟨hdb.owned, hdb.oneActive, hdb.oneCandidate⟩
  | prepared ring key rings keys _ _ ready inserted ringId projectId state free =>
    obtain ⟨hring, hrings⟩ := ready.kept
    refine ⟨?_, ?_, ?_⟩
    · intro k hk
      rcases (mem_insert inserted).mp hk with hk | rfl
      · obtain ⟨r, hr, hrid, hrp⟩ := hdb.owned k hk
        exact ⟨r, hrings r hr, hrid, hrp⟩
      · exact ⟨ring, hring, ringId.symm, projectId.symm⟩
    · refine hdb.oneActive.insert inserted (fun hactive => ?_)
      rw [state] at hactive
      cases hactive
    · refine hdb.oneCandidate.insert inserted (fun _ k hk hkp hc => ?_)
      exact free k hk ⟨hkp, hc⟩
  | described key key' _ _ mem same state =>
    refine ⟨?_, ?_, ?_⟩
    · exact owned_set hdb.owned (fun r hr => ⟨r, hr, rfl, rfl⟩) mem same.id same.ringId
        same.projectId
    · exact hdb.oneActive.set_of_imp mem same.id (fun hs => state.symm.trans hs) same.ringId
    · exact hdb.oneCandidate.set_of_imp mem same.id (fun hs => by rw [← state]; exact hs)
        same.projectId
  | moved ring key key' epoch _ _ here move later noticed =>
    refine ⟨?_, ?_, ?_⟩
    · exact owned_set hdb.owned (set_ring_kept here.ringMem rfl rfl) here.keyMem move.same.id
        move.same.ringId move.same.projectId
    · exact hdb.oneActive.set_of_not here.keyMem move.same.id move.notActive
    · exact hdb.oneCandidate.set_of_imp here.keyMem move.same.id
        (KeyState.candidate_of_transition move.allowed) move.same.projectId
  | activated ring candidate here state =>
    obtain ⟨hfree, _, hkept⟩ := demotedKeys_ok env hdb here.ringMem
    have hmem : candidate ∈ demotedKeys env db ring := by
      refine (hkept candidate here.keyMem).resolve_left (fun hc => ?_)
      rw [state] at hc
      cases hc.2
    refine ⟨?_, ?_, ?_⟩
    · exact owned_set (demotedKeys_owned hdb) (set_ring_kept here.ringMem rfl rfl) hmem rfl rfl rfl
    · refine (demotedKeys_atMostOne hdb.oneActive (fun _ _ h => nomatch h)).set hmem rfl ?_
      intro _ k hk _ hkr
      exact hfree k hk (hkr.trans here.ringId)
    · exact (demotedKeys_atMostOne hdb.oneCandidate (fun _ _ h => nomatch h)).set_of_not hmem rfl
        (fun h => nomatch h)

theorem step_keyStore_sound (call) (h : db.keyStore.Sound) : (step call db).keyStore.Sound := by
  obtain ⟨_, hstep, he⟩ := step_keyStore call db
  rw [he]
  exact hstep.sound h

theorem run_keyStore_sound (h : db.keyStore.Sound) (calls) : (run db calls).keyStore.Sound :=
  Machine.run_inv step (I := fun db => db.keyStore.Sound)
    (fun _ call hdb => step_keyStore_sound call hdb) calls h

/-! ## what a step counts and what it fences -/

def KeyStore.ActiveIn (s : KeyStore) (ringId keyId : Uuid) : Prop :=
  ∃ k ∈ s.keys, k.id = keyId ∧ k.ringId = ringId ∧ k.state = .active

/-- a key that changed its state took the revision of its ring exactly one further -/
def StatesCounted (s s' : KeyStore) : Prop :=
  ∀ k ∈ s.keys, ∀ k' ∈ s'.keys, k'.id = k.id → k'.state ≠ k.state →
    ∃ r ∈ s.rings, ∃ r' ∈ s'.rings, r.id = k.ringId ∧ r'.id = k.ringId
      ∧ r'.revision = r.revision + 1

/-- no ring is lost, and which key is active in it is fenced by its signing epoch -/
def ActiveFenced (s s' : KeyStore) : Prop :=
  ∀ r ∈ s.rings, ∃ r' ∈ s'.rings, r'.id = r.id ∧ r'.projectId = r.projectId
    ∧ Fenced (fun p : KeyStore × KeyRing => p.2.signingEpoch)
        (fun p : KeyStore × KeyRing => p.1.ActiveIn p.2.id) (s, r) (s', r')

theorem activeIn_set {rings keys key}
    (key' : SigningKey) (hkey : key ∈ keys) (hid : key'.id = key.id)
    (hring : key'.ringId = key.ringId) {ringId}
    (h : key.ringId = ringId → (key'.state = .active ↔ key.state = .active)) :
    KeyStore.ActiveIn ⟨rings', keys.set key'⟩ ringId = KeyStore.ActiveIn ⟨rings, keys⟩ ringId := by
  funext keyId
  apply propext
  constructor
  · rintro ⟨k, hk, hkid, hkr, ha⟩
    rcases (mem_set_of (r := key') hkey hid).mp hk with ⟨hk, _⟩ | rfl
    · exact ⟨k, hk, hkid, hkr, ha⟩
    · exact ⟨key, hkey, hid.symm.trans hkid, hring.symm.trans hkr, (h (hring.symm.trans hkr)).mp ha⟩
  · rintro ⟨k, hk, hkid, hkr, ha⟩
    by_cases he : k = key
    · rw [he] at hkid hkr ha
      exact ⟨key', mem_set_self key' hkey hid, hid.trans hkid, hring.trans hkr, (h hkr).mpr ha⟩
    · exact ⟨k, (mem_set_of (r := key') hkey hid).mpr (.inl ⟨hk, he⟩), hkid, hkr, ha⟩

theorem activeFenced_set {keys ring} (hring : ring ∈ s.rings)
    (hid : ring'.id = ring.id) (hp : ring'.projectId = ring.projectId)
    (hself : Fenced (fun p : KeyStore × KeyRing => p.2.signingEpoch)
      (fun p : KeyStore × KeyRing => p.1.ActiveIn p.2.id) (s, ring) (⟨s.rings.set ring', keys⟩, ring'))
    (hother : ∀ ringId, ringId ≠ ring.id →
      KeyStore.ActiveIn ⟨s.rings.set ring', keys⟩ ringId = s.ActiveIn ringId) :
    ActiveFenced s ⟨s.rings.set ring', keys⟩ := by
  intro r hr
  by_cases he : r = ring
  · rw [he]
    exact ⟨ring', mem_set_self ring' hring hid, hid, hp, hself⟩
  · have hne : r.id ≠ ring.id := fun h => he (eq_of_key hr hring h)
    exact ⟨r, (mem_set_of (r := ring') hring hid).mpr (.inl ⟨hr, he⟩), rfl, rfl,
      .of_view (Int.le_refl _) (hother r.id hne)⟩

theorem SigningStep.statesCounted {env} (h : SigningStep env db db')
    (hdb : db.keyStore.Sound) : StatesCounted db.keyStore db'.keyStore := by
  intro k hk k' hk' hid hne
  -- a row that was there before is the row itself
  have same : k' ∉ db.keys := fun h => hne (by rw [eq_of_key h hk hid])
  cases h with
  | operated operations materials => exact absurd hk' same
  | prepared ring key rings keys _ _ ready inserted _ _ _ _ =>
    rcases (mem_insert inserted).mp hk' with h | rfl
    · exact absurd h same
    · exact absurd hid.symm ((insert_some inserted).1 k hk)
  | described key key' _ _ mem hsame state =>
    rcases (mem_set_of (r := key') mem hsame.id).mp hk' with ⟨h, _⟩ | rfl
    · exact absurd h same
    · have he : k = key := eq_of_key hk mem (hid.symm.trans hsame.id)
      exact absurd state (by rw [← he]; exact hne)
  | moved ring key key' epoch _ _ here move _ _ =>
    rcases (mem_set_of (r := key') here.keyMem move.same.id).mp hk' with ⟨h, _⟩ | rfl
    · exact absurd h same
    · have he : k = key := eq_of_key hk here.keyMem (hid.symm.trans move.same.id)
      rw [he]
      exact ⟨ring, here.ringMem, { ring with revision := ring.revision + 1, signingEpoch := epoch },
        mem_set_self _ here.ringMem rfl, here.ringId.symm, here.ringId.symm, rfl⟩
  | activated ring candidate here state =>
    have counted : k.ringId = ring.id → ∃ r ∈ db.keyStore.rings,
        ∃ r' ∈ db.rings.set (advancedRing ring), r.id = k.ringId ∧ r'.id = k.ringId
          ∧ r'.revision = r.revision + 1 :=
      fun hkr => ⟨ring, here.ringMem, advancedRing ring, mem_set_self _ here.ringMem rfl,
        hkr.symm, hkr.symm, rfl⟩
    obtain ⟨_, hfrom, _⟩ := demotedKeys_ok env hdb here.ringMem
    rcases mem_set.mp hk' with ⟨h, _⟩ | ⟨rfl, _⟩
    · rcases hfrom k' h with h | ⟨old, hold, hor, _, rfl⟩
      · exact absurd h same
      · have he : k = old := eq_of_key hk hold hid.symm
        exact counted (by rw [he]; exact hor)
    · have he : k = candidate := eq_of_key hk here.keyMem hid.symm
      exact counted (by rw [he]; exact here.ringId)

theorem SigningStep.activeFenced {env} (h : SigningStep env db db')
    (hdb : db.keyStore.Sound) : ActiveFenced db.keyStore db'.keyStore := by
  cases h with
  | operated operations materials =>
    intro r hr
    exact ⟨r, hr, rfl, rfl, .of_view (Int.le_refl _) rfl⟩
  | prepared ring key rings keys _ _ ready inserted _ _ state _ =>
    intro r hr
    refine ⟨r, ready.kept.2 r hr, rfl, rfl, .of_view (Int.le_refl _) ?_⟩
    funext keyId
    apply propext
    constructor
    · rintro ⟨k, hk, hkid, hkr, ha⟩
      rcases (mem_insert inserted).mp hk with hk | rfl
      · exact ⟨k, hk, hkid, hkr, ha⟩
      · rw [state] at ha; cases ha
    · rintro ⟨k, hk, hrest⟩
      exact ⟨k, (mem_insert inserted).mpr (.inl hk), hrest⟩
  | described key key' _ _ mem same state =>
    intro r hr
    refine ⟨r, hr, rfl, rfl, .of_view (Int.le_refl _) ?_⟩
    exact activeIn_set key' mem same.id same.ringId (fun _ => by rw [state])
  | moved ring key key' epoch _ _ here move later noticed =>
    refine activeFenced_set here.ringMem rfl rfl ?_ ?_
    · by_cases hp : key.state = .provisioning
      · refine .of_view later (activeIn_set key' here.keyMem move.same.id move.same.ringId ?_)
        intro _
        exact ⟨fun ha => absurd ha move.notActive, fun ha => by rw [hp] at ha; cases ha⟩
      · exact .of_lt (noticed hp)
    · intro ringId hne
      exact activeIn_set key' here.keyMem move.same.id move.same.ringId
        (fun h => absurd (h.symm.trans here.ringId) hne)
  | activated ring candidate here state =>
    refine activeFenced_set here.ringMem rfl rfl (.of_lt (Int.lt_succ _)) ?_
    intro ringId hne
    obtain ⟨_, _, hkept⟩ := demotedKeys_ok env hdb here.ringMem
    have hmem : candidate ∈ demotedKeys env db ring := by
      refine (hkept candidate here.keyMem).resolve_left (fun hc => ?_)
      rw [state] at hc
      cases hc.2
    have hset : KeyStore.ActiveIn ⟨db.rings.set (advancedRing ring), (demotedKeys env db ring).set
          (activatedKey env.databaseClock candidate (ring.revision + 1))⟩ ringId
        = KeyStore.ActiveIn ⟨db.rings, demotedKeys env db ring⟩ ringId :=
      activeIn_set (activatedKey env.databaseClock candidate (ring.revision + 1)) hmem rfl rfl
        (fun h => absurd (h.symm.trans here.ringId) hne)
    refine hset.trans ?_
    unfold demotedKeys
    split
    · rename_i old hold
      obtain ⟨hold, _, hor, _⟩ := find?_some hold
      exact activeIn_set (retiringKey env old (ring.revision + 1)) hold rfl rfl
        (fun h => absurd (h.symm.trans hor) hne)
    · rfl

theorem ActiveFenced.trans {t} (h : ActiveFenced s t) (h' : ActiveFenced t u) :
    ActiveFenced s u := by
  intro r hr
  obtain ⟨r', hr', hid, hp, hf⟩ := h r hr
  obtain ⟨r'', hr'', hid', hp', hf'⟩ := h' r' hr'
  exact ⟨r'', hr'', hid'.trans hid, hp'.trans hp, hf.trans hf'⟩

theorem step_activeFenced (call) (h : db.keyStore.Sound) :
    ActiveFenced db.keyStore (step call db).keyStore := by
  obtain ⟨_, hstep, he⟩ := step_keyStore call db
  rw [he]
  exact hstep.activeFenced h

theorem run_activeFenced (h : db.keyStore.Sound) (calls) :
    ActiveFenced db.keyStore (run db calls).keyStore :=
  Machine.run_rel step (I := fun db => db.keyStore.Sound)
    (R := fun db db' => ActiveFenced db.keyStore db'.keyStore)
    (fun _ r hr => ⟨r, hr, rfl, rfl, .refl _⟩) (fun _ _ _ h h' => h.trans h')
    (fun _ call hdb => step_keyStore_sound call hdb) (fun _ call hdb => step_activeFenced call hdb)
    calls h

/-! ## tokens -/

structure TokenKey where
  (projectId ringId keyId : Uuid)
  epoch : Int
  deriving DecidableEq

/-- the ring is at the epoch and the key is its active one -/
def KeyStore.Holds (s : KeyStore) (t : TokenKey) : Prop :=
  ∃ r ∈ s.rings, r.id = t.ringId ∧ r.projectId = t.projectId ∧ r.signingEpoch = t.epoch
    ∧ s.ActiveIn t.ringId t.keyId

def TokenPreparation.tokenKey (p : TokenPreparation) (projectId : Uuid) : TokenKey :=
  ⟨projectId, p.signingRingId, p.signingKeyId, p.signingEpoch⟩

def tokenCaptures (call : Call) (db : Database) : List TokenKey :=
  match call.op with
  | .session (.prepareHandoffExchange c) =>
    match answer (prepareHandoffExchange call.env c db) with
    | .ok p => [p.tokenKey c.projectId]
    | .error _ => []
  | .session (.prepareRefreshRotation c) =>
    match answer (prepareRefreshRotation call.env c db) with
    | .ok (.ready p) => [p.tokenKey c.projectId]
    | _ => []
  | _ => []

/-- what comes of the exchange or the rotation a call commits -/
def commitsOf {α : Type} (exchanged : CommitHandoffExchange → α) (rotated : RotateRefreshToken → α)
    (call : Call) (db : Database) : List α :=
  match call.op with
  | .session (.commitHandoffExchange c) =>
    match answer (commitHandoffExchange call.env c db) with
    | .ok _ => [exchanged c]
    | .error _ => []
  | .session (.rotateRefreshToken c) =>
    match answer (rotateRefreshToken call.env c db) with
    | .ok (.rotated ..) => [rotated c]
    | _ => []
  | _ => []

/-- a committed token was signed under what its preparation says -/
def tokenCommits : Call → Database → List TokenKey :=
  commitsOf (fun c => c.preparation.tokenKey c.projectId) fun c => c.preparation.tokenKey c.projectId

theorem TokenPreparation.Captures.holds {p : TokenPreparation} {projectId}
    (h : p.Captures db projectId now) : db.keyStore.Holds (p.tokenKey projectId) := by
  obtain ⟨signing, h, hrid, hkid, hep⟩ := h
  obtain ⟨ring, hr, key, hk, _, _, h⟩ := peel₃ h
  cases h
  obtain ⟨hring, hp, _⟩ := find_ok hr
  obtain ⟨hkey, _, hkr, hks⟩ := first?_some (require_ok.mp hk)
  exact ⟨ring, hring, hrid.symm, hp, hep.symm, key, hkey, hkid.symm, hkr.trans hrid.symm, hks⟩

theorem holds_of_lock {projectId ringId keyId epoch u}
    (h : lockSigningEpoch db projectId ringId keyId epoch now = .ok u) :
    db.keyStore.Holds ⟨projectId, ringId, keyId, epoch⟩ := by
  obtain ⟨ring, hr, key, hk, h⟩ := peel₂ h
  obtain ⟨hring, hid, hp⟩ := find_ok hr
  obtain ⟨hkey, hkid, _, hkr⟩ := find_ok hk
  obtain ⟨he, _, _, hks, _⟩ := ensure_ok.mp h
  exact ⟨ring, hring, hid, hp, he, key, hkey, hkid, hkr, hks⟩

variable {t : TokenKey}

theorem tokenCaptures_hold {call} (h : t ∈ tokenCaptures call db) : db.keyStore.Holds t := by
  unfold tokenCaptures at h
  split at h
  · split at h
    · rename_i c _ p hanswer
      obtain ⟨db', hbody⟩ := answer_ok hanswer
      obtain ⟨_, _, _, _, _, _, p', hreply, _, _, _, _, _, _, _, _, hcaptures⟩ :=
        prepareHandoffExchange_ok hbody
      cases hreply
      rw [List.mem_singleton.mp h]
      exact hcaptures.holds
    · cases h
  · split at h
    · rename_i c _ p hanswer
      obtain ⟨db', hbody⟩ := answer_ok hanswer
      obtain ⟨route, _, ⟨_, hr⟩ | ⟨_, hbody⟩⟩ := prepareRefreshRotation_ok hbody
      · cases hr
      · obtain ⟨_, _, _, _, _, _, _, _, _, _, _, _, _, hcaptures, _, _, hdone⟩ :=
          prepareCurrentGeneration_ok hbody
        cases hdone
        rw [List.mem_singleton.mp h]
        exact hcaptures.holds
    · cases h
  · cases h

theorem commitsOf_accepted {α : Type} {exchanged rotated call} {a : α}
    (h : a ∈ commitsOf exchanged rotated call db) :
    (∃ c ticket login owners, call.op = .session (.commitHandoffExchange c) ∧ a = exchanged c
        ∧ ExchangeAccepted db c ticket login owners)
      ∨ ∃ c route project application user policy, call.op = .session (.rotateRefreshToken c)
        ∧ a = rotated c ∧ RotationAccepted db c route project application user policy := by
  unfold commitsOf at h
  split at h
  · rename_i c hop
    split at h
    · rename_i hanswer
      obtain ⟨_, hbody⟩ := answer_ok hanswer
      rcases commitHandoffExchange_ok hbody with ⟨_, _, _, hr⟩ | ⟨ticket, login, owners, _, _, _, _,
        _, _, _, haccepted, _⟩
      · cases hr
      · exact .inl ⟨c, ticket, login, owners, hop, List.mem_singleton.mp h, haccepted⟩
    · cases h
  · rename_i c hop
    split at h
    · rename_i hanswer
      obtain ⟨_, hbody⟩ := answer_ok hanswer
      obtain ⟨route, _, _, _, ⟨_, hr⟩ | ⟨_, hbody⟩⟩ := rotateRefreshToken_ok hbody
      · cases hr
      · obtain ⟨project, application, user, policy, _, haccepted, _⟩ :=
          rotateCurrentGeneration_ok hbody
        exact .inr ⟨c, route, project, application, user, policy, hop, List.mem_singleton.mp h,
          haccepted⟩
    · cases h
  · cases h

theorem tokenCommits_hold {call} (h : t ∈ tokenCommits call db) : db.keyStore.Holds t := by
  rcases commitsOf_accepted h with ⟨_, _, _, _, _, rfl, hc⟩ | ⟨_, _, _, _, _, _, _, rfl, hc⟩
  · exact holds_of_lock hc.signing
  · exact holds_of_lock hc.signing

theorem KeyStore.Holds.between {m} (hs : s.Holds t) (hsm : ActiveFenced s m)
    (hmu : ActiveFenced m u) (hu : u.Holds t) : m.Holds t := by
  obtain ⟨r, hr, hid, hp, he, hactive⟩ := hs
  obtain ⟨rm, hrm, hidm, hpm, hfm⟩ := hsm r hr
  obtain ⟨ru, hru, hidu, _, hfu⟩ := hmu rm hrm
  obtain ⟨ru', hru', hid', _, he', _⟩ := hu
  have hsame : ru = ru' := eq_of_key hru hru' (hidu.trans (hidm.trans (hid.trans hid'.symm)))
  have hepoch : ru.signingEpoch = r.signingEpoch := by rw [hsame, he', he]
  obtain ⟨hem, hview⟩ := hfm.between hfu hepoch
  refine ⟨rm, hrm, hidm.trans hid, hpm.trans hp, hem.trans he, ?_⟩
  have hview' : m.ActiveIn rm.id t.keyId = s.ActiveIn r.id t.keyId := congrFun hview t.keyId
  rw [← hid, ← hidm, hview', hid]
  exact hactive

/-- **Keys and rings over any run.**  A ring has at most one active key and a project at most one
candidate; a key that changes its state takes the revision of its ring exactly one further; the
active key of a ring changes only with its epoch; and a token is committed under the key and epoch
of its preparation only while that key is active, at every point since they were captured. -/
theorem signing_keys_follow_their_ring {db : Database} (hdb : db.keyStore.Sound)
    (calls : List Call) :
    (run db calls).keyStore.Sound
      ∧ ∀ pre call post, calls = pre ++ call :: post →
          StatesCounted (run db pre).keyStore (run db (pre ++ [call])).keyStore
            ∧ ActiveFenced (run db pre).keyStore (run db (pre ++ [call])).keyStore
            ∧ ∀ t ∈ tokenCommits call (run db pre),
                (run db pre).keyStore.Holds t
                  ∧ ∀ before capture mid after, pre = before ++ capture :: (mid ++ after) →
                      t ∈ tokenCaptures capture (run db before) →
                      (run db (before ++ capture :: mid)).keyStore.Holds t := by
  refine ⟨run_keyStore_sound hdb calls, fun pre call post _ => ?_⟩
  have hpre : (run db pre).keyStore.Sound := run_keyStore_sound hdb pre
  rw [run_snoc]
  have hcounted : StatesCounted (run db pre).keyStore (step call (run db pre)).keyStore := by
    obtain ⟨_, hstep, he⟩ := step_keyStore call (run db pre)
    exact he ▸ hstep.statesCounted hpre
  refine ⟨hcounted, step_activeFenced call hpre, fun t ht => ?_⟩
  have hheld : (run db pre).keyStore.Holds t := tokenCommits_hold ht
  refine ⟨hheld, fun before capture mid after hsplit hcapture => ?_⟩
  have hbefore : (run db before).keyStore.Sound := run_keyStore_sound hdb before
  have hmid : run db (before ++ capture :: mid) = run (run db before) (capture :: mid) :=
    run_append db before (capture :: mid)
  have hend : run db pre = run (run db (before ++ capture :: mid)) after := by
    rw [← run_append, hsplit, List.append_assoc, List.cons_append]
  -- the epoch the preparation read is the one the commit finds, so nothing moved in between
  refine (tokenCaptures_hold hcapture).between ?_ ?_ hheld
  · rw [hmid]
    exact run_activeFenced hbefore (capture :: mid)
  · rw [hend]
    exact run_activeFenced (run_keyStore_sound hdb (before ++ capture :: mid)) after

namespace Demo

theorem start_keyStore_sound : start.keyStore.Sound where
  owned k hk := by
    rw [List.mem_singleton.mp hk]
    exact ⟨ring, List.mem_singleton_self ring, rfl, rfl⟩
  oneActive := atMostOne_single key
  oneCandidate := atMostOne_single key

def prepareExchange : Call := call (.prepareHandoffExchange ⟨1, 2, ⟨60, 1⟩, challenge, seconds 1⟩)

end Demo

theorem demo_exchange_holds_its_key :
    (run start [prepareExchange]).keyStore.Holds ⟨1, 7, 8, 2⟩
      ∧ (run start [prepareExchange, exchange]).keyStore.Sound := by
  obtain ⟨hsound, hstep⟩ := signing_keys_follow_their_ring start_keyStore_sound
    [prepareExchange, exchange]
  obtain ⟨_, _, hcommit⟩ := hstep [prepareExchange] exchange [] rfl
  have hmem : (⟨1, 7, 8, 2⟩ : TokenKey)
      ∈ tokenCommits exchange (run start [prepareExchange]) := by decide +kernel
  have hcapture : (⟨1, 7, 8, 2⟩ : TokenKey) ∈ tokenCaptures prepareExchange start := by
    decide +kernel
  exact ⟨(hcommit _ hmem).2 [] prepareExchange [] [] rfl hcapture, hsound⟩

end OwlAuth
