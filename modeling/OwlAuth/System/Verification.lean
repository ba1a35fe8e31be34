import OwlAuth.System.KeyRings

/-!
# Keys outlive the tokens signed with them

A key that is replaced keeps verifying for an overlap that is counted from its replacement: the
longest lifetime of a token, the configured retention and the configured propagation delay.  The
verifier accepts a token for its lifetime and the clock skew.  The skew is not part of the overlap,
so the configured part has to cover it (`keys_outlive_tokens`); the configuration does not ask for
that (`AcceptedOverlap`, `demoted_key_stops_before_its_token`).

A token signed by one replica is accepted by another whose clock is within the skew, unless it was
signed, by its own clock, before the login it rests on (`token_accepted_iff`).
-/

namespace OwlAuth

open Fallible Table Demo

/-- the values of the retention and of the propagation delay the server starts with: whole
milliseconds, at least one, at most a day -/
def AcceptedOverlap (env : Environment) : Prop :=
  (0 < env.verificationRetention ∧ env.verificationRetention ≤ hours 24
      ∧ env.verificationRetention % 1000 = 0)
    ∧ (0 < env.propagationDelay ∧ env.propagationDelay ≤ hours 24
      ∧ env.propagationDelay % 1000 = 0)
  deriving Decidable

/-- the configured part of the overlap covers the clock skew of the verifier -/
def SkewCovered (env : Environment) : Prop :=
  seconds clockSkewSeconds ≤ env.verificationRetention + env.propagationDelay
  deriving Decidable

/-- the token a committed exchange or rotation hands out, signed at `m`, and its key -/
def committedTokens (call : Call) (db : Database) (m : SigningMoment) :
    List (TokenKey × AccessToken) :=
  commitsOf (fun c => (c.preparation.tokenKey c.projectId,
      signAccessToken m c.preparation c.applicationSessionId c.preparation.authenticatedAt))
    (fun c => (c.preparation.tokenKey c.projectId, signRefreshAccessToken m c.preparation)) call db

/-- when the login was completed that the session of such a token goes back to -/
def Call.authenticatedAt (call : Call) : Option Instant :=
  match call.op with
  | .session (.commitHandoffExchange c) => some c.preparation.authenticatedAt
  | .session (.rotateRefreshToken c) => some c.preparation.authenticatedAt
  | _ => none

variable {db : Database} {m : SigningMoment} {k : SigningKey} {now since : Int}

/-- `token` was signed at `m`, for a lifetime that policies allow -/
structure SignedAt (m : SigningMoment) (token : AccessToken) : Prop where
  header : token.header.alg = tokenAlgorithm ∧ token.header.typ = accessTokenTyp
  issued : token.claims.iat = unixTimestamp m.now
  usable : token.claims.nbf = unixTimestamp m.now
  expires : ∃ lifetime, 60 ≤ lifetime ∧ lifetime ≤ 3600
    ∧ token.claims.exp = unixTimestamp (m.now + seconds lifetime)

theorem SignedAt.lt {token} (h : SignedAt m token) (hexp : ExpAccepts token.claims now) :
    now < m.now + seconds maxAccessTokenLifetimeSeconds + seconds clockSkewSeconds := by
  obtain ⟨lifetime, _, hl, hend⟩ := h.expires
  unfold ExpAccepts at hexp
  rw [hend] at hexp
  have hnow : now < seconds (unixTimestamp now + 1) := by unfold unixTimestamp seconds; omega
  have hlast := seconds_unixTimestamp_le (m.now + seconds lifetime)
  generalize unixTimestamp (m.now + seconds lifetime) = last at hexp hlast
  unfold maxAccessTokenLifetimeSeconds
  unfold seconds at hnow hlast ⊢
  omega

theorem committedTokens_ok {call t token} (h : (t, token) ∈ committedTokens call db m) :
    db.keyStore.ActiveIn t.ringId t.keyId ∧ SignedAt m token
      ∧ ∃ login ∈ call.authenticatedAt, token.claims.authTime = unixTimestamp login := by
  unfold Call.authenticatedAt
  rcases commitsOf_accepted h with ⟨_, _, _, _, hop, he, hc⟩ | ⟨_, _, _, _, _, _, hop, he, hc⟩
  · cases he
    rw [hop]
    obtain ⟨_, _, _, _, _, hactive⟩ := holds_of_lock hc.signing
    obtain ⟨_, _, _, _, _, _, _, _, _, hlifetime⟩ := checkExchangeOwners_ok hc.owners
    obtain ⟨hlow, hhigh⟩ := accessTokenLifetime_ok hlifetime
    exact ⟨hactive, ⟨⟨rfl, rfl⟩, rfl, rfl, _, hlow, hhigh, rfl⟩, _, rfl, rfl⟩
  · cases he
    rw [hop]
    obtain ⟨_, _, _, _, _, hactive⟩ := holds_of_lock hc.signing
    obtain ⟨hlow, hhigh⟩ := accessTokenLifetime_ok hc.lifetime
    exact ⟨hactive, ⟨⟨rfl, rfl⟩, rfl, rfl, _, hlow, hhigh, rfl⟩, _, rfl, rfl⟩

theorem committedTokens_keys {call t}
    (h : t ∈ committedTokens call db m) : (step call db).keys = db.keys := by
  obtain ⟨env, op⟩ := call
  cases op with
  | session o =>
    have hr := (o.step_session env db).frame
    show (o.step env db).keys = db.keys
    rw [hr]
  | _ => cases h

/-! ## what becomes of one key -/

inductive KeyFate (env : Environment) (k k' : SigningKey) : Prop
  | kept (state : k'.state = k.state) (cutoff : k'.verifyNotAfter = k.verifyNotAfter)
  | activated (state : k'.state = .active)
  | demoted (state : k'.state = .retiring)
      (cutoff : k'.verifyNotAfter = some (env.databaseClock + verificationOverlap env))
  | moved (move : KeyMove env k k')

theorem demotedKeys_fate (env) (ring : KeyRing) (hk : k ∈ db.keys) :
    k ∈ demotedKeys env db ring
      ∨ (k.state = .active ∧ retiringKey env k (ring.revision + 1) ∈ demotedKeys env db ring) := by
  unfold demotedKeys
  split
  · rename_i old hold
    obtain ⟨hold, _, _, hactive⟩ := find?_some hold
    have hkey : Keyed.key (retiringKey env old (ring.revision + 1)) = Keyed.key old := rfl
    by_cases he : k = old
    · rw [he]
      exact .inr ⟨hactive, mem_set_self _ hold hkey⟩
    · exact .inl ((mem_set_of hold hkey).mpr (.inl ⟨hk, he⟩))
  · exact .inl hk

theorem SigningStep.fate {env db'} (h : SigningStep env db db')
    (hk : k ∈ db.keys) : ∃ k' ∈ db'.keys, k'.id = k.id ∧ KeyFate env k k' := by
  -- one key is replaced; the others stay
  have replaced : ∀ key key' : SigningKey, key ∈ db.keys → key'.id = key.id →
      KeyFate env key key' → ∃ k' ∈ db.keys.set key', k'.id = k.id ∧ KeyFate env k k' := by
    intro key key' hkey hid hfate
    by_cases he : k = key
    · rw [he]
      exact ⟨key', mem_set_self key' hkey hid, hid, hfate⟩
    · exact ⟨k, (mem_set_of (r := key') hkey hid).mpr (.inl ⟨hk, he⟩), rfl, .kept rfl rfl⟩
  cases h with
  | operated => exact ⟨k, hk, rfl, .kept rfl rfl⟩
  | prepared ring key rings keys _ _ ready inserted =>
    exact ⟨k, (mem_insert inserted).mpr (.inl hk), rfl, .kept rfl rfl⟩
  | described key key' _ _ mem same state =>
    exact replaced key key' mem same.id (.kept state same.verifyNotAfter)
  | moved ring key key' epoch _ _ here move =>
    exact replaced key key' here.keyMem move.same.id (.moved move)
  | activated ring candidate here state =>
    have hcandidate : candidate ∈ demotedKeys env db ring := by
      refine (demotedKeys_fate env ring here.keyMem).resolve_right (fun hc => ?_)
      rw [state] at hc
      cases hc.1
    have hkey : Keyed.key (activatedKey env.databaseClock candidate (ring.revision + 1))
        = Keyed.key candidate := rfl
    by_cases he : k.id = candidate.id
    · exact ⟨_, mem_set_self _ hcandidate hkey, he.symm, .activated rfl⟩
    · rcases demotedKeys_fate env ring hk with hd | ⟨_, hd⟩
      · refine ⟨k, (mem_set_of hcandidate hkey).mpr (.inl ⟨hd, fun h => ?_⟩), rfl, .kept rfl rfl⟩
        exact he (congrArg SigningKey.id h)
      · refine ⟨_, (mem_set_of hcandidate hkey).mpr (.inl ⟨hd, fun h => ?_⟩), rfl, .demoted rfl rfl⟩
        exact he (congrArg SigningKey.id h : (retiringKey env k (ring.revision + 1)).id = _)

/-! ## how long a key verifies -/

/-- the key is active or verifies until `deadline` at least; if it has retired, its time was over
by `now`.  A revoked key verifies no more. -/
def Outlasts (deadline now : Int) (k : SigningKey) : Prop :=
  k.state = .active ∨ k.state = .revoked
    ∨ ∃ cutoff ∈ k.verifyNotAfter, deadline ≤ cutoff
        ∧ (k.state = .retiring ∨ (k.state = .retired ∧ cutoff ≤ now))

theorem Outlasts.mayVerify {deadline} (h : Outlasts deadline now k) (hnow : now < deadline)
    (hrevoked : k.state ≠ .revoked) : k.mayVerify now := by
  rcases h with h | h | ⟨cutoff, hc, hle, hs | ⟨_, hover⟩⟩
  · exact .inl h
  · exact absurd h hrevoked
  · exact .inr ⟨hs, cutoff, hc, lt_of_lt_of_le hnow hle⟩
  · exact absurd (lt_of_lt_of_le hnow (le_trans hle hover)) (lt_irrefl now)

/-- a step not earlier than `since`, with the skew covered, leaves the key its time -/
theorem KeyFate.outlasts {env k'} (h : KeyFate env k k')
    (hsince : since ≤ env.databaseClock) (hnow : env.databaseClock ≤ now) (hskew : SkewCovered env)
    (hk : Outlasts (since + seconds maxAccessTokenLifetimeSeconds + seconds clockSkewSeconds) now
      k) :
    Outlasts (since + seconds maxAccessTokenLifetimeSeconds + seconds clockSkewSeconds) now k' := by
  cases h with
  | kept state cutoff =>
    unfold Outlasts
    rw [state, cutoff]
    exact hk
  | activated state => exact .inl state
  | demoted state cutoff =>
    refine .inr (.inr ⟨_, cutoff, ?_, .inl state⟩)
    unfold SkewCovered at hskew
    unfold verificationOverlap
    omega
  | moved move =>
    have hallowed := move.allowed
    rcases hk with hs | hs | ⟨cutoff, hc, hle, hs | ⟨hs, _⟩⟩
    · rw [hs] at hallowed
      rcases KeyState.of_transition_active hallowed with hs' | hs'
      · exact absurd hs' move.notRetiring
      · exact .inr (.inl hs')
    · rw [hs] at hallowed
      exact absurd hallowed (KeyState.not_transition_revoked _)
    · rw [hs] at hallowed
      rcases KeyState.of_transition_retiring hallowed with hs' | hs'
      · obtain ⟨cutoff', hc', hover⟩ := move.retired hs'
        cases Option.mem_unique hc hc'
        refine .inr (.inr ⟨cutoff, ?_, hle, .inr ⟨hs', le_trans hover hnow⟩⟩)
        rw [move.same.verifyNotAfter]
        exact hc
      · exact .inr (.inl hs')
    · rw [hs] at hallowed
      exact absurd hallowed (KeyState.not_transition_retired _)

/-- over a run that starts not earlier than `since` and ends not later than `now` -/
theorem run_keyOutlasts {calls keyId}
    (hcalls : ∀ call ∈ calls, since ≤ call.env.databaseClock ∧ call.env.databaseClock ≤ now
      ∧ SkewCovered call.env) (h : ∃ k ∈ db.keys, k.id = keyId
      ∧ Outlasts (since + seconds maxAccessTokenLifetimeSeconds + seconds clockSkewSeconds) now k) :
    ∃ k ∈ (run db calls).keys, k.id = keyId
      ∧ Outlasts (since + seconds maxAccessTokenLifetimeSeconds + seconds clockSkewSeconds) now
          k := by
  induction calls generalizing db with
  | nil => exact h
  | cons call calls ih =>
    refine ih (fun c hc => hcalls c (List.mem_cons_of_mem call hc)) ?_
    obtain ⟨hsince, hnow, hskew⟩ := hcalls call List.mem_cons_self
    obtain ⟨k, hk, hid, hlast⟩ := h
    obtain ⟨db₁, hstep, hstore⟩ := step_keyStore call db
    obtain ⟨k', hk', hid', hfate⟩ := hstep.fate hk
    have hkeys : (step call db).keys = db₁.keys := congrArg KeyStore.keys hstore
    refine ⟨k', ?_, hid'.trans hid, hfate.outlasts hsince hnow hskew hlast⟩
    rw [hkeys]
    exact hk'

/-- **A key outlives its tokens.**  While the `exp` check accepts a token that was committed under a
key, the key may verify unless it was revoked, whatever was called in between; the calls share one
clock, on which the token was signed before it was committed, and their configuration covers the
skew of the verifier. -/
theorem keys_outlive_tokens {db : Database} {pre post : List Call} {commit : Call}
    {m : SigningMoment} {t : TokenKey} {token : AccessToken} {now : Instant}
    (hcommitted : (t, token) ∈ committedTokens commit (run db pre) m)
    (hsigned : m.now ≤ commit.env.databaseClock)
    (hclock : ∀ call ∈ post,
      commit.env.databaseClock ≤ call.env.databaseClock ∧ call.env.databaseClock ≤ now)
    (hskew : ∀ call ∈ post, SkewCovered call.env) (hexp : ExpAccepts token.claims now) :
    ∃ k ∈ (run db (pre ++ commit :: post)).keys, k.id = t.keyId
      ∧ (k.state ≠ .revoked → k.mayVerify now) := by
  obtain ⟨⟨key, hkey, hid, _, hactive⟩, hsign, _⟩ := committedTokens_ok hcommitted
  have hafter : ∃ k ∈ (run db (pre ++ [commit])).keys, k.id = t.keyId
      ∧ Outlasts (commit.env.databaseClock + seconds maxAccessTokenLifetimeSeconds
          + seconds clockSkewSeconds) now k := by
    rw [run_snoc, committedTokens_keys hcommitted]
    exact ⟨key, hkey, hid, .inl hactive⟩
  obtain ⟨k, hk, hkid, hlast⟩ := run_keyOutlasts
    (fun call hc => ⟨(hclock call hc).1, (hclock call hc).2, hskew call hc⟩) hafter
  rw [← run_append, List.append_assoc] at hk
  refine ⟨k, hk, hkid, fun hrevoked => hlast.mayVerify ?_ hrevoked⟩
  have hlt := hsign.lt hexp
  have hle : m.now + seconds maxAccessTokenLifetimeSeconds + seconds clockSkewSeconds
      ≤ commit.env.databaseClock + seconds maxAccessTokenLifetimeSeconds
        + seconds clockSkewSeconds :=
    Int.add_le_add_right (Int.add_le_add_right hsigned _) _
  exact lt_of_lt_of_le hlt hle

namespace Demo

def successorKey : SigningKey := ⟨11, 1, 7, "next", jwk, 81, 1, .published, 2, some 0, some 0, none,
  none, none, none, none, none, none⟩

def rotating : Database :=
  { start with
    policies := .single { policy with accessTokenLifetimeSeconds := some 3600 }
    keys := ((Table.single key).insert successorKey).getD (.single key) }

/-- a deployment whose retention and propagation delay are a millisecond each -/
def hastyEnv : Environment := { env with verificationRetention := 1000, propagationDelay := 1000 }

def longExchange (env : Environment) : Call :=
  ⟨{ env with databaseClock := seconds 1 }, .session (.commitHandoffExchange
    { exchangeCommand with preparation := { handoff with accessTokenLifetimeSeconds := 3600 } })⟩

def rotation (env : Environment) : Call :=
  ⟨{ env with databaseClock := seconds 1 }, .signing (.activateSigningKeyIfReady ⟨1, 11, 3⟩)⟩

def longToken : AccessToken :=
  signAccessToken ⟨seconds 1, "jti", 500⟩ { handoff with accessTokenLifetimeSeconds := 3600 } 22 0

end Demo

/-- under the shortest accepted overlap a token is accepted that its key no longer verifies: signed
and committed at one second, the key replaced in that second, and both checked an hour and a second
later -/
theorem demoted_key_stops_before_its_token :
    AcceptedOverlap hastyEnv
      ∧ (⟨1, 7, 8, 2⟩, longToken)
          ∈ committedTokens (longExchange hastyEnv) Demo.rotating ⟨seconds 1, "jti", 500⟩
      ∧ ExpAccepts longToken.claims (seconds 3602)
      ∧ ∃ k ∈ (run Demo.rotating
            [longExchange hastyEnv, rotation hastyEnv]).keys.rows,
          k.id = 8 ∧ k.state = .retiring ∧ ¬ k.mayVerify (seconds 3602) := by
  decide +kernel

theorem demoted_key_verifies_its_token :
    ∃ k ∈ (run Demo.rotating ([] ++ Demo.longExchange Demo.env :: [rotation Demo.env])).keys,
      k.id = 8 ∧ (k.state ≠ .revoked → k.mayVerify (seconds 3602)) := by
  have hcommitted : ((⟨1, 7, 8, 2⟩ : TokenKey), longToken)
      ∈ committedTokens (Demo.longExchange Demo.env) (run Demo.rotating [])
          ⟨seconds 1, "jti", 500⟩ := by
    decide +kernel
  refine keys_outlive_tokens hcommitted (le_refl _) ?_ ?_ (by decide)
  · intro call hc
    rw [List.mem_singleton.mp hc]
    decide
  · intro call hc
    rw [List.mem_singleton.mp hc]
    decide

/-! ## tokens between replicas -/

/-- the clocks of the replica that signs and of the one that verifies, over one time: they differ
by no more than the skew the verifier allows, and the verifier's never goes back -/
structure Replicas where
  (signer verifier : Int → Instant)
  close : ∀ t, signer t ≤ verifier t + seconds clockSkewSeconds
    ∧ verifier t ≤ signer t + seconds clockSkewSeconds
  forward : ∀ s t, s ≤ t → verifier s ≤ verifier t

/-- what the signer and the schema give every token: a random id, a bounded length, a short key id
and a positive revision -/
def Bounded (token : AccessToken) : Prop :=
  token.encodedBytes ≤ maxAccessTokenBytes ∧ token.header.kid.utf8ByteSize ≤ 128
    ∧ token.claims.jti ≠ "" ∧ 0 < token.claims.claimsRev
  deriving Decidable

/-- the key of `token` is usable at `now`, and the session, the family and the owners it names are
current: the read of them answers `r` -/
structure Usable (env : Environment) (token : AccessToken) (now : Instant) (db : Database)
    (projectId : Uuid) (r : Committed CurrentSession) : Prop where
  key : verificationKey db token.claims.aud token.header.kid now
    = .ok ⟨projectId, token.claims.aud, token.claims.iss, token.signedUnder⟩
  session : currentSession env ⟨projectId, token.claims.appId, token.claims.sub, token.claims.sid,
    token.claims.claimsRev, now⟩ false db = .ok r

theorem unixTimestamp_add_seconds (t : Instant) (s : Int) :
    unixTimestamp (t + seconds s) = unixTimestamp t + s := by
  unfold unixTimestamp seconds
  omega

/-- the verifier reads its clock after the signing, so its skew covers `nbf` and `iat` -/
theorem Replicas.signed_le (clocks : Replicas) {signed used} (h : signed ≤ used) :
    unixTimestamp (clocks.signer signed)
      ≤ unixTimestamp (clocks.verifier used) + clockSkewSeconds := by
  have hforward := clocks.forward signed used h
  rw [← unixTimestamp_add_seconds]
  exact Int.ediv_le_ediv (by decide)
    ((clocks.close signed).1.trans (Int.add_le_add_right hforward _))

/-- **Tokens travel between replicas** while the login they rest on is not later, in whole seconds of
the clock that stamped it, than the signer's clock at their signing: `auth_time` is compared with
`iat` without the skew that every other time is granted. -/
theorem token_accepted_iff (clocks : Replicas) {call : Call} {db db' : Database}
    {m : SigningMoment} {t : TokenKey} {token : AccessToken} {env : Environment}
    {projectId : Uuid} {r : Committed CurrentSession} {signed used : Int}
    (hcommitted : (t, token) ∈ committedTokens call db m) (hbounded : Bounded token)
    (hsigned : m.now = clocks.signer signed) (hused : signed ≤ used)
    (hfresh : clocks.verifier used < seconds token.claims.exp)
    (husable : Usable env token (clocks.verifier used) db' projectId r) :
    authenticateAccessToken env token (clocks.verifier used) false db' = .ok r
      ↔ ∃ login ∈ call.authenticatedAt,
        unixTimestamp login ≤ unixTimestamp (clocks.signer signed) := by
  obtain ⟨hlength, hkid, hjti, hrevision⟩ := hbounded
  obtain ⟨_, ⟨⟨halg, htyp⟩, hiat, hnbf, lifetime, hlow, _, hend⟩, login, hlogin, hauthTime⟩ :=
    committedTokens_ok hcommitted
  have hlater : (∃ login ∈ call.authenticatedAt,
      unixTimestamp login ≤ unixTimestamp (clocks.signer signed))
        ↔ token.claims.authTime ≤ token.claims.iat := by
    rw [Option.mem_def] at hlogin
    rw [hlogin, hauthTime, hiat, hsigned]
    simp
  rw [hlater]
  have hskew := clocks.signed_le hused
  rw [← hsigned] at hskew
  have hexp : ExpAccepts token.claims (clocks.verifier used) := by
    have hlt := lt_of_le_of_lt (seconds_unixTimestamp_le _) hfresh
    unfold ExpAccepts clockSkewSeconds
    unfold seconds at hlt
    omega
  have htimes : token.claims.iat ≤ token.claims.nbf ∧ token.claims.nbf ≤ token.claims.exp := by
    rw [hiat, hnbf, hend, unixTimestamp_add_seconds]
    omega
  unfold authenticateAccessToken
  rw [ensure_of _ ⟨hlength, halg, htyp, hkid⟩, ok_bind, husable.key, ok_bind,
    ensure_of _ ⟨rfl, rfl, hrevision, hjti, htimes⟩, ok_bind]
  by_cases hauth : token.claims.authTime ≤ token.claims.iat
  · have htimely : TimelyAt token.claims (clocks.verifier used) :=
      ⟨hexp, hnbf ▸ hskew, hiat ▸ hskew⟩
    rw [ensure_of _ ⟨htimely, hauth⟩, ok_bind, ensure_of _ rfl, ok_bind]
    exact ⟨fun _ => hauth, fun _ => husable.session⟩
  · rw [ensure_not _ fun h => hauth h.2]
    exact ⟨fun h => (by cases h), fun h => absurd h hauth⟩

namespace Demo

/-- the clock of the replica that verifies runs half a minute ahead -/
def halfMinute : Replicas where
  signer t := seconds t
  verifier t := seconds (t + 30)
  close t := by
    unfold clockSkewSeconds seconds Instant
    omega
  forward s t h := by
    unfold seconds Instant
    omega

/-- the login was completed at that replica, at time `0` -/
def ahead : Database :=
  { start with tickets := .single { ticket with
      authenticatedAt := seconds 30, issuedAt := seconds 30, expiresAt := seconds 90 } }

def exchangeAt (t : Int) : Call := call (.commitHandoffExchange { exchangeCommand with
  preparation := { handoff with authenticatedAt := seconds 30 }, now := seconds t })

def tokenAt (t : Int) : AccessToken :=
  signAccessToken ⟨seconds t, "jti", 500⟩ { handoff with authenticatedAt := seconds 30 } 22
    (seconds 30)

def foundAt (t : Int) : Tx (VerificationKey × Committed CurrentSession) := do
  let db := run ahead [exchangeAt t]
  let key ← verificationKey db "prj_roost" "kid" (seconds (t + 31))
  let r ← currentSession env ⟨1, "app_perch", "usr_owlet", 22, 1, seconds (t + 31)⟩ false db
  pure (key, r)

theorem usable_of_found {t}
    (h : (Prod.fst <$> foundAt t) = .ok ⟨1, "prj_roost", ring.issuer, jwk⟩) :
    ∃ r, Usable env (tokenAt t) (seconds (t + 31)) (run ahead [exchangeAt t]) 1 r := by
  cases hf : foundAt t with
  | error e => rw [hf] at h; cases h
  | ok f =>
    rw [hf] at h
    obtain ⟨_, hkey, r, hr, hf⟩ := peel₂ hf
    cases hf
    cases h
    exact ⟨r, hkey, hr⟩

end Demo

/-- two seconds after the login the other replica signs a token that both refuse, although all it
rests on is current -/
theorem token_of_slower_replica_refused : ((⟨1, 7, 8, 2⟩ : TokenKey), tokenAt 2)
        ∈ committedTokens (exchangeAt 2) ahead ⟨Demo.halfMinute.signer 2, "jti", 500⟩
      ∧ Bounded (tokenAt 2)
      ∧ Demo.halfMinute.verifier 3 < seconds (tokenAt 2).claims.exp
      ∧ (∃ r, Usable env (tokenAt 2) (Demo.halfMinute.verifier 3)
          (run ahead [exchangeAt 2]) 1 r)
      ∧ ∀ now ∈ [Demo.halfMinute.verifier 3, Demo.halfMinute.signer 3],
          (authenticateAccessToken env (tokenAt 2) now false
            (run ahead [exchangeAt 2])).isOk = false := by
  refine ⟨by decide +kernel, by decide, by decide, ?_, by decide +kernel⟩
  exact usable_of_found (t := 2) (by decide +kernel)

theorem token_of_slower_replica_accepted :
    ∃ r, authenticateAccessToken env (tokenAt 40) (halfMinute.verifier 41) false
      (run ahead [exchangeAt 40]) = .ok r := by
  have hcommitted : ((⟨1, 7, 8, 2⟩ : TokenKey), tokenAt 40)
      ∈ committedTokens (exchangeAt 40) ahead ⟨seconds 40, "jti", 500⟩ := by
    decide +kernel
  obtain ⟨r, hr⟩ := usable_of_found (t := 40) (by decide +kernel)
  exact ⟨r, (token_accepted_iff halfMinute hcommitted (by decide) rfl (by decide) (by decide)
    hr).mpr (by decide)⟩

end OwlAuth
