import OwlAuth.Session.Handoff
import OwlAuth.Session.Current

/-!
# Access tokens

An access token is signed between the preparation and the commit of an exchange or a rotation, and
verified by the Runtime against the key it names and then against the session it names.  Its times
are whole seconds, cut off, not rounded.

* `signClaims`  the token of a preparation, signed at an instant;
* `ExpAccepts`  the `exp` check, with the allowed clock skew;
* `authenticateAccessToken`  the whole verification.

A value of `AccessToken` is a decoded token.  Signatures are ideal: the token records the public key
under which its signature verifies.
-/

namespace OwlAuth

open Fallible

def accessTokenTyp : String := "at+jwt"
def maxAccessTokenBytes : Nat := 16384
def clockSkewSeconds : Int := 60

/-- `OffsetDateTime::unix_timestamp`: whole seconds, rounded down -/
def unixTimestamp (t : Instant) : Int := t / seconds 1

theorem seconds_unixTimestamp_le (t : Instant) : seconds (unixTimestamp t) ≤ t := by
  unfold unixTimestamp seconds
  omega

structure AccessTokenHeader where
  (alg typ kid : String)
  deriving DecidableEq

structure AccessTokenClaims where
  (iss aud sub appId : String)
  sid : Uuid
  (iat nbf exp : Int)
  jti : String
  (authTime claimsRev : Int)
  deriving DecidableEq

structure AccessToken where
  header : AccessTokenHeader
  claims : AccessTokenClaims
  encodedBytes : Nat
  /-- the public key the signature verifies under -/
  signedUnder : Jwk
  deriving DecidableEq

/-! ## signing -/

/-- what the signer adds: its clock, the random token id, the length that came out -/
structure SigningMoment where
  now : Instant
  jti : String
  encodedBytes : Nat

/-- the signature is checked against `publicJwk` before the token leaves the signer -/
def signClaims (m : SigningMoment) (issuer audience applicationId subject : String)
    (sessionId : Uuid) (claimsRevision : Int) (authenticatedAt : Instant) (lifetimeSeconds : Int)
    (kid : String) (publicJwk : Jwk) : AccessToken where
  header := { alg := tokenAlgorithm, typ := accessTokenTyp, kid := kid }
  claims :=
    { iss := issuer
      aud := audience
      sub := subject
      appId := applicationId
      sid := sessionId
      iat := unixTimestamp m.now
      nbf := unixTimestamp m.now
      exp := unixTimestamp (m.now + seconds lifetimeSeconds)
      jti := m.jti
      authTime := unixTimestamp authenticatedAt
      claimsRev := claimsRevision }
  encodedBytes := m.encodedBytes
  signedUnder := publicJwk

def signAccessToken (m : SigningMoment) (p : HandoffPreparation) (sessionId : Uuid)
    (authenticatedAt : Instant) : AccessToken :=
  signClaims m p.projectIssuer p.projectPublicId p.applicationPublicId p.userPublicId sessionId
    p.claimsRevision authenticatedAt p.accessTokenLifetimeSeconds p.signingKid p.signingPublicJwk

def signRefreshAccessToken (m : SigningMoment) (p : RefreshPreparation) : AccessToken :=
  signClaims m p.projectIssuer p.projectPublicId p.applicationPublicId p.userPublicId
    p.applicationSessionId p.claimsRevision p.authenticatedAt p.accessTokenLifetimeSeconds
    p.signingKid p.signingPublicJwk

/-! ## verifying -/

variable (claims : AccessTokenClaims)

def ExpAccepts (now : Instant) : Prop :=
  unixTimestamp now - clockSkewSeconds < claims.exp
  deriving Decidable

/-- the token is used within its times at `now`, give or take the skew -/
def TimelyAt (now : Instant) : Prop :=
  ExpAccepts claims now
    ∧ claims.nbf ≤ unixTimestamp now + clockSkewSeconds
    ∧ claims.iat ≤ unixTimestamp now + clockSkewSeconds
  deriving Decidable

/-- the claims are of the project whose key was found, and of one piece -/
def ClaimsOfKey (key : VerificationKey) : Prop :=
  claims.iss = key.issuer ∧ claims.aud = key.projectPublicId ∧ 0 < claims.claimsRev
    ∧ claims.jti ≠ "" ∧ claims.iat ≤ claims.nbf ∧ claims.nbf ≤ claims.exp
  deriving Decidable

def WellFormed (token : AccessToken) : Prop :=
  token.encodedBytes ≤ maxAccessTokenBytes ∧ token.header.alg = tokenAlgorithm
    ∧ token.header.typ = accessTokenTyp ∧ token.header.kid.utf8ByteSize ≤ 128
  deriving Decidable

def authenticateAccessToken (env : Environment) (token : AccessToken) (now : Instant)
    (allowRevoked : Bool) (db : Database) : Tx (Committed CurrentSession) := do
  ensure (WellFormed token) .invalidInput
  let key ← verificationKey db token.claims.aud token.header.kid now
  ensure (ClaimsOfKey token.claims key) .invalidInput
  ensure (TimelyAt token.claims now ∧ token.claims.authTime ≤ token.claims.iat) .invalidTransition
  ensure (token.signedUnder = key.publicJwk) .invalidTransition
  currentSession env
    { projectId := key.projectId
      applicationPublicId := token.claims.appId
      userPublicId := token.claims.sub
      applicationSessionId := token.claims.sid
      claimsRevision := token.claims.claimsRev
      now := now }
    allowRevoked db

end OwlAuth
