import OwlAuth.Base.Pool
import OwlAuth.Signing.Operations
import OwlAuth.System.Calls

/-!
# Workers on signing-key operations

A request or the maintenance worker drives an operation: it claims a lease, calls the provider, and
records the answer.  It may vanish at any point (`Pool`), and every other call to the repositories is
made in between, in any order; what presents a lease is called by the worker the lease was granted to.

* `SigningTask`  `reconcile_protected_signing_key`, cut where it waits for a transaction or
    for the provider;
* `SigningRequest.enter`  a call, or a worker that claims a lease;
* `SigningTask.advance`  the next step of a worker, with at most one transaction;
* `SigningEvent`  a lease that was granted, or an answer of the provider;
* `SigningDeployment.step`  one move of the deployment.
-/

namespace OwlAuth

open Fallible

/-! ## the provider -/

structure ProvisionedSigningKey where
  handle : List UInt8
  publicKey : List UInt8
  deriving DecidableEq

inductive DestroyOutcome
  | destroyed | alreadyAbsent | unsupported
  deriving DecidableEq

/-- a lease is granted, or the provider answers a call made under it -/
inductive SigningEvent
  | granted (operationId : Uuid) (call : SigningProviderCall) (token : Uuid)
  | answered (operationId : Uuid) (call : SigningProviderCall) (token : Uuid)
      (result : Except ProviderError ProvisionedSigningKey)
  | destroyed (operationId token : Uuid) (result : Except ProviderError DestroyOutcome)

/-- the provider holds nothing for the operation, and may be asked again -/
def ProviderError.absent (e : ProviderError) : Prop :=
  e.errorClass = .notFound ∧ e.retry = .exactInputSafe
  deriving Decidable

/-! ## tasks -/

structure SigningWork where
  projectId : Uuid
  prepared : PreparedSigningKey
  materialId : Uuid
  committedHandle : Option (List UInt8)
  committedPublicKey : Option (List UInt8)

inductive SigningTask
  | calling (w : SigningWork) (action : SigningProviderAction)
  | answered (w : SigningWork) (action : SigningProviderAction)
      (result : Except ProviderError ProvisionedSigningKey)
  | destroying (w : SigningWork) (lease : SigningProviderLease)
  | destroyAnswered (w : SigningWork) (lease : SigningProviderLease)
      (result : Except ProviderError DestroyOutcome)
  | containing (w : SigningWork) (lease : SigningProviderLease)
  | publishing (w : SigningWork)

abbrev SigningOutcome := Pool.Outcome Database SigningTask SigningEvent

def SigningOutcome.after {α : Type} (db : Database) (body : Tx (Committed α))
    (next : Except ApplicationError α → List SigningTask) : SigningOutcome :=
  ⟨execute db body, next (answer body), []⟩

def SigningOutcome.last {α : Type} (db : Database) (body : Tx (Committed α)) : SigningOutcome :=
  .after db body fun _ => []

/-! ## requests -/

inductive SigningRequest
  | call (c : Call)
  | claim (env : Environment) (w : SigningWork) (now leaseUntil : Instant)

def SigningOp.leased : SigningOp → Bool
  | .claimSigningProviderAction _ => true
  | .recordSigningProviderFailure _ => true
  | .recordSigningProviderAbsence _ => true
  | .queueSigningProviderCleanup _ => true
  | .completeSigningProviderCleanup _ => true
  | .recordProtectedSigningKeyMaterial _ => true
  | _ => false

def Call.leased (c : Call) : Bool :=
  match c.op with
  | .signing o => o.leased
  | _ => false

def SigningRequest.enter (db : Database) : SigningRequest → SigningOutcome
  | call c => ⟨if c.leased then db else OwlAuth.step c db, [], []⟩
  | claim env w now leaseUntil =>
    let body := claimSigningProviderAction env ⟨w.projectId, w.prepared, now, leaseUntil⟩ db
    match answer body with
    | .ok action =>
      ⟨execute db body, [.calling w action],
        [.granted w.prepared.operationId action.call action.lease.token]⟩
    | .error _ => ⟨execute db body, [], []⟩

/-! ## steps of a worker -/

structure SigningInput where
  env : Environment
  now : Instant
  result : Except ProviderError ProvisionedSigningKey
  destruction : Except ProviderError DestroyOutcome

/-- `normalized_ed25519_jwk` -/
def normalizedEd25519Jwk (env : Environment) (kid : String) (publicKey : List UInt8) : Tx Jwk := do
  ensure (publicKey.length = 32) .integrity
  pure [("kty", "OKP"), ("crv", "Ed25519"), ("alg", tokenAlgorithm), ("use", "sig"), ("kid", kid),
    ("x", env.base64Url publicKey)]

variable (i : SigningInput)

variable (w : SigningWork)

/-- `persist_signing_provider_failure` -/
def persistSigningProviderFailure (action : SigningProviderAction)
    (e : ProviderError) (db : Database) : SigningOutcome :=
  .last db (recordSigningProviderFailure i.env
    ⟨w.projectId, w.prepared, action.lease, action.call, e.errorClass, e.retry, e.code, i.now⟩ db)

variable (lease : SigningProviderLease)

def queueCleanup (db : Database) : SigningOutcome :=
  .last db (queueSigningProviderCleanup i.env ⟨w.projectId, w.prepared, lease, i.now⟩ db)

/-- the errors after which the key the provider made is left to its cleanup -/
def containedError : ApplicationError → Bool
  | .disabled => true
  | .revisionConflict => true
  | .invalidTransition => true
  | _ => false

/-- `contain_signing_provider_result` up to the answer of the recording -/
def containSigningProviderResult (made : ProvisionedSigningKey) (db : Database) : SigningOutcome :=
  match normalizedEd25519Jwk i.env w.prepared.kid made.publicKey with
  | .error _ => queueCleanup i w lease db
  | .ok publicJwk =>
    .after db (recordProtectedSigningKeyMaterial i.env
        ⟨w.projectId, w.prepared, lease, ⟨w.materialId, made.handle, made.publicKey⟩, publicJwk,
          i.now⟩ db)
      fun
        | .ok _ => [.publishing w]
        | .error e => if containedError e then [.containing w lease] else []

def completeCleanup (destroyed : Bool) (db : Database) : SigningOutcome :=
  .last db (completeSigningProviderCleanup i.env ⟨w.projectId, w.prepared, lease, destroyed, i.now⟩
    db)

/-- what was committed, if anything was, is what the provider found -/
def SigningWork.matches (made : ProvisionedSigningKey) : Prop :=
  (∀ handle ∈ w.committedHandle, handle = made.handle)
    ∧ ∀ publicKey ∈ w.committedPublicKey, publicKey = made.publicKey
  deriving Decidable

def recordAnswer (action : SigningProviderAction)
    (db : Database) : Except ProviderError ProvisionedSigningKey → SigningOutcome
  | .ok made =>
    match action.call with
    | .provision => containSigningProviderResult i w action.lease made db
    | .inspect => containSigningProviderResult i w action.lease made db
    | .cleanup =>
      if w.matches made then ⟨db, [.destroying w action.lease], []⟩
      else persistSigningProviderFailure i w action ⟨.integrity, .never, none⟩ db
  | .error e =>
    match action.call with
    | .provision => persistSigningProviderFailure i w action e db
    | .inspect =>
      if e.absent then
        .last db (recordSigningProviderAbsence i.env ⟨w.projectId, w.prepared, action.lease, i.now⟩
          db)
      else persistSigningProviderFailure i w action e db
    | .cleanup =>
      if e.absent then completeCleanup i w action.lease true db
      else persistSigningProviderFailure i w action e db

def recordDestruction
    (db : Database) : Except ProviderError DestroyOutcome → SigningOutcome
  | .ok .destroyed => completeCleanup i w lease true db
  | .ok .alreadyAbsent => completeCleanup i w lease true db
  | .ok .unsupported => completeCleanup i w lease false db
  | .error e => persistSigningProviderFailure i w ⟨.cleanup, lease⟩ e db

def SigningTask.advance (db : Database) : SigningTask → SigningOutcome
  | calling w action =>
    ⟨db, [.answered w action i.result],
      [.answered w.prepared.operationId action.call action.lease.token i.result]⟩
  | answered w action result => recordAnswer i w action db result
  | destroying w lease =>
    ⟨db, [.destroyAnswered w lease i.destruction],
      [.destroyed w.prepared.operationId lease.token i.destruction]⟩
  | destroyAnswered w lease result => recordDestruction i w lease db result
  | containing w lease => queueCleanup i w lease db
  | publishing w => .last db (publishSigningKey ⟨w.projectId, w.prepared, i.now⟩ db)

/-! ## the deployment -/

abbrev SigningDeployment := Pool.State Database SigningTask

abbrev SigningMove := Pool.Move SigningRequest SigningInput

def SigningDeployment.step (m : SigningMove) (d : SigningDeployment) : SigningDeployment :=
  Pool.step (fun (r : SigningRequest) db => r.enter db) (fun i (t : SigningTask) db => t.advance i db)
    m d

/-- the leases the move grants, and the answers it brings -/
def SigningDeployment.said (m : SigningMove) (d : SigningDeployment) : List SigningEvent :=
  Pool.said (fun (r : SigningRequest) db => r.enter db) (fun i (t : SigningTask) db => t.advance i db)
    m d

def SigningDeployment.run (d : SigningDeployment) (moves : List SigningMove) : SigningDeployment :=
  Machine.run SigningDeployment.step d moves

def SigningDeployment.log (d : SigningDeployment) (moves : List SigningMove) : List SigningEvent :=
  Machine.trace SigningDeployment.step SigningDeployment.said d moves

end OwlAuth
