import Issuer.NonceDo
import Issuer.RateLimits

/-!
# Admin authentication

`authenticate_admin` guards the admin routes by the admin API key, `authenticate_admin_endpoint` the internal
endpoints by the service token and a nonce. Both look at the lock flag of the source address first. Their
verifications are operations of their own, so that a history shows whether one was made.

`token` is the random lock token of the call; `verifyApiKey` is the Argon2id check of a key against a
PHC string, `sha256` the digest under which tokens are compared.
-/

namespace Issuer

open Rust

/-! ## Credentials -/

inductive AdminKeySlot where
  | current
  | previous
deriving DecidableEq, Repr

def AdminKeySlot.label : AdminKeySlot → String
  | .current => "ADMIN_API_KEY_PROD"
  | .previous => "ADMIN_API_KEY_PROD_PREVIOUS"

/-- `adminHash` is what `get_or_fetch_hashed` has for a slot: nothing where it fails or the slot is empty. -/
def verifyAdminApiKey (verifyApiKey : String → String → Bool) (adminHash : AdminKeySlot → Option String) (provided : String) :
    Option AdminKeySlot :=
  if (adminHash .current).any (verifyApiKey provided) then some .current
  else if (adminHash .previous).any (verifyApiKey provided) then some .previous
  else none

def verifyInternalTokenSlots (sha256 : String → List UInt8) (provided current : String) (previous : Option String) : Bool :=
  if sha256 current = sha256 provided then true
  else previous.any fun prev => sha256 prev = sha256 provided

def isAsciiWhitespace (c : Char) : Bool := c == ' ' || c == '\t' || c == '\n' || c == '\x0c' || c == '\r'

def trimAscii (cs : List Char) : List Char :=
  ((cs.dropWhile isAsciiWhitespace).reverse.dropWhile isAsciiWhitespace).reverse

def extractBearerToken (authorization : String) : Option String :=
  match authorization.toList.span (· != ' ') with
  | (_, []) => none
  | (scheme, _ :: rest) =>
    if scheme.map Char.toLower ≠ "bearer".toList then none
    else
      let credential := trimAscii rest
      if credential = [] then none else some (String.ofList credential)

def resolveInternalCredential (authorization : Option String) : Option String := authorization.bind extractBearerToken

example : resolveInternalCredential (some "BEARER  abc ") = some "abc" := by decide

/-! ## Operations -/

inductive AdminOp where
  | limits (o : LimitsOp)
  | verifyAdminApiKey (provided : String)
  | secret (binding : String)
  | verifyInternalTokenSlots (provided current : String) (previous : Option String)
  | consumeNonce (nonce : String)
deriving DecidableEq, Repr

abbrev AdminOp.Ans : AdminOp → Type
  | .limits o => o.Ans
  | .verifyAdminApiKey _ => Option AdminKeySlot
  | .secret _ => Except Unit (Option String)
  | .verifyInternalTokenSlots _ _ _ => Bool
  | .consumeNonce _ => Except ApiError Bool

abbrev Admin := Prog AdminOp AdminOp.Ans

abbrev Admin.limits {α : Type} (p : Limits α) : Admin α := p.lift AdminOp.limits fun _ x => x

structure AdminWorld where
  limits : LimitsWorld
  nonces : NonceShards

/-- What an operation meets: a tick of the rate-limit namespace, the cached key hashes and the secrets of the
moment, and the faults and clock readings of the nonce object. -/
structure AdminTick extends Tick where
  adminHash : AdminKeySlot → Option String
  secret : String → Except Unit (Option String)
  purgeFaults : Faults
  nonceReadings : NonceReadings

def AdminWorld.handle (verifyApiKey : String → String → Bool) (sha256 : String → List UInt8) (w : AdminWorld) (t : AdminTick) :
    (o : AdminOp) → o.Ans × AdminWorld
  | .limits o => ((w.limits.handle t.toTick o).1, { w with limits := (w.limits.handle t.toTick o).2 })
  | .verifyAdminApiKey provided => (Issuer.verifyAdminApiKey verifyApiKey t.adminHash provided, w)
  | .secret binding => (t.secret binding, w)
  | .verifyInternalTokenSlots provided current previous =>
    (Issuer.verifyInternalTokenSlots sha256 provided current previous, w)
  | .consumeNonce nonce =>
    let (answer, nonces) := validateAndConsumeNonce t.faults t.purgeFaults t.nonceReadings nonce w.nonces
    (answer, { w with nonces := nonces })

/-! ## `authenticate_admin` -/

namespace Admin

def authenticateAdmin (token adminApiKey clientIp : String) : Admin (Except ApiError AdminKeySlot) := do
  match ← Admin.limits (isLockedOut "admin" clientIp) with
  | .ok true => pure (.error (.forbidden "Unauthorised"))
  | .error _ => pure (.error (.serviceUnavailable "Authentication infrastructure unavailable"))
  | .ok false =>
    match ← Prog.op (AdminOp.verifyAdminApiKey adminApiKey) with
    | none =>
      let e ← Admin.limits (rejectAdmin token clientIp)
      pure (.error e)
    | some slot =>
      let _ ← Admin.limits (clearAuthFailures "admin" clientIp)
      pure (.ok slot)

/-! ## `authenticate_admin_endpoint` -/

structure EndpointHeaders where
  authorization : Option String
  nonce : Option String
deriving DecidableEq, Repr

def recordAdminAuthFailure (token clientIp : String) : Limits Unit := do
  match ← recordAuthFailure token "admin" clientIp maxAdminFailedAttempts with
  | .error _ => pure ()
  | .ok failureCount =>
    if failureCount ≥ maxAdminFailedAttempts then
      let _ ← lockAccount "admin" clientIp adminLockoutDurationSeconds
      pure ()
    else pure ()

/-- A slot of the Secrets Store that is bound and not empty. -/
def boundSecret : Except Unit (Option String) → Option String
  | .ok (some t) => if t.isEmpty then none else some t
  | _ => none

def serviceToken : String := "INTERNAL_VERSION_SERVICE_TOKEN"

def serviceTokenPrevious : String := "INTERNAL_VERSION_SERVICE_TOKEN_PREVIOUS"

def admitOnce (token clientIp : String) (headers : EndpointHeaders) : Admin (Except ApiError Unit) := do
  match headers.nonce with
  | none =>
    let () ← Admin.limits (recordAdminAuthFailure token clientIp)
    pure (.error (.unauthorized "Authentication failed: nonce required"))
  | some adminNonce =>
    match ← Prog.op (AdminOp.consumeNonce adminNonce) with
    | .ok false => pure (.error (.unauthorized "Authentication failed: nonce already used"))
    | .error _ => pure (.error (.serviceUnavailable "Authentication infrastructure unavailable"))
    | .ok true =>
      let _ ← Admin.limits (clearAuthFailures "admin" clientIp)
      pure (.ok ())

/-- The lock flag is looked up before anything else. -/
def authenticateAdminEndpoint (token clientIp : String) (headers : EndpointHeaders) : Admin (Except ApiError Unit) := do
  match ← Admin.limits (isLockedOut "admin" clientIp) with
  | .ok true => pure (.error (.forbidden "Unauthorised"))
  | .error _ => pure (.error (.serviceUnavailable "Authentication infrastructure unavailable"))
  | .ok false =>
    match resolveInternalCredential headers.authorization with
    | none =>
      let () ← Admin.limits (recordAdminAuthFailure token clientIp)
      pure (.error (.unauthorized "Missing Authorization header"))
    | some provided =>
      match boundSecret (← Prog.op (AdminOp.secret serviceToken)) with
      | none => pure (.error (.serviceUnavailable "Internal version endpoint not configured"))
      | some expectedCurrent =>
        let expectedPrevious := boundSecret (← Prog.op (AdminOp.secret serviceTokenPrevious))
        if ← Prog.op (AdminOp.verifyInternalTokenSlots provided expectedCurrent expectedPrevious) then
          admitOnce token clientIp headers
        else do
          let () ← Admin.limits (recordAdminAuthFailure token clientIp)
          pure (.error (.unauthorized "Invalid service token"))

/-! ## The endpoints -/

inductive Admission where
  | rateLimited (retryAfter : Nat)
  | denied (e : ApiError)
  | admitted
deriving DecidableEq, Repr

/-- `wrap_admin_handler`; `ipHash` is the keyed hash of the source address. -/
def wrapAdminHandler (token clientIp ipHash roleTag : String) (headers : EndpointHeaders) : Admin Admission := do
  match ← Admin.limits (adminRateLimitCheck ipHash roleTag) with
  | .error retryAfter => pure (.rateLimited retryAfter)
  | .ok () =>
    match ← authenticateAdminEndpoint token clientIp headers with
    | .error e => pure (.denied e)
    | .ok () => pure .admitted

end Admin

end Issuer
