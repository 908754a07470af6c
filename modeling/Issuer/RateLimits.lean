import Issuer.Lockout
import Issuer.ShardedLimit

/-!
# The other counters of the rate-limit namespace

`check_quota` counts per customer and endpoint, the nonce tripwire per issuer, `admin_rate_limit_check` per
role and source address; `check_blind_issuance` counts per address under the label of its caller. The
limit of a customer comes from another namespace: `customerLimit` is what `get_customer_limit`
answers in this call for the hour it is given.
-/

namespace Issuer

open Rust

/-! ## Quotas -/

/-- The endpoints that have one, with their labels. -/
inductive QuotaEndpoint where
  | keyRotate
  | keyHealth
  | attestationKeyRotate
  | attestation
deriving DecidableEq, Repr

def QuotaEndpoint.label : QuotaEndpoint → String
  | .keyRotate => "key_rotate"
  | .keyHealth => "key_health"
  | .attestationKeyRotate => "attestation_key_rotate"
  | .attestation => "attestation"

def quotaKey (clientId endpoint : String) (hour : Nat) : String :=
  "quota:" ++ clientId ++ "|" ++ endpoint ++ "|" ++ toString hour

def checkQuota (customerLimit : Nat → Nat) (clientId endpoint : String) : Limits RateLimitResult := do
  let hour := hourOf (← Limits.now)
  let (allowed, count, limit, readFailed) ← checkKvCounter (quotaKey clientId endpoint hour) (customerLimit hour) 7200
  let nowActual := secs (← Limits.now)
  pure ⟨allowed, count, limit, min (satAddU64 hour 3600 - nowActual) u32Max, readFailed⟩

/-! ## Addresses -/

/-- The callers of `check_blind_issuance`. -/
inductive IpLabel where
  | challenge
  | blind
  | attestation
  | globalPost
  | globalGet
  | authfail
  | registerTestIssuer
deriving DecidableEq, Repr

def IpLabel.label : IpLabel → String
  | .challenge => "challenge_ip"
  | .blind => "blind_ip"
  | .attestation => "attestation_ip"
  | .globalPost => "global_post"
  | .globalGet => "global_get"
  | .authfail => "authfail_ip"
  | .registerTestIssuer => "register_test_issuer"

def ipKey (caller : IpLabel) (ipHash : String) : String := caller.label ++ ":" ++ ipHash

/-! ## The nonce tripwire -/

def nonceRateKey (hashedIssuerId : String) (hour : Nat) : String := "nonce:" ++ hashedIssuerId ++ "|" ++ toString hour

/-! ## The internal admin endpoints -/

def adminRlLimitPerHour : Nat := 10

def adminRlKey (roleTag ipHash : String) (hour : Nat) : String :=
  "admin_rl:" ++ roleTag ++ ":" ++ ipHash ++ ":" ++ toString hour

/-- The role tag of `DELETE /_internal/test-fixtures/{class}`; the class is what stands in the path. -/
def fixtureRoleTag (fixtureClass : String) : String := "admin-fixture:" ++ fixtureClass

/-- `Err(retry_after)` rejects the request, after a failing read as well. -/
def adminRateLimitCheck (ipHash roleTag : String) : Limits (Except Nat Unit) := do
  let now ← Limits.now
  let hourKey := adminRlKey roleTag ipHash (hourOf now)
  match ← Limits.kvGet hourKey with
  | .error () => pure (.error 60)
  | .ok data =>
    let current := (data.bind parseU32).getD 0
    if current ≥ adminRlLimitPerHour then pure (.error (satAddU64 (hourOf now) 3600 - secs now))
    else do
      let _ ← Limits.kvPut (some 7200) hourKey (toString (satAddU32 current 1))
      pure (.ok ())

end Issuer
