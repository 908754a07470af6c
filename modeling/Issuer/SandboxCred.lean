import Issuer.ClientAuth
import Issuer.Lib.Runs

/-!
# Sandbox credentials (`register_test_issuer`)

The sandbox mints a client with a lifetime of 72 hours, which is kept only as the lifetime of the
client's entry in `ISSUER_CLIENTS`. `update_client_last_used` puts the entry back without one, so
the first authentication makes the credential last for ever. A credential that is never
authenticated in its 72 hours dies after them.
-/

namespace Issuer

open Rust Store Runs

def sandboxTtlSeconds : Nat := 259200

/-- A request and what it drew and read. `gate` is the outcome of the environment check, the body
and HMAC checks and the limit per address; `now` the reading for `created_at`, `put` the time of the
write. -/
structure MintRequest where
  environment : String
  gate : Except ApiError Unit
  issuerLabel : String
  hmacSecret : Vector UInt8 32
  clientSuffix : Vector UInt8 6
  gcmNonce : Vector UInt8 12
  kek : Except ApiError KekPair
  config : Except ApiError IssuerConfig
  now : UInt64
  put : UInt64
  putFails : Bool

def MintRequest.clientId (r : MintRequest) : String := "cl_iss_sandbox_" ++ hexEncode r.clientSuffix.toList

section
variable (C : ClientCrypto)

def MintRequest.record (r : MintRequest) (hmacSecretEncrypted : Bytes) : ClientRegistration where
  clientId := r.clientId
  clientName := r.issuerLabel
  apiKeyHash := []
  hmacSecret := hmacSecretEncrypted
  createdAt := nowEpochSecs r.now
  lastUsed := none
  rateLimit := 1000
  allowedSchemas := []
  maxValidityDays := 365
  active := true
  encrypted := true
  secretStatus := .active
  previousHmacSecret := none
  role := .issuer
  kvKey := none

def registerTestIssuer (r : MintRequest) (w : ClientWorld) : Except ApiError String × ClientWorld :=
  if r.environment ≠ "sandbox" then (.error (.notFound "Not Found"), w)
  else
    match r.gate, r.kek with
    | .error e, _ => (.error e, w)
    | .ok (), .error _ => (.error (.internal "Internal server error"), w)
    | .ok (), .ok kekPair =>
      match encryptWithKek C.gcm r.gcmNonce kekPair.current r.hmacSecret.toList sessionAad, r.config with
      | .error _, _ => (.error (.internal "Internal server error"), w)
      | .ok _, .error _ => (.error (.internal "Internal server error"), w)
      | .ok hmacSecretEncrypted, .ok config =>
        let key := clientKey (extractIssuerKid config.issuerId) r.clientId
        match kvPut r.putFails w.clients r.put (some sandboxTtlSeconds) key (r.record hmacSecretEncrypted).stored with
        | .error () => (.error (.internal "Internal server error"), w)
        | .ok clients => (.ok r.clientId, { w with clients := clients })

/-! ## Runs of authentications -/

inductive ClientStep where
  | authenticate (call : ClientCall)
  | alarm (shard : Fin nonceDoShardCount) (fl : Faults) (now arm : UInt64)

def ClientStep.apply (w : ClientWorld) : ClientStep → ClientWorld
  | .authenticate call => (authenticateClient C call w).2
  | .alarm i fl now arm => { w with nonces := Function.update w.nonces i ((w.nonces i).onAlarm fl now arm) }

/-- The configuration, where it can be read, names one issuer. -/
def ClientStep.ForIssuer (issuerKid : String) : ClientStep → Prop
  | .authenticate call => ∀ config, call.config = .ok config → extractIssuerKid config.issuerId = issuerKid
  | .alarm .. => True

/-- The call passes the checks for `clientId`, so that it goes on to write the time of use. -/
def Renews (clientId : String) (w : ClientWorld) : ClientStep → Bool
  | .authenticate call => call.authorizer.keyId == clientId && call.authorizer.challengeId.isNone &&
      (match (validateAndConsumeNonce call.faults call.purgeFaults call.readings call.authorizer.nonce w.nonces).1 with
        | .ok fresh => fresh
        | .error _ => false) && (checkClient C call w.clients).isOk
  | .alarm .. => false

end

end Issuer
