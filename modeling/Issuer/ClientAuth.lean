import Issuer.Kek
import Issuer.NonceDo

/-!
# Client authentication (`authenticate_client`)

A client signs its requests with an HMAC secret that is stored encrypted in `ISSUER_CLIENTS`. The
call consumes the request's nonce, loads the client, checks the HMAC under the current secret and,
during a rotation, under the previous one, and writes the client back with the time of use.

The stored texts are modelled as decoded records or as texts that do not decode. HMAC-SHA256 and
AES-256-GCM are parameters.
-/

namespace Issuer

open Rust Store

inductive Role where
  | admin
  | issuer
  | viewer
deriving DecidableEq, Repr

structure ClientRegistration where
  clientId : String
  clientName : String
  apiKeyHash : Bytes
  hmacSecret : Bytes
  createdAt : Int
  lastUsed : Option Int
  rateLimit : Nat
  allowedSchemas : List String
  maxValidityDays : Nat
  active : Bool
  encrypted : Bool
  secretStatus : KeyStatus
  previousHmacSecret : Option Bytes
  role : Role
  kvKey : Option String
deriving DecidableEq, Repr

structure Authorizer where
  format : String
  keyId : String
  challengeId : Option String
  timestamp : Nat
  hmac : String
  nonce : String
deriving DecidableEq, Repr

structure ClientCrypto where
  gcm : AesGcm
  hmacSha256 : (key message : Bytes) → Bytes

abbrev ClientKv := Kv (Cell ClientRegistration)

def clientKey (issuerKid clientId : String) : String := "issuer:" ++ issuerKid ++ ":client:" ++ clientId

/-- The fields that are written; `kv_key` is skipped. -/
def ClientRegistration.stored (c : ClientRegistration) : Cell ClientRegistration := .record { c with kvKey := none }

def readClient (fails : Bool) (kv : ClientKv) (now : UInt64) (key : String) :
    Except ApiError (Option ClientRegistration) :=
  match kvGet fails kv now key with
  | .error () => .error (.storageError "Failed to get client")
  | .ok none => .ok none
  | .ok (some .garbled) => .error .json
  | .ok (some (.record c)) => .ok (some c)

def sessionAad : Bytes := bytesOf "provii-issuer:session:v1"

/-! ## One call -/

/-- A request of a client and what its reads returned: `config` and `kek` are the outcomes of
`get_issuer_config` and `get_kek_pair`, `lookup`, `reread` and `write` the clock at the two reads of
the client and at the write, with the flags that they fail. -/
structure ClientCall where
  authorizer : Authorizer
  canonicalMessage : String
  readings : NonceReadings
  faults : Faults
  purgeFaults : Faults
  config : Except ApiError IssuerConfig
  kek : Except ApiError KekPair
  lookup : UInt64
  lookupFails : Bool
  reread : UInt64
  rereadFails : Bool
  write : UInt64
  writeFails : Bool

section
variable (C : ClientCrypto)

def getClientById (call : ClientCall) (clientId : String) (kv : ClientKv) : Except ApiError (Option ClientRegistration) := do
  validateIdentifier clientId "client_id"
  let config ← call.config
  let key := clientKey (extractIssuerKid config.issuerId) clientId
  match ← readClient call.lookupFails kv call.lookup key with
  | none => return none
  | some client =>
    if !client.active then return none
    else if !client.encrypted then throw (.cryptoError "Unencrypted HMAC secret not supported")
    else
      let kekPair ← call.kek
      let hmacSecret ← decryptWithKekFallback C.gcm kekPair client.hmacSecret sessionAad
      let previousHmacSecret ← client.previousHmacSecret.mapM fun prev =>
        decryptWithKekFallback C.gcm kekPair prev sessionAad
      return some { client with hmacSecret, previousHmacSecret, kvKey := some key }

def ClientRegistration.hmacValid (client : ClientRegistration) (message tag : Bytes) : Bool :=
  C.hmacSha256 client.hmacSecret message == tag ||
    client.previousHmacSecret.any fun prev => C.hmacSha256 prev message == tag

/-- The entry is put back without a lifetime. -/
def updateClientLastUsed (call : ClientCall) (client : ClientRegistration) (kv : ClientKv) :
    Except ApiError Unit × ClientKv :=
  match validateIdentifier client.clientId "client_id", client.kvKey with
  | .error e, _ => (.error e, kv)
  | .ok (), none => (.error (.storageError "Client KV key not set during authentication"), kv)
  | .ok (), some key =>
    match readClient call.rereadFails kv call.reread key with
    | .error e => (.error e, kv)
    | .ok none => (.error (.notFound "Client not found"), kv)
    | .ok (some data) =>
      let data := { data with lastUsed := some (nowEpochSecs call.write) }
      match kvPut call.writeFails kv call.write none key data.stored with
      | .error () => (.error (.storageError "Failed to execute KV put"), kv)
      | .ok kv => (.ok (), kv)

structure ClientWorld where
  nonces : NonceShards
  clients : ClientKv

def clientAuthFailure : ApiError := .unauthorized "Authentication failed"

/-- The checks of a call after its nonce: the client and its HMAC. -/
def checkClient (call : ClientCall) (kv : ClientKv) : Except ApiError ClientRegistration :=
  match getClientById C call call.authorizer.keyId kv with
  | .error _ => .error clientAuthFailure
  | .ok none => .error clientAuthFailure
  | .ok (some client) =>
    match hexDecode call.authorizer.hmac with
    | none => .error clientAuthFailure
    | some tag =>
      if client.hmacValid C (bytesOf call.canonicalMessage) tag then .ok client else .error clientAuthFailure

def authenticateClient (call : ClientCall) (w : ClientWorld) : Except ApiError ClientRegistration × ClientWorld :=
  if call.authorizer.challengeId.isSome then (.error (.badRequest "Challenge ID not allowed for client auth"), w)
  else
    match validateAndConsumeNonce call.faults call.purgeFaults call.readings call.authorizer.nonce w.nonces with
    | (.error e, nonces) => (.error e, { w with nonces := nonces })
    | (.ok false, nonces) => (.error (.unauthorized "Nonce already used"), { w with nonces := nonces })
    | (.ok true, nonces) =>
      match checkClient C call w.clients with
      | .error e => (.error e, { w with nonces := nonces })
      | .ok client =>
        match updateClientLastUsed call client w.clients with
        | (.error e, clients) => (.error e, ⟨nonces, clients⟩)
        | (.ok (), clients) => (.ok client, ⟨nonces, clients⟩)

end

end Issuer
