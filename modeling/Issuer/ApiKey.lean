import Issuer.Registration

/-!
# API keys (`ClientAuthVerifier`)

The first bytes of an API key name a client in the index of `RATE_LIMIT_CONFIG`. The client's record is looked for at
two keys of `ISSUER_CLIENTS`, its Argon2id hash is decrypted and checked, and its secrets are opened. Argon2id is a
parameter.
-/

namespace Issuer

open Rust Store

structure ApiKeyCrypto extends ClientCrypto where
  verifyApiKey : (apiKey storedHash : String) → Bool

/-! ## The index -/

def apiKeyPrefixLength : Nat := 8

/-- The first `n` bytes, where they end a character. -/
def takeBytes (n : Nat) : List Char → Option (List Char)
  | [] => if n = 0 then some [] else none
  | c :: cs =>
    if n = 0 then some []
    else if c.utf8Size ≤ n then (takeBytes (n - c.utf8Size) cs).map (c :: ·)
    else none

def indexKey (apiKey : String) : String :=
  "key_prefix:" ++ ((takeBytes apiKeyPrefixLength apiKey.toList).map String.ofList).getD apiKey

/-! ## One verification -/

/-- What the reads of a verification return: `hashKek` and `kek` are the outcomes of `get_kek_pair` for the hash and
for the secrets, `candidateFails` says which reads of `ISSUER_CLIENTS` fail. -/
structure ApiKeyCall where
  clientsBound : Bool
  indexBound : Bool
  now : UInt64
  indexFails : Bool
  candidateFails : String → Bool
  hashKek : Except ApiError KekPair
  kek : Except ApiError KekPair

def invalidApiKey : ApiError := .unauthorized "Invalid API key"

def authInfrastructureUnavailable : ApiError := .serviceUnavailable "Authentication infrastructure unavailable"

def candidates (clientId : String) : List String := [clientId, "client:" ++ clientId]

section
variable (C : ApiKeyCrypto) (call : ApiKeyCall)

def openPrevious (kekPair : KekPair) (prev : Bytes) : Except ApiError Bytes := do
  let decryptedPrev ← decryptWithKekFallback C.gcm kekPair prev sessionAad
  if decryptedPrev.length ≠ 32 then throw (.cryptoError "Previous HMAC secret has invalid length after decryption")
  return decryptedPrev

def openVerified (client : ClientRegistration) : Except ApiError ClientRegistration :=
  if client.encrypted then do
    let kekPair ← call.kek
    let hmacSecret ← decryptWithKekFallback C.gcm kekPair client.hmacSecret sessionAad
    if hmacSecret.length ≠ 32 then throw (.cryptoError "HMAC secret has invalid length after decryption")
    let previousHmacSecret ← client.previousHmacSecret.mapM (openPrevious C kekPair)
    return { client with hmacSecret, previousHmacSecret }
  else .ok client

def verifyCandidates (clients : ClientKv) (clientId apiKey : String) : List String → Except ApiError ClientRegistration
  | [] => .error invalidApiKey
  | kvKey :: rest =>
    match readClient (call.candidateFails kvKey) clients call.now kvKey with
    | .ok (some client) =>
      if client.clientId = clientId then
        if client.active then
          match decryptApiKeyHash C.gcm call.hashKek client.apiKeyHash with
          | .ok hash =>
            if C.verifyApiKey apiKey hash then openVerified C call { client with kvKey := some kvKey }
            else verifyCandidates clients clientId apiKey rest
          | .error _ => verifyCandidates clients clientId apiKey rest
        else .error invalidApiKey
      else verifyCandidates clients clientId apiKey rest
    | _ => verifyCandidates clients clientId apiKey rest

def verifySingleClient (clients : ClientKv) (clientId apiKey : String) : Except ApiError ClientRegistration :=
  verifyCandidates C call clients clientId apiKey (candidates clientId)

/-- A miss of the index also verifies a dummy hash, for the time it takes. -/
def verifyApiKey (index : Kv String) (clients : ClientKv) (apiKey : String) : Except ApiError ClientRegistration :=
  if !call.clientsBound then .error (.storageError "Failed to get KV namespace")
  else if apiKey.utf8ByteSize < apiKeyPrefixLength then .error invalidApiKey
  else if !call.indexBound then .error authInfrastructureUnavailable
  else
    match kvGet call.indexFails index call.now (indexKey apiKey) with
    | .error () => .error authInfrastructureUnavailable
    | .ok none => .error invalidApiKey
    | .ok (some clientId) =>
      match verifySingleClient C call clients clientId apiKey with
      | .ok client => .ok client
      | .error _ => .error invalidApiKey

end

end Issuer
