import Issuer.AttestationKey
import Issuer.BlindIssuance
import Issuer.ClientAuth
import Issuer.Lib.JsonText

/-!
# Signing an attestation (`create_attestation`)

An officer or a client asks for a signed date of birth. A client signs its request: the canonical
message holds the timestamp, the date of birth, the key id and the nonce, the timestamp has to be
within 30 seconds of the clock, and the nonce is consumed. The attestation is then signed with the
key that `default_kid` of the configuration names.

Authentication of officers is in the request, apart from the nonce it consumes. The Ed25519 library
is a parameter (`AttestationLib`).
-/

namespace Issuer

open Rust

structure CreateAttestationRequest where
  dobDays : Int
  authorizer : Authorizer
deriving DecidableEq, Repr

/-! ## The signed request -/

def timestampWindowSeconds : Nat := 30

def validateTimestamp (now : UInt64) (timestamp : Nat) : Bool :=
  decide (absDiff (secs now) timestamp ≤ timestampWindowSeconds)

def createCanonicalMessageForAttestation (method path : String) (timestamp : Nat) (dobDays : Int)
    (authorizer : Authorizer) : String :=
  let formatJson := Json.quote authorizer.format
  let keyIdJson := Json.quote authorizer.keyId
  let payloadJson := "\x7b\"dob_days\":" ++ (toString dobDays ++ (",\"authorizer\":\x7b\"format\":" ++
    (formatJson ++ (",\"key_id\":" ++ (keyIdJson ++ (",\"timestamp\":" ++ (toString authorizer.timestamp ++ "\x7d\x7d")))))))
  toString timestamp ++ (":" ++ (method ++ (":" ++ (path ++ (":" ++ (payloadJson ++ (":" ++ authorizer.nonce)))))))

def CreateAttestationRequest.canonicalMessage (r : CreateAttestationRequest) : String :=
  createCanonicalMessageForAttestation "POST" "/v1/attestation/create" r.authorizer.timestamp r.dobDays r.authorizer

/-! ## One call -/

/-- A request and what it meets: `ingress` is the outcome of the limit per address, the API key, the
body and its schema, `officerGate` and `officer` those of officer authentication before and after
its nonce, `quota` that of the limit per actor. The clock is read for the date of birth (`today`), the
timestamp (`now`), the guard for minors (`age`) and the attestation (`signed`); the readings of the
nonce object are those of `client`. -/
structure CreateCall where
  request : CreateAttestationRequest
  ingress : Except ApiError Unit
  today : UInt64
  now : UInt64
  client : ClientCall
  officerGate : Except ApiError Unit
  officer : Except ApiError String
  age : UInt64
  quota : Except ApiError Unit
  configFails : Bool
  signingKeys : String → String → Except ApiError (Option IssuerEd25519SigningKey)
  kek : Except ApiError KekPair
  signed : UInt64
  nonce : Option (Vector UInt8 32)

/-- What `authenticate_client` is called with. -/
def CreateCall.clientCall (call : CreateCall) : ClientCall :=
  { call.client with authorizer := call.request.authorizer, canonicalMessage := call.request.canonicalMessage }

def nowDays (now : UInt64) : Int := min ((secs now / 86400 : Nat) : Int) i32Max

def authenticateYubikey (call : CreateCall) (nonces : NonceShards) : Except ApiError String × NonceShards :=
  match call.officerGate with
  | .error e => (.error e, nonces)
  | .ok () =>
    if call.request.authorizer.challengeId.isNone then
      (.error (.badRequest "Challenge ID required for Yubikey"), nonces)
    else
      match validateAndConsumeNonce call.client.faults call.client.purgeFaults call.client.readings
          call.request.authorizer.nonce nonces with
      | (.error e, nonces) => (.error e, nonces)
      | (.ok false, nonces) => (.error (.unauthorized "Nonce already used"), nonces)
      | (.ok true, nonces) => (call.officer, nonces)

section
variable (C : ClientCrypto)

/-- The checks up to the authenticated actor. -/
def authorizeAttestation (call : CreateCall) (w : ClientWorld) : Except ApiError String × ClientWorld :=
  match call.ingress with
  | .error e => (.error e, w)
  | .ok () =>
    if call.request.dobDays < -25000 ∨ call.request.dobDays > 36500 then
      (.error (.badRequest "Invalid dob_days: out of acceptable range"), w)
    else if call.request.dobDays > nowDays call.today then
      (.error (.badRequest "Date of birth cannot be in the future"), w)
    else if !validateTimestamp call.now call.request.authorizer.timestamp then
      (.error (.unauthorized "Invalid or expired timestamp"), w)
    else if call.request.authorizer.format = "yubikey" then
      match authenticateYubikey call w.nonces with
      | (.ok id, nonces) => (.ok id, { w with nonces := nonces })
      | (.error _, nonces) => (.error (.unauthorized "Authentication failed"), { w with nonces := nonces })
    else if call.request.authorizer.format = "client" then
      match authenticateClient C call.clientCall w with
      | (.ok client, w) => (.ok client.clientId, w)
      | (.error _, w) => (.error (.unauthorized "Authentication failed"), w)
    else (.error (.badRequest "Invalid authorizer format: must be 'yubikey' or 'client'"), w)

/-! ## The attestation -/

/-- `create` is `DobAttestation::create` with the key of a seed, `verifyingKey` that key's public half. -/
structure AttestationLib (VerifyingKey : Type) extends AttestationCrypto VerifyingKey where
  verifyingKey : (seed : Bytes) → VerifyingKey
  create : (dobDays : Int) → (issuerId : String) → (now : Nat) → (nonce : Vector UInt8 32) → (seed : Bytes) →
    Except String DobAttestation

structure CreateAttestationResponse where
  attestation : DobAttestation
  expiresAt : Nat
  issuerId : String
deriving DecidableEq, Repr

def attestationMaxAgeSeconds : Nat := 3600

def ed25519KeyAad : Bytes := bytesOf "provii-issuer:ed25519-key:v1"

def internalError : ApiError := .internal "Internal server error"

variable {VerifyingKey : Type} (L : AttestationLib VerifyingKey)

/-- New attestations are signed under `default_kid`. -/
def signAttestation (call : CreateCall) (config : IssuerConfig) : Except ApiError CreateAttestationResponse := do
  if call.configFails then throw internalError
  let some record ← (getIssuerEd25519SigningKey call.signingKeys config.issuerId config.defaultKid).mapError
      fun _ => internalError
    | throw internalError
  if record.status ≠ .active then throw internalError
  let kekPair ← call.kek.mapError fun _ => internalError
  let seed ← (decryptWithKekFallback C.gcm kekPair record.signingKey ed25519KeyAad).mapError fun _ => internalError
  if seed.length ≠ 32 then throw internalError
  let now := secs call.signed
  let some nonce := call.nonce | throw internalError
  let attestation ← (L.create call.request.dobDays config.issuerId now nonce seed).mapError fun _ => internalError
  return ⟨attestation, satAddU64 now attestationMaxAgeSeconds, config.issuerId⟩

def createAttestation (call : CreateCall) (w : ClientWorld) (config : IssuerConfig) :
    Except ApiError CreateAttestationResponse × ClientWorld :=
  match authorizeAttestation C call w with
  | (.error e, w) => (.error e, w)
  | (.ok _, w) =>
    if call.request.authorizer.format = "client" ∧ satSubI32 (nowDays call.age) call.request.dobDays < 6574 then
      (.error (.badRequest "Attestation rejected: client auth not permitted for minors"), w)
    else
      match call.quota with
      | .error e => (.error e, w)
      | .ok () => (signAttestation C L call config, w)

/-! ## Runs

Between two requests the nonce objects serve other callers and clean up, and `ISSUER_CLIENTS` may be
written by anyone.
-/

inductive AttestStep where
  | create (call : CreateCall)
  | consume (fl pfl : Faults) (r : NonceReadings) (nonce : String) (ttl : Nat)
  | alarm (shard : Fin nonceDoShardCount) (fl : Faults) (now arm : UInt64)
  | purge (shard : Fin nonceDoShardCount) (fl : Faults) (now : UInt64)
  | clients (kv : ClientKv) (now : UInt64)

namespace AttestStep

def apply (w : ClientWorld) : AttestStep → ClientWorld
  | .create call => (authorizeAttestation C call w).2
  | .consume fl pfl r nonce ttl => { w with nonces := (nonceDoCheckAndSet fl pfl r nonce ttl w.nonces).2 }
  | .alarm i fl now arm => { w with nonces := Function.update w.nonces i ((w.nonces i).onAlarm fl now arm) }
  | .purge i fl now =>
    match purgeExpiredNonces fl (secs now) (w.nonces i).storage with
    | .ok m => { w with nonces := Function.update w.nonces i { w.nonces i with storage := m } }
    | .error _ => w
  | .clients kv _ => { w with clients := kv }

def start : AttestStep → Nat
  | .create call => secs call.client.readings.check
  | .consume _ _ r _ _ => secs r.check
  | .alarm _ _ now _ => secs now
  | .purge _ _ now => secs now
  | .clients _ now => secs now

def stop : AttestStep → Nat
  | .create call => secs call.client.readings.arm
  | .consume _ _ r _ _ => secs r.arm
  | .alarm _ _ _ arm => secs arm
  | .purge _ _ now => secs now
  | .clients _ now => secs now

/-- The clock does not go back within a step, and the nonce object serves a request within `lag`
seconds of the reading its timestamp is compared with. -/
def Timely (lag : Nat) : AttestStep → Prop
  | .create call => call.client.readings.Ordered ∧ secs call.now ≤ secs call.client.readings.check ∧
      secs call.client.readings.check ≤ secs call.now + lag
  | .consume _ _ r _ _ => r.Ordered
  | .alarm _ _ now arm => now ≤ arm
  | _ => True

instance decidableTimely (lag : Nat) : ∀ i : AttestStep, Decidable (i.Timely lag)
  | .create call => inferInstanceAs (Decidable (call.client.readings.Ordered ∧
      secs call.now ≤ secs call.client.readings.check ∧ secs call.client.readings.check ≤ secs call.now + lag))
  | .consume _ _ r _ _ => inferInstanceAs (Decidable r.Ordered)
  | .alarm _ _ now arm => inferInstanceAs (Decidable (now ≤ arm))
  | .purge .. => inferInstanceAs (Decidable True)
  | .clients .. => inferInstanceAs (Decidable True)

/-- The step accepts `request`: its timestamp, and the client that signed it. -/
def accepts (request : CreateAttestationRequest) (w : ClientWorld) : AttestStep → Bool
  | .create call => decide (call.request = request) && (authorizeAttestation C call w).1.isOk
  | _ => false

end AttestStep

end

end Issuer
