import Issuer.BlindIssuance
import Issuer.ConfigStore
import Issuer.Jwks
import Issuer.SchemaUrl

/-!
# The whole `blind_issuance` handler

The body is parsed and checked, the attestation in it decoded and redeemed, and then the remaining fields
are looked at: `r_bits` becomes the randomness of the commitment, `validity_days` and `schema` become
the terms that are signed. The signing key is selected between the two.

The parser of attestations and the Pedersen commitment are parameters.
-/

namespace Issuer

open Rust Store

/-! ## The body -/

structure BlindIssuanceRequest where
  attestation : String
  rBits : String
  schema : Option String
  validityDays : Option Nat
deriving DecidableEq, Repr

def validateBase64String (s : String) : Bool :=
  !s.isEmpty && s.toList.all fun c => c.isAlphanum || c == '-' || c == '_'

/-- `validate_schema_url` of `types.rs`: not empty, ASCII and no control characters. -/
def validateSchemaField (s : String) : Bool :=
  !s.isEmpty && s.toList.all fun c => decide (c.toNat < 128) && !isAsciiControl c

/-- `max_length` counts graphemes: one for each character, once the field's own check has passed. -/
def BlindIssuanceRequest.validate (data : BlindIssuanceRequest) : Bool :=
  validateBase64String data.attestation && decide (data.attestation.length ≤ 1000) &&
    validateBase64String data.rBits && decide (data.rBits.length ≤ 64) &&
    data.schema.all (fun s => validateSchemaField s && decide (s.length ≤ 500)) &&
    data.validityDays.all fun days => decide (1 ≤ days ∧ days ≤ 36500)

theorem validateBase64String_encode {bytes : Bytes} (h : bytes ≠ []) :
    validateBase64String (Base64.encode bytes) = true := by
  have hchar : ∀ n, ((Base64.encodeChar n).isAlphanum || Base64.encodeChar n == '-' || Base64.encodeChar n == '_') = true := by
    intro n
    by_cases hn : n < 64
    · have halphabet : ∀ n < 64, ((Base64.encodeChar n).isAlphanum || Base64.encodeChar n == '-' ||
          Base64.encodeChar n == '_') = true := by decide
      exact halphabet n hn
    · have hlast : Base64.encodeChar n = '_' := by
        unfold Base64.encodeChar
        rw [if_neg (by omega), if_neg (by omega), if_neg (by omega), if_neg (by omega)]
      rw [hlast]
      rfl
  have hlength : 0 < (Base64.encodeChars bytes).length := by
    rw [Base64.encodeChars_length]
    have := List.length_pos_iff.mpr h
    omega
  have hne : Base64.encode bytes ≠ "" := by
    intro hempty
    have hchars := congrArg String.toList hempty
    simp only [Base64.encode, String.toList_ofList, String.toList_empty] at hchars
    rw [hchars] at hlength
    cases hlength
  simp only [validateBase64String, Bool.and_eq_true]
  refine ⟨by simpa using hne, ?_⟩
  rw [Base64.encode, String.toList_ofList]
  exact Base64.encodeChars_all hchar bytes

/-! ## The commitment -/

structure CommitLibrary where
  parseAttestation : Bytes → Option DobAttestation
  pedersenCommitDobValidated : Int → List Bool → Except String (Vector UInt8 32)

def minRBitsBytes : Nat := 16

def maxRBitsBytes : Nat := 32

def unpackBits (bytes : Bytes) : List Bool :=
  bytes.flatMap fun byte => (List.range 8).map fun i => byte.toNat.testBit (7 - i)

section
variable (J : RedJubjub)

def validateCommitmentBytes (commitment : Bytes) : Except ApiError Unit :=
  if commitment.all (· == 0) then .error (.badRequest "Invalid commitment: all zeros")
  else if !J.isSubgroupPoint commitment then .error (.badRequest "Invalid commitment: not a valid curve point")
  else .ok ()

def validateCommitmentFormat (commitmentHex : String) : Except ApiError Bytes :=
  if commitmentHex.utf8ByteSize ≠ 64 then .error (.badRequest "Commitment must be exactly 64 hex characters")
  else
    match hexDecode commitmentHex with
    | none => .error (.badRequest "Commitment must contain only hexadecimal characters")
    | some commitment => (validateCommitmentBytes J commitment).map fun _ => commitment

variable (L : CommitLibrary)

/-- Phase 8. -/
def computeCommitment (dobDays : Int) (rBits : String) : Except ApiError Bytes :=
  match Base64.decode rBits with
  | none => .error (.badRequest "Invalid r_bits encoding")
  | some rBytes =>
    if rBytes.length < minRBitsBytes ∨ maxRBitsBytes < rBytes.length then .error (.badRequest "Invalid r_bits length")
    else
      match L.pedersenCommitDobValidated dobDays (unpackBits rBytes) with
      | .error _ => .error (.badRequest "Invalid randomness for commitment")
      | .ok cBytes =>
        match validateCommitmentFormat J (hexEncode cBytes.toList) with
        | .error _ => .error (.internal "Internal server error")
        | .ok validatedBytes =>
          match validateCommitmentBytes J validatedBytes with
          | .error _ => .error (.internal "Internal server error")
          | .ok () => .ok cBytes.toList

end

/-! ## The terms -/

def maxValidityDays : Nat := 36500

def defaultSchema : String := "provii.age/0"

/-- Issue and expiry time and the schema, after the checks against the policy. -/
def issuanceTerms (T : SchemaText) (data : BlindIssuanceRequest) (policy : PolicyConfig)
    (allowedSchemaDomains : Option String) (now : Nat) : Except ApiError (Nat × Nat × String) :=
  let validityDays := min (min (data.validityDays.getD policy.validityDays) policy.validityDays) maxValidityDays
  if validityDays = 0 then .error (.badRequest "Invalid validity period")
  else
    let schemaRaw := data.schema.getD defaultSchema
    if !isAsciiIdentifier schemaRaw maxSchemaLength then .error (.badRequest "Invalid schema format")
    else
      match validateSchemaUrl T schemaRaw allowedSchemaDomains with
      | .error _ => .error (.badRequest "Invalid schema")
      | .ok schema =>
        -- without a client there is no list of allowed schemas, only the policy's own
        if !policy.schema.isEmpty && schema != policy.schema then
          .error (.forbidden "Schema not permitted for blind issuance")
        else .ok (now, satAddU64 now (satMulU64 validityDays 86400), schema)

/-! ## The handler -/

/-- One request and what the handler meets. `body` is the parsed JSON, `ipLimit` the outcome of the
limit per address, `admission` that of the limit per issuer and of the KEK preflight; `now` is the
reading that the attestation is verified at, `signingNow` the one that the signing key is selected at. -/
structure BlindCall where
  ipLimit : Except ApiError Unit
  body : Option BlindIssuanceRequest
  config : Except ApiError StoredIssuerConfig
  admission : Except ApiError Unit
  lookup : String → String → Except ApiError (Option IssuerEd25519Key)
  now : UInt64
  readings : NonceReadings
  faults : Faults
  purgeFaults : Faults
  reads : KeyReads
  keypairFails : Bool
  kek : Except ApiError KekPair
  signingNow : UInt64
  allowedSchemaDomains : Option String

def BlindCall.ingress (L : CommitLibrary) (call : BlindCall) :
    Except ApiError (BlindIssuanceRequest × DobAttestation) := do
  call.ipLimit
  match call.body with
  | none => throw (.badRequest "Invalid request format")
  | some data =>
    if !data.validate then throw (.badRequest "Invalid request")
    match Base64.decode data.attestation with
    | none => throw (.badRequest "Invalid attestation encoding")
    | some attestationBytes =>
      match L.parseAttestation attestationBytes with
      | none => throw (.badRequest "Invalid attestation format")
      | some attestation => return (data, attestation)

def BlindCall.redemption (call : BlindCall) (attestation : DobAttestation) : BlindRequest where
  attestation := attestation
  ingress := .ok ()
  admission := call.admission
  config := call.config.map StoredIssuerConfig.toIssuerConfig
  lookup := call.lookup
  now := call.now
  readings := call.readings
  faults := call.faults
  purgeFaults := call.purgeFaults

def BlindCall.signing (J : RedJubjub) (L : CommitLibrary) (T : SchemaText) (call : BlindCall)
    (data : BlindIssuanceRequest) (attestation : DobAttestation) (policy : PolicyConfig) : SigningPhase where
  commitment := computeCommitment J L attestation.dobDays data.rBits
  reads := call.reads
  keypairFails := call.keypairFails
  kek := call.kek
  now := call.signingNow
  terms := issuanceTerms T data policy call.allowedSchemaDomains (secs call.now)

structure BlindLibraries (VerifyingKey : Type) where
  attestation : AttestationCrypto VerifyingKey
  commit : CommitLibrary
  text : SchemaText
  curve : RedJubjub
  sig : CredSig
  gcm : AesGcm

def blindIssuance {VerifyingKey : Type} (B : BlindLibraries VerifyingKey) (call : BlindCall) (issuerKid : String)
    (kv : KeyKv) (s : NonceShards) : Except ApiError SignedCredentialHeader × NonceShards :=
  match call.ingress B.commit with
  | .error e => (.error e, s)
  | .ok (data, attestation) =>
    match redeemAttestation B.attestation (call.redemption attestation) s with
    | (.error e, s) => (.error e, s)
    | (.ok _, s) =>
      match call.config with
      | .error _ => (.error (.internal "Internal server error"), s)
      | .ok config =>
        (signCredential B.curve B.sig B.gcm (call.signing B.curve B.commit B.text data attestation config.defaultPolicy)
          issuerKid kv, s)

end Issuer
