import Issuer.NonceDo

/-!
# Redeeming an attestation (`blind_issuance`, phases 1 to 7)

A request carries a signed date-of-birth attestation. The handler checks the issuer, collects the
verifying keys that may have signed it (`default_kid`, then `previous_kid`), consumes the
attestation's nonce and only then tries the signature against each candidate.

The Ed25519 library is a parameter (`AttestationCrypto`). What the handler got from the rate
limits, the KEK preflight, the configuration and the key namespace is part of the request.
-/

namespace Issuer

open Rust

structure DobAttestation where
  issuerId : String
  dobDays : Int
  timestamp : Nat
  nonce : Vector UInt8 32
  signature : List UInt8
deriving DecidableEq, Repr

def DobAttestation.nonceHex (a : DobAttestation) : String := hexEncode a.nonce.toList

structure AttestationCrypto (VerifyingKey : Type) where
  fromBytes : List UInt8 → Option VerifyingKey
  verifyWithTimestamp : DobAttestation → VerifyingKey → Nat → Except String Unit

structure IssuerEd25519Key where
  issuerName : String
  verifyingKey : List UInt8
  validFrom : Nat
  validUntil : Nat
  active : Bool
deriving DecidableEq, Repr

/-! ## Candidates -/

inductive EligibilityReject where
  | inactive
  | notYetValid
  | expired
  | verifyingKeyDecode
deriving DecidableEq, Repr

def EligibilityReject.reason : EligibilityReject → String
  | .inactive => "key_inactive"
  | .notYetValid => "key_outside_validity"
  | .expired => "key_outside_validity"
  | .verifyingKeyDecode => "verifying_key_decode"

section
variable {VerifyingKey : Type} (C : AttestationCrypto VerifyingKey)

def isEligible (record : IssuerEd25519Key) (now : Nat) : Except EligibilityReject VerifyingKey :=
  if !record.active then .error .inactive
  else if now < record.validFrom then .error .notYetValid
  -- `valid_until == 0` means no expiry
  else if record.validUntil ≠ 0 ∧ now > record.validUntil then .error .expired
  else
    match C.fromBytes record.verifyingKey with
    | some vk => .ok vk
    | none => .error .verifyingKeyDecode

def trialVerifyCandidateSlots (config : IssuerConfig) : List (String × String) :=
  ("default_kid", config.defaultKid) ::
    match config.previousKid with
    | some prev => [("previous_kid", prev)]
    | none => []

structure Candidate (VerifyingKey : Type) where
  slot : String
  kid : String
  vk : VerifyingKey
  issuerName : String

/-- The loop over the candidate slots: the candidates so far and the last reason a slot was passed
over. A failing lookup ends it. -/
def collectCandidates (lookup : String → Except ApiError (Option IssuerEd25519Key)) (now : Nat) :
    List (String × String) → List (Candidate VerifyingKey) → Option (String × String) →
      Except ApiError (List (Candidate VerifyingKey) × Option (String × String))
  | [], candidates, lastFailure => .ok (candidates, lastFailure)
  | (slot, kid) :: slots, candidates, lastFailure =>
    match lookup kid with
    | .error _ => .error (.internal "Internal server error")
    | .ok none => collectCandidates lookup now slots candidates (some (slot, "key_record_missing"))
    | .ok (some record) =>
      match isEligible C record now with
      | .ok vk =>
        collectCandidates lookup now slots (candidates ++ [⟨slot, kid, vk, record.issuerName⟩]) lastFailure
      | .error reject => collectCandidates lookup now slots candidates (some (slot, reject.reason))

/-- The first candidate whose verification succeeds, else the last error. -/
def trialVerify (attestation : DobAttestation) (now : Nat) :
    List (Candidate VerifyingKey) → String → Except String (Candidate VerifyingKey)
  | [], lastError => .error lastError
  | c :: candidates, _ =>
    match C.verifyWithTimestamp attestation c.vk now with
    | .ok () => .ok c
    | .error e => trialVerify attestation now candidates e

/-! ## The handler -/

/-- One request and what its reads returned. `ingress` is the outcome of the limit per address and
of the body checks, `admission` that of the limit per issuer and of the KEK preflight. `now` is the
worker's clock reading, `readings` are those of the nonce object. -/
structure BlindRequest where
  attestation : DobAttestation
  ingress : Except ApiError Unit
  admission : Except ApiError Unit
  config : Except ApiError IssuerConfig
  lookup : String → String → Except ApiError (Option IssuerEd25519Key)
  now : UInt64
  readings : NonceReadings
  faults : Faults
  purgeFaults : Faults

/-- `get_issuer_ed25519_key`. -/
def getIssuerEd25519Key (read : String → String → Except ApiError (Option IssuerEd25519Key))
    (issuerId kid : String) : Except ApiError (Option IssuerEd25519Key) := do
  validateIdentifier issuerId "issuer_id"
  validateIdentifier kid "kid"
  read issuerId kid

def redeemAttestation (r : BlindRequest) (s : NonceShards) :
    Except ApiError (Candidate VerifyingKey) × NonceShards :=
  match r.ingress, r.config with
  | .error e, _ => (.error e, s)
  | .ok (), .error _ => (.error (.internal "Internal server error"), s)
  | .ok (), .ok config =>
    if r.attestation.issuerId ≠ config.issuerId then
      (.error (.forbidden "Unknown or unregistered issuer"), s)
    else
      match r.admission with
      | .error e => (.error e, s)
      | .ok () =>
        let lookup := getIssuerEd25519Key r.lookup r.attestation.issuerId
        match collectCandidates C lookup (secs r.now) (trialVerifyCandidateSlots config) [] none with
        | .error e => (.error e, s)
        | .ok ([], _) => (.error (.forbidden "Unknown or unregistered issuer"), s)
        | .ok (candidates, _) =>
          -- the nonce is consumed before any signature is checked
          match validateAndConsumeAttestationNonce r.faults r.purgeFaults r.readings
              r.attestation.nonceHex s with
          | (.error _, s) => (.error (.internal "Internal server error"), s)
          | (.ok false, s) => (.error (.invalidStateTransition "Attestation has already been used"), s)
          | (.ok true, s) =>
            match trialVerify C r.attestation (secs r.now) candidates "no_candidates" with
            | .ok c => (.ok c, s)
            | .error _ => (.error (.forbidden "Attestation verification failed"), s)

/-! ## Runs

The nonce objects serve redemptions, the nonces of request authentication, their alarms and the
purge of expired entries.
-/

inductive NonceStep where
  | blindIssuance (r : BlindRequest)
  | authNonce (fl pfl : Faults) (r : NonceReadings) (nonce : String)
  | alarm (shard : Fin nonceDoShardCount) (fl : Faults) (now arm : UInt64)
  | purge (shard : Fin nonceDoShardCount) (fl : Faults) (now : UInt64)

def NonceStep.apply (s : NonceShards) : NonceStep → NonceShards
  | .blindIssuance r => (redeemAttestation C r s).2
  | .authNonce fl pfl r nonce => (validateAndConsumeNonce fl pfl r nonce s).2
  | .alarm i fl now arm => Function.update s i ((s i).onAlarm fl now arm)
  | .purge i fl now =>
    match purgeExpiredNonces fl (secs now) (s i).storage with
    | .ok m => Function.update s i { s i with storage := m }
    | .error _ => s

def NonceStep.start : NonceStep → Nat
  | .blindIssuance r => secs r.readings.check
  | .authNonce _ _ r _ => secs r.check
  | .alarm _ _ now _ => secs now
  | .purge _ _ now => secs now

def NonceStep.stop : NonceStep → Nat
  | .blindIssuance r => secs r.readings.arm
  | .authNonce _ _ r _ => secs r.arm
  | .alarm _ _ _ arm => secs arm
  | .purge _ _ now => secs now

def NonceReadings.Ordered (r : NonceReadings) : Prop :=
  r.check ≤ r.purge ∧ r.purge ≤ r.create ∧ r.create ≤ r.arm

instance NonceReadings.decidableOrdered (r : NonceReadings) : Decidable r.Ordered :=
  inferInstanceAs (Decidable (r.check ≤ r.purge ∧ r.purge ≤ r.create ∧ r.create ≤ r.arm))

/-- The clock does not go back within a step, and the nonce object serves a redemption within `lag`
seconds of the worker's reading. -/
def NonceStep.Timely (lag : Nat) : NonceStep → Prop
  | .blindIssuance r => r.readings.Ordered ∧ secs r.now ≤ secs r.readings.check ∧
      secs r.readings.check ≤ secs r.now + lag
  | .authNonce _ _ r _ => r.Ordered
  | .alarm _ _ now arm => now ≤ arm
  | .purge .. => True

instance NonceStep.decidableTimely (lag : Nat) : ∀ i : NonceStep, Decidable (i.Timely lag)
  | .blindIssuance r => inferInstanceAs (Decidable (r.readings.Ordered ∧
      secs r.now ≤ secs r.readings.check ∧ secs r.readings.check ≤ secs r.now + lag))
  | .authNonce _ _ r _ => inferInstanceAs (Decidable r.Ordered)
  | .alarm _ _ now arm => inferInstanceAs (Decidable (now ≤ arm))
  | .purge .. => inferInstanceAs (Decidable True)

def redeems (attestation : DobAttestation) (s : NonceShards) : NonceStep → Bool
  | .blindIssuance r => decide (r.attestation = attestation) && (redeemAttestation C r s).1.isOk
  | _ => false

end

end Issuer
