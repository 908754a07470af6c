import Issuer.Challenge
import Issuer.Lockout
import Issuer.Registration

/-!
# Officer authentication (`authenticate_yubikey`)

An officer answers a challenge with an HMAC-SHA1. The call looks at the lock flag of the officer at this source
address first, consumes the nonce and the challenge, checks the answer under the current secret and, during a
rotation, under the previous one, and on success clears counter and lock flag.

`token` is the random lock token of the call, `hashIp` the keyed hash of the audit context.
-/

namespace Issuer

open Rust Store

structure OfficerCrypto where
  gcm : AesGcm
  hmacSha1 : (key message : Bytes) → Bytes

/-! ## Operations -/

inductive OfficerOp where
  | limits (o : LimitsOp)
  | consumeNonce (nonce : String)
  | challenge (consume : Bool) (challengeId : String)
  | getOfficer (officerId : String)
  | updateLastUsed (officerId : String)
deriving DecidableEq, Repr

abbrev OfficerOp.Ans : OfficerOp → Type
  | .limits o => o.Ans
  | .consumeNonce _ => Except ApiError Bool
  | .challenge _ _ => Except ApiError (Option StoredChallenge)
  | .getOfficer _ => Except ApiError (Option OfficerRegistration)
  | .updateLastUsed _ => Except ApiError Unit

abbrev Officer := Prog OfficerOp OfficerOp.Ans

abbrev Officer.limits {α : Type} (p : Limits α) : Officer α := p.lift OfficerOp.limits fun _ x => x

/-- `limits.locks` also keeps which challenges have been consumed. -/
structure OfficerWorld where
  limits : LimitsWorld
  nonces : NonceShards
  challenges : ChallengeKv
  officers : Table String (Cell Json)

/-- What an operation meets: a tick of the rate-limit namespace, the faults and clock readings of nonce and challenge,
and the configuration and the keys of the moment. `officerFails` is the failure of a read or write of the registry. -/
structure OfficerTick extends Tick where
  purgeFaults : Faults
  nonceReadings : NonceReadings
  challengeFaults : KvFaults
  consumeReadings : ConsumeReadings
  challengeReadings : ChallengeReadings
  config : Except ApiError IssuerConfig
  kek : Except ApiError KekPair
  officerFails : Bool

def OfficerTick.officer (t : OfficerTick) (A : AesGcm) (officerId : String) (officers : Table String (Cell Json)) :
    Except ApiError (Option OfficerRegistration) := do
  validateIdentifier officerId "officer_id"
  let config ← t.config
  getOfficerById A t.officerFails (extractIssuerKid config.issuerId) officerId t.kek officers

def OfficerTick.update (t : OfficerTick) (officerId : String) (officers : Table String (Cell Json)) :
    Except ApiError (Table String (Cell Json)) := do
  validateIdentifier officerId "officer_id"
  let config ← t.config
  let key := officerKey (extractIssuerKid config.issuerId) officerId
  if t.officerFails then throw (.storageError "Failed to get officer")
  match officers[key]? with
  | none => throw (.notFound "Officer not found")
  | some .garbled => throw .json
  | some (.record j) =>
    match OfficerRegistration.ofJson j with
    | none => throw .json
    | some officer => return officers.insert key (.record { officer with lastUsed := some (nowEpochSecs t.now) }.toJson)

def OfficerWorld.handle (A : AesGcm) (w : OfficerWorld) (t : OfficerTick) : (o : OfficerOp) → o.Ans × OfficerWorld
  | .limits o => ((w.limits.handle t.toTick o).1, { w with limits := (w.limits.handle t.toTick o).2 })
  | .consumeNonce nonce =>
    let (answer, nonces) := validateAndConsumeNonce t.faults t.purgeFaults t.nonceReadings nonce w.nonces
    (answer, { w with nonces := nonces })
  | .challenge true challengeId =>
    let (answer, locks, challenges) := getAndConsumeChallenge t.faults t.challengeFaults t.consumeReadings t.challengeReadings
      challengeId w.limits.locks w.challenges
    (answer, { w with limits := { w.limits with locks := locks }, challenges := challenges })
  | .challenge false challengeId =>
    let (answer, challenges) := getChallenge t.challengeFaults t.challengeReadings.read t.challengeReadings.check challengeId
      w.challenges
    (answer, { w with challenges := challenges })
  | .getOfficer officerId => (t.officer A officerId w.officers, w)
  | .updateLastUsed officerId =>
    match t.update officerId w.officers with
    | .error e => (.error e, w)
    | .ok officers => (.ok (), { w with officers := officers })

/-! ## The call -/

def OfficerRegistration.hmacValid (C : OfficerCrypto) (officer : OfficerRegistration) (challenge tag : Bytes) : Bool :=
  C.hmacSha1 officer.hmacSecret challenge == tag ||
    officer.previousHmacSecret.any fun prev => C.hmacSha1 prev challenge == tag

namespace Officer

variable (C : OfficerCrypto) (hashIp : String → String) (token : String)

/-- From the HMAC on. A failure to clear is only logged. -/
def answerChallenge (authorizer : Authorizer) (clientIp : String) (stored : StoredChallenge) (officer : OfficerRegistration) :
    Officer (Except ApiError String) := do
  match hexDecode authorizer.hmac with
  | none => pure (.error (← Officer.limits (recordOfficerFailureAndReject hashIp token authorizer.keyId clientIp)))
  | some tag =>
    if officer.hmacValid C stored.challenge tag then
      let _ ← Officer.limits (clearAuthFailures "officer" (officerLockoutActorId hashIp authorizer.keyId clientIp))
      match ← Prog.op (OfficerOp.updateLastUsed authorizer.keyId) with
      | .error e => pure (.error e)
      | .ok () => pure (.ok authorizer.keyId)
    else pure (.error (← Officer.limits (recordOfficerFailureAndReject hashIp token authorizer.keyId clientIp)))

def redeemChallenge (authorizer : Authorizer) (consumeChallenge : Bool) (challengeId clientIp : String) :
    Officer (Except ApiError String) := do
  match ← Prog.op (OfficerOp.challenge consumeChallenge challengeId) with
  | .error e => pure (.error e)
  | .ok none => pure (.error (.unauthorized "Invalid or expired challenge"))
  | .ok (some stored) =>
    if stored.officerId ≠ authorizer.keyId then pure (.error (.unauthorized "Challenge not valid for this officer"))
    else
      match ← Prog.op (OfficerOp.getOfficer authorizer.keyId) with
      | .error e => pure (.error e)
      | .ok none => pure (.error (.notFound "Officer not found"))
      | .ok (some officer) =>
        if !officer.active then pure (.error (.forbidden "Officer account inactive"))
        else answerChallenge C hashIp token authorizer clientIp stored officer

def authenticateYubikey (authorizer : Authorizer) (consumeChallenge : Bool) (clientIp : String) :
    Officer (Except ApiError String) := do
  match ← Officer.limits (isLockedOut "officer" (officerLockoutActorId hashIp authorizer.keyId clientIp)) with
  | .error e => pure (.error e)
  | .ok true => pure (.error (.unauthorized authFailureMessage))
  | .ok false =>
    if ← Officer.limits (authfailIpExceeded hashIp clientIp) then pure (.error (.unauthorized authFailureMessage))
    else
      match authorizer.challengeId with
      | none => pure (.error (.badRequest "Challenge ID required for Yubikey"))
      | some challengeId =>
        match ← Prog.op (OfficerOp.consumeNonce authorizer.nonce) with
        | .error e => pure (.error e)
        | .ok false => pure (.error (.unauthorized "Nonce already used"))
        | .ok true => redeemChallenge C hashIp token authorizer consumeChallenge challengeId clientIp

end Officer

end Issuer
