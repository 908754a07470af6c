import Issuer.Lib.Except
import Issuer.OfficerAuth

/-!
# Early self-unlock of officers

Clearing the lock flag comes after the look at it, which ends the call of a locked officer: a call that presents all it
should unlocks the officer exactly where it has not seen the flag.
-/

namespace Issuer

open Rust Store

section
variable (C : OfficerCrypto) (hashIp : String → String) (token : String) (authorizer : Authorizer) (consumeChallenge : Bool)
  (clientIp : String)

/-- The call answers the officer, and neither counter nor lock flag is left. -/
structure SelfUnlocked (r : Except ApiError String × OfficerWorld) : Prop where
  succeeds : r.1 = .ok authorizer.keyId
  counter : r.2.limits.kv[lockoutKey "officer" (officerLockoutActorId hashIp authorizer.keyId clientIp)]? = none
  flag : r.2.limits.kv[lockedKey "officer" (officerLockoutActorId hashIp authorizer.keyId clientIp)]? = none

/-- The lock flag of the officer at this source address is set, and can be read. -/
structure OfficerLocked (t : OfficerTick) (w : OfficerWorld) : Prop where
  readable : t.kvFails = false
  flag : (Store.get w.limits.kv (secs t.now)
    (lockedKey "officer" (officerLockoutActorId hashIp authorizer.keyId clientIp))).isSome = true

def playYubikey (e : Nat → OfficerTick) (w : OfficerWorld) : Except ApiError String × OfficerWorld :=
  (Officer.authenticateYubikey C hashIp token authorizer consumeChallenge clientIp).play (OfficerWorld.handle C.gcm) e w

abbrev Meets (w : OfficerWorld) (t : OfficerTick) (o : OfficerOp) (answer : o.Ans) (w' : OfficerWorld) : Prop :=
  w.handle C.gcm t o = (answer, w')

/-- From the second operation on: the address is not throttled, the nonce is unused, the challenge is a valid one of the
officer, its HMAC is correct, and clearing and booking do not fail. -/
structure Presents (e : Nat → OfficerTick) (w : OfficerWorld) : Prop where
  actor : validateActor "officer" (officerLockoutActorId hashIp authorizer.keyId clientIp) = .ok ()
  throttle : ∀ s, kvGet (e 1).kvFails w.limits.kv (e 1).now (authfailIpKey (hashIp clientIp)) = .ok (some s) →
    (parseU32 s).getD 0 < authfailIpLimitPerHour
  passes : ∃ challengeId stored officer tag w₁ w₂, authorizer.challengeId = some challengeId ∧
    Meets C w (e 2) (.consumeNonce authorizer.nonce) (.ok true) w₁ ∧
    Meets C w₁ (e 3) (.challenge consumeChallenge challengeId) (.ok (some stored)) w₂ ∧
    stored.officerId = authorizer.keyId ∧
    Meets C w₂ (e 4) (.getOfficer authorizer.keyId) (.ok (some officer)) w₂ ∧ officer.active = true ∧
    hexDecode authorizer.hmac = some tag ∧ officer.hmacValid C stored.challenge tag = true
  clears : (e 5).kvFails = false ∧ (e 6).kvFails = false
  books : ∃ officers, (e 7).update authorizer.keyId w.officers = .ok officers

end

/-! ## The operations of a call -/

def flagSeen : Except Unit (Option String) → Bool
  | .ok data => data.isSome
  | .error () => false

def capExceeded : Except Unit (Option String) → Bool
  | .ok (some s) => decide ((parseU32 s).getD 0 ≥ authfailIpLimitPerHour)
  | _ => false

theorem isLockedOut_valid {actorType actorId : String} (h : validateActor actorType actorId = .ok ()) :
    isLockedOut actorType actorId = .ask (.kvGet (lockedKey actorType actorId)) fun x => .ret (.ok (flagSeen x)) := by
  unfold isLockedOut
  rw [h]
  simp only [Prog.op_bind, Prog.pure_eq]
  refine congrArg (Prog.ask _) (funext fun x => ?_)
  cases x with
  | error u => rfl
  | ok data => rfl

theorem authfailIpExceeded_eq (hashIp : String → String) (sourceIp : String) :
    authfailIpExceeded hashIp sourceIp = .ask (.kvGet (authfailIpKey (hashIp sourceIp))) fun x => .ret (capExceeded x) := by
  unfold authfailIpExceeded
  simp only [Prog.op_bind, Prog.pure_eq]
  refine congrArg (Prog.ask _) (funext fun x => ?_)
  rcases x with u | _ | s
  · rfl
  · rfl
  · rfl

section
variable {A : AesGcm} {w w' : OfficerWorld} {t : OfficerTick}

theorem handle_kvGet (key : String) :
    w.handle A t (.limits (.kvGet key)) = (kvGet t.kvFails w.limits.kv t.now key, w) := rfl

theorem handle_kvDelete (h : t.kvFails = false) (key : String) : w.handle A t (.limits (.kvDelete key)) =
    (.ok (), { w with limits := { w.limits with kv := w.limits.kv.erase key } }) := by
  simp [OfficerWorld.handle, LimitsWorld.handle, h]

theorem handle_consumeNonce {nonce : String} {answer : Except ApiError Bool}
    (h : w.handle A t (.consumeNonce nonce) = (answer, w')) : w'.limits = w.limits ∧ w'.officers = w.officers := by
  simp only [OfficerWorld.handle, Prod.mk.injEq] at h
  rw [← h.2]
  exact ⟨rfl, rfl⟩

theorem handle_challenge {consume : Bool} {challengeId : String} {answer : Except ApiError (Option StoredChallenge)}
    (h : w.handle A t (.challenge consume challengeId) = (answer, w')) :
    w'.limits.kv = w.limits.kv ∧ w'.officers = w.officers := by
  cases consume with
  | true =>
    simp only [OfficerWorld.handle, Prod.mk.injEq] at h
    rw [← h.2]
    exact ⟨rfl, rfl⟩
  | false =>
    simp only [OfficerWorld.handle, Prod.mk.injEq] at h
    rw [← h.2]
    exact ⟨rfl, rfl⟩

theorem clearAuthFailures_play {e : Nat → OfficerTick} (w : OfficerWorld) {actorType actorId : String}
    (h : validateActor actorType actorId = .ok ()) (hkv : (e 0).kvFails = false ∧ (e 1).kvFails = false) :
    ∃ w', (∀ {α : Type} (k : Except ApiError Unit → Officer α), (Officer.limits (clearAuthFailures actorType actorId) >>= k).play
        (OfficerWorld.handle A) e w = (k (.ok ())).play (OfficerWorld.handle A) (fun n => e (n + 2)) w') ∧
      w'.officers = w.officers ∧ w'.limits.kv[lockoutKey actorType actorId]? = none ∧
      w'.limits.kv[lockedKey actorType actorId]? = none := by
  refine ⟨{ w with limits := { w.limits with
    kv := (w.limits.kv.erase (lockoutKey actorType actorId)).erase (lockedKey actorType actorId) } }, fun k => ?_, rfl, ?_, ?_⟩
  · unfold clearAuthFailures
    rw [h]
    simp only [Prog.op_bind, Officer.limits, Prog.lift, Prog.ask_bind, Prog.play_ask, handle_kvDelete hkv.1]
    simp only [handle_kvDelete hkv.2]
    rfl
  · rw [erase_get, erase_get, if_pos rfl]
    split <;> rfl
  · rw [erase_get, if_pos rfl]

theorem handle_updateLastUsed {officerId : String} {officers : Table String (Cell Json)}
    (h : t.update officerId w.officers = .ok officers) :
    w.handle A t (.updateLastUsed officerId) = (.ok (), { w with officers := officers }) := by
  simp only [OfficerWorld.handle, h]

end

/-! ## Locked officers -/

section
variable {C : OfficerCrypto} {hashIp : String → String} {token : String} {authorizer : Authorizer} {consumeChallenge : Bool}
  {clientIp : String} {e : Nat → OfficerTick} {w : OfficerWorld}

theorem flag_seen_rejected {data : String} (h : kvGet (e 0).kvFails w.limits.kv (e 0).now
    (lockedKey "officer" (officerLockoutActorId hashIp authorizer.keyId clientIp)) = .ok (some data)) :
    ∃ err, playYubikey C hashIp token authorizer consumeChallenge clientIp e w = (.error err, w) := by
  unfold playYubikey Officer.authenticateYubikey
  cases hvalid : validateActor "officer" (officerLockoutActorId hashIp authorizer.keyId clientIp) with
  | error err =>
    refine ⟨err, ?_⟩
    unfold isLockedOut
    rw [hvalid]
    rfl
  | ok u =>
    refine ⟨.unauthorized authFailureMessage, ?_⟩
    simp only [isLockedOut_valid hvalid, Officer.limits, Prog.lift, Prog.ask_bind, Prog.ret_bind, Prog.play_ask,
      handle_kvGet, h]
    rfl

/-- With the flag set nothing else matters: the call is rejected and leaves everything as it was. -/
theorem locked_officer_rejected (C : OfficerCrypto) (hashIp : String → String) (token : String) (authorizer : Authorizer)
    (consumeChallenge : Bool) (clientIp : String) (e : Nat → OfficerTick) (w : OfficerWorld)
    (h : OfficerLocked hashIp authorizer clientIp (e 0) w) :
    ¬SelfUnlocked hashIp authorizer clientIp (playYubikey C hashIp token authorizer consumeChallenge clientIp e w) ∧
      (playYubikey C hashIp token authorizer consumeChallenge clientIp e w).2 = w := by
  obtain ⟨data, hdata⟩ := Option.isSome_iff_exists.mp h.flag
  have hrejected : ∃ err, playYubikey C hashIp token authorizer consumeChallenge clientIp e w = (.error err, w) :=
    flag_seen_rejected (by rw [kvGet, h.readable, hdata]; rfl)
  obtain ⟨err, hr⟩ := hrejected
  rw [hr]
  refine ⟨fun hunlocked => ?_, rfl⟩
  cases hunlocked.succeeds

theorem flagSeen_eq_false {x : Except Unit (Option String)} (h : ∀ data, x ≠ .ok (some data)) : flagSeen x = false := by
  cases x with
  | error u => rfl
  | ok data =>
    cases data with
    | none => rfl
    | some data => exact absurd rfl (h data)

theorem capExceeded_eq_false {x : Except Unit (Option String)} (h : ∀ s, x = .ok (some s) → capExceeded x = false) :
    capExceeded x = false := by
  cases x with
  | error u => rfl
  | ok data =>
    cases data with
    | none => rfl
    | some s => exact h s rfl

theorem presented_unlocks (h : Presents C hashIp authorizer consumeChallenge clientIp e w)
    (hunseen : ∀ data, kvGet (e 0).kvFails w.limits.kv (e 0).now
      (lockedKey "officer" (officerLockoutActorId hashIp authorizer.keyId clientIp)) ≠ .ok (some data)) :
    SelfUnlocked hashIp authorizer clientIp (playYubikey C hashIp token authorizer consumeChallenge clientIp e w) := by
  obtain ⟨challengeId, stored, officer, tag, w₁, w₂, hid, hnonce, hchallenge, hofficer, hget, hactive, hhex, hhmac⟩ := h.passes
  have hflag := flagSeen_eq_false hunseen
  have hthrottle : capExceeded (kvGet (e 1).kvFails w.limits.kv (e 1).now (authfailIpKey (hashIp clientIp))) = false := by
    refine capExceeded_eq_false fun s hread => ?_
    rw [hread]
    simpa [capExceeded] using h.throttle s hread
  obtain ⟨w₃, hclear, hofficers, hcounter, hlock⟩ := clearAuthFailures_play (A := C.gcm) w₂ h.actor (e := fun n => e (n + 5)) h.clears
  have hw₁ := handle_consumeNonce hnonce
  have hw₂ := handle_challenge hchallenge
  obtain ⟨officers, hbook⟩ := h.books
  rw [← hw₁.2, ← hw₂.2, ← hofficers] at hbook
  have hplay : playYubikey C hashIp token authorizer consumeChallenge clientIp e w =
      (.ok authorizer.keyId, { w₃ with officers := officers }) := by
    unfold playYubikey Officer.authenticateYubikey
    simp only [isLockedOut_valid h.actor, authfailIpExceeded_eq, Officer.limits, Prog.lift, Prog.ask_bind, Prog.ret_bind,
      Prog.play_ask, handle_kvGet, hflag, hthrottle, hid, Bool.false_eq_true, if_false, Prog.op_bind, Nat.zero_add,
      Nat.reduceAdd, hnonce]
    simp only [Officer.redeemChallenge, Prog.op_bind, Prog.play_ask, Nat.zero_add, Nat.reduceAdd, hchallenge, hofficer, ne_eq,
      not_true_eq_false, if_false, hget, hactive, Bool.not_true, Bool.false_eq_true]
    simp only [Officer.answerChallenge, hhex, hhmac, if_true]
    rw [hclear]
    simp only [Prog.op_bind, Prog.play_ask, Nat.zero_add, Nat.reduceAdd, handle_updateLastUsed hbook, Prog.pure_eq, Prog.play_ret]
  rw [hplay]
  exact ⟨rfl, hcounter, hlock⟩

/-- A call that presents all it should succeeds, and unlocks, exactly where it has not seen the flag. -/
theorem self_unlocked_iff (h : Presents C hashIp authorizer consumeChallenge clientIp e w) :
    SelfUnlocked hashIp authorizer clientIp (playYubikey C hashIp token authorizer consumeChallenge clientIp e w) ↔
      ∀ data, kvGet (e 0).kvFails w.limits.kv (e 0).now
        (lockedKey "officer" (officerLockoutActorId hashIp authorizer.keyId clientIp)) ≠ .ok (some data) := by
  constructor
  · intro hunlocked data hdata
    have hrejected : ∃ err, playYubikey C hashIp token authorizer consumeChallenge clientIp e w = (.error err, w) :=
      flag_seen_rejected hdata
    obtain ⟨err, hr⟩ := hrejected
    rw [hr] at hunlocked
    cases hunlocked.succeeds
  · intro hunseen
    exact presented_unlocks h hunseen

end

/-! ## An officer behind the flag -/

def echoOfficerCrypto : OfficerCrypto := ⟨clearGcm, fun _ message => message⟩

def yubikeyKek : KekPair := ⟨List.replicate 32 7, none⟩

def lockedOfficer : OfficerRegistration where
  officerId := "officer1"
  hmacSecret := List.replicate 12 0 ++ clearGcm.encrypt yubikeyKek.current (List.replicate 12 0) (List.replicate 20 9) sessionAad
  createdAt := 0
  lastUsed := none
  active := true
  encrypted := true
  secretStatus := .active
  previousHmacSecret := none
  role := .issuer

def officerAuthorizer : Authorizer :=
  ⟨"yubikey", "officer1", some "c1", 0, "0102", String.ofList (List.replicate 64 'a')⟩

def officerTick : OfficerTick where
  toTick := .at 60000
  purgeFaults := .none
  nonceReadings := .at 60000
  challengeFaults := ⟨false, false⟩
  consumeReadings := .at 60000
  challengeReadings := ⟨60000, 60000, 60000, 60000⟩
  config := .ok ⟨"did:provii:issuer", "provii.app", "main", none⟩
  kek := .ok yubikeyKek
  officerFails := false

/-- The officer was locked a minute ago, for 15 minutes. -/
def lockedOfficerWorld : OfficerWorld where
  limits := ⟨fun _ => .empty, (∅ : Kv String).insert (lockedKey "officer" "officer1:10.0.0.1") ⟨"900", some 900⟩⟩
  nonces := fun _ => .empty
  challenges := (∅ : ChallengeKv).insert "challenge:c1" ⟨.record ⟨"c1", "officer1", [1, 2], 0, 120, false⟩, some 120⟩
  officers := (∅ : Table String (Cell Json)).insert (officerKey "issuer" "officer1") (.record lockedOfficer.toJson)

theorem locked_demo_rejected : ¬SelfUnlocked id officerAuthorizer "10.0.0.1"
      (playYubikey echoOfficerCrypto id "t" officerAuthorizer true "10.0.0.1" (fun _ => officerTick) lockedOfficerWorld) ∧
    (playYubikey echoOfficerCrypto id "t" officerAuthorizer true "10.0.0.1" (fun _ => officerTick) lockedOfficerWorld).2 = lockedOfficerWorld :=
  locked_officer_rejected echoOfficerCrypto id "t" officerAuthorizer true "10.0.0.1" (fun _ => officerTick) lockedOfficerWorld
    ⟨rfl, by decide +kernel⟩

theorem locked_officer_stays_locked : OfficerLocked id officerAuthorizer "10.0.0.1" officerTick lockedOfficerWorld ∧
    Presents echoOfficerCrypto id officerAuthorizer true "10.0.0.1" (fun _ => officerTick) lockedOfficerWorld ∧
    ¬SelfUnlocked id officerAuthorizer "10.0.0.1"
      (playYubikey echoOfficerCrypto id "t" officerAuthorizer true "10.0.0.1" (fun _ => officerTick) lockedOfficerWorld) := by
  have hlocked : OfficerLocked id officerAuthorizer "10.0.0.1" officerTick lockedOfficerWorld := ⟨rfl, by decide +kernel⟩
  refine ⟨hlocked, ⟨by decide +kernel, fun s hs => ?_, ?_, ⟨rfl, rfl⟩, ?_⟩, fun hunlocked => ?_⟩
  · have hnone : kvGet false lockedOfficerWorld.limits.kv 60000 (authfailIpKey "10.0.0.1") = .ok none := by decide +kernel
    cases hnone.symm.trans hs
  · refine ⟨"c1", ⟨"c1", "officer1", [1, 2], 0, 120, true⟩, { lockedOfficer with hmacSecret := List.replicate 20 9 }, [1, 2],
      _, _, rfl, Prod.ext ?_ rfl, Prod.ext ?_ rfl, rfl, Prod.ext ?_ rfl, rfl, ?_, ?_⟩
    · decide +kernel
    · decide +kernel
    · decide +kernel
    · decide +kernel
    · decide +kernel
  · have hbooks : (officerTick.update "officer1" lockedOfficerWorld.officers).isOk = true := by decide +kernel
    exact Except.isOk_iff.mp hbooks
  · obtain ⟨data, hdata⟩ := Option.isSome_iff_exists.mp hlocked.flag
    have hrejected : ∃ err, playYubikey echoOfficerCrypto id "t" officerAuthorizer true "10.0.0.1" (fun _ => officerTick)
        lockedOfficerWorld = (.error err, lockedOfficerWorld) := flag_seen_rejected (by rw [kvGet, hlocked.readable, hdata]; rfl)
    obtain ⟨err, hr⟩ := hrejected
    rw [hr] at hunlocked
    cases hunlocked.succeeds

end Issuer
