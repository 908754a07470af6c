import Issuer.ClearRace

/-!
# Which actors a failure can be recorded for

`record_auth_failure` checks its actor by `validate_identifier` and then takes a lock named after the actor,
whose name goes through `validate_lock_name`. The first admits slashes and at signs, the second does not.
-/

namespace Issuer

open Rust

/-! ## The two alphabets -/

theorem validateIdentifier_ok_iff {id context : String} :
    validateIdentifier id context = .ok () ↔
      id.isEmpty = false ∧ id.utf8ByteSize ≤ maxIdentifierLength ∧ id.toList.all isIdentifierChar = true := by
  unfold validateIdentifier
  split
  · simp [*]
  split
  · rename_i hlong
    simp only [reduceCtorEq, false_iff, not_and]
    intro _ hle
    omega
  split
  · simp_all
  · simp_all

theorem validateLockName_ok_iff {name : String} :
    validateLockName name = .ok () ↔
      name.isEmpty = false ∧ name.utf8ByteSize ≤ maxLockNameLength ∧ name.toList.all isLockNameChar = true := by
  unfold validateLockName
  split
  · simp [*]
  split
  · rename_i hlong
    simp only [reduceCtorEq, false_iff, not_and]
    intro _ hle
    omega
  split
  · simp_all
  · simp_all

theorem validateActorType_ok_iff {actorType : String} :
    validateActorType actorType = .ok () ↔ actorType = "officer" ∨ actorType = "client" ∨ actorType = "admin" := by
  unfold validateActorType
  split
  · rename_i h
    simp [h]
  · rename_i h
    simp only [true_iff]
    by_contra hnot
    simp only [not_or] at hnot
    exact h hnot

theorem isLockNameChar_iff {c : Char} (h : isIdentifierChar c = true) : isLockNameChar c = true ↔ c ≠ '/' ∧ c ≠ '@' := by
  constructor
  · intro hlock
    constructor <;> rintro rfl <;> exact absurd hlock (by decide)
  · rintro ⟨hslash, hat⟩
    simpa [isIdentifierChar, isLockNameChar, hslash, hat] using h

/-- The lock name of an admitted actor is accepted unless its id has a slash or an at sign; it is never too long. -/
theorem authFailureLock_valid_iff {actorType actorId : String} (htype : validateActorType actorType = .ok ())
    (hid : validateIdentifier actorId "actor_id" = .ok ()) :
    validateLockName (authFailureLock actorType actorId) = .ok () ↔ ∀ c ∈ actorId.toList, c ≠ '/' ∧ c ≠ '@' := by
  obtain ⟨-, hlength, hchars⟩ := validateIdentifier_ok_iff.mp hid
  have hname : ∃ p, authFailureLock actorType actorId = p ++ actorId ∧ p.isEmpty = false ∧ p.utf8ByteSize ≤ 21 ∧
      p.toList.all isLockNameChar = true := by
    rcases validateActorType_ok_iff.mp htype with rfl | rfl | rfl
    · exact ⟨"auth_failure:officer:", rfl, by decide, by decide, by decide⟩
    · exact ⟨"auth_failure:client:", rfl, by decide, by decide, by decide⟩
    · exact ⟨"auth_failure:admin:", rfl, by decide, by decide, by decide⟩
  obtain ⟨p, hp, hpne, hplen, hpchars⟩ := hname
  have hne : (authFailureLock actorType actorId).isEmpty = false := by
    rw [hp, String.isEmpty_eq_false_iff] at *
    intro h
    exact hpne (String.append_eq_empty_iff.mp h).1
  have hsize : (authFailureLock actorType actorId).utf8ByteSize ≤ maxLockNameLength := by
    rw [hp, String.utf8ByteSize_append]
    simp only [maxIdentifierLength] at hlength
    simp only [maxLockNameLength]
    omega
  rw [validateLockName_ok_iff, hp, String.toList_append, List.all_append, hpchars, Bool.true_and, List.all_eq_true,
    ← hp]
  simp only [hne, hsize, true_and]
  rw [List.all_eq_true] at hchars
  exact forall₂_congr fun c hc => isLockNameChar_iff (hchars c hc)

/-! ## Recording -/

/-- The lock name is accepted, and with the lock free and no failing operation the failure is counted. -/
def RecordingPossible (actorType actorId : String) : Prop :=
  validateLockName (authFailureLock actorType actorId) = .ok () ∧
    ∀ (threshold : Nat) (bytes : Vector UInt8 16) (now : UInt64) (w : LimitsWorld),
      lockFree w.locks (authFailureLock actorType actorId) (nowEpochSecs now) = true →
      ∃ count, ((recordAuthFailure (generateLockToken bytes) actorType actorId threshold).run
        LimitsWorld.handle (.at now) w).1 = .ok count

theorem recordingPossible_of_name {actorType actorId : String} (htype : validateActorType actorType = .ok ())
    (hid : validateIdentifier actorId "actor_id" = .ok ())
    (hname : validateLockName (authFailureLock actorType actorId) = .ok ()) : RecordingPossible actorType actorId := by
  refine ⟨hname, fun threshold bytes now w hfree => ?_⟩
  have hactor : validateActor actorType actorId = .ok () := by
    unfold validateActor
    rw [hid, htype]
    rfl
  obtain ⟨locks, hrecord, -⟩ := recordAuthFailure_alone (a := ⟨actorType, actorId, threshold⟩) (w := w) hactor hname
    (generateLockToken_valid bytes) hfree
  exact ⟨_, congrArg Prod.fst hrecord⟩

theorem recordAuthFailure_refused {token actorType actorId : String} {threshold : Nat} (t : Tick) (w : LimitsWorld)
    (hname : validateLockName (authFailureLock actorType actorId) ≠ .ok ()) (count : Nat) :
    ((recordAuthFailure token actorType actorId threshold).run LimitsWorld.handle t w).1 ≠ .ok count := by
  intro h
  unfold recordAuthFailure at h
  split at h
  · cases h
  rw [Prog.op_bind, Prog.run_ask] at h
  cases hanswer : (acquireResourceLockWithTtl t.faults t.now t.arm (authFailureLock actorType actorId) token
      maxLockTtlSeconds.toNat w.locks).1 with
  | error e =>
    simp only [LimitsWorld.handle, hanswer, Prog.pure_eq, Prog.run_ret] at h
    cases h
  | ok answer => exact hname (acquire_valid hanswer).1

/-- A failure of an admitted actor can be recorded exactly where its id has no slash and no at sign, and every
officer's composite is such an actor. -/
theorem recording_possible_iff {actorType actorId : String} (htype : validateActorType actorType = .ok ())
    (hid : validateIdentifier actorId "actor_id" = .ok ()) :
    (RecordingPossible actorType actorId ↔ ∀ c ∈ actorId.toList, c ≠ '/' ∧ c ≠ '@') ∧
    ∀ (hashIp : String → String) (officerId clientIp : String), HexHash hashIp →
      validateIdentifier (officerLockoutActorId hashIp officerId clientIp) "actor_id" = .ok () ∧
        RecordingPossible "officer" (officerLockoutActorId hashIp officerId clientIp) := by
  constructor
  · rw [← authFailureLock_valid_iff htype hid]
    exact ⟨fun h => h.1, recordingPossible_of_name htype hid⟩
  · intro hashIp officerId clientIp hhash
    have hactor : validateActor "officer" (officerLockoutActorId hashIp officerId clientIp) = .ok () := lockoutActor_valid hhash
    have hid : validateIdentifier (officerLockoutActorId hashIp officerId clientIp) "actor_id" = .ok () := by
      cases hid : validateIdentifier (officerLockoutActorId hashIp officerId clientIp) "actor_id" with
      | ok u => rfl
      | error e =>
        unfold validateActor at hactor
        rw [hid] at hactor
        cases hactor
    exact ⟨hid, recordingPossible_of_name (by decide) hid (lockoutActor_lock hhash)⟩

theorem did_without_path_recordable : RecordingPossible "client" "did:web:example.com" := by
  refine (recording_possible_iff (by decide) (by decide)).1.mpr ?_
  have hchars : ("did:web:example.com".toList.all fun c => c != '/' && c != '@') = true := by decide
  intro c hc
  simpa using List.all_eq_true.mp hchars c hc

theorem did_not_recordable :
    validateActorType "client" = .ok () ∧ validateIdentifier "did:web:example.com/path" "actor_id" = .ok () ∧
      ¬RecordingPossible "client" "did:web:example.com/path" ∧
      ∀ (t : Tick) (w : LimitsWorld) (count : Nat),
        ((recordAuthFailure "t" "client" "did:web:example.com/path" 5).run LimitsWorld.handle t w).1 ≠ .ok count := by
  have hid : validateIdentifier "did:web:example.com/path" "actor_id" = .ok () := by decide
  have hname : validateLockName (authFailureLock "client" "did:web:example.com/path") ≠ .ok () := by
    rw [Ne, authFailureLock_valid_iff (by decide) hid]
    intro h
    exact (h '/' (by decide)).1 rfl
  exact ⟨by decide, hid, fun h => hname h.1, fun t w => recordAuthFailure_refused t w hname⟩

end Issuer
