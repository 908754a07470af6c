import Issuer.Challenge
import Issuer.ResourceLockDoSound

/-!
# When an unused challenge can be redeemed

From its creation on a challenge that nobody has tried to consume stays stored and unmarked, whatever else
happens at the lock objects and in the namespace. `get_and_consume_challenge` marks it first and writes it back
afterwards, for what is left of its lifetime; KV refuses less than a minute.
-/

namespace Issuer

open Rust Store Runs

/-! ## Runs -/

structure ChallengeWorld where
  locks : ResourceShards
  kv : ChallengeKv

inductive ChallengeStep where
  | create (kfl : KvFaults) (challengeId officerId : String) (challenge : List UInt8) (ttlSeconds : Nat)
      (created expires put : UInt64)
  | look (kfl : KvFaults) (read check : UInt64) (challengeId : String)
  | redeem (fl : Faults) (kfl : KvFaults) (t : ConsumeReadings) (u : ChallengeReadings) (challengeId : String)
  | lock (shard : Fin resourceLockShardCount) (i : ResourceStep)

def ChallengeStep.apply (w : ChallengeWorld) : ChallengeStep → ChallengeWorld
  | .create kfl challengeId officerId challenge ttlSeconds created expires put =>
    { w with kv := (createChallenge kfl challengeId officerId challenge ttlSeconds created expires put w.kv).2 }
  | .look kfl read check challengeId => { w with kv := (getChallenge kfl read check challengeId w.kv).2 }
  | .redeem fl kfl t u challengeId =>
    let (_, locks, kv) := getAndConsumeChallenge fl kfl t u challengeId w.locks w.kv
    ⟨locks, kv⟩
  | .lock shard i => { w with locks := Function.update w.locks shard (i.apply (w.locks shard)) }

/-- The step does not consume this challenge, and creates another one if any; it happens up to second `now`. -/
def ChallengeStep.Spares (challengeId : String) (now : Int) : ChallengeStep → Prop
  | .create _ id _ _ _ _ _ _ => id ≠ challengeId
  | .look _ _ check _ => nowEpochSecs check ≤ now
  | .redeem _ _ _ _ id => id ≠ challengeId
  | .lock _ (.consume _ _ body) =>
    consumedKey body.resourceType body.resourceId ≠ consumedKey "challenge" challengeId
  | .lock _ _ => True

/-! ## A stored and unmarked challenge -/

def challengeShard (challengeId : String) : Fin resourceLockShardCount := resourceShard (resourceOf "challenge" challengeId)

/-- No consumption record of the challenge exists. -/
def Unmarked (challengeId : String) (locks : ResourceShards) : Prop :=
  (locks (challengeShard challengeId)).storage[consumedKey "challenge" challengeId]? = none

structure Redeemable (c : StoredChallenge) (expires : Nat) (w : ChallengeWorld) : Prop where
  unmarked : Unmarked c.challengeId w.locks
  stored : w.kv[challengeKey c.challengeId]? = some ⟨.record c, some expires⟩

theorem challengeKey_injective {a b : String} (h : challengeKey a = challengeKey b) : a = b := by
  have := congrArg (stripPrefix "challenge:") h
  simpa [challengeKey] using this

theorem consumedKey_challenge_injective {a b : String} (h : consumedKey "challenge" a = consumedKey "challenge" b) :
    a = b := by
  have := congrArg (stripPrefix "consumed:challenge:") h
  simpa [consumedKey] using this

section
variable {d : ResourceLockDo} {key : String} (h : d.storage[key]? = none)
include h

theorem checkConsumed_unstored (fl : Faults) (now : UInt64) (resourceType resourceId : String) :
    (d.checkConsumed fl now resourceType resourceId).2.storage[key]? = none := by
  unfold ResourceLockDo.checkConsumed
  split
  · exact h
  simp only
  split
  · split
    · simp only [storageDelete]
      split
      · exact h
      · rw [erase_get, h, ite_self]
    · exact h
  · exact h

theorem resetResource_unstored (fl : Faults) (environment resourceType resourceId : String) :
    (d.resetResource fl environment resourceType resourceId).2.storage[key]? = none := by
  unfold ResourceLockDo.resetResource
  split
  · exact h
  split
  · exact h
  simp only
  split
  · exact h
  · rw [erase_get, h, ite_self]

theorem onAlarm_unstored (fl : Faults) (now arm : UInt64) : (d.onAlarm fl now arm).storage[key]? = none := by
  rcases onAlarm_storage fl now arm d with hsame | hswept
  · rw [hsame, h]
  · rw [hswept]
    cases hv : (sweepResources fl (nowEpochSecs now) d.storage).1[key]? with
    | none => rfl
    | some v =>
      have hold := sweep_subset _ hv
      rw [h] at hold
      cases hold

end

theorem markedless_apply {d : ResourceLockDo} {i : ResourceStep} {challengeId : String} {shard now}
    (hs : (ChallengeStep.lock shard i).Spares challengeId now)
    (h : d.storage[consumedKey "challenge" challengeId]? = none) :
    (i.apply d).storage[consumedKey "challenge" challengeId]? = none := by
  cases i with
  | consume fl t body => exact (consumeResource_frame (Ne.symm hs)).trans h
  | check fl now resourceType resourceId => exact checkConsumed_unstored h fl now resourceType resourceId
  | reset fl now environment resourceType resourceId => exact resetResource_unstored h fl environment resourceType resourceId
  | acquire fl now arm body => exact (handleAcquireLock_frame (consumedKey_ne_lockKey _ _ _)).trans h
  | release fl now lockToken resourceKey => exact (handleReleaseLock_frame (consumedKey_ne_lockKey _ _ _)).trans h
  | alarm fl now arm => exact onAlarm_unstored h fl now arm

/-- What one object does keeps the challenge unmarked if it does at the object of the challenge. -/
theorem unmarked_update {challengeId : String} {locks : ResourceShards} {shard : Fin resourceLockShardCount}
    {d : ResourceLockDo} (h : Unmarked challengeId locks)
    (hd : shard = challengeShard challengeId → d.storage[consumedKey "challenge" challengeId]? = none) :
    Unmarked challengeId (Function.update locks shard d) := by
  unfold Unmarked
  by_cases hshard : challengeShard challengeId = shard
  · subst hshard
    rw [Function.update_self]
    exact hd rfl
  · rw [Function.update_of_ne hshard]
    exact h

theorem consumeResourceOnce_shards (fl : Faults) (t : ConsumeReadings) (resourceType resourceId : String) (s : ResourceShards) :
    (consumeResourceOnce fl t resourceType resourceId s).2 =
      Function.update s (resourceShard (resourceOf resourceType resourceId))
        ((s (resourceShard (resourceOf resourceType resourceId))).consumeResource fl t ⟨resourceType, resourceId, none⟩).2 := by
  unfold consumeResourceOnce
  simp only
  split <;> rfl

theorem unmarked_consume {challengeId id : String} {fl : Faults} {t : ConsumeReadings} {s : ResourceShards}
    (hne : id ≠ challengeId) (h : Unmarked challengeId s) :
    Unmarked challengeId (consumeResourceOnce fl t "challenge" id s).2 := by
  have hslot : consumedKey "challenge" challengeId ≠ consumedKey "challenge" id :=
    fun hkey => hne (consumedKey_challenge_injective hkey).symm
  rw [consumeResourceOnce_shards]
  refine unmarked_update h fun hshard => ?_
  have hframe : ((s (challengeShard challengeId)).consumeResource fl t ⟨"challenge", id, none⟩).2.storage[
      consumedKey "challenge" challengeId]? =
        (s (challengeShard challengeId)).storage[consumedKey "challenge" challengeId]? :=
    consumeResource_frame hslot
  rw [hshard, hframe]
  exact h

theorem getChallenge_kv (kfl : KvFaults) (read check : UInt64) (challengeId : String) (kv : ChallengeKv) :
    (getChallenge kfl read check challengeId kv).2 = kv ∨
      ∃ c, Store.get kv (secs read) (challengeKey challengeId) = some (.record c) ∧ c.expiresAt < nowEpochSecs check ∧
        (getChallenge kfl read check challengeId kv).2 = kv.erase (challengeKey challengeId) := by
  unfold getChallenge
  split
  · exact .inl rfl
  simp only [kvGet]
  cases kfl.get with
  | true => exact .inl rfl
  | false =>
    cases hget : Store.get kv (secs read) (challengeKey challengeId) with
    | none => exact .inl rfl
    | some cell =>
      cases cell with
      | garbled => exact .inl rfl
      | record c =>
        by_cases hexp : c.expiresAt < nowEpochSecs check
        · exact .inr ⟨c, rfl, hexp, congrArg Prod.snd (if_pos hexp)⟩
        · refine .inl ((congrArg Prod.snd (if_neg hexp)).trans ?_)
          cases c.used <;> rfl

theorem createChallenge_kv {kfl : KvFaults} {id officerId : String} {challenge : List UInt8} {ttlSeconds : Nat}
    {created expires put : UInt64} {kv : ChallengeKv} {key : String} (h : challengeKey id ≠ key) :
    (createChallenge kfl id officerId challenge ttlSeconds created expires put kv).2[key]? = kv[key]? := by
  unfold createChallenge
  split
  · rfl
  simp only [kvPut]
  by_cases hput : (kfl.put || (some ttlSeconds).any (· < kvMinTtl)) = true
  · simp only [if_pos hput]
  · simp only [if_neg hput]
    exact insert_get_of_ne _ h _

theorem getAndConsumeChallenge_locks (fl : Faults) (kfl : KvFaults) (t : ConsumeReadings) (u : ChallengeReadings)
    (id : String) (s : ResourceShards) (kv : ChallengeKv) :
    (getAndConsumeChallenge fl kfl t u id s kv).2.1 = s ∨
      (getAndConsumeChallenge fl kfl t u id s kv).2.1 = (consumeResourceOnce fl t "challenge" id s).2 := by
  unfold getAndConsumeChallenge
  split
  · exact .inl rfl
  refine .inr ?_
  split <;> rename_i hconsume <;> rw [hconsume]
  simp only
  repeat' split
  all_goals rfl

theorem getAndConsumeChallenge_kv {fl : Faults} {kfl : KvFaults} {t : ConsumeReadings} {u : ChallengeReadings}
    {id : String} {s : ResourceShards} {kv : ChallengeKv} {key : String} (h : challengeKey id ≠ key) :
    (getAndConsumeChallenge fl kfl t u id s kv).2.2[key]? = kv[key]? := by
  unfold getAndConsumeChallenge
  split
  · rfl
  split
  · rfl
  · rfl
  simp only
  split
  · rfl
  · rfl
  · rfl
  split
  · exact erase_get_of_ne _ h
  split
  · rfl
  split
  · rfl
  · rename_i hput
    simp only [kvPut] at hput
    split at hput
    · cases hput
    · cases hput
      exact insert_get_of_ne _ h _

theorem redeemable_apply {c : StoredChallenge} {expires : Nat} {now : Int} {w : ChallengeWorld} {i : ChallengeStep}
    (hnow : now ≤ c.expiresAt) (hs : i.Spares c.challengeId now) (h : Redeemable c expires w) :
    Redeemable c expires (i.apply w) := by
  cases i with
  | create kfl id officerId challenge ttlSeconds created expiresAt put =>
    have hkey : challengeKey id ≠ challengeKey c.challengeId := fun hkey => hs (challengeKey_injective hkey)
    exact ⟨h.unmarked, (createChallenge_kv hkey).trans h.stored⟩
  | look kfl read check id =>
    refine ⟨h.unmarked, ?_⟩
    show (getChallenge kfl read check id w.kv).2[challengeKey c.challengeId]? = _
    rcases getChallenge_kv kfl read check id w.kv with hsame | ⟨c', hget, hexp, herase⟩
    · rw [hsame, h.stored]
    · rw [herase]
      by_cases hkey : challengeKey id = challengeKey c.challengeId
      · -- what the look finds is the challenge, and that is not over
        have hcheck : nowEpochSecs check ≤ now := hs
        have hc : c' = c := by
          unfold Store.get at hget
          rw [hkey, h.stored] at hget
          simp only at hget
          split at hget
          · simpa using hget.symm
          · cases hget
        subst hc
        omega
      · rw [erase_get_of_ne _ hkey, h.stored]
  | redeem fl kfl t u id =>
    have hid : id ≠ c.challengeId := hs
    refine ⟨?_, (getAndConsumeChallenge_kv fun hkey => hid (challengeKey_injective hkey)).trans h.stored⟩
    show Unmarked c.challengeId (getAndConsumeChallenge fl kfl t u id w.locks w.kv).2.1
    rcases getAndConsumeChallenge_locks fl kfl t u id w.locks w.kv with hsame | hmark
    · rw [hsame]
      exact h.unmarked
    · rw [hmark]
      exact unmarked_consume hid h.unmarked
  | lock shard i =>
    refine ⟨unmarked_update h.unmarked fun hshard => ?_, h.stored⟩
    subst hshard
    exact markedless_apply hs h.unmarked

/-! ## From the creation on -/

/-- The shape of `Uuid::to_string`. -/
def isUuidText (s : String) : Bool := s.toList.length == 36 && s.toList.all fun c => isAsciiHexdigit c || c == '-'

theorem uuid_valid {s : String} (h : isUuidText s = true) (context : String) : validateIdentifier s context = .ok () := by
  simp only [isUuidText, Bool.and_eq_true, beq_iff_eq, List.all_eq_true, Bool.or_eq_true] at h
  obtain ⟨hlen, hchars⟩ := h
  have hascii : ∀ c ∈ s.toList, isIdentifierChar c = true ∧ c.utf8Size = 1 := by
    intro c hc
    rcases hchars c hc with hhex | rfl
    · have := isAsciiHexdigit_ascii hhex
      exact ⟨by simp [isIdentifierChar, this.1], this.2⟩
    · decide
  have hsize := utf8ByteSize_ascii fun c hc => (hascii c hc).2
  have hempty : s.isEmpty = false := by
    rw [String.isEmpty_eq_false_iff]
    intro h
    rw [h] at hlen
    simp at hlen
  have hall : s.toList.all isIdentifierChar = true := List.all_eq_true.mpr fun c hc => (hascii c hc).1
  have hlong : ¬s.utf8ByteSize > maxIdentifierLength := by
    simp only [maxIdentifierLength]
    omega
  simp [validateIdentifier, hempty, hlong, hall]

theorem createChallenge_ok {kfl : KvFaults} {id officerId : String} {challenge : List UInt8} {ttlSeconds : Nat}
    {created expires put : UInt64} {kv kv' : ChallengeKv} {c : StoredChallenge}
    (h : createChallenge kfl id officerId challenge ttlSeconds created expires put kv = (.ok c, kv')) :
    c = .create id officerId challenge ttlSeconds created expires ∧
      kv'[challengeKey id]? = some ⟨.record c, some (secs put + ttlSeconds)⟩ := by
  unfold createChallenge at h
  split at h
  · cases h
  simp only [kvPut] at h
  by_cases hput : (kfl.put || (some ttlSeconds).any (· < kvMinTtl)) = true
  · simp only [if_pos hput] at h
    cases h
  · simp only [if_neg hput, Prod.mk.injEq, Except.ok.injEq] at h
    obtain ⟨rfl, rfl⟩ := h
    refine ⟨rfl, ?_⟩
    simp [Store.put]

theorem create_expiresAt_le (id officerId : String) (challenge : List UInt8) (ttlSeconds : Nat) (created expires : UInt64) :
    (StoredChallenge.create id officerId challenge ttlSeconds created expires).expiresAt ≤ secs expires + ttlSeconds := by
  simp only [StoredChallenge.create, nowEpochSecs_eq, satAddI64, clampI64, toI64OrMax, i64Max, i64Min]
  omega

section
variable {challengeId officerId : String} {challenge : List UInt8} {ttlSeconds : Nat} {created expires put : UInt64}
  {w : ChallengeWorld} {kv : ChallengeKv} {c : StoredChallenge} {steps : List ChallengeStep} {now : Int}

/-- **Run lemma.** A new challenge stays redeemable as long as nobody consumes it and it is not over. -/
theorem run_redeemable {kfl : KvFaults} (hnew : Unmarked challengeId w.locks)
    (hcreate : createChallenge kfl challengeId officerId challenge ttlSeconds created expires put w.kv = (.ok c, kv))
    (hspares : ∀ i ∈ steps, i.Spares challengeId now) (hnow : now ≤ c.expiresAt) :
    Redeemable c (secs put + ttlSeconds) (exec ChallengeStep.apply { w with kv := kv } steps) := by
  obtain ⟨rfl, hstored⟩ := createChallenge_ok hcreate
  exact exec_invariant ChallengeStep.apply (fun s i hs hi => redeemable_apply hnow hi hs) steps _ ⟨hnew, hstored⟩
    (along_of_forall _ steps _ hspares)

/-! ## The call -/

theorem consumeResourceOnce_unmarked {locks : ResourceShards} (t : ConsumeReadings)
    (hid : validateIdentifier challengeId "resource_id" = .ok ()) (h : Unmarked challengeId locks) :
    (consumeResourceOnce .none t "challenge" challengeId locks).1 = .ok true := by
  have hvalid : validateResource "challenge" challengeId = .ok () := by
    have htype : validateIdentifier "challenge" "resource_type" = .ok () := by decide
    simp only [validateResource, htype, hid]
    rfl
  have hread : readConsumption .none (locks (challengeShard challengeId)).storage
      (consumedKey "challenge" challengeId) = none := by
    simp only [readConsumption, storageGet, Faults.none]
    rw [h]
  have hconsume : ((locks (challengeShard challengeId)).consumeResource .none t ⟨"challenge", challengeId, none⟩).1 =
      .ok ⟨true, "Resource consumed successfully", none, none⟩ := by
    simp only [ResourceLockDo.consumeResource, hvalid, hread]
    rfl
  unfold consumeResourceOnce
  simp only
  rw [show resourceShard (resourceOf "challenge" challengeId) = challengeShard challengeId from rfl, hconsume]

theorem minTtl_le_remaining {e : Int} {t : UInt64} : kvMinTtl ≤ remainingTtlSecs e t ↔ nowEpochSecs t + 60 ≤ e := by
  simp only [remainingTtlSecs, nowEpochSecs_eq, satSubI64, clampI64, i64Max, i64Min, kvMinTtl]
  omega

/-- The record is put back for what is left of its lifetime, and KV takes a minute or more. -/
theorem redeemed_remaining {fl : Faults} {kfl : KvFaults} {t : ConsumeReadings} {u : ChallengeReadings} {id : String}
    {s : ResourceShards} {kv : ChallengeKv} {c : StoredChallenge}
    (h : (getAndConsumeChallenge fl kfl t u id s kv).1 = .ok (some c)) :
    kvMinTtl ≤ remainingTtlSecs c.expiresAt u.remaining := by
  unfold getAndConsumeChallenge at h
  split at h
  · cases h
  split at h
  · cases h
  · cases h
  simp only at h
  split at h
  · cases h
  · cases h
  · cases h
  split at h
  · cases h
  split at h
  · cases h
  split at h
  · cases h
  · rename_i hput
    cases h
    simp only [kvPut, Option.any_some] at hput
    split at hput
    · cases hput
    · rename_i hmin
      simp only [decide_eq_true_eq, Bool.or_eq_true, not_or, Nat.not_lt] at hmin
      exact hmin.2

/-- The clock does not go back within the call. -/
def ChallengeReadings.Timely (u : ChallengeReadings) : Prop := u.read ≤ u.check ∧ u.check ≤ u.remaining

instance (u : ChallengeReadings) : Decidable u.Timely := inferInstanceAs (Decidable (_ ∧ _))

/-- The call succeeds, storage and lock object at its service. -/
def Redeems (c : StoredChallenge) (t : ConsumeReadings) (u : ChallengeReadings) (w : ChallengeWorld) : Prop :=
  (getAndConsumeChallenge .none ⟨false, false⟩ t u c.challengeId w.locks w.kv).1 = .ok (some { c with used := true })

theorem redeemable_redeems {t : ConsumeReadings} {u : ChallengeReadings} {expires : Nat} (hid : isUuidText c.challengeId = true)
    (hw : Redeemable c expires w) (hfresh : c.used = false) (hlive : secs u.read < expires)
    (hcheck : nowEpochSecs u.check ≤ c.expiresAt) (hremaining : kvMinTtl ≤ remainingTtlSecs c.expiresAt u.remaining) :
    Redeems c t u w := by
  have hvalid := uuid_valid hid "challenge_id"
  have hconsume := consumeResourceOnce_unmarked t (uuid_valid hid "resource_id") hw.unmarked
  have hget : kvGet false w.kv u.read (challengeKey c.challengeId) = .ok (some (.record c)) := by
    simp [kvGet, Store.get, hw.stored, Entry.live, hlive]
  have hput : ∀ v, kvPut false w.kv u.put (some (remainingTtlSecs c.expiresAt u.remaining)) (challengeKey c.challengeId) v =
      .ok (Store.put w.kv (secs u.put) (some (remainingTtlSecs c.expiresAt u.remaining)) (challengeKey c.challengeId) v) := by
    intro v
    have hmin : (some (remainingTtlSecs c.expiresAt u.remaining)).any (· < kvMinTtl) = false := by simp [hremaining]
    simp only [kvPut, hmin, Bool.or_self, Bool.false_eq_true, if_false]
  unfold Redeems getAndConsumeChallenge
  rw [hvalid]
  simp only
  split
  · rename_i heq
    rw [heq] at hconsume
    cases hconsume
  · rename_i heq
    rw [heq] at hconsume
    cases hconsume
  · simp only [hget, if_neg (not_lt.mpr hcheck), hfresh, Bool.false_eq_true, if_false, hput]

/-- **Late redemptions fail.** An unused challenge is redeemed exactly when a minute or more is left of it. -/
theorem challenge_redeemed_iff {kfl : KvFaults} {t : ConsumeReadings} {u : ChallengeReadings}
    (hid : isUuidText challengeId = true) (hnew : Unmarked challengeId w.locks)
    (hcreate : createChallenge kfl challengeId officerId challenge ttlSeconds created expires put w.kv = (.ok c, kv))
    (hput : expires ≤ put) (hspares : ∀ i ∈ steps, i.Spares challengeId (nowEpochSecs u.read)) (hu : u.Timely) :
    Redeems c t u (exec ChallengeStep.apply { w with kv := kv } steps) ↔ nowEpochSecs u.remaining + 60 ≤ c.expiresAt := by
  obtain ⟨hc, -⟩ := createChallenge_ok hcreate
  have hle := create_expiresAt_le challengeId officerId challenge ttlSeconds created expires
  rw [← hc] at hle
  rw [← minTtl_le_remaining]
  constructor
  · intro h
    have hremaining := redeemed_remaining h
    exact hremaining
  · intro hremaining
    have hleft := minTtl_le_remaining.mp hremaining
    have h1 : secs u.read ≤ secs u.check := secs_mono hu.1
    have h2 : secs u.check ≤ secs u.remaining := secs_mono hu.2
    have h3 : secs expires ≤ secs put := secs_mono hput
    simp only [nowEpochSecs_eq] at hleft
    have hnow : nowEpochSecs u.read ≤ c.expiresAt := by rw [nowEpochSecs_eq]; omega
    have hw := run_redeemable hnew hcreate hspares hnow
    refine redeemable_redeems ?_ hw ?_ (by omega) (by rw [nowEpochSecs_eq]; omega) hremaining
    · rw [hc]
      exact hid
    · rw [hc]
      rfl

end

/-! ## The second minute -/

def newWorld : ChallengeWorld := ⟨fun _ => .empty, {}⟩

def uuidC1 : String := "6f1ed002-ab5d-4b3f-8f4e-2b7d9f3f5c11"

def challengeC1 : StoredChallenge := .create uuidC1 "officer" [1, 2] challengeTtlSeconds 0 0

def kvC1 : ChallengeKv := (createChallenge ⟨false, false⟩ uuidC1 "officer" [1, 2] challengeTtlSeconds 0 0 0 {}).2

theorem challenge_redeemed_in_time :
    Redeems challengeC1 (.at 60000) ⟨60000, 60000, 60000, 60000⟩ (exec ChallengeStep.apply { newWorld with kv := kvC1 }
      [.look ⟨false, false⟩ 30000 30000 uuidC1]) := by
  have hcreate : createChallenge ⟨false, false⟩ uuidC1 "officer" [1, 2] challengeTtlSeconds 0 0 0 newWorld.kv =
      (.ok challengeC1, kvC1) := rfl
  refine (challenge_redeemed_iff (by decide) ?_ hcreate (by decide) ?_ (by decide)).mpr (by decide)
  · rfl
  · intro i hi
    rw [List.mem_singleton] at hi
    subst hi
    show nowEpochSecs 30000 ≤ nowEpochSecs 60000
    decide

/-- Valid through second 120, not redeemed at second 61; what is left then is a challenge marked as consumed. -/
theorem challenge_lost_at_half_time :
    createChallenge ⟨false, false⟩ uuidC1 "officer" [1, 2] challengeTtlSeconds 0 0 0 newWorld.kv = (.ok challengeC1, kvC1) ∧
      Unmarked uuidC1 newWorld.locks ∧ nowEpochSecs 61000 ≤ challengeC1.expiresAt ∧
        ¬Redeems challengeC1 (.at 61000) ⟨61000, 61000, 61000, 61000⟩ { newWorld with kv := kvC1 } := by
  refine ⟨rfl, rfl, by decide, fun h => ?_⟩
  have hremaining := redeemed_remaining h
  exact absurd hremaining (by decide)

end Issuer
