import Issuer.ResourceLockDoSound
import Issuer.NonceDoRefine
import Issuer.Lib.Alarm

/-!
# The clean-up alarm

Either object has one alarm for all of its records. A call that stores a record sets it by the lifetime of that
record, whatever was pending; the handler sets it by the earliest expiry among the keys it looks at.
So the alarm is in time for everything stored as long as no record is stored over one that expires
sooner, and what the handler does not look at is outlasted by something it keeps.

Expiries are in seconds of the clock, alarms in its milliseconds; they are compared in seconds.
-/

namespace Issuer

open Rust Store Runs Alarm

/-! ## Records and their alarm -/

section
variable {α : Type} (expiresAt : α → Int)

/-- Whatever is stored is a record, and an alarm is pending that is due one second after its expiry at
the latest, or at once. -/
def Attended (now : Int) (m : Table String (Cell α)) (alarm : Option Nat) : Prop :=
  Covered (fun _ c due => ∃ a, c = .record a ∧ ((due / 1000 : Nat) : Int) ≤ max (expiresAt a + 1) now) m alarm

def records (m : Table String (Cell α)) : List (String × α) :=
  m.toList.filterMap fun e => match e.2 with
    | .record a => some (e.1, a)
    | .garbled => none

/-- No record but that of the slot has expired a second before `t`. -/
def OthersOutlast (m : Table String (Cell α)) (key : String) (t : Int) : Prop :=
  ∀ e ∈ records m, e.1 ≠ key → t ≤ expiresAt e.2 + 1

instance decidableOthersOutlast (m : Table String (Cell α)) (key : String) (t : Int) :
    Decidable (OthersOutlast expiresAt m key t) :=
  inferInstanceAs (Decidable (∀ e ∈ records m, e.1 ≠ key → t ≤ expiresAt e.2 + 1))

/-- A record is among the first `n` keys and has ended, or one among them that has not ended expires early
enough for it: the alarm set by that one in second `arm` rings in time. -/
def RearmsInTime (ended : α → Bool) (n : Nat) (now arm : Int) (m : Table String (Cell α)) : Prop :=
  ∀ e ∈ records m, (e.1 ∈ m.keys.take n ∧ ended e.2 = true) ∨
    ∃ e' ∈ records m, e'.1 ∈ m.keys.take n ∧ ended e'.2 = false ∧
      arm + max (expiresAt e'.2 - now) 1 ≤ expiresAt e.2 + 1

instance decidableRearmsInTime (ended : α → Bool) (n : Nat) (now arm : Int) (m : Table String (Cell α)) :
    Decidable (RearmsInTime expiresAt ended n now arm m) :=
  inferInstanceAs (Decidable (∀ e ∈ records m, (e.1 ∈ m.keys.take n ∧ ended e.2 = true) ∨
    ∃ e' ∈ records m, e'.1 ∈ m.keys.take n ∧ ended e'.2 = false ∧
      arm + max (expiresAt e'.2 - now) 1 ≤ expiresAt e.2 + 1))

theorem mem_records {m : Table String (Cell α)} {key : String} {a : α} :
    (key, a) ∈ records m ↔ m[key]? = some (.record a) := by
  unfold records
  rw [List.mem_filterMap, ← Std.TreeMap.mem_toList_iff_getElem?_eq_some]
  constructor
  · rintro ⟨⟨k, c⟩, he, hc⟩
    cases c with
    | garbled => cases hc
    | record b => cases hc; exact he
  · intro h
    exact ⟨(key, .record a), h, rfl⟩

/-! ## The invariant

Beside its expiry a record has the slots it may be filed under: the handler passes over others.
-/

variable (filed : α → String → Bool)

def RungInTime (key : String) (c : Cell α) (due : Nat) : Prop :=
  ∃ a, c = .record a ∧ filed a key = true ∧ ((due / 1000 : Nat) : Int) ≤ expiresAt a + 1

variable {expiresAt filed} {m : Table String (Cell α)} {alarm : Option Nat}

theorem rungInTime_mono {key : String} {c : Cell α} {due due' : Nat} (hle : due' ≤ due) (h : RungInTime expiresAt filed key c due) :
    RungInTime expiresAt filed key c due' := by
  obtain ⟨a, hc, hfiled, hdue⟩ := h
  have := Nat.div_le_div_right (c := 1000) hle
  exact ⟨a, hc, hfiled, by omega⟩

theorem othersOutlast_of_subset {m' : Table String (Cell α)} {key : String} {t : Int}
    (h : OthersOutlast expiresAt m key t) (hsub : ∀ (k : String) (c : Cell α), m'[k]? = some c → m[k]? = some c) :
    OthersOutlast expiresAt m' key t := by
  intro e he hne
  exact h e (mem_records.mpr (hsub _ _ (mem_records.mp he))) hne

theorem attended_of_covered (now : Int) (h : Covered (RungInTime expiresAt filed) m alarm) :
    Attended expiresAt now m alarm := by
  intro key c hc
  obtain ⟨due, hd, a, ha, -, hdue⟩ := h key c hc
  exact ⟨due, hd, a, ha, le_trans hdue (le_max_left _ _)⟩

theorem covered_record (h : Covered (RungInTime expiresAt filed) m alarm) {key : String} {c : Cell α}
    (hc : m[key]? = some c) : ∃ a, c = .record a ∧ filed a key = true := by
  obtain ⟨_, -, a, ha, hfiled, -⟩ := h key c hc
  exact ⟨a, ha, hfiled⟩

/-- A call stores a record and sets the alarm by its lifetime. -/
theorem covered_store (h : Covered (RungInTime expiresAt filed) m alarm) {key : String} {a : α} {due : Nat} {t : Int}
    (hdue : ((due / 1000 : Nat) : Int) ≤ t) (hfiled : filed a key = true) (hself : t ≤ expiresAt a + 1)
    (hothers : OthersOutlast expiresAt m key t) :
    Covered (RungInTime expiresAt filed) (m.insert key (.record a)) (some due) := by
  apply covered_insert
  · exact ⟨a, rfl, hfiled, le_trans hdue hself⟩
  · intro k c hk hc
    obtain ⟨b, rfl, hb⟩ := covered_record h hc
    exact ⟨b, rfl, hb, le_trans hdue (hothers (k, b) (mem_records.mpr hc) hk)⟩

/-- The handler drops what has ended and sets the alarm by the earliest expiry it kept. -/
theorem covered_handler (h : Covered (RungInTime expiresAt filed) m alarm) {τ : Type} [LinearOrder τ]
    {judge : String → Cell α → Verdict τ} {stamp : α → τ} {ring : τ → Nat} {ended : α → Bool} {n : Nat} {now arm : Int}
    (hjudge : ∀ key a, filed a key = true → judge key (.record a) = if ended a then .drop else .keep (stamp a))
    (hmono : ∀ s t, s ≤ t → ring s ≤ ring t)
    (hring : ∀ a, ((ring (stamp a) / 1000 : Nat) : Int) ≤ arm + max (expiresAt a - now) 1)
    (hrearms : RearmsInTime expiresAt ended n now arm m) :
    Covered (RungInTime expiresAt filed) (sweep judge m (m.keys.take n)).1 ((sweep judge m (m.keys.take n)).2.map ring) := by
  apply covered_sweep
  · intro key c s t hle hin
    exact rungInTime_mono (hmono s t hle) hin
  · intro key c hc
    obtain ⟨a, rfl, ha⟩ := covered_record h hc
    rcases hrearms (key, a) (mem_records.mpr hc) with ⟨hk, hended⟩ | ⟨⟨key', b⟩, hb, hk', hkeep, hle⟩
    · left
      exact ⟨hk, by rw [hjudge key a ha, if_pos hended]⟩
    · right
      have hb' := mem_records.mp hb
      obtain ⟨_, hcell, hfiled⟩ := covered_record h hb'
      cases hcell
      refine ⟨key', hk', .record b, stamp b, hb', ?_, a, rfl, ha, le_trans (hring b) hle⟩
      rw [hjudge key' b hfiled, if_neg (by simp [hkeep])]

end

theorem erase_subset {β : Type} (m : Table String β) (key : String) :
    ∀ (k : String) (v : β), (m.erase key)[k]? = some v → m[k]? = some v := by
  intro k v hv
  by_cases hk : key = k
  · rw [erase_get, if_pos hk] at hv; cases hv
  · rw [erase_get_of_ne m hk] at hv; exact hv

/-! ## `ResourceLockDO` -/

def ResourceRecord.expiresAt : ResourceRecord → Int
  | .consumption r => satAddI64 r.consumedAt (resourceTtlSeconds r.resourceType)
  | .lock r => r.expiresAt

def ResourceRecord.filed : ResourceRecord → String → Bool
  | .consumption _, key => hasPrefix "consumed:" key
  | .lock _, key => hasPrefix "lock:" key

/-- The call finds no consumption that counts. -/
def ResourceLockDo.Unconsumed (d : ResourceLockDo) (t : ConsumeReadings) (body : ConsumeResourceRequest) : Prop :=
  validateResource body.resourceType body.resourceId = .ok () ∧
    ∀ r ∈ readConsumption .none d.storage (consumedKey body.resourceType body.resourceId),
      r.isStale (nowEpochSecs t.check) = true

instance decidableUnconsumed (d : ResourceLockDo) (t : ConsumeReadings) (body : ConsumeResourceRequest) :
    Decidable (d.Unconsumed t body) :=
  inferInstanceAs (Decidable (_ ∧ _))

/-- The call finds no lock that is held. -/
def ResourceLockDo.Unlocked (d : ResourceLockDo) (now : UInt64) (body : AcquireLockRequest) : Prop :=
  body.validate = .ok () ∧
    ∀ r ∈ readLock .none d.storage (lockKey body.resourceKey), r.held (nowEpochSecs now) = false

instance decidableUnlocked (d : ResourceLockDo) (now : UInt64) (body : AcquireLockRequest) :
    Decidable (d.Unlocked now body) :=
  inferInstanceAs (Decidable (_ ∧ _))

def ResourceStep.Unfailing : ResourceStep → Prop
  | .consume fl .. | .check fl .. | .reset fl .. | .acquire fl .. | .release fl .. | .alarm fl .. => fl = .none

/-- A call that stores a record leaves the others in time for the alarm it sets, and so does the handler. -/
def ResourceStep.SparesAlarm (d : ResourceLockDo) : ResourceStep → Prop
  | .consume _ t body => d.Unconsumed t body →
      nowEpochSecs t.arm ≤ nowEpochSecs t.create + 1 ∧
        OthersOutlast ResourceRecord.expiresAt d.storage (consumedKey body.resourceType body.resourceId)
          (nowEpochSecs t.arm + resourceTtlSeconds body.resourceType)
  | .acquire _ now arm body => d.Unlocked now body →
      nowEpochSecs arm ≤ nowEpochSecs now ∧
        OthersOutlast ResourceRecord.expiresAt d.storage (lockKey body.resourceKey)
          (nowEpochSecs arm + (body.ttl + 1))
  | .alarm _ now arm =>
      RearmsInTime ResourceRecord.expiresAt (fun r => decide (nowEpochSecs now ≥ r.expiresAt)) maxListEntries
        (nowEpochSecs now) (nowEpochSecs arm) d.storage
  | .check .. | .reset .. | .release .. => True

instance ResourceStep.decidableSparesAlarm (d : ResourceLockDo) : ∀ i : ResourceStep, Decidable (i.SparesAlarm d)
  | .consume .. | .acquire .. => inferInstanceAs (Decidable (_ → _ ∧ _))
  | .alarm _ now arm => decidableRearmsInTime ResourceRecord.expiresAt (fun r => decide (nowEpochSecs now ≥ r.expiresAt))
      maxListEntries (nowEpochSecs now) (nowEpochSecs arm) d.storage
  | .check .. | .reset .. | .release .. => inferInstanceAs (Decidable True)

theorem setAlarm_secs (arm : UInt64) {x : Int} (h0 : 0 ≤ x) :
    (((arm.toNat + (satMulI64 x 1000).toNat) / 1000 : Nat) : Int) ≤ nowEpochSecs arm + x := by
  have hle : (satMulI64 x 1000).toNat ≤ x.toNat * 1000 := by
    unfold satMulI64 clampI64 i64Min i64Max
    omega
  have hsecs : nowEpochSecs arm = ((arm.toNat / 1000 : Nat) : Int) := nowEpochSecs_eq arm
  rw [hsecs]
  omega

theorem ttl_range (body : AcquireLockRequest) : 0 ≤ body.ttl ∧ body.ttl ≤ 30 := by
  unfold AcquireLockRequest.ttl toI64OrMax maxLockTtlSeconds i64Max
  omega

abbrev ResourceLockDo.Watched (d : ResourceLockDo) : Prop :=
  Covered (RungInTime ResourceRecord.expiresAt ResourceRecord.filed) d.storage d.alarm

section
variable {d : ResourceLockDo}

theorem markConsumed_watched {t : ConsumeReadings} {body : ConsumeResourceRequest} (h : d.Watched)
    (harm : nowEpochSecs t.arm ≤ nowEpochSecs t.create + 1)
    (hothers : OthersOutlast ResourceRecord.expiresAt d.storage (consumedKey body.resourceType body.resourceId)
      (nowEpochSecs t.arm + resourceTtlSeconds body.resourceType)) :
    (d.markConsumed .none t body).2.Watched := by
  obtain ⟨h0, hmax⟩ := resourceTtlSeconds_range body.resourceType
  have hexp : satAddI64 (nowEpochSecs t.create) (resourceTtlSeconds body.resourceType) =
      nowEpochSecs t.create + resourceTtlSeconds body.resourceType := by
    rw [nowEpochSecs_eq]
    exact satAddI64_secs t.create h0 (by omega)
  apply covered_store h (setAlarm_secs t.arm h0)
  · show hasPrefix "consumed:" (consumedKey body.resourceType body.resourceId) = true
    rw [consumedKey, String.append_assoc, String.append_assoc]
    exact hasPrefix_append _ _
  · show _ ≤ satAddI64 (nowEpochSecs t.create) (resourceTtlSeconds body.resourceType) + 1
    rw [hexp]
    omega
  · exact hothers

theorem consumeResource_watched {t : ConsumeReadings} {body : ConsumeResourceRequest} (h : d.Watched)
    (hspares : (ResourceStep.consume .none t body).SparesAlarm d) : (d.consumeResource .none t body).2.Watched := by
  unfold ResourceLockDo.consumeResource
  split
  · exact h
  rename_i hvalid
  simp only
  split
  · rename_i record hread
    by_cases hstale : record.isStale (nowEpochSecs t.check) = true
    · rw [if_pos hstale]
      obtain ⟨harm, hothers⟩ := hspares ⟨hvalid, fun r hr => by rw [hread] at hr; cases hr; exact hstale⟩
      have herase := erase_subset d.storage (consumedKey body.resourceType body.resourceId)
      exact markConsumed_watched (covered_of_subset h herase) harm (othersOutlast_of_subset hothers herase)
    · rw [if_neg hstale]
      exact h
  · rename_i hread
    obtain ⟨harm, hothers⟩ := hspares ⟨hvalid, fun r hr => by rw [hread] at hr; cases hr⟩
    exact markConsumed_watched h harm hothers

theorem checkConsumed_watched (now : UInt64) (resourceType resourceId : String) (h : d.Watched) :
    (d.checkConsumed .none now resourceType resourceId).2.Watched := by
  unfold ResourceLockDo.checkConsumed
  split
  · exact h
  simp only
  split
  · split
    · exact covered_erase h _
    · exact h
  · exact h

theorem resetResource_watched (environment resourceType resourceId : String) (h : d.Watched) :
    (d.resetResource .none environment resourceType resourceId).2.Watched := by
  unfold ResourceLockDo.resetResource
  split
  · exact h
  split
  · exact h
  · exact covered_erase h _

theorem grantLock_watched {now arm : UInt64} {body : AcquireLockRequest} (h : d.Watched)
    (harm : nowEpochSecs arm ≤ nowEpochSecs now)
    (hothers : OthersOutlast ResourceRecord.expiresAt d.storage (lockKey body.resourceKey)
      (nowEpochSecs arm + (body.ttl + 1))) : (d.grantLock .none now arm body).2.Watched := by
  obtain ⟨h0, hmax⟩ := ttl_range body
  have hexp : satAddI64 (nowEpochSecs now) body.ttl = nowEpochSecs now + body.ttl := by
    rw [nowEpochSecs_eq]
    exact satAddI64_secs now h0 (by omega)
  have hplus : satAddI64 body.ttl 1 = body.ttl + 1 :=
    clampI64_of_range (by unfold i64Min; omega) (by unfold i64Max; omega)
  apply covered_store h (t := nowEpochSecs arm + (body.ttl + 1))
  · rw [hplus]
    exact setAlarm_secs arm (by omega)
  · exact hasPrefix_append _ _
  · show _ ≤ satAddI64 (nowEpochSecs now) body.ttl + 1
    rw [hexp]
    omega
  · exact hothers

theorem handleAcquireLock_watched {now arm : UInt64} {body : AcquireLockRequest} (h : d.Watched)
    (hspares : (ResourceStep.acquire .none now arm body).SparesAlarm d) :
    (d.handleAcquireLock .none now arm body).2.Watched := by
  rcases handleAcquireLock_cases .none now arm body d with ⟨-, hsame⟩ | ⟨hgrant, hvalid, hfree⟩
  · rw [hsame]
    exact h
  · obtain ⟨harm, hothers⟩ := hspares ⟨hvalid, hfree⟩
    rw [hgrant]
    exact grantLock_watched h harm hothers

theorem handleReleaseLock_watched (lockToken resourceKey : String) (h : d.Watched) :
    (d.handleReleaseLock .none lockToken resourceKey).2.Watched := by
  unfold ResourceLockDo.handleReleaseLock
  split
  · exact h
  simp only
  split
  · split
    · exact h
    · exact covered_erase h _
  · exact h

theorem onAlarm_none (now arm : UInt64) (d : ResourceLockDo) :
    d.onAlarm .none now arm = ⟨(sweepResources .none (nowEpochSecs now) d.storage).1,
      (sweepResources .none (nowEpochSecs now) d.storage).2.map fun nextExpiry =>
        arm.toNat + (satMulI64 (max (satSubI64 nextExpiry (nowEpochSecs now)) 1) 1000).toNat⟩ := by
  have hlist : ¬Faults.none.list = true := Bool.false_ne_true
  unfold ResourceLockDo.onAlarm
  simp only [if_neg hlist]
  cases (sweepResources .none (nowEpochSecs now) d.storage).2 with
  | none => rfl
  | some nextExpiry => rfl

theorem judgeResource_none (now : Int) (key : String) (r : ResourceRecord) (hfiled : r.filed key = true) :
    judgeResource .none now key (.record r) = if decide (now ≥ r.expiresAt) then .drop else .keep r.expiresAt := by
  cases r with
  | consumption r =>
    have hp : hasPrefix "consumed:" key = true := hfiled
    simp [judgeResource, Faults.none, hp, ResourceRecord.expiresAt]
  | lock r =>
    have hp : hasPrefix "lock:" key = true := hfiled
    simp [judgeResource, Faults.none, hp, ResourceRecord.expiresAt]

theorem onAlarm_watched {now arm : UInt64} (h : d.Watched)
    (hrearms : (ResourceStep.alarm .none now arm).SparesAlarm d) : (d.onAlarm .none now arm).Watched := by
  rw [onAlarm_none]
  apply covered_handler h (judgeResource_none (nowEpochSecs now)) _ _ hrearms
  · intro s t hle
    unfold satMulI64 satSubI64 clampI64 i64Min i64Max
    omega
  · intro r
    have hsecs := setAlarm_secs arm (x := max (satSubI64 r.expiresAt (nowEpochSecs now)) 1) (by omega)
    have hsub : max (satSubI64 r.expiresAt (nowEpochSecs now)) 1 ≤ max (r.expiresAt - nowEpochSecs now) 1 := by
      unfold satSubI64 clampI64 i64Min i64Max
      omega
    omega

/-- One step keeps the alarm in time. -/
theorem resourceStep_watched (d : ResourceLockDo) (i : ResourceStep) (h : d.Watched)
    (hi : i.Unfailing ∧ i.SparesAlarm d) : (i.apply d).Watched := by
  obtain ⟨hfl, hspares⟩ := hi
  cases i with
  | consume fl t body => cases hfl; exact consumeResource_watched h hspares
  | check fl now resourceType resourceId => cases hfl; exact checkConsumed_watched now resourceType resourceId h
  | reset fl now environment resourceType resourceId =>
    cases hfl; exact resetResource_watched environment resourceType resourceId h
  | acquire fl now arm body => cases hfl; exact handleAcquireLock_watched h hspares
  | release fl now lockToken resourceKey => cases hfl; exact handleReleaseLock_watched lockToken resourceKey h
  | alarm fl now arm => cases hfl; exact onAlarm_watched h hspares

end

/-! ## `NonceDO` -/

def NonceRecord.expiry (r : NonceRecord) : Int := r.expiresAt

def NonceRecord.filed (_ : NonceRecord) (key : String) : Bool := hasPrefix "nonce:" key

/-- The call finds no nonce that is valid or unreadable. -/
def NonceDo.unused (d : NonceDo) (now : Nat) (nonce : String) : Bool :=
  match d.storage[nonceKey nonce]? with
  | none => true
  | some (.record r) => !r.isValidAt now
  | some .garbled => false

def makeRoom (now : Nat) (m : Table String (Cell NonceRecord)) : Table String (Cell NonceRecord) :=
  if m.size ≥ maxNonceCapacity then (sweepNonces .none now m).1 else m

/-- The storage into which the nonce is put: its expired record is gone, and a full storage is purged. -/
def NonceDo.roomFor (d : NonceDo) (r : NonceReadings) (nonce : String) : Table String (Cell NonceRecord) :=
  match d.storage[nonceKey nonce]? with
  | none => makeRoom (secs r.purge) d.storage
  | some _ => makeRoom (secs r.purge) (d.storage.erase (nonceKey nonce))

def NonceOp.SparesAlarm (d : NonceDo) : NonceOp → Prop
  | .checkAndSet r nonce ttl => ttl ≠ 0 ∧ ttl ≤ maxNonceTtlSeconds ∧ d.unused (secs r.check) nonce = true →
      secs r.arm ≤ secs r.create + 1 ∧
        OthersOutlast NonceRecord.expiry (d.roomFor r nonce) (nonceKey nonce) (secs r.arm + ttl)
  | .alarm now arm =>
      RearmsInTime NonceRecord.expiry (fun r => !r.isValidAt (secs now)) maxNonceCapacity (secs now) (secs arm) d.storage
  | .purge _ => True

instance NonceOp.decidableSparesAlarm (d : NonceDo) : ∀ i : NonceOp, Decidable (i.SparesAlarm d)
  | .checkAndSet .. => inferInstanceAs (Decidable (_ ∧ _ ∧ _ → _ ∧ _))
  | .alarm now arm => decidableRearmsInTime NonceRecord.expiry (fun r => !r.isValidAt (secs now)) maxNonceCapacity
      (secs now) (secs arm) d.storage
  | .purge _ => inferInstanceAs (Decidable True)

abbrev NonceDo.Watched (d : NonceDo) : Prop := Covered (RungInTime NonceRecord.expiry NonceRecord.filed) d.storage d.alarm

theorem nonceAlarm_secs (arm : UInt64) (delaySecs : Nat) :
    (((arm.toNat + (toI64OrMax (satMulU64 delaySecs 1000)).toNat) / 1000 : Nat) : Int) ≤ secs arm + delaySecs := by
  have hle : (toI64OrMax (satMulU64 delaySecs 1000)).toNat ≤ delaySecs * 1000 := by
    unfold toI64OrMax satMulU64 i64Max
    omega
  unfold secs
  omega

section
variable {d : NonceDo}

theorem makeRoom_subset (now : Nat) (m : Table String (Cell NonceRecord)) :
    ∀ (k : String) (c : Cell NonceRecord), (makeRoom now m)[k]? = some c → m[k]? = some c := by
  intro k c hc
  unfold makeRoom at hc
  by_cases hfull : m.size ≥ maxNonceCapacity
  · rw [if_pos hfull] at hc
    exact sweep_subset _ hc
  · rw [if_neg hfull] at hc
    exact hc

theorem storeNonce_eq (r : NonceReadings) (nonce : String) (ttl : Nat) (d : NonceDo) :
    (d.storeNonce .none .none r nonce ttl).2 =
      ⟨(makeRoom (secs r.purge) d.storage).insert (nonceKey nonce)
          (.record ⟨nonce, secs r.create, satAddU64 (secs r.create) ttl⟩),
        some (r.arm.toNat + (toI64OrMax (satMulU64 ttl 1000)).toNat)⟩ := by
  unfold NonceDo.storeNonce makeRoom purgeExpiredNonces
  by_cases hfull : d.storage.size ≥ maxNonceCapacity
  · simp only [Faults.none, Bool.false_eq_true, if_false, if_pos hfull]
  · simp only [Faults.none, Bool.false_eq_true, if_false, if_neg hfull]

theorem storeNonce_watched {r : NonceReadings} {nonce : String} {ttl : Nat} (h : d.Watched)
    (hmax : ttl ≤ maxNonceTtlSeconds) (harm : secs r.arm ≤ secs r.create + 1)
    (hothers : OthersOutlast NonceRecord.expiry (makeRoom (secs r.purge) d.storage) (nonceKey nonce) (secs r.arm + ttl)) :
    (d.storeNonce .none .none r nonce ttl).2.Watched := by
  rw [storeNonce_eq]
  apply covered_store (covered_of_subset h (makeRoom_subset _ _)) (nonceAlarm_secs r.arm ttl)
  · exact hasPrefix_append _ _
  · show _ ≤ ((satAddU64 (secs r.create) ttl : Nat) : Int) + 1
    rw [satAddU64_secs r.create hmax]
    omega
  · exact hothers

theorem checkAndSetInternal_watched {r : NonceReadings} {nonce : String} {ttl : Nat} (h : d.Watched)
    (hspares : (NonceOp.checkAndSet r nonce ttl).SparesAlarm d) :
    (d.checkAndSetInternal .none .none r nonce ttl).2.Watched := by
  by_cases h0 : ttl = 0
  · simp only [NonceDo.checkAndSetInternal, if_pos h0]
    exact h
  by_cases hmax : ttl ≤ maxNonceTtlSeconds
  · have hle : ¬ttl > maxNonceTtlSeconds := Nat.not_lt.mpr hmax
    simp only [NonceDo.checkAndSetInternal, if_neg h0, if_neg hle, storageGet, Faults.none, storageDelete,
      Bool.false_eq_true, if_false]
    cases hc : d.storage[nonceKey nonce]? with
    | none =>
      obtain ⟨harm, hothers⟩ := hspares ⟨h0, hmax, by simp only [NonceDo.unused, hc]⟩
      simp only [NonceDo.roomFor, hc] at hothers
      exact storeNonce_watched h hmax harm hothers
    | some c =>
      cases c with
      | garbled => exact h
      | record record =>
        by_cases hv : record.isValidAt (secs r.check) = true
        · simp only [if_pos hv]
          exact h
        · obtain ⟨harm, hothers⟩ := hspares ⟨h0, hmax, by simp [NonceDo.unused, hc, hv]⟩
          simp only [NonceDo.roomFor, hc] at hothers
          simp only [if_neg hv]
          have herase : Covered (RungInTime NonceRecord.expiry NonceRecord.filed) (d.storage.erase (nonceKey nonce)) d.alarm :=
            covered_erase h _
          exact storeNonce_watched (d := ⟨d.storage.erase (nonceKey nonce), d.alarm⟩) herase hmax harm hothers
  · have hgt : ttl > maxNonceTtlSeconds := Nat.lt_of_not_le hmax
    simp only [NonceDo.checkAndSetInternal, if_neg h0, if_pos hgt]
    exact h

theorem nonceOnAlarm_none (now arm : UInt64) (d : NonceDo) :
    d.onAlarm .none now arm = ⟨(sweepNonces .none (secs now) d.storage).1,
      (sweepNonces .none (secs now) d.storage).2.map fun nextExpiry =>
        arm.toNat + (toI64OrMax (satMulU64 (max (nextExpiry - secs now) 1) 1000)).toNat⟩ := by
  have hlist : ¬Faults.none.list = true := Bool.false_ne_true
  unfold NonceDo.onAlarm
  simp only [if_neg hlist]
  cases (sweepNonces .none (secs now) d.storage).2 with
  | none => rfl
  | some nextExpiry => rfl

theorem judgeNonce_none (now : Nat) (key : String) (r : NonceRecord) (hfiled : r.filed key = true) :
    judgeNonce .none now key (.record r) = if !r.isValidAt now then .drop else .keep r.expiresAt := by
  have hp : hasPrefix "nonce:" key = true := hfiled
  unfold judgeNonce
  rw [if_pos hp]
  by_cases hv : r.isValidAt now = true
  · simp [Faults.none, hv]
  · simp [Faults.none, hv]

theorem nonceOnAlarm_watched {now arm : UInt64} (h : d.Watched) (hrearms : (NonceOp.alarm now arm).SparesAlarm d) :
    (d.onAlarm .none now arm).Watched := by
  rw [nonceOnAlarm_none]
  apply covered_handler h (judgeNonce_none (secs now)) _ _ hrearms
  · intro s t hle
    unfold toI64OrMax satMulU64 i64Max u64Max
    omega
  · intro r
    have hsecs := nonceAlarm_secs arm (max (r.expiresAt - secs now) 1)
    have hdelay : ((max (r.expiresAt - secs now) 1 : Nat) : Int) ≤ max (r.expiry - (secs now : Int)) 1 := by
      unfold NonceRecord.expiry
      omega
    omega

theorem nonceOp_watched (d : NonceDo) (i : NonceOp) (h : d.Watched) (hi : i.SparesAlarm d) : (i.apply d).Watched := by
  cases i with
  | checkAndSet r nonce ttl => exact checkAndSetInternal_watched h hi
  | alarm now arm => exact nonceOnAlarm_watched h hi
  | purge now => exact covered_of_subset h fun k c hc => sweep_subset _ hc

end

/-! ## Runs -/

/-- **The alarm is in time.** In a run without storage errors whose steps all spare the alarm, whatever is
stored is attended to. -/
theorem stored_attended (now : Int) :
    (∀ steps, Along ResourceStep.apply (fun d i => i.Unfailing ∧ i.SparesAlarm d) .empty steps →
      Attended ResourceRecord.expiresAt now (exec ResourceStep.apply .empty steps).storage
        (exec ResourceStep.apply .empty steps).alarm) ∧
    ∀ ops, Along NonceOp.apply (fun d i => i.SparesAlarm d) .empty ops →
      Attended NonceRecord.expiry now (exec NonceOp.apply .empty ops).storage (exec NonceOp.apply .empty ops).alarm := by
  constructor
  · intro steps hsteps
    have hempty : ResourceLockDo.empty.Watched := covered_empty _
    exact attended_of_covered now (exec_invariant ResourceStep.apply resourceStep_watched steps _ hempty hsteps)
  · intro ops hops
    have hempty : NonceDo.empty.Watched := covered_empty _
    exact attended_of_covered now (exec_invariant NonceOp.apply nonceOp_watched ops _ hempty hops)

/-- Shorter lifetimes after longer ones; the handler drops the first and rings again for the second. -/
def nestedSteps : List ResourceStep :=
  [.consume .none (.at 0) ⟨"quota", "x", none⟩, .acquire .none 10000 10000 ⟨"t1", 30, "r1"⟩, .alarm .none 41000 41000]

def nestedOps : List NonceOp :=
  [.checkAndSet (.at 0) "n1" 7200, .checkAndSet (.at 10000) "n2" 300, .alarm 311000 311000]

theorem nested_attended :
    Attended ResourceRecord.expiresAt 41 (exec ResourceStep.apply .empty nestedSteps).storage
        (exec ResourceStep.apply .empty nestedSteps).alarm ∧
      Attended NonceRecord.expiry 311 (exec NonceOp.apply .empty nestedOps).storage
        (exec NonceOp.apply .empty nestedOps).alarm :=
  ⟨(stored_attended 41).1 nestedSteps ⟨⟨rfl, by decide +kernel⟩, ⟨rfl, by decide +kernel⟩, ⟨rfl, by decide +kernel⟩, trivial⟩,
    (stored_attended 311).2 nestedOps (by decide +kernel)⟩

/-- Longer lifetimes after shorter ones, all in one second. -/
def overtakenSteps : List ResourceStep :=
  [.acquire .none 0 0 ⟨"t1", 30, "r1"⟩, .consume .none (.at 0) ⟨"quota", "x", none⟩]

def overtakenOps : List NonceOp := [.checkAndSet (.at 0) "n1" 300, .checkAndSet (.at 0) "n2" 7200]

/-- The alarm left is the one of the later expiry. -/
theorem overtaken_unattended :
    ((∀ i ∈ overtakenSteps, i.Unfailing) ∧ Ordered ResourceStep.start ResourceStep.stop 0 overtakenSteps ∧
      ¬Attended ResourceRecord.expiresAt 0 (exec ResourceStep.apply .empty overtakenSteps).storage
        (exec ResourceStep.apply .empty overtakenSteps).alarm) ∧
    (∀ i ∈ overtakenOps, i.Proper) ∧ Ordered NonceOp.start NonceOp.stop 0 overtakenOps ∧
      ¬Attended NonceRecord.expiry 0 (exec NonceOp.apply .empty overtakenOps).storage
        (exec NonceOp.apply .empty overtakenOps).alarm := by
  constructor
  · refine ⟨by simp [overtakenSteps, ResourceStep.Unfailing], by decide +kernel, fun h => ?_⟩
    have hstored : (exec ResourceStep.apply .empty overtakenSteps).storage["lock:r1"]? =
        some (.record (.lock ⟨"t1", 0, 30, "r1"⟩)) := by rfl
    have halarm : (exec ResourceStep.apply .empty overtakenSteps).alarm = some 3600000 := by decide +kernel
    obtain ⟨due, hdue, r, hr, hle⟩ := h _ _ hstored
    rw [halarm] at hdue
    cases hdue
    cases hr
    simp [ResourceRecord.expiresAt] at hle
  · refine ⟨by decide +kernel, by decide +kernel, fun h => ?_⟩
    have hstored : (exec NonceOp.apply .empty overtakenOps).storage["nonce:n1"]? = some (.record ⟨"n1", 0, 300⟩) := by
      decide +kernel
    have halarm : (exec NonceOp.apply .empty overtakenOps).alarm = some 7200000 := by decide +kernel
    obtain ⟨due, hdue, r, hr, hle⟩ := h _ _ hstored
    rw [halarm] at hdue
    cases hdue
    cases hr
    simp [NonceRecord.expiry] at hle

end Issuer
