import Issuer.ResourceLockDo
import Issuer.Lib.Runs

/-!
# What the handlers of `ResourceLockDO` do to storage

Each handler writes one slot at most, the alarm drops only what has reached its end. A refusal
needs a read that succeeds: with any other outcome the handler grants and overwrites.
-/

namespace Issuer

open Rust Store

/-! ## Reads -/

theorem storageGet_success {fl : Faults} {m : Table String (Cell ResourceRecord)} {key : String}
    (h : fl.read key = .success) : storageGet fl m key = .ok m[key]? := by
  unfold storageGet; rw [h]

theorem readConsumption_of_stored {fl : Faults} {m : Table String (Cell ResourceRecord)} {key : String}
    {r : ConsumptionRecord} (h : fl.read key = .success) (hr : m[key]? = some (.record (.consumption r))) :
    readConsumption fl m key = some r := by
  unfold readConsumption; rw [storageGet_success h, hr]

theorem readLock_of_stored {fl : Faults} {m : Table String (Cell ResourceRecord)} {key : String}
    {r : LockRecord} (h : fl.read key = .success) (hr : m[key]? = some (.record (.lock r))) :
    readLock fl m key = some r := by
  unfold readLock; rw [storageGet_success h, hr]

theorem storageGet_fault {fl : Faults} {m : Table String (Cell ResourceRecord)} {key : String}
    (h : fl.read key ≠ .success) : ∀ a, storageGet fl m key ≠ .ok (some (.record a)) := by
  intro a
  unfold storageGet
  split
  · rename_i hs; exact absurd hs h
  · simp
  · cases m[key]? <;> simp

theorem readConsumption_fault {fl : Faults} {m : Table String (Cell ResourceRecord)} {key : String}
    (h : fl.read key ≠ .success) : readConsumption fl m key = none := by
  unfold readConsumption
  split
  · rename_i hg; exact absurd hg (storageGet_fault h _)
  · rfl

theorem readLock_fault {fl : Faults} {m : Table String (Cell ResourceRecord)} {key : String}
    (h : fl.read key ≠ .success) : readLock fl m key = none := by
  unfold readLock
  split
  · rename_i hg; exact absurd hg (storageGet_fault h _)
  · rfl

theorem readConsumption_some {fl : Faults} {m : Table String (Cell ResourceRecord)} {key : String}
    {r : ConsumptionRecord} (h : readConsumption fl m key = some r) :
    fl.read key = .success ∧ m[key]? = some (.record (.consumption r)) := by
  have hs : fl.read key = .success := by
    by_contra hne
    rw [readConsumption_fault hne] at h
    cases h
  refine ⟨hs, ?_⟩
  unfold readConsumption at h
  rw [storageGet_success hs] at h
  split at h
  · rename_i hg
    cases h
    simpa using hg
  · cases h

theorem readLock_some {fl : Faults} {m : Table String (Cell ResourceRecord)} {key : String}
    {r : LockRecord} (h : readLock fl m key = some r) :
    fl.read key = .success ∧ m[key]? = some (.record (.lock r)) := by
  have hs : fl.read key = .success := by
    by_contra hne
    rw [readLock_fault hne] at h
    cases h
  refine ⟨hs, ?_⟩
  unfold readLock at h
  rw [storageGet_success hs] at h
  split at h
  · rename_i hg
    cases h
    simpa using hg
  · cases h

/-! ## Slots -/

theorem consumedKey_ne_lockKey (resourceType resourceId resourceKey : String) :
    consumedKey resourceType resourceId ≠ lockKey resourceKey := by
  unfold consumedKey lockKey
  rw [String.append_assoc, String.append_assoc]
  exact append_ne_append (by decide)

theorem lockKey_injective {a b : String} (h : lockKey a = lockKey b) : a = b := by
  have := congrArg (stripPrefix "lock:") h
  simpa [lockKey] using this

/-! ## Consume and check -/

theorem resourceTtlSeconds_range (resourceType : String) :
    0 ≤ resourceTtlSeconds resourceType ∧ resourceTtlSeconds resourceType ≤ 3600 := by
  unfold resourceTtlSeconds
  repeat' split
  all_goals omega

/-- The write half of `consume_resource`. -/
theorem markConsumed_cases (fl : Faults) (t : ConsumeReadings) (body : ConsumeResourceRequest) (d : ResourceLockDo) :
    fl.put = true ∧ d.markConsumed fl t body = (.error .platform, d) ∨
      fl.put = false ∧ consumeAllowed (d.markConsumed fl t body).1 = !fl.setAlarm ∧
        (d.markConsumed fl t body).2.storage = d.storage.insert (consumedKey body.resourceType body.resourceId)
          (.record (.consumption ⟨nowEpochSecs t.create, body.resourceType, body.resourceId, body.metadata⟩)) := by
  unfold ResourceLockDo.markConsumed
  cases hp : fl.put with
  | true => exact .inl ⟨rfl, by simp⟩
  | false =>
    refine .inr ⟨rfl, ?_⟩
    cases ha : fl.setAlarm with
    | true => exact ⟨rfl, rfl⟩
    | false => exact ⟨rfl, rfl⟩

theorem consumeResource_invalid {fl : Faults} {t : ConsumeReadings} {body : ConsumeResourceRequest}
    {d : ResourceLockDo} (h : validateResource body.resourceType body.resourceId ≠ .ok ()) :
    consumeAllowed (d.consumeResource fl t body).1 = false ∧ (d.consumeResource fl t body).2 = d := by
  unfold ResourceLockDo.consumeResource
  split
  · exact ⟨rfl, rfl⟩
  · rename_i hv; exact absurd hv h

/-- A live record that is read refuses, and the refusal changes nothing. -/
theorem consumeResource_refused {fl : Faults} {t : ConsumeReadings} {body : ConsumeResourceRequest}
    {d : ResourceLockDo} {r : ConsumptionRecord}
    (hread : fl.read (consumedKey body.resourceType body.resourceId) = .success)
    (hr : d.storage[consumedKey body.resourceType body.resourceId]? = some (.record (.consumption r)))
    (hlive : r.isStale (nowEpochSecs t.check) = false) :
    consumeAllowed (d.consumeResource fl t body).1 = false ∧ (d.consumeResource fl t body).2 = d := by
  unfold ResourceLockDo.consumeResource
  split
  · exact ⟨rfl, rfl⟩
  · simp only [readConsumption_of_stored hread hr, hlive]
    exact ⟨rfl, rfl⟩

/-- Past the check, `consume_resource` ends in the write half, on storage that differs at the
resource's own slot at most. -/
theorem consumeResource_cases (fl : Faults) (t : ConsumeReadings) (body : ConsumeResourceRequest) (d : ResourceLockDo) :
    (consumeAllowed (d.consumeResource fl t body).1 = false ∧ (d.consumeResource fl t body).2 = d) ∨
      ∃ d₀ : ResourceLockDo, d.consumeResource fl t body = d₀.markConsumed fl t body ∧
        ∀ a, a ≠ consumedKey body.resourceType body.resourceId → d₀.storage[a]? = d.storage[a]? := by
  unfold ResourceLockDo.consumeResource
  split
  · exact .inl ⟨rfl, rfl⟩
  simp only
  split
  · split
    · refine .inr ⟨_, rfl, fun a ha => ?_⟩
      simp only [storageDelete]
      split
      · rfl
      · exact erase_get_of_ne _ (Ne.symm ha)
    · exact .inl ⟨rfl, rfl⟩
  · exact .inr ⟨d, rfl, fun _ _ => rfl⟩

theorem consumeResource_frame {fl : Faults} {t : ConsumeReadings} {body : ConsumeResourceRequest} {d : ResourceLockDo}
    {a : String} (ha : a ≠ consumedKey body.resourceType body.resourceId) :
    (d.consumeResource fl t body).2.storage[a]? = d.storage[a]? := by
  rcases consumeResource_cases fl t body d with ⟨_, h⟩ | ⟨d₀, h, hframe⟩
  · rw [h]
  · rw [h]
    rcases markConsumed_cases fl t body d₀ with ⟨_, hm⟩ | ⟨_, _, hm⟩
    · rw [hm]; exact hframe a ha
    · rw [hm, insert_get_of_ne _ ha.symm]; exact hframe a ha

theorem consumeResource_allowed {fl : Faults} {t : ConsumeReadings} {body : ConsumeResourceRequest} {d : ResourceLockDo}
    (h : consumeAllowed (d.consumeResource fl t body).1 = true) :
    (d.consumeResource fl t body).2.storage[consumedKey body.resourceType body.resourceId]? =
      some (.record (.consumption ⟨nowEpochSecs t.create, body.resourceType, body.resourceId, body.metadata⟩)) := by
  rcases consumeResource_cases fl t body d with ⟨hf, _⟩ | ⟨d₀, hd, _⟩
  · rw [hf] at h; cases h
  · rw [hd] at h ⊢
    rcases markConsumed_cases fl t body d₀ with ⟨_, hm⟩ | ⟨_, _, hm⟩
    · rw [hm] at h; cases h
    · rw [hm]; exact Std.TreeMap.getElem?_insert_self

theorem checkConsumed_frame {fl : Faults} {now : UInt64} {resourceType resourceId : String} {d : ResourceLockDo}
    {a : String} (ha : a ≠ consumedKey resourceType resourceId) :
    (d.checkConsumed fl now resourceType resourceId).2.storage[a]? = d.storage[a]? := by
  unfold ResourceLockDo.checkConsumed
  split
  · rfl
  simp only
  split
  · split
    · simp only [storageDelete]
      split
      · rfl
      · exact erase_get_of_ne _ ha.symm
    · rfl
  · rfl

/-- Checking leaves a live record alone. -/
theorem checkConsumed_live {fl : Faults} {now : UInt64} {resourceType resourceId : String} {d : ResourceLockDo}
    {r : ConsumptionRecord} (hr : d.storage[consumedKey resourceType resourceId]? = some (.record (.consumption r)))
    (hlive : r.isStale (nowEpochSecs now) = false) :
    (d.checkConsumed fl now resourceType resourceId).2 = d := by
  unfold ResourceLockDo.checkConsumed
  split
  · rfl
  simp only
  split
  · rename_i r' hread
    have hr' := (readConsumption_some hread).2
    rw [hr] at hr'
    cases hr'
    simp only [hlive, Bool.false_eq_true, if_false]
  · rfl

/-! ## Locks -/

theorem grantLock_cases (fl : Faults) (now arm : UInt64) (body : AcquireLockRequest) (d : ResourceLockDo) :
    fl.put = true ∧ d.grantLock fl now arm body = (.error .platform, d) ∨
      fl.put = false ∧ acquireGranted (d.grantLock fl now arm body).1 = !fl.setAlarm ∧
        (d.grantLock fl now arm body).2.storage = d.storage.insert (lockKey body.resourceKey)
          (.record (.lock ⟨body.lockToken, nowEpochSecs now, satAddI64 (nowEpochSecs now) body.ttl, body.resourceKey⟩)) := by
  unfold ResourceLockDo.grantLock
  cases hp : fl.put with
  | true => exact .inl ⟨rfl, by simp⟩
  | false =>
    refine .inr ⟨rfl, ?_⟩
    cases ha : fl.setAlarm with
    | true => exact ⟨rfl, rfl⟩
    | false => exact ⟨rfl, rfl⟩

theorem handleAcquireLock_cases (fl : Faults) (now arm : UInt64) (body : AcquireLockRequest) (d : ResourceLockDo) :
    (acquireGranted (d.handleAcquireLock fl now arm body).1 = false ∧ (d.handleAcquireLock fl now arm body).2 = d) ∨
      d.handleAcquireLock fl now arm body = d.grantLock fl now arm body ∧ body.validate = .ok () ∧
        ∀ r, readLock fl d.storage (lockKey body.resourceKey) = some r → r.held (nowEpochSecs now) = false := by
  unfold ResourceLockDo.handleAcquireLock
  split
  · exact .inl ⟨rfl, rfl⟩
  rename_i hv
  split
  · rename_i record hread
    split
    · exact .inl ⟨rfl, rfl⟩
    · rename_i hheld
      refine .inr ⟨rfl, hv, fun r hr => ?_⟩
      rw [hread] at hr
      cases hr
      simpa using hheld
  · rename_i hread
    exact .inr ⟨rfl, hv, fun r hr => by rw [hread] at hr; cases hr⟩

theorem handleAcquireLock_refused {fl : Faults} {now arm : UInt64} {body : AcquireLockRequest} {d : ResourceLockDo}
    {r : LockRecord} (hread : fl.read (lockKey body.resourceKey) = .success)
    (hr : d.storage[lockKey body.resourceKey]? = some (.record (.lock r))) (hheld : r.held (nowEpochSecs now) = true) :
    acquireGranted (d.handleAcquireLock fl now arm body).1 = false ∧ (d.handleAcquireLock fl now arm body).2 = d := by
  rcases handleAcquireLock_cases fl now arm body d with h | ⟨_, _, h⟩
  · exact h
  · rw [h r (readLock_of_stored hread hr)] at hheld
    cases hheld

theorem handleAcquireLock_frame {fl : Faults} {now arm : UInt64} {body : AcquireLockRequest} {d : ResourceLockDo}
    {a : String} (ha : a ≠ lockKey body.resourceKey) :
    (d.handleAcquireLock fl now arm body).2.storage[a]? = d.storage[a]? := by
  rcases handleAcquireLock_cases fl now arm body d with ⟨_, h⟩ | ⟨h, _⟩
  · rw [h]
  · rw [h]
    rcases grantLock_cases fl now arm body d with ⟨_, hm⟩ | ⟨_, _, hm⟩
    · rw [hm]
    · rw [hm, insert_get_of_ne _ ha.symm]

/-- A release erases the slot, and only over a record of its own token. -/
theorem handleReleaseLock_cases (fl : Faults) (lockToken resourceKey : String) (d : ResourceLockDo) :
    (d.handleReleaseLock fl lockToken resourceKey).2 = d ∨
      (∃ r, d.storage[lockKey resourceKey]? = some (.record (.lock r)) ∧ r.lockToken = lockToken) ∧
        (d.handleReleaseLock fl lockToken resourceKey).2.storage = d.storage.erase (lockKey resourceKey) := by
  unfold ResourceLockDo.handleReleaseLock
  split
  · exact .inl rfl
  simp only
  split
  · rename_i record hread
    split
    · exact .inl rfl
    rename_i htoken
    split
    · exact .inl rfl
    · exact .inr ⟨⟨record, (readLock_some hread).2, not_not.mp htoken⟩, rfl⟩
  · exact .inl rfl

theorem handleReleaseLock_frame {fl : Faults} {lockToken resourceKey : String} {d : ResourceLockDo}
    {a : String} (ha : a ≠ lockKey resourceKey) :
    (d.handleReleaseLock fl lockToken resourceKey).2.storage[a]? = d.storage[a]? := by
  rcases handleReleaseLock_cases fl lockToken resourceKey d with h | ⟨_, h⟩
  · rw [h]
  · rw [h, erase_get_of_ne _ ha.symm]

/-! ## The alarm -/

theorem onAlarm_storage (fl : Faults) (now arm : UInt64) (d : ResourceLockDo) :
    (d.onAlarm fl now arm).storage = d.storage ∨
      (d.onAlarm fl now arm).storage = (sweepResources fl (nowEpochSecs now) d.storage).1 := by
  unfold ResourceLockDo.onAlarm
  split
  · exact .inl rfl
  simp only
  split
  · split
    · exact .inr rfl
    · exact .inr rfl
  · exact .inr rfl

/-- The alarm keeps what it does not judge due. -/
theorem onAlarm_survives {fl : Faults} {now arm : UInt64} {d : ResourceLockDo} {key : String} {c : Cell ResourceRecord}
    (hc : d.storage[key]? = some c) (hj : judgeResource fl (nowEpochSecs now) key c ≠ .drop) :
    (d.onAlarm fl now arm).storage[key]? = some c := by
  rcases onAlarm_storage fl now arm d with h | h
  · rw [h, hc]
  · rw [h]; exact sweep_survives _ _ hc hj

theorem judgeResource_consumption {fl : Faults} {now : Int} {key : String} {r : ConsumptionRecord}
    (h : now < satAddI64 r.consumedAt (resourceTtlSeconds r.resourceType)) :
    judgeResource fl now key (.record (.consumption r)) ≠ .drop := by
  unfold judgeResource
  simp only
  cases fl.read key with
  | success =>
    simp only
    split
    · rw [if_neg (by omega)]; simp
    · simp
  | readError => simp
  | undecodable => simp

theorem judgeResource_lock {fl : Faults} {now : Int} {key : String} {r : LockRecord}
    (h : r.held now = true) : judgeResource fl now key (.record (.lock r)) ≠ .drop := by
  have hlt : now < r.expiresAt := by simpa [LockRecord.held] using h
  unfold judgeResource
  simp only
  cases fl.read key with
  | success =>
    simp only
    split
    · rw [if_neg (by omega)]; simp
    · simp
  | readError => simp
  | undecodable => simp

/-! ## A failing read grants -/

/-- Over a live record, `consume` refuses in exactly these cases: the request is invalid, the read
succeeds, or a write fails. -/
theorem consume_refuses_iff {fl : Faults} {t : ConsumeReadings} {body : ConsumeResourceRequest}
    {d : ResourceLockDo} {r : ConsumptionRecord}
    (hr : d.storage[consumedKey body.resourceType body.resourceId]? = some (.record (.consumption r)))
    (hlive : r.isStale (nowEpochSecs t.check) = false) :
    consumeAllowed (d.consumeResource fl t body).1 = false ↔
      validateResource body.resourceType body.resourceId ≠ .ok () ∨
        fl.read (consumedKey body.resourceType body.resourceId) = .success ∨ fl.put = true ∨ fl.setAlarm = true := by
  by_cases hv : validateResource body.resourceType body.resourceId = .ok ()
  · by_cases hread : fl.read (consumedKey body.resourceType body.resourceId) = .success
    · simp only [(consumeResource_refused hread hr hlive).1, hread, true_or, or_true]
    · have hmark : d.consumeResource fl t body = d.markConsumed fl t body := by
        unfold ResourceLockDo.consumeResource
        simp only [hv, readConsumption_fault hread]
      rw [hmark]
      rcases markConsumed_cases fl t body d with ⟨hp, hm⟩ | ⟨hp, hm, _⟩
      · simp only [hm, hp, consumeAllowed, true_or, or_true]
      · simp only [hm, hv, hread, hp, ne_eq, not_true_eq_false, false_or, Bool.not_eq_false',
          Bool.false_eq_true]
  · simp only [(consumeResource_invalid hv).1, hv, ne_eq, not_false_eq_true, true_or]

theorem acquire_refuses_iff {fl : Faults} {now arm : UInt64} {body : AcquireLockRequest}
    {d : ResourceLockDo} {r : LockRecord}
    (hr : d.storage[lockKey body.resourceKey]? = some (.record (.lock r))) (hheld : r.held (nowEpochSecs now) = true) :
    acquireGranted (d.handleAcquireLock fl now arm body).1 = false ↔
      body.validate ≠ .ok () ∨ fl.read (lockKey body.resourceKey) = .success ∨ fl.put = true ∨ fl.setAlarm = true := by
  by_cases hread : fl.read (lockKey body.resourceKey) = .success
  · simp only [(handleAcquireLock_refused hread hr hheld).1, hread, true_or, or_true]
  · unfold ResourceLockDo.handleAcquireLock
    cases hv : body.validate with
    | error e => simp [acquireGranted]
    | ok u =>
      simp only [readLock_fault hread]
      rcases grantLock_cases fl now arm body d with ⟨hp, hm⟩ | ⟨hp, hm, _⟩
      · simp only [hm, hp, acquireGranted, true_or, or_true]
      · simp only [hm, hread, hp, ne_eq, not_true_eq_false, false_or, Bool.not_eq_false', Bool.false_eq_true]

theorem guards_refuse_iff_read_succeeds (d : ResourceLockDo) (fl : Faults) :
    (∀ (t : ConsumeReadings) (body : ConsumeResourceRequest) (r : ConsumptionRecord),
      d.storage[consumedKey body.resourceType body.resourceId]? = some (.record (.consumption r)) →
      r.isStale (nowEpochSecs t.check) = false →
      (consumeAllowed (d.consumeResource fl t body).1 = false ↔
        validateResource body.resourceType body.resourceId ≠ .ok () ∨
          fl.read (consumedKey body.resourceType body.resourceId) = .success ∨ fl.put = true ∨ fl.setAlarm = true)) ∧
    ∀ (now arm : UInt64) (body : AcquireLockRequest) (r : LockRecord),
      d.storage[lockKey body.resourceKey]? = some (.record (.lock r)) → r.held (nowEpochSecs now) = true →
      (acquireGranted (d.handleAcquireLock fl now arm body).1 = false ↔
        body.validate ≠ .ok () ∨ fl.read (lockKey body.resourceKey) = .success ∨ fl.put = true ∨ fl.setAlarm = true) :=
  ⟨fun _ _ _ hr hlive => consume_refuses_iff hr hlive, fun _ _ _ _ hr hheld => acquire_refuses_iff hr hheld⟩

/-- Both records were written in second 1000. -/
def guardedDo : ResourceLockDo where
  storage := ((∅ : Table String (Cell ResourceRecord)).insert "consumed:challenge:c1"
      (.record (.consumption ⟨1000, "challenge", "c1", none⟩))).insert "lock:r1"
    (.record (.lock ⟨"t1", 1000, 1030, "r1"⟩))
  alarm := none

def failingReads (outcome : Outcome) : Faults := { Faults.none with read := fun _ => outcome }

theorem guardedDo_refuses :
    consumeAllowed (guardedDo.consumeResource .none (.at 1005000) ⟨"challenge", "c1", none⟩).1 = false ∧
      acquireGranted (guardedDo.handleAcquireLock .none 1005000 1005000 ⟨"t2", 30, "r1"⟩).1 = false :=
  ⟨((guards_refuse_iff_read_succeeds guardedDo .none).1 (.at 1005000) ⟨"challenge", "c1", none⟩
      ⟨1000, "challenge", "c1", none⟩ (by rfl) (by decide)).mpr (.inr (.inl rfl)),
    ((guards_refuse_iff_read_succeeds guardedDo .none).2 1005000 1005000 ⟨"t2", 30, "r1"⟩
      ⟨"t1", 1000, 1030, "r1"⟩ (by rfl) (by decide)).mpr (.inr (.inl rfl))⟩

/-- Five seconds later, a read error and a value that does not decode each let both through. -/
theorem guardedDo_grants_on_failing_read :
    (consumeAllowed (guardedDo.consumeResource (failingReads .readError) (.at 1005000) ⟨"challenge", "c1", none⟩).1 = true ∧
      acquireGranted (guardedDo.handleAcquireLock (failingReads .readError) 1005000 1005000 ⟨"t2", 30, "r1"⟩).1 = true) ∧
    consumeAllowed (guardedDo.consumeResource (failingReads .undecodable) (.at 1005000) ⟨"challenge", "c1", none⟩).1 = true ∧
      acquireGranted (guardedDo.handleAcquireLock (failingReads .undecodable) 1005000 1005000 ⟨"t2", 30, "r1"⟩).1 = true := by
  decide +kernel

end Issuer
