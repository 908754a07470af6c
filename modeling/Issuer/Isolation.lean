import Issuer.ResourceLockDoSound

/-!
# Consumptions of different resources

A consumption is filed under the type and the identifier joined with a colon, and the joined text picks
the object as well. Identifiers may contain colons themselves, so two different pairs can have one slot.
Pairs that are joined to different texts have different slots, and then neither sees the other.

Two states are alike for a slot at a time when it holds the same in both, or nothing that still counts
in either. Calls answer alike in states that are alike and leave them alike. So does the alarm, except in
the last second of a record, in which the calls still count it and the alarm drops it.
-/

namespace Issuer

open Rust Store Runs

structure Resource where
  resourceType : String
  resourceId : String
deriving DecidableEq, Repr

namespace Resource

def Valid (p : Resource) : Prop := validateResource p.resourceType p.resourceId = .ok ()

instance decidableValid (p : Resource) : Decidable p.Valid :=
  inferInstanceAs (Decidable (validateResource p.resourceType p.resourceId = .ok ()))

def joined (p : Resource) : String := resourceOf p.resourceType p.resourceId

def slot (p : Resource) : String := consumedKey p.resourceType p.resourceId

theorem slot_eq (p : Resource) : p.slot = "consumed:" ++ p.joined := by
  simp only [slot, joined, consumedKey, resourceOf, String.append_assoc]

theorem slot_eq_iff {p q : Resource} : p.slot = q.slot ↔ p.joined = q.joined := by
  rw [slot_eq, slot_eq, String.append_right_inj]

end Resource

def ConsumeResourceRequest.resource (body : ConsumeResourceRequest) : Resource := ⟨body.resourceType, body.resourceId⟩

/-! ## One slot -/

def Over (t : Int) (o : Option (Cell ResourceRecord)) : Prop :=
  o = none ∨ ∃ r, o = some (.record (.consumption r)) ∧ r.isStale t = true

def Alike (t : Int) (key : String) (d d' : ResourceLockDo) : Prop :=
  d.storage[key]? = d'.storage[key]? ∨ Over t d.storage[key]? ∧ Over t d'.storage[key]?

theorem isStale_mono {r : ConsumptionRecord} {t u : Int} (hle : t ≤ u) (h : r.isStale t = true) :
    r.isStale u = true := by
  simp only [ConsumptionRecord.isStale, decide_eq_true_eq] at h ⊢
  omega

theorem Over.mono {t u : Int} {o : Option (Cell ResourceRecord)} (hle : t ≤ u) (h : Over t o) : Over u o := by
  rcases h with h | ⟨r, h, hstale⟩
  · exact .inl h
  · exact .inr ⟨r, h, isStale_mono hle hstale⟩

section
variable {t u : Int} {key : String} {d d' e e' : ResourceLockDo}

theorem Alike.mono (hle : t ≤ u) (h : Alike t key d d') : Alike u key d d' := by
  rcases h with h | ⟨h, h'⟩
  · exact .inl h
  · exact .inr ⟨h.mono hle, h'.mono hle⟩

theorem Alike.frame (h : Alike t key d d') (he : e.storage[key]? = d.storage[key]?)
    (he' : e'.storage[key]? = d'.storage[key]?) : Alike t key e e' := by
  unfold Alike
  rw [he, he']
  exact h

end

section
variable {t : Int} {d d' : ResourceLockDo}

theorem readConsumption_over {fl : Faults} {m : Table String (Cell ResourceRecord)} {key : String}
    {r : ConsumptionRecord} (h : Over t m[key]?) (hread : readConsumption fl m key = some r) : r.isStale t = true := by
  have hstored := (readConsumption_some hread).2
  rcases h with hnone | ⟨r', hr', hstale⟩
  · rw [hnone] at hstored; cases hstored
  · rw [hr'] at hstored; cases hstored; exact hstale

theorem over_erase (m : Table String (Cell ResourceRecord)) (key : String) : Over t (m.erase key)[key]? := by
  left
  rw [erase_get, if_pos rfl]

theorem over_storageDelete {fl : Faults} {m : Table String (Cell ResourceRecord)} {key : String} (h : Over t m[key]?) :
    Over t (storageDelete fl m key)[key]? := by
  unfold storageDelete
  by_cases hfl : fl.delete key = true
  · rw [if_pos hfl]; exact h
  · rw [if_neg hfl]; exact over_erase m key

theorem storageDelete_congr {fl : Faults} {m m' : Table String (Cell ResourceRecord)} {key : String}
    (h : m[key]? = m'[key]?) : (storageDelete fl m key)[key]? = (storageDelete fl m' key)[key]? := by
  unfold storageDelete
  by_cases hfl : fl.delete key = true
  · rw [if_pos hfl, if_pos hfl, h]
  · rw [if_neg hfl, if_neg hfl, erase_get, erase_get, if_pos rfl, if_pos rfl]

theorem readConsumption_congr (fl : Faults) {m m' : Table String (Cell ResourceRecord)} {key : String}
    (h : m[key]? = m'[key]?) : readConsumption fl m key = readConsumption fl m' key := by
  unfold readConsumption storageGet
  rw [h]

end

/-! ## Consuming and checking in states that are alike -/

section
variable {t : Int} {d d' : ResourceLockDo} {fl : Faults}

theorem markConsumed_alike {r : ConsumeReadings} {body : ConsumeResourceRequest}
    (h : Alike t body.resource.slot d d') :
    (d.markConsumed fl r body).1 = (d'.markConsumed fl r body).1 ∧
      Alike t body.resource.slot (d.markConsumed fl r body).2 (d'.markConsumed fl r body).2 := by
  unfold ResourceLockDo.markConsumed
  by_cases hput : fl.put = true
  · simp only [if_pos hput]
    exact ⟨trivial, h⟩
  · simp only [if_neg hput]
    by_cases harm : fl.setAlarm = true
    · simp only [if_pos harm]
      refine ⟨trivial, .inl ?_⟩
      exact (Std.TreeMap.getElem?_insert_self).trans Std.TreeMap.getElem?_insert_self.symm
    · simp only [if_neg harm]
      refine ⟨trivial, .inl ?_⟩
      exact (Std.TreeMap.getElem?_insert_self).trans Std.TreeMap.getElem?_insert_self.symm

/-- Over a slot in which nothing counts, `consume` ends in the write half. -/
theorem consumeResource_over (fl : Faults) {r : ConsumeReadings} {body : ConsumeResourceRequest}
    (hv : validateResource body.resourceType body.resourceId = .ok ()) (h : Over t d.storage[body.resource.slot]?)
    (hle : t ≤ nowEpochSecs r.check) :
    ∃ d₀ : ResourceLockDo, d.consumeResource fl r body = d₀.markConsumed fl r body ∧
      Over t d₀.storage[body.resource.slot]? := by
  unfold ResourceLockDo.consumeResource
  simp only [hv]
  cases hread : readConsumption fl d.storage (consumedKey body.resourceType body.resourceId) with
  | none => exact ⟨d, rfl, h⟩
  | some record =>
    have hstale := isStale_mono hle (readConsumption_over h hread)
    simp only [if_pos hstale]
    exact ⟨_, rfl, over_storageDelete h⟩

theorem consumeResource_alike (fl : Faults) {r : ConsumeReadings} (body : ConsumeResourceRequest)
    (h : Alike t body.resource.slot d d') (hle : t ≤ nowEpochSecs r.check) :
    (d.consumeResource fl r body).1 = (d'.consumeResource fl r body).1 ∧
      Alike t body.resource.slot (d.consumeResource fl r body).2 (d'.consumeResource fl r body).2 := by
  cases hv : validateResource body.resourceType body.resourceId with
  | error e =>
    unfold ResourceLockDo.consumeResource
    simp only [hv]
    exact ⟨trivial, h⟩
  | ok u =>
    rcases h with heq | ⟨hover, hover'⟩
    · have hread := readConsumption_congr fl heq
      unfold Resource.slot ConsumeResourceRequest.resource at hread
      unfold ResourceLockDo.consumeResource
      simp only [hv, hread]
      cases readConsumption fl d'.storage (consumedKey body.resourceType body.resourceId) with
      | none => exact markConsumed_alike (.inl heq)
      | some record =>
        simp only
        by_cases hstale : record.isStale (nowEpochSecs r.check) = true
        · simp only [if_pos hstale]
          exact markConsumed_alike (.inl (storageDelete_congr heq))
        · simp only [if_neg hstale]
          exact ⟨trivial, .inl heq⟩
    · obtain ⟨e, he, hover⟩ := consumeResource_over fl hv hover hle
      obtain ⟨e', he', hover'⟩ := consumeResource_over fl hv hover' hle
      rw [he, he']
      exact markConsumed_alike (.inr ⟨hover, hover'⟩)

theorem checkConsumed_over (fl : Faults) {now : UInt64} {p : Resource} (hv : p.Valid) (h : Over t d.storage[p.slot]?)
    (hle : t ≤ nowEpochSecs now) :
    (d.checkConsumed fl now p.resourceType p.resourceId).1 = .ok ⟨false, none, none⟩ ∧
      Over t (d.checkConsumed fl now p.resourceType p.resourceId).2.storage[p.slot]? := by
  have hv' : validateResource p.resourceType p.resourceId = .ok () := hv
  unfold ResourceLockDo.checkConsumed
  simp only [hv']
  cases hread : readConsumption fl d.storage (consumedKey p.resourceType p.resourceId) with
  | none => exact ⟨rfl, h⟩
  | some record =>
    have hstale := isStale_mono hle (readConsumption_over h hread)
    simp only [if_pos hstale]
    exact ⟨trivial, over_storageDelete h⟩

theorem checkConsumed_alike (fl : Faults) {now : UInt64} (p : Resource) (h : Alike t p.slot d d') (hle : t ≤ nowEpochSecs now) :
    (d.checkConsumed fl now p.resourceType p.resourceId).1 = (d'.checkConsumed fl now p.resourceType p.resourceId).1 ∧
      Alike t p.slot (d.checkConsumed fl now p.resourceType p.resourceId).2
        (d'.checkConsumed fl now p.resourceType p.resourceId).2 := by
  cases hv : validateResource p.resourceType p.resourceId with
  | error e =>
    unfold ResourceLockDo.checkConsumed
    simp only [hv]
    exact ⟨trivial, h⟩
  | ok u =>
    rcases h with heq | ⟨hover, hover'⟩
    · have hread := readConsumption_congr fl heq
      unfold Resource.slot at hread
      unfold ResourceLockDo.checkConsumed
      simp only [hv, hread]
      cases readConsumption fl d'.storage (consumedKey p.resourceType p.resourceId) with
      | none => exact ⟨rfl, .inl heq⟩
      | some record =>
        simp only
        by_cases hstale : record.isStale (nowEpochSecs now) = true
        · simp only [if_pos hstale]
          exact ⟨trivial, .inl (storageDelete_congr heq)⟩
        · simp only [if_neg hstale]
          exact ⟨trivial, .inl heq⟩
    · obtain ⟨hans, hafter⟩ := checkConsumed_over fl hv hover hle
      obtain ⟨hans', hafter'⟩ := checkConsumed_over fl hv hover' hle
      exact ⟨hans.trans hans'.symm, .inr ⟨hafter, hafter'⟩⟩

end

/-! ## The alarm -/

/-- The last second in which the calls count it. -/
def ConsumptionRecord.lastSecond (r : ConsumptionRecord) : Int := satAddI64 r.consumedAt (resourceTtlSeconds r.resourceType)

theorem judgeResource_drop {fl : Faults} {now : Int} {p : Resource} {c : Cell ResourceRecord}
    (h : judgeResource fl now p.slot c = .drop) : ∃ r, c = .record (.consumption r) ∧ r.lastSecond ≤ now := by
  have hlock : hasPrefix "lock:" p.slot = false := by
    rw [Resource.slot_eq]
    simp [hasPrefix, List.isPrefixOf]
  cases c with
  | garbled => cases hread : fl.read p.slot <;> simp [judgeResource, hread] at h
  | record a =>
    cases hread : fl.read p.slot with
    | readError => simp [judgeResource, hread] at h
    | undecodable => simp [judgeResource, hread] at h
    | success =>
      cases a with
      | lock r => simp [judgeResource, hread, hlock] at h
      | consumption r =>
        refine ⟨r, rfl, ?_⟩
        by_contra hlt
        exact judgeResource_consumption (not_le.mp hlt) h

theorem onAlarm_slot (fl : Faults) (now arm : UInt64) (d : ResourceLockDo) (p : Resource) :
    (d.onAlarm fl now arm).storage[p.slot]? = d.storage[p.slot]? ∨
      (d.onAlarm fl now arm).storage[p.slot]? = none ∧
        ∃ r, d.storage[p.slot]? = some (.record (.consumption r)) ∧ r.lastSecond ≤ nowEpochSecs now := by
  rcases onAlarm_storage fl now arm d with h | h
  · left
    rw [h]
  · rw [h]
    rcases sweep_get (judgeResource fl (nowEpochSecs now)) d.storage (d.storage.keys.take maxListEntries) p.slot with
      hsame | ⟨hnone, c, hc, hdrop⟩
    · exact .inl hsame
    · obtain ⟨r, rfl, hle⟩ := judgeResource_drop hdrop
      exact .inr ⟨hnone, r, hc, hle⟩

section
variable {t : Int} {d d' : ResourceLockDo} {fl : Faults}

theorem onAlarm_over {now arm : UInt64} {p : Resource} (h : Over t d.storage[p.slot]?) :
    Over t (d.onAlarm fl now arm).storage[p.slot]? := by
  rcases onAlarm_slot fl now arm d p with hsame | ⟨hnone, -⟩
  · rw [hsame]; exact h
  · exact .inl hnone

/-- An alarm that does not drop a record in its last second drops what no longer counts. -/
theorem onAlarm_alike {now arm : UInt64} {p : Resource} (h : Alike t p.slot d d') (hle : t ≤ nowEpochSecs now)
    (hlast : ∀ r, d.storage[p.slot]? = some (.record (.consumption r)) → r.lastSecond ≠ nowEpochSecs now) :
    Alike (nowEpochSecs now) p.slot (d.onAlarm fl now arm) (d'.onAlarm fl now arm) := by
  have hgone : ∀ r, d.storage[p.slot]? = some (.record (.consumption r)) → r.lastSecond ≤ nowEpochSecs now →
      Over (nowEpochSecs now) d.storage[p.slot]? := by
    intro r hr hend
    have hne := hlast r hr
    refine .inr ⟨r, hr, ?_⟩
    simp only [ConsumptionRecord.isStale, decide_eq_true_eq]
    exact lt_of_le_of_ne hend hne
  have hboth : Over (nowEpochSecs now) d.storage[p.slot]? ∧ Over (nowEpochSecs now) d'.storage[p.slot]? →
      Alike (nowEpochSecs now) p.slot (d.onAlarm fl now arm) (d'.onAlarm fl now arm) :=
    fun hover => .inr ⟨onAlarm_over hover.1, onAlarm_over hover.2⟩
  rcases h with heq | ⟨hover, hover'⟩
  · rcases onAlarm_slot fl now arm d p with hsame | ⟨-, r, hr, hend⟩
    · rcases onAlarm_slot fl now arm d' p with hsame' | ⟨-, r, hr, hend⟩
      · left
        rw [hsame, hsame', heq]
      · rw [← heq] at hr
        have hover := hgone r hr hend
        exact hboth ⟨hover, heq ▸ hover⟩
    · have hover := hgone r hr hend
      exact hboth ⟨hover, heq ▸ hover⟩
  · exact hboth ⟨hover.mono hle, hover'.mono hle⟩

end

/-! ## Steps of one object -/

section
variable {t : Int} {d d' : ResourceLockDo}

theorem resetResource_slot (fl : Faults) (environment resourceType resourceId key : String) :
    (∀ d : ResourceLockDo, (d.resetResource fl environment resourceType resourceId).2.storage[key]? = d.storage[key]?) ∨
      ∀ d : ResourceLockDo, (d.resetResource fl environment resourceType resourceId).2.storage[key]? = none := by
  unfold ResourceLockDo.resetResource
  by_cases henv : environment ∉ allowedResetEnvs
  · left; intro d; simp only [if_pos henv]
  simp only [if_neg henv]
  cases validateResource resourceType resourceId with
  | error e => exact .inl fun d => rfl
  | ok u =>
    simp only
    by_cases hfl : fl.delete (consumedKey resourceType resourceId) = true
    · left; intro d; simp only [if_pos hfl]
    · simp only [if_neg hfl]
      by_cases hkey : consumedKey resourceType resourceId = key
      · right; intro d; rw [erase_get, if_pos hkey]
      · left; intro d; exact erase_get_of_ne _ hkey

/-- The object's clean-up does not run in the last second of the record in the slot. -/
def ResourceStep.PastLastSecond (q : Resource) (d : ResourceLockDo) : ResourceStep → Prop
  | .alarm _ now _ => ∀ r, d.storage[q.slot]? = some (.record (.consumption r)) → r.lastSecond ≠ nowEpochSecs now
  | _ => True

theorem resourceStep_alike {q : Resource} {i : ResourceStep} (h : Alike t q.slot d d') (hle : t ≤ i.start)
    (hstop : i.start ≤ i.stop) (hok : i.PastLastSecond q d) : Alike i.stop q.slot (i.apply d) (i.apply d') := by
  have hmono : t ≤ i.stop := le_trans hle hstop
  cases i with
  | consume fl r body =>
    by_cases hkey : q.slot = body.resource.slot
    · rw [hkey] at h ⊢
      exact (consumeResource_alike fl body h hle).2.mono hmono
    · exact (h.frame (consumeResource_frame hkey) (consumeResource_frame hkey)).mono hmono
  | check fl now resourceType resourceId =>
    by_cases hkey : q.slot = Resource.slot ⟨resourceType, resourceId⟩
    · rw [hkey] at h ⊢
      exact (checkConsumed_alike fl ⟨resourceType, resourceId⟩ h hle).2.mono hmono
    · exact (h.frame (checkConsumed_frame hkey) (checkConsumed_frame hkey)).mono hmono
  | reset fl now environment resourceType resourceId =>
    rcases resetResource_slot fl environment resourceType resourceId q.slot with hsame | hnone
    · exact (h.frame (hsame d) (hsame d')).mono hmono
    · exact .inl ((hnone d).trans (hnone d').symm)
  | acquire fl now arm body =>
    have hkey : q.slot ≠ lockKey body.resourceKey := consumedKey_ne_lockKey _ _ _
    exact (h.frame (handleAcquireLock_frame hkey) (handleAcquireLock_frame hkey)).mono hmono
  | release fl now lockToken resourceKey =>
    have hkey : q.slot ≠ lockKey resourceKey := consumedKey_ne_lockKey _ _ _
    exact (h.frame (handleReleaseLock_frame hkey) (handleReleaseLock_frame hkey)).mono hmono
  | alarm fl now arm => exact (onAlarm_alike h hle hok).mono hstop

end

/-! ## The objects behind `consume_resource_once` -/

inductive ShardStep where
  | once (fl : Faults) (t : ConsumeReadings) (p : Resource)
  | request (i : Fin resourceLockShardCount) (step : ResourceStep)

inductive ResourceAnswer where
  | once (answer : Except ApiError Bool)
  | consume (answer : Except DoFailure ConsumeResourceResponse)
  | check (answer : Except DoFailure CheckConsumedResponse)

namespace ShardStep

def apply (s : ResourceShards) : ShardStep → ResourceShards
  | .once fl t p => (consumeResourceOnce fl t p.resourceType p.resourceId s).2
  | .request i step => Function.update s i (step.apply (s i))

def start : ShardStep → Int
  | .once _ t _ => nowEpochSecs t.check
  | .request _ step => step.start

def stop : ShardStep → Int
  | .once _ t _ => nowEpochSecs t.arm
  | .request _ step => step.stop

def consumes (p : Resource) : ShardStep → Bool
  | .once _ _ p' => decide (p' = p)
  | .request _ (.consume _ _ body) => decide (body.resource = p)
  | .request _ _ => false

def answer (q : Resource) (s : ResourceShards) : ShardStep → Option ResourceAnswer
  | .once fl t p =>
      if p = q then some (.once (consumeResourceOnce fl t p.resourceType p.resourceId s).1) else none
  | .request i (.consume fl t body) =>
      if body.resource = q then some (.consume ((s i).consumeResource fl t body).1) else none
  | .request i (.check fl now resourceType resourceId) =>
      if ⟨resourceType, resourceId⟩ = q then some (.check ((s i).checkConsumed fl now resourceType resourceId).1) else none
  | .request _ _ => none

def PastLastSecond (q : Resource) (s : ResourceShards) : ShardStep → Prop
  | .once .. => True
  | .request i step => step.PastLastSecond q (s i)

end ShardStep

/-- In every state that can be reached, a consumption of `p` does not change what any step answers
about `q`. -/
def Isolated (p q : Resource) : Prop :=
  ∀ (is : List ShardStep) (c : ShardStep), c.consumes p = true → ∀ i : ShardStep,
    i.answer q (c.apply (exec ShardStep.apply (fun _ => .empty) is)) =
      i.answer q (exec ShardStep.apply (fun _ => .empty) is)

def ShardsAlike (q : Resource) (t : Int) (s s' : ResourceShards) : Prop := ∀ i, Alike t q.slot (s i) (s' i)

theorem consumeResourceOnce_state (fl : Faults) (t : ConsumeReadings) (p : Resource) (s : ResourceShards) :
    (consumeResourceOnce fl t p.resourceType p.resourceId s).2 = Function.update s (resourceShard p.joined)
      ((s (resourceShard p.joined)).consumeResource fl t ⟨p.resourceType, p.resourceId, none⟩).2 := by
  unfold consumeResourceOnce
  simp only
  split
  · rfl
  · rfl
  · rfl

theorem consumeResourceOnce_answer {fl : Faults} {t : ConsumeReadings} {p : Resource} {s s' : ResourceShards}
    (h : ((s (resourceShard p.joined)).consumeResource fl t ⟨p.resourceType, p.resourceId, none⟩).1 =
      ((s' (resourceShard p.joined)).consumeResource fl t ⟨p.resourceType, p.resourceId, none⟩).1) :
    (consumeResourceOnce fl t p.resourceType p.resourceId s).1 =
      (consumeResourceOnce fl t p.resourceType p.resourceId s').1 := by
  have hj : p.joined = resourceOf p.resourceType p.resourceId := rfl
  rw [hj] at h
  unfold consumeResourceOnce
  simp only [h]
  split
  · rfl
  · rfl
  · rfl

theorem consumeResourceOnce_true {fl : Faults} {t : ConsumeReadings} {p : Resource} {s : ResourceShards} :
    (consumeResourceOnce fl t p.resourceType p.resourceId s).1 = .ok true ↔
      consumeAllowed ((s (resourceShard p.joined)).consumeResource fl t ⟨p.resourceType, p.resourceId, none⟩).1 = true := by
  have hj : p.joined = resourceOf p.resourceType p.resourceId := rfl
  rw [hj]
  unfold consumeResourceOnce
  simp only
  split
  · rename_i resp hresp
    simp [hresp, consumeAllowed]
  · rename_i e hresp
    simp [hresp, consumeAllowed]
  · rename_i hresp
    simp [hresp, consumeAllowed]

section
variable {p q : Resource} {t : Int} {s s' : ResourceShards}

theorem shards_update_alike (h : ShardsAlike q t s s') {i : Fin resourceLockShardCount} {d d' : ResourceLockDo}
    (hd : Alike t q.slot d d') : ShardsAlike q t (Function.update s i d) (Function.update s' i d') := by
  intro j
  by_cases hj : j = i
  · subst hj
    rw [Function.update_self, Function.update_self]
    exact hd
  · rw [Function.update_of_ne hj, Function.update_of_ne hj]
    exact h j

theorem shardStep_alike {i : ShardStep} (h : ShardsAlike q t s s') (hle : t ≤ i.start) (hstop : i.start ≤ i.stop)
    (hok : i.PastLastSecond q s) : ShardsAlike q i.stop (i.apply s) (i.apply s') := by
  have hlater : ShardsAlike q i.stop s s' := fun j => (h j).mono (le_trans hle hstop)
  cases i with
  | once fl r p =>
    simp only [ShardStep.apply, consumeResourceOnce_state]
    apply shards_update_alike hlater
    exact resourceStep_alike (i := .consume fl r ⟨p.resourceType, p.resourceId, none⟩) (h _) hle hstop trivial
  | request j step => exact shards_update_alike hlater (resourceStep_alike (h j) hle hstop hok)

theorem answer_alike {i : ShardStep} (h : ShardsAlike q t s s') (hle : t ≤ i.start) : i.answer q s = i.answer q s' := by
  cases i with
  | once fl r p =>
    simp only [ShardStep.answer]
    by_cases hp : p = q
    · subst hp
      have halike := consumeResource_alike fl ⟨p.resourceType, p.resourceId, none⟩ (h (resourceShard p.joined)) hle
      rw [consumeResourceOnce_answer halike.1]
    · rw [if_neg hp, if_neg hp]
  | request j step =>
    cases step with
    | consume fl r body =>
      simp only [ShardStep.answer]
      by_cases hb : body.resource = q
      · subst hb
        rw [(consumeResource_alike fl body (h j) hle).1]
      · rw [if_neg hb, if_neg hb]
    | check fl now resourceType resourceId =>
      simp only [ShardStep.answer]
      by_cases hb : (⟨resourceType, resourceId⟩ : Resource) = q
      · subst hb
        rw [(checkConsumed_alike fl ⟨resourceType, resourceId⟩ (h j) hle).1]
      · rw [if_neg hb, if_neg hb]
    | reset fl now environment resourceType resourceId => rfl
    | acquire fl now arm body => rfl
    | release fl now lockToken resourceKey => rfl
    | alarm fl now arm => rfl

theorem update_slot {i : Fin resourceLockShardCount} {d : ResourceLockDo} (key : String)
    (h : d.storage[key]? = (s i).storage[key]?) (j : Fin resourceLockShardCount) :
    (Function.update s i d j).storage[key]? = (s j).storage[key]? := by
  by_cases hj : j = i
  · subst hj; rw [Function.update_self]; exact h
  · rw [Function.update_of_ne hj]

/-- A consumption of another slot is seen in no object. -/
theorem consumes_slot {c : ShardStep} (hc : c.consumes p = true) (hne : q.slot ≠ p.slot)
    (j : Fin resourceLockShardCount) : (c.apply s j).storage[q.slot]? = (s j).storage[q.slot]? := by
  cases c with
  | once fl r p' =>
    have hp : p' = p := by simpa [ShardStep.consumes] using hc
    subst hp
    simp only [ShardStep.apply, consumeResourceOnce_state]
    have hframe : ((s (resourceShard p'.joined)).consumeResource fl r ⟨p'.resourceType, p'.resourceId, none⟩).2.storage[q.slot]? =
        (s (resourceShard p'.joined)).storage[q.slot]? := consumeResource_frame hne
    exact update_slot q.slot hframe j
  | request i step =>
    cases step with
    | consume fl r body =>
      have hb : body.resource = p := by simpa [ShardStep.consumes] using hc
      subst hb
      have hframe : ((s i).consumeResource fl r body).2.storage[q.slot]? = (s i).storage[q.slot]? := consumeResource_frame hne
      exact update_slot q.slot hframe j
    | check fl now resourceType resourceId => cases hc
    | reset fl now environment resourceType resourceId => cases hc
    | acquire fl now arm body => cases hc
    | release fl now lockToken resourceKey => cases hc
    | alarm fl now arm => cases hc

theorem isolated_of_joined_ne (hne : p.joined ≠ q.joined) : Isolated p q := by
  have hslot : q.slot ≠ p.slot := fun h => hne (Resource.slot_eq_iff.mp h).symm
  intro is c hc i
  apply answer_alike (t := i.start) _ (le_refl _)
  intro j
  exact .inl (consumes_slot hc hslot j)

theorem empty_allows (u : UInt64) (hp : p.Valid) :
    consumeAllowed (ResourceLockDo.empty.consumeResource .none (.at u) ⟨p.resourceType, p.resourceId, none⟩).1 = true := by
  have hp' : validateResource p.resourceType p.resourceId = .ok () := hp
  have hread : readConsumption .none ResourceLockDo.empty.storage (consumedKey p.resourceType p.resourceId) = none := by
    simp [readConsumption, storageGet, Faults.none, ResourceLockDo.empty]
  unfold ResourceLockDo.consumeResource
  simp only [hp', hread]
  rfl

theorem isStale_fresh (t : UInt64) (resourceType resourceId : String) (metadata : Option Json) :
    ConsumptionRecord.isStale ⟨nowEpochSecs t, resourceType, resourceId, metadata⟩ (nowEpochSecs t) = false := by
  obtain ⟨h0, hmax⟩ := resourceTtlSeconds_range resourceType
  have hexp := satAddI64_secs t h0 (by omega)
  simp only [ConsumptionRecord.isStale, nowEpochSecs_eq, hexp, decide_eq_false_iff_not]
  omega

/-- A consumption counts for every resource of the same slot. -/
theorem same_slot_refused (u : UInt64) (hp : p.Valid) (heq : p.joined = q.joined) :
    consumeAllowed ((ResourceLockDo.empty.consumeResource .none (.at u) ⟨p.resourceType, p.resourceId, none⟩).2.consumeResource
      .none (.at u) ⟨q.resourceType, q.resourceId, none⟩).1 = false := by
  have hkey : consumedKey p.resourceType p.resourceId = consumedKey q.resourceType q.resourceId :=
    Resource.slot_eq_iff.mpr heq
  have hstored := consumeResource_allowed (empty_allows u hp)
  simp only [hkey] at hstored
  have hread : Faults.none.read (consumedKey q.resourceType q.resourceId) = .success := rfl
  exact (@consumeResource_refused .none (.at u) ⟨q.resourceType, q.resourceId, none⟩ _ _ hread hstored (isStale_fresh u _ _ _)).1

theorem not_isolated_of_joined_eq (hp : p.Valid) (hq : q.Valid) (heq : p.joined = q.joined) : ¬Isolated p q := by
  intro h
  have hans := h [] (.once .none (.at 0) p) (by simp [ShardStep.consumes]) (.once .none (.at 0) q)
  simp only [ShardStep.answer, if_true, exec_nil, Option.some.injEq, ResourceAnswer.once.injEq] at hans
  have hbefore : (consumeResourceOnce .none (.at 0) q.resourceType q.resourceId fun _ => .empty).1 = .ok true :=
    consumeResourceOnce_true.mpr (empty_allows 0 hq)
  rw [hbefore] at hans
  have hafter := consumeResourceOnce_true.mp hans
  simp only [ShardStep.apply, consumeResourceOnce_state, heq, Function.update_self] at hafter
  rw [same_slot_refused 0 hp heq] at hafter
  cases hafter

theorem isolated_iff (hp : p.Valid) (hq : q.Valid) : Isolated p q ↔ p.joined ≠ q.joined :=
  ⟨fun h heq => not_isolated_of_joined_eq hp hq heq h, isolated_of_joined_ne⟩

/-- What a run answers about `q` is what the run without the consumptions of `p` answers. -/
theorem outputs_without_consumptions (hne : p.joined ≠ q.joined) (s : ResourceShards) (t : Int) (is : List ShardStep)
    (ho : Ordered ShardStep.start ShardStep.stop t is) (hok : Along ShardStep.apply (fun s i => i.PastLastSecond q s) s is) :
    outputs ShardStep.apply (ShardStep.answer q) s is =
      outputs ShardStep.apply (ShardStep.answer q) s (is.filter fun i => !i.consumes p) := by
  have hslot : q.slot ≠ p.slot := fun h => hne (Resource.slot_eq_iff.mp h).symm
  have hpq : p ≠ q := fun h => hne (by rw [h])
  refine outputs_eq_of_skipped (R := ShardsAlike q) ?_ ?_ is t s s (fun j => .inl rfl) ho hok
  · intro t s s' i hi h hle hstop _
    constructor
    · cases i with
      | once fl r p' =>
        have hp : p' = p := by simpa [ShardStep.consumes] using hi
        simp only [ShardStep.answer, hp, if_neg hpq]
      | request j step =>
        cases step with
        | consume fl r body =>
          have hb : body.resource = p := by simpa [ShardStep.consumes] using hi
          simp only [ShardStep.answer, hb, if_neg hpq]
        | check fl now resourceType resourceId => cases hi
        | reset fl now environment resourceType resourceId => rfl
        | acquire fl now arm body => rfl
        | release fl now lockToken resourceKey => rfl
        | alarm fl now arm => rfl
    · intro j
      exact ((h j).frame (consumes_slot hi hslot j) rfl).mono (le_trans hle hstop)
  · intro t s s' i _ h hle hstop hi
    exact ⟨answer_alike h hle, shardStep_alike h hle hstop hi⟩

/-- **Isolation.** Of two resources neither's consumption is answered for the other exactly if they are joined to
different texts. Then also a whole run answers about the one as if the other had never been consumed, as
long as no clean-up runs in the last second of a record of the former. -/
theorem consumptions_isolated (hp : p.Valid) (hq : q.Valid) :
    (Isolated p q ↔ p.joined ≠ q.joined) ∧
      (p.joined ≠ q.joined → ∀ (s : ResourceShards) (t : Int) (is : List ShardStep),
        Ordered ShardStep.start ShardStep.stop t is →
        Along ShardStep.apply (fun s i => i.PastLastSecond q s) s is →
        outputs ShardStep.apply (ShardStep.answer q) s is =
          outputs ShardStep.apply (ShardStep.answer q) s (is.filter fun i => !i.consumes p)) :=
  ⟨isolated_iff hp hq, fun hne s t is ho hok => outputs_without_consumptions hne s t is ho hok⟩

end

/-- Two challenges; the second is consumed twice. -/
theorem challenges_isolated :
    Isolated ⟨"challenge", "c1"⟩ ⟨"challenge", "c2"⟩ ∧
      outputs ShardStep.apply (ShardStep.answer ⟨"challenge", "c2"⟩) (fun _ => .empty)
          [.once .none (.at 0) ⟨"challenge", "c1"⟩, .once .none (.at 1000) ⟨"challenge", "c2"⟩,
            .once .none (.at 2000) ⟨"challenge", "c2"⟩] =
        outputs ShardStep.apply (ShardStep.answer ⟨"challenge", "c2"⟩) (fun _ => .empty)
          [.once .none (.at 1000) ⟨"challenge", "c2"⟩, .once .none (.at 2000) ⟨"challenge", "c2"⟩] := by
  have h := consumptions_isolated (p := ⟨"challenge", "c1"⟩) (q := ⟨"challenge", "c2"⟩) (by decide +kernel) (by decide +kernel)
  have hne : Resource.joined ⟨"challenge", "c1"⟩ ≠ Resource.joined ⟨"challenge", "c2"⟩ := by decide +kernel
  exact ⟨h.1.mpr hne, h.2 hne _ 0 [.once .none (.at 0) ⟨"challenge", "c1"⟩, .once .none (.at 1000) ⟨"challenge", "c2"⟩,
    .once .none (.at 2000) ⟨"challenge", "c2"⟩] (by decide +kernel) ⟨trivial, trivial, trivial, trivial⟩⟩

/-- Both are joined to `pickup:a:b`: the second has never been consumed, and is refused and reported as consumed. -/
theorem same_text_not_isolated :
    let p : Resource := ⟨"pickup:a", "b"⟩
    let q : Resource := ⟨"pickup", "a:b"⟩
    let s : ResourceShards := (ShardStep.once .none (.at 0) p).apply fun _ => .empty
    (p.Valid ∧ q.Valid ∧ p ≠ q) ∧ ¬Isolated p q ∧
      (consumeResourceOnce .none (.at 0) q.resourceType q.resourceId fun _ => .empty).1 = .ok true ∧
      (consumeResourceOnce .none (.at 0) q.resourceType q.resourceId s).1 = .ok false ∧
      (((s (resourceShard q.joined)).checkConsumed .none 0 q.resourceType q.resourceId).1.map (·.consumed)) = .ok true := by
  intro p q s
  have hvalid : p.Valid ∧ q.Valid ∧ p ≠ q := by decide +kernel
  have heq : p.joined = q.joined := by decide +kernel
  refine ⟨hvalid, not_isolated_of_joined_eq hvalid.1 hvalid.2.1 heq, ?_⟩
  decide +kernel

end Issuer
