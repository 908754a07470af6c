import Issuer.KeyRotationRuns

/-!
# Health of the signing keys (`check_key_health`)

The report says whether there are keys, how many are active, and whether an active one has expired or is about to.
It is taken over the records that can be loaded, the ones that `get_active_signing_key` chooses from. A rotation
that breaks off has changed nothing, or has left no active key, which the report calls critical; the next rotation
that succeeds heals it.
-/

namespace Issuer

open Rust Store Runs

/-! ## Expiry -/

namespace SigningKeyRecord

def isExpiringSoon (r : SigningKeyRecord) (now : UInt64) : Bool :=
  decide (nowEpochSecs now > satSubI64 r.expiresAt (30 * 24 * 60 * 60) ∧ nowEpochSecs now ≤ r.expiresAt)

def daysUntilExpiration (r : SigningKeyRecord) (now : UInt64) : Int :=
  (satSubI64 r.expiresAt (nowEpochSecs now)).tdiv 86400

end SigningKeyRecord

/-! ## The report -/

structure KeyHealthStatus where
  hasExpiredActive : Bool
  hasExpiringSoon : Bool
  hasNoKeys : Bool
  hasNoActive : Bool
  hasMultipleActive : Bool
  daysUntilExpiration : Option Int
deriving DecidableEq, Repr

namespace KeyHealthStatus

def empty : KeyHealthStatus := ⟨false, false, false, false, false, none⟩

def isHealthy (h : KeyHealthStatus) : Bool :=
  !h.hasExpiredActive && !h.hasNoKeys && !h.hasNoActive && !h.hasMultipleActive

def isCritical (h : KeyHealthStatus) : Bool := h.hasExpiredActive || h.hasNoKeys || h.hasNoActive

/-- The loop over the keys. No operation is waited for in it, so that all its clock readings agree. -/
def note (now : UInt64) (h : KeyHealthStatus) (key : SigningKeyRecord) : KeyHealthStatus :=
  if key.status = .active then
    if key.isExpired now then { h with hasExpiredActive := true }
    else if key.isExpiringSoon now then
      { h with hasExpiringSoon := true, daysUntilExpiration := some (key.daysUntilExpiration now) }
    else h
  else h

def ofKeys (now : UInt64) (keys : List SigningKeyRecord) : KeyHealthStatus :=
  let activeCount := (keys.filter fun k => decide (k.status = .active)).length
  { keys.foldl (note now) empty with
    hasNoKeys := keys.isEmpty
    hasNoActive := activeCount == 0
    hasMultipleActive := decide (activeCount > 1) }

end KeyHealthStatus

def checkKeyHealth (reads : KeyReads) (issuerKid : String) (now : UInt64) (kv : KeyKv) : Except ApiError KeyHealthStatus := do
  let keys ← getAllSigningKeys reads issuerKid kv
  return KeyHealthStatus.ofKeys now keys

/-! ## What the report says -/

section
variable {now : UInt64} {keys : List SigningKeyRecord}

def expiring (now : UInt64) (k : SigningKeyRecord) : Bool :=
  decide (k.status = .active) && !k.isExpired now && k.isExpiringSoon now

theorem foldl_note_expired (keys : List SigningKeyRecord) : ∀ h : KeyHealthStatus,
    ((keys.foldl (KeyHealthStatus.note now) h).hasExpiredActive = true ↔
      h.hasExpiredActive = true ∨ ∃ k ∈ keys, k.status = .active ∧ k.isExpired now = true) := by
  induction keys with
  | nil => simp
  | cons k keys ih =>
    intro h
    rw [List.foldl_cons, ih]
    by_cases hactive : k.status = .active
    · by_cases hexpired : k.isExpired now = true
      · simp [KeyHealthStatus.note, hactive, hexpired]
      · by_cases hsoon : k.isExpiringSoon now = true
        · simp [KeyHealthStatus.note, hactive, hexpired, hsoon]
        · simp [KeyHealthStatus.note, hactive, hexpired, hsoon]
    · simp [KeyHealthStatus.note, hactive]

/-- The days reported are those of the last key that is about to expire. -/
theorem foldl_note_soon (keys : List SigningKeyRecord) : ∀ h : KeyHealthStatus,
    (keys.foldl (KeyHealthStatus.note now) h).hasExpiringSoon = (h.hasExpiringSoon || keys.any (expiring now)) ∧
      (keys.foldl (KeyHealthStatus.note now) h).daysUntilExpiration =
        (((keys.filter (expiring now)).getLast?).map (·.daysUntilExpiration now)).or h.daysUntilExpiration := by
  induction keys with
  | nil => simp
  | cons k keys ih =>
    intro h
    rw [List.foldl_cons, (ih _).1, (ih _).2]
    by_cases hexpiring : expiring now k = true
    · have hparts := hexpiring
      simp only [expiring, Bool.and_eq_true, decide_eq_true_eq, Bool.not_eq_true'] at hparts
      have hnote : KeyHealthStatus.note now h k =
          { h with hasExpiringSoon := true, daysUntilExpiration := some (k.daysUntilExpiration now) } := by
        simp [KeyHealthStatus.note, hparts.1.1, hparts.1.2, hparts.2]
      rw [hnote, List.any_cons, hexpiring, List.filter_cons_of_pos hexpiring, List.getLast?_cons]
      cases (keys.filter (expiring now)).getLast? <;> simp
    · have hnote : (KeyHealthStatus.note now h k).hasExpiringSoon = h.hasExpiringSoon ∧
          (KeyHealthStatus.note now h k).daysUntilExpiration = h.daysUntilExpiration := by
        by_cases hactive : k.status = .active
        · by_cases hexpired : k.isExpired now = true
          · simp [KeyHealthStatus.note, hactive, hexpired]
          · have hsoon : k.isExpiringSoon now = false := by
              simpa [expiring, hactive, hexpired] using hexpiring
            simp [KeyHealthStatus.note, hactive, hexpired, hsoon]
        · simp [KeyHealthStatus.note, hactive]
      rw [hnote.1, hnote.2, List.any_cons, List.filter_cons_of_neg hexpiring, Bool.eq_false_iff.mpr hexpiring, Bool.false_or]
      exact ⟨rfl, rfl⟩

theorem ofKeys_expired : (KeyHealthStatus.ofKeys now keys).hasExpiredActive = true ↔
    ∃ k ∈ activeKeys keys, k.isExpired now = true := by
  have h := @foldl_note_expired now keys .empty
  rw [show (KeyHealthStatus.ofKeys now keys).hasExpiredActive =
    (keys.foldl (KeyHealthStatus.note now) .empty).hasExpiredActive from rfl, h]
  constructor
  · rintro (habsurd | ⟨k, hk, hactive, hexpired⟩)
    · cases habsurd
    · exact ⟨k, List.mem_filter.mpr ⟨hk, by simpa using hactive⟩, hexpired⟩
  · rintro ⟨k, hk, hexpired⟩
    obtain ⟨hmem, hactive⟩ := List.mem_filter.mp hk
    exact .inr ⟨k, hmem, by simpa using hactive, hexpired⟩

theorem ofKeys_noActive : (KeyHealthStatus.ofKeys now keys).hasNoActive = true ↔ activeKeys keys = [] := by
  change ((activeKeys keys).length == 0) = true ↔ _
  rw [beq_iff_eq, List.length_eq_zero_iff]

theorem ofKeys_noKeys (h : (KeyHealthStatus.ofKeys now keys).hasNoKeys = true) : activeKeys keys = [] := by
  rw [List.isEmpty_iff.mp h]
  rfl

theorem ofKeys_multiple : (KeyHealthStatus.ofKeys now keys).hasMultipleActive = true ↔ 1 < (activeKeys keys).length := by
  change decide ((activeKeys keys).length > 1) = true ↔ _
  rw [decide_eq_true_iff]

theorem critical_iff : (KeyHealthStatus.ofKeys now keys).isCritical = true ↔
    activeKeys keys = [] ∨ ∃ k ∈ activeKeys keys, k.isExpired now = true := by
  simp only [KeyHealthStatus.isCritical, Bool.or_eq_true, ofKeys_expired, ofKeys_noActive]
  constructor
  · rintro ((hexpired | hnone) | hnone)
    · exact .inr hexpired
    · exact .inl (ofKeys_noKeys hnone)
    · exact .inl hnone
  · rintro (hnone | hexpired)
    · exact .inr hnone
    · exact .inl (.inl hexpired)

theorem healthy_iff : (KeyHealthStatus.ofKeys now keys).isHealthy = true ↔
    ∃ k, activeKeys keys = [k] ∧ k.isExpired now = false := by
  have hcritical := @critical_iff now keys
  have hmultiple := @ofKeys_multiple now keys
  have hsplit : (KeyHealthStatus.ofKeys now keys).isHealthy = true ↔
      (KeyHealthStatus.ofKeys now keys).isCritical ≠ true ∧ (KeyHealthStatus.ofKeys now keys).hasMultipleActive ≠ true := by
    simp only [KeyHealthStatus.isHealthy, KeyHealthStatus.isCritical]
    generalize KeyHealthStatus.ofKeys now keys = h
    cases h.hasExpiredActive <;> cases h.hasNoKeys <;> cases h.hasNoActive <;> simp
  rw [hsplit, Ne, hcritical, Ne, hmultiple]
  cases hactive : activeKeys keys with
  | nil => simp
  | cons k rest =>
    cases rest with
    | nil => simp
    | cons k' rest => simp

theorem find_active : (keys.find? fun k => decide (k.status = .active) && !k.isExpired now) =
    (activeKeys keys).find? fun k => !k.isExpired now := by
  rw [activeKeys, List.find?_filter]
  refine congrFun (congrArg List.find? (funext fun k => ?_)) keys
  rw [Bool.eq_iff_iff, Bool.and_eq_true]
  exact decide_eq_true_iff.symm

theorem days_bounds {k : SigningKeyRecord} (hsoon : k.isExpiringSoon now = true) (hrange : k.expiresAt ≤ i64Max) :
    0 ≤ k.daysUntilExpiration now ∧ k.daysUntilExpiration now < 30 := by
  have hsecs : 0 ≤ nowEpochSecs now := by
    rw [nowEpochSecs_eq]
    omega
  have hwindow := of_decide_eq_true hsoon
  simp only [satSubI64, clampI64, i64Min, i64Max] at hwindow
  unfold i64Max at hrange
  have hleft : satSubI64 k.expiresAt (nowEpochSecs now) = k.expiresAt - nowEpochSecs now :=
    clampI64_of_range (by unfold i64Min; omega) (by unfold i64Max; omega)
  rw [SigningKeyRecord.daysUntilExpiration, hleft, Int.tdiv_eq_ediv_of_nonneg (by omega)]
  omega

end

theorem getActiveSigningKey_ok_iff {reads : KeyReads} {issuerKid : String} {now : UInt64} {kv : KeyKv}
    {keys : List SigningKeyRecord} {k : SigningKeyRecord} (hkeys : getAllSigningKeys reads issuerKid kv = .ok keys) :
    getActiveSigningKey reads issuerKid now kv = .ok k ↔ (activeKeys keys).find? (fun k => !k.isExpired now) = some k := by
  simp only [getActiveSigningKey, hkeys, bind, Except.bind, find_active]
  cases (activeKeys keys).find? (fun k => !k.isExpired now) with
  | some k' => simp [pure, Except.pure]
  | none => simp [throw, throwThe, MonadExceptOf.throw]

/-- **What the report means.** Whatever the namespace holds, a report of good health says that a single key is active
and that it is the one signed with; a report that is not critical says that there is a key to sign with; and the days
reported are those of an active key in its last month. -/
theorem key_health_meaning (reads : KeyReads) (issuerKid : String) (now : UInt64) (kv : KeyKv) (keys : List SigningKeyRecord)
    (hkeys : getAllSigningKeys reads issuerKid kv = .ok keys) : ∃ health, checkKeyHealth reads issuerKid now kv = .ok health ∧
      (health.isHealthy = true ↔ ∃ k, activeKeys keys = [k] ∧ getActiveSigningKey reads issuerKid now kv = .ok k) ∧
      (health.isCritical = false ↔ activeKeys keys ≠ [] ∧
        ∀ k ∈ activeKeys keys, k.isExpired now = false) ∧
      (health.isCritical = false → ∃ k ∈ activeKeys keys, getActiveSigningKey reads issuerKid now kv = .ok k) ∧
      ∀ days, health.daysUntilExpiration = some days → ∃ k ∈ activeKeys keys, k.isExpired now = false ∧
        days = k.daysUntilExpiration now ∧ (k.expiresAt ≤ i64Max → 0 ≤ days ∧ days < 30) := by
  have hcritical : (KeyHealthStatus.ofKeys now keys).isCritical = false ↔ activeKeys keys ≠ [] ∧
      ∀ k ∈ activeKeys keys, k.isExpired now = false := by
    rw [Bool.eq_false_iff, Ne, critical_iff]
    simp only [not_or, not_exists, not_and, Bool.not_eq_true]
  refine ⟨KeyHealthStatus.ofKeys now keys, by simp [checkKeyHealth, hkeys, bind, Except.bind, pure, Except.pure], ?_, hcritical,
    fun h => ?_, fun days hdays => ?_⟩
  · rw [healthy_iff]
    refine exists_congr fun k => and_congr_right fun hactive => ?_
    rw [getActiveSigningKey_ok_iff hkeys, hactive]
    by_cases hexpired : k.isExpired now = true
    · simp [hexpired]
    · simp [hexpired]
  · obtain ⟨hsome, hall⟩ := hcritical.mp h
    obtain ⟨k, rest, hactive⟩ := List.exists_cons_of_ne_nil hsome
    have hk : k ∈ activeKeys keys := by simp [hactive]
    refine ⟨k, hk, (getActiveSigningKey_ok_iff hkeys).mpr ?_⟩
    rw [hactive, List.find?_cons_of_pos (by simp [hall k hk])]
  · have hsoon := (@foldl_note_soon now keys .empty).2
    rw [show (keys.foldl (KeyHealthStatus.note now) .empty).daysUntilExpiration = some days from hdays] at hsoon
    simp only [KeyHealthStatus.empty, Option.or_none] at hsoon
    obtain ⟨k, hlast, hk⟩ := Option.map_eq_some_iff.mp hsoon.symm
    obtain ⟨hmem, hexpiring⟩ := List.mem_filter.mp (List.mem_of_getLast? hlast)
    simp only [expiring, Bool.and_eq_true, Bool.not_eq_true'] at hexpiring
    refine ⟨k, List.mem_filter.mpr ⟨hmem, hexpiring.1.1⟩, hexpiring.1.2, hk.symm, fun hrange => ?_⟩
    rw [← hk]
    exact days_bounds hexpiring.2 hrange

theorem twoKeys_health : ∃ health, checkKeyHealth .ok "k" 0 twoKeys = .ok health ∧ health.isHealthy = true := by
  obtain ⟨health, hreport, hhealthy, -⟩ := key_health_meaning .ok "k" 0 twoKeys _ (getAllSigningKeys_total "k" twoKeys)
  exact ⟨health, hreport, hhealthy.mpr ⟨demoKey "v2" .active 2, by decide +kernel, by decide +kernel⟩⟩

/-! ## Rotations -/

section
variable {A : AesGcm} {J : RedJubjub} {issuerKid : String} {kekPair : KekPair} {m : Nat} {kv kv' : KeyKv}

theorem KeysSound.nodup (h : KeysSound A J issuerKid kekPair m kv) : (storedKeys issuerKid kv).Nodup := by
  have hslots : (slotNames issuerKid kv).Nodup := by
    refine List.Nodup.filterMap ?_ Std.TreeMap.nodup_keys
    intro a b slot ha hb
    rw [eq_append_of_stripPrefix ha, eq_append_of_stripPrefix hb]
  refine List.Nodup.filterMap ?_ hslots
  intro a b k ha hb
  have hversion : ∀ slot, k ∈ loadKeyRecord .ok issuerKid kv slot → k.version = slot := by
    intro slot hload
    simp only [loadKeyRecord, KeyReads.ok, Bool.false_eq_true, if_false, Option.mem_def] at hload
    obtain ⟨c, hc, hparse⟩ := Option.bind_eq_some_iff.mp hload
    obtain ⟨k', rfl, hv, hrange, -⟩ := h.written slot c hc
    rw [parseRecord, SigningKeyRecord.ofJson_toJson hrange] at hparse
    cases hparse
    exact hv
  rw [← hversion a ha, hversion b hb]

theorem KeysSound.activeKeys_le_one (h : KeysSound A J issuerKid kekPair m kv) :
    (activeKeys (storedKeys issuerKid kv)).length ≤ 1 := by
  have hnodup : (activeKeys (storedKeys issuerKid kv)).Nodup := h.nodup.filter _
  cases hactive : activeKeys (storedKeys issuerKid kv) with
  | nil => simp
  | cons k rest =>
    cases rest with
    | nil => simp
    | cons k' rest =>
      -- two active records would be in one slot
      rw [hactive, List.nodup_cons] at hnodup
      refine absurd ?_ hnodup.1
      have hmem : ∀ x ∈ activeKeys (storedKeys issuerKid kv), kv[keyName issuerKid x.version]? = some (.record x.toJson) ∧
          x.InRange ∧ x.status = .active := by
        intro x hx
        obtain ⟨hstored, hstatus⟩ := List.mem_filter.mp hx
        obtain ⟨hslot, hrange⟩ := h.mem_loaded.mp hstored
        exact ⟨hslot, hrange, by simpa using hstatus⟩
      obtain ⟨hk, hrange, hstatus⟩ := hmem k (by simp [hactive])
      obtain ⟨hk', hrange', hstatus'⟩ := hmem k' (by simp [hactive])
      have hslot := h.active_unique hk hstatus hk' hstatus'
      rw [← hslot, hk] at hk'
      simp only [Option.some.injEq, Cell.record.injEq] at hk'
      rw [toJson_injective hrange' hk' hrange]
      simp

theorem deprecateAll_activeKeys (h : KeysSound A J issuerKid kekPair m kv) :
    activeKeys (storedKeys issuerKid (deprecateAll issuerKid kv (activeKeys (storedKeys issuerKid kv)))) = [] := by
  have hsub : ∀ k ∈ activeKeys (storedKeys issuerKid kv), k ∈ storedKeys issuerKid kv := fun k hk => List.mem_of_mem_filter hk
  refine List.filter_eq_nil_iff.mpr fun k hk => ?_
  obtain ⟨hslot, -⟩ := (deprecateAll_sound h hsub).mem_loaded.mp hk
  simpa using deprecateAll_active h hslot

theorem rotate_error_cases (h : KeysSound A J issuerKid kekPair m kv) {r : Rotation J} (hsmooth : Smooth kekPair r) {e : ApiError}
    (hfail : rotateSigningKeyInner A r issuerKid kv = (.error e, kv')) :
    kv' = kv ∨ activeKeys (storedKeys issuerKid kv') = [] := by
  rcases rotate_home_cases A issuerKid kv hsmooth.reads hsmooth.home with
    ⟨e', he⟩ | ⟨e', done, rest, hsplit, he⟩ | ⟨record, -, he⟩
  · rw [he] at hfail
    cases hfail
    exact .inl rfl
  · rw [he] at hfail
    cases hfail
    -- at most one key is active, so that either none or all of them were written back
    have hlen := h.activeKeys_le_one
    rw [hsplit, List.length_append] at hlen
    cases hdone : done with
    | nil => exact .inl rfl
    | cons k done' =>
      have hrest : rest = [] := by
        rw [hdone, List.length_cons] at hlen
        exact List.length_eq_zero_iff.mp (by omega)
      rw [hrest, List.append_nil] at hsplit
      rw [← hdone, ← hsplit]
      exact .inr (deprecateAll_activeKeys h)
  · rw [he] at hfail
    cases hfail

theorem rotate_ok_active (hA : A.Lawful) (h : KeysSound A J issuerKid kekPair m kv) (hm : m < u32Max) {r : Rotation J}
    (hsmooth : Smooth kekPair r) {newKey : SigningKeyRecord} (hok : rotateSigningKeyInner A r issuerKid kv = (.ok newKey, kv')) :
    ∃ sk, activeKeys (storedKeys issuerKid kv') = [{ newKey with privateKeyEncrypted := some sk }] := by
  obtain ⟨hnew, record, hseal, hkv⟩ := rotate_home_ok hsmooth.reads hsmooth.home hok
  obtain ⟨kekPair', data, -, -, hrec⟩ := sealKey_ok hseal
  refine ⟨Base64.encode data, ?_⟩
  rw [← hrec]
  have hseal' := hseal
  rw [hnew] at hseal'
  have hsound := (rotate_ok_sound hA h hm hsmooth hseal').1
  rw [← hkv] at hsound
  have hrange : record.InRange := (sealKey_sealed hA hsmooth hseal').2.2.1
  have hactive : record.status = .active := (sealKey_sealed hA hsmooth hseal').2.1
  have hstored : record ∈ storedKeys issuerKid kv' := by
    refine hsound.mem_loaded.mpr ⟨?_, hrange⟩
    rw [hkv, saveKey_slot, if_pos rfl]
  have hmem : record ∈ activeKeys (storedKeys issuerKid kv') := List.mem_filter.mpr ⟨hstored, by simpa using hactive⟩
  obtain ⟨k, hk⟩ := List.length_eq_one_iff.mp (le_antisymm hsound.activeKeys_le_one (List.length_pos_of_mem hmem))
  rw [hk] at hmem ⊢
  rw [List.mem_singleton.mp hmem]

end

/-- **The report over rotations.** From an empty namespace, with rotations whose writes may fail at any point: never
more than one key is active. A rotation that fails changes nothing, or leaves a namespace that is reported critical
and that cannot be signed with; a rotation that succeeds leaves a healthy one, up to the expiry of its key. -/
theorem rotations_health (A : AesGcm) (hA : A.Lawful) (J : RedJubjub) (issuerKid : String) (kekPair : KekPair) (kv₀ : KeyKv)
    (hempty : ∀ slot, kv₀[keyName issuerKid slot]? = none) (earlier : List (Rotation J)) (r : Rotation J)
    (hcount : earlier.length < u32Max) (hsmooth : ∀ r' ∈ earlier ++ [r], Smooth kekPair r') (now : UInt64) :
    ∃ health, checkKeyHealth .ok issuerKid now (exec (rotateStep A issuerKid) kv₀ (earlier ++ [r])) = .ok health ∧
      health.hasMultipleActive = false ∧
      (∀ e kv', rotateSigningKeyInner A r issuerKid (exec (rotateStep A issuerKid) kv₀ earlier) = (.error e, kv') →
        kv' = exec (rotateStep A issuerKid) kv₀ earlier ∨
          health.isCritical = true ∧
            getActiveSigningKey .ok issuerKid now kv' = .error (.cryptoError "No active signing key found")) ∧
      ∀ newKey kv', rotateSigningKeyInner A r issuerKid (exec (rotateStep A issuerKid) kv₀ earlier) = (.ok newKey, kv') →
        (health.isHealthy = true ↔ nowEpochSecs now ≤ newKey.expiresAt) := by
  have hbefore := (run_sound hA earlier 0 kv₀ (empty_sound A J kekPair hempty) (by omega)
    fun r' hr' => hsmooth r' (List.mem_append_left [r] hr')).1
  rw [Nat.zero_add] at hbefore
  have hr : Smooth kekPair r := hsmooth r (by simp)
  rw [exec_append, exec_cons, exec_nil]
  generalize exec (rotateStep A issuerKid) kv₀ earlier = kv at hbefore
  have hafter : KeysSound A J issuerKid kekPair (earlier.length + 1) (rotateStep A issuerKid kv r) :=
    (rotate_sound hA hbefore hcount hr).1
  refine ⟨KeyHealthStatus.ofKeys now (storedKeys issuerKid (rotateStep A issuerKid kv r)), ?_, ?_, ?_, ?_⟩
  · simp [checkKeyHealth, getAllSigningKeys_total, bind, Except.bind, pure, Except.pure]
  · refine Bool.eq_false_iff.mpr fun hmultiple => ?_
    have hlen := hafter.activeKeys_le_one
    have hmany := ofKeys_multiple.mp hmultiple
    omega
  · intro e kv' hfail
    refine (rotate_error_cases hbefore hr hfail).imp_right fun hnone => ?_
    have hstate : rotateStep A issuerKid kv r = kv' := congrArg Prod.snd hfail
    rw [hstate]
    refine ⟨critical_iff.mpr (.inl hnone), ?_⟩
    simp [getActiveSigningKey, getAllSigningKeys_total, find_active, hnone, bind, Except.bind, throw, throwThe,
      MonadExceptOf.throw]
  · intro newKey kv' hok
    have hstate : rotateStep A issuerKid kv r = kv' := congrArg Prod.snd hok
    obtain ⟨sk, hactive⟩ := rotate_ok_active hA hbefore hcount hr hok
    rw [hstate, healthy_iff, hactive]
    simp [SigningKeyRecord.isExpired]

/-- The second rotation has deprecated `v1` when it fails to store `v2`. -/
theorem failed_rotation_critical : ∃ health, checkKeyHealth .ok "k" 0
      (exec (rotateStep clearGcm "k") ∅ ([smoothRotation 1 none] ++ [smoothRotation 2 (some 1)])) = .ok health ∧
    health.isCritical = true := by
  have hfail : (rotateSigningKeyInner clearGcm (smoothRotation 2 (some 1)) "k"
      (exec (rotateStep clearGcm "k") ∅ [smoothRotation 1 none])).1 = .error (.storageError "Failed to store key") := by
    decide +kernel
  have hchanged : ((rotateSigningKeyInner clearGcm (smoothRotation 2 (some 1)) "k"
      (exec (rotateStep clearGcm "k") ∅ [smoothRotation 1 none])).2[keyName "k" "v1"]?.bind storedStatus) ≠
        ((exec (rotateStep clearGcm "k") ∅ [smoothRotation 1 none])[keyName "k" "v1"]?.bind storedStatus) := by
    decide +kernel
  obtain ⟨health, hreport, -, hcase, -⟩ := rotations_health clearGcm clearGcm_lawful demoCurve "k" demoKek ∅ (by simp)
    [smoothRotation 1 none] (smoothRotation 2 (some 1)) (by decide)
    (by
      intro r hr
      simp only [List.cons_append, List.nil_append, List.mem_cons, List.not_mem_nil, or_false] at hr
      rcases hr with rfl | rfl
      · exact ⟨rfl, rfl, fun _ _ => nofun⟩
      · exact ⟨rfl, rfl, fun _ _ => nofun⟩) 0
  refine ⟨health, hreport, ?_⟩
  rcases hcase _ _ (Prod.ext hfail rfl) with hsame | hcritical
  · exact absurd (congrArg (fun kv : KeyKv => kv[keyName "k" "v1"]?.bind storedStatus) hsame) hchanged
  · exact hcritical.1

end Issuer
