import Issuer.NonceDoSound
import Issuer.BlindIssuance
import Issuer.Lib.ExpiringSet

/-!
# The nonce store is an expiring set

Where storage does not fail, the object answers like the set of nonces with their expiries: it agrees
with that set from the current second on. Clean-up drops expired records only, so it is never seen,
whenever it runs and however many entries there are.
-/

namespace Issuer

open Rust Store Runs ExpiringSet

theorem nonceKey_injective {a b : String} (h : nonceKey a = nonceKey b) : a = b := by
  simpa only [nonceKey, String.append_right_inj] using h

/-! ## The set behind an object -/

def Readable (m : Table String (Cell NonceRecord)) : Prop := ∀ key : String, m[key]? ≠ some .garbled

def expiries (m : Table String (Cell NonceRecord)) (nonce : String) : Option Nat :=
  match m[nonceKey nonce]? with
  | some (.record r) => some r.expiresAt
  | _ => none

theorem expiries_record {m : Table String (Cell NonceRecord)} {nonce : String} {r : NonceRecord}
    (h : m[nonceKey nonce]? = some (.record r)) : expiries m nonce = some r.expiresAt := by
  simp only [expiries, h]

theorem expiries_congr {m m' : Table String (Cell NonceRecord)} {nonce : String}
    (h : m'[nonceKey nonce]? = m[nonceKey nonce]?) : expiries m' nonce = expiries m nonce := by
  unfold expiries
  rw [h]

section
variable {m : Table String (Cell NonceRecord)} {now : Nat}

theorem judgeNonce_drop {key : String} {c : Cell NonceRecord} (h : judgeNonce .none now key c = .drop) :
    ∃ r, c = .record r ∧ r.expiresAt < now := by
  unfold judgeNonce at h
  split at h
  · cases c with
    | garbled => simp [Faults.none] at h
    | record r =>
      refine ⟨r, rfl, ?_⟩
      by_cases hv : r.isValidAt now = true
      · simp [Faults.none, hv] at h
      · simpa [NonceRecord.isValidAt] using hv
  · cases h

theorem sweepNonces_get (m : Table String (Cell NonceRecord)) (now : Nat) (key : String) :
    (sweepNonces .none now m).1[key]? = m[key]? ∨ (sweepNonces .none now m).1[key]? = none ∧
      ∃ r, m[key]? = some (.record r) ∧ r.expiresAt < now := by
  rcases sweep_get (judgeNonce .none now) m (m.keys.take maxNonceCapacity) key with h | ⟨h, c, hc, hdrop⟩
  · exact .inl h
  · obtain ⟨r, rfl, hr⟩ := judgeNonce_drop hdrop
    exact .inr ⟨h, r, hc, hr⟩

theorem sweepNonces_readable (h : Readable m) : Readable (sweepNonces .none now m).1 := by
  intro key hkey
  rcases sweepNonces_get m now key with heq | ⟨hnone, -⟩
  · rw [heq] at hkey
    exact h key hkey
  · rw [hnone] at hkey
    cases hkey

/-- A clean-up is not seen from the second it runs in. -/
theorem sweepNonces_agree : AgreeFrom now (expiries m) (expiries (sweepNonces .none now m).1) := by
  apply agreeFrom_of_dropped
  intro nonce
  rcases sweepNonces_get m now (nonceKey nonce) with heq | ⟨hnone, r, hr, hlt⟩
  · exact .inl (expiries_congr heq)
  · refine .inr ⟨?_, r.expiresAt, expiries_record hr, hlt⟩
    simp only [expiries, hnone]

theorem erase_agree {nonce : String} {r : NonceRecord} (hr : m[nonceKey nonce]? = some (.record r))
    (hlt : r.expiresAt < now) : AgreeFrom now (expiries m) (expiries (m.erase (nonceKey nonce))) := by
  apply agreeFrom_of_dropped
  intro a
  by_cases ha : nonceKey nonce = nonceKey a
  · have := nonceKey_injective ha
    subst this
    refine .inr ⟨?_, r.expiresAt, expiries_record hr, hlt⟩
    unfold expiries
    rw [erase_get, if_pos rfl]
  · exact .inl (expiries_congr (erase_get_of_ne m ha))

theorem erase_readable (h : Readable m) (key : String) : Readable (m.erase key) := by
  intro a ha
  rw [erase_get] at ha
  split at ha
  · cases ha
  · exact h a ha

theorem insert_readable (h : Readable m) (key : String) (r : NonceRecord) : Readable (m.insert key (.record r)) := by
  intro a ha
  rw [insert_get] at ha
  split at ha
  · cases ha
  · exact h a ha

theorem expiries_insert (m : Table String (Cell NonceRecord)) (nonce : String) (r : NonceRecord) :
    expiries (m.insert (nonceKey nonce) (.record r)) = Function.update (expiries m) nonce (some r.expiresAt) := by
  funext a
  by_cases ha : a = nonce
  · subst ha
    rw [Function.update_self]
    exact expiries_record Std.TreeMap.getElem?_insert_self
  · rw [Function.update_of_ne ha]
    exact expiries_congr (insert_get_of_ne m (fun h => ha (nonceKey_injective h).symm) _)

end

/-! ## One call -/

section
variable {r : NonceReadings} {ttl : Nat} {d : NonceDo}

theorem storeNonce_none (h : Readable d.storage) (httl : ttl ≤ maxNonceTtlSeconds) {t : Nat}
    (hpurge : secs r.purge ≤ t) (nonce : String) :
    (d.storeNonce .none .none r nonce ttl).1 = .ok true ∧ Readable (d.storeNonce .none .none r nonce ttl).2.storage ∧
      AgreeFrom t (Function.update (expiries d.storage) nonce (some (secs r.create + ttl)))
        (expiries (d.storeNonce .none .none r nonce ttl).2.storage) := by
  have hexp := satAddU64_secs r.create httl
  unfold NonceDo.storeNonce
  by_cases hfull : d.storage.size ≥ maxNonceCapacity
  · simp only [Faults.none, Bool.false_eq_true, if_false, if_pos hfull, purgeExpiredNonces]
    refine ⟨trivial, insert_readable (sweepNonces_readable h) _ _, ?_⟩
    rw [expiries_insert, hexp]
    exact agreeFrom_update (sweepNonces_agree.mono hpurge) nonce _
  · simp only [Faults.none, Bool.false_eq_true, if_false, if_neg hfull]
    refine ⟨trivial, insert_readable h _ _, ?_⟩
    rw [expiries_insert, hexp]
    exact AgreeFrom.refl _ _

/-- A call answers like the set and leaves it as the set does. -/
theorem checkAndSetInternal_agree (h : Readable d.storage) (h0 : 1 ≤ ttl) (httl : ttl ≤ maxNonceTtlSeconds) {t : Nat}
    (hcheck : secs r.check ≤ t) (hpurge : secs r.purge ≤ t) (nonce : String) :
    (d.checkAndSetInternal .none .none r nonce ttl).1 =
        .ok (checkAndSet (expiries d.storage) nonce (secs r.check) (secs r.create + ttl)).1 ∧
      Readable (d.checkAndSetInternal .none .none r nonce ttl).2.storage ∧
      AgreeFrom t (checkAndSet (expiries d.storage) nonce (secs r.check) (secs r.create + ttl)).2
        (expiries (d.checkAndSetInternal .none .none r nonce ttl).2.storage) := by
  have hpos : ttl ≠ 0 := by omega
  have hmax : ¬ttl > maxNonceTtlSeconds := by omega
  simp only [NonceDo.checkAndSetInternal, hpos, hmax, if_false, storageGet, Faults.none, storageDelete,
    Bool.false_eq_true]
  cases hc : d.storage[nonceKey nonce]? with
  | none =>
    have hnot : ¬Present (expiries d.storage) nonce (secs r.check) := by
      rintro ⟨e, he, -⟩
      simp only [expiries, hc] at he
      cases he
    simp only [checkAndSet, if_neg hnot]
    exact storeNonce_none h httl hpurge nonce
  | some c =>
    cases c with
    | garbled => exact absurd hc (h _)
    | record record =>
      by_cases hv : record.isValidAt (secs r.check) = true
      · have hlive : Present (expiries d.storage) nonce (secs r.check) :=
          ⟨record.expiresAt, expiries_record hc, by simpa [NonceRecord.isValidAt] using hv⟩
        simp only [checkAndSet, if_pos hlive, if_pos hv]
        exact ⟨trivial, h, AgreeFrom.refl _ _⟩
      · have hlt : record.expiresAt < secs r.check := by simpa [NonceRecord.isValidAt] using hv
        have hnot : ¬Present (expiries d.storage) nonce (secs r.check) := by
          rintro ⟨e, he, hle⟩
          rw [expiries_record hc] at he
          cases he
          omega
        simp only [checkAndSet, if_neg hnot, if_neg hv]
        have hstored := storeNonce_none (r := r) (d := { d with storage := d.storage.erase (nonceKey nonce) })
          (erase_readable h _) httl hpurge
        obtain ⟨hans, hread, hagree⟩ := hstored nonce
        refine ⟨hans, hread, AgreeFrom.trans ?_ hagree⟩
        exact agreeFrom_update ((erase_agree hc hlt).mono hcheck) nonce _

end

/-! ## Runs without storage errors -/

inductive NonceOp where
  | checkAndSet (r : NonceReadings) (nonce : String) (ttl : Nat)
  | alarm (now arm : UInt64)
  | purge (now : UInt64)

namespace NonceOp

def start : NonceOp → Nat
  | .checkAndSet r _ _ => secs r.check
  | .alarm now _ => secs now
  | .purge now => secs now

def stop : NonceOp → Nat
  | .checkAndSet r _ _ => secs r.arm
  | .alarm _ arm => secs arm
  | .purge now => secs now

/-- The lifetime is one the object takes, and the clock does not go back within the call. -/
def Proper : NonceOp → Prop
  | .checkAndSet r _ ttl => r.Ordered ∧ 1 ≤ ttl ∧ ttl ≤ maxNonceTtlSeconds
  | _ => True

instance decidableProper : ∀ i : NonceOp, Decidable i.Proper
  | .checkAndSet r _ ttl => inferInstanceAs (Decidable (r.Ordered ∧ 1 ≤ ttl ∧ ttl ≤ maxNonceTtlSeconds))
  | .alarm _ _ => inferInstanceAs (Decidable True)
  | .purge _ => inferInstanceAs (Decidable True)

def isCheckAndSet : NonceOp → Bool
  | .checkAndSet .. => true
  | _ => false

def apply (d : NonceDo) : NonceOp → NonceDo
  | .checkAndSet r nonce ttl => (d.checkAndSetInternal .none .none r nonce ttl).2
  | .alarm now arm => d.onAlarm .none now arm
  | .purge now =>
    match purgeExpiredNonces .none (secs now) d.storage with
    | .ok m => { d with storage := m }
    | .error _ => d

def answer (d : NonceDo) : NonceOp → Option (Except String Bool)
  | .checkAndSet r nonce ttl => some (d.checkAndSetInternal .none .none r nonce ttl).1
  | _ => none

/-- What the step does to the set. With all readings of the call at `t`, the nonce is stored where
no expiry of `t` or later is, and expires at `t + ttl`. -/
def applySet (s : String → Option Nat) : NonceOp → String → Option Nat
  | .checkAndSet r nonce ttl => (ExpiringSet.checkAndSet s nonce (secs r.check) (secs r.create + ttl)).2
  | _ => s

def answerSet (s : String → Option Nat) : NonceOp → Option (Except String Bool)
  | .checkAndSet r nonce ttl => some (.ok (ExpiringSet.checkAndSet s nonce (secs r.check) (secs r.create + ttl)).1)
  | _ => none

end NonceOp

def Represents (t : Nat) (d : NonceDo) (s : String → Option Nat) : Prop :=
  Readable d.storage ∧ AgreeFrom t s (expiries d.storage)

theorem onAlarm_sweeps (now arm : UInt64) (d : NonceDo) :
    (d.onAlarm .none now arm).storage = (sweepNonces .none (secs now) d.storage).1 := by
  simp only [NonceDo.onAlarm, Faults.none, Bool.false_eq_true, if_false]
  split <;> rfl

theorem apply_purge_sweeps (now : UInt64) (d : NonceDo) :
    (NonceOp.apply d (.purge now)).storage = (sweepNonces .none (secs now) d.storage).1 := by
  simp only [NonceOp.apply, purgeExpiredNonces, Faults.none, Bool.false_eq_true, if_false]

theorem represents_sweep {t now : Nat} {d d' : NonceDo} {s : String → Option Nat} (h : Represents t d s) (hle : t ≤ now)
    (hd : d'.storage = (sweepNonces .none now d.storage).1) : Represents now d' s := by
  unfold Represents
  rw [hd]
  exact ⟨sweepNonces_readable h.1, (h.2.mono hle).trans sweepNonces_agree⟩

/-- One step answers as the set does and represents the set after it. -/
theorem represents_step (t : Nat) (d : NonceDo) (s : String → Option Nat) (i : NonceOp) (h : Represents t d s)
    (hle : t ≤ i.start) (hstop : i.start ≤ i.stop) (hi : i.Proper) :
    i.answer d = i.answerSet s ∧ Represents i.stop (i.apply d) (i.applySet s) := by
  cases i with
  | checkAndSet r nonce ttl =>
    obtain ⟨⟨h₁, h₂, h₃⟩, h0, hmax⟩ := hi
    have hcheck : secs r.check ≤ secs r.arm := hstop
    have hpurge : secs r.purge ≤ secs r.arm := secs_mono (le_trans h₂ h₃)
    obtain ⟨hans, hread, hagree⟩ := checkAndSetInternal_agree h.1 h0 hmax hcheck hpurge nonce
    obtain ⟨hsame, hafter⟩ := checkAndSet_agree (u := secs r.check) (k := nonce) (e := secs r.create + ttl) h.2 hle
    refine ⟨?_, hread, (hafter.mono (le_trans hle hstop)).trans hagree⟩
    simp only [NonceOp.answer, NonceOp.answerSet, hans, hsame]
  | alarm now arm =>
    have hnow := represents_sweep h hle (onAlarm_sweeps now arm d)
    exact ⟨rfl, hnow.1, hnow.2.mono hstop⟩
  | purge now => exact ⟨rfl, represents_sweep h hle (apply_purge_sweeps now d)⟩

theorem answers_eq_set {t : Nat} {d : NonceDo} {is : List NonceOp} (hread : Readable d.storage)
    (ho : Ordered NonceOp.start NonceOp.stop t is) (hi : ∀ i ∈ is, i.Proper) :
    outputs NonceOp.apply NonceOp.answer d is = outputs NonceOp.applySet NonceOp.answerSet (expiries d.storage) is :=
  outputs_eq_of_simulates represents_step is t d _ ⟨hread, AgreeFrom.refl _ _⟩ ho hi

theorem answersSet_filter (is : List NonceOp) (s : String → Option Nat) :
    outputs NonceOp.applySet NonceOp.answerSet s is =
      outputs NonceOp.applySet NonceOp.answerSet s (is.filter NonceOp.isCheckAndSet) := by
  apply outputs_filter
  intro s i hi
  cases i with
  | checkAndSet r nonce ttl => cases hi
  | alarm now arm => exact ⟨rfl, rfl⟩
  | purge now => exact ⟨rfl, rfl⟩

/-- **The object refines the set.** From every readable object and however many entries it holds, the
answers of a run are those of the set, and two runs with the same calls answer alike, whatever
alarms and purges stand between the calls. -/
theorem nonceDo_refines_set (t : Nat) (d : NonceDo) (is js : List NonceOp) (hread : Readable d.storage)
    (hos : Ordered NonceOp.start NonceOp.stop t is) (his : ∀ i ∈ is, i.Proper) :
    outputs NonceOp.apply NonceOp.answer d is =
        outputs NonceOp.applySet NonceOp.answerSet (expiries d.storage) is ∧
      (Ordered NonceOp.start NonceOp.stop t js → (∀ j ∈ js, j.Proper) →
        js.filter NonceOp.isCheckAndSet = is.filter NonceOp.isCheckAndSet →
        outputs NonceOp.apply NonceOp.answer d js = outputs NonceOp.apply NonceOp.answer d is) := by
  refine ⟨answers_eq_set hread hos his, fun hoj hjs hsame => ?_⟩
  rw [answers_eq_set hread hos his, answers_eq_set hread hoj hjs, answersSet_filter js, answersSet_filter is, hsame]

theorem readable_empty : Readable NonceDo.empty.storage := by
  intro key h
  simp [NonceDo.empty] at h

/-- A nonce stored for ten seconds is asked for again at its last second and after it. -/
theorem nonce_readmitted :
    let calls : List NonceOp := [.checkAndSet (.at 0) "n" 10, .checkAndSet (.at 10000) "n" 10, .checkAndSet (.at 11000) "n" 10]
    let cleaned : List NonceOp := [.checkAndSet (.at 0) "n" 10, .purge 5000, .checkAndSet (.at 10000) "n" 10,
      .alarm 10500 11000, .checkAndSet (.at 11000) "n" 10]
    outputs NonceOp.apply NonceOp.answer .empty calls =
        outputs NonceOp.applySet NonceOp.answerSet (expiries NonceDo.empty.storage) calls ∧
      outputs NonceOp.apply NonceOp.answer .empty cleaned = outputs NonceOp.apply NonceOp.answer .empty calls := by
  intro calls cleaned
  have h := nonceDo_refines_set 0 .empty calls cleaned readable_empty (by decide) (by decide)
  exact ⟨h.1, h.2 (by decide) (by decide) rfl⟩

end Issuer
