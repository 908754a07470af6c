import Issuer.NonceDo
import Issuer.Lib.Runs

/-!
# A stored nonce stays refused until it expires

`Guarded m key e`: the slot `key` refuses its nonce at every time up to `e`. An accepted nonce is
guarded for its whole lifetime, and no call, alarm or purge at a time up to `e` lifts the guard,
however many entries there are and whichever storage operations fail.
-/

namespace Issuer

open Rust Store

/-! ## What a call does to the store -/

theorem purgeExpiredNonces_ok {fl : Faults} {now : Nat} {m m' : Table String (Cell NonceRecord)}
    (h : purgeExpiredNonces fl now m = .ok m') : m' = (sweepNonces fl now m).1 := by
  unfold purgeExpiredNonces at h
  split at h
  · cases h
  · cases h; rfl

theorem storeNonce_cases (fl pfl : Faults) (r : NonceReadings) (nonce : String) (ttl : Nat) (d : NonceDo) :
    ∃ m, (m = d.storage ∨ m = (sweepNonces pfl (secs r.purge) d.storage).1) ∧
      ((∃ e, (d.storeNonce fl pfl r nonce ttl).1 = .error e) ∧ (d.storeNonce fl pfl r nonce ttl).2.storage = m ∨
       ((d.storeNonce fl pfl r nonce ttl).1 = .ok true ∨ ∃ e, (d.storeNonce fl pfl r nonce ttl).1 = .error e) ∧
        (d.storeNonce fl pfl r nonce ttl).2.storage =
          m.insert (nonceKey nonce) (.record ⟨nonce, secs r.create, satAddU64 (secs r.create) ttl⟩)) := by
  unfold NonceDo.storeNonce
  split
  · exact ⟨d.storage, .inl rfl, .inl ⟨⟨_, rfl⟩, rfl⟩⟩
  simp only
  split
  · exact ⟨d.storage, .inl rfl, .inl ⟨⟨_, rfl⟩, rfl⟩⟩
  · rename_i m hm
    have hm' : m = d.storage ∨ m = (sweepNonces pfl (secs r.purge) d.storage).1 := by
      split at hm
      · exact .inr (purgeExpiredNonces_ok hm)
      · cases hm; exact .inl rfl
    refine ⟨m, hm', ?_⟩
    split
    · exact .inl ⟨⟨_, rfl⟩, rfl⟩
    split
    · exact .inr ⟨.inr ⟨_, rfl⟩, rfl⟩
    · exact .inr ⟨.inl rfl, rfl⟩

/-- A call that gets as far as storing found no record under the key, or an expired one. -/
theorem checkAndSet_cases (fl pfl : Faults) (r : NonceReadings) (nonce : String) (ttl : Nat) (d : NonceDo) :
    ((d.checkAndSetInternal fl pfl r nonce ttl).1 ≠ .ok true ∧ (d.checkAndSetInternal fl pfl r nonce ttl).2 = d) ∨
      0 < ttl ∧ ttl ≤ maxNonceTtlSeconds ∧ ∃ d₀ : NonceDo,
        d.checkAndSetInternal fl pfl r nonce ttl = d₀.storeNonce fl pfl r nonce ttl ∧
        (∀ a, a ≠ nonceKey nonce → d₀.storage[a]? = d.storage[a]?) ∧
        (d.storage[nonceKey nonce]? = none ∨
          ∃ rec, d.storage[nonceKey nonce]? = some (.record rec) ∧ rec.expiresAt < secs r.check) := by
  unfold NonceDo.checkAndSetInternal
  split
  · exact .inl ⟨by simp, rfl⟩
  rename_i h0
  split
  · exact .inl ⟨by simp, rfl⟩
  rename_i h1
  simp only
  split
  · exact .inl ⟨by simp, rfl⟩
  · rename_i record hget
    split
    · exact .inl ⟨by simp, rfl⟩
    · rename_i hv
      have hrec : d.storage[nonceKey nonce]? = some (.record record) := by
        unfold storageGet at hget
        split at hget
        · simpa using hget
        · cases hget
        · cases hs : d.storage[nonceKey nonce]? <;> simp [hs] at hget
      refine .inr ⟨by omega, by omega, _, rfl, ?_, .inr ⟨record, hrec, ?_⟩⟩
      · intro a ha
        simp only [storageDelete]
        split
        · rfl
        · exact erase_get_of_ne _ (Ne.symm ha)
      · simpa [NonceRecord.isValidAt] using hv
  · exact .inl ⟨by simp, rfl⟩
  · rename_i hget
    have hnone : d.storage[nonceKey nonce]? = none := by
      unfold storageGet at hget
      split at hget
      · simpa using hget
      · cases hget
      · simpa using hget
    exact .inr ⟨by omega, by omega, d, rfl, fun _ _ => rfl, .inl hnone⟩

/-! ## The guard -/

def Cell.blocks : Cell NonceRecord → Nat → Prop
  | .record r, t => t ≤ r.expiresAt
  | .garbled, _ => True

def Guarded (m : Table String (Cell NonceRecord)) (key : String) (e : Nat) : Prop :=
  ∃ c, m[key]? = some c ∧ c.blocks e

theorem guarded_congr {m m' : Table String (Cell NonceRecord)} {key : String} {e : Nat}
    (h : m'[key]? = m[key]?) (hg : Guarded m key e) : Guarded m' key e := by
  obtain ⟨c, hc, hb⟩ := hg
  exact ⟨c, h.trans hc, hb⟩

theorem sweepNonces_guarded {fl : Faults} {now e : Nat} {m : Table String (Cell NonceRecord)} {key : String}
    (hg : Guarded m key e) (hle : now ≤ e) : Guarded (sweepNonces fl now m).1 key e := by
  obtain ⟨c, hc, hb⟩ := hg
  refine ⟨c, sweep_survives _ _ hc ?_, hb⟩
  unfold judgeNonce
  split
  · split
    · rename_i r _
      have hv : r.isValidAt now = true := by
        have : e ≤ r.expiresAt := hb
        simp only [NonceRecord.isValidAt, decide_eq_true_eq]; omega
      simp [hv]
    · simp
  · simp

theorem onAlarm_guarded {fl : Faults} {now arm : UInt64} {d : NonceDo} {key : String} {e : Nat}
    (hg : Guarded d.storage key e) (hle : secs now ≤ e) : Guarded (d.onAlarm fl now arm).storage key e := by
  have hs : Guarded (sweepNonces fl (secs now) d.storage).1 key e := sweepNonces_guarded hg hle
  unfold NonceDo.onAlarm
  split
  · exact hg
  simp only
  split
  · exact hs
  · exact hs

theorem storeNonce_guarded {fl pfl : Faults} {r : NonceReadings} {nonce : String} {ttl : Nat} {d : NonceDo}
    {key : String} {e : Nat} (hne : key ≠ nonceKey nonce) (hg : Guarded d.storage key e)
    (hle : secs r.purge ≤ e) : Guarded (d.storeNonce fl pfl r nonce ttl).2.storage key e := by
  obtain ⟨m, hm, hres⟩ := storeNonce_cases fl pfl r nonce ttl d
  have hgm : Guarded m key e := by
    rcases hm with rfl | rfl
    · exact hg
    · exact sweepNonces_guarded hg hle
  rcases hres with ⟨_, h⟩ | ⟨_, h⟩
  · rw [h]; exact hgm
  · rw [h]; exact guarded_congr (insert_get_of_ne m hne.symm _) hgm

/-- A guarded nonce is refused and the refusal changes nothing. -/
theorem checkAndSet_refused {fl pfl : Faults} {r : NonceReadings} {nonce : String} {ttl : Nat} {d : NonceDo}
    {e : Nat} (hg : Guarded d.storage (nonceKey nonce) e) (hle : secs r.check ≤ e) :
    (d.checkAndSetInternal fl pfl r nonce ttl).1 ≠ .ok true ∧
      (d.checkAndSetInternal fl pfl r nonce ttl).2 = d := by
  rcases checkAndSet_cases fl pfl r nonce ttl d with h | ⟨_, _, _, _, _, hfree⟩
  · exact h
  · exfalso
    obtain ⟨c, hc, hb⟩ := hg
    rcases hfree with h | ⟨rec, h, hlt⟩
    · rw [h] at hc; cases hc
    · rw [h] at hc
      cases hc
      have : e ≤ rec.expiresAt := hb
      omega

theorem checkAndSet_guarded {fl pfl : Faults} {r : NonceReadings} {nonce : String} {ttl : Nat} {d : NonceDo}
    {key : String} {e : Nat} (hg : Guarded d.storage key e) (hc : secs r.check ≤ e) (hp : secs r.purge ≤ e) :
    Guarded (d.checkAndSetInternal fl pfl r nonce ttl).2.storage key e := by
  by_cases hk : key = nonceKey nonce
  · subst hk
    rw [(checkAndSet_refused hg hc).2]
    exact hg
  · rcases checkAndSet_cases fl pfl r nonce ttl d with ⟨_, h⟩ | ⟨_, _, d₀, h, hsame, _⟩
    · rw [h]; exact hg
    · rw [h]
      exact storeNonce_guarded hk (guarded_congr (hsame key hk) hg) hp

/-- An accepted nonce is guarded for its lifetime. -/
theorem checkAndSet_sets {fl pfl : Faults} {r : NonceReadings} {nonce : String} {ttl : Nat} {d : NonceDo}
    (h : (d.checkAndSetInternal fl pfl r nonce ttl).1 = .ok true) :
    Guarded (d.checkAndSetInternal fl pfl r nonce ttl).2.storage (nonceKey nonce) (secs r.create + ttl) := by
  rcases checkAndSet_cases fl pfl r nonce ttl d with ⟨hne, _⟩ | ⟨_, hmax, d₀, hd, _⟩
  · exact absurd h hne
  rw [hd] at h ⊢
  obtain ⟨m, _, hres⟩ := storeNonce_cases fl pfl r nonce ttl d₀
  rcases hres with ⟨⟨e, he⟩, _⟩ | ⟨_, hs⟩
  · rw [he] at h; cases h
  · rw [hs]
    refine ⟨_, Std.TreeMap.getElem?_insert_self, ?_⟩
    exact le_of_eq (satAddU64_secs r.create hmax).symm

/-! ## Shards -/

def ShardGuarded (s : NonceShards) (nonce : String) (e : Nat) : Prop :=
  Guarded (s (nonceShard nonce)).storage (nonceKey nonce) e

theorem nonceDoCheckAndSet_answer {fl pfl : Faults} {r : NonceReadings} {nonce : String} {ttl : Nat}
    {s : NonceShards} (h : (nonceDoCheckAndSet fl pfl r nonce ttl s).1 = .ok true) :
    ((s (nonceShard nonce)).checkAndSetInternal fl pfl r nonce ttl).1 = .ok true := by
  unfold nonceDoCheckAndSet at h
  simp only at h
  cases ha : ((s (nonceShard nonce)).checkAndSetInternal fl pfl r nonce ttl).1 with
  | error e => rw [ha] at h; cases h
  | ok b => rw [ha] at h; cases h; rfl

theorem nonceDoCheckAndSet_guarded {fl pfl : Faults} {r : NonceReadings} {nonce key : String} {ttl : Nat}
    {s : NonceShards} {e : Nat} (hg : ShardGuarded s key e) (hc : secs r.check ≤ e) (hp : secs r.purge ≤ e) :
    ShardGuarded (nonceDoCheckAndSet fl pfl r nonce ttl s).2 key e := by
  unfold ShardGuarded nonceDoCheckAndSet at *
  simp only
  by_cases hi : nonceShard key = nonceShard nonce
  · rw [hi] at hg ⊢
    rw [Function.update_self]
    exact checkAndSet_guarded hg hc hp
  · rw [Function.update_of_ne hi]
    exact hg

theorem nonceDoCheckAndSet_refused {fl pfl : Faults} {r : NonceReadings} {nonce : String} {ttl : Nat}
    {s : NonceShards} {e : Nat} (hg : ShardGuarded s nonce e) (hc : secs r.check ≤ e) :
    (nonceDoCheckAndSet fl pfl r nonce ttl s).1 ≠ .ok true :=
  fun h => (checkAndSet_refused hg hc).1 (nonceDoCheckAndSet_answer h)

theorem nonceDoCheckAndSet_sets {fl pfl : Faults} {r : NonceReadings} {nonce : String} {ttl : Nat}
    {s : NonceShards} (h : (nonceDoCheckAndSet fl pfl r nonce ttl s).1 = .ok true) :
    ShardGuarded (nonceDoCheckAndSet fl pfl r nonce ttl s).2 nonce (secs r.create + ttl) := by
  have := checkAndSet_sets (nonceDoCheckAndSet_answer h)
  unfold ShardGuarded nonceDoCheckAndSet
  simp only [Function.update_self]
  exact this

theorem guarded_mono {m : Table String (Cell NonceRecord)} {key : String} {e e' : Nat} (h : e' ≤ e)
    (hg : Guarded m key e) : Guarded m key e' := by
  obtain ⟨c, hc, hb⟩ := hg
  refine ⟨c, hc, ?_⟩
  cases c with
  | record r => exact le_trans h hb
  | garbled => trivial

end Issuer
