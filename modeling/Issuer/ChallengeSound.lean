import Issuer.Challenge
import Issuer.ResourceLockDoSound

/-!
# How often a challenge can be consumed

A consumption record of a challenge lives 120 seconds and counts through its last second, as the
challenge itself does. The alarm however drops the record at the start of that second, so a
challenge consumed in the second of its creation can be consumed once more in its last one.
-/

namespace Issuer

open Rust Store Runs

theorem create_expiresAt (challengeId officerId : String) (challenge : List UInt8) (created expires : UInt64) :
    (StoredChallenge.create challengeId officerId challenge challengeTtlSeconds created expires).expiresAt =
      secs expires + 120 := by
  have h : toI64OrMax challengeTtlSeconds = 120 := by decide
  simp only [StoredChallenge.create, nowEpochSecs_eq, h]
  exact satAddI64_secs expires (by decide) (by decide)

/-! ## The property -/

/-- A consume step for the challenge that is allowed no later than `expires_at`. -/
def consumesChallenge (c : StoredChallenge) (d : ResourceLockDo) : ResourceStep → Bool
  | .consume fl t body =>
    decide (body.resourceType = "challenge" ∧ body.resourceId = c.challengeId ∧ nowEpochSecs t.check ≤ c.expiresAt) &&
      consumeAllowed (d.consumeResource fl t body).1
  | _ => false

/-- The step does not meet a defect: reads of the challenge's slot succeed, and no alarm in the
last second of the challenge finds a record of it that ends in that second. -/
def SparesChallenge (c : StoredChallenge) (d : ResourceLockDo) : ResourceStep → Prop
  | .consume fl _ body => consumedKey body.resourceType body.resourceId = consumedKey "challenge" c.challengeId →
      fl.read (consumedKey "challenge" c.challengeId) = .success
  | .alarm _ now _ => ∀ r, d.storage[consumedKey "challenge" c.challengeId]? = some (.record (.consumption r)) →
      nowEpochSecs now = c.expiresAt → c.expiresAt ≠ satAddI64 r.consumedAt (resourceTtlSeconds r.resourceType)
  | .reset _ _ environment _ _ => environment ∉ allowedResetEnvs
  | _ => True

/-! ## The guard -/

def ChallengeGuarded (c : StoredChallenge) (d : ResourceLockDo) : Prop :=
  ∃ r, d.storage[consumedKey "challenge" c.challengeId]? = some (.record (.consumption r)) ∧
    c.expiresAt ≤ satAddI64 r.consumedAt (resourceTtlSeconds r.resourceType)

theorem isStale_eq_false {r : ConsumptionRecord} {now e : Int} (hle : now ≤ e)
    (he : e ≤ satAddI64 r.consumedAt (resourceTtlSeconds r.resourceType)) : r.isStale now = false := by
  simp only [ConsumptionRecord.isStale, decide_eq_false_iff_not]
  omega

theorem challengeGuarded_congr {c : StoredChallenge} {d d' : ResourceLockDo}
    (h : d'.storage[consumedKey "challenge" c.challengeId]? = d.storage[consumedKey "challenge" c.challengeId]?)
    (hg : ChallengeGuarded c d) : ChallengeGuarded c d' := by
  obtain ⟨r, hr, he⟩ := hg
  exact ⟨r, h.trans hr, he⟩

theorem apply_challengeGuarded {c : StoredChallenge} {d : ResourceLockDo} {i : ResourceStep}
    (ht : i.Timely) (hs : SparesChallenge c d i) (hg : ChallengeGuarded c d) (hle : i.stop ≤ c.expiresAt) :
    ChallengeGuarded c (i.apply d) := by
  cases i with
  | consume fl t body =>
    have hcheck : nowEpochSecs t.check ≤ c.expiresAt := by
      have h1 : secs t.check ≤ secs t.create := secs_mono ht.1
      have h2 : secs t.create ≤ secs t.arm := secs_mono ht.2
      have h3 : nowEpochSecs t.arm ≤ c.expiresAt := hle
      simp only [nowEpochSecs_eq] at h3 ⊢
      omega
    by_cases hk : consumedKey "challenge" c.challengeId = consumedKey body.resourceType body.resourceId
    · obtain ⟨r, hr, he⟩ := hg
      have hread : fl.read (consumedKey "challenge" c.challengeId) = .success := hs hk.symm
      rw [hk] at hread hr
      have h := (consumeResource_refused (t := t) hread hr (isStale_eq_false hcheck he)).2
      show ChallengeGuarded c (d.consumeResource fl t body).2
      rw [h]
      exact ⟨r, hk ▸ hr, he⟩
    · exact challengeGuarded_congr (consumeResource_frame hk) hg
  | check fl now resourceType resourceId =>
    by_cases hk : consumedKey "challenge" c.challengeId = consumedKey resourceType resourceId
    · obtain ⟨r, hr, he⟩ := hg
      rw [hk] at hr
      show ChallengeGuarded c (d.checkConsumed fl now resourceType resourceId).2
      rw [checkConsumed_live hr (isStale_eq_false hle he)]
      exact ⟨r, hk ▸ hr, he⟩
    · exact challengeGuarded_congr (checkConsumed_frame hk) hg
  | reset fl now environment resourceType resourceId =>
    show ChallengeGuarded c (d.resetResource fl environment resourceType resourceId).2
    unfold ResourceLockDo.resetResource
    have henv : environment ∉ allowedResetEnvs := hs
    rw [if_pos henv]
    exact hg
  | acquire fl now arm body =>
    exact challengeGuarded_congr (handleAcquireLock_frame (consumedKey_ne_lockKey _ _ _)) hg
  | release fl now lockToken resourceKey =>
    exact challengeGuarded_congr (handleReleaseLock_frame (consumedKey_ne_lockKey _ _ _)) hg
  | alarm fl now arm =>
    obtain ⟨r, hr, he⟩ := hg
    have hnow : nowEpochSecs now ≤ c.expiresAt := by
      have h1 : secs now ≤ secs arm := secs_mono ht
      have h2 : nowEpochSecs arm ≤ c.expiresAt := hle
      simp only [nowEpochSecs_eq] at h2 ⊢
      omega
    -- the record outlives the challenge, or the alarm is not in the last second
    have hlt : nowEpochSecs now < satAddI64 r.consumedAt (resourceTtlSeconds r.resourceType) := by
      rcases lt_or_eq_of_le hnow with h | h
      · omega
      · have := hs r hr h
        omega
    exact ⟨r, onAlarm_survives hr (judgeResource_consumption hlt), he⟩

theorem consumesChallenge_cases {c : StoredChallenge} {d : ResourceLockDo} {i : ResourceStep}
    (h : consumesChallenge c d i = true) :
    ∃ fl t body, i = .consume fl t body ∧ body.resourceType = "challenge" ∧ body.resourceId = c.challengeId ∧
      nowEpochSecs t.check ≤ c.expiresAt ∧ consumeAllowed (d.consumeResource fl t body).1 = true := by
  cases i with
  | consume fl t body =>
    simp only [consumesChallenge, Bool.and_eq_true, decide_eq_true_eq] at h
    obtain ⟨⟨htype, hid, hle⟩, hok⟩ := h
    exact ⟨fl, t, body, rfl, htype, hid, hle, hok⟩
  | check | reset | acquire | release | alarm => cases h

/-! ## Every run -/

/-- From its creation on, a challenge is consumed at most once while it is valid, in every run
whose steps do not meet a defect. -/
theorem challenge_consumed_at_most_once (challengeId officerId : String) (challenge : List UInt8)
    (created expires : UInt64) (d : ResourceLockDo) (steps : List ResourceStep)
    (hclock : Ordered ResourceStep.start ResourceStep.stop (nowEpochSecs expires) steps)
    (htimely : ∀ i ∈ steps, i.Timely)
    (hspares : Along ResourceStep.apply (SparesChallenge
      (.create challengeId officerId challenge challengeTtlSeconds created expires)) d steps) :
    hits ResourceStep.apply (consumesChallenge
      (.create challengeId officerId challenge challengeTtlSeconds created expires)) d steps ≤ 1 := by
  have hexp := create_expiresAt challengeId officerId challenge created expires
  generalize StoredChallenge.create challengeId officerId challenge challengeTtlSeconds created expires = c at *
  have hstart := ordered_le_start steps _ hclock
  have hok := along_and _ steps d hspares fun i hi => And.intro (htimely i hi) (hstart i hi)
  refine hits_le_one (G := ChallengeGuarded c) (e := c.expiresAt) ?hdue ?hset ?hkeep ?hdeny steps _ d hclock hok
  case hdue =>
    intro d i _ h
    obtain ⟨fl, t, body, rfl, _, _, hle, _⟩ := consumesChallenge_cases h
    exact hle
  case hset =>
    intro d i ⟨_, ht, hlate⟩ h _
    obtain ⟨fl, t, body, rfl, htype, hid, _, hallowed⟩ := consumesChallenge_cases h
    refine ⟨_, htype ▸ hid ▸ consumeResource_allowed hallowed, ?_⟩
    have h1 : secs t.check ≤ secs t.create := secs_mono ht.1
    have h2 : nowEpochSecs expires ≤ nowEpochSecs t.check := hlate
    have httl : resourceTtlSeconds "challenge" = 120 := by decide
    simp only [nowEpochSecs_eq, httl] at h2 ⊢
    rw [satAddI64_secs t.create (by decide) (by decide)]
    omega
  case hkeep =>
    intro d i ⟨hs, ht, _⟩ hg hle
    exact apply_challengeGuarded ht hs hg hle
  case hdeny =>
    intro d i ⟨hs, ht, _⟩ hg _
    refine Bool.eq_false_iff.mpr fun h => ?_
    obtain ⟨fl, t, body, rfl, htype, hid, hle, hallowed⟩ := consumesChallenge_cases h
    obtain ⟨r, hr, he⟩ := hg
    have hread : fl.read (consumedKey "challenge" c.challengeId) = .success := hs (by rw [htype, hid])
    rw [← htype, ← hid] at hread hr
    rw [(consumeResource_refused hread hr (isStale_eq_false hle he)).1] at hallowed
    cases hallowed

/-! ## The last second -/

def lateChallenge : StoredChallenge := .create "c1" "officer" [1, 2] challengeTtlSeconds 10000 10000

def consumeC1 (ms : UInt64) : ResourceStep := .consume .none (.at ms) ⟨"challenge", "c1", none⟩

theorem quiet_challenge_consumed_once :
    hits ResourceStep.apply (consumesChallenge lateChallenge) .empty
      [consumeC1 10500, .check .none 130900 "challenge" "c1", consumeC1 130900] ≤ 1 := by
  refine challenge_consumed_at_most_once "c1" "officer" [1, 2] 10000 10000 .empty _ (by decide) (by decide) ?_
  exact ⟨fun _ => rfl, trivial, fun _ => rfl, trivial⟩

/-- Created and consumed in second 10, valid through second 130. The alarm set by the first
consumption fires on time, and the challenge is consumed again 400 milliseconds later. -/
theorem challenge_consumed_twice :
    (ResourceStep.apply .empty (consumeC1 10500)).alarm = some 130500 ∧ lateChallenge.expiresAt = 130 ∧
      ¬ hits ResourceStep.apply (consumesChallenge lateChallenge) .empty
        [consumeC1 10500, .alarm .none 130500 130500, consumeC1 130900] ≤ 1 := by
  decide +kernel

end Issuer
