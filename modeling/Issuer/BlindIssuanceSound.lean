import Issuer.BlindIssuance
import Issuer.NonceDoSound

/-!
# An attestation is redeemed at most once

The nonce record of a redemption lives 7200 seconds, the attestation is accepted for at most 3600
seconds around its timestamp: while the signature still verifies, the record still refuses.
-/

namespace Issuer

open Rust Store Runs

section
variable {VerifyingKey : Type} {C : AttestationCrypto VerifyingKey}

/-! ## One request -/

theorem trialVerify_ok {attestation : DobAttestation} {now : Nat} {c : Candidate VerifyingKey} :
    ∀ {candidates : List (Candidate VerifyingKey)} {e : String},
      trialVerify C attestation now candidates e = .ok c →
      C.verifyWithTimestamp attestation c.vk now = .ok ()
  | [], _, h => by cases h
  | d :: candidates, e, h => by
    simp only [trialVerify] at h
    split at h
    · rename_i hv
      cases h
      exact hv
    · exact trialVerify_ok h

theorem attestationNonce_cases (fl pfl : Faults) (r : NonceReadings) (nonceHex : String) (s : NonceShards) :
    ((∃ e, (validateAndConsumeAttestationNonce fl pfl r nonceHex s).1 = .error e) ∧
        (validateAndConsumeAttestationNonce fl pfl r nonceHex s).2 = s) ∨
      validateAndConsumeAttestationNonce fl pfl r nonceHex s =
        nonceDoCheckAndSet fl pfl r (attestNonce nonceHex) attestationNonceTtl s := by
  unfold validateAndConsumeAttestationNonce
  split
  · exact .inl ⟨⟨_, rfl⟩, rfl⟩
  split
  · exact .inl ⟨⟨_, rfl⟩, rfl⟩
  · exact .inr rfl

/-- A request is turned away before it reaches the nonce object, or leaves the shards as the nonce
object did; it succeeds only on a fresh nonce and a candidate that verifies. -/
theorem redeemAttestation_cases (r : BlindRequest) (s : NonceShards) :
    ((∃ e, (redeemAttestation C r s).1 = .error e) ∧ (redeemAttestation C r s).2 = s) ∨
      (redeemAttestation C r s).2 =
        (nonceDoCheckAndSet r.faults r.purgeFaults r.readings (attestNonce r.attestation.nonceHex)
          attestationNonceTtl s).2 ∧
      ∀ c, (redeemAttestation C r s).1 = .ok c →
        (nonceDoCheckAndSet r.faults r.purgeFaults r.readings (attestNonce r.attestation.nonceHex)
          attestationNonceTtl s).1 = .ok true ∧
        C.verifyWithTimestamp r.attestation c.vk (secs r.now) = .ok () := by
  unfold redeemAttestation
  split
  · exact .inl ⟨⟨_, rfl⟩, rfl⟩
  · exact .inl ⟨⟨_, rfl⟩, rfl⟩
  split
  · exact .inl ⟨⟨_, rfl⟩, rfl⟩
  split
  · exact .inl ⟨⟨_, rfl⟩, rfl⟩
  simp only
  split
  · exact .inl ⟨⟨_, rfl⟩, rfl⟩
  · exact .inl ⟨⟨_, rfl⟩, rfl⟩
  · rcases attestationNonce_cases r.faults r.purgeFaults r.readings r.attestation.nonceHex s with
      ⟨⟨e, he⟩, hs⟩ | hdo
    · have hres : validateAndConsumeAttestationNonce r.faults r.purgeFaults r.readings
          r.attestation.nonceHex s = (.error e, s) := Prod.ext he hs
      rw [hres]
      exact .inl ⟨⟨_, rfl⟩, rfl⟩
    · rw [hdo]
      refine .inr ?_
      split
      · rename_i heq
        exact ⟨by rw [heq], fun c h => by cases h⟩
      · rename_i heq
        exact ⟨by rw [heq], fun c h => by cases h⟩
      · rename_i heq
        split
        · rename_i c hc
          refine ⟨by rw [heq], fun c' h => ?_⟩
          cases h
          exact ⟨by rw [heq], trialVerify_ok hc⟩
        · exact ⟨by rw [heq], fun c h => by cases h⟩

/-! ## One step -/

theorem NonceReadings.Ordered.secs {r : NonceReadings} (h : r.Ordered) :
    Issuer.secs r.check ≤ Issuer.secs r.purge ∧ Issuer.secs r.purge ≤ Issuer.secs r.create ∧
      Issuer.secs r.create ≤ Issuer.secs r.arm :=
  ⟨secs_mono h.1, secs_mono h.2.1, secs_mono h.2.2⟩

theorem update_shardGuarded {s : NonceShards} {nonce : String} {e : Nat} {i : Fin nonceDoShardCount}
    {d : NonceDo} (hg : ShardGuarded s nonce e)
    (hd : ∀ key, Guarded (s i).storage key e → Guarded d.storage key e) :
    ShardGuarded (Function.update s i d) nonce e := by
  unfold ShardGuarded at *
  by_cases hi : nonceShard nonce = i
  · subst hi
    rw [Function.update_self]
    exact hd _ hg
  · rw [Function.update_of_ne hi]
    exact hg

/-- No step that ends by `e` lifts a guard that lasts until `e`. -/
theorem apply_shardGuarded {lag : Nat} {s : NonceShards} {i : NonceStep} {nonce : String} {e : Nat}
    (ht : i.Timely lag) (hg : ShardGuarded s nonce e) (hle : i.stop ≤ e) :
    ShardGuarded (i.apply C s) nonce e := by
  cases i with
  | blindIssuance r =>
    obtain ⟨hcp, hpc, hca⟩ := ht.1.secs
    have hstop : secs r.readings.arm ≤ e := hle
    show ShardGuarded (redeemAttestation C r s).2 nonce e
    rcases redeemAttestation_cases (C := C) r s with ⟨_, h⟩ | ⟨h, _⟩
    · rw [h]; exact hg
    · rw [h]; exact nonceDoCheckAndSet_guarded hg (by omega) (by omega)
  | authNonce fl pfl r n =>
    obtain ⟨hcp, hpc, hca⟩ := NonceReadings.Ordered.secs ht
    have hstop : secs r.arm ≤ e := hle
    show ShardGuarded (validateAndConsumeNonce fl pfl r n s).2 nonce e
    unfold validateAndConsumeNonce
    split
    · exact hg
    · exact nonceDoCheckAndSet_guarded hg (by omega) (by omega)
  | alarm i fl now arm =>
    have hstop : secs arm ≤ e := hle
    have hnow : secs now ≤ secs arm := secs_mono ht
    show ShardGuarded (Function.update s i ((s i).onAlarm fl now arm)) nonce e
    exact update_shardGuarded hg fun key hk => onAlarm_guarded hk (by omega)
  | purge i fl now =>
    have hstop : secs now ≤ e := hle
    simp only [NonceStep.apply]
    split
    · rename_i m hm
      refine update_shardGuarded hg fun key hk => ?_
      rw [purgeExpiredNonces_ok hm]
      exact sweepNonces_guarded hk hstop
    · exact hg

theorem redeems_cases {attestation : DobAttestation} {s : NonceShards} {i : NonceStep}
    (h : redeems C attestation s i = true) :
    ∃ r c, i = .blindIssuance r ∧ r.attestation = attestation ∧ (redeemAttestation C r s).1 = .ok c := by
  cases i with
  | blindIssuance r =>
    simp only [redeems, Bool.and_eq_true, decide_eq_true_eq] at h
    cases hr : (redeemAttestation C r s).1 with
    | error e => rw [hr] at h; cases h.2
    | ok c => exact ⟨r, c, rfl, h.1, hr⟩
  | authNonce | alarm | purge => cases h

theorem redeemAttestation_ok {r : BlindRequest} {s : NonceShards} {c : Candidate VerifyingKey}
    (h : (redeemAttestation C r s).1 = .ok c) :
    (redeemAttestation C r s).2 =
        (nonceDoCheckAndSet r.faults r.purgeFaults r.readings (attestNonce r.attestation.nonceHex)
          attestationNonceTtl s).2 ∧
      (nonceDoCheckAndSet r.faults r.purgeFaults r.readings (attestNonce r.attestation.nonceHex)
        attestationNonceTtl s).1 = .ok true ∧
      C.verifyWithTimestamp r.attestation c.vk (secs r.now) = .ok () := by
  rcases redeemAttestation_cases (C := C) r s with ⟨⟨e, he⟩, _⟩ | ⟨hs, hok⟩
  · rw [he] at h; cases h
  · exact ⟨hs, hok c h⟩

/-! ## Every run -/

/-- `skew` is how far before its timestamp an attestation verifies. -/
theorem attestation_redeemed_at_most_once (skew lag : Nat) (hskew : skew < 3600) (hlag : lag ≤ 3600 - skew)
    (hverify : ∀ a vk now, C.verifyWithTimestamp a vk now = .ok () →
      a.timestamp ≤ now + skew ∧ now ≤ a.timestamp + 3600)
    (attestation : DobAttestation) (steps : List NonceStep) (s : NonceShards) (t : Nat)
    (hclock : Ordered NonceStep.start NonceStep.stop t steps) (htimely : ∀ i ∈ steps, i.Timely lag) :
    hits (NonceStep.apply C) (redeems C attestation) s steps ≤ 1 := by
  -- the guard has to last while the signature verifies, plus the lag
  let e := attestation.timestamp + 3600 + lag
  refine hits_le_one (G := fun s => ShardGuarded s (attestNonce attestation.nonceHex) e) (e := e)
    ?hdue ?hset ?hkeep ?hdeny steps t s hclock (along_of_forall _ steps s htimely)
  case hdue =>
    intro s i ht h
    obtain ⟨r, c, rfl, rfl, hok⟩ := redeems_cases h
    obtain ⟨_, _, hv⟩ := redeemAttestation_ok hok
    obtain ⟨_, hold⟩ := hverify _ _ _ hv
    have hlate : secs r.readings.check ≤ secs r.now + lag := ht.2.2
    show secs r.readings.check ≤ r.attestation.timestamp + 3600 + lag
    omega
  case hset =>
    intro s i ht h _
    obtain ⟨r, c, rfl, rfl, hok⟩ := redeems_cases h
    obtain ⟨hs, hfresh, hv⟩ := redeemAttestation_ok hok
    obtain ⟨hyoung, _⟩ := hverify _ _ _ hv
    obtain ⟨hcp, hpc, _⟩ := ht.1.secs
    have hnow : secs r.now ≤ secs r.readings.check := ht.2.1
    show ShardGuarded (redeemAttestation C r s).2 _ _
    rw [hs]
    refine guarded_mono ?_ (nonceDoCheckAndSet_sets hfresh)
    show r.attestation.timestamp + 3600 + lag ≤ secs r.readings.create + 7200
    omega
  case hkeep =>
    intro s i ht hg hle
    exact apply_shardGuarded ht hg hle
  case hdeny =>
    intro s i ht hg hle
    refine Bool.eq_false_iff.mpr fun h => ?_
    obtain ⟨r, c, rfl, rfl, hok⟩ := redeems_cases h
    exact nonceDoCheckAndSet_refused hg hle (redeemAttestation_ok hok).2.1

end

/-! ## A replay -/

/-- Stands in for the Ed25519 library: one key, a signature is valid if it repeats the key. -/
def echoCrypto : AttestationCrypto (List UInt8) where
  fromBytes bytes := if bytes.length = 32 then some bytes else none
  verifyWithTimestamp a vk now :=
    if a.signature = vk ∧ a.timestamp ≤ now + 60 ∧ now ≤ a.timestamp + 3600 then .ok () else .error "invalid"

def replayAttestation : DobAttestation :=
  ⟨"did:provii:issuer", 7000, 1000, Vector.replicate 32 7, List.replicate 32 9⟩

def replayRequest (ms : UInt64) : BlindRequest where
  attestation := replayAttestation
  ingress := .ok ()
  admission := .ok ()
  config := .ok ⟨"did:provii:issuer", "provii.app", "v1", none⟩
  lookup _ _ := .ok (some ⟨"Issuer", List.replicate 32 9, 0, 0, true⟩)
  now := ms
  readings := .at ms
  faults := .none
  purgeFaults := .none

def replayRun : List NonceStep :=
  [.blindIssuance (replayRequest 940000),
   .alarm (nonceShard (attestNonce replayAttestation.nonceHex)) .none 4600000 4600000,
   .blindIssuance (replayRequest 4600000)]

theorem replay_redeemed_at_most_once :
    hits (NonceStep.apply echoCrypto) (redeems echoCrypto replayAttestation) (fun _ => .empty) replayRun = 1 ∧
      hits (NonceStep.apply echoCrypto) (redeems echoCrypto replayAttestation) (fun _ => .empty) replayRun ≤ 1 := by
  refine ⟨by decide +kernel, ?_⟩
  refine attestation_redeemed_at_most_once 60 1 (by decide) (by decide) ?_ _ _ _ 0 (by decide) (by decide)
  intro a vk now h
  simp only [echoCrypto] at h
  split at h
  · rename_i hv
    exact hv.2
  · cases h

end Issuer
