import Issuer.Attestation
import Issuer.BlindIssuanceSound
import Issuer.SandboxCredSound

/-!
# A signed request is accepted once

A client's request is accepted within 30 seconds of its timestamp and its nonce is kept for 300
seconds. The canonical message determines what the client signed.
-/

namespace Issuer

open Rust Store Runs

/-! ## The canonical message -/

theorem canonicalMessage_injective {method path : String} {t t' : Nat} {d d' : Int} {a a' : Authorizer}
    (h : createCanonicalMessageForAttestation method path t d a = createCanonicalMessageForAttestation method path t' d' a') :
    t = t' ∧ d = d' ∧ a.format = a'.format ∧ a.keyId = a'.keyId ∧ a.timestamp = a'.timestamp ∧ a.nonce = a'.nonce := by
  unfold createCanonicalMessageForAttestation at h
  simp only [String.append_assoc] at h
  obtain ⟨ht, h⟩ := append_sep_inj (toString_nat_decimal t) (toString_nat_decimal t') (by decide) h
  simp only [String.append_right_inj] at h
  obtain ⟨hd, h⟩ := append_sep_inj (toString_int_decimal d) (toString_int_decimal d') (by decide) h
  obtain ⟨hformat, h⟩ := Json.quote_append_inj h
  obtain ⟨hkey, h⟩ := Json.quote_append_inj ((String.append_right_inj _).mp h)
  rw [String.append_right_inj] at h
  obtain ⟨hstamp, h⟩ := append_sep_inj (toString_nat_decimal _) (toString_nat_decimal _) (by decide) h
  exact ⟨toString_injective ht, toString_int_injective hd, hformat, hkey, toString_injective hstamp,
    (String.append_right_inj _).mp h⟩

/-- Two canonical messages for one method and path are equal exactly where everything they carry is, whatever
characters the strings hold. -/
theorem canonicalMessage_eq_iff (method path : String) (t t' : Nat) (d d' : Int) (a a' : Authorizer) :
    createCanonicalMessageForAttestation method path t d a = createCanonicalMessageForAttestation method path t' d' a' ↔
      t = t' ∧ d = d' ∧ a.format = a'.format ∧ a.keyId = a'.keyId ∧ a.timestamp = a'.timestamp ∧ a.nonce = a'.nonce := by
  constructor
  · exact canonicalMessage_injective
  · rintro ⟨rfl, rfl, hformat, hkey, hstamp, hnonce⟩
    simp only [createCanonicalMessageForAttestation, hformat, hkey, hstamp, hnonce]

/-! ## What an accepted request has passed -/

section
variable {C : ClientCrypto}

theorem authenticateClient_nonces (call : ClientCall) (w : ClientWorld) :
    (authenticateClient C call w).2.nonces = w.nonces ∨ (authenticateClient C call w).2.nonces =
      (validateAndConsumeNonce call.faults call.purgeFaults call.readings call.authorizer.nonce w.nonces).2 := by
  unfold authenticateClient
  split
  · exact .inl rfl
  split
  · rename_i hnonce
    exact .inr (by rw [hnonce])
  · rename_i hnonce
    exact .inr (by rw [hnonce])
  · rename_i hnonce
    refine .inr ?_
    rw [hnonce]
    split
    · rfl
    split <;> rfl

/-- An authenticated client used a fresh nonce, and its tag is the HMAC of the message under its current or
its previous secret. -/
theorem authenticateClient_ok {call : ClientCall} {w : ClientWorld} {client : ClientRegistration}
    (h : (authenticateClient C call w).1 = .ok client) :
    (authenticateClient C call w).2.nonces =
        (validateAndConsumeNonce call.faults call.purgeFaults call.readings call.authorizer.nonce w.nonces).2 ∧
      (validateAndConsumeNonce call.faults call.purgeFaults call.readings call.authorizer.nonce w.nonces).1 = .ok true ∧
      checkClient C call w.clients = .ok client := by
  unfold authenticateClient at h ⊢
  split at h
  · cases h
  rename_i hchallenge
  rw [if_neg hchallenge]
  split at h
  · cases h
  · cases h
  · rename_i hnonce
    split at h
    · cases h
    · rename_i client' hcheck
      rw [hnonce, hcheck]
      simp only
      split at h
      · cases h
      · cases h
        exact ⟨rfl, trivial, rfl⟩

theorem checkClient_signed {call : ClientCall} {kv : ClientKv} {client : ClientRegistration}
    (h : checkClient C call kv = .ok client) :
    ∃ secret tag, (secret = client.hmacSecret ∨ client.previousHmacSecret = some secret) ∧
      hexDecode call.authorizer.hmac = some tag ∧ C.hmacSha256 secret (bytesOf call.canonicalMessage) = tag := by
  unfold checkClient at h
  split at h
  · cases h
  · cases h
  split at h
  · cases h
  rename_i tag htag
  split at h
  · rename_i hvalid
    cases h
    unfold ClientRegistration.hmacValid at hvalid
    rcases Bool.or_eq_true_iff.mp hvalid with hcur | hprev
    · exact ⟨_, tag, .inl rfl, htag, beq_iff_eq.mp hcur⟩
    · obtain ⟨prev, hp, heq⟩ := (Option.any_eq_true _ _).mp hprev
      exact ⟨prev, tag, .inr hp, htag, beq_iff_eq.mp heq⟩
  · cases h

theorem authorizeAttestation_nonces (call : CreateCall) (w : ClientWorld) :
    (authorizeAttestation C call w).2.nonces = w.nonces ∨ (authorizeAttestation C call w).2.nonces =
      (validateAndConsumeNonce call.client.faults call.client.purgeFaults call.client.readings
        call.request.authorizer.nonce w.nonces).2 := by
  unfold authorizeAttestation
  split
  · exact .inl rfl
  split
  · exact .inl rfl
  split
  · exact .inl rfl
  split
  · exact .inl rfl
  split
  · have hofficer : (authenticateYubikey call w.nonces).2 = w.nonces ∨ (authenticateYubikey call w.nonces).2 =
        (validateAndConsumeNonce call.client.faults call.client.purgeFaults call.client.readings
          call.request.authorizer.nonce w.nonces).2 := by
      unfold authenticateYubikey
      split
      · exact .inl rfl
      split
      · exact .inl rfl
      split <;> exact .inr (by simp only [*])
    split
    · rename_i hauth
      simpa only [hauth] using hofficer
    · rename_i hauth
      simpa only [hauth] using hofficer
  split
  · have hclient := authenticateClient_nonces (C := C) call.clientCall w
    split
    · rename_i hauth
      rw [hauth] at hclient
      exact hclient
    · rename_i hauth
      rw [hauth] at hclient
      exact hclient
  · exact .inl rfl

theorem authorizeAttestation_client {call : CreateCall} {w : ClientWorld} {actor : String}
    (hformat : call.request.authorizer.format = "client") (h : (authorizeAttestation C call w).1 = .ok actor) :
    validateTimestamp call.now call.request.authorizer.timestamp = true ∧
      ∃ client, client.clientId = actor ∧ (authenticateClient C call.clientCall w).1 = .ok client ∧
        (authorizeAttestation C call w).2 = (authenticateClient C call.clientCall w).2 := by
  have hnot : ¬call.request.authorizer.format = "yubikey" := by
    rw [hformat]
    decide
  unfold authorizeAttestation at h ⊢
  split at h
  · cases h
  split at h
  · cases h
  rename_i hrange
  split at h
  · cases h
  rename_i hdate
  split at h
  · cases h
  rename_i hstamp
  simp only [if_neg hrange, if_neg hdate, if_neg hstamp, if_neg hnot, if_pos hformat]
  refine ⟨by simpa using hstamp, ?_⟩
  split at h
  · rename_i client w' hauth
    cases h
    refine ⟨client, rfl, ?_⟩
    rw [hauth]
    exact ⟨rfl, rfl⟩
  · cases h

theorem validateTimestamp_window {now : UInt64} {timestamp : Nat} (h : validateTimestamp now timestamp = true) :
    secs now ≤ timestamp + 30 ∧ timestamp ≤ secs now + 30 := by
  have hdiff := of_decide_eq_true h
  unfold absDiff timestampWindowSeconds at hdiff
  omega

/-! ## Every run -/

theorem validateAndConsumeNonce_guarded {fl pfl : Faults} {r : NonceReadings} {nonce key : String} {s : NonceShards}
    {e : Nat} (hg : ShardGuarded s key e) (hc : secs r.check ≤ e) (hp : secs r.purge ≤ e) :
    ShardGuarded (validateAndConsumeNonce fl pfl r nonce s).2 key e := by
  unfold validateAndConsumeNonce
  split
  · exact hg
  · exact nonceDoCheckAndSet_guarded hg hc hp

theorem validateAndConsumeNonce_ok {fl pfl : Faults} {r : NonceReadings} {nonce : String} {s : NonceShards}
    (h : (validateAndConsumeNonce fl pfl r nonce s).1 = .ok true) :
    validateAndConsumeNonce fl pfl r nonce s = nonceDoCheckAndSet fl pfl r nonce nonceTtlSeconds s := by
  unfold validateAndConsumeNonce at h ⊢
  split at h
  · cases h
  · rfl

theorem AttestStep.apply_guarded {lag : Nat} {w : ClientWorld} {i : AttestStep} {nonce : String} {e : Nat}
    (ht : i.Timely lag) (hg : ShardGuarded w.nonces nonce e) (hle : i.stop ≤ e) :
    ShardGuarded (i.apply C w).nonces nonce e := by
  cases i with
  | create call =>
    obtain ⟨hcp, hpc, hca⟩ := ht.1.secs
    have hstop : secs call.client.readings.arm ≤ e := hle
    simp only [AttestStep.apply]
    rcases authorizeAttestation_nonces (C := C) call w with h | h
    · rw [h]
      exact hg
    · rw [h]
      exact validateAndConsumeNonce_guarded hg (by omega) (by omega)
  | consume fl pfl r n ttl =>
    obtain ⟨hcp, hpc, hca⟩ := NonceReadings.Ordered.secs ht
    have hstop : secs r.arm ≤ e := hle
    exact nonceDoCheckAndSet_guarded hg (by omega) (by omega)
  | alarm i fl now arm =>
    have hstop : secs arm ≤ e := hle
    have hnow : secs now ≤ secs arm := secs_mono ht
    exact update_shardGuarded hg fun key hk => onAlarm_guarded hk (by omega)
  | purge i fl now =>
    have hstop : secs now ≤ e := hle
    simp only [AttestStep.apply]
    split
    · rename_i m hm
      refine update_shardGuarded hg fun key hk => ?_
      rw [purgeExpiredNonces_ok hm]
      exact sweepNonces_guarded hk hstop
    · exact hg
  | clients kv now => exact hg

theorem AttestStep.accepts_cases {request : CreateAttestationRequest} {w : ClientWorld} {i : AttestStep}
    (h : i.accepts C request w = true) :
    ∃ call actor, i = .create call ∧ call.request = request ∧ (authorizeAttestation C call w).1 = .ok actor := by
  cases i with
  | create call =>
    simp only [AttestStep.accepts, Bool.and_eq_true, decide_eq_true_eq] at h
    cases hr : (authorizeAttestation C call w).1 with
    | error e => rw [hr] at h; cases h.2
    | ok actor => exact ⟨call, actor, rfl, h.1, hr⟩
  | consume | alarm | purge | clients => cases h

theorem accepted_nonce {call : CreateCall} {w : ClientWorld} {actor : String}
    (hformat : call.request.authorizer.format = "client") (h : (authorizeAttestation C call w).1 = .ok actor) :
    (secs call.now ≤ call.request.authorizer.timestamp + 30 ∧ call.request.authorizer.timestamp ≤ secs call.now + 30) ∧
      (authorizeAttestation C call w).2.nonces = (nonceDoCheckAndSet call.client.faults call.client.purgeFaults
        call.client.readings call.request.authorizer.nonce nonceTtlSeconds w.nonces).2 ∧
      (nonceDoCheckAndSet call.client.faults call.client.purgeFaults call.client.readings call.request.authorizer.nonce
        nonceTtlSeconds w.nonces).1 = .ok true := by
  obtain ⟨hstamp, client, -, hauth, hw⟩ := authorizeAttestation_client hformat h
  obtain ⟨hnonces, hfresh, -⟩ := authenticateClient_ok hauth
  have heq := validateAndConsumeNonce_ok hfresh
  rw [hw, hnonces, heq]
  rw [heq] at hfresh
  exact ⟨validateTimestamp_window hstamp, rfl, hfresh⟩

theorem accepted_at_most_once (lag : Nat) (hlag : lag ≤ 240) (request : CreateAttestationRequest)
    (hformat : request.authorizer.format = "client") (steps : List AttestStep) (w : ClientWorld) (t : Nat)
    (hclock : Ordered AttestStep.start AttestStep.stop t steps) (htimely : ∀ i ∈ steps, i.Timely lag) :
    hits (AttestStep.apply C) (fun w i => i.accepts C request w) w steps ≤ 1 := by
  -- the nonce has to be kept while the timestamp is in the window, plus the lag
  let e := request.authorizer.timestamp + 30 + lag
  refine hits_le_one (G := fun w : ClientWorld => ShardGuarded w.nonces request.authorizer.nonce e) (e := e)
    ?hdue ?hset ?hkeep ?hdeny steps t w hclock (along_of_forall _ steps w htimely)
  case hdue =>
    intro w i ht h
    obtain ⟨call, actor, rfl, rfl, hok⟩ := AttestStep.accepts_cases h
    obtain ⟨⟨hold, -⟩, -⟩ := accepted_nonce hformat hok
    have hlate : secs call.client.readings.check ≤ secs call.now + lag := ht.2.2
    show secs call.client.readings.check ≤ call.request.authorizer.timestamp + 30 + lag
    omega
  case hset =>
    intro w i ht h _
    obtain ⟨call, actor, rfl, rfl, hok⟩ := AttestStep.accepts_cases h
    obtain ⟨⟨-, hyoung⟩, hnonces, hfresh⟩ := accepted_nonce hformat hok
    obtain ⟨hcp, hpc, -⟩ := ht.1.secs
    have hnow : secs call.now ≤ secs call.client.readings.check := ht.2.1
    simp only [AttestStep.apply, hnonces]
    refine guarded_mono ?_ (nonceDoCheckAndSet_sets hfresh)
    show call.request.authorizer.timestamp + 30 + lag ≤ secs call.client.readings.create + 300
    omega
  case hkeep =>
    intro w i ht hg hle
    exact AttestStep.apply_guarded ht hg hle
  case hdeny =>
    intro w i ht hg hle
    refine Bool.eq_false_iff.mpr fun h => ?_
    obtain ⟨call, actor, rfl, rfl, hok⟩ := AttestStep.accepts_cases h
    exact nonceDoCheckAndSet_refused hg hle (accepted_nonce hformat hok).2.2

/-- The request carries the HMAC of its canonical message under a secret of the client. -/
def Signed (C : ClientCrypto) (request : CreateAttestationRequest) (client : ClientRegistration) : Prop :=
  ∃ secret tag, (secret = client.hmacSecret ∨ client.previousHmacSecret = some secret) ∧
    hexDecode request.authorizer.hmac = some tag ∧ C.hmacSha256 secret (bytesOf request.canonicalMessage) = tag

theorem accepted_signed {call : CreateCall} {w : ClientWorld} {actor : String}
    (hformat : call.request.authorizer.format = "client") (h : (authorizeAttestation C call w).1 = .ok actor) :
    ∃ client, client.clientId = actor ∧ checkClient C call.clientCall w.clients = .ok client ∧
      Signed C call.request client := by
  obtain ⟨-, client, hactor, hauth, -⟩ := authorizeAttestation_client hformat h
  obtain ⟨-, -, hcheck⟩ := authenticateClient_ok hauth
  exact ⟨client, hactor, hcheck, checkClient_signed hcheck⟩

/-- **A signed request is accepted once.** Of all requests that carry the same authorizer and date of
birth at most one is accepted, and two accepted requests that differ in date of birth, key id,
timestamp or nonce are signed over different messages. -/
theorem signed_request_accepted_once (lag : Nat) (hlag : lag ≤ 240) :
    (∀ (request : CreateAttestationRequest) (steps : List AttestStep) (w : ClientWorld) (t : Nat),
      request.authorizer.format = "client" → Ordered AttestStep.start AttestStep.stop t steps →
      (∀ i ∈ steps, i.Timely lag) →
      hits (AttestStep.apply C) (fun w i => i.accepts C request w) w steps ≤ 1) ∧
    ∀ (call call' : CreateCall) (w w' : ClientWorld) (actor actor' : String),
      call.request.authorizer.format = "client" → call'.request.authorizer.format = "client" →
      (authorizeAttestation C call w).1 = .ok actor → (authorizeAttestation C call' w').1 = .ok actor' →
      (call.request.dobDays, call.request.authorizer.keyId, call.request.authorizer.timestamp,
          call.request.authorizer.nonce) ≠
        (call'.request.dobDays, call'.request.authorizer.keyId, call'.request.authorizer.timestamp,
          call'.request.authorizer.nonce) →
      (∃ client, client.clientId = actor ∧ Signed C call.request client) ∧
      (∃ client, client.clientId = actor' ∧ Signed C call'.request client) ∧
      bytesOf call.request.canonicalMessage ≠ bytesOf call'.request.canonicalMessage := by
  constructor
  · intro request steps w t hformat hclock htimely
    exact accepted_at_most_once lag hlag request hformat steps w t hclock htimely
  · intro call call' w w' actor actor' hformat hformat' h h' hne
    obtain ⟨client, hactor, -, hsigned⟩ := accepted_signed hformat h
    obtain ⟨client', hactor', -, hsigned'⟩ := accepted_signed hformat' h'
    refine ⟨⟨client, hactor, hsigned⟩, ⟨client', hactor', hsigned'⟩, fun hsame => hne ?_⟩
    obtain ⟨ht, hd, -, hkey, -, hnonce⟩ := canonicalMessage_injective (bytesOf_injective hsame)
    rw [hd, hkey, ht, hnonce]

end

/-! ## A replayed request -/

def sandboxRequest (digit : Char) : CreateAttestationRequest :=
  let unsigned : CreateAttestationRequest :=
    ⟨-9000, ⟨"client", sandboxMint.clientId, none, 1000, "", String.ofList (List.replicate 64 digit)⟩⟩
  { unsigned with authorizer := { unsigned.authorizer with
      hmac := hexEncode (sandboxCrypto.hmacSha256 (List.replicate 32 1) (bytesOf unsigned.canonicalMessage)) } }

def sandboxCreate (digit : Char) (t : UInt64) : CreateCall where
  request := sandboxRequest digit
  ingress := .ok ()
  today := t
  now := t
  client := sandboxCall t ""
  officerGate := .ok ()
  officer := .error internalError
  age := t
  quota := .ok ()
  configFails := false
  signingKeys _ _ := .ok none
  kek := .ok sandboxKek
  signed := t
  nonce := none

/-- The nonce object cleans up between the request and its replay at the end of the window. -/
def replayedRun : List AttestStep :=
  [.create (sandboxCreate '0' 970000), .alarm (nonceShard (String.ofList (List.replicate 64 '0'))) .none 1030000 1030000,
   .create (sandboxCreate '0' 1030000), .create (sandboxCreate 'a' 1030000)]

theorem replayed_request_accepted_once :
    hits (AttestStep.apply sandboxCrypto) (fun w i => i.accepts sandboxCrypto (sandboxRequest '0') w) minted replayedRun = 1 ∧
    hits (AttestStep.apply sandboxCrypto) (fun w i => i.accepts sandboxCrypto (sandboxRequest '0') w) minted replayedRun ≤ 1 ∧
    bytesOf (sandboxRequest '0').canonicalMessage ≠ bytesOf (sandboxRequest 'a').canonicalMessage := by
  have h := signed_request_accepted_once (C := sandboxCrypto) 240 (by decide)
  refine ⟨by decide +kernel, ?_, ?_⟩
  · exact h.1 (sandboxRequest '0') replayedRun minted 0 (by decide +kernel) (by decide +kernel) (by decide +kernel)
  · exact (h.2 (sandboxCreate '0' 970000) (sandboxCreate 'a' 1030000) minted minted sandboxMint.clientId
      sandboxMint.clientId (by decide +kernel) (by decide +kernel) (by decide +kernel) (by decide +kernel)
      (by decide +kernel)).2.2

end Issuer
