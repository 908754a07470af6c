import Issuer.Attestation
import Issuer.BlindIssuanceSound
import Issuer.Lib.Except

/-!
# Attestations survive one key rotation

Attestations are signed under `default_kid` and verified under `default_kid` and `previous_kid`. A
rotation moves the one to the other, so the key of an attestation stays among the candidates until
the second rotation after it.
-/

namespace Issuer

open Rust Runs

/-! ## The attestation service -/

structure AttestationWorld where
  config : IssuerConfig
  locks : ResourceShards
  clients : ClientWorld

inductive AttestationEvent where
  | create (call : CreateCall)
  | rotate (r : AttestationRotation)
  | blind (r : BlindRequest)

section
variable {VerifyingKey : Type} (C : ClientCrypto) (L : AttestationLib VerifyingKey)

namespace AttestationEvent

def apply (w : AttestationWorld) : AttestationEvent → AttestationWorld
  | .create call => { w with clients := (createAttestation C L call w.clients w.config).2 }
  | .rotate r =>
    let rotated := rotateAttestationKey r w.locks w.config
    { w with locks := rotated.2.1, config := rotated.2.2 }
  | .blind r =>
    { w with clients := { w.clients with
        nonces := (redeemAttestation L.toAttestationCrypto { r with config := .ok w.config } w.clients.nonces).2 } }

def rotates (w : AttestationWorld) : AttestationEvent → Bool
  | .rotate r => (rotateAttestationKey r w.locks w.config).1.isOk
  | _ => false

end AttestationEvent

/-- What the code relies on: a created attestation has the values it was created with, and verifies under
its key for an hour. -/
structure AttestationLib.Lawful (L : AttestationLib VerifyingKey) : Prop where
  issuerId : ∀ dobDays issuerId now nonce seed a, L.create dobDays issuerId now nonce seed = .ok a → a.issuerId = issuerId
  verify : ∀ dobDays issuerId created nonce seed a now, L.create dobDays issuerId created nonce seed = .ok a →
    created ≤ now → now ≤ created + attestationMaxAgeSeconds →
    L.verifyWithTimestamp a (L.verifyingKey seed) now = .ok ()

def KidsValid (config : IssuerConfig) : Prop :=
  validateIdentifier config.defaultKid "kid" = .ok () ∧
    ∀ prev, config.previousKid = some prev → validateIdentifier prev "kid" = .ok ()

instance decidableKidsValid (config : IssuerConfig) : Decidable (KidsValid config) :=
  match h : config.previousKid with
  | none => decidable_of_iff (validateIdentifier config.defaultKid "kid" = .ok ())
      ⟨fun hd => ⟨hd, fun _ hp => by rw [h] at hp; cases hp⟩, And.left⟩
  | some prev => decidable_of_iff
      (validateIdentifier config.defaultKid "kid" = .ok () ∧ validateIdentifier prev "kid" = .ok ())
      ⟨fun hd => ⟨hd.1, fun _ hp => by rw [h] at hp; cases hp; exact hd.2⟩, fun hv => ⟨hv.1, hv.2 prev h⟩⟩

/-! ## What a rotation does -/

variable {C L}

theorem validateIdentifier_context {id c c' : String} (h : validateIdentifier id c = .ok ()) :
    validateIdentifier id c' = .ok () := by
  unfold validateIdentifier at h ⊢
  split at h
  · cases h
  split at h
  · cases h
  split at h
  · cases h
  · rename_i h₁ h₂ h₃
    rw [if_neg h₁, if_neg h₂, if_neg h₃]

theorem rotateAttestationKey_cases (r : AttestationRotation) (locks : ResourceShards) (config : IssuerConfig) :
    ((rotateAttestationKey r locks config).1.isOk = false ∧ (rotateAttestationKey r locks config).2.2 = config) ∨
      ((rotateAttestationKey r locks config).1.isOk = true ∧ config.defaultKid ≠ r.newKid ∧
        validateIdentifier r.newKid "kid" = .ok () ∧ (rotateAttestationKey r locks config).2.2 =
          { config with previousKid := some config.defaultKid, defaultKid := r.newKid }) := by
  have hinner : ((rotateAttestationKeyInner r config).1.isOk = false ∧ (rotateAttestationKeyInner r config).2 = config) ∨
      ((rotateAttestationKeyInner r config).1.isOk = true ∧ config.defaultKid ≠ r.newKid ∧
        (rotateAttestationKeyInner r config).2 =
          { config with previousKid := some config.defaultKid, defaultKid := r.newKid }) := by
    unfold rotateAttestationKeyInner
    split
    · exact .inl ⟨rfl, rfl⟩
    split
    · exact .inl ⟨rfl, rfl⟩
    rename_i hne
    split
    · exact .inl ⟨rfl, rfl⟩
    · exact .inl ⟨rfl, rfl⟩
    split
    · exact .inl ⟨rfl, rfl⟩
    · exact .inl ⟨rfl, rfl⟩
    split
    · exact .inl ⟨rfl, rfl⟩
    · exact .inr ⟨rfl, hne, rfl⟩
  unfold rotateAttestationKey
  split
  · exact .inl ⟨rfl, rfl⟩
  · exact .inl ⟨rfl, rfl⟩
  rename_i hkid
  split
  · exact .inl ⟨rfl, rfl⟩
  · rcases hinner with h | ⟨hok, hne, hconfig⟩
    · exact .inl h
    · exact .inr ⟨hok, hne, validateIdentifier_context hkid, hconfig⟩

namespace AttestationEvent

theorem apply_config (w : AttestationWorld) (i : AttestationEvent) :
    (i.rotates w = false ∧ (i.apply C L w).config = w.config) ∨
      (i.rotates w = true ∧ ∃ kid, w.config.defaultKid ≠ kid ∧ validateIdentifier kid "kid" = .ok () ∧
        (i.apply C L w).config = { w.config with previousKid := some w.config.defaultKid, defaultKid := kid }) := by
  cases i with
  | create call => exact .inl ⟨rfl, rfl⟩
  | blind r => exact .inl ⟨rfl, rfl⟩
  | rotate r =>
    rcases rotateAttestationKey_cases r w.locks w.config with h | ⟨hok, hne, hkid, hconfig⟩
    · exact .inl h
    · exact .inr ⟨hok, r.newKid, hne, hkid, hconfig⟩

end AttestationEvent

theorem kidsValid_step (w : AttestationWorld) (i : AttestationEvent) (h : KidsValid w.config) :
    KidsValid (i.apply C L w).config := by
  rcases AttestationEvent.apply_config (C := C) (L := L) w i with ⟨-, hsame⟩ | ⟨-, kid, -, hkid, hconfig⟩
  · rw [hsame]
    exact h
  · rw [hconfig]
    refine ⟨hkid, fun prev hprev => ?_⟩
    cases hprev
    exact h.1

/-! ## Every run -/

abbrev rotations (C : ClientCrypto) (L : AttestationLib VerifyingKey) : AttestationWorld → List AttestationEvent → Nat :=
  hits (AttestationEvent.apply C L) fun w i => i.rotates w

abbrev after (C : ClientCrypto) (L : AttestationLib VerifyingKey) : AttestationWorld → List AttestationEvent → AttestationWorld :=
  exec (AttestationEvent.apply C L)

theorem kidsValid_run (w : AttestationWorld) (events : List AttestationEvent) (h : KidsValid w.config) :
    KidsValid (after C L w events).config :=
  exec_preserves (AttestationEvent.apply C L) (I := fun v => KidsValid v.config) kidsValid_step events w h

theorem config_of_no_rotation : ∀ (events : List AttestationEvent) (w : AttestationWorld),
    rotations C L w events = 0 → (after C L w events).config = w.config
  | [], _, _ => rfl
  | i :: events, w, h => by
    rcases AttestationEvent.apply_config (C := C) (L := L) w i with ⟨hi, hsame⟩ | ⟨hi, -⟩
    · have hrest : rotations C L (i.apply C L w) events = 0 := by simpa [rotations, hits, hi] using h
      exact (config_of_no_rotation events _ hrest).trans hsame
    · simp [rotations, hits, hi] at h

theorem issuerId_run (w : AttestationWorld) (events : List AttestationEvent) :
    (after C L w events).config.issuerId = w.config.issuerId := by
  refine exec_preserves (AttestationEvent.apply C L) (I := fun v => v.config.issuerId = w.config.issuerId) ?_ events w rfl
  intro v i hv
  rcases AttestationEvent.apply_config (C := C) (L := L) v i with ⟨-, hsame⟩ | ⟨-, kid, -, -, hconfig⟩
  · rw [hsame, hv]
  · rw [hconfig]
    exact hv

/-- Up to one rotation later the default kid of before is still a candidate. -/
theorem defaultKid_candidate : ∀ (events : List AttestationEvent) (w : AttestationWorld), rotations C L w events ≤ 1 →
    ∃ slot, (slot, w.config.defaultKid) ∈ trialVerifyCandidateSlots (after C L w events).config
  | [], w, _ => ⟨"default_kid", by simp [trialVerifyCandidateSlots]⟩
  | i :: events, w, h => by
    rcases AttestationEvent.apply_config (C := C) (L := L) w i with ⟨hi, hsame⟩ | ⟨hi, kid, -, -, hconfig⟩
    · have hrest : rotations C L (i.apply C L w) events ≤ 1 := by simpa [rotations, hits, hi] using h
      obtain ⟨slot, hslot⟩ := defaultKid_candidate events _ hrest
      rw [hsame] at hslot
      exact ⟨slot, hslot⟩
    · have hrest : rotations C L (i.apply C L w) events = 0 := by simpa [rotations, hits, hi] using h
      refine ⟨"previous_kid", ?_⟩
      rw [after, exec_cons, config_of_no_rotation events _ hrest, hconfig]
      simp [trialVerifyCandidateSlots]

theorem kids_apart_run : ∀ (events : List AttestationEvent) (w : AttestationWorld),
    (∀ prev, w.config.previousKid = some prev → prev ≠ w.config.defaultKid) ∨ 1 ≤ rotations C L w events →
      ∀ prev, (after C L w events).config.previousKid = some prev → prev ≠ (after C L w events).config.defaultKid
  | [], _, h => h.resolve_right (by simp [rotations, hits])
  | i :: events, w, h => by
    refine kids_apart_run events (i.apply C L w) ?_
    rcases AttestationEvent.apply_config (C := C) (L := L) w i with ⟨hi, hsame⟩ | ⟨hi, kid, hne, -, hconfig⟩
    · rw [hsame]
      exact h.imp id fun hr => by simpa [rotations, hits, hi] using hr
    · refine .inl fun prev hprev => ?_
      rw [hconfig] at hprev ⊢
      cases hprev
      exact hne

/-! ## The candidates of a redemption -/

theorem collectCandidates_ok (A : AttestationCrypto VerifyingKey)
    (lookup : String → Except ApiError (Option IssuerEd25519Key)) (now : Nat) :
    ∀ (slots : List (String × String)) (candidates : List (Candidate VerifyingKey)) (last : Option (String × String)),
    (∀ p ∈ slots, ∃ found, lookup p.2 = .ok found) →
    ∃ all last', collectCandidates A lookup now slots candidates last = .ok (all, last') ∧ (∀ c ∈ candidates, c ∈ all) ∧
      ∀ p ∈ slots, ∀ record vk, lookup p.2 = .ok (some record) → isEligible A record now = .ok vk → ∃ c ∈ all, c.vk = vk
  | [], candidates, last, _ => ⟨candidates, last, rfl, fun _ hc => hc, fun _ hp => absurd hp List.not_mem_nil⟩
  | (slot, kid) :: slots, candidates, last, h => by
    obtain ⟨found, hfound⟩ := h (slot, kid) (by simp)
    have hrest : ∀ p ∈ slots, ∃ found, lookup p.2 = .ok found := fun p hp => h p (List.mem_cons_of_mem _ hp)
    have hkid : lookup kid = .ok found := hfound
    cases found with
    | none =>
      obtain ⟨all, last', hall, hkeep, hin⟩ := collectCandidates_ok A lookup now slots candidates (some (slot, "key_record_missing")) hrest
      refine ⟨all, last', by simp only [collectCandidates, hkid, hall], hkeep, fun p hp record vk hread hvk => ?_⟩
      rcases List.mem_cons.mp hp with rfl | hp
      · rw [hfound] at hread
        cases hread
      · exact hin p hp record vk hread hvk
    | some record =>
      cases helig : isEligible A record now with
      | error reject =>
        obtain ⟨all, last', hall, hkeep, hin⟩ := collectCandidates_ok A lookup now slots candidates (some (slot, reject.reason)) hrest
        refine ⟨all, last', by simp only [collectCandidates, hkid, helig, hall], hkeep, fun p hp record' vk hread hvk => ?_⟩
        rcases List.mem_cons.mp hp with rfl | hp
        · rw [hfound] at hread
          cases hread
          rw [helig] at hvk
          cases hvk
        · exact hin p hp record' vk hread hvk
      | ok vk =>
        obtain ⟨all, last', hall, hkeep, hin⟩ :=
          collectCandidates_ok A lookup now slots (candidates ++ [⟨slot, kid, vk, record.issuerName⟩]) last hrest
        refine ⟨all, last', by simp only [collectCandidates, hkid, helig, hall],
          fun c hc => hkeep c (List.mem_append_left _ hc), fun p hp record' vk' hread hvk => ?_⟩
        rcases List.mem_cons.mp hp with rfl | hp
        · rw [hfound] at hread
          cases hread
          rw [helig] at hvk
          cases hvk
          exact ⟨_, hkeep _ (List.mem_append_right _ (List.mem_singleton_self _)), rfl⟩
        · exact hin p hp record' vk' hread hvk

theorem trialVerify_of_mem {A : AttestationCrypto VerifyingKey} {attestation : DobAttestation} {now : Nat} :
    ∀ (candidates : List (Candidate VerifyingKey)) (lastError : String) (c : Candidate VerifyingKey), c ∈ candidates →
    A.verifyWithTimestamp attestation c.vk now = .ok () → ∃ c', trialVerify A attestation now candidates lastError = .ok c'
  | d :: candidates, lastError, c, hc, hv => by
    cases hd : A.verifyWithTimestamp attestation d.vk now with
    | ok u => exact ⟨d, by simp only [trialVerify, hd]⟩
    | error e =>
      rcases List.mem_cons.mp hc with rfl | hc
      · rw [hd] at hv
        cases hv
      · obtain ⟨c', hc'⟩ := trialVerify_of_mem candidates e c hc hv
        exact ⟨c', by simp only [trialVerify, hd, hc']⟩

/-! ## The key of an attestation -/

theorem getIssuerEd25519SigningKey_ok {read : String → String → Except ApiError (Option IssuerEd25519SigningKey)}
    {issuerId kid : String} {record : IssuerEd25519SigningKey}
    (h : getIssuerEd25519SigningKey read issuerId kid = .ok (some record)) :
    validateIdentifier issuerId "issuer_id" = .ok () ∧ validateIdentifier kid "kid" = .ok () ∧
      read issuerId kid = .ok (some record) := by
  simp only [getIssuerEd25519SigningKey, Except.bind_eq_ok] at h
  obtain ⟨_, hissuer, _, hkid, found, hfound, h⟩ := h
  refine ⟨hissuer, hkid, ?_⟩
  split at h
  · cases h
  · simp only [Except.throw_bind, Except.check_eq_ok, Except.pure_eq_ok] at h
    rw [hfound, h.2]

theorem signAttestation_ok {call : CreateCall} {config : IssuerConfig} {response : CreateAttestationResponse}
    (h : signAttestation C L call config = .ok response) :
    ∃ record kekPair seed nonce,
      getIssuerEd25519SigningKey call.signingKeys config.issuerId config.defaultKid = .ok (some record) ∧
      call.kek = .ok kekPair ∧ decryptWithKekFallback C.gcm kekPair record.signingKey ed25519KeyAad = .ok seed ∧
      L.create call.request.dobDays config.issuerId (secs call.signed) nonce seed = .ok response.attestation ∧
      response.expiresAt = secs call.signed + attestationMaxAgeSeconds := by
  simp only [signAttestation, Except.check_eq_ok, Except.bind_eq_ok, Except.mapError_eq_ok, Except.throw_bind] at h
  obtain ⟨-, found, hfound, h⟩ := h
  split at h
  · rename_i record
    simp only [Except.check_eq_ok, Except.bind_eq_ok, Except.mapError_eq_ok] at h
    obtain ⟨-, kekPair, hkek, seed, hseed, -, h⟩ := h
    split at h
    · rename_i nonce _
      simp only [Except.bind_eq_ok, Except.mapError_eq_ok, Except.pure_eq_ok] at h
      obtain ⟨attestation, hcreate, rfl⟩ := h
      exact ⟨record, kekPair, seed, nonce, hfound, hkek, hseed, hcreate, satAddU64_secs call.signed (by decide)⟩
    · cases h
  · cases h

theorem createAttestation_ok {call : CreateCall} {clients : ClientWorld} {config : IssuerConfig}
    {response : CreateAttestationResponse} (h : (createAttestation C L call clients config).1 = .ok response) :
    signAttestation C L call config = .ok response := by
  unfold createAttestation at h
  split at h
  · cases h
  split at h
  · cases h
  split at h
  · cases h
  · exact h

theorem getIssuerEd25519Key_eq {read : String → String → Except ApiError (Option IssuerEd25519Key)} {issuerId kid : String}
    (hissuer : validateIdentifier issuerId "issuer_id" = .ok ()) (hkid : validateIdentifier kid "kid" = .ok ()) :
    getIssuerEd25519Key read issuerId kid = read issuerId kid := by
  simp [getIssuerEd25519Key, hissuer, hkid, bind, Except.bind]

theorem slots_valid {config : IssuerConfig} (h : KidsValid config) :
    ∀ p ∈ trialVerifyCandidateSlots config, validateIdentifier p.2 "kid" = .ok () := by
  intro p hp
  unfold trialVerifyCandidateSlots at hp
  rcases List.mem_cons.mp hp with rfl | hp
  · exact h.1
  · split at hp
    · rename_i prev hprev
      cases List.mem_singleton.mp hp
      exact h.2 prev hprev
    · cases hp

/-- The verifying record that `r` reads for `kid` is active, within its validity, and matches the signing
record that `call` read. -/
def Matches (C : ClientCrypto) (L : AttestationLib VerifyingKey) (call : CreateCall) (r : BlindRequest)
    (issuerId kid : String) : Prop :=
  ∀ record kekPair seed, call.signingKeys issuerId kid = .ok (some record) → call.kek = .ok kekPair →
    decryptWithKekFallback C.gcm kekPair record.signingKey ed25519KeyAad = .ok seed →
    ∃ key, r.lookup issuerId kid = .ok (some key) ∧ key.active = true ∧ key.validFrom ≤ secs r.now ∧
      (key.validUntil = 0 ∨ secs r.now ≤ key.validUntil) ∧ L.fromBytes key.verifyingKey = some (L.verifyingKey seed)

theorem isEligible_ok {A : AttestationCrypto VerifyingKey} {record : IssuerEd25519Key} {now : Nat} {vk : VerifyingKey}
    (hactive : record.active = true) (hfrom : record.validFrom ≤ now) (huntil : record.validUntil = 0 ∨ now ≤ record.validUntil)
    (hvk : A.fromBytes record.verifyingKey = some vk) : isEligible A record now = .ok vk := by
  have hbefore : ¬now < record.validFrom := by omega
  have hafter : ¬(record.validUntil ≠ 0 ∧ now > record.validUntil) := by omega
  simp only [isEligible, hactive, hbefore, hafter, hvk, Bool.not_true, Bool.false_eq_true, if_false]

/-- **An attestation survives one rotation.** It passes the trial verification up to its expiry where at
most one rotation succeeded since it was created; and after a rotation the two kids differ. -/
theorem attestation_survives_rotation (hL : L.Lawful) (w : AttestationWorld) (hkids : KidsValid w.config) :
    (∀ (before between : List AttestationEvent) (call : CreateCall) (response : CreateAttestationResponse)
        (r : BlindRequest),
      (createAttestation C L call (after C L w before).clients (after C L w before).config).1 = .ok response →
      rotations C L (after C L w (before ++ [.create call])) between ≤ 1 →
      r.attestation = response.attestation →
      (∀ issuerId kid, ∃ found, r.lookup issuerId kid = .ok found) →
      (∀ kid, Matches C L call r w.config.issuerId kid) →
      secs call.signed ≤ secs r.now → secs r.now ≤ response.expiresAt →
      ∃ candidates last c,
        collectCandidates L.toAttestationCrypto (getIssuerEd25519Key r.lookup r.attestation.issuerId) (secs r.now)
          (trialVerifyCandidateSlots (after C L w (before ++ .create call :: between)).config) [] none =
            .ok (candidates, last) ∧
        trialVerify L.toAttestationCrypto r.attestation (secs r.now) candidates "no_candidates" = .ok c) ∧
    ∀ events, 1 ≤ rotations C L w events → ∀ prev, (after C L w events).config.previousKid = some prev →
      prev ≠ (after C L w events).config.defaultKid := by
  refine ⟨?_, fun events h => kids_apart_run events w (.inr h)⟩
  intro before between call response r hcreate hrot hatt hreads hmatch hfrom huntil
  obtain ⟨record, kekPair, seed, nonce, hrecord, hkek, hseed, hsigned, hexpires⟩ :=
    signAttestation_ok (createAttestation_ok hcreate)
  obtain ⟨hissuer, hkid, hread⟩ := getIssuerEd25519SigningKey_ok hrecord
  have hsame : (after C L w (before ++ [.create call])).config = (after C L w before).config := by
    rw [after, exec_append]
    rfl
  have hend : after C L w (before ++ .create call :: between) = after C L (after C L w (before ++ [.create call])) between := by
    rw [after, ← exec_append, List.append_assoc, List.singleton_append]
  have hid : (after C L w before).config.issuerId = w.config.issuerId := issuerId_run w before
  rw [hid] at hissuer hread
  have hattId : r.attestation.issuerId = w.config.issuerId := by
    rw [hatt, hL.issuerId _ _ _ _ _ _ hsigned, hid]
  -- the key that signed is among the candidates, and every lookup is one of an identifier
  obtain ⟨slot, hslot⟩ := defaultKid_candidate (C := C) (L := L) between _ hrot
  rw [hsame, ← hend] at hslot
  have hvalid := slots_valid (kidsValid_run (C := C) (L := L) w (before ++ .create call :: between) hkids)
  obtain ⟨candidates, last, hcollect, -, hin⟩ := collectCandidates_ok L.toAttestationCrypto
    (getIssuerEd25519Key r.lookup r.attestation.issuerId) (secs r.now)
    (trialVerifyCandidateSlots (after C L w (before ++ .create call :: between)).config) [] none fun p hp => by
      rw [hattId, getIssuerEd25519Key_eq hissuer (hvalid p hp)]
      exact hreads _ _
  obtain ⟨key, hkey, hactive, hvalidFrom, hvalidUntil, hvk⟩ := hmatch _ record kekPair seed hread hkek hseed
  have hlookup : getIssuerEd25519Key r.lookup r.attestation.issuerId (after C L w before).config.defaultKid = .ok (some key) := by
    rw [hattId, getIssuerEd25519Key_eq hissuer hkid, hkey]
  obtain ⟨c, hc, hcvk⟩ := hin (slot, (after C L w before).config.defaultKid) hslot key _ hlookup
    (isEligible_ok hactive hvalidFrom hvalidUntil hvk)
  have hverify : L.verifyWithTimestamp r.attestation c.vk (secs r.now) = .ok () := by
    rw [hcvk, hatt]
    exact hL.verify _ _ _ _ _ _ _ hsigned hfrom (by omega)
  obtain ⟨c', hc'⟩ := trialVerify_of_mem candidates "no_candidates" c hc hverify
  exact ⟨candidates, last, c', hcollect, hc'⟩

end

/-! ## A rotation between creation and redemption -/

/-- Stands in for the Ed25519 library: a key is its seed, and a signature repeats the key. -/
def echoLib : AttestationLib Bytes where
  toAttestationCrypto := echoCrypto
  verifyingKey seed := seed
  create dobDays issuerId now nonce seed := .ok ⟨issuerId, dobDays, now, nonce, seed⟩

theorem echoLib_lawful : echoLib.Lawful := by
  refine ⟨?_, ?_⟩
  · intro dobDays issuerId now nonce seed a h
    cases h
    rfl
  · intro dobDays issuerId created nonce seed a now h hfrom huntil
    cases h
    simp only [attestationMaxAgeSeconds] at huntil
    simp only [echoLib, echoCrypto]
    rw [if_pos ⟨trivial, by omega, by omega⟩]

def officerCrypto : ClientCrypto := ⟨clearGcm, fun key _ => key⟩

def officerKek : KekPair := ⟨List.replicate 32 7, none⟩

/-- An officer's request at 1000 seconds; the key of every kid is the seed of nines. -/
def officerCall : CreateCall where
  request := ⟨-9000, ⟨"yubikey", "officer", some "challenge", 1000, "", String.ofList (List.replicate 64 '0')⟩⟩
  ingress := .ok ()
  today := 1000000
  now := 1000000
  client := ⟨⟨"", "", none, 0, "", ""⟩, "", .at 1000000, .none, .none, .error internalError, .error internalError, 0, false, 0,
    false, 0, false⟩
  officerGate := .ok ()
  officer := .ok "officer"
  age := 1000000
  quota := .ok ()
  configFails := false
  signingKeys _ _ := .ok (some ⟨List.replicate 12 0 ++
    clearGcm.encrypt officerKek.current (List.replicate 12 0) (List.replicate 32 9) ed25519KeyAad, true, .active⟩)
  kek := .ok officerKek
  signed := 1000000
  nonce := some (Vector.replicate 32 7)

def rotation (newKid : String) : AttestationRotation where
  newKid := newKid
  admission := .ok ()
  calls := ⟨"t", .none, 2000000, 2000000, .none⟩
  configFails := false
  verifyingKeys _ _ := .ok (some ⟨"Issuer", List.replicate 32 9, 0, 0, true⟩)
  signingKeys _ _ := officerCall.signingKeys "" ""
  putFails := false

def freshWorld : AttestationWorld :=
  ⟨⟨"did:provii:issuer", "provii.app", "first", none⟩, fun _ => .empty, ⟨fun _ => .empty, ∅⟩⟩

def officerResponse : CreateAttestationResponse :=
  ⟨⟨"did:provii:issuer", -9000, 1000, Vector.replicate 32 7, List.replicate 32 9⟩, 4600, "did:provii:issuer"⟩

/-- The attestation is redeemed in its last second, one rotation after it was created. -/
def lateRedemption : BlindRequest where
  attestation := officerResponse.attestation
  ingress := .ok ()
  admission := .ok ()
  config := .error internalError
  lookup _ _ := .ok (some ⟨"Issuer", List.replicate 32 9, 0, 0, true⟩)
  now := 4600000
  readings := .at 4600000
  faults := .none
  purgeFaults := .none

theorem late_redemption_verified :
    (createAttestation officerCrypto echoLib officerCall freshWorld.clients freshWorld.config).1 = .ok officerResponse ∧
    (∃ candidates last c,
      collectCandidates echoCrypto (getIssuerEd25519Key lateRedemption.lookup "did:provii:issuer") 4600
        (trialVerifyCandidateSlots (after officerCrypto echoLib freshWorld [.create officerCall, .rotate (rotation "second")]).config)
        [] none = .ok (candidates, last) ∧
      trialVerify echoCrypto lateRedemption.attestation 4600 candidates "no_candidates" = .ok c) ∧
    ∀ prev, (after officerCrypto echoLib freshWorld [.rotate (rotation "second")]).config.previousKid = some prev →
      prev ≠ (after officerCrypto echoLib freshWorld [.rotate (rotation "second")]).config.defaultKid := by
  have h := attestation_survives_rotation (C := officerCrypto) echoLib_lawful freshWorld (by decide +kernel)
  have hcreate : (createAttestation officerCrypto echoLib officerCall freshWorld.clients freshWorld.config).1 =
      .ok officerResponse := by decide +kernel
  refine ⟨hcreate, ?_, h.2 [.rotate (rotation "second")] (by decide +kernel)⟩
  refine h.1 [] [.rotate (rotation "second")] officerCall officerResponse lateRedemption hcreate (by decide +kernel) rfl
    (fun _ _ => ⟨_, rfl⟩) ?_ (by decide) (by decide)
  intro kid record kekPair seed hrecord hkek hseed
  refine ⟨_, rfl, rfl, by decide, by decide, ?_⟩
  cases hrecord
  cases hkek
  have hnine : decryptWithKekFallback clearGcm officerKek (List.replicate 12 0 ++
    clearGcm.encrypt officerKek.current (List.replicate 12 0) (List.replicate 32 9) ed25519KeyAad) ed25519KeyAad =
      .ok (List.replicate 32 9) := by decide +kernel
  cases hnine.symm.trans hseed
  decide

end Issuer
