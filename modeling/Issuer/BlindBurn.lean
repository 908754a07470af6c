import Issuer.BlindHandler
import Issuer.BlindIssuanceSound
import Issuer.JwksSound

/-!
# Which rejected requests use up their attestation

The schema validation of the body comes before the nonce is consumed, the checks of `r_bits`, of the
validity and of the schema against the policy come after it. A request that the first turns away leaves
the attestation for a corrected one; from there on the nonce is gone, whatever the later checks say.
-/

namespace Issuer

open Rust Store Runs

/-! ## The body -/

/-- The body of the call is `data`, and `attestation` is what it encodes. -/
def BlindCall.Carries (L : CommitLibrary) (call : BlindCall) (data : BlindIssuanceRequest)
    (attestation : DobAttestation) : Prop :=
  call.body = some data ∧ (Base64.decode data.attestation).bind L.parseAttestation = some attestation

theorem ingress_of_carries {L : CommitLibrary} {call : BlindCall} {data : BlindIssuanceRequest}
    {attestation : DobAttestation} (hip : call.ipLimit = .ok ()) (h : call.Carries L data attestation) :
    call.ingress L = if data.validate then .ok (data, attestation) else .error (.badRequest "Invalid request") := by
  obtain ⟨hbody, hattestation⟩ := h
  obtain ⟨bytes, hbytes, hparse⟩ := Option.bind_eq_some_iff.mp hattestation
  unfold BlindCall.ingress
  by_cases hvalid : data.validate = true
  · simp [hip, hbody, hbytes, hparse, hvalid]
  · simp only [hip, hbody, hvalid]
    rfl

theorem carries_of_ingress {L : CommitLibrary} {call : BlindCall} {data : BlindIssuanceRequest}
    {attestation : DobAttestation} (h : call.ingress L = .ok (data, attestation)) : call.Carries L data attestation := by
  unfold BlindCall.ingress at h
  obtain ⟨_, _, h⟩ := Except.bind_eq_ok.mp h
  split at h
  · cases h
  rename_i data' hbody
  by_cases hvalid : data'.validate = true
  · simp only [hvalid, Bool.not_true, Bool.false_eq_true, if_false] at h
    cases hbytes : Base64.decode data'.attestation with
    | none => rw [hbytes] at h; cases h
    | some bytes =>
      rw [hbytes] at h
      cases hparse : L.parseAttestation bytes with
      | none => simp only [hparse] at h; cases h
      | some attestation' =>
        simp only [hparse] at h
        cases h
        exact ⟨hbody, by rw [hbytes]; exact hparse⟩
  · simp only [hvalid] at h
    cases h

theorem carries_unique {L : CommitLibrary} {call : BlindCall} {data data' : BlindIssuanceRequest}
    {attestation attestation' : DobAttestation} (h : call.Carries L data attestation)
    (h' : call.Carries L data' attestation') : attestation' = attestation := by
  obtain ⟨hbody, hattestation⟩ := h
  obtain ⟨hbody', hattestation'⟩ := h'
  rw [hbody] at hbody'
  cases hbody'
  rw [hattestation] at hattestation'
  exact (Option.some.inj hattestation').symm

/-! ## The nonce store -/

section
variable {VerifyingKey : Type} (B : BlindLibraries VerifyingKey)

/-- On the nonce store a call of the handler is a redemption, or nothing. -/
theorem blindIssuance_store (call : BlindCall) (issuerKid : String) (kv : KeyKv) (s : NonceShards) :
    (blindIssuance B call issuerKid kv s).2 =
      match call.ingress B.commit with
      | .error _ => s
      | .ok (_, attestation) => (NonceStep.blindIssuance (call.redemption attestation)).apply B.attestation s := by
  unfold blindIssuance
  cases call.ingress B.commit with
  | error e => rfl
  | ok carried =>
    simp only [NonceStep.apply]
    split
    · rename_i hr
      rw [hr]
    · rename_i hr
      rw [hr]
      split
      · rfl
      · rfl

/-- What is left of the handler once a valid body has been redeemed. -/
theorem blindIssuance_redeemed {call : BlindCall} {data : BlindIssuanceRequest} {attestation : DobAttestation}
    {config : StoredIssuerConfig} {s s' : NonceShards} {c : Candidate VerifyingKey} (issuerKid : String) (kv : KeyKv)
    (hip : call.ipLimit = .ok ()) (hcarries : call.Carries B.commit data attestation) (hvalid : data.validate = true)
    (hconfig : call.config = .ok config)
    (hredeem : redeemAttestation B.attestation (call.redemption attestation) s = (.ok c, s')) :
    blindIssuance B call issuerKid kv s = (signCredential B.curve B.sig B.gcm
      (call.signing B.curve B.commit B.text data attestation config.defaultPolicy) issuerKid kv, s') := by
  have hingress := ingress_of_carries hip hcarries
  rw [hvalid, if_pos rfl] at hingress
  simp only [blindIssuance, hingress, hredeem, hconfig]

theorem blindIssuance_ok {call : BlindCall} {issuerKid : String} {kv : KeyKv} {s : NonceShards}
    {header : SignedCredentialHeader} (h : (blindIssuance B call issuerKid kv s).1 = .ok header) :
    ∃ data attestation c, call.Carries B.commit data attestation ∧
      (redeemAttestation B.attestation (call.redemption attestation) s).1 = .ok c := by
  unfold blindIssuance at h
  split at h
  · cases h
  rename_i data attestation hingress
  split at h
  · cases h
  rename_i c s' hredeem
  exact ⟨data, attestation, c, carries_of_ingress hingress, by rw [hredeem]⟩

variable {B}

theorem redeemAttestation_burns {r : BlindRequest} {s : NonceShards} {c : Candidate VerifyingKey}
    (h : (redeemAttestation B.attestation r s).1 = .ok c) :
    ¬ ShardGuarded s (attestNonce r.attestation.nonceHex) (secs r.readings.check) ∧
      ShardGuarded (redeemAttestation B.attestation r s).2 (attestNonce r.attestation.nonceHex)
        (secs r.readings.create + attestationNonceTtl) := by
  obtain ⟨hstore, hfresh, -⟩ := redeemAttestation_ok h
  rw [hstore]
  exact ⟨fun hg => nonceDoCheckAndSet_refused hg (le_refl _) hfresh, nonceDoCheckAndSet_sets hfresh⟩

theorem redeemAttestation_ne {r : BlindRequest} {s : NonceShards} {c : Candidate VerifyingKey}
    (hreadings : r.readings.Ordered) (h : (redeemAttestation B.attestation r s).1 = .ok c) :
    (redeemAttestation B.attestation r s).2 ≠ s := by
  obtain ⟨hfree, hguarded⟩ := redeemAttestation_burns h
  obtain ⟨hcp, hpc, -⟩ := hreadings.secs
  intro hsame
  rw [hsame] at hguarded
  exact hfree (guarded_mono (by omega) hguarded)

theorem exec_shardGuarded {lag : Nat} {nonce : String} {e : Nat} {steps : List NonceStep} {s : NonceShards}
    (hg : ShardGuarded s nonce e) (hsteps : ∀ i ∈ steps, i.Timely lag ∧ i.stop ≤ e) :
    ShardGuarded (exec (NonceStep.apply B.attestation) s steps) nonce e := by
  have hstep : ∀ s i, ShardGuarded s nonce e → i.Timely lag ∧ i.stop ≤ e →
      ShardGuarded (NonceStep.apply B.attestation s i) nonce e :=
    fun s i hg hi => apply_shardGuarded hi.1 hg hi.2
  exact exec_invariant _ hstep steps s hg (along_of_forall _ steps s hsteps)

theorem guarded_not_served {call : BlindCall} {data : BlindIssuanceRequest} {attestation : DobAttestation} {e : Nat}
    {s : NonceShards} (hcarries : call.Carries B.commit data attestation)
    (hg : ShardGuarded s (attestNonce attestation.nonceHex) e) (hcheck : secs call.readings.check ≤ e)
    (issuerKid : String) (kv : KeyKv) (header : SignedCredentialHeader) :
    (blindIssuance B call issuerKid kv s).1 ≠ .ok header := by
  intro hserved
  obtain ⟨data', attestation', c, hcarries', hredeem⟩ := blindIssuance_ok B hserved
  obtain rfl := carries_unique hcarries hcarries'
  exact (redeemAttestation_burns hredeem).1 (guarded_mono hcheck hg)

/-- **Which requests burn the attestation.** -/
theorem attestation_kept_iff {call : BlindCall} {data : BlindIssuanceRequest} {attestation : DobAttestation}
    {s : NonceShards} {c : Candidate VerifyingKey} (issuerKid : String) (kv : KeyKv) (hip : call.ipLimit = .ok ())
    (hcarries : call.Carries B.commit data attestation) (hreadings : call.readings.Ordered)
    (hredeem : (redeemAttestation B.attestation (call.redemption attestation) s).1 = .ok c) :
    ((blindIssuance B call issuerKid kv s).2 = s ↔ data.validate = false) ∧
    (data.validate = true → ∀ (lag : Nat) (steps : List NonceStep) (later : BlindCall) (data' : BlindIssuanceRequest),
      (∀ i ∈ steps, i.Timely lag ∧ i.stop ≤ secs call.readings.create + attestationNonceTtl) →
      later.Carries B.commit data' attestation →
      secs later.readings.check ≤ secs call.readings.create + attestationNonceTtl →
      ∀ issuerKid' kv' header, (blindIssuance B later issuerKid' kv'
        (exec (NonceStep.apply B.attestation) (blindIssuance B call issuerKid kv s).2 steps)).1 ≠ .ok header) := by
  have hstore := blindIssuance_store B call issuerKid kv s
  rw [ingress_of_carries hip hcarries] at hstore
  cases hvalid : data.validate with
  | false =>
    simp only [hvalid, Bool.false_eq_true, if_false] at hstore
    exact ⟨by simp [hstore], fun h => by cases h⟩
  | true =>
    simp only [hvalid, if_true] at hstore
    have hburnt : (blindIssuance B call issuerKid kv s).2 =
        (redeemAttestation B.attestation (call.redemption attestation) s).2 := hstore
    refine ⟨?_, fun _ lag steps later data' hsteps hlater hcheck issuerKid' kv' header => ?_⟩
    · rw [hburnt]
      simp [redeemAttestation_ne hreadings hredeem]
    · have hguarded := (redeemAttestation_burns hredeem).2
      rw [hburnt]
      exact guarded_not_served hlater (exec_shardGuarded hguarded hsteps) hcheck issuerKid' kv' header

end

/-! ## A short `r_bits` -/

def attestationText : Bytes :=
  ("\x7b\"issuer_id\":\"did:provii:issuer\",\"dob_days\":7000,\"timestamp\":1000,\"nonce\":\"" ++
    hexEncode (List.replicate 32 7) ++ "\",\"signature\":\"" ++ hexEncode (List.replicate 32 9) ++ "\"\x7d").toList.map
    fun c => UInt8.ofNat c.toNat

/-- The parser knows one text, no text is a full URL. -/
def burnLibraries : BlindLibraries (List UInt8) where
  attestation := echoCrypto
  commit := ⟨fun bytes => if bytes = attestationText then some replayAttestation else none,
    fun _ _ => .ok (Vector.replicate 32 9)⟩
  text := ⟨id, fun _ => none⟩
  curve := demoCurve
  sig := echoSig
  gcm := clearGcm

def burnRequest (rBits : String) : BlindIssuanceRequest := ⟨Base64.encode attestationText, rBits, none, none⟩

def burnCall (rBits : String) (ms : UInt64) : BlindCall where
  ipLimit := .ok ()
  body := some (burnRequest rBits)
  config := .ok ⟨⟨"did:provii:issuer", "provii.app", "v1", none⟩, ⟨"provii.age/0", 36500, 2⟩⟩
  admission := .ok ()
  lookup := (replayRequest ms).lookup
  now := ms
  readings := .at ms
  faults := .none
  purgeFaults := .none
  reads := .ok
  keypairFails := false
  kek := .ok demoKek
  signingNow := ms
  allowedSchemaDomains := none

/-- Eight bytes, and sixteen different ones. -/
def shortBits : String := "AAECAwQFBgc"

def fullBits : String := "AAECAwQFBgcICQoLDA0ODw"

def burnt : NonceShards :=
  (redeemAttestation echoCrypto ((burnCall shortBits 940000).redemption replayAttestation) (fun _ => .empty)).2

theorem burnCall_carries (rBits : String) (ms : UInt64) :
    (burnCall rBits ms).Carries burnLibraries.commit (burnRequest rBits) replayAttestation := by
  refine ⟨rfl, ?_⟩
  simp [burnRequest, burnLibraries]

theorem burnRequest_validate {rBits : String} (hchars : validateBase64String rBits = true) (hlen : rBits.length ≤ 64) :
    (burnRequest rBits).validate = true := by
  have htext : 0 < attestationText.length ∧ attestationText.length ≤ 300 := by decide +kernel
  have hne : attestationText ≠ [] := List.length_pos_iff.mp htext.1
  have hlength : (Base64.encode attestationText).length ≤ 1000 := by
    rw [← String.length_toList, Base64.encode, String.toList_ofList, Base64.encodeChars_length]
    omega
  simp [BlindIssuanceRequest.validate, burnRequest, validateBase64String_encode hne, hlength, hchars, hlen]

theorem short_redeemed : ∃ c, redeemAttestation echoCrypto ((burnCall shortBits 940000).redemption replayAttestation)
    (fun _ => .empty) = (.ok c, burnt) :=
  ⟨⟨"default_kid", "v1", List.replicate 32 9, "Issuer"⟩, rfl⟩

theorem full_redeemed : ∃ c s, redeemAttestation echoCrypto ((burnCall fullBits 941000).redemption replayAttestation)
    (fun _ => .empty) = (.ok c, s) :=
  ⟨⟨"default_kid", "v1", List.replicate 32 9, "Issuer"⟩, _, rfl⟩

theorem short_not_signed : signCredential demoCurve echoSig clearGcm ((burnCall shortBits 940000).signing demoCurve
    burnLibraries.commit burnLibraries.text (burnRequest shortBits) replayAttestation ⟨"provii.age/0", 36500, 2⟩) "issuer"
    onboardedWorld.keys = .error (.badRequest "Invalid r_bits length") := by decide +kernel

theorem full_signed : signCredential demoCurve echoSig clearGcm ((burnCall fullBits 941000).signing demoCurve
    burnLibraries.commit burnLibraries.text (burnRequest fullBits) replayAttestation ⟨"provii.age/0", 36500, 2⟩) "issuer"
    onboardedWorld.keys = .ok ⟨2, "main", List.replicate 32 5, List.replicate 32 5, List.replicate 32 9, 941,
      3153600941, "provii.age/0"⟩ := by decide +kernel

theorem burnt_keys : (burnt (nonceShard (attestNonce replayAttestation.nonceHex))).storage.keys.isEmpty = false := by
  decide +kernel

theorem short_bits_burn :
    blindIssuance burnLibraries (burnCall shortBits 940000) "issuer" onboardedWorld.keys (fun _ => .empty) =
        (.error (.badRequest "Invalid r_bits length"), burnt) ∧
      burnt ≠ (fun _ => .empty) ∧
      (∃ header, (blindIssuance burnLibraries (burnCall fullBits 941000) "issuer" onboardedWorld.keys
        (fun _ => .empty)).1 = .ok header) ∧
      ∀ header, (blindIssuance burnLibraries (burnCall fullBits 941000) "issuer" onboardedWorld.keys burnt).1 ≠
        .ok header := by
  have hshort : (burnRequest shortBits).validate = true := burnRequest_validate (by decide) (by decide)
  have hfull : (burnRequest fullBits).validate = true := burnRequest_validate (by decide) (by decide)
  obtain ⟨c, hc⟩ := short_redeemed
  obtain ⟨d, s, hd⟩ := full_redeemed
  have hguarded := (redeemAttestation_burns (B := burnLibraries) (congrArg Prod.fst hc)).2
  refine ⟨?short, ?store, ?full, ?again⟩
  case short =>
    rw [blindIssuance_redeemed burnLibraries "issuer" onboardedWorld.keys rfl (burnCall_carries _ _) hshort rfl hc]
    exact Prod.ext short_not_signed rfl
  case store =>
    intro hsame
    have hkeys := burnt_keys
    rw [hsame] at hkeys
    cases hkeys
  case full =>
    rw [blindIssuance_redeemed burnLibraries "issuer" onboardedWorld.keys rfl (burnCall_carries _ _) hfull rfl hd]
    exact ⟨_, full_signed⟩
  case again =>
    exact guarded_not_served (burnCall_carries _ _) hguarded (by decide) "issuer" onboardedWorld.keys

theorem short_bits_not_served_later :
    (blindIssuance burnLibraries (burnCall "" 940000) "issuer" onboardedWorld.keys (fun _ => .empty)).2 =
        (fun _ => .empty) ∧
      ∀ header, (blindIssuance burnLibraries (burnCall fullBits 941000) "issuer" onboardedWorld.keys
        (exec (NonceStep.apply echoCrypto)
          (blindIssuance burnLibraries (burnCall shortBits 940000) "issuer" onboardedWorld.keys (fun _ => .empty)).2
          [.alarm (nonceShard (attestNonce replayAttestation.nonceHex)) .none 940500 940500])).1 ≠ .ok header := by
  have hempty : (burnRequest "").validate = false := by
    have hchars : validateBase64String "" = false := by decide
    simp [BlindIssuanceRequest.validate, burnRequest, hchars]
  have hshort : (burnRequest shortBits).validate = true := burnRequest_validate (by decide) (by decide)
  obtain ⟨c, hc⟩ := short_redeemed
  have hredeem := congrArg Prod.fst hc
  refine ⟨?kept, fun header => ?burnt⟩
  case kept =>
    exact (attestation_kept_iff (B := burnLibraries) "issuer" onboardedWorld.keys rfl (burnCall_carries "" 940000)
      (by decide) hredeem).1.mpr hempty
  case burnt =>
    refine (attestation_kept_iff (B := burnLibraries) "issuer" onboardedWorld.keys rfl (burnCall_carries shortBits 940000)
      (by decide) hredeem).2 hshort 1 _ _ _ ?_ (burnCall_carries fullBits 941000) (by decide) "issuer"
      onboardedWorld.keys header
    decide

end Issuer
