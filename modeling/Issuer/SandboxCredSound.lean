import Issuer.SandboxCred

/-!
# How long a sandbox credential lasts

The entry of a minted client keeps its expiry along every run in which no call passes the checks for
that client within its 72 hours; every later call then finds nothing.
-/

namespace Issuer

open Rust Store Runs

section
variable {C : ClientCrypto} {call : ClientCall} {w : ClientWorld}

/-! ## What a call does to the namespace -/

theorem clientKey_injective {issuerKid a b : String} (h : clientKey issuerKid a = clientKey issuerKid b) : a = b := by
  simpa only [clientKey, String.append_right_inj] using h

theorem getClientById_some {clientId : String} {kv : ClientKv} {client : ClientRegistration}
    (h : getClientById C call clientId kv = .ok (some client)) : ∃ config, call.config = .ok config ∧
      client.kvKey = some (clientKey (extractIssuerKid config.issuerId) clientId) ∧
      ∃ stored, readClient call.lookupFails kv call.lookup (clientKey (extractIssuerKid config.issuerId) clientId) =
        .ok (some stored) := by
  unfold getClientById at h
  cases hid : validateIdentifier clientId "client_id" with
  | error e => simp [hid, bind, Except.bind] at h
  | ok u =>
    cases hconfig : call.config with
    | error e => simp [hid, hconfig, bind, Except.bind] at h
    | ok config =>
      refine ⟨config, rfl, ?_⟩
      cases hread : readClient call.lookupFails kv call.lookup (clientKey (extractIssuerKid config.issuerId) clientId) with
      | error e => simp [hid, hconfig, hread, bind, Except.bind] at h
      | ok found =>
        cases found with
        | none => simp [hid, hconfig, hread, bind, Except.bind, pure, Except.pure] at h
        | some stored =>
          refine ⟨?_, stored, rfl⟩
          simp only [hid, hconfig, hread, bind, Except.bind] at h
          split at h
          · cases h
          split at h
          · cases h
          cases hkek : call.kek with
          | error e => simp [hkek] at h
          | ok kekPair =>
            simp only [hkek] at h
            split at h
            · cases h
            split at h
            · cases h
            · cases h; rfl

theorem checkClient_ok {kv : ClientKv} {client : ClientRegistration} (h : checkClient C call kv = .ok client) :
    getClientById C call call.authorizer.keyId kv = .ok (some client) := by
  unfold checkClient at h
  split at h
  · cases h
  · cases h
  · rename_i found hfound
    split at h
    · cases h
    · split at h
      · cases h; exact hfound
      · cases h

theorem updateClientLastUsed_frame {client : ClientRegistration} {kv : ClientKv} {a : String}
    (ha : client.kvKey ≠ some a) : (updateClientLastUsed call client kv).2[a]? = kv[a]? := by
  unfold updateClientLastUsed
  split
  · rfl
  · rfl
  · rename_i key _ hkey
    have hne : key ≠ a := fun h => ha (by rw [hkey, h])
    split
    · rfl
    · rfl
    · simp only
      split
      · rfl
      · rename_i kv' hput
        unfold kvPut at hput
        split at hput
        · cases hput
        · cases hput
          exact insert_get_of_ne _ hne _

/-- A call writes only once its checks have passed. -/
theorem authenticateClient_clients (C : ClientCrypto) (call : ClientCall) (w : ClientWorld) :
    (authenticateClient C call w).2.clients = w.clients ∨
    ∃ client, checkClient C call w.clients = .ok client ∧ Renews C call.authorizer.keyId w (.authenticate call) = true ∧
      (authenticateClient C call w).2.clients = (updateClientLastUsed call client w.clients).2 := by
  unfold authenticateClient
  split
  · exact .inl rfl
  · rename_i hchallenge
    split
    · exact .inl rfl
    · exact .inl rfl
    · rename_i nonces hnonce
      split
      · exact .inl rfl
      · rename_i client hclient
        have hrenews : Renews C call.authorizer.keyId w (.authenticate call) = true := by
          simp [Renews, hnonce, hclient, Except.isOk, Except.toBool, Option.not_isSome_iff_eq_none.mp hchallenge]
        refine .inr ⟨client, hclient, hrenews, ?_⟩
        split
        · rename_i e clients hupdate
          rw [hupdate]
        · rename_i clients hupdate
          rw [hupdate]

/-! ## The expiry of a client's entry -/

def EndsAt (kv : ClientKv) (key : String) (x : Nat) : Prop := ∃ v, kv[key]? = some ⟨v, some x⟩

variable {issuerKid clientId : String} {x : Nat}

theorem readClient_ended {kv : ClientKv} {key : String} {fails : Bool} {now : UInt64} (h : EndsAt kv key x)
    (hx : x ≤ secs now) : ∀ stored, readClient fails kv now key ≠ .ok (some stored) := by
  intro stored hread
  obtain ⟨v, hv⟩ := h
  have hget : Store.get kv (secs now) key = none := get_expired hv rfl hx
  unfold readClient kvGet at hread
  cases fails with
  | true => simp at hread
  | false => simp [hget] at hread

theorem checkClient_ended (h : EndsAt w.clients (clientKey issuerKid clientId) x) (hx : x ≤ secs call.lookup)
    (hid : call.authorizer.keyId = clientId) (hissuer : (ClientStep.authenticate call).ForIssuer issuerKid)
    (client : ClientRegistration) : checkClient C call w.clients ≠ .ok client := by
  intro hcheck
  obtain ⟨config, hconfig, -, stored, hread⟩ := getClientById_some (checkClient_ok hcheck)
  rw [hissuer config hconfig, hid] at hread
  exact readClient_ended h hx stored hread

theorem apply_endsAt {i : ClientStep} (h : EndsAt w.clients (clientKey issuerKid clientId) x)
    (hissuer : i.ForIssuer issuerKid) (hrenews : Renews C clientId w i = false) :
    EndsAt (i.apply C w).clients (clientKey issuerKid clientId) x := by
  cases i with
  | alarm shard fl now arm => exact h
  | authenticate call =>
    rcases authenticateClient_clients C call w with hsame | ⟨client, hcheck, hren, hupd⟩
    · simpa only [ClientStep.apply, EndsAt, hsame] using h
    · obtain ⟨config, hconfig, hkey, -⟩ := getClientById_some (checkClient_ok hcheck)
      -- whoever writes is another client, under another key
      have hne : call.authorizer.keyId ≠ clientId := by
        intro hid
        rw [hid, hrenews] at hren
        cases hren
      have hframe : client.kvKey ≠ some (clientKey issuerKid clientId) := by
        rw [hkey, hissuer config hconfig]
        intro heq
        exact hne (clientKey_injective (Option.some.inj heq))
      obtain ⟨v, hv⟩ := h
      exact ⟨v, by rw [ClientStep.apply, hupd, updateClientLastUsed_frame hframe, hv]⟩

theorem registerTestIssuer_endsAt {r : MintRequest} {w' : ClientWorld} {config : IssuerConfig}
    (h : registerTestIssuer C r w = (.ok clientId, w')) (hconfig : r.config = .ok config) :
    clientId = r.clientId ∧
      EndsAt w'.clients (clientKey (extractIssuerKid config.issuerId) clientId) (secs r.put + sandboxTtlSeconds) := by
  unfold registerTestIssuer at h
  split at h
  · cases h
  split at h
  · cases h
  · cases h
  split at h
  · cases h
  · cases h
  · rename_i encrypted config' _ hconfig'
    simp only at h
    split at h
    · cases h
    · rename_i kv hput
      cases h
      rw [hconfig] at hconfig'
      cases hconfig'
      refine ⟨rfl, ?_⟩
      unfold kvPut at hput
      split at hput
      · cases hput
      · cases hput
        exact ⟨(r.record encrypted).stored, by simp [Store.put]⟩

/-! ## Every run -/

/-- The condition on a step: no call within the 72 hours passes the checks for the client. -/
def Unrenewed (C : ClientCrypto) (clientId : String) (deadline : Nat) (w : ClientWorld) : ClientStep → Prop
  | .authenticate call => secs call.lookup ≤ deadline → Renews C clientId w (.authenticate call) = false
  | .alarm .. => True

theorem renews_false {call : ClientCall} (h : EndsAt w.clients (clientKey issuerKid clientId) x)
    (hissuer : (ClientStep.authenticate call).ForIssuer issuerKid) (hok : Unrenewed C clientId x w (.authenticate call)) :
    Renews C clientId w (.authenticate call) = false := by
  by_cases hlate : secs call.lookup ≤ x
  · exact hok hlate
  · by_cases hid : call.authorizer.keyId = clientId
    · have hcheck : (checkClient C call w.clients).isOk = false := by
        cases hc : checkClient C call w.clients with
        | error e => rfl
        | ok client => exact absurd hc (checkClient_ended h (by omega) hid hissuer client)
      simp [Renews, hcheck]
    · simp [Renews, hid]

theorem run_endsAt (steps : List ClientStep) (h : EndsAt w.clients (clientKey issuerKid clientId) x)
    (hissuer : ∀ i ∈ steps, i.ForIssuer issuerKid)
    (hok : Along (ClientStep.apply C) (Unrenewed C clientId x) w steps) :
    EndsAt (exec (ClientStep.apply C) w steps).clients (clientKey issuerKid clientId) x := by
  refine exec_invariant (ClientStep.apply C) (I := fun w => EndsAt w.clients (clientKey issuerKid clientId) x) ?_ steps w h
    (along_and (ClientStep.apply C) steps w hok hissuer)
  rintro w i h ⟨hok, hissuer⟩
  apply apply_endsAt h hissuer
  cases i with
  | alarm shard fl now arm => rfl
  | authenticate call => exact renews_false h hissuer hok

end

/-- A credential minted at `m` whose client passes no check up to `m` plus 72 hours is dead after
that, in every run. -/
theorem sandbox_credential_dies_unused (C : ClientCrypto) (r : MintRequest) (w w' : ClientWorld) (clientId : String)
    (config : IssuerConfig) (hmint : registerTestIssuer C r w = (.ok clientId, w')) (hconfig : r.config = .ok config)
    (steps : List ClientStep) (hissuer : ∀ i ∈ steps, i.ForIssuer (extractIssuerKid config.issuerId))
    (hok : Along (ClientStep.apply C) (Unrenewed C clientId (secs r.put + sandboxTtlSeconds)) w' steps)
    (call : ClientCall) (hid : call.authorizer.keyId = clientId)
    (hcall : (ClientStep.authenticate call).ForIssuer (extractIssuerKid config.issuerId))
    (hlate : secs r.put + sandboxTtlSeconds < secs call.lookup) :
    (authenticateClient C call (exec (ClientStep.apply C) w' steps)).1.isOk = false := by
  have hend := run_endsAt steps (registerTestIssuer_endsAt hmint hconfig).2 hissuer hok
  generalize exec (ClientStep.apply C) w' steps = v at hend
  have hcheck : ∀ client, checkClient C call v.clients ≠ .ok client :=
    checkClient_ended hend (Nat.le_of_lt hlate) hid hcall
  unfold authenticateClient
  split
  · rfl
  split
  · rfl
  · rfl
  split
  · rfl
  · rename_i client hclient
    exact absurd hclient (hcheck client)

/-! ## A credential that is used once -/

def sandboxCrypto : ClientCrypto where
  gcm := clearGcm
  hmacSha256 key message := (List.zipWith (· + ·) key (message ++ List.replicate 32 0)).take 32

def sandboxConfig : IssuerConfig := ⟨"did:provii:sandbox", "provii.example", "k1", none⟩

def sandboxKek : KekPair := ⟨List.replicate 32 7, none⟩

def sandboxMint : MintRequest where
  environment := "sandbox"
  gate := .ok ()
  issuerLabel := "demo"
  hmacSecret := Vector.replicate 32 1
  clientSuffix := Vector.replicate 6 0
  gcmNonce := Vector.replicate 12 2
  kek := .ok sandboxKek
  config := .ok sandboxConfig
  now := 0
  put := 0
  putFails := false

def minted : ClientWorld := (registerTestIssuer sandboxCrypto sandboxMint ⟨fun _ => .empty, ∅⟩).2

def sandboxCall (t : UInt64) (hmac : String) : ClientCall where
  authorizer := ⟨"client", sandboxMint.clientId, none, 0, hmac, String.ofList (List.replicate 64 '0')⟩
  canonicalMessage := "m"
  readings := .at t
  faults := .none
  purgeFaults := .none
  config := .ok sandboxConfig
  kek := .ok sandboxKek
  lookup := t
  lookupFails := false
  reread := t
  rereadFails := false
  write := t
  writeFails := false

def sandboxMac : String := hexEncode (sandboxCrypto.hmacSha256 (List.replicate 32 1) (bytesOf "m"))

/-- A wrong MAC after 100 seconds; the right one after 72 hours comes too late. -/
theorem unused_credential_dies :
    (authenticateClient sandboxCrypto (sandboxCall 259201000 sandboxMac)
      (exec (ClientStep.apply sandboxCrypto) minted [.authenticate (sandboxCall 100000 "00")])).1.isOk = false := by
  refine sandbox_credential_dies_unused sandboxCrypto sandboxMint ⟨fun _ => .empty, ∅⟩ minted sandboxMint.clientId
    sandboxConfig rfl rfl _ ?_ ?_ _ rfl ?_ (by decide)
  · intro i hi
    cases List.mem_singleton.mp hi
    rintro config ⟨rfl⟩
    rfl
  · refine ⟨fun _ => ?_, trivial⟩
    decide +kernel
  · rintro config ⟨rfl⟩
    rfl

/-- Used once after 100 seconds, the credential still works after 300000 seconds. -/
theorem used_credential_lives :
    (registerTestIssuer sandboxCrypto sandboxMint ⟨fun _ => .empty, ∅⟩).1 = .ok sandboxMint.clientId ∧
    (authenticateClient sandboxCrypto (sandboxCall 300000000 sandboxMac)
      (exec (ClientStep.apply sandboxCrypto) minted [.authenticate (sandboxCall 100000 sandboxMac)])).1.isOk = true ∧
    secs sandboxMint.put + sandboxTtlSeconds < secs (sandboxCall 300000000 sandboxMac).lookup := by
  refine ⟨by decide +kernel, by decide +kernel, by decide⟩

end Issuer
