import Issuer.ApiKey
import Issuer.Lib.Except

/-!
# API keys and the client store

A client that `get_client_by_id` reads is stored under its canonical key, where no API key is ever checked against it:
a verification agrees with the store exactly where `ISSUER_CLIENTS` also has the client under one of the two keys that
the verification tries.
-/

namespace Issuer

open Rust Store

section
variable {C : ApiKeyCrypto} {call : ApiKeyCall} {clients : ClientKv} {apiKey : String}

/-! ## Candidates -/

/-- The record of a candidate, as far as the loop reads one. -/
def candidateRecord (call : ApiKeyCall) (clients : ClientKv) (kvKey : String) : Option ClientRegistration :=
  match readClient (call.candidateFails kvKey) clients call.now kvKey with
  | .ok found => found
  | .error _ => none

/-- A record that ends the loop: an inactive client, or one whose hash verifies. -/
def Decisive (C : ApiKeyCrypto) (call : ApiKeyCall) (clientId apiKey : String) (client : ClientRegistration) : Prop :=
  client.clientId = clientId ∧ (client.active = true →
    ∃ hash, decryptApiKeyHash C.gcm call.hashKek client.apiKeyHash = .ok hash ∧ C.verifyApiKey apiKey hash = true)

theorem verifyCandidates_skip {clientId kvKey : String} (rest : List String)
    (h : ∀ client, candidateRecord call clients kvKey = some client → ¬Decisive C call clientId apiKey client) :
    verifyCandidates C call clients clientId apiKey (kvKey :: rest) = verifyCandidates C call clients clientId apiKey rest := by
  unfold candidateRecord at h
  rw [verifyCandidates]
  split
  · rename_i client hread
    rw [hread] at h
    have hnot := h client rfl
    by_cases hid : client.clientId = clientId
    · rw [if_pos hid]
      by_cases hactive : client.active = true
      · rw [if_pos hactive]
        split
        · rename_i hash hhash
          by_cases hverify : C.verifyApiKey apiKey hash = true
          · exact absurd ⟨hid, fun _ => ⟨hash, hhash, hverify⟩⟩ hnot
          · rw [if_neg hverify]
        · rfl
      · exact absurd ⟨hid, fun ha => absurd ha hactive⟩ hnot
    · rw [if_neg hid]
  · rfl

theorem verifyCandidates_decisive {clientId kvKey : String} {client : ClientRegistration} (rest : List String)
    (hread : candidateRecord call clients kvKey = some client) (h : Decisive C call clientId apiKey client) :
    verifyCandidates C call clients clientId apiKey (kvKey :: rest) =
      if client.active then openVerified C call { client with kvKey := some kvKey } else .error invalidApiKey := by
  unfold candidateRecord at hread
  split at hread
  · rename_i found hfound
    subst hread
    rw [verifyCandidates, hfound]
    simp only [h.1, if_true]
    by_cases hactive : client.active = true
    · obtain ⟨hash, hhash, hverify⟩ := h.2 hactive
      simp only [hactive, if_true, hhash, hverify]
    · simp only [hactive, Bool.false_eq_true, if_false]
  · cases hread

theorem verifyCandidates_ok {clientId : String} {keys : List String} {result : ClientRegistration}
    (h : verifyCandidates C call clients clientId apiKey keys = .ok result) : ∃ before kvKey after client,
      keys = before ++ kvKey :: after ∧ candidateRecord call clients kvKey = some client ∧
      (∀ key ∈ before, ∀ other, candidateRecord call clients key = some other → ¬Decisive C call clientId apiKey other) ∧
      Decisive C call clientId apiKey client ∧ client.active = true ∧
      openVerified C call { client with kvKey := some kvKey } = .ok result := by
  induction keys with
  | nil => cases h
  | cons kvKey rest ih =>
    by_cases hdecisive : ∃ client, candidateRecord call clients kvKey = some client ∧ Decisive C call clientId apiKey client
    · obtain ⟨client, hread, hdec⟩ := hdecisive
      rw [verifyCandidates_decisive rest hread hdec] at h
      split at h
      · rename_i hactive
        exact ⟨[], kvKey, rest, client, rfl, hread, by simp, hdec, hactive, h⟩
      · cases h
    · have hskip : ∀ client, candidateRecord call clients kvKey = some client → ¬Decisive C call clientId apiKey client :=
        fun client hread hdec => hdecisive ⟨client, hread, hdec⟩
      rw [verifyCandidates_skip rest hskip] at h
      obtain ⟨before, key, after, client, rfl, hread, hbefore, hrest⟩ := ih h
      refine ⟨kvKey :: before, key, after, client, rfl, hread, fun k hk => ?_, hrest⟩
      rcases List.mem_cons.mp hk with rfl | hk
      · exact hskip
      · exact hbefore k hk

theorem verifyCandidates_of_split {clientId kvKey : String} {client : ClientRegistration} (before after : List String)
    (hread : candidateRecord call clients kvKey = some client)
    (hbefore : ∀ key ∈ before, ∀ other, candidateRecord call clients key = some other → ¬Decisive C call clientId apiKey other)
    (h : Decisive C call clientId apiKey client) (hactive : client.active = true) :
    verifyCandidates C call clients clientId apiKey (before ++ kvKey :: after) =
      openVerified C call { client with kvKey := some kvKey } := by
  induction before with
  | nil => rw [List.nil_append, verifyCandidates_decisive after hread h, if_pos hactive]
  | cons key before ih =>
    rw [List.cons_append, verifyCandidates_skip _ (hbefore key (by simp))]
    exact ih fun k hk => hbefore k (List.mem_cons_of_mem key hk)

/-! ## The secrets -/

structure SecretsOpen (C : ApiKeyCrypto) (call : ApiKeyCall) (stored c : ClientRegistration) : Prop where
  secrets : ∃ kekPair, call.kek = .ok kekPair ∧
    decryptWithKekFallback C.gcm kekPair stored.hmacSecret sessionAad = .ok c.hmacSecret ∧
    stored.previousHmacSecret.mapM (fun prev => decryptWithKekFallback C.gcm kekPair prev sessionAad) =
      .ok c.previousHmacSecret
  size : c.hmacSecret.length = 32
  previousSize : ∀ prev ∈ c.previousHmacSecret, prev.length = 32

theorem openPrevious_eq_ok {kekPair : KekPair} {prev data : Bytes} : openPrevious C kekPair prev = .ok data ↔
    decryptWithKekFallback C.gcm kekPair prev sessionAad = .ok data ∧ data.length = 32 := by
  simp only [openPrevious, Except.bind_eq_ok, Except.throw_bind, Except.check_eq_ok, Except.pure_eq_ok, not_not]
  constructor
  · rintro ⟨_, hdata, hlen, rfl⟩
    exact ⟨hdata, hlen⟩
  · rintro ⟨hdata, hlen⟩
    exact ⟨data, hdata, hlen, rfl⟩

theorem mapM_eq_ok {f : Bytes → Except ApiError Bytes} {previous result : Option Bytes} :
    previous.mapM f = .ok result ↔
      previous = none ∧ result = none ∨ ∃ prev data, previous = some prev ∧ result = some data ∧ f prev = .ok data := by
  cases previous with
  | none =>
    simp only [Option.mapM_none, Except.pure_eq_ok, true_and, reduceCtorEq, false_and, exists_false, or_false]
    exact eq_comm
  | some prev =>
    cases hf : f prev with
    | error e => simp [hf]
    | ok data => simp [hf, eq_comm]

theorem mapM_openPrevious {kekPair : KekPair} {previous result : Option Bytes} :
    previous.mapM (openPrevious C kekPair) = .ok result ↔
      previous.mapM (fun prev => decryptWithKekFallback C.gcm kekPair prev sessionAad) = .ok result ∧
        ∀ prev ∈ result, prev.length = 32 := by
  simp only [mapM_eq_ok, openPrevious_eq_ok]
  constructor
  · rintro (⟨rfl, rfl⟩ | ⟨prev, data, rfl, rfl, hdata, hlen⟩)
    · exact ⟨.inl ⟨rfl, rfl⟩, by simp⟩
    · exact ⟨.inr ⟨prev, data, rfl, rfl, hdata⟩, by simpa using hlen⟩
  · rintro ⟨⟨rfl, rfl⟩ | ⟨prev, data, rfl, rfl, hdata⟩, hlen⟩
    · exact .inl ⟨rfl, rfl⟩
    · exact .inr ⟨prev, data, rfl, rfl, hdata, hlen data rfl⟩

theorem openVerified_eq_ok {client c : ClientRegistration} (henc : c.encrypted = true) :
    openVerified C call client = .ok c ↔
      { client with hmacSecret := c.hmacSecret, previousHmacSecret := c.previousHmacSecret } = c ∧
        SecretsOpen C call client c := by
  unfold openVerified
  cases hflag : client.encrypted with
  | false =>
    constructor
    · intro h
      cases h
      rw [hflag] at henc
      cases henc
    · rintro ⟨hrecord, -⟩
      have hsame := congrArg ClientRegistration.encrypted hrecord
      simp only [henc] at hsame
      cases hsame
  | true =>
    simp only [if_true, Except.bind_eq_ok, Except.throw_bind, Except.check_eq_ok, not_not, mapM_openPrevious,
      Except.pure_eq_ok]
    constructor
    · rintro ⟨kekPair, hkek, hmacSecret, hsecret, hsize, previous, ⟨hprevious, hsizes⟩, rfl⟩
      exact ⟨rfl, ⟨kekPair, hkek, hsecret, hprevious⟩, hsize, hsizes⟩
    · rintro ⟨hrecord, ⟨kekPair, hkek, hsecret, hprevious⟩, hsize, hsizes⟩
      exact ⟨kekPair, hkek, c.hmacSecret, hsecret, hsize, c.previousHmacSecret, ⟨hprevious, hsizes⟩, hrecord⟩

/-! ## Agreement -/

def ClientRegistration.withSecretsOf (stored c : ClientRegistration) : ClientRegistration :=
  { stored with hmacSecret := c.hmacSecret, previousHmacSecret := c.previousHmacSecret, kvKey := c.kvKey }

structure Opens (C : ApiKeyCrypto) (call : ApiKeyCall) (stored c : ClientRegistration) : Prop where
  record : stored.withSecretsOf c = c
  secrets : SecretsOpen C call stored c

/-- The verification returns `c`, with a key of the namespace under which there is a record. -/
def AgreesWithStore (C : ApiKeyCrypto) (call : ApiKeyCall) (index : Kv String) (clients : ClientKv) (apiKey : String)
    (c : ClientRegistration) : Prop :=
  ∃ kvKey data, verifyApiKey C call index clients apiKey = .ok { c with kvKey := some kvKey } ∧
    readClient false clients call.now kvKey = .ok (some data)

/-- The index names `c`, and the first of the candidates that decides is a record of `c`. -/
structure FoundByApiKey (C : ApiKeyCrypto) (call : ApiKeyCall) (index : Kv String) (clients : ClientKv) (apiKey : String)
    (c : ClientRegistration) : Prop where
  bound : call.clientsBound = true ∧ call.indexBound = true
  indexed : kvGet call.indexFails index call.now (indexKey apiKey) = .ok (some c.clientId)
  copy : ∃ kvKey stored, candidateRecord call clients kvKey = some stored ∧ Opens C call stored c ∧
    (kvKey = c.clientId ∨ kvKey = "client:" ++ c.clientId ∧
      ∀ other, candidateRecord call clients c.clientId = some other → ¬Decisive C call c.clientId apiKey other)

theorem candidateRecord_read {kvKey : String} {stored : ClientRegistration}
    (h : candidateRecord call clients kvKey = some stored) : readClient false clients call.now kvKey = .ok (some stored) := by
  unfold candidateRecord at h
  split at h
  · rename_i found hfound
    subst h
    cases hfails : call.candidateFails kvKey with
    | true =>
      rw [hfails] at hfound
      simp [readClient, kvGet] at hfound
    | false =>
      rw [hfails] at hfound
      exact hfound
  · cases h

theorem getClientById_usable {read : ClientCall} {id : String} {c : ClientRegistration} {D : ClientCrypto}
    (h : getClientById D read id clients = .ok (some c)) : c.active = true ∧ c.encrypted = true := by
  simp only [getClientById, Except.bind_eq_ok] at h
  obtain ⟨-, -, config, -, found, -, h⟩ := h
  split at h
  · cases h
  · rename_i client
    cases hactive : client.active with
    | false =>
      rw [hactive] at h
      cases h
    | true =>
      cases henc : client.encrypted with
      | false =>
        rw [hactive, henc] at h
        cases h
      | true =>
        simp only [hactive, henc, Bool.not_true, Bool.false_eq_true, if_false, Except.bind_eq_ok, Except.pure_eq_ok,
          Option.some.injEq] at h
        obtain ⟨-, -, -, -, -, -, rfl⟩ := h
        exact ⟨rfl, rfl⟩

theorem verifyApiKey_eq_ok {index : Kv String} {result : ClientRegistration} (hlen : 8 ≤ apiKey.utf8ByteSize) :
    verifyApiKey C call index clients apiKey = .ok result ↔ (call.clientsBound = true ∧ call.indexBound = true) ∧
      ∃ clientId, kvGet call.indexFails index call.now (indexKey apiKey) = .ok (some clientId) ∧
        verifySingleClient C call clients clientId apiKey = .ok result := by
  have hlong : ¬apiKey.utf8ByteSize < apiKeyPrefixLength := by
    unfold apiKeyPrefixLength
    omega
  unfold verifyApiKey
  cases hc : call.clientsBound with
  | false => simp
  | true =>
    cases hi : call.indexBound with
    | false => simp [hlong]
    | true =>
      simp only [Bool.not_true, Bool.false_eq_true, if_false, hlong, and_self, true_and]
      cases hget : kvGet call.indexFails index call.now (indexKey apiKey) with
      | error u => simp
      | ok found =>
        cases found with
        | none => simp
        | some clientId =>
          cases hverify : verifySingleClient C call clients clientId apiKey with
          | error e => simp [hverify]
          | ok client => simp [hverify]

theorem candidates_split {clientId key : String} {before after : List String}
    (h : candidates clientId = before ++ key :: after) :
    before = [] ∧ key = clientId ∨ before = [clientId] ∧ key = "client:" ++ clientId := by
  cases before with
  | nil =>
    simp only [candidates, List.nil_append, List.cons.injEq] at h
    exact .inl ⟨rfl, h.1.symm⟩
  | cons first before =>
    simp only [candidates, List.cons_append, List.cons.injEq] at h
    obtain ⟨rfl, h⟩ := h
    cases before with
    | nil =>
      simp only [List.nil_append, List.cons.injEq] at h
      exact .inr ⟨rfl, h.1.symm⟩
    | cons second before => simp at h

theorem found_of_verified {c : ClientRegistration} (henc : c.encrypted = true) (hlen : 8 ≤ apiKey.utf8ByteSize)
    (h : AgreesWithStore C call index clients apiKey c) : FoundByApiKey C call index clients apiKey c := by
  obtain ⟨kvKey, data, hverify, -⟩ := h
  obtain ⟨hbound, clientId, hindex, hsingle⟩ := (verifyApiKey_eq_ok hlen).mp hverify
  obtain ⟨before, key, after, stored, hsplit, hread, hbefore, hdecisive, -, hopen⟩ := verifyCandidates_ok hsingle
  obtain ⟨hrecord, hsecrets⟩ := (openVerified_eq_ok (by exact henc)).mp hopen
  have hrecord' := congrArg (fun r : ClientRegistration => { r with kvKey := c.kvKey }) hrecord
  have hname := congrArg ClientRegistration.clientId hrecord'
  have hid : clientId = c.clientId := hdecisive.1.symm.trans hname
  subst hid
  refine ⟨hbound, hindex, key, stored, hread, ⟨hrecord', hsecrets.1, hsecrets.2, hsecrets.3⟩, ?_⟩
  rcases candidates_split hsplit with ⟨-, hkey⟩ | ⟨rfl, hkey⟩
  · exact .inl hkey
  · exact .inr ⟨hkey, hbefore _ (by simp)⟩

theorem verified_of_found {c : ClientRegistration} {hash : String} (hactive : c.active = true) (henc : c.encrypted = true)
    (hlen : 8 ≤ apiKey.utf8ByteSize) (hhash : decryptApiKeyHash C.gcm call.hashKek c.apiKeyHash = .ok hash)
    (hkey : C.verifyApiKey apiKey hash = true) (h : FoundByApiKey C call index clients apiKey c) :
    AgreesWithStore C call index clients apiKey c := by
  obtain ⟨hbound, hindex, kvKey, stored, hread, ⟨hrecord, hsecrets⟩, hplace⟩ := h
  have hid := congrArg ClientRegistration.clientId hrecord
  have hsame := congrArg ClientRegistration.apiKeyHash hrecord
  have hstored := congrArg ClientRegistration.active hrecord
  have hopened := congrArg (fun r : ClientRegistration => { r with kvKey := some kvKey }) hrecord
  simp only [ClientRegistration.withSecretsOf] at hid hsame hstored hopened
  have hopen : openVerified C call { stored with kvKey := some kvKey } = .ok { c with kvKey := some kvKey } :=
    (openVerified_eq_ok (by exact henc)).mpr ⟨hopened, hsecrets.1, hsecrets.2, hsecrets.3⟩
  have hdecisive : Decisive C call c.clientId apiKey stored := ⟨hid, fun _ => ⟨hash, by rw [hsame, hhash], hkey⟩⟩
  rw [hactive] at hstored
  refine ⟨kvKey, stored, (verifyApiKey_eq_ok hlen).mpr ⟨hbound, c.clientId, hindex, ?_⟩, candidateRecord_read hread⟩
  rw [← hopen]
  rcases hplace with rfl | ⟨rfl, hfirst⟩
  · exact verifyCandidates_of_split [] ["client:" ++ c.clientId] hread (by simp) hdecisive hstored
  · refine verifyCandidates_of_split [c.clientId] [] hread ?_ hdecisive hstored
    simpa using hfirst

/-- For a client that the store reads and a key of it, the verification agrees with the store exactly where the client
is also stored under a key that is tried. -/
theorem api_key_agrees_iff (C : ApiKeyCrypto) (read : ClientCall) (call : ApiKeyCall) (index : Kv String)
    (clients : ClientKv) (id apiKey hash : String) (c : ClientRegistration)
    (hclient : getClientById C.toClientCrypto read id clients = .ok (some c)) (hlen : 8 ≤ apiKey.utf8ByteSize)
    (hhash : decryptApiKeyHash C.gcm call.hashKek c.apiKeyHash = .ok hash) (hkey : C.verifyApiKey apiKey hash = true) :
    AgreesWithStore C call index clients apiKey c ↔ FoundByApiKey C call index clients apiKey c := by
  obtain ⟨hactive, henc⟩ := getClientById_usable hclient
  constructor
  · intro hverified
    exact found_of_verified henc hlen hverified
  · intro hfound
    exact verified_of_found hactive henc hlen hhash hkey hfound

end

/-! ## A client under its canonical key -/

/-- Argon2id is equality, the cipher the one in the clear. -/
def plainCrypto : ApiKeyCrypto := ⟨⟨clearGcm, fun key _ => key⟩, fun apiKey storedHash => apiKey == storedHash⟩

def apiKeyKek : KekPair := ⟨List.replicate 32 7, none⟩

def apiKeySeal (plaintext aad : Bytes) : Bytes :=
  List.replicate 12 0 ++ clearGcm.encrypt apiKeyKek.current (List.replicate 12 0) plaintext aad

def keyedClient : ClientRegistration where
  clientId := "acme"
  clientName := "Acme"
  apiKeyHash := apiKeySeal (bytesOf "k-0123456789") Tool.apiKeyHashAad
  hmacSecret := apiKeySeal (List.replicate 32 9) sessionAad
  createdAt := 0
  lastUsed := none
  rateLimit := 100
  allowedSchemas := []
  maxValidityDays := 30
  active := true
  encrypted := true
  secretStatus := .active
  previousHmacSecret := none
  role := .issuer
  kvKey := none

def keyedClientRead : ClientRegistration :=
  { keyedClient with hmacSecret := List.replicate 32 9, kvKey := some (clientKey "issuer" "acme") }

def canonicalClients : ClientKv := (∅ : ClientKv).insert (clientKey "issuer" "acme") ⟨.record keyedClient, none⟩

def copiedClients : ClientKv := canonicalClients.insert "client:acme" ⟨.record keyedClient, none⟩

def keyedIndex : Kv String := (∅ : Kv String).insert "key_prefix:k-012345" ⟨"acme", none⟩

def keyedRead : ClientCall where
  authorizer := ⟨"v1", "acme", none, 0, "", ""⟩
  canonicalMessage := ""
  readings := .at 0
  faults := .none
  purgeFaults := .none
  config := .ok ⟨"did:provii:issuer", "provii.app", "main", none⟩
  kek := .ok apiKeyKek
  lookup := 0
  lookupFails := false
  reread := 0
  rereadFails := false
  write := 0
  writeFails := false

def keyedCall : ApiKeyCall := ⟨true, true, 0, false, fun _ => false, .ok apiKeyKek, .ok apiKeyKek⟩

theorem copied_client_verified : AgreesWithStore plainCrypto keyedCall keyedIndex copiedClients "k-0123456789" keyedClientRead := by
  refine (api_key_agrees_iff plainCrypto keyedRead keyedCall keyedIndex copiedClients "acme" "k-0123456789" "k-0123456789"
    keyedClientRead (by decide +kernel) (by decide +kernel) (by decide +kernel) (by decide +kernel)).mpr
    ⟨⟨rfl, rfl⟩, by decide +kernel, "client:acme", keyedClient, by decide +kernel, ⟨by decide +kernel, ?_⟩, .inr ⟨rfl, ?_⟩⟩
  · exact ⟨⟨apiKeyKek, rfl, by decide +kernel, by decide +kernel⟩, by decide +kernel, by decide +kernel⟩
  · have hnone : candidateRecord keyedCall copiedClients keyedClientRead.clientId = none := by decide +kernel
    rw [hnone]
    simp

/-- The client is stored as `get_client_by_id` expects it, and its key is rejected. -/
theorem canonical_client_rejected :
    getClientById plainCrypto.toClientCrypto keyedRead "acme" canonicalClients = .ok (some keyedClientRead) ∧
    decryptApiKeyHash plainCrypto.gcm keyedCall.hashKek keyedClientRead.apiKeyHash = .ok "k-0123456789" ∧
    plainCrypto.verifyApiKey "k-0123456789" "k-0123456789" = true ∧
    kvGet false keyedIndex 0 "key_prefix:k-012345" = .ok (some "acme") ∧
    verifyApiKey plainCrypto keyedCall keyedIndex canonicalClients "k-0123456789" = .error invalidApiKey ∧
    ¬AgreesWithStore plainCrypto keyedCall keyedIndex canonicalClients "k-0123456789" keyedClientRead := by
  have hrejected : verifyApiKey plainCrypto keyedCall keyedIndex canonicalClients "k-0123456789" = .error invalidApiKey := by
    decide +kernel
  refine ⟨by decide +kernel, by decide +kernel, by decide +kernel, by decide +kernel, hrejected, ?_⟩
  rintro ⟨kvKey, data, hverify, -⟩
  rw [hrejected] at hverify
  cases hverify

end Issuer
