import Issuer.KekVerify
import Issuer.LastUsedSound

/-!
# Rotating single secrets with the command line tool

`rotate-signing-key`, `rotate-officer-hmac` and `rotate-client-hmac` work on records under key names of the
tool's own: `rj:keypair:{kid}`, `officer:id:{id}`, `client:id:{id}`. The worker reads
`issuer:{issuer_kid}:…`, so that what a command writes is not what the worker uses
(`cliRotation_seen_iff`).
-/

namespace Issuer.Tool

open Rust Store

/-! ## Commands -/

def isKeyChar (c : Char) : Bool := c.isAlphanum || c == '-' || c == '_' || c == '.'

/-- `validate_identifier` of the tool. -/
def validateArgument (name value : String) : Except String Unit :=
  if value.isEmpty then .error s!"{name} must not be empty"
  else if value.utf8ByteSize > 128 then .error s!"{name} must be at most 128 characters (got {value.utf8ByteSize})"
  else if !value.toList.all isKeyChar then
    .error s!"{name} contains invalid characters (allowed: ASCII alphanumeric, hyphen, underscore, dot)"
  else .ok ()

def determineNamespace (key : String) : Except String NamespaceId :=
  if hasPrefix "rj:keypair:" key then .ok .keys
  else if hasPrefix "officer:" key then .ok .officers
  else if hasPrefix "client:" key then .ok .clients
  else .error s!"Unable to determine namespace for key: {key}"

def getKvValue (key : String) (k : Option (Cell Json) → ToolProg (Except String Unit)) : ToolProg (Except String Unit) :=
  match determineNamespace key with
  | .error e => .ret (.error e)
  | .ok ns => .ask (.get ns key) k

def putKvValue (key : String) (value : Json) (rest : ToolProg (Except String Unit)) : ToolProg (Except String Unit) :=
  match determineNamespace key with
  | .error e => .ret (.error e)
  | .ok ns => .ask (.put ns key (.record value)) fun _ => rest

/-- `record[name] = value`, which panics on what is neither an object nor null. -/
def assign (record : Json) (name : String) (value : Json) : Option Json :=
  match record with
  | .obj members => some (.ofEntries ((Json.obj members).entries.insert name value))
  | .null => some (.ofEntries ((∅ : Table String Json).insert name value))
  | _ => none

def member (record : Json) (name : String) : Json := record.entries[name]?.getD .null

/-- The random values of a command and the clock. -/
structure Draw where
  kek : Bytes
  nonce : Vector UInt8 12
  now : Int

section
variable (A : AesGcm) (d : Draw)

def checkKek (p : ToolProg (Except String Unit)) : ToolProg (Except String Unit) :=
  if d.kek.length ≠ 32 then .ret (.error s!"KEK must be exactly 32 bytes, got {d.kek.length}") else p

def newKeypair (newKid : String) (sk vk : Bytes) : Json :=
  .obj [("kid", .str newKid), ("sk", .str (Base64.encode (aesGcmEncrypt A d.nonce d.kek sk (signingKeyAad "v1")))),
    ("vk", .str (Base64.encode vk)), ("encrypted", .bool true), ("version", .str "v1"), ("status", .str "active"),
    ("created_at", .num d.now), ("deprecated_at", .null), ("revoked_at", .null)]

def rotateSigningKeyCommand (oldKid newKid : String) (sk vk : Bytes) : ToolProg (Except String Unit) :=
  checkKek d <| getKvValue ("rj:keypair:" ++ oldKid) fun
    | none => .ret (.error s!"Old keypair not found: {oldKid}")
    | some .garbled => .ret (.error "invalid JSON")
    | some (.record oldKeypair) =>
      putKvValue ("rj:keypair:" ++ newKid) (newKeypair A d newKid sk vk) <|
        match (assign oldKeypair "status" (.str "deprecated")).bind fun record => assign record "deprecated_at" (.num d.now) with
        | none => .ret (.error "panicked: cannot access key in JSON")
        | some oldKeypair => putKvValue ("rj:keypair:" ++ oldKid) oldKeypair (.ret (.ok ()))

def withNewSecret (record : Json) (secret : Bytes) : Option Json := do
  let encryptedSecret := aesGcmEncrypt A d.nonce d.kek secret sessionAad
  let record ← assign record "previous_hmac_secret" (member record "hmac_secret")
  let record ← assign record "hmac_secret" (.str (Base64.encode encryptedSecret))
  let record ← assign record "encrypted" (.bool true)
  assign record "secret_status" (.str "active")

def rotateOfficerHmac (officerId : String) (secret : Bytes) : ToolProg (Except String Unit) :=
  checkKek d <| getKvValue ("officer:id:" ++ officerId) fun
    | none => .ret (.error "Officer not found")
    | some .garbled => .ret (.error "invalid JSON")
    | some (.record officer) =>
      match withNewSecret A d officer secret with
      | none => .ret (.error "panicked: cannot access key in JSON")
      | some officer => putKvValue ("officer:id:" ++ officerId) officer (.ret (.ok ()))

def rotateClientHmac (clientId : String) (secret : Bytes) : ToolProg (Except String Unit) :=
  checkKek d <| getKvValue ("client:id:" ++ clientId) fun
    | none => .ret (.error "Client not found")
    | some .garbled => .ret (.error "invalid JSON")
    | some (.record client) =>
      match withNewSecret A d client secret with
      | none => .ret (.error "panicked: cannot access key in JSON")
      | some client =>
        match (member client "api_key_hash").asStr with
        | none => .ret (.error "Missing api_key_hash")
        | some apiKeyHash =>
          putKvValue ("client:id:" ++ clientId) client <|
            putKvValue ("client:api:" ++ apiKeyHash) (.obj [("client_id", .str clientId)]) (.ret (.ok ()))

/-- A command, with the secret it has drawn. -/
inductive CliRotation where
  | signingKey (oldKid newKid : String) (sk vk : Bytes)
  | officerHmac (officerId : String) (secret : Bytes)
  | clientHmac (clientId : String) (secret : Bytes)

/-- The arguments are checked before anything else. -/
def CliRotation.prog : CliRotation → ToolProg (Except String Unit)
  | .signingKey oldKid newKid sk vk =>
    match validateArgument "old_kid" oldKid, validateArgument "new_kid" newKid with
    | .error e, _ => .ret (.error e)
    | _, .error e => .ret (.error e)
    | .ok (), .ok () => rotateSigningKeyCommand A d oldKid newKid sk vk
  | .officerHmac officerId secret =>
    match validateArgument "officer_id" officerId with
    | .error e => .ret (.error e)
    | .ok () => rotateOfficerHmac A d officerId secret
  | .clientHmac clientId secret =>
    match validateArgument "client_id" clientId with
    | .error e => .ret (.error e)
    | .ok () => rotateClientHmac A d clientId secret

def CliRotation.run (c : CliRotation) (store : KvStore) : Except String Unit × KvStore := (c.prog A d).run kvStep () store

end

/-! ## What the worker sees -/

section
variable (C : ClientCrypto) (kekPair : KekPair) (config : IssuerConfig) (now : UInt64)

def signingKeyOf (kid : String) (store : KvStore) : Except ApiError (Bytes × Bytes) :=
  getSigningKeypair C.gcm false (extractIssuerKid config.issuerId) kid (.ok kekPair) now (store .keys)

def officerOf (officerId : String) (store : KvStore) : Except ApiError (Option OfficerRegistration) :=
  getOfficerById C.gcm false (extractIssuerKid config.issuerId) officerId (.ok kekPair) (store .officers)

def clientOf (clientId : String) (store : KvStore) : Except ApiError (Option ClientRegistration) :=
  getClientById C (lookupCall kekPair config) clientId (clientsOf (store .clients))

/-- The worker has at most one active signing key. -/
def OneActive (store : KvStore) : Prop :=
  ∀ slot slot' j j' keypair keypair', (store .keys)[keyName (extractIssuerKid config.issuerId) slot]? = some (.record j) →
    (store .keys)[keyName (extractIssuerKid config.issuerId) slot']? = some (.record j') →
    KeypairRecord.ofJson j = some keypair → KeypairRecord.ofJson j' = some keypair' →
    keypair.status = .active → keypair'.status = .active → slot = slot'

/-- What was stored where the worker reads it is replaced by the new secret, the old one being the previous one. -/
def CliRotation.Seen (store store' : KvStore) : CliRotation → Prop
  | .signingKey oldKid newKid sk vk => ∀ keypair, signingKeyOf C kekPair config now oldKid store = .ok keypair →
    signingKeyOf C kekPair config now newKid store' = .ok (sk, vk) ∧ OneActive config store'
  | .officerHmac officerId secret => ∀ officer, officerOf C kekPair config officerId store = .ok (some officer) →
    ∃ officer', officerOf C kekPair config officerId store' = .ok (some officer') ∧ officer'.hmacSecret = secret ∧
      officer'.previousHmacSecret = some officer.hmacSecret
  | .clientHmac clientId secret => ∀ client, clientOf C kekPair config clientId store = .ok (some client) →
    ∃ client', clientOf C kekPair config clientId store' = .ok (some client') ∧ client'.hmacSecret = secret ∧
      client'.previousHmacSecret = some client.hmacSecret

/-- There is a record under the tool's own key that the command can rewrite. -/
def CliRotation.Accepted (d : Draw) (store : KvStore) : CliRotation → Prop
  | .signingKey oldKid newKid _ _ => d.kek.length = 32 ∧ validateArgument "old_kid" oldKid = .ok () ∧
    validateArgument "new_kid" newKid = .ok () ∧ ∃ j, (store .keys)["rj:keypair:" ++ oldKid]? = some (.record j) ∧
      (j = .null ∨ ∃ members, j = .obj members)
  | .officerHmac officerId _ => d.kek.length = 32 ∧ validateArgument "officer_id" officerId = .ok () ∧
    ∃ j, (store .officers)["officer:id:" ++ officerId]? = some (.record j) ∧ (j = .null ∨ ∃ members, j = .obj members)
  | .clientHmac clientId _ => d.kek.length = 32 ∧ validateArgument "client_id" clientId = .ok () ∧
    ∃ members hash, (store .clients)["client:id:" ++ clientId]? = some (.record (.obj members)) ∧
      (Json.obj members).entries["api_key_hash"]? = some (.str hash)

/-- The drawn secret is the one that the worker has as the current one already, and as the previous one. -/
def CliRotation.Coincides (store : KvStore) : CliRotation → Prop
  | .signingKey oldKid newKid sk vk => ∀ keypair, signingKeyOf C kekPair config now oldKid store = .ok keypair →
    signingKeyOf C kekPair config now newKid store = .ok (sk, vk) ∧ OneActive config store
  | .officerHmac officerId secret => ∀ officer, officerOf C kekPair config officerId store = .ok (some officer) →
    officer.hmacSecret = secret ∧ officer.previousHmacSecret = some secret
  | .clientHmac clientId secret => ∀ client, clientOf C kekPair config clientId store = .ok (some client) →
    client.hmacSecret = secret ∧ client.previousHmacSecret = some secret

end

/-! ## Where the commands write -/

def Spares : KvOp → Prop
  | .put _ key _ => hasPrefix "issuer:" key = false
  | _ => True

theorem head_of_hasPrefix {p s : String} {c : Char} {cs : List Char} (hp : p.toList = c :: cs) (h : hasPrefix p s = true) :
    s.toList.head? = some c := by
  rw [hasPrefix, hp, List.isPrefixOf_iff_prefix] at h
  obtain ⟨t, ht⟩ := h
  rw [← ht]
  rfl

theorem not_issuer_of_namespace {key : String} {ns : NamespaceId} (h : determineNamespace key = .ok ns) :
    hasPrefix "issuer:" key = false := by
  refine Bool.eq_false_iff.mpr fun hissuer => ?_
  have hhead := head_of_hasPrefix (p := "issuer:") rfl hissuer
  unfold determineNamespace at h
  split at h
  · rename_i hp
    rw [head_of_hasPrefix (p := "rj:keypair:") rfl hp] at hhead
    exact absurd hhead (by decide)
  · split at h
    · rename_i hp
      rw [head_of_hasPrefix (p := "officer:") rfl hp] at hhead
      exact absurd hhead (by decide)
    · split at h
      · rename_i hp
        rw [head_of_hasPrefix (p := "client:") rfl hp] at hhead
        exact absurd hhead (by decide)
      · cases h

theorem run_spares {α : Type} {Q : α → Prop} : ∀ (p : ToolProg α) (store : KvStore), p.Safe Spares (fun _ _ => True) Q →
    ∀ (ns : NamespaceId) (key : String), hasPrefix "issuer:" key = true → ((p.run kvStep () store).2 ns)[key]? = (store ns)[key]?
  | .ret _, _, _, _, _, _ => rfl
  | .ask (.list _) k, store, h, ns, key, hkey => run_spares (k _) store (h.2 _ trivial) ns key hkey
  | .ask (.get _ _) k, store, h, ns, key, hkey => run_spares (k _) store (h.2 _ trivial) ns key hkey
  | .ask (.put ns' key' value) k, store, h, ns, key, hkey => by
    have hspare : hasPrefix "issuer:" key' = false := h.1
    rw [Prog.run_ask, run_spares (k _) _ (h.2 _ trivial) ns key hkey]
    simp only [kvStep]
    rw [Batch.put_get, if_neg fun he => ?_]
    cases he
    rw [hkey] at hspare
    cases hspare

section
variable {A : AesGcm} {d : Draw}

theorem safe_checkKek {p : ToolProg (Except String Unit)} (hp : p.Safe Spares (fun _ _ => True) (fun _ => True)) :
    (checkKek d p).Safe Spares (fun _ _ => True) (fun _ => True) := by
  unfold checkKek
  split
  · exact trivial
  · exact hp

theorem safe_getKvValue {key : String} {k : Option (Cell Json) → ToolProg (Except String Unit)}
    (hk : ∀ x, (k x).Safe Spares (fun _ _ => True) (fun _ => True)) :
    (getKvValue key k).Safe Spares (fun _ _ => True) (fun _ => True) := by
  unfold getKvValue
  split
  · exact trivial
  · exact ⟨trivial, fun x _ => hk x⟩

theorem safe_putKvValue {key : String} {value : Json} {rest : ToolProg (Except String Unit)}
    (hrest : rest.Safe Spares (fun _ _ => True) (fun _ => True)) :
    (putKvValue key value rest).Safe Spares (fun _ _ => True) (fun _ => True) := by
  unfold putKvValue
  split
  · exact trivial
  · rename_i hns
    exact ⟨not_issuer_of_namespace hns, fun _ _ => hrest⟩

theorem command_spares (c : CliRotation) : (c.prog A d).Safe Spares (fun _ _ => True) (fun _ => True) := by
  cases c with
  | signingKey oldKid newKid sk vk =>
    simp only [CliRotation.prog]
    split
    · exact trivial
    · exact trivial
    · refine safe_checkKek (safe_getKvValue fun x => ?_)
      split
      · exact trivial
      · exact trivial
      · refine safe_putKvValue ?_
        split
        · exact trivial
        · exact safe_putKvValue trivial
  | officerHmac officerId secret =>
    simp only [CliRotation.prog]
    split
    · exact trivial
    · refine safe_checkKek (safe_getKvValue fun x => ?_)
      split
      · exact trivial
      · exact trivial
      · split
        · exact trivial
        · exact safe_putKvValue trivial
  | clientHmac clientId secret =>
    simp only [CliRotation.prog]
    split
    · exact trivial
    · refine safe_checkKek (safe_getKvValue fun x => ?_)
      split
      · exact trivial
      · exact trivial
      · split
        · exact trivial
        · split
          · exact trivial
          · exact safe_putKvValue (safe_putKvValue trivial)

end

theorem run_keeps (A : AesGcm) (d : Draw) (c : CliRotation) (store : KvStore) (ns : NamespaceId) {key : String}
    (hkey : hasPrefix "issuer:" key = true) : ((c.run A d store).2 ns)[key]? = (store ns)[key]? :=
  run_spares (c.prog A d) store (command_spares c) ns key hkey

section
variable {C : ClientCrypto} {kekPair : KekPair} {config : IssuerConfig} {now : UInt64} (d : Draw) (c : CliRotation) (store : KvStore)

theorem signingKeyOf_run (kid : String) :
    signingKeyOf C kekPair config now kid (c.run C.gcm d store).2 = signingKeyOf C kekPair config now kid store := by
  unfold signingKeyOf getSigningKeypair
  rw [run_keeps C.gcm d c store .keys (by simp [keyName, keyPrefix, String.append_assoc])]

theorem officerOf_run (officerId : String) :
    officerOf C kekPair config officerId (c.run C.gcm d store).2 = officerOf C kekPair config officerId store := by
  unfold officerOf getOfficerById
  rw [run_keeps C.gcm d c store .officers (by simp [officerKey, String.append_assoc])]

theorem clientOf_run (clientId : String) :
    clientOf C kekPair config clientId (c.run C.gcm d store).2 = clientOf C kekPair config clientId store := by
  unfold clientOf getClientById readClient kvGet lookupCall
  simp only [Except.ok_bind, clientsOf_get]
  rw [run_keeps C.gcm d c store .clients (by simp [clientKey, String.append_assoc])]

theorem oneActive_run : OneActive config (c.run C.gcm d store).2 ↔ OneActive config store := by
  have hkeep : ∀ slot, ((c.run C.gcm d store).2 .keys)[keyName (extractIssuerKid config.issuerId) slot]? =
      (store .keys)[keyName (extractIssuerKid config.issuerId) slot]? :=
    fun slot => run_keeps C.gcm d c store .keys (by simp [keyName, keyPrefix, String.append_assoc])
  simp only [OneActive, hkeep]

theorem seen_run : c.Seen C kekPair config now store (c.run C.gcm d store).2 ↔ c.Coincides C kekPair config now store := by
  cases c with
  | signingKey oldKid newKid sk vk => simp only [CliRotation.Seen, CliRotation.Coincides, signingKeyOf_run, oneActive_run]
  | officerHmac officerId secret =>
    simp only [CliRotation.Seen, CliRotation.Coincides, officerOf_run]
    refine forall_congr' fun officer => forall_congr' fun hread => ?_
    constructor
    · rintro ⟨officer', hread', rfl, hprevious⟩
      rw [hread] at hread'
      cases hread'
      exact ⟨rfl, hprevious⟩
    · rintro ⟨rfl, hprevious⟩
      exact ⟨officer, hread, rfl, hprevious⟩
  | clientHmac clientId secret =>
    simp only [CliRotation.Seen, CliRotation.Coincides, clientOf_run]
    refine forall_congr' fun client => forall_congr' fun hread => ?_
    constructor
    · rintro ⟨client', hread', rfl, hprevious⟩
      rw [hread] at hread'
      cases hread'
      exact ⟨rfl, hprevious⟩
    · rintro ⟨rfl, hprevious⟩
      exact ⟨client, hread, rfl, hprevious⟩

end

/-! ## When a command succeeds -/

section
variable {A : AesGcm} {d : Draw}

theorem run_checkKek {p : ToolProg (Except String Unit)} {store : KvStore} :
    ((checkKek d p).run kvStep () store).1 = .ok () ↔ d.kek.length = 32 ∧ (p.run kvStep () store).1 = .ok () := by
  unfold checkKek
  split
  · rename_i hne
    exact iff_of_false (by simp) fun h => hne h.1
  · rename_i heq
    exact (and_iff_right (not_not.mp heq)).symm

theorem run_getKvValue {key : String} {ns : NamespaceId} (hns : determineNamespace key = .ok ns)
    {k : Option (Cell Json) → ToolProg (Except String Unit)} {store : KvStore} :
    (getKvValue key k).run kvStep () store = (k (store ns)[key]?).run kvStep () store := by
  simp only [getKvValue, hns]
  rfl

theorem run_putKvValue {key : String} {ns : NamespaceId} (hns : determineNamespace key = .ok ns) {value : Json}
    {rest : ToolProg (Except String Unit)} {store : KvStore} : (putKvValue key value rest).run kvStep () store =
      rest.run kvStep () (Batch.put store ns key (.record value)) := by
  simp only [putKvValue, hns]
  rfl

theorem namespace_keypair (kid : String) : determineNamespace ("rj:keypair:" ++ kid) = .ok .keys := by
  simp [determineNamespace]

theorem hasPrefix_of_head {p s : String} {c c' : Char} {cs cs' : List Char} (hp : p.toList = c :: cs) (hs : s.toList = c' :: cs')
    (hne : c ≠ c') : hasPrefix p s = false := by
  refine Bool.eq_false_iff.mpr fun h => hne ?_
  have hhead := head_of_hasPrefix hp h
  rw [hs] at hhead
  exact (Option.some.inj hhead).symm

theorem namespace_officer (rest : String) : determineNamespace ("officer:" ++ rest) = .ok .officers := by
  have hkeypair : hasPrefix "rj:keypair:" ("officer:" ++ rest) = false :=
    hasPrefix_of_head rfl (String.toList_append) (by decide)
  simp [determineNamespace, hkeypair]

theorem namespace_client (rest : String) : determineNamespace ("client:" ++ rest) = .ok .clients := by
  have hkeypair : hasPrefix "rj:keypair:" ("client:" ++ rest) = false :=
    hasPrefix_of_head rfl (String.toList_append) (by decide)
  have hofficer : hasPrefix "officer:" ("client:" ++ rest) = false :=
    hasPrefix_of_head rfl (String.toList_append) (by decide)
  simp [determineNamespace, hkeypair, hofficer]

theorem officerId_key (id : String) : "officer:id:" ++ id = "officer:" ++ ("id:" ++ id) := by
  rw [← String.append_assoc]
  rfl

theorem clientId_key (id : String) : "client:id:" ++ id = "client:" ++ ("id:" ++ id) := by
  rw [← String.append_assoc]
  rfl

theorem clientApi_key (hash : String) : "client:api:" ++ hash = "client:" ++ ("api:" ++ hash) := by
  rw [← String.append_assoc]
  rfl

theorem assign_entries {record record' : Json} {name : String} {value : Json} (h : assign record name value = some record')
    (n : String) : record'.entries[n]? = if name = n then some value else record.entries[n]? := by
  cases record with
  | obj members =>
    cases h
    rw [Json.entries_ofEntries_get, insert_get]
  | null =>
    cases h
    rw [Json.entries_ofEntries_get, insert_get]
    rfl
  | _ => cases h

theorem withNewSecret_isSome (A : AesGcm) (d : Draw) (secret : Bytes) {record : Json} :
    (∃ record', withNewSecret A d record secret = some record') ↔ record = .null ∨ ∃ members, record = .obj members := by
  cases record <;> simp [withNewSecret, assign, Json.ofEntries]

theorem withNewSecret_member {secret : Bytes} {record record' : Json} (h : withNewSecret A d record secret = some record')
    {n : String} (hn : n ∉ ["previous_hmac_secret", "hmac_secret", "encrypted", "secret_status"]) :
    record'.entries[n]? = record.entries[n]? := by
  simp only [List.mem_cons, List.not_mem_nil, or_false, not_or] at hn
  simp only [withNewSecret, Option.bind_eq_bind, Option.bind_eq_some_iff] at h
  obtain ⟨r₁, h₁, r₂, h₂, r₃, h₃, h₄⟩ := h
  rw [assign_entries h₄, if_neg (Ne.symm hn.2.2.2), assign_entries h₃, if_neg (Ne.symm hn.2.2.1), assign_entries h₂,
    if_neg (Ne.symm hn.2.1), assign_entries h₁, if_neg (Ne.symm hn.1)]

theorem deprecated_isSome {record v w : Json} :
    (∃ record', ((assign record "status" v).bind fun r => assign r "deprecated_at" w) = some record') ↔
      record = .null ∨ ∃ members, record = .obj members := by
  cases record <;> simp [assign, Json.ofEntries]

theorem signingKey_ok_iff (oldKid newKid : String) (sk vk : Bytes) (store : KvStore) :
    ((CliRotation.signingKey oldKid newKid sk vk).run A d store).1 = .ok () ↔
      (CliRotation.signingKey oldKid newKid sk vk).Accepted d store := by
  simp only [CliRotation.run, CliRotation.prog, CliRotation.Accepted]
  cases hold : validateArgument "old_kid" oldKid with
  | error e => simp
  | ok _ =>
    cases hnew : validateArgument "new_kid" newKid with
    | error e => simp
    | ok _ =>
      simp only [rotateSigningKeyCommand, run_checkKek, run_getKvValue (namespace_keypair oldKid), true_and]
      refine and_congr_right fun _ => ?_
      cases (store .keys)["rj:keypair:" ++ oldKid]? with
      | none => simp
      | some cell =>
        cases cell with
        | garbled => simp
        | record j =>
          simp only [run_putKvValue (namespace_keypair newKid), Option.some.injEq, Cell.record.injEq, exists_eq_left']
          rw [← deprecated_isSome (v := .str "deprecated") (w := .num d.now)]
          cases (assign j "status" (.str "deprecated")).bind fun record => assign record "deprecated_at" (.num d.now) with
          | none => simp
          | some oldKeypair => simp [run_putKvValue (namespace_keypair oldKid)]

theorem officerHmac_ok_iff (officerId : String) (secret : Bytes) (store : KvStore) :
    ((CliRotation.officerHmac officerId secret).run A d store).1 = .ok () ↔
      (CliRotation.officerHmac officerId secret).Accepted d store := by
  simp only [CliRotation.run, CliRotation.prog, CliRotation.Accepted]
  cases hvalid : validateArgument "officer_id" officerId with
  | error e => simp
  | ok _ =>
    simp only [rotateOfficerHmac, run_checkKek, officerId_key, run_getKvValue (namespace_officer _), true_and]
    refine and_congr_right fun _ => ?_
    cases (store .officers)["officer:" ++ ("id:" ++ officerId)]? with
    | none => simp
    | some cell =>
      cases cell with
      | garbled => simp
      | record j =>
        simp only [Option.some.injEq, Cell.record.injEq, exists_eq_left']
        rw [← withNewSecret_isSome A d secret]
        cases withNewSecret A d j secret with
        | none => simp
        | some officer => simp [run_putKvValue (namespace_officer _)]

theorem clientHmac_ok_iff (clientId : String) (secret : Bytes) (store : KvStore) :
    ((CliRotation.clientHmac clientId secret).run A d store).1 = .ok () ↔
      (CliRotation.clientHmac clientId secret).Accepted d store := by
  simp only [CliRotation.run, CliRotation.prog, CliRotation.Accepted]
  cases hvalid : validateArgument "client_id" clientId with
  | error e => simp
  | ok _ =>
    simp only [rotateClientHmac, run_checkKek, clientId_key, run_getKvValue (namespace_client _), true_and]
    refine and_congr_right fun _ => ?_
    cases (store .clients)["client:" ++ ("id:" ++ clientId)]? with
    | none => simp
    | some cell =>
      cases cell with
      | garbled => simp
      | record j =>
        simp only [Option.some.injEq, Cell.record.injEq, exists_and_left]
        cases hnew : withNewSecret A d j secret with
        | none =>
          refine iff_of_false (by simp) ?_
          rintro ⟨members, hj, -⟩
          obtain ⟨client, hclient⟩ := (withNewSecret_isSome A d secret).mpr (.inr ⟨members, hj⟩)
          rw [hnew] at hclient
          cases hclient
        | some client =>
          have hmember := withNewSecret_member hnew (show "api_key_hash" ∉ _ by decide)
          simp only [member, hmember]
          rcases (withNewSecret_isSome A d secret).mp ⟨client, hnew⟩ with rfl | ⟨members, rfl⟩
          · simp [Json.entries, Json.asStr]
          · cases hhash : (Json.obj members).entries["api_key_hash"]? with
            | none => simp [Json.asStr, hhash]
            | some v =>
              cases v with
              | str hash => simp [Json.asStr, hhash, run_putKvValue (namespace_client _), clientApi_key]
              | _ => simp [Json.asStr, hhash]

/-- A command succeeds exactly when its arguments are in order and it can rewrite the record under the tool's key. -/
theorem run_ok_iff (c : CliRotation) (store : KvStore) : (c.run A d store).1 = .ok () ↔ c.Accepted d store := by
  cases c with
  | signingKey oldKid newKid sk vk => exact signingKey_ok_iff oldKid newKid sk vk store
  | officerHmac officerId secret => exact officerHmac_ok_iff officerId secret store
  | clientHmac clientId secret => exact clientHmac_ok_iff clientId secret store

end

/-- **Secrets rotated by the tool.** When a command succeeds the worker sees the new secret, with the old one as the
previous one, exactly when the command does not succeed or the drawn secret happens to be what the worker has already. -/
theorem cliRotation_seen_iff (C : ClientCrypto) (kekPair : KekPair) (config : IssuerConfig) (now : UInt64) (d : Draw)
    (c : CliRotation) (store : KvStore) :
    (∀ store', c.run C.gcm d store = (.ok (), store') → c.Seen C kekPair config now store store') ↔
      ¬c.Accepted d store ∨ c.Coincides C kekPair config now store := by
  rw [← run_ok_iff (A := C.gcm), ← seen_run d c store]
  constructor
  · intro h
    by_cases hok : (c.run C.gcm d store).1 = .ok ()
    · exact .inr (h _ (Prod.ext hok rfl))
    · exact .inl hok
  · rintro h store' hrun
    have hseen := h.resolve_left (not_not.mpr (by rw [hrun]))
    rw [hrun] at hseen
    exact hseen

/-! ## An officer under both names -/

def bothNames : KvStore
  | .officers => ((∅ : Table String (Cell Json)).insert "issuer:acme:officer:alice" (.record usedOfficer.toJson)).insert
      "officer:id:alice" (.record usedOfficer.toJson)
  | _ => ∅

def acmeConfig : IssuerConfig := ⟨"did:provii:acme", "acme.example", "v1", none⟩

def aliceRotation : CliRotation := .officerHmac "alice" (List.replicate 32 9)

def aliceDraw : Draw := ⟨drillKek.oldKek, Vector.replicate 12 9, 5⟩

/-- The command succeeds, and the worker still has the old secret and no previous one. -/
theorem rotated_officer_not_seen : (aliceRotation.run clearGcm aliceDraw bothNames).1 = .ok () ∧
    ¬aliceRotation.Seen drillCrypto ⟨drillKek.oldKek, none⟩ acmeConfig 0 bothNames
      (aliceRotation.run clearGcm aliceDraw bothNames).2 := by
  refine ⟨by decide +kernel, fun hseen => ?_⟩
  have hbefore : officerOf drillCrypto ⟨drillKek.oldKek, none⟩ acmeConfig "alice" bothNames =
      .ok (some { usedOfficer with hmacSecret := List.replicate 32 5 }) := by decide +kernel
  obtain ⟨hcurrent, -⟩ := (seen_run (C := drillCrypto) aliceDraw aliceRotation bothNames).mp hseen _ hbefore
  revert hcurrent
  decide

end Issuer.Tool
