import Issuer.ClientAuth
import Issuer.SigningKey
import Issuer.Lib.Batch
import Issuer.Lib.JsonObject
import Issuer.Lib.Prog

/-!
# Rotation of the key encryption key (`tools/key-rotation`)

The command line tool re-encrypts the namespaces that hold envelope-encrypted data. It works on the
stored JSON itself, by a table of namespaces and fields of its own. Each namespace is listed, its
entries are re-encrypted in memory, and the new values are written one by one if none has failed.

`rotateKek` is a program of requests to the KV interface. A request that fails ends the tool with an
error, so an interrupted run is one that stops after some of its requests.

A session is a base64url text and not JSON; it stands in its namespace as the string.
-/

namespace Issuer.Tool

open Rust Store Batch

/-! ## Namespaces -/

inductive NamespaceId where
  | keys
  | officers
  | clients
  | ed25519SigningKeys
  | sessions
deriving DecidableEq, Repr

abbrev KvStore := NamespaceId → Table String (Cell Json)

inductive AadSource where
  | fixed (aad : Bytes)
  | signingKeyVersion

structure EncryptedField where
  jsonKey : String
  aad : AadSource
  optional : Bool

structure EncryptedNamespace where
  label : String
  namespaceId : NamespaceId
  keyPrefix : String
  fields : List EncryptedField
  requiresEncryptedFlag : Bool

def apiKeyHashAad : Bytes := bytesOf "provii-issuer:api-key-hash:v1"

def ed25519KeyAad : Bytes := bytesOf "provii-issuer:ed25519-key:v1"

def hmacFields : List EncryptedField :=
  [⟨"hmac_secret", .fixed sessionAad, false⟩, ⟨"previous_hmac_secret", .fixed sessionAad, true⟩]

def signingKeysNs : EncryptedNamespace where
  label := "RedJubjub Signing Keys (ISSUER_KEYS)"
  namespaceId := .keys
  keyPrefix := "issuer:"
  fields := [⟨"sk", .signingKeyVersion, false⟩]
  requiresEncryptedFlag := true

def officersNs : EncryptedNamespace where
  label := "Officer Registrations (ISSUER_OFFICER_REGISTRY)"
  namespaceId := .officers
  keyPrefix := "issuer:"
  fields := hmacFields
  requiresEncryptedFlag := true

def clientsNs : EncryptedNamespace where
  label := "Client Registrations (ISSUER_CLIENTS)"
  namespaceId := .clients
  keyPrefix := "issuer:"
  fields := hmacFields ++ [⟨"api_key_hash", .fixed apiKeyHashAad, false⟩]
  requiresEncryptedFlag := true

def ed25519SigningKeysNs : EncryptedNamespace where
  label := "Ed25519 Signing Keys (ISSUER_ED25519_SIGNING_KEYS)"
  namespaceId := .ed25519SigningKeys
  keyPrefix := "signing:"
  fields := [⟨"signing_key", .fixed ed25519KeyAad, false⟩]
  requiresEncryptedFlag := true

def sessionsNs : EncryptedNamespace where
  label := "Sessions (ISSUER_SESSIONS)"
  namespaceId := .sessions
  keyPrefix := "session:"
  fields := []
  requiresEncryptedFlag := false

def encryptedNamespaces (includeSessions : Bool) : List EncryptedNamespace :=
  [signingKeysNs, officersNs, clientsNs, ed25519SigningKeysNs] ++ if includeSessions then [sessionsNs] else []

/-- `ns.label.contains("Sessions")`. -/
def EncryptedNamespace.isSessionNs (ns : EncryptedNamespace) : Bool :=
  decide ("Sessions".toList <:+: ns.label.toList)

/-! ## The cipher

Every caller has checked that the key has 32 bytes.
-/

section
variable (A : AesGcm)

def aesGcmDecrypt (kek data aad : Bytes) : Option Bytes :=
  if data.length < 12 then none else A.decrypt kek (data.take 12) (data.drop 12) aad

def aesGcmEncrypt (nonce : Vector UInt8 12) (kek plaintext aad : Bytes) : Bytes :=
  nonce.toList ++ A.encrypt kek nonce.toList plaintext aad

variable {A}

/-- The worker reads what the tool encrypts. -/
theorem decryptWithKek_aesGcmEncrypt (hA : A.Lawful) {kek : Bytes} (hkek : kek.length = 32) (nonce : Vector UInt8 12)
    (plaintext aad : Bytes) : decryptWithKek A kek (aesGcmEncrypt A nonce kek plaintext aad) aad = .ok plaintext := by
  have henc : encryptWithKek A nonce kek plaintext aad = .ok (aesGcmEncrypt A nonce kek plaintext aad) := by
    simp [encryptWithKek, aesGcmEncrypt, hkek]
  exact decryptWithKek_encrypt hA henc

/-- The tool opens what the worker does, and the other way round from 28 bytes on. -/
theorem decryptWithKek_eq_ok {kek data aad plaintext : Bytes} : decryptWithKek A kek data aad = .ok plaintext ↔
    28 ≤ data.length ∧ kek.length = 32 ∧ aesGcmDecrypt A kek data aad = some plaintext := by
  unfold decryptWithKek aesGcmDecrypt
  by_cases hlen : data.length < 28
  · simp [hlen]
  · by_cases hkek : kek.length = 32
    · have hlong : ¬data.length < 12 := by omega
      simp only [hlen, if_false, hkek, ne_eq, not_true_eq_false, hlong]
      cases A.decrypt kek (data.take 12) (data.drop 12) aad with
      | none => simp
      | some p =>
        simp only [Except.ok.injEq, Option.some.injEq, true_and]
        exact ⟨fun h => ⟨by omega, h⟩, fun h => h.2⟩
    · simp [hlen, hkek]

theorem aesGcmDecrypt_rejected {kek data aad : Bytes} (h : A.Rejects kek data aad) : aesGcmDecrypt A kek data aad = none := by
  unfold aesGcmDecrypt
  split
  · rfl
  · exact h

variable (A)

/-! ## Fields -/

def AadSource.bytes (record : Table String Json) : AadSource → Bytes
  | .fixed aad => aad
  | .signingKeyVersion => signingKeyAad ((record["version"]?.bind Json.asStr).getD "v1")

/-- The two ways in which bytes are stored. -/
inductive Form where
  | text
  | array
deriving DecidableEq, Repr

def Form.render : Form → Bytes → Json
  | .text, data => .str (Base64.encode data)
  | .array, data => .ofBytes data

inductive FieldValue where
  | absent
  | malformed
  | bytes (form : Form) (data : Bytes)
deriving DecidableEq, Repr

def fieldValue : Option Json → FieldValue
  | none => .absent
  | some .null => .absent
  | some (.str s) => match Base64.decode s with
    | some data => .bytes .text data
    | none => .malformed
  | some (.arr elements) => match elements.mapM Json.asU8 with
    | some data => .bytes .array data
    | none => .malformed
  | some _ => .malformed

def extractBytesFromJson : Option Json → Option Bytes
  | some (.str s) => Base64.decode s
  | some (.arr elements) => elements.mapM Json.asU8
  | _ => none

/-- One run of `rotate-kek`; `nonces` are the random bytes drawn for a namespace, key and field. -/
structure RotateKek where
  configured : NamespaceId → Bool
  includeSessions : Bool
  verifyOnly : Bool
  oldKek : Bytes
  newKek : Bytes
  nonces : NamespaceId → String → String → Vector UInt8 12

variable (r : RotateKek)

/-- One field of a record; the flag is `any_failed`. -/
def reencryptField (nonce : String → Vector UInt8 12) (acc : Table String Json × Bool) (field : EncryptedField) :
    Table String Json × Bool :=
  match fieldValue acc.1[field.jsonKey]? with
  | .absent => if field.optional then acc else (acc.1, true)
  | .malformed => (acc.1, true)
  | .bytes form data =>
    let aad := field.aad.bytes acc.1
    if r.verifyOnly then
      if (aesGcmDecrypt A r.newKek data aad).isSome then acc else (acc.1, true)
    else
      match aesGcmDecrypt A r.oldKek data aad with
      | none => (acc.1, true)
      | some plaintext =>
        let newCiphertext := aesGcmEncrypt A (nonce field.jsonKey) r.newKek plaintext aad
        (acc.1.insert field.jsonKey (form.render newCiphertext), acc.2)

/-- An outer `none` is an error, an inner one says that the blob has been verified. -/
def reEncryptSessionBlob (nonce : Vector UInt8 12) (rawValue : String) : Option (Option String) := do
  let encryptedBytes ← Base64.decode rawValue
  if r.verifyOnly then
    let _ ← aesGcmDecrypt A r.newKek encryptedBytes sessionAad
    return none
  else
    let plaintext ← aesGcmDecrypt A r.oldKek encryptedBytes sessionAad
    return some (Base64.encode (aesGcmEncrypt A nonce r.newKek plaintext sessionAad))

/-! ## Entries -/

/-- `record.get("encrypted")` is `true`. -/
def encryptedFlag (record : Table String Json) : Bool := (record["encrypted"]?.bind Json.asBool).getD false

/-- What becomes of an entry in Phase 1. An entry that is only verified is not written either. -/
def stageEntry (ns : EncryptedNamespace) (key : String) : Cell Json → Decision (Cell Json)
  | .garbled => .fail
  | .record j =>
    if ns.isSessionNs then
      match j.asStr.bind (reEncryptSessionBlob A r (r.nonces ns.namespaceId key "")) with
      | none => .fail
      | some none => .skip
      | some (some blob) => .put (.record (.str blob))
    else if ns.requiresEncryptedFlag && !encryptedFlag j.entries then .skip
    else
      let (record, anyFailed) := ns.fields.foldl (reencryptField A r (r.nonces ns.namespaceId key)) (j.entries, false)
      if anyFailed then .fail
      else if r.verifyOnly then .skip
      else .put (.record (.ofEntries record))

/-! ## The run -/

inductive KvOp where
  | list (ns : NamespaceId)
  | get (ns : NamespaceId) (key : String)
  | put (ns : NamespaceId) (key : String) (value : Cell Json)

@[reducible] def KvAns : KvOp → Type
  | .list _ => List String
  | .get _ _ => Option (Cell Json)
  | .put _ _ _ => Unit

def kvStep (store : KvStore) (_ : Unit) : (o : KvOp) → KvAns o × KvStore
  | .list ns => ((store ns).keys, store)
  | .get ns key => ((store ns)[key]?, store)
  | .put ns key value => ((), Batch.put store ns key value)

abbrev ToolProg := Prog KvOp KvAns

structure Staging where
  writes : List (String × Cell Json)
  failedEntries : List String

def Staging.add (s : Staging) (ns : EncryptedNamespace) (key : String) : Decision (Cell Json) → Staging
  | .skip => s
  | .fail => { s with failedEntries := s.failedEntries ++ [ns.label ++ ":" ++ key] }
  | .put value => { s with writes := s.writes ++ [(key, value)] }

/-- An entry that has gone meanwhile is passed over. -/
def stageValue (ns : EncryptedNamespace) (key : String) (s : Staging) : Option (Cell Json) → Staging
  | none => s
  | some value => s.add ns key (stageEntry A r ns key value)

def stageKeys (ns : EncryptedNamespace) : List String → Staging → ToolProg Staging
  | [], s => .ret s
  | key :: keys, s => .ask (.get ns.namespaceId key) fun rawValue => stageKeys ns keys (stageValue A r ns key s rawValue)

def commitWrites (ns : EncryptedNamespace) : List (String × Cell Json) → ToolProg Unit
  | [] => .ret ()
  | w :: ws => .ask (.put ns.namespaceId w.1 w.2) fun _ => commitWrites ns ws

def commitStaged (ns : EncryptedNamespace) (s : Staging) : ToolProg Unit :=
  if s.failedEntries.isEmpty && !r.verifyOnly then commitWrites ns s.writes else .ret ()

def rotateNamespaces : List EncryptedNamespace → List String → ToolProg (Except String Unit)
  | [], failed =>
    .ret (if failed.isEmpty then .ok () else .error s!"{failed.length} entries failed to process. See errors above.")
  | ns :: rest, failed =>
    if !r.configured ns.namespaceId then rotateNamespaces rest failed
    else .ask (.list ns.namespaceId) fun (allKeys : List String) => do
      let s ← stageKeys A r ns (allKeys.filter (hasPrefix ns.keyPrefix)) ⟨[], []⟩
      commitStaged r ns s
      rotateNamespaces rest (failed ++ s.failedEntries)

def rotateKek : ToolProg (Except String Unit) :=
  if r.oldKek.length ≠ 32 then .ret (.error s!"Old KEK must be exactly 32 bytes, got {r.oldKek.length}")
  else if r.newKek.length ≠ 32 then .ret (.error s!"New KEK must be exactly 32 bytes, got {r.newKek.length}")
  else rotateNamespaces A r (encryptedNamespaces r.includeSessions) []

def runKek (store : KvStore) : Except String Unit × KvStore := (rotateKek A r).run kvStep () store

def puts (ops : List KvOp) : List (NamespaceId × String × Cell Json) :=
  ops.filterMap fun
    | .put ns key value => some (ns, key, value)
    | _ => none

def kekPuts (store : KvStore) : List (NamespaceId × String × Cell Json) :=
  puts ((rotateKek A r).trace kvStep () store)

/-- The store when a run has been cut off after `n` of its writes. -/
def interrupted (n : Nat) (store : KvStore) : KvStore := Batch.commit store ((kekPuts A r store).take n)

/-! ## Checking a rotation -/

inductive EntryDecryptResult where
  | current
  | previous
  | neither
  | skipped
deriving DecidableEq, Repr

section
variable (currentKek : Bytes) (previousKek : Option Bytes)

def decryptResult (data aad : Bytes) : EntryDecryptResult :=
  if (aesGcmDecrypt A currentKek data aad).isSome then .current
  else if previousKek.any fun prev => (aesGcmDecrypt A prev data aad).isSome then .previous
  else .neither

/-- The loop over the fields, which stops at the first one that is there. -/
def fieldsResult (record : Table String Json) : List EncryptedField → EntryDecryptResult
  | [] => .skipped
  | field :: fields =>
    match extractBytesFromJson record[field.jsonKey]? with
    | none => if field.optional then fieldsResult record fields else .neither
    | some data => decryptResult A currentKek previousKek data (field.aad.bytes record)

def entryResult (ns : EncryptedNamespace) : Cell Json → EntryDecryptResult
  | .garbled => .skipped
  | .record j =>
    if ns.isSessionNs then
      match j.asStr.bind Base64.decode with
      | none => .skipped
      | some data => decryptResult A currentKek previousKek data sessionAad
    else if ns.requiresEncryptedFlag && !encryptedFlag j.entries then .skipped
    else fieldsResult A currentKek previousKek j.entries ns.fields

structure VerifyCounts where
  current : Nat
  previous : Nat
  neither : Nat
  skipped : Nat
deriving DecidableEq, Repr

def VerifyCounts.add (c : VerifyCounts) : EntryDecryptResult → VerifyCounts
  | .current => { c with current := c.current + 1 }
  | .previous => { c with previous := c.previous + 1 }
  | .neither => { c with neither := c.neither + 1 }
  | .skipped => { c with skipped := c.skipped + 1 }

def verifyNamespace (store : KvStore) (c : VerifyCounts) (ns : EncryptedNamespace) : VerifyCounts :=
  ((store ns.namespaceId).keys.filter (hasPrefix ns.keyPrefix)).foldl
    (fun c key => c.add (match (store ns.namespaceId)[key]? with
      | none => .skipped
      | some value => entryResult A currentKek previousKek ns value)) c

def verifyRotation (configured : NamespaceId → Bool) (includeSessions : Bool) (store : KvStore) :
    Except String VerifyCounts :=
  if currentKek.length ≠ 32 then .error "Current KEK must be 32 bytes"
  else if previousKek.any (·.length ≠ 32) then .error "Previous KEK must be 32 bytes"
  else
    let counts := ((encryptedNamespaces includeSessions).filter fun ns => configured ns.namespaceId).foldl
      (verifyNamespace A currentKek previousKek store) ⟨0, 0, 0, 0⟩
    if counts.neither > 0 then .error "Undecryptable entries found" else .ok counts

/-- The report "All entries decrypt with the current KEK. Safe to remove ISSUER_KEK_PREVIOUS." -/
def reportsSafe : Except String VerifyCounts → Bool
  | .ok counts => counts.previous == 0 && counts.neither == 0
  | .error _ => false

end

end

end Issuer.Tool
