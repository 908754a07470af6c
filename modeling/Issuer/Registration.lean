import Issuer.KekTool

/-!
# Stored officers and clients

The registrations in `ISSUER_OFFICER_REGISTRY` and `ISSUER_CLIENTS` as JSON, and the worker's readers of
them: `get_officer_by_id`, `get_client_by_id` (of which `clientsOf` gives the decoded namespace) and
`decrypt_api_key_hash`. The two functions that write the time of use are programs of requests, so that
they can be interleaved with a run of the rotation tool.
-/

namespace Issuer

open Rust Store

/-! ## JSON -/

def Role.name : Role → String
  | .admin => "admin"
  | .issuer => "issuer"
  | .viewer => "viewer"

def Role.ofName (s : String) : Option Role :=
  if s = "admin" then some .admin
  else if s = "issuer" then some .issuer
  else if s = "viewer" then some .viewer
  else none

def Role.ofJson : Json → Option Role
  | .str s => ofName s
  | .obj [(s, .null)] => ofName s
  | _ => none

def optionalJson {α : Type} (encode : α → Json) : Option α → Json
  | some a => encode a
  | none => .null

/-- `skip_serializing_if = "Option::is_none"`. -/
def optionalMember {α : Type} (name : String) (encode : α → Json) : Option α → List (String × Json)
  | some a => [(name, encode a)]
  | none => []

def asI64 : Json → Option Int := Json.asInt i64Min i64Max

def asU32 (j : Json) : Option Nat := (Json.asInt 0 u32Max j).map Int.toNat

def asStrings : Json → Option (List String)
  | .arr elements => elements.mapM Json.asStr
  | _ => none

structure OfficerRegistration where
  officerId : String
  hmacSecret : Bytes
  createdAt : Int
  lastUsed : Option Int
  active : Bool
  encrypted : Bool
  secretStatus : KeyStatus
  previousHmacSecret : Option Bytes
  role : Role
deriving DecidableEq, Repr

namespace OfficerRegistration

def toJson (o : OfficerRegistration) : Json :=
  .obj ([("officer_id", .str o.officerId), ("hmac_secret", .ofBytes o.hmacSecret), ("created_at", .num o.createdAt),
      ("last_used", optionalJson .num o.lastUsed), ("active", .bool o.active), ("encrypted", .bool o.encrypted),
      ("secret_status", .str o.secretStatus.name)] ++
    optionalMember "previous_hmac_secret" .ofBytes o.previousHmacSecret ++ [("role", .str o.role.name)])

def ofJson (j : Json) : Option OfficerRegistration := do
  if !j.fits 9 then none
  let officerId ← j.required Json.asStr 0 ["officer_id"]
  let hmacSecret ← j.required Json.asBytes 1 ["hmac_secret"]
  let createdAt ← j.required asI64 2 ["created_at"]
  let lastUsed ← j.optional asI64 3 ["last_used"]
  let active ← j.required Json.asBool 4 ["active"]
  let encrypted ← j.defaulted Json.asBool 5 ["encrypted"] false
  let secretStatus ← j.defaulted KeyStatus.ofJson 6 ["secret_status"] .active
  let previousHmacSecret ← j.optional Json.asBytes 7 ["previous_hmac_secret"]
  let role ← j.defaulted Role.ofJson 8 ["role"] .issuer
  return { officerId, hmacSecret, createdAt, lastUsed, active, encrypted, secretStatus, previousHmacSecret, role }

end OfficerRegistration

namespace ClientRegistration

def toJson (c : ClientRegistration) : Json :=
  .obj ([("client_id", .str c.clientId), ("client_name", .str c.clientName), ("api_key_hash", .ofBytes c.apiKeyHash),
      ("hmac_secret", .ofBytes c.hmacSecret), ("created_at", .num c.createdAt),
      ("last_used", optionalJson .num c.lastUsed), ("rate_limit", .num c.rateLimit),
      ("allowed_schemas", .arr (c.allowedSchemas.map .str)), ("max_validity_days", .num c.maxValidityDays),
      ("active", .bool c.active), ("encrypted", .bool c.encrypted), ("secret_status", .str c.secretStatus.name)] ++
    optionalMember "previous_hmac_secret" .ofBytes c.previousHmacSecret ++ [("role", .str c.role.name)])

/-- `kv_key` is skipped. -/
def ofJson (j : Json) : Option ClientRegistration := do
  if !j.fits 14 then none
  let clientId ← j.required Json.asStr 0 ["client_id"]
  let clientName ← j.required Json.asStr 1 ["client_name"]
  let apiKeyHash ← j.required Json.asBytes 2 ["api_key_hash"]
  let hmacSecret ← j.required Json.asBytes 3 ["hmac_secret"]
  let createdAt ← j.required asI64 4 ["created_at"]
  let lastUsed ← j.optional asI64 5 ["last_used"]
  let rateLimit ← j.required asU32 6 ["rate_limit"]
  let allowedSchemas ← j.required asStrings 7 ["allowed_schemas"]
  let maxValidityDays ← j.required asU32 8 ["max_validity_days"]
  let active ← j.required Json.asBool 9 ["active"]
  let encrypted ← j.defaulted Json.asBool 10 ["encrypted"] false
  let secretStatus ← j.defaulted KeyStatus.ofJson 11 ["secret_status"] .active
  let previousHmacSecret ← j.optional Json.asBytes 12 ["previous_hmac_secret"]
  let role ← j.defaulted Role.ofJson 13 ["role"] .issuer
  return ⟨clientId, clientName, apiKeyHash, hmacSecret, createdAt, lastUsed, rateLimit, allowedSchemas, maxValidityDays, active,
    encrypted, secretStatus, previousHmacSecret, role, none⟩

end ClientRegistration

/-! ## Readers -/

def officerKey (issuerKid officerId : String) : String := "issuer:" ++ issuerKid ++ ":officer:" ++ officerId

section
variable (A : AesGcm)

/-- The part of `get_officer_by_id` after the record has been parsed. -/
def OfficerRegistration.open (officer : OfficerRegistration) (kek : Except ApiError KekPair) :
    Except ApiError (Option OfficerRegistration) :=
  if !officer.active then return none
  else if !officer.encrypted then throw (.cryptoError "Unencrypted HMAC secret not supported")
  else do
    let kekPair ← kek
    let hmacSecret ← decryptWithKekFallback A kekPair officer.hmacSecret sessionAad
    let previousHmacSecret ← officer.previousHmacSecret.mapM fun prev => decryptWithKekFallback A kekPair prev sessionAad
    return some { officer with hmacSecret, previousHmacSecret }

/-- `fails` says that the read does. -/
def getOfficerById (fails : Bool) (issuerKid officerId : String) (kek : Except ApiError KekPair)
    (kv : Table String (Cell Json)) : Except ApiError (Option OfficerRegistration) := do
  validateIdentifier officerId "officer_id"
  if fails then throw (.storageError "Failed to get officer")
  match kv[officerKey issuerKid officerId]? with
  | none => return none
  | some .garbled => throw .json
  | some (.record j) =>
    match OfficerRegistration.ofJson j with
    | none => throw .json
    | some officer => officer.open A kek

/-- `api_key_hash` is not decrypted with the client but where an API key is checked. -/
def decryptApiKeyHash (kek : Except ApiError KekPair) (encryptedHash : Bytes) : Except ApiError String := do
  let kekPair ← kek
  let decryptedBytes ← decryptWithKekFallback A kekPair encryptedHash Tool.apiKeyHashAad
  match String.fromUTF8? ⟨decryptedBytes.toArray⟩ with
  | some hash => return hash
  | none => throw (.cryptoError "Invalid UTF-8 in decrypted hash")

end

def clientCell : Cell Json → Cell ClientRegistration
  | .garbled => .garbled
  | .record j =>
    match ClientRegistration.ofJson j with
    | some c => .record c
    | none => .garbled

/-- The namespace as `get_client_by_id` sees it; nothing in it expires. -/
def clientsOf (kv : Table String (Cell Json)) : ClientKv := kv.map fun _ cell => ⟨clientCell cell, none⟩

theorem clientsOf_get (kv : Table String (Cell Json)) (now : Nat) (key : String) :
    Store.get (clientsOf kv) now key = kv[key]?.map clientCell := by
  simp only [Store.get, clientsOf, Std.TreeMap.getElem?_map]
  cases kv[key]? with
  | none => rfl
  | some cell => rfl

/-! ## The time of use -/

open Tool

def updateOfficerLastUsedById (issuerKid officerId : String) (now : UInt64) : ToolProg (Except ApiError Unit) :=
  match validateIdentifier officerId "officer_id" with
  | .error e => .ret (.error e)
  | .ok () =>
    let key := officerKey issuerKid officerId
    .ask (.get .officers key) fun data =>
      match data with
      | none => .ret (.error (.notFound "Officer not found"))
      | some .garbled => .ret (.error .json)
      | some (.record j) =>
        match OfficerRegistration.ofJson j with
        | none => .ret (.error .json)
        | some officer =>
          .ask (.put .officers key (.record { officer with lastUsed := some (nowEpochSecs now) }.toJson)) fun _ => .ret (.ok ())

/-- `kvKey` is where the client was found when it authenticated. -/
def updateClientLastUsedAt (clientId : String) (kvKey : Option String) (now : UInt64) : ToolProg (Except ApiError Unit) :=
  match validateIdentifier clientId "client_id", kvKey with
  | .error e, _ => .ret (.error e)
  | .ok (), none => .ret (.error (.storageError "Client KV key not set during authentication"))
  | .ok (), some key =>
    .ask (.get .clients key) fun data =>
      match data with
      | none => .ret (.error (.notFound "Client not found"))
      | some .garbled => .ret (.error .json)
      | some (.record j) =>
        match ClientRegistration.ofJson j with
        | none => .ret (.error .json)
        | some client =>
          .ask (.put .clients key (.record { client with lastUsed := some (nowEpochSecs now) }.toJson)) fun _ => .ret (.ok ())

end Issuer
