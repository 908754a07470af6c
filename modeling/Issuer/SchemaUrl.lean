import Issuer.Platform

/-!
# Schema identifiers (`validate_schema_url`, `is_ascii_identifier`)

A schema is either a full URL on an allowed domain or a simple identifier such as `provii.age/0`.

Unicode normalization and the URL parser are a parameter (`SchemaText`).
-/

namespace Issuer

open Rust

structure ParsedUrl where
  scheme : String
  hostStr : Option String
deriving DecidableEq, Repr

structure SchemaText where
  nfc : String → String
  parseUrl : String → Option ParsedUrl

def maxSchemaLength : Nat := 128

def maxSchemaValueUrlLength : Nat := 500

def defaultAllowedSchemaDomains : List String := ["w3.org", "provii.app"]

/-- Printable ASCII without the space. -/
def isAsciiIdentifier (value : String) (maxLen : Nat) : Bool :=
  if value.isEmpty || decide (value.utf8ByteSize > maxLen) then false
  else value.toList.all fun c => decide (0x21 ≤ c.toNat ∧ c.toNat ≤ 0x7E)

def isSimpleIdentifierChar (c : Char) : Bool := c.isAlphanum || c == '.' || c == '/' || c == '-' || c == '_'

def containsDotDot : List Char → Bool
  | '.' :: '.' :: _ => true
  | _ :: cs => containsDotDot cs
  | [] => false

def blockedSchemes : List String :=
  ["javascript", "file", "data", "blob", "vbscript", "ftp", "gopher", "telnet", "ws", "wss"]

def hostAllowed (allowedDomains : List String) (host : String) : Bool :=
  allowedDomains.any fun allowed => host == allowed || hasSuffix ("." ++ allowed) host

def allowedDomains (allowedDomainsEnv : Option String) : List String :=
  match allowedDomainsEnv with
  | some envDomains => (split ',' envDomains).map trim
  | none => defaultAllowedSchemaDomains

def validateSchemaUrlInner (T : SchemaText) (schemaUrl : String) (allowedDomainsEnv : Option String)
    (isSandbox : Bool) : Except ApiError String :=
  if schemaUrl.isEmpty then .error (.badRequest "Schema URL cannot be empty")
  else if schemaUrl.utf8ByteSize > maxSchemaValueUrlLength then
    .error (.badRequest ("Schema URL too long (max " ++ toString maxSchemaValueUrlLength ++ " characters)"))
  else
    let normalized := T.nfc schemaUrl
    match T.parseUrl normalized with
    | none =>
      -- no full URL: a simple identifier is accepted as it stands
      if normalized.toList.all isSimpleIdentifierChar && !containsDotDot normalized.toList then .ok normalized
      else .error (.badRequest "Invalid schema URL format")
    | some url =>
      if blockedSchemes.contains url.scheme then .error (.badRequest "URL scheme not allowed")
      else if url.scheme = "http" ∧ (url.hostStr ≠ some "localhost" ∨ isSandbox = false) then
        .error (.badRequest "Schema URLs must use HTTPS")
      else
        match url.hostStr with
        | none => .ok normalized
        | some host =>
          if hostAllowed (allowedDomains allowedDomainsEnv) host then .ok normalized
          else .error (.badRequest "Schema domain not in allowed list")

def validateSchemaUrl (T : SchemaText) (schemaUrl : String) (allowedDomainsEnv : Option String) : Except ApiError String :=
  validateSchemaUrlInner T schemaUrl allowedDomainsEnv false

/-- What is accepted is the normalized text. -/
theorem validateSchemaUrl_ok {T : SchemaText} {schemaUrl schema : String} {allowedDomainsEnv : Option String}
    (h : validateSchemaUrl T schemaUrl allowedDomainsEnv = .ok schema) : schema = T.nfc schemaUrl := by
  unfold validateSchemaUrl validateSchemaUrlInner at h
  split at h
  · cases h
  split at h
  · cases h
  simp only at h
  split at h
  · split at h
    · exact (Except.ok.inj h).symm
    · cases h
  · split at h
    · cases h
    split at h
    · cases h
    split at h
    · exact (Except.ok.inj h).symm
    · split at h
      · exact (Except.ok.inj h).symm
      · cases h

end Issuer
