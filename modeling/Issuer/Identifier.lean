import Issuer.Platform

/-!
# Identifiers, key names and shards

The format checks of `issuer_logic::identifier` and the shard hash.
-/

namespace Issuer

open Rust

def maxIdentifierLength : Nat := 128

def isIdentifierChar (c : Char) : Bool :=
  c.isAlphanum || c == '-' || c == '_' || c == ':' || c == '.' || c == '/' || c == '@'

def validateIdentifier (id context : String) : Except ApiError Unit :=
  if id.isEmpty then .error (.badRequest s!"Empty {context}")
  else if id.utf8ByteSize > maxIdentifierLength then
    .error (.badRequest s!"{context} too long (max {maxIdentifierLength} characters)")
  else if !id.toList.all isIdentifierChar then
    .error (.badRequest s!"Invalid {context} format (contains disallowed characters)")
  else .ok ()

def extractIssuerKid (issuerId : String) : String :=
  (stripPrefix "did:provii:" issuerId).getD issuerId

def validateNonceFormat (nonce : String) : Except ApiError Unit :=
  if nonce.utf8ByteSize ≠ 64 then
    .error (.badRequest "Nonce must be exactly 64 hex characters (256 bits)")
  else if !nonce.toList.all isAsciiHexdigit then .error (.badRequest "Nonce must be a hex string")
  else .ok ()

def validateActorType (actorType : String) : Except ApiError Unit :=
  if actorType ≠ "officer" ∧ actorType ≠ "client" ∧ actorType ≠ "admin" then
    .error (.badRequest "Invalid actor_type")
  else .ok ()

/-! ## Shards -/

def deterministicShardHash (input : String) : UInt64 :=
  input.toUTF8.data.toList.foldl (fun hash byte => (hash ^^^ byte.toUInt64) * 0x00000100000001B3)
    0xcbf29ce484222325

/-- `(h as usize) % count`; `usize` has 32 bits on the worker's target. -/
def shardOf (count : Nat) (hc : 0 < count) (key : String) : Fin count :=
  ⟨(deterministicShardHash key).toUInt32.toNat % count, Nat.mod_lt _ hc⟩

end Issuer
