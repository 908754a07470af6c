import Issuer.Lib.Percent

/-!
# Sandbox-prefix rejection (`prefix_rejection`)

Outside the sandbox a request is refused that carries a sandbox credential in a path segment, a query
key or value, or one of three headers.
-/

namespace Issuer

open Rust

namespace PrefixRejection

def sandboxPrefixes : List String := ["mwallet-sbx-"]

/-- Longer than any registered scheme; what is longer is credential material. -/
def maxAuthSchemeLength : Nat := 15

inductive Source where
  | path
  | query
  | header
deriving DecidableEq, Repr

inductive PrefixCheck where
  | allow
  | reject (source : Source)
deriving DecidableEq, Repr

/-! ## `percent_decode` -/

def satAddU8 (a b : UInt8) : UInt8 := UInt8.ofNat (min (a.toNat + b.toNat) 255)

def satMulU8 (a b : UInt8) : UInt8 := UInt8.ofNat (min (a.toNat * b.toNat) 255)

def satSubU8 (a b : UInt8) : UInt8 := UInt8.ofNat (a.toNat - b.toNat)

def hexDigit (b : UInt8) : Option UInt8 :=
  if 0x30 ≤ b ∧ b ≤ 0x39 then some (satSubU8 b 0x30)
  else if 0x61 ≤ b ∧ b ≤ 0x66 then some (satAddU8 (satSubU8 b 0x61) 10)
  else if 0x41 ≤ b ∧ b ≤ 0x46 then some (satAddU8 (satSubU8 b 0x41) 10)
  else none

/-- The loop over the bytes that are left, what it pushes first. -/
def decodeLoop : List UInt8 → List UInt8
  | [] => []
  | b :: iter =>
    if b = 0x25 then
      match iter with
      | [] => [0x25]
      | next1 :: iter =>
        match hexDigit next1 with
        | none => 0x25 :: decodeLoop (next1 :: iter)
        | some h =>
          match iter with
          | [] => [0x25, next1]
          | next2 :: iter =>
            match hexDigit next2 with
            | some l => satAddU8 (satMulU8 h 16) l :: decodeLoop iter
            | none => 0x25 :: next1 :: decodeLoop (next2 :: iter)
    else b :: decodeLoop iter

def percentDecode (input : String) : String :=
  if !input.toList.contains '%' then input
  else (fromUtf8 (decodeLoop (utf8 input))).getD input

/-! ## The scan -/

def beginsWithAnyPrefix (candidate : String) : Bool := sandboxPrefixes.any fun p => hasPrefix p candidate

def matchesSandboxPrefix (value : String) : Bool :=
  if value.isEmpty then false
  else if beginsWithAnyPrefix value then true
  else
    match splitOnce ' ' value with
    | some (scheme, rest) =>
      if scheme.utf8ByteSize ≤ maxAuthSchemeLength ∧ scheme.isEmpty = false then beginsWithAnyPrefix (trimStart rest)
      else false
    | none => false

def segmentMatches (segment : String) : Bool :=
  if segment.isEmpty then false else matchesSandboxPrefix (percentDecode segment)

def keyAndValue (pair : String) : String × String := (splitOnce '=' pair).getD (pair, "")

def pairMatches (pair : String) : Bool :=
  if pair.isEmpty then false
  else if matchesSandboxPrefix (percentDecode (keyAndValue pair).1) then true
  else if (keyAndValue pair).2.isEmpty then false
  else matchesSandboxPrefix (percentDecode (keyAndValue pair).2)

def inspectedHeaders : List String := ["x-client-id", "x-api-key", "authorization"]

def headerMatches (header : String × String) : Bool :=
  inspectedHeaders.contains (toAsciiLowercase header.1) && matchesSandboxPrefix header.2

def checkRequestInputs (path query : String) (headers : List (String × String)) : PrefixCheck :=
  if (split '/' path).any segmentMatches then .reject .path
  else if (split '&' query).any pairMatches then .reject .query
  else if headers.any headerMatches then .reject .header
  else .allow

end PrefixRejection

end Issuer
