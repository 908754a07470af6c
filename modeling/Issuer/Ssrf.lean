import Issuer.Lib.IpAddr
import Issuer.Lib.Text
import Issuer.Platform

/-!
# Service URLs (`ssrf_protection`)

`validate_service_url` keeps the worker's own requests away from loopback, private ranges, cloud metadata and
local names. The URL parser is a parameter (`UrlLibrary`), and so is the lower case of a text, which for hosts
matters in ASCII alone.
-/

namespace Issuer

open Rust Net

namespace Ssrf

structure ServiceUrl where
  scheme : String
  host : Option Host
deriving DecidableEq, Repr

structure UrlLibrary where
  parse : String → Option ServiceUrl
  ipv6Text : Ipv6Addr → String
  toLowercase : String → String

section
variable (U : UrlLibrary)

def isLocalhost (host : String) : Bool :=
  let hostLower := U.toLowercase host
  if hostLower == "localhost" || hostLower == "localhost.localdomain" then true
  else if hasPrefix "127." hostLower then true
  else if hostLower == "::1" || hostLower == "[::1]" then true
  else
    match parseIpAddr host with
    | some ip => ip.isLoopback
    | none => false

def isCloudMetadata (host : String) : Bool :=
  let hostLower := U.toLowercase host
  if hostLower == "169.254.169.254" then true
  else if hostLower == "100.100.100.200" then true
  else if hostLower == "metadata.google.internal" || hostLower == "metadata" ||
      hasSuffix ".metadata.google.internal" hostLower then true
  else if hostLower == "168.63.129.16" then true
  else if hostLower == "fd00:ec2::254" || hostLower == "[fd00:ec2::254]" then true
  else false

def isPrivateOrRestrictedIpv4 (ip : Ipv4Addr) : Bool :=
  if ip.isLoopback then true
  else if ip.isPrivate then true
  else if ip.isLinkLocal then true
  else if ip.isBroadcast then true
  else if ip.isDocumentation then true
  else if ip.o0 = 0 then true
  else if ip.o0 ≥ 224 ∧ ip.o0 ≤ 239 then true
  else if ip.o0 ≥ 240 then true
  else if ip = ⟨100, 100, 100, 200⟩ then true
  else if ip.o0 = 100 ∧ ip.o1 &&& 0b11000000 = 0b01000000 then true
  else false

def isPrivateOrRestrictedIpv6 (ip : Ipv6Addr) : Bool :=
  if ip.isLoopback then true
  else if ip.isUnspecified then true
  else if ip.isMulticast then true
  else if ip.s0 &&& 0xffc0 = 0xfe80 then true
  else if ip.s0 &&& 0xfe00 = 0xfc00 then true
  else if ip.s0 = 0x2001 ∧ ip.s1 = 0x0db8 then true
  else if ip.s0 = 0xfd00 ∧ ip.s1 = 0x0ec2 ∧ ip.s2 = 0 ∧ ip.s3 = 0 ∧ ip.s4 = 0 ∧ ip.s5 = 0 ∧ ip.s6 = 0 ∧ ip.s7 = 0x0254 then true
  else
    match ip.toIpv4Mapped with
    | some ipv4 => isPrivateOrRestrictedIpv4 ipv4
    | none =>
      match ip.toIpv4 with
      | some ipv4 => isPrivateOrRestrictedIpv4 ipv4
      | none => if ip.s0 &&& 0xffc0 = 0xfec0 then true else false

def isPrivateOrRestrictedIp : IpAddr → Bool
  | .v4 a => isPrivateOrRestrictedIpv4 a
  | .v6 a => isPrivateOrRestrictedIpv6 a

/-- `trim_start_matches('[')`, then `trim_end_matches(']')`. -/
def trimBrackets (host : String) : String :=
  String.ofList ((host.toList.dropWhile (· == '[')).rdropWhile (· == ']'))

def validateServiceUrl (url : String) : Except ApiError ServiceUrl :=
  match U.parse url with
  | none => .error (.badRequest "Invalid service URL format")
  | some parsed =>
    if parsed.scheme ≠ "https" ∧ parsed.scheme ≠ "http" then
      .error (.badRequest "Service URL must use HTTP or HTTPS protocol")
    else
      match parsed.host.map (Host.str U.ipv6Text) with
      | none => .error (.badRequest "Service URL must have a valid host")
      | some host =>
        if isLocalhost U host then
          .error (.badRequest "Service URL cannot point to localhost or loopback addresses")
        else if isCloudMetadata U host then
          .error (.badRequest "Service URL cannot point to cloud metadata endpoints")
        else if (parseIpAddr (trimBrackets host)).any isPrivateOrRestrictedIp then
          .error (.badRequest "Service URL cannot point to private or restricted IP addresses")
        else if hasSuffix ".local" (U.toLowercase host) || U.toLowercase host == "local" then
          .error (.badRequest "Service URL cannot use .local domains (mDNS)")
        else .ok parsed

end

end Ssrf

end Issuer
