import Issuer.Lib.IpAddr
import Issuer.Lib.Text

/-!
# Allowed origins (`cors`)

A comma-separated list of origin patterns: exact ones, `scheme://*.domain` and `*`. The URL parser is a parameter
(`UrlLibrary`), as is the text it gives an IPv6 address.
-/

namespace Issuer

open Rust Net

namespace Cors

/-- A URL as it was read; the port is left out where it is the default of the scheme. -/
structure OriginUrl where
  scheme : String
  host : Option Host
  port : Option Nat
deriving DecidableEq, Repr

structure UrlLibrary where
  parse : String → Option OriginUrl
  ipv6Text : Ipv6Addr → String

def defaultPort (scheme : String) : Option Nat :=
  if scheme == "http" || scheme == "ws" then some 80
  else if scheme == "https" || scheme == "wss" then some 443
  else if scheme == "ftp" then some 21
  else none

namespace OriginUrl
variable (u : OriginUrl)

def portOrKnownDefault : Option Nat := u.port.or (defaultPort u.scheme)

def hostStr (U : UrlLibrary) : Option String := u.host.map (Host.str U.ipv6Text)

end OriginUrl

structure AllowedOrigins where
  patterns : List String
  containsGlobalWildcard : Bool
  flag_eq : containsGlobalWildcard = patterns.any (· == "*")

def AllowedOrigins.new (raw : String) : AllowedOrigins :=
  let list := ((split ',' raw).map trim).filter (· != "")
  ⟨list, list.any (· == "*"), rfl⟩

section
variable (U : UrlLibrary)

def matchesExactly (pattern : String) (originUrl : OriginUrl) : Bool :=
  match U.parse pattern with
  | some patternUrl =>
    patternUrl.scheme == originUrl.scheme && patternUrl.host == originUrl.host &&
      patternUrl.portOrKnownDefault == originUrl.portOrKnownDefault
  | none => false

/-- The last test is on bytes: the domain stands at the end, behind a dot. -/
def matchesSubdomainWildcard (pattern : String) (originUrl : OriginUrl) : Bool :=
  match U.parse (replace "*." "wildcard." pattern) with
  | none => false
  | some patternUrl =>
    if patternUrl.scheme ≠ originUrl.scheme then false
    else if patternUrl.portOrKnownDefault ≠ originUrl.portOrKnownDefault then false
    else
      match (patternUrl.hostStr U).bind (stripPrefix "wildcard.") with
      | none => false
      | some patternDomain =>
        if patternDomain = "" then false
        else
          let originHost := (originUrl.hostStr U).getD ""
          if originHost = patternDomain then true
          else
            let dotOffset := (utf8 originHost).length - ((utf8 patternDomain).length + 1)
            decide ((utf8 patternDomain).length < (utf8 originHost).length) &&
              (utf8 patternDomain).isSuffixOf (utf8 originHost) && (utf8 originHost)[dotOffset]? == some (UInt8.ofNat '.'.toNat)

namespace AllowedOrigins
variable (origins : AllowedOrigins)

def matchesOrigin (origin : String) : Bool :=
  match U.parse origin with
  | none => false
  | some originUrl =>
    origins.patterns.any fun pattern =>
      if pattern == "*" then true
      else if contains "://*." pattern then matchesSubdomainWildcard U pattern originUrl
      else matchesExactly U pattern originUrl

def allowsCredentials (origin : String) : Bool :=
  if origins.containsGlobalWildcard then false
  else
    match U.parse origin with
    | none => false
    | some originUrl =>
      origins.patterns.any fun pattern =>
        if pattern == "*" || contains "://*." pattern then false else matchesExactly U pattern originUrl

end AllowedOrigins

/-! ## Headers of an early answer -/

/-- `Headers::set`; names are compared without case. -/
def setHeader (name value : String) (headers : List (String × String)) : List (String × String) :=
  headers.filter (fun header => toAsciiLowercase header.1 != toAsciiLowercase name) ++ [(name, value)]

/-- `add_cors_headers_early`, where the runtime takes every header it is given. -/
def addCorsHeadersEarly (headers : List (String × String)) (reqPath requestOrigin : String) (allowedOrigins : AllowedOrigins) :
    List (String × String) :=
  if hasPrefix "/_internal/" reqPath then headers
  else if !(hasPrefix "/v1/" reqPath || reqPath == "/.well-known/jwks.json") then headers
  else if requestOrigin = "" then headers
  else if !allowedOrigins.matchesOrigin U requestOrigin then headers
  else
    let headers := setHeader "Access-Control-Allow-Origin" requestOrigin headers
    let headers := setHeader "Access-Control-Allow-Methods" "POST, GET, OPTIONS" headers
    let headers := setHeader "Access-Control-Allow-Headers" "Content-Type, X-API-Key" headers
    let headers := setHeader "Vary" "Origin" headers
    if allowedOrigins.allowsCredentials U requestOrigin then setHeader "Access-Control-Allow-Credentials" "true" headers
    else headers

end

end Cors

end Issuer
