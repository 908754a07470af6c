import Issuer.Cors
import Issuer.Platform

/-!
# Requests, responses and error bodies (`error`)

`to_response` turns an error into a response. Of the message it lets out six texts of `BadRequest` at most. A header
list has one entry a name: the runtime joins repeated ones.
-/

namespace Issuer

open Rust

namespace Http

open Cors (setHeader)

/-! ## Requests -/

inductive Method where
  | head
  | get
  | post
  | put
  | patch
  | delete
  | options
  | connect
  | trace
deriving DecidableEq, Repr

def Method.name : Method → String
  | .head => "HEAD"
  | .get => "GET"
  | .post => "POST"
  | .put => "PUT"
  | .patch => "PATCH"
  | .delete => "DELETE"
  | .options => "OPTIONS"
  | .connect => "CONNECT"
  | .trace => "TRACE"

def Method.isMutating : Method → Bool
  | .post | .put | .patch => true
  | _ => false

abbrev Headers := List (String × String)

/-- `Headers::get`. -/
def getHeader (name : String) (headers : Headers) : Option String :=
  (headers.find? fun header => toAsciiLowercase header.1 == toAsciiLowercase name).map Prod.snd

structure Request where
  method : Method
  path : String
  query : String
  headers : Headers
deriving DecidableEq, Repr

/-! ## Responses -/

/-- `error` is a JSON object of an error text and its code. -/
inductive Body where
  | empty
  | error (error code : String)
  | text (content : String)
deriving DecidableEq, Repr

structure Response where
  status : Nat
  headers : Headers
  body : Body
deriving DecidableEq, Repr

namespace Response

def set (name value : String) (r : Response) : Response := { r with headers := setHeader name value r.headers }

/-- Headers set one after the other. -/
def setAll (entries : Headers) (r : Response) : Response := entries.foldl (fun r entry => r.set entry.1 entry.2) r

def get (name : String) (r : Response) : Option String := getHeader name r.headers

/-- `Response::from_json`. -/
def fromJson (body : Body) : Response := ⟨200, [("Content-Type", "application/json")], body⟩

def withStatus (status : Nat) (r : Response) : Response := { r with status := status }

end Response

/-! ### Setting and getting -/

section
variable {name name' value : String} {headers entries : Headers} {r : Response}

theorem getHeader_setHeader : getHeader name (setHeader name' value headers) =
    if toAsciiLowercase name' = toAsciiLowercase name then some value else getHeader name headers := by
  unfold getHeader setHeader
  rw [List.find?_append, List.find?_filter]
  by_cases hname : toAsciiLowercase name' = toAsciiLowercase name
  · have hnone : headers.find? (fun header => decide ((toAsciiLowercase header.1 != toAsciiLowercase name') = true ∧
        (toAsciiLowercase header.1 == toAsciiLowercase name) = true)) = none := by
      refine List.find?_eq_none.mpr fun header _ => ?_
      simp [hname]
    rw [hnone, if_pos hname]
    simp [hname]
  · rw [if_neg hname]
    have hsame : headers.find? (fun header => decide ((toAsciiLowercase header.1 != toAsciiLowercase name') = true ∧
        (toAsciiLowercase header.1 == toAsciiLowercase name) = true)) =
          headers.find? fun header => toAsciiLowercase header.1 == toAsciiLowercase name := by
      refine congrFun (congrArg List.find? (funext fun header => ?_)) headers
      by_cases hheader : toAsciiLowercase header.1 = toAsciiLowercase name
      · simp [hheader, Ne.symm hname]
      · simp [hheader]
    rw [hsame]
    cases headers.find? (fun header => toAsciiLowercase header.1 == toAsciiLowercase name) with
    | none => simp [hname]
    | some header => rfl

theorem get_set : (r.set name' value).get name =
    if toAsciiLowercase name' = toAsciiLowercase name then some value else r.get name := getHeader_setHeader

/-- The last entry of a name is the one that stays. -/
theorem get_setAll : (r.setAll entries).get name = (getHeader name entries.reverse).or (r.get name) := by
  induction entries generalizing r with
  | nil => simp [Response.setAll, getHeader]
  | cons entry entries ih =>
    rw [Response.setAll, List.foldl_cons, ← Response.setAll, ih, get_set, List.reverse_cons]
    by_cases hname : toAsciiLowercase entry.1 = toAsciiLowercase name
    · simp only [getHeader, List.find?_append, if_pos hname]
      cases entries.reverse.find? (fun header => toAsciiLowercase header.1 == toAsciiLowercase name) with
      | none => simp [hname]
      | some header => simp
    · simp only [getHeader, List.find?_append, if_neg hname]
      cases entries.reverse.find? (fun header => toAsciiLowercase header.1 == toAsciiLowercase name) with
      | none => simp [hname]
      | some header => simp

/-- The names of some entries, as they are compared. -/
def names (entries : Headers) : List String := entries.map fun entry => toAsciiLowercase entry.1

theorem get_setAll_of_not_mem (h : toAsciiLowercase name ∉ names entries) : (r.setAll entries).get name = r.get name := by
  have hnone : getHeader name entries.reverse = none := by
    unfold getHeader
    rw [Option.map_eq_none_iff, List.find?_eq_none]
    intro entry hentry heq
    exact h (List.mem_map.mpr ⟨entry, List.mem_reverse.mp hentry, beq_iff_eq.mp heq⟩)
  rw [get_setAll, hnone, Option.none_or]

theorem get_setAll_of_mem (hnodup : (names entries).Nodup) (h : (name, value) ∈ entries) :
    (r.setAll entries).get name = some value := by
  induction entries generalizing r with
  | nil => cases h
  | cons entry entries ih =>
    rw [names, List.map_cons, List.nodup_cons] at hnodup
    rw [Response.setAll, List.foldl_cons, ← Response.setAll]
    rcases List.mem_cons.mp h with rfl | h
    · rw [get_setAll_of_not_mem hnodup.1, get_set, if_pos rfl]
    · exact ih hnodup.2 h

@[simp] theorem setAll_nil : r.setAll [] = r := rfl

theorem setAll_append (entries entries' : Headers) : r.setAll (entries ++ entries') = (r.setAll entries).setAll entries' :=
  List.foldl_append

theorem setAll_status (entries : Headers) : ∀ r : Response, (r.setAll entries).status = r.status := by
  induction entries with
  | nil => intro r; rfl
  | cons entry entries ih => intro r; exact ih (r.set entry.1 entry.2)

theorem setAll_body (entries : Headers) : ∀ r : Response, (r.setAll entries).body = r.body := by
  induction entries with
  | nil => intro r; rfl
  | cons entry entries ih => intro r; exact ih (r.set entry.1 entry.2)

end

/-! ## Errors -/

/-- `ApiError` in full; what a wrapped error says only reaches the log. -/
inductive Error where
  | badRequest (msg : String)
  | notFound (msg : String)
  | unauthorized (msg : String)
  | forbidden (msg : String)
  | sessionExpired
  | invalidSignature (msg : String)
  | invalidProof (msg : String)
  | cryptoError (msg : String)
  | storageError (msg : String)
  | rateLimitExceeded
  | invalidStateTransition (msg : String)
  | worker (cause : String)
  | json (cause : String)
  | uuid (cause : String)
  | base64 (cause : String)
  | conflict (msg : String)
  | payloadTooLarge (msg : String)
  | unsupportedMediaType (msg : String)
  | lengthRequired (msg : String)
  | internal (msg : String)
  | serviceUnavailable (msg : String)
deriving DecidableEq, Repr

/-- The messages of `BadRequest` that are let out. -/
def safeMessages : List String :=
  ["Missing required field", "Invalid request format", "Invalid identifier format", "Invalid encoding", "Payload too large",
    "Proof verification failed"]

namespace Error

/-- Status, code and message. -/
def parts : Error → Nat × String × String
  | .badRequest msg => (400, "BAD_REQUEST", if msg ∈ safeMessages then msg else "Invalid request")
  | .notFound _ => (404, "NOT_FOUND", "Not found")
  | .unauthorized _ => (401, "UNAUTHORIZED", "Authentication required")
  | .forbidden _ => (403, "FORBIDDEN", "Access denied")
  | .sessionExpired => (401, "SESSION_EXPIRED", "Authentication required")
  | .invalidSignature _ => (401, "INVALID_SIGNATURE", "Authentication required")
  | .invalidProof _ => (400, "INVALID_PROOF", "Proof verification failed")
  | .rateLimitExceeded => (429, "RATE_LIMIT_EXCEEDED", "Rate limit exceeded")
  | .conflict _ => (409, "CONFLICT", "Resource conflict")
  | .payloadTooLarge _ => (413, "PAYLOAD_TOO_LARGE", "Payload too large")
  | .unsupportedMediaType _ => (415, "UNSUPPORTED_MEDIA_TYPE", "Content-Type must be application/json")
  | .lengthRequired _ => (411, "LENGTH_REQUIRED", "Length required")
  | .invalidStateTransition _ => (409, "INVALID_STATE_TRANSITION", "Invalid state transition")
  | .cryptoError _ | .storageError _ | .worker _ | .internal _ => (500, "INTERNAL_ERROR", "Internal server error")
  | .json _ => (400, "BAD_REQUEST", "Invalid request format")
  | .uuid _ => (400, "BAD_REQUEST", "Invalid identifier format")
  | .base64 _ => (400, "BAD_REQUEST", "Invalid encoding")
  | .serviceUnavailable _ => (503, "SERVICE_UNAVAILABLE", "Service temporarily unavailable")

def clearsSiteData : Error → Bool
  | .unauthorized _ | .forbidden _ | .sessionExpired | .invalidSignature _ => true
  | _ => false

def siteData : String := "\"cache\", \"cookies\", \"storage\""

def toResponse (e : Error) : Response :=
  let (status, errorCode, message) := e.parts
  let r := (Response.fromJson (.error message errorCode)).withStatus status
  let r := r.set "Content-Type" "application/json; charset=utf-8"
  let r := r.set "Cache-Control" "no-store, no-cache, must-revalidate, private"
  let r := r.set "Pragma" "no-cache"
  let r := r.set "Expires" "0"
  let r := if status = 503 then r.set "Retry-After" "60" else r
  if e.clearsSiteData then r.set "Clear-Site-Data" siteData else r

/-- The errors of the modelled functions among them. -/
def ofApiError : ApiError → Error
  | .badRequest msg => .badRequest msg
  | .notFound msg => .notFound msg
  | .unauthorized msg => .unauthorized msg
  | .forbidden msg => .forbidden msg
  | .conflict msg => .conflict msg
  | .invalidStateTransition msg => .invalidStateTransition msg
  | .cryptoError msg => .cryptoError msg
  | .storageError msg => .storageError msg
  | .internal msg => .internal msg
  | .serviceUnavailable msg => .serviceUnavailable msg
  | .json => .json ""
  | .base64 => .base64 ""

/-- The body of `to_response`; neither message nor code has a character that JSON escapes. -/
def text (e : Error) : String := "\x7b\"error\":\"" ++ e.parts.2.2 ++ "\",\"code\":\"" ++ e.parts.2.1 ++ "\"\x7d"

/-- The headers of an error, in the order they are set. -/
def entries (e : Error) : Headers :=
  [("Content-Type", "application/json; charset=utf-8"), ("Cache-Control", "no-store, no-cache, must-revalidate, private"),
    ("Pragma", "no-cache"), ("Expires", "0")] ++ (if e.parts.1 = 503 then [("Retry-After", "60")] else []) ++
      (if e.clearsSiteData then [("Clear-Site-Data", siteData)] else [])

theorem toResponse_eq (e : Error) : e.toResponse =
    ((Response.fromJson (.error e.parts.2.2 e.parts.2.1)).withStatus e.parts.1).setAll e.entries := by
  unfold toResponse entries
  dsimp only
  by_cases hsite : e.clearsSiteData = true
  · by_cases hstatus : e.parts.1 = 503
    · simp only [if_pos hsite, if_pos hstatus]; rfl
    · simp only [if_pos hsite, if_neg hstatus]; rfl
  · by_cases hstatus : e.parts.1 = 503
    · simp only [if_neg hsite, if_pos hstatus]; rfl
    · simp only [if_neg hsite, if_neg hstatus]; rfl

theorem toResponse_status (e : Error) : e.toResponse.status = e.parts.1 := by
  rw [toResponse_eq, setAll_status]
  rfl

theorem toResponse_body (e : Error) : e.toResponse.body = .error e.parts.2.2 e.parts.2.1 := by
  rw [toResponse_eq, setAll_body]
  rfl

@[simp] theorem ofApiError_status (e : ApiError) : (ofApiError e).toResponse.status = e.status := by
  rw [toResponse_status]
  cases e <;> rfl

end Error

end Http

end Issuer
