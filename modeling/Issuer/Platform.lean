import Issuer.Lib.Rust
import Issuer.Lib.Store

/-!
# The platform under the worker

What the handlers see of the platform: the millisecond clock, the errors they raise, and storage
of a Durable Object, whose slots may hold bytes that do not deserialise and whose operations may
fail. A failing operation has no effect.
-/

namespace Issuer

open Rust Store

/-! ## Errors

The variants of `ApiError` that the modelled functions raise, and the status of `to_response`.
-/

inductive ApiError where
  | badRequest (msg : String)
  | notFound (msg : String)
  | unauthorized (msg : String)
  | forbidden (msg : String)
  | conflict (msg : String)
  | invalidStateTransition (msg : String)
  | cryptoError (msg : String)
  | storageError (msg : String)
  | internal (msg : String)
  | serviceUnavailable (msg : String)
  | json
  | base64
deriving DecidableEq, Repr

def ApiError.status : ApiError → Nat
  | .badRequest _ | .json | .base64 => 400
  | .unauthorized _ => 401
  | .forbidden _ => 403
  | .notFound _ => 404
  | .conflict _ | .invalidStateTransition _ => 409
  | .cryptoError _ | .storageError _ | .internal _ => 500
  | .serviceUnavailable _ => 503

/-! ## Issuer configuration -/

structure IssuerConfig where
  issuerId : String
  rpId : String
  defaultKid : String
  previousKid : Option String
deriving DecidableEq, Repr

/-- Status of keys and secrets. -/
inductive KeyStatus where
  | active
  | deprecated
  | revoked
  | disabled
deriving DecidableEq, Repr

/-! ## The clock

A reading is `Date::now().as_millis()`, a `u64`. `secs` is that over 1000; `nowEpochSecs` is
`now_epoch_secs` and `chrono::Utc::now().timestamp()`, the same seconds as an `i64`.
-/

def secs (ms : UInt64) : Nat := ms.toNat / 1000

def nowEpochSecs (ms : UInt64) : Int := toI64OrMax (secs ms)

theorem secs_le (ms : UInt64) : secs ms ≤ 18446744073709551 := by
  have := ms.toNat_lt
  unfold secs; omega

theorem secs_mono {a b : UInt64} (h : a.toNat ≤ b.toNat) : secs a ≤ secs b :=
  Nat.div_le_div_right h

@[simp] theorem nowEpochSecs_eq (ms : UInt64) : nowEpochSecs ms = secs ms := by
  have := secs_le ms
  unfold nowEpochSecs toI64OrMax i64Max; omega

/-- Adding a lifetime to the clock never saturates. -/
theorem satAddU64_secs (ms : UInt64) {ttl : Nat} (h : ttl ≤ 86400) :
    satAddU64 (secs ms) ttl = secs ms + ttl := by
  have := secs_le ms
  exact satAddU64_of_le (by unfold u64Max; omega)

theorem satAddI64_secs (ms : UInt64) {ttl : Int} (h0 : 0 ≤ ttl) (h : ttl ≤ 86400) :
    satAddI64 (secs ms) ttl = secs ms + ttl := by
  have := secs_le ms
  exact clampI64_of_range (by unfold i64Min; omega) (by unfold i64Max; omega)

/-! ## Durable Object storage

`Faults` says which operations of one call fail, and in what words. `storageGet` is `storage().get(key)`, and
`storageDelete` is `let _ = storage().delete(key)`, whose failure goes unnoticed.
-/

inductive Cell (α : Type) where
  | record (a : α)
  | garbled
deriving DecidableEq, Repr

inductive Outcome where
  | success
  | readError
  | undecodable
deriving DecidableEq, Repr

structure Faults where
  read : String → Outcome
  delete : String → Bool
  list : Bool
  put : Bool
  setAlarm : Bool
  detail : String

def Faults.none : Faults := ⟨fun _ => .success, fun _ => false, false, false, false, ""⟩

def storageGet {α : Type} (fl : Faults) (m : Table String (Cell α)) (key : String) :
    Except Unit (Option (Cell α)) :=
  match fl.read key with
  | .success => .ok m[key]?
  | .readError => .error ()
  | .undecodable => .ok (m[key]?.map fun _ => .garbled)

def storageDelete {β : Type} (fl : Faults) (m : Table String β) (key : String) : Table String β :=
  if fl.delete key then m else m.erase key

/-! ## KV namespaces

An entry put with a lifetime is gone after that many seconds; a later put replaces value and
expiry. KV refuses a lifetime below 60 seconds. The flags say that an operation fails.
-/

abbrev Kv (α : Type) := Table String (Entry α)

def kvMinTtl : Nat := 60

def kvGet {α : Type} (fails : Bool) (kv : Kv α) (now : UInt64) (key : String) : Except Unit (Option α) :=
  if fails then .error () else .ok (Store.get kv (secs now) key)

def kvPut {α : Type} (fails : Bool) (kv : Kv α) (now : UInt64) (ttl : Option Nat) (key : String) (v : α) :
    Except Unit (Kv α) :=
  if fails || ttl.any (· < kvMinTtl) then .error () else .ok (Store.put kv (secs now) ttl key v)

end Issuer
