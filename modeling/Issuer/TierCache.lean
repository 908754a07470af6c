import Issuer.Lib.JsonObject
import Issuer.RateLimits

/-!
# Limits of customers and their cache

`get_customer_limit` takes the tier of a client from the configuration namespace and the limits of that tier, and
keeps them for the isolate it runs in. It measures the age of what it has kept on the clock of its caller, and
`check_quota` hands it the start of the hour.
-/

namespace Issuer

open Rust Store

/-! ## Tiers -/

/-- A `HashMap<String, u32>` from the members of a text, of which the last of one name counts. -/
def limitsOfMembers (members : List (String × Json)) : Option (Table String Nat) := do
  let limits ← members.mapM fun m => (Json.asInt 0 u32Max m.2).map fun n => (m.1, n.toNat)
  return limits.foldl (fun m l => m.insert l.1 l.2) ∅

def limitsOfJson : Json → Option (Table String Nat)
  | .obj members => limitsOfMembers members
  | _ => none

/-- The nested format, else the flat one. A nested object has been read as a map before. -/
def parseTierLimits : Cell Json → Table String Nat
  | .garbled => ∅
  | .record j =>
    match j.entries["limits"]? with
    | some (.obj members) => ((limitsOfMembers (Json.obj members).entries.toList).or (limitsOfJson j)).getD ∅
    | _ => (limitsOfJson j).getD ∅

/-- `rate_limits/clients/{client_id}` and `rate_limits/tiers/{tier_id}` of the configuration namespace. -/
structure TierConfig where
  clients : Table String String
  tiers : Table String (Cell Json)

/-! ## The cache -/

structure TierCache where
  limits : Table String Nat
  fetchedAt : Nat

abbrev TierCaches := Table String TierCache

def TierCaches.fresh (cache : TierCaches) (clientId : String) (nowSecs : Nat) : Option TierCache :=
  cache[clientId]?.filter fun entry => nowSecs - entry.fetchedAt < 60

/-- `clientFails` and `tierFails` say which of the reads fail. -/
def getCustomerLimit (clientFails tierFails : Bool) (config : TierConfig) (clientId endpoint : String)
    (defaultLimit nowSecs : Nat) (cache : TierCaches) : Nat × TierCaches :=
  match cache.fresh clientId nowSecs with
  | some entry => ((entry.limits[endpoint]?).getD defaultLimit, cache)
  | none =>
    if clientFails then (defaultLimit, cache)
    else
      match config.clients[clientId]? with
      | none => (defaultLimit, cache)
      | some tierId =>
        let limits := if tierFails then ∅ else (config.tiers[tierId]?.map parseTierLimits).getD ∅
        ((limits[endpoint]?).getD defaultLimit, cache.insert clientId ⟨limits, nowSecs⟩)

/-! ## Calls and changes -/

/-- Every isolate has a cache of its own. -/
structure QuotaWorld where
  limits : LimitsWorld
  config : TierConfig
  caches : Nat → TierCaches

structure QuotaCall where
  isolate : Nat
  ticks : Nat → Tick
  clientId : String
  endpoint : String
  defaultLimit : Nat

inductive QuotaStep where
  | checkQuota (call : QuotaCall)
  | setClient (now : UInt64) (clientId : String) (tierId : Option String)
  | setTier (now : UInt64) (tierId : String) (text : Option (Cell Json))

def QuotaCall.time (call : QuotaCall) : Nat := (call.ticks 0).now.toNat

def QuotaCall.hour (call : QuotaCall) : Nat := hourOf (call.ticks 0).now

def QuotaStep.time : QuotaStep → Nat
  | .checkQuota call => call.time
  | .setClient now _ _ | .setTier now _ _ => now.toNat

namespace QuotaWorld

variable (w : QuotaWorld)

/-- The limit of the customer for the time that `check_quota` names, and the cache after it. -/
def lookup (call : QuotaCall) (nowSecs : Nat) : Nat × TierCaches :=
  getCustomerLimit false false w.config call.clientId call.endpoint call.defaultLimit nowSecs (w.caches call.isolate)

def answer (call : QuotaCall) : RateLimitResult × LimitsWorld :=
  (checkQuota (fun hour => (w.lookup call hour).1) call.clientId call.endpoint).play LimitsWorld.handle call.ticks w.limits

def step : QuotaStep → QuotaWorld
  | .checkQuota call =>
    { w with
      limits := (w.answer call).2
      caches := Function.update w.caches call.isolate (w.lookup call call.hour).2 }
  | .setClient _ clientId tierId => { w with config := { w.config with clients := w.config.clients.alter clientId fun _ => tierId } }
  | .setTier _ tierId text => { w with config := { w.config with tiers := w.config.tiers.alter tierId fun _ => text } }

/-- A start with nothing cached. -/
def start (limits : LimitsWorld) (config : TierConfig) : QuotaWorld := ⟨limits, config, fun _ => ∅⟩

end QuotaWorld

end Issuer
