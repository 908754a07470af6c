import Issuer.Kek
import Issuer.Lib.Base64
import Issuer.Lib.Runs

/-!
# The cached key pair and its preflight (`kek`)

`get_kek_pair` reads the two keys from the Secrets Store and keeps the pair for five minutes. `preflight_kek`
keeps its answer as well, five minutes where the key could be had and thirty seconds where it could not. An
isolate starts with both slots empty.
-/

namespace Issuer

open Rust Runs

namespace Kek

/-! ## Reading -/

/-- The Secrets Store's answer for one binding. -/
inductive SecretAnswer where
  | unbound (e : String)
  | absent
  | failed (e : String)
  | found (kekB64 : String)
deriving DecidableEq, Repr

/-- A binding that is not required is taken for absent whatever is wrong with it. What the base64 decoder says of a text
is left out. -/
def fetchAndDecodeKek (binding : String) (required : Bool) : SecretAnswer → Except ApiError (Option Bytes)
  | .unbound e =>
    if required then .error (.cryptoError s!"{binding} Secret Store binding not configured: {e}") else .ok none
  | .absent => if required then .error (.cryptoError s!"{binding} secret not found in Secrets Store") else .ok none
  | .failed e => if required then .error (.cryptoError s!"Failed to get {binding} from Secrets Store: {e}") else .ok none
  | .found kekB64 =>
    match Base64.decode kekB64 with
    | none => if required then .error (.cryptoError s!"Invalid {binding} encoding") else .ok none
    | some decoded =>
      if decoded.length ≠ 32 then
        if required then .error (.cryptoError s!"{binding} must be 32 bytes, got {decoded.length}") else .ok none
      else .ok (some decoded)

structure StoreAnswers where
  issuerKek : SecretAnswer
  issuerKekPrevious : SecretAnswer
deriving DecidableEq, Repr

def fetchKekPair (answers : StoreAnswers) : Except ApiError KekPair :=
  match fetchAndDecodeKek "ISSUER_KEK" true answers.issuerKek with
  | .error e => .error e
  | .ok none => .error (.cryptoError "ISSUER_KEK secret not found in Secrets Store")
  | .ok (some current) =>
    match fetchAndDecodeKek "ISSUER_KEK_PREVIOUS" false answers.issuerKekPrevious with
    | .error e => .error e
    | .ok previous => .ok ⟨current, previous⟩

/-! ## Keeping

The clock counts milliseconds.
-/

structure CachedBytePair where
  current : Bytes
  previous : Option Bytes
  fetchedAtMs : Int
deriving DecidableEq, Repr

def cacheTtlMs : Int := 300000

def CachedBytePair.hit (now : Int) (entry : CachedBytePair) : Bool :=
  decide (0 ≤ now - entry.fetchedAtMs ∧ now - entry.fetchedAtMs < cacheTtlMs)

def getOrFetchBytePair (now : Int) (fetch : Except ApiError KekPair) (cache : Option CachedBytePair) :
    Except ApiError KekPair × Option CachedBytePair :=
  match cache.filter (CachedBytePair.hit now) with
  | some entry => (.ok ⟨entry.current, entry.previous⟩, cache)
  | none =>
    match fetch with
    | .error e => (.error e, cache)
    | .ok pair => (.ok pair, some ⟨pair.current, pair.previous, now⟩)

structure Isolate where
  kekCache : Option CachedBytePair
  kekPreflight : Option (Bool × Int)
deriving DecidableEq, Repr

def Isolate.empty : Isolate := ⟨none, none⟩

def getKekPair (now : Int) (answers : StoreAnswers) (w : Isolate) : Except ApiError KekPair × Isolate :=
  let (pair, cache) := getOrFetchBytePair now (fetchKekPair answers) w.kekCache
  (pair, { w with kekCache := cache })

def kekPreflightOkTtlMs : Int := 300000

def kekPreflightFailTtlMs : Int := 30000

def preflightTtl (available : Bool) : Int := if available then kekPreflightOkTtlMs else kekPreflightFailTtlMs

def preflightCacheHit (available : Bool) (ageMs : Int) : Bool := decide (0 ≤ ageMs ∧ ageMs < preflightTtl available)

def preflightKek (now : Int) (answers : StoreAnswers) (w : Isolate) : Bool × Isolate :=
  match w.kekPreflight.filter fun cached => preflightCacheHit cached.1 (now - cached.2) with
  | some (available, _) => (available, w)
  | none =>
    let (pair, w) := getKekPair now answers w
    (pair.isOk, { w with kekPreflight := some (pair.isOk, now) })

/-! ## Calls of one isolate -/

inductive Call where
  | getKekPair (now : Int) (answers : StoreAnswers)
  | preflightKek (now : Int) (answers : StoreAnswers)
deriving DecidableEq, Repr

namespace Call

def now : Call → Int
  | .getKekPair now _ | .preflightKek now _ => now

def answers : Call → StoreAnswers
  | .getKekPair _ answers | .preflightKek _ answers => answers

end Call

def Isolate.step (w : Isolate) : Call → Isolate
  | .getKekPair now answers => (getKekPair now answers w).2
  | .preflightKek now answers => (preflightKek now answers w).2

/-- The isolate after its first calls. -/
def after (before : List Call) : Isolate := exec Isolate.step .empty before

def Timely (run : List Call) : Prop := run.Pairwise fun a b => a.now ≤ b.now

end Kek

end Issuer
