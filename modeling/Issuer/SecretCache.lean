import Issuer.AdminAuth
import Issuer.KekCache

/-!
# Cached credentials (`secret_cache`)

`get_or_fetch_hashed` keeps the Argon2id hash and the fingerprint of a secret for five minutes. The admin key and
the status token have two slots each, the current one and the one before a rotation. The requests of one isolate
share the slots, and a request gives way to the others while it waits for the Secrets Store, so that an access
consists of the look at the slot, the fetch and the filling of the slot.
-/

namespace Issuer

namespace SecretCache

open Rust Kek

/-! ## Slots -/

inductive SecretSlot where
  | adminKey
  | adminKeyPrevious
  | statusToken
  | statusTokenPrevious
deriving DecidableEq, Repr

def SecretSlot.binding : SecretSlot → String
  | .adminKey => "ADMIN_API_KEY"
  | .adminKeyPrevious => "ADMIN_API_KEY_PREVIOUS"
  | .statusToken => "STATUS_API_TOKEN"
  | .statusTokenPrevious => "STATUS_API_TOKEN_PREVIOUS"

/-- `sha256` is what a fingerprint begins; `hashApiKey` is given the salt that it draws. -/
structure SecretCrypto where
  sha256 : Bytes → Bytes
  hashApiKey : (salt : Bytes) → String → Option String
  verifyApiKey : String → String → Bool

structure CachedHashedSecret where
  argon2Hash : Option String
  fingerprint : String
  fetchedAtMs : Int
deriving DecidableEq, Repr

def CachedHashedSecret.hit (now : Int) (entry : CachedHashedSecret) : Bool :=
  decide (0 ≤ now - entry.fetchedAtMs ∧ now - entry.fetchedAtMs < cacheTtlMs)

def fingerprint6 (sha256 : Bytes → Bytes) (value : Bytes) : String :=
  if value = [] then "000000"
  else
    let digest := sha256 value
    hexEncode (if 3 ≤ digest.length then digest.take 3 else [0, 0, 0])

def fetchAdminSecret (binding : String) : SecretAnswer → Except String String
  | .unbound e => .error s!"{binding} binding unavailable: {e}"
  | .found val => if val.isEmpty then .error s!"{binding} is empty" else .ok val
  | .absent => .error s!"{binding} not found"
  | .failed e => .error s!"Failed to read {binding}: {e}"

def fetchStatusToken : SecretAnswer → Except String String
  | .unbound _ => .error "token_binding_missing"
  | .found t => if t.isEmpty then .error "token_empty" else .ok t
  | .absent => .error "token_not_configured"
  | .failed _ => .error "token_read_failed"

def SecretSlot.fetched : SecretSlot → SecretAnswer → Except String String
  | .adminKey => fetchAdminSecret "ADMIN_API_KEY"
  | .adminKeyPrevious => fetchAdminSecret "ADMIN_API_KEY_PREVIOUS"
  | .statusToken | .statusTokenPrevious => fetchStatusToken

/-! ## Operations -/

/-- `lookup` reads the clock and the slot, `fetch` the Secrets Store. -/
inductive SecretOp where
  | lookup (slot : SecretSlot)
  | fetch (binding : String)
  | drawSalt
  | fill (slot : SecretSlot) (entry : CachedHashedSecret)
deriving DecidableEq, Repr

abbrev SecretOp.Ans : SecretOp → Type
  | .lookup _ => Int × Option CachedHashedSecret
  | .fetch _ => SecretAnswer
  | .drawSalt => Bytes
  | .fill _ _ => Unit

abbrev Secrets := Prog SecretOp SecretOp.Ans

structure SecretWorld where
  clockMs : Int
  cache : SecretSlot → Option CachedHashedSecret

/-- The time since the operation before, and what fails: a read of the Secrets Store may be answered by an error. -/
inductive SecretFault where
  | unbound (e : String)
  | failed (e : String)
deriving DecidableEq, Repr

structure SecretTick where
  elapsedMs : Nat
  fault : Option SecretFault
  salt : Bytes
deriving DecidableEq, Repr

/-- `contents` is what is bound at a time. -/
def answerOf (contents : Int → String → Option String) (fault : Option SecretFault) (now : Int) (binding : String) :
    SecretAnswer :=
  match fault with
  | some (.unbound e) => .unbound e
  | some (.failed e) => .failed e
  | none =>
    match contents now binding with
    | none => .absent
    | some value => .found value

def SecretWorld.elapse (w : SecretWorld) (t : SecretTick) : SecretWorld := { w with clockMs := w.clockMs + t.elapsedMs }

def SecretWorld.handle (contents : Int → String → Option String) (w : SecretWorld) (t : SecretTick) :
    (o : SecretOp) → o.Ans × SecretWorld
  | .lookup slot =>
    (((w.elapse t).clockMs, (w.cache slot).filter (CachedHashedSecret.hit (w.elapse t).clockMs)), w.elapse t)
  | .fetch binding => (answerOf contents t.fault (w.elapse t).clockMs binding, w.elapse t)
  | .drawSalt => (t.salt, w.elapse t)
  | .fill slot entry => ((), { w.elapse t with cache := Function.update w.cache slot (some entry) })

/-! ## Access -/

section
variable (C : SecretCrypto)

/-- From the fetched value on. A value that cannot be hashed is kept as one that nothing verifies against. -/
def keepHashed (slot : SecretSlot) (now : Int) (fresh : String) : Secrets (Except String (Option String × String)) := do
  let salt ← Prog.op SecretOp.drawSalt
  let fingerprint := fingerprint6 C.sha256 (bytesOf fresh)
  let argon2Hash := C.hashApiKey salt fresh
  let () ← Prog.op (SecretOp.fill slot ⟨argon2Hash, fingerprint, now⟩)
  pure (.ok (argon2Hash, fingerprint))

def keepAnswer (slot : SecretSlot) (now : Int) (answer : SecretAnswer) : Secrets (Except String (Option String × String)) :=
  match slot.fetched answer with
  | .error e => pure (.error e)
  | .ok fresh => keepHashed C slot now fresh

def getOrFetchHashed (slot : SecretSlot) : Secrets (Except String (Option String × String)) := do
  let (now, hit) ← Prog.op (SecretOp.lookup slot)
  match hit with
  | some entry => pure (.ok (entry.argon2Hash, entry.fingerprint))
  | none => keepAnswer C slot now (← Prog.op (SecretOp.fetch slot.binding))

/-- The hash of a slot, where there is one. -/
def slotHash : Except String (Option String × String) → Option String
  | .ok (argon2Hash, _) => argon2Hash
  | .error _ => none

def slotFingerprint : Except String (Option String × String) → String
  | .ok (_, fp) => fp
  | .error _ => "000000"

/-! ## The admin key -/

def verifyAdminApiKey (provided : String) : Secrets (Option AdminKeySlot) := do
  let current ← getOrFetchHashed C .adminKey
  if (slotHash current).any (C.verifyApiKey provided) then pure (some .current)
  else
    let previous ← getOrFetchHashed C .adminKeyPrevious
    if (slotHash previous).any (C.verifyApiKey provided) then pure (some .previous) else pure none

def adminKeyFingerprintForSlot : AdminKeySlot → Secrets String
  | .current => do return slotFingerprint (← getOrFetchHashed C .adminKey)
  | .previous => do return slotFingerprint (← getOrFetchHashed C .adminKeyPrevious)

/-! ## The status token -/

inductive StatusTokenSlot where
  | current
  | previous
deriving DecidableEq, Repr

def StatusTokenSlot.label : StatusTokenSlot → String
  | .current => "STATUS_API_TOKEN_PROD"
  | .previous => "STATUS_API_TOKEN_PROD_PREVIOUS"

def verifyStatusTokenSlots (provided : String) (currentHash previousHash : Option String) : Option StatusTokenSlot :=
  if currentHash.any (C.verifyApiKey provided) then some .current
  else if previousHash.any (C.verifyApiKey provided) then some .previous
  else none

/-- Both slots are looked at before the header is. Without a current token nobody is let in. -/
def authenticateStatusRequest (authorization : Option String) : Secrets (Except ApiError StatusTokenSlot) := do
  match ← getOrFetchHashed C .statusToken with
  | .error _ => pure (.error (.unauthorized "Status endpoint not configured"))
  | .ok (currentHash, _) =>
    let previous ← getOrFetchHashed C .statusTokenPrevious
    match authorization.bind extractBearerToken with
    | none => pure (.error (.unauthorized "Missing Authorization header"))
    | some providedToken =>
      match verifyStatusTokenSlots C providedToken currentHash (slotHash previous) with
      | some slot => pure (.ok slot)
      | none => pure (.error (.unauthorized "Invalid status token"))

def statusSecretVersionHeader : StatusTokenSlot → Secrets String
  | .current => do return slotFingerprint (← getOrFetchHashed C .statusToken)
  | .previous => do return slotFingerprint (← getOrFetchHashed C .statusTokenPrevious)

/-! ## The calls of an isolate -/

/-- The two `log…SecretVersion` calls put both fingerprints on the log. -/
inductive SecretCall where
  | verifyAdminApiKey (provided : String)
  | adminKeyFingerprintForSlot (slot : AdminKeySlot)
  | logAdminSecretVersion
  | authenticateStatusRequest (authorization : Option String)
  | statusSecretVersionHeader (slot : StatusTokenSlot)
  | logStatusSecretVersion
deriving DecidableEq, Repr

inductive SecretReply where
  | adminSlot (slot : Option AdminKeySlot)
  | status (result : Except ApiError StatusTokenSlot)
  | fingerprints (fps : List String)

def SecretCall.prog : SecretCall → Secrets SecretReply
  | .verifyAdminApiKey provided => do return .adminSlot (← SecretCache.verifyAdminApiKey C provided)
  | .adminKeyFingerprintForSlot slot => do return .fingerprints [← SecretCache.adminKeyFingerprintForSlot C slot]
  | .logAdminSecretVersion => do
    let current ← SecretCache.adminKeyFingerprintForSlot C .current
    let previous ← SecretCache.adminKeyFingerprintForSlot C .previous
    return .fingerprints [current, previous]
  | .authenticateStatusRequest authorization => do return .status (← SecretCache.authenticateStatusRequest C authorization)
  | .statusSecretVersionHeader slot => do return .fingerprints [← SecretCache.statusSecretVersionHeader C slot]
  | .logStatusSecretVersion => do
    let current ← SecretCache.statusSecretVersionHeader C .current
    let previous ← SecretCache.statusSecretVersionHeader C .previous
    return .fingerprints [current, previous]

abbrev SecretPool := Pool SecretWorld SecretOp SecretOp.Ans SecretReply

abbrev SecretTurn := Turn SecretTick Empty

abbrev SecretPool.step (contents : Int → String → Option String) : SecretPool → SecretTurn → SecretPool :=
  Pool.step (SecretWorld.handle contents) fun w _ => w

/-- A new isolate, and the calls that will be made in it. -/
def isolate (startMs : Int) (calls : Nat → SecretCall) : SecretPool := ⟨⟨startMs, fun _ => none⟩, fun i => (calls i).prog C⟩

end

end SecretCache

end Issuer
