import Issuer.Lockout

/-!
# The salt of the IP hashes

The keys of the lockout entries and of the per-address counters are keyed hashes, and the key is a
salt that each isolate reads from the Secrets Store once and keeps. A read that fails leaves the
isolate with a random salt of its own for as long as it lives. Isolates whose reads succeed agree on
every key, whatever the order of their requests.

`accepts` says which salts `PrivacyContext::new` takes, `hashIp` is `hash_ip` of a context with that
salt.
-/

namespace Issuer

open Rust Runs

inductive SaltOp where
  | cached (isolate : Nat)
  | setCached (isolate : Nat) (salt : List UInt8)
  | secretStore
  | secretGet
  | random
deriving DecidableEq, Repr

abbrev SaltOp.Ans : SaltOp → Type
  | .cached _ => Option (List UInt8)
  | .setCached _ _ => Unit
  | .secretStore => Except Unit Unit
  | .secretGet => Except Unit (Option (List UInt8))
  | .random => Except Unit (Vector UInt8 32)

abbrev Salting := Prog SaltOp SaltOp.Ans

structure SaltWorld where
  stored : List UInt8
  kept : Nat → Option (List UInt8)

inductive SecretRead where
  | found
  | missing
  | failed
deriving DecidableEq, Repr

structure SaltTick where
  bound : Bool
  read : SecretRead
  entropy : Except Unit (Vector UInt8 32)

/-- A `OnceLock` keeps the first value it is set to. -/
def SaltWorld.handle (w : SaltWorld) (t : SaltTick) : (o : SaltOp) → o.Ans × SaltWorld
  | .cached isolate => (w.kept isolate, w)
  | .setCached isolate salt => ((), { w with kept := Function.update w.kept isolate ((w.kept isolate).or (some salt)) })
  | .secretStore => (if t.bound then .ok () else .error (), w)
  | .secretGet =>
    (match t.read with
      | .found => .ok (some w.stored)
      | .missing => .ok none
      | .failed => .error (), w)
  | .random => (t.entropy, w)

/-! ## `audit.rs` -/

/-- Without entropy the buffer stays zero but for its first byte. -/
def generateEphemeralSalt : Salting (List UInt8) := do
  match ← Prog.op SaltOp.random with
  | .ok bytes => pure bytes.toList
  | .error () => pure (0x01 :: List.replicate 31 0)

def resolveIpHashSalt (isolate : Nat) : Salting (List UInt8) := do
  match ← Prog.op (SaltOp.cached isolate) with
  | some salt => pure salt
  | none =>
    let salt ← (do
      match ← Prog.op SaltOp.secretStore with
      | .error () => generateEphemeralSalt
      | .ok () =>
        match ← Prog.op SaltOp.secretGet with
        | .ok (some bytes) => if bytes.length ≥ 32 then pure bytes else generateEphemeralSalt
        | .ok none => generateEphemeralSalt
        | .error () => generateEphemeralSalt)
    let () ← Prog.op (SaltOp.setCached isolate salt)
    pure salt

/-- `build_privacy_context`, which stands for the salt it is built with. -/
def buildPrivacyContext (accepts : List UInt8 → Bool) (isolate : Nat) : Salting (List UInt8) := do
  let salt ← resolveIpHashSalt isolate
  if accepts salt then pure salt
  else
    let ephemeral ← generateEphemeralSalt
    if accepts ephemeral then pure ephemeral else pure (List.replicate 32 0x01)

/-! ## Keys -/

/-- What a request needs a hash for: the lockout of an officer at an address, or the cap of an address. -/
inductive Bucket where
  | lockout (officerId sourceIp : String)
  | authfailIp (sourceIp : String)
deriving DecidableEq, Repr

def Bucket.key (hashIp : List UInt8 → String → String) (salt : List UInt8) : Bucket → String
  | .lockout officerId sourceIp => officerLockoutActorId (hashIp salt) officerId sourceIp
  | .authfailIp sourceIp => authfailIpKey (hashIp salt sourceIp)

structure SaltRequest where
  isolate : Nat
  bucket : Bucket
deriving DecidableEq, Repr

def SaltRequest.prog (accepts : List UInt8 → Bool) (hashIp : List UInt8 → String → String) (r : SaltRequest) : Salting String := do
  let salt ← buildPrivacyContext accepts r.isolate
  pure (r.bucket.key hashIp salt)

abbrev SaltPool := Pool SaltWorld SaltOp SaltOp.Ans String

abbrev SaltTurn := Turn SaltTick Empty

abbrev SaltPool.step : SaltPool → SaltTurn → SaltPool := Pool.step SaltWorld.handle fun w _ => w

def saltPool (accepts : List UInt8 → Bool) (hashIp : List UInt8 → String → String) (requests : Nat → SaltRequest)
    (stored : List UInt8) : SaltPool :=
  ⟨⟨stored, fun _ => none⟩, fun i => (requests i).prog accepts hashIp⟩

/-! ## Reads that succeed -/

/-- The secret can be had wherever the turn asks for it. -/
def SecretAnswers (s : SaltPool) : SaltTurn → Prop
  | .proc i t => ((s.procs i).next = some .secretStore → t.bound = true) ∧
      ((s.procs i).next = some .secretGet → t.read = .found)
  | .env _ => True

instance (s : SaltPool) : DecidablePred (SecretAnswers s)
  | .proc i t => inferInstanceAs (Decidable (((s.procs i).next = some .secretStore → t.bound = true) ∧
      ((s.procs i).next = some .secretGet → t.read = .found)))
  | .env _ => inferInstanceAs (Decidable True)

/-- What the crate promises: a salt is refused where it is too short or all zero. -/
def RefusesWeakSalts (accepts : List UInt8 → Bool) : Prop :=
  ∀ salt, accepts salt = true ↔ 32 ≤ salt.length ∧ ∃ b ∈ salt, b ≠ 0

section
variable {accepts : List UInt8 → Bool} {hashIp : List UInt8 → String → String} {stored : List UInt8}

def KeepsStored (stored : List UInt8) (w : SaltWorld) : Prop :=
  w.stored = stored ∧ ∀ isolate, w.kept isolate = none ∨ w.kept isolate = some stored

def AnswersStored (stored : List UInt8) : (o : SaltOp) → o.Ans → Prop
  | .cached _, x => x = none ∨ x = some stored
  | .setCached _ _, _ => True
  | .secretStore, x => x = .ok ()
  | .secretGet, x => x = .ok (some stored)
  | .random, _ => True

def SetsStored (stored : List UInt8) : SaltOp → Prop
  | .setCached _ salt => salt = stored
  | .cached _ | .secretStore | .secretGet | .random => True

theorem handle_stored {s : SaltPool} {i : Nat} {e : SaltTick} {o : SaltOp} {k : o.Ans → Salting String}
    (hturn : SecretAnswers s (.proc i e)) (hask : s.procs i = .ask o k) (ho : SetsStored stored o)
    (hw : KeepsStored stored s.world) :
    AnswersStored stored o (s.world.handle e o).1 ∧ KeepsStored stored (s.world.handle e o).2 := by
  have hnext : (s.procs i).next = some o := by rw [hask]; rfl
  cases o with
  | cached isolate => exact ⟨hw.2 isolate, hw⟩
  | random => exact ⟨trivial, hw⟩
  | secretStore =>
    have hbound := hturn.1 hnext
    exact ⟨by simp [AnswersStored, SaltWorld.handle, hbound], hw⟩
  | secretGet =>
    have hfound := hturn.2 hnext
    exact ⟨by simp [AnswersStored, SaltWorld.handle, hfound, hw.1], hw⟩
  | setCached isolate salt =>
    have hsalt : salt = stored := ho
    refine ⟨trivial, hw.1, fun j => ?_⟩
    simp only [SaltWorld.handle]
    by_cases hj : j = isolate
    · subst hj
      rw [Function.update_self]
      rcases hw.2 j with hkept | hkept
      · simp [hkept, hsalt]
      · simp [hkept]
    · rw [Function.update_of_ne hj]
      exact hw.2 j

theorem resolveIpHashSalt_safe (hlength : 32 ≤ stored.length) (isolate : Nat) :
    (resolveIpHashSalt isolate).Safe (SetsStored stored) (AnswersStored stored) fun salt => salt = stored := by
  refine Prog.safe_op trivial fun kept hkept => ?_
  rcases hkept with rfl | rfl
  · refine Prog.safe_bind (Q := fun salt => salt = stored) _ ?_ fun salt hsalt => Prog.safe_op hsalt fun _ _ => hsalt
    refine Prog.safe_op trivial fun bound hbound => ?_
    cases (show bound = .ok () from hbound)
    refine Prog.safe_op trivial fun secret hsecret => ?_
    cases (show secret = .ok (some stored) from hsecret)
    simp only [ge_iff_le, hlength, if_true]
    rfl
  · rfl

theorem buildPrivacyContext_safe (hlength : 32 ≤ stored.length) (haccepts : accepts stored = true) (isolate : Nat) :
    (buildPrivacyContext accepts isolate).Safe (SetsStored stored) (AnswersStored stored) fun salt => salt = stored := by
  refine Prog.safe_bind (Q := fun salt => salt = stored) _ (resolveIpHashSalt_safe hlength isolate) fun salt hsalt => ?_
  subst hsalt
  simp only [haccepts, if_true]
  rfl

end

/-- In any order of the turns of any requests: where the stored salt is one that `PrivacyContext` takes and no
read of it fails, every request names its bucket by the stored salt, in whichever isolate it runs. -/
theorem buckets_agree (accepts : List UInt8 → Bool) (hashIp : List UInt8 → String → String)
    (haccepts : RefusesWeakSalts accepts) (requests : Nat → SaltRequest) (stored : List UInt8) (hlength : 32 ≤ stored.length)
    (hnonzero : ∃ b ∈ stored, b ≠ 0) (turns : List SaltTurn)
    (hok : Along SaltPool.step SecretAnswers (saltPool accepts hashIp requests stored) turns) :
    (∀ i key, (exec SaltPool.step (saltPool accepts hashIp requests stored) turns).procs i = .ret key →
      key = (requests i).bucket.key hashIp stored) ∧
    ∀ i j actor actor', (requests i).bucket = (requests j).bucket →
      (exec SaltPool.step (saltPool accepts hashIp requests stored) turns).procs i = .ret actor →
      (exec SaltPool.step (saltPool accepts hashIp requests stored) turns).procs j = .ret actor' →
      lockoutKey "officer" actor = lockoutKey "officer" actor' ∧ isLockedOut "officer" actor = isLockedOut "officer" actor' := by
  have hstart : ∀ i, ((saltPool accepts hashIp requests stored).procs i).Safe (SetsStored stored) (AnswersStored stored)
      fun key => key = (requests i).bucket.key hashIp stored := by
    intro i
    refine Prog.safe_bind (Q := fun salt => salt = stored) _
      (buildPrivacyContext_safe hlength ((haccepts stored).mpr ⟨hlength, hnonzero⟩) _) fun salt hsalt => ?_
    rw [hsalt]
    rfl
  have hsafe := (Pool.pool_safe_along SaltWorld.handle (fun w _ => w)
    (fun s i e o k hturn hask ho hw => handle_stored hturn hask ho hw) (fun _ _ _ hw => hw) turns
    (saltPool accepts hashIp requests stored) ⟨rfl, fun _ => .inl rfl⟩ hstart hok).2
  have hkeys : ∀ i key, (exec SaltPool.step (saltPool accepts hashIp requests stored) turns).procs i = .ret key →
      key = (requests i).bucket.key hashIp stored := by
    intro i key hret
    have hi := hsafe i
    rw [show (exec (Pool.step SaltWorld.handle fun w _ => w) (saltPool accepts hashIp requests stored) turns).procs i =
      .ret key from hret] at hi
    exact hi
  refine ⟨hkeys, fun i j actor actor' hbucket hi hj => ?_⟩
  rw [hkeys i actor hi, hkeys j actor' hj, hbucket]
  exact ⟨rfl, rfl⟩

/-! ## Isolates that disagree -/

def mixedHash (salt : List UInt8) (input : String) : String :=
  hexEncode ((List.range 32).map fun k => salt.getD k 0 ^^^ input.toUTF8.data.toList.getD k 0)

def longEnough (salt : List UInt8) : Bool := decide (32 ≤ salt.length) && salt.any (· != 0)

theorem longEnough_refuses : RefusesWeakSalts longEnough := by
  intro salt
  simp [longEnough]

def mixedActor (b : UInt8) : String := officerLockoutActorId (mixedHash (List.replicate 32 b)) "o1" "192.0.2.1"

/-- Requests 0 and 1 run in isolate 0, the others in isolate 1. -/
def sameOfficer (i : Nat) : SaltRequest := ⟨if i < 2 then 0 else 1, .lockout "o1" "192.0.2.1"⟩

abbrev sameOfficerPool : SaltPool := saltPool longEnough mixedHash sameOfficer (List.replicate 32 5)

def storeUp : SaltTick := ⟨true, .found, .ok (.replicate 32 0)⟩

def storeDown (b : UInt8) : SaltTick := ⟨true, .failed, .ok (.replicate 32 b)⟩

/-- Request 0 reads the secret, request 1 misses it at the same time, request 2 misses it in the other isolate,
where request 3 comes later. -/
def unevenTurns : List SaltTurn :=
  [.proc 0 storeUp, .proc 0 storeUp, .proc 1 storeUp, .proc 1 storeUp, .proc 0 storeUp, .proc 0 storeUp,
    .proc 1 (storeDown 7), .proc 1 (storeDown 7), .proc 1 storeUp] ++
  List.replicate 5 (.proc 2 (storeDown 9)) ++ [.proc 3 storeUp]

def evenTurns : List SaltTurn :=
  List.replicate 4 (.proc 0 storeUp) ++ List.replicate 4 (.proc 2 storeUp)

theorem isolates_agree_where_reads_succeed :
    (∀ i key, (exec SaltPool.step sameOfficerPool evenTurns).procs i = .ret key →
      key = (sameOfficer i).bucket.key mixedHash (List.replicate 32 5)) ∧
    ∀ i j actor actor', (sameOfficer i).bucket = (sameOfficer j).bucket →
      (exec SaltPool.step sameOfficerPool evenTurns).procs i = .ret actor →
      (exec SaltPool.step sameOfficerPool evenTurns).procs j = .ret actor' →
      lockoutKey "officer" actor = lockoutKey "officer" actor' ∧ isLockedOut "officer" actor = isLockedOut "officer" actor' :=
  buckets_agree longEnough mixedHash longEnough_refuses sameOfficer (List.replicate 32 5) (by decide) ⟨5, by simp, by decide⟩
    evenTurns (by decide +kernel)

def lockSeen (locked asked : String) : Bool :=
  match ((isLockedOut "officer" asked).run LimitsWorld.handle (.at 2000)
    ((lockAccount "officer" locked lockoutDurationSeconds).run LimitsWorld.handle (.at 1000) ⟨fun _ => .empty, ∅⟩).2).1 with
  | .ok b => b
  | .error _ => false

/-- The same officer at the same address, four times: only request 0 is under the stored salt, and the lock that
isolate 0 sets is one that isolate 1 does not see. -/
theorem isolates_disagree : ∃ a b c d,
    (exec SaltPool.step sameOfficerPool unevenTurns).procs 0 = .ret a ∧
    (exec SaltPool.step sameOfficerPool unevenTurns).procs 1 = .ret b ∧
    (exec SaltPool.step sameOfficerPool unevenTurns).procs 2 = .ret c ∧
    (exec SaltPool.step sameOfficerPool unevenTurns).procs 3 = .ret d ∧
    a ≠ b ∧ a ≠ c ∧ a ≠ d ∧ lockSeen a a = true ∧ lockSeen a c = false := by
  have hrun : ∃ a b c d, ((exec SaltPool.step sameOfficerPool unevenTurns).procs 0).result = some a ∧
      ((exec SaltPool.step sameOfficerPool unevenTurns).procs 1).result = some b ∧
      ((exec SaltPool.step sameOfficerPool unevenTurns).procs 2).result = some c ∧
      ((exec SaltPool.step sameOfficerPool unevenTurns).procs 3).result = some d ∧
      a ≠ b ∧ a ≠ c ∧ a ≠ d ∧ lockSeen a a = true ∧ lockSeen a c = false := by
    refine ⟨mixedActor 5, mixedActor 7, mixedActor 9, mixedActor 9, ?_⟩
    decide +kernel
  simpa only [Prog.result_eq_some] using hrun

end Issuer
