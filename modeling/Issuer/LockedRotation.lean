import Issuer.AdminAuth
import Issuer.Lib.LeaseOrder
import Issuer.LockoutRuns
import Issuer.RateLimits

/-!
# Rotations under a lock

Both rotations, of the signing key and of the attestation key, let an admin in the same way and work under a lock of
thirty seconds, each operation of a request possibly followed by operations of others. `setting` is the lease that the
lock is: what a lock object refuses keeps the others out.
-/

namespace Issuer

open Rust Store Runs

/-! ## Who may rotate -/

structure RotationRequest where
  authorization : Option String
  nonce : Option String
  clientIp : String
  customerLimit : Nat → Nat
  failureToken : String

inductive RotationRefusal where
  | error (e : ApiError)
  | limited (rl : RateLimitResult)
deriving DecidableEq, Repr

def resolveAdminCredential (authorization : Option String) : Option String := authorization.bind extractBearerToken

/-- From the nonce on. -/
def admitRotationOnce (endpoint : QuotaEndpoint) (request : RotationRequest) (slot : AdminKeySlot) :
    Admin (Except RotationRefusal AdminKeySlot) := do
  match request.nonce with
  | none => pure (.error (.error (.unauthorized "Authentication failed")))
  | some adminNonce =>
    match ← Prog.op (AdminOp.consumeNonce adminNonce) with
    | .ok false => pure (.error (.error (.unauthorized "Authentication failed")))
    | .error _ => pure (.error (.error (.serviceUnavailable "Authentication infrastructure unavailable")))
    | .ok true =>
      let rl ← Admin.limits (checkQuota request.customerLimit "admin" endpoint.label)
      if rl.allowed then pure (.ok slot) else pure (.error (.limited rl))

/-- The first half of `rotate_signing_key` and of `rotate_attestation_key`. -/
def admitRotation (endpoint : QuotaEndpoint) (request : RotationRequest) : Admin (Except RotationRefusal AdminKeySlot) := do
  match resolveAdminCredential request.authorization with
  | none => pure (.error (.error (.unauthorized "Authentication failed")))
  | some adminApiKey =>
    match ← Admin.authenticateAdmin request.failureToken adminApiKey request.clientIp with
    | .error e => pure (.error (.error e))
    | .ok slot => admitRotationOnce endpoint request slot

/-! ## The world of a rotation -/

structure LockedWorld (δ : Type) where
  admin : AdminWorld
  data : δ
  flags : Kv String

inductive LockedOp (DOp : Type) where
  | admin (o : AdminOp)
  | data (o : DOp)
  | flagRotation

structure LockedTick (ε : Type) where
  admin : AdminTick
  data : ε

section
variable {δ ε DOp : Type} {DAns : DOp → Type}

abbrev LockedOp.Ans (DAns : DOp → Type) : LockedOp DOp → Type
  | .admin o => o.Ans
  | .data o => DAns o
  | .flagRotation => Unit

abbrev Locked (DAns : DOp → Type) := Prog (LockedOp DOp) (LockedOp.Ans DAns)

/-- The libraries that the operations of an admin use. -/
structure AdminLib where
  verifyApiKey : String → String → Bool
  sha256 : String → List UInt8

def LockedWorld.handle (lib : AdminLib) (handleD : δ → ε → (o : DOp) → DAns o × δ) (w : LockedWorld δ) (t : LockedTick ε) :
    (o : LockedOp DOp) → o.Ans DAns × LockedWorld δ
  | .admin o =>
    ((w.admin.handle lib.verifyApiKey lib.sha256 t.admin o).1,
      { w with admin := (w.admin.handle lib.verifyApiKey lib.sha256 t.admin o).2 })
  | .data o => ((handleD w.data t.data o).1, { w with data := (handleD w.data t.data o).2 })
  | .flagRotation =>
    match kvPut t.admin.kvFails w.flags t.admin.now (some 60) "jwks:rotated_at" (toString (nowEpochSecs t.admin.now)) with
    | .ok flags => ((), { w with flags := flags })
    | .error () => ((), w)

def LockedWorld.react (w : LockedWorld δ) (al : LockAlarm) : LockedWorld δ :=
  { w with admin := { w.admin with limits := w.admin.limits.react al } }

abbrev Locked.admin {α : Type} (p : Admin α) : Locked DAns α := p.lift LockedOp.admin fun _ x => x

abbrev Locked.data {α : Type} (p : Prog DOp DAns α) : Locked DAns α := p.lift LockedOp.data fun _ x => x

abbrev Locked.acquire (resourceKey token : String) : Locked DAns (Except ApiError String) :=
  Prog.op (LockedOp.admin (.limits (.acquire resourceKey token maxLockTtlSeconds.toNat)))

abbrev Locked.release (resourceKey token : String) : Locked DAns Unit :=
  Prog.op (LockedOp.admin (.limits (.release resourceKey token)))

/-! ## The lock as a lease -/

/-- The operation leaves the lock of others alone. -/
def LimitsOp.Apart (lock token : String) : LimitsOp → Prop
  | .acquire k _ _ => k ≠ lock
  | .release k t => k = lock → t = token
  | .now | .kvGet _ | .kvPut _ _ _ | .kvDelete _ => True

def AdminOp.Apart (lock token : String) : AdminOp → Prop
  | .limits o => o.Apart lock token
  | .verifyAdminApiKey _ | .secret _ | .verifyInternalTokenSlots _ _ _ | .consumeNonce _ => True

/-- Apart from the lock of others and from the data. -/
def LockedOp.Outer (lock token : String) (Reads : DOp → Prop) : LockedOp DOp → Prop
  | .admin o => o.Apart lock token
  | .data o => Reads o
  | .flagRotation => True

def LockedOp.granted (lock : String) : (o : LockedOp DOp) → o.Ans DAns → Bool
  | .admin (.limits (.acquire k _ _)), .ok _ => k == lock
  | _, _ => false

/-- Reads of the lock record succeed. -/
def LockedOp.fair (lock : String) (t : LockedTick ε) : LockedOp DOp → Bool
  | .admin (.limits (.acquire k _ _)) => k != lock || decide (t.admin.faults.read (lockKey lock) = .success)
  | _ => true

def LockedOp.working : LockedOp DOp → Bool
  | .data _ => true
  | .admin _ | .flagRotation => false

def lockedStart : Turn (LockedTick ε) LockAlarm → Int
  | .proc _ t => nowEpochSecs t.admin.now
  | .env al => nowEpochSecs al.now

def lockedStop : Turn (LockedTick ε) LockAlarm → Int
  | .proc _ t => nowEpochSecs t.admin.arm
  | .env al => nowEpochSecs al.arm

def lockSetting (lib : AdminLib) (handleD : δ → ε → (o : DOp) → DAns o × δ) (Reads : DOp → Prop) (lock : String)
    (token : Nat → String) :
    Lease.Setting (LockedWorld δ) δ Int (LockedOp DOp) DOp (LockedTick ε) LockAlarm (LockedOp.Ans DAns) DAns where
  handle := LockedWorld.handle lib handleD
  react := LockedWorld.react
  handleD := fun d t o => handleD d t.data o
  view := LockedWorld.data
  work := LockedOp.data
  back := fun _ x => x
  working := LockedOp.working
  enter := fun i => .admin (.limits (.acquire lock (token i) maxLockTtlSeconds.toNat))
  grant := fun i => .ok (token i)
  granted := fun _ o x => o.granted lock x
  term := fun t => nowEpochSecs t.admin.now + maxLockTtlSeconds
  start := lockedStart
  stop := lockedStop
  Held := fun w i x => Holds w.admin.limits.locks lock (token i) x
  Outer := fun i o => o.Outer lock (token i) Reads
  fair := fun t o => o.fair lock t

theorem feed_data {α : Type} {handleD : δ → ε → (o : DOp) → DAns o × δ} : ∀ (es : List (LockedTick ε)) (p : Prog DOp DAns α)
    (w : δ), p.feed (fun d t o => handleD d (LockedTick.data t) o) es w = p.feed handleD (es.map LockedTick.data) w
  | [], _, _ => rfl
  | _ :: es, .ret a, w => feed_data es (.ret a) w
  | t :: es, .ask o k, w => feed_data es (k (handleD w t.data o).1) (handleD w t.data o).2

theorem granted_holds {w : LimitsWorld} {t : Tick} {lock asked : String} (h : @LockedOp.granted DOp DAns lock
    (.admin (.limits (.acquire lock asked maxLockTtlSeconds.toNat)))
      (w.handle t (.acquire lock asked maxLockTtlSeconds.toNat)).1 = true) :
    (w.handle t (.acquire lock asked maxLockTtlSeconds.toNat)).1 = .ok asked ∧
      Holds (w.handle t (.acquire lock asked maxLockTtlSeconds.toNat)).2.locks lock asked
        (nowEpochSecs t.now + maxLockTtlSeconds) := by
  cases hanswer : (w.handle t (.acquire lock asked maxLockTtlSeconds.toNat)).1 with
  | error e =>
    rw [hanswer] at h
    cases h
  | ok answer =>
    have hok : (acquireResourceLockWithTtl t.faults t.now t.arm lock asked maxLockTtlSeconds.toNat w.locks).1 = .ok answer :=
      hanswer
    rw [(acquire_answer hok).1]
    exact ⟨rfl, acquire_ok_term hok⟩

/-- An operation apart from the lock, which is held by another. -/
theorem apart_holds {w : LimitsWorld} {t : Tick} {o : LimitsOp} {lock token own : String} {x : Int} (ho : o.Apart lock own)
    (hne : own ≠ token) (h : Holds w.locks lock token x) (hlt : nowEpochSecs t.now < x) :
    Holds (w.handle t o).2.locks lock token x := by
  cases o with
  | now | kvGet => exact h
  | kvPut ttl k v =>
    simp only [LimitsWorld.handle]
    cases kvPut t.kvFails w.kv t.now ttl k v <;> exact h
  | kvDelete k =>
    simp only [LimitsWorld.handle]
    split <;> exact h
  | acquire k tok ttl =>
    have hk : k ≠ lock := ho
    exact acquire_holds h hlt fun hkk => absurd hkk hk
  | release k tok =>
    refine release_holds h ?_
    rintro ⟨hk, htok⟩
    exact hne ((ho hk).symm.trans htok)

theorem lockSetting_lawful {lib : AdminLib} {handleD : δ → ε → (o : DOp) → DAns o × δ} {Reads : DOp → Prop} {lock : String}
    {token : Nat → String} (htoken : Function.Injective token) (hreads : ∀ d e o, Reads o → (handleD d e o).2 = d) :
    (lockSetting lib handleD Reads lock token).Lawful where
  work_data := fun w e o => ⟨rfl, rfl⟩
  work_held := fun w e o i x h => h
  work_working := fun o => rfl
  work_granted := fun i o x => rfl
  outer_view := by
    intro w e i o ho
    cases o with
    | admin o => rfl
    | data o => exact hreads w.data e.data o ho
    | flagRotation =>
      simp only [lockSetting, LockedWorld.handle]
      split <;> rfl
  outer_granted := by
    intro i o x ho
    cases o with
    | data o => rfl
    | flagRotation => rfl
    | admin o =>
      cases o with
      | verifyAdminApiKey | secret | verifyInternalTokenSlots | consumeNonce => rfl
      | limits o =>
        cases o with
        | now | kvGet | kvPut | kvDelete | release => rfl
        | acquire k tok ttl =>
          have hk : k ≠ lock := ho
          cases x with
          | error e => rfl
          | ok answer => exact beq_eq_false_iff_ne.mpr hk
  outer_held := by
    intro w e i j o x ho hij hfair h hlt
    cases o with
    | data o => exact h
    | flagRotation =>
      simp only [lockSetting, LockedWorld.handle]
      split <;> exact h
    | admin o =>
      cases o with
      | verifyAdminApiKey | secret | verifyInternalTokenSlots | consumeNonce => exact h
      | limits o => exact apart_holds ho (fun heq => hij (htoken heq).symm) h hlt
  enter_view := fun w e i => rfl
  enter_grant := fun w e i hgranted => @granted_holds DOp DAns _ _ _ _ hgranted
  enter_held := by
    intro w e i j x hij hfair h hlt
    have hread : e.admin.faults.read (lockKey lock) = .success := by
      have hfair' : (lock != lock || decide (e.admin.faults.read (lockKey lock) = .success)) = true := hfair
      simpa using hfair'
    refine ⟨?_, acquire_holds h hlt fun _ => hread⟩
    refine Bool.eq_false_iff.mpr fun hgranted => ?_
    obtain ⟨hanswer, -⟩ := @granted_holds DOp DAns w.admin.limits e.admin.toTick _ _ hgranted
    have hle := acquire_ok_expired hanswer h hread
    exact absurd hlt (not_lt.mpr hle)
  env_view := fun w h => rfl
  env_held := fun w h i x hheld hlt => react_holds hheld hlt

end

/-! ## Admission stays apart -/

section
variable {lock token : String}

abbrev Apart {α : Type} (lock token : String) (p : Limits α) : Prop :=
  p.Safe (LimitsOp.Apart lock token) (fun _ _ => True) fun _ => True

abbrev AdminApart {α : Type} (lock token : String) (p : Admin α) : Prop :=
  p.Safe (AdminOp.Apart lock token) (fun _ _ => True) fun _ => True

theorem limits_apart {α : Type} {p : Limits α} (hp : Apart lock token p) : AdminApart lock token (Admin.limits p) := by
  refine Prog.safe_lift ?_ ?_ p hp
  · exact fun _ ho => ho
  · exact fun _ _ _ => trivial

theorem checkKvCounter_apart (key : String) (limit ttlSecs : Nat) : Apart lock token (checkKvCounter key limit ttlSecs) := by
  refine Prog.safe_op trivial fun data _ => ?_
  cases data with
  | error u => exact trivial
  | ok data =>
    dsimp only
    split
    · exact trivial
    · exact Prog.safe_op trivial fun _ _ => trivial

theorem checkQuota_apart (customerLimit : Nat → Nat) (clientId endpoint : String) :
    Apart lock token (checkQuota customerLimit clientId endpoint) := by
  refine Prog.safe_op trivial fun now _ => ?_
  exact Prog.safe_bind _ (checkKvCounter_apart _ _ _) fun _ _ => Prog.safe_op trivial fun _ _ => trivial

theorem recordAuthFailure_apart {actorType actorId failureToken : String} {threshold : Nat}
    (hlock : authFailureLock actorType actorId ≠ lock) :
    Apart lock token (recordAuthFailure failureToken actorType actorId threshold) := by
  unfold recordAuthFailure
  split
  · exact trivial
  refine Prog.safe_op hlock fun answer _ => ?_
  cases answer with
  | error e => exact trivial
  | ok answer =>
    refine Prog.safe_bind (Q := fun _ => True) _ ?_ fun _ _ => Prog.safe_op (fun hk => absurd hk hlock) fun _ _ => trivial
    refine Prog.safe_op trivial fun data _ => ?_
    cases data with
    | error u => exact trivial
    | ok data =>
      refine Prog.safe_op trivial fun put _ => ?_
      cases put <;> exact trivial

theorem lockAccount_apart (actorType actorId : String) (duration : Nat) :
    Apart lock token (lockAccount actorType actorId duration) := by
  unfold lockAccount
  split
  · exact trivial
  refine Prog.safe_op trivial fun now _ => Prog.safe_op trivial fun put _ => ?_
  cases put <;> exact trivial

theorem clearAuthFailures_apart (actorType actorId : String) : Apart lock token (clearAuthFailures actorType actorId) := by
  unfold clearAuthFailures
  split
  · exact trivial
  refine Prog.safe_op trivial fun deleted _ => ?_
  cases deleted with
  | error u => exact trivial
  | ok u =>
    refine Prog.safe_op trivial fun deleted _ => ?_
    cases deleted <;> exact trivial

theorem isLockedOut_apart (actorType actorId : String) : Apart lock token (isLockedOut actorType actorId) := by
  unfold isLockedOut
  split
  · exact trivial
  refine Prog.safe_op trivial fun data _ => ?_
  cases data <;> exact trivial

theorem authFailureLock_ne (actorType actorId : String) (hlock : lock.toList.take 2 ≠ ['a', 'u']) :
    authFailureLock actorType actorId ≠ lock := by
  rintro rfl
  simp [authFailureLock, String.toList_append] at hlock

theorem authenticateAdmin_apart (hlock : lock.toList.take 2 ≠ ['a', 'u']) (failureToken adminApiKey clientIp : String) :
    AdminApart lock token (Admin.authenticateAdmin failureToken adminApiKey clientIp) := by
  refine Prog.safe_bind _ (limits_apart (isLockedOut_apart _ _)) fun locked _ => ?_
  rcases locked with e | _ | _
  · exact trivial
  · refine Prog.safe_op trivial fun slot _ => ?_
    cases slot with
    | some slot => exact Prog.safe_bind _ (limits_apart (clearAuthFailures_apart _ _)) fun _ _ => trivial
    | none =>
      refine Prog.safe_bind (Q := fun _ => True) _ (limits_apart ?_) fun _ _ => trivial
      refine Prog.safe_bind _ (recordAuthFailure_apart (authFailureLock_ne _ _ hlock)) fun count _ => ?_
      cases count with
      | error e => exact trivial
      | ok count =>
        dsimp only
        unfold lockAtThreshold
        split
        · exact Prog.safe_bind _ (lockAccount_apart _ _ _) fun _ _ => trivial
        · exact trivial
  · exact trivial

theorem admitRotation_apart (hlock : lock.toList.take 2 ≠ ['a', 'u']) (endpoint : QuotaEndpoint) (request : RotationRequest) :
    AdminApart lock token (admitRotation endpoint request) := by
  unfold admitRotation
  cases resolveAdminCredential request.authorization with
  | none => exact trivial
  | some adminApiKey =>
    refine Prog.safe_bind _ (authenticateAdmin_apart hlock _ _ _) fun slot _ => ?_
    cases slot with
    | error e => exact trivial
    | ok slot =>
      dsimp only
      unfold admitRotationOnce
      cases request.nonce with
      | none => exact trivial
      | some adminNonce =>
        refine Prog.safe_op trivial fun fresh _ => ?_
        rcases fresh with e | _ | _
        · exact trivial
        · exact trivial
        · refine Prog.safe_bind _ (limits_apart (checkQuota_apart _ _ _)) fun rl _ => ?_
          split <;> exact trivial

end

end Issuer
