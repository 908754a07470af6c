import Issuer.Lockout
import Issuer.LockSound

/-!
# Counting failures under a lock, in every interleaving

The calls that count failures of one actor all have the same shape: some operations that do not
touch the actor's lock and counter, then `record_auth_failure`, then more of the former. `Phase` says
where such a call is, `Moves` what one turn can do to it, and `Tallied` is the invariant: who may
write the counter holds the lock and has read the current value, and the counts written so far are
the numbers from the first one on, one for each call.

`since` remembers when each call asked for its lock.
-/

namespace Issuer

open Rust Store Runs

structure Actor where
  actorType : String
  actorId : String
  threshold : Nat
deriving DecidableEq, Repr

namespace Actor
variable (a : Actor)

def lock : String := authFailureLock a.actorType a.actorId

def counter : String := lockoutKey a.actorType a.actorId

def flag : String := lockedKey a.actorType a.actorId

/-- The count the stored entry stands for, whether or not it has expired. -/
def tally (kv : Kv String) : Nat := failureCount a.threshold (kv[a.counter]?.map (·.value))

end Actor

/-! ## Locks of the shards -/

def Holds (locks : ResourceShards) (resourceKey token : String) (expiresAt : Int) : Prop :=
  LockedBy (locks (resourceShard resourceKey)).storage resourceKey token expiresAt

theorem holds_unique {locks : ResourceShards} {resourceKey token token' : String} {e e' : Int}
    (h : Holds locks resourceKey token e) (h' : Holds locks resourceKey token' e') : token = token' :=
  (lockedBy_unique h h').1

theorem holds_update {locks : ResourceShards} {resourceKey token : String} {e : Int}
    {i : Fin resourceLockShardCount} {d : ResourceLockDo} (h : Holds locks resourceKey token e)
    (hd : LockedBy (locks i).storage resourceKey token e → LockedBy d.storage resourceKey token e) :
    Holds (Function.update locks i d) resourceKey token e := by
  unfold Holds at *
  by_cases hi : resourceShard resourceKey = i
  · subst hi
    rw [Function.update_self]
    exact hd h
  · rw [Function.update_of_ne hi]
    exact h

section
variable {fl : Faults} {now arm : UInt64} {locks : ResourceShards} {resourceKey token : String} {e : Int}

theorem acquire_locks (asked askedToken : String) (ttl : Nat) :
    (acquireResourceLockWithTtl fl now arm asked askedToken ttl locks).2 =
      Function.update locks (resourceShard asked)
        ((locks (resourceShard asked)).handleAcquireLock fl now arm ⟨askedToken, ttl, asked⟩).2 := by
  unfold acquireResourceLockWithTtl
  simp only
  split
  · split
    · rfl
    · rfl
  · rfl
  · rfl

theorem acquire_holds {asked askedToken : String} {ttl : Nat} (h : Holds locks resourceKey token e)
    (hlt : nowEpochSecs now < e) (hread : asked = resourceKey → fl.read (lockKey resourceKey) = .success) :
    Holds (acquireResourceLockWithTtl fl now arm asked askedToken ttl locks).2 resourceKey token e := by
  rw [acquire_locks]
  exact holds_update h fun hl => acquire_lockedBy hl hlt hread

theorem acquire_answer {ttl : Nat} {answer : String}
    (h : (acquireResourceLockWithTtl fl now arm resourceKey token ttl locks).1 = .ok answer) :
    answer = token ∧ acquireGranted ((locks (resourceShard resourceKey)).handleAcquireLock fl now arm
      ⟨token, ttl, resourceKey⟩).1 = true := by
  unfold acquireResourceLockWithTtl at h
  simp only at h
  split at h
  · rename_i resp hresp
    split at h
    · rename_i hacq
      rw [hresp]
      cases h
      exact ⟨rfl, hacq⟩
    · cases h
  · cases h
  · cases h

theorem acquire_ok {ttl : Nat} {answer : String}
    (h : (acquireResourceLockWithTtl fl now arm resourceKey token ttl locks).1 = .ok answer) :
    Holds (acquireResourceLockWithTtl fl now arm resourceKey token ttl locks).2 resourceKey token
      (satAddI64 (nowEpochSecs now) (min (toI64OrMax ttl) maxLockTtlSeconds)) := by
  rw [acquire_locks]
  unfold Holds
  rw [Function.update_self]
  exact acquire_granted_lockedBy (acquire_answer h).2

/-- A lock for the full term. -/
theorem acquire_ok_term {answer : String}
    (h : (acquireResourceLockWithTtl fl now arm resourceKey token maxLockTtlSeconds.toNat locks).1 = .ok answer) :
    Holds (acquireResourceLockWithTtl fl now arm resourceKey token maxLockTtlSeconds.toNat locks).2 resourceKey token
      (nowEpochSecs now + maxLockTtlSeconds) := by
  have hl := acquire_ok h
  have httl : min (toI64OrMax maxLockTtlSeconds.toNat) maxLockTtlSeconds = maxLockTtlSeconds := by decide
  rw [httl, nowEpochSecs_eq, satAddI64_secs now (by decide) (by decide)] at hl
  rw [nowEpochSecs_eq]
  exact hl

theorem acquire_ok_expired {ttl : Nat} {answer asked : String}
    (h : (acquireResourceLockWithTtl fl now arm resourceKey asked ttl locks).1 = .ok answer)
    (hl : Holds locks resourceKey token e) (hread : fl.read (lockKey resourceKey) = .success) :
    e ≤ nowEpochSecs now := by
  by_contra hlt
  have hl' : LockedBy (locks (resourceShard resourceKey)).storage
      (AcquireLockRequest.mk asked ttl resourceKey).resourceKey token e := hl
  have hgranted := (acquire_answer h).2
  rw [acquire_not_granted hl' (not_le.mp hlt) hread] at hgranted
  cases hgranted

theorem release_holds {released releasedToken : String} (h : Holds locks resourceKey token e)
    (hne : ¬(released = resourceKey ∧ releasedToken = token)) :
    Holds (releaseResourceLock fl released releasedToken locks) resourceKey token e :=
  holds_update h fun hl => release_lockedBy hl hne

theorem react_holds {w : LimitsWorld} {al : LockAlarm} (h : Holds w.locks resourceKey token e)
    (hlt : nowEpochSecs al.now < e) : Holds (w.react al).locks resourceKey token e :=
  holds_update h fun hl => alarm_lockedBy hl hlt

end

/-! ## Operations that mind their own business -/

def LimitsOp.Foreign (a : Actor) : LimitsOp → Prop
  | .now | .kvGet _ => True
  | .kvPut _ k _ | .kvDelete k => k ≠ a.counter
  | .acquire k _ _ | .release k _ => k ≠ a.lock

abbrev Minds {α : Type} (a : Actor) (p : Limits α) : Prop :=
  p.Safe (LimitsOp.Foreign a) (fun _ _ => True) fun _ => True

/-- The operation leaves the entry of `key` alone. -/
def LimitsOp.Leaves (key : String) : LimitsOp → Prop
  | .kvPut _ k _ | .kvDelete k => k ≠ key
  | .now | .kvGet _ | .acquire _ _ _ | .release _ _ => True

theorem handle_leaves {key : String} {w : LimitsWorld} {t : Tick} {o : LimitsOp} (ho : o.Leaves key) :
    (w.handle t o).2.kv[key]? = w.kv[key]? := by
  cases o with
  | now | kvGet | acquire | release => rfl
  | kvPut ttl k v =>
    have hk : k ≠ key := ho
    simp only [LimitsWorld.handle]
    unfold kvPut
    split
    · rename_i kv hkv
      split at hkv
      · cases hkv
      · cases hkv
        exact insert_get_of_ne _ hk _
    · rfl
  | kvDelete k =>
    have hk : k ≠ key := ho
    simp only [LimitsWorld.handle]
    split
    · rfl
    · exact erase_get_of_ne _ hk

theorem handle_counter {a : Actor} {w : LimitsWorld} {t : Tick} {o : LimitsOp} (ho : o.Foreign a) :
    (w.handle t o).2.kv[a.counter]? = w.kv[a.counter]? := by
  apply handle_leaves
  cases o with
  | kvPut ttl k v => exact ho
  | kvDelete k => exact ho
  | now | kvGet | acquire | release => trivial

theorem handle_holds {a : Actor} {w : LimitsWorld} {t : Tick} {o : LimitsOp} {token : String} {e : Int}
    (ho : o.Foreign a) (h : Holds w.locks a.lock token e) (hlt : nowEpochSecs t.now < e) :
    Holds (w.handle t o).2.locks a.lock token e := by
  cases o with
  | now | kvGet => exact h
  | kvPut ttl k v =>
    simp only [LimitsWorld.handle]
    split
    · exact h
    · exact h
  | kvDelete k =>
    simp only [LimitsWorld.handle]
    split
    · exact h
    · exact h
  | acquire k tok ttl =>
    have hk : k ≠ a.lock := ho
    exact acquire_holds h hlt fun hkk => absurd hkk hk
  | release k tok =>
    have hk : k ≠ a.lock := ho
    exact release_holds h fun hkk => hk hkk.1

/-! ## Phases of a call -/

inductive Phase where
  | ahead (p : Limits Bool)
  | locked
  | counted (cur : Nat)
  | stored (n : Nat)
  | aborted (e : ApiError)
  | after (r : Except ApiError Nat) (q : Limits LimitsReply)

namespace Phase

/-- The call may still write the counter. -/
def Critical : Phase → Prop
  | .locked | .counted _ => True
  | .ahead _ | .stored _ | .aborted _ | .after _ _ => False

/-- The count the call has written. -/
def count : Phase → Option Nat
  | .stored n | .after (.ok n) _ => some n
  | .ahead _ | .locked | .counted _ | .aborted _ | .after (.error _) _ => none

def Tidy (a : Actor) (post : Except ApiError Nat → Limits LimitsReply) : Phase → Prop
  | .ahead p => Minds a p
  | .after r q => (post r).Reach q
  | .locked | .counted _ | .stored _ | .aborted _ => True

/-- What is left of a call with `post` after `record_auth_failure`. -/
def render (a : Actor) (token : String) (post : Except ApiError Nat → Limits LimitsReply) :
    Phase → Limits LimitsReply
  | .ahead p => p >>= fun _ => recordAuthFailure token a.actorType a.actorId a.threshold >>= post
  | .locked => recordAuthFailureInner a.actorType a.actorId a.threshold >>= fun r =>
      Limits.release a.lock token >>= fun _ => post r
  | .counted cur => .ask (.kvPut (some lockoutTrackingWindow) a.counter (toString (satAddU32 cur 1))) fun x =>
      .ask (.release a.lock token) fun _ =>
        post (match x with
          | .error () => .error (.storageError "Failed to execute failure count put")
          | .ok () => .ok (satAddU32 cur 1))
  | .stored n => .ask (.release a.lock token) fun _ => post (.ok n)
  | .aborted e => .ask (.release a.lock token) fun _ => post (.error e)
  | .after _ q => q

end Phase

/-- One turn of a call in a world `w`: its new phase and the new world. -/
inductive Moves (a : Actor) (token : String) (post : Except ApiError Nat → Limits LimitsReply) (w : LimitsWorld)
    (t : Tick) : Phase → Phase → LimitsWorld → Prop
  | prepare (o : LimitsOp) (k : o.Ans → Limits Bool) :
    Moves a token post w t (.ahead (.ask o k)) (.ahead (k (w.handle t o).1)) (w.handle t o).2
  | enter (b : Bool) (answer : String)
    (h : (acquireResourceLockWithTtl t.faults t.now t.arm a.lock token maxLockTtlSeconds.toNat w.locks).1 = .ok answer) :
    Moves a token post w t (.ahead (.ret b)) .locked { w with locks :=
      (acquireResourceLockWithTtl t.faults t.now t.arm a.lock token maxLockTtlSeconds.toNat w.locks).2 }
  | refused (b : Bool) (e : ApiError)
    (h : (acquireResourceLockWithTtl t.faults t.now t.arm a.lock token maxLockTtlSeconds.toNat w.locks).1 = .error e) :
    Moves a token post w t (.ahead (.ret b)) (.after (.error e) (post (.error e))) { w with locks :=
      (acquireResourceLockWithTtl t.faults t.now t.arm a.lock token maxLockTtlSeconds.toNat w.locks).2 }
  | read (data : Option String) (h : kvGet t.kvFails w.kv t.now a.counter = .ok data) :
    Moves a token post w t .locked (.counted (failureCount a.threshold data)) w
  | readFailed (e : ApiError) (h : kvGet t.kvFails w.kv t.now a.counter = .error ()) :
    Moves a token post w t .locked (.aborted e) w
  | put (cur : Nat) (kv : Kv String)
    (h : kvPut t.kvFails w.kv t.now (some lockoutTrackingWindow) a.counter (toString (satAddU32 cur 1)) = .ok kv) :
    Moves a token post w t (.counted cur) (.stored (satAddU32 cur 1)) { w with kv := kv }
  | putFailed (cur : Nat) (e : ApiError)
    (h : kvPut t.kvFails w.kv t.now (some lockoutTrackingWindow) a.counter (toString (satAddU32 cur 1)) = .error ()) :
    Moves a token post w t (.counted cur) (.aborted e) w
  | release (n : Nat) : Moves a token post w t (.stored n) (.after (.ok n) (post (.ok n)))
      { w with locks := releaseResourceLock t.faults a.lock token w.locks }
  | giveUp (e : ApiError) : Moves a token post w t (.aborted e) (.after (.error e) (post (.error e)))
      { w with locks := releaseResourceLock t.faults a.lock token w.locks }
  | leave (r : Except ApiError Nat) (o : LimitsOp) (k : o.Ans → Limits LimitsReply) :
    Moves a token post w t (.after r (.ask o k)) (.after r (k (w.handle t o).1)) (w.handle t o).2
  | rest (r : Except ApiError Nat) (x : LimitsReply) : Moves a token post w t (.after r (.ret x)) (.after r (.ret x)) w

section
variable {a : Actor} {token : String} {post : Except ApiError Nat → Limits LimitsReply}

theorem render_entry (hv : validateActor a.actorType a.actorId = .ok ()) (b : Bool) :
    Phase.render a token post (.ahead (.ret b)) = .ask (.acquire a.lock token maxLockTtlSeconds.toNat) fun x =>
      match x with
      | .error e => post (.error e)
      | .ok token => Phase.render a token post .locked := by
  simp only [Phase.render, Prog.ret_bind, recordAuthFailure, hv, Limits.acquire, Prog.op_bind, Prog.ask_bind]
  refine congrArg (Prog.ask _) (funext fun x => ?_)
  rcases x with e | token
  · rfl
  · exact Prog.bind_assoc _ _ _

theorem render_locked : Phase.render a token post .locked = .ask (.kvGet a.counter) fun x =>
    match x with
    | .error () => Phase.render a token post (.aborted (.storageError "Failed to get failure count"))
    | .ok data => Phase.render a token post (.counted (failureCount a.threshold data)) := by
  simp only [Phase.render, recordAuthFailureInner, Limits.kvGet, Prog.op_bind, Prog.ask_bind]
  refine congrArg (Prog.ask _) (funext fun x => ?_)
  rcases x with u | data
  · rfl
  · refine congrArg (Prog.ask _) (funext fun y => ?_)
    rcases y with u | u
    · rfl
    · rfl

/-- A turn of a call is one of the moves. -/
theorem advance_moves (hv : validateActor a.actorType a.actorId = .ok ()) (token : String)
    (post : Except ApiError Nat → Limits LimitsReply) (w : LimitsWorld) (t : Tick) (ph : Phase) :
    ∃ ph', (Phase.render a token post ph).advance LimitsWorld.handle w t =
        (Phase.render a token post ph', ((Phase.render a token post ph).advance LimitsWorld.handle w t).2) ∧
      Moves a token post w t ph ph' ((Phase.render a token post ph).advance LimitsWorld.handle w t).2 := by
  cases ph with
  | ahead p =>
    cases p with
    | ask o k => exact ⟨_, rfl, .prepare o k⟩
    | ret b =>
      rw [render_entry hv]
      simp only [Prog.advance, LimitsWorld.handle]
      cases h : (acquireResourceLockWithTtl t.faults t.now t.arm a.lock token maxLockTtlSeconds.toNat w.locks).1 with
      | error e => exact ⟨_, rfl, .refused b e h⟩
      | ok answer =>
        obtain ⟨rfl, _⟩ := acquire_answer h
        exact ⟨_, rfl, .enter b answer h⟩
  | locked =>
    rw [render_locked]
    simp only [Prog.advance, LimitsWorld.handle]
    cases h : kvGet t.kvFails w.kv t.now a.counter with
    | error u => exact ⟨_, rfl, .readFailed _ h⟩
    | ok data => exact ⟨_, rfl, .read data h⟩
  | counted cur =>
    simp only [Phase.render, Prog.advance, LimitsWorld.handle]
    cases h : kvPut t.kvFails w.kv t.now (some lockoutTrackingWindow) a.counter (toString (satAddU32 cur 1)) with
    | error u => exact ⟨.aborted (.storageError "Failed to execute failure count put"), rfl, .putFailed cur _ h⟩
    | ok kv => exact ⟨.stored (satAddU32 cur 1), rfl, .put cur kv h⟩
  | stored n => exact ⟨_, rfl, .release n⟩
  | aborted e => exact ⟨_, rfl, .giveUp e⟩
  | after r q =>
    cases q with
    | ret x => exact ⟨_, rfl, .rest r x⟩
    | ask o k => exact ⟨_, rfl, .leave r o k⟩

end

/-! ## Runs with the times of the acquires -/

structure TimedPool where
  pool : LimitsPool
  since : Nat → Int

def TimedPool.step (s : TimedPool) (turn : LimitsTurn) : TimedPool where
  pool := s.pool.step turn
  since :=
    match turn with
    | .proc i t =>
      match s.pool.procs i with
      | .ask (.acquire _ _ _) _ => Function.update s.since i (nowEpochSecs t.now)
      | _ => s.since
    | .env _ => s.since

def turnStart : LimitsTurn → Int
  | .proc _ t => nowEpochSecs t.now
  | .env al => nowEpochSecs al.now

def turnStop : LimitsTurn → Int
  | .proc _ t => nowEpochSecs t.arm
  | .env al => nowEpochSecs al.arm

/-- What an operation of call `i` has to keep to: lock records can be read, the counter is written
within 30 seconds of the acquire and below the largest `u32`, and no read finds the counter's entry
expired. -/
def OrderlyOp (a : Actor) (s : TimedPool) (i : Nat) (t : Tick) : LimitsOp → Prop
  | .acquire k _ _ => k = a.lock → t.faults.read (lockKey a.lock) = .success
  | .kvGet k => k = a.counter → (s.pool.world.kv[a.counter]?).all (·.live (secs t.now)) = true
  | .kvPut _ k _ => k = a.counter →
      nowEpochSecs t.now < s.since i + maxLockTtlSeconds ∧ a.tally s.pool.world.kv < u32Max
  | .now | .kvDelete _ | .release _ _ => True

instance decidableOrderlyOp (a : Actor) (s : TimedPool) (i : Nat) (t : Tick) :
    ∀ o : LimitsOp, Decidable (OrderlyOp a s i t o)
  | .acquire k _ _ => inferInstanceAs (Decidable (k = a.lock → t.faults.read (lockKey a.lock) = .success))
  | .kvGet k => inferInstanceAs (Decidable (k = a.counter →
      (s.pool.world.kv[a.counter]?).all (·.live (secs t.now)) = true))
  | .kvPut _ k _ => inferInstanceAs (Decidable (k = a.counter →
      nowEpochSecs t.now < s.since i + maxLockTtlSeconds ∧ a.tally s.pool.world.kv < u32Max))
  | .now | .kvDelete _ | .release _ _ => inferInstanceAs (Decidable True)

def Orderly (a : Actor) (s : TimedPool) : LimitsTurn → Bool
  | .proc i t => (s.pool.procs i).next.all fun o => decide (OrderlyOp a s i t o)
  | .env _ => true

theorem orderlyOp_of_ask {a : Actor} {s : TimedPool} {i : Nat} {t : Tick} {o : LimitsOp} {k : o.Ans → Limits LimitsReply}
    (h : Orderly a s (.proc i t) = true) (hp : s.pool.procs i = .ask o k) : OrderlyOp a s i t o := by
  simpa only [Orderly, hp, Prog.next, Option.all_some, decide_eq_true_eq] using h

theorem exec_timedPool : ∀ (turns : List LimitsTurn) (s : TimedPool),
    (exec TimedPool.step s turns).pool = exec LimitsPool.step s.pool turns
  | [], _ => rfl
  | turn :: turns, s => exec_timedPool turns (s.step turn)

/-! ## The invariant -/

structure Tallied (a : Actor) (token : Nat → String) (post : Except ApiError Nat → Limits LimitsReply) (base : Nat)
    (t : Int) (s : TimedPool) (ph : Nat → Phase) : Prop where
  rendered : ∀ i, s.pool.procs i = (ph i).render a (token i) post
  tidy : ∀ i, (ph i).Tidy a post
  backed : ∀ i, (ph i).Critical → t < s.since i + maxLockTtlSeconds →
    Holds s.pool.world.locks a.lock (token i) (s.since i + maxLockTtlSeconds)
  current : ∀ i cur, ph i = .counted cur → t < s.since i + maxLockTtlSeconds → cur = a.tally s.pool.world.kv
  low : base ≤ a.tally s.pool.world.kv
  range : ∀ i n, (ph i).count = some n → base < n ∧ n ≤ a.tally s.pool.world.kv
  distinct : ∀ i j n, (ph i).count = some n → (ph j).count = some n → i = j
  onto : ∀ n, base < n → n ≤ a.tally s.pool.world.kv → ∃ i, (ph i).count = some n

theorem tally_congr {a : Actor} {kv kv' : Kv String} (h : kv'[a.counter]? = kv[a.counter]?) :
    a.tally kv' = a.tally kv := by
  unfold Actor.tally
  rw [h]

section
variable {a : Actor} {token : Nat → String} {post : Except ApiError Nat → Limits LimitsReply} {base : Nat}
  {t t' : Int} {s : TimedPool} {ph : Nat → Phase}

/-- A turn of call `i` that leaves the counter alone and writes no count. -/
theorem Tallied.quiet (h : Tallied a token post base t s ph) {i : Nat} {ph' : Phase} {w : LimitsWorld}
    {since : Nat → Int} (htime : t ≤ t') (hkv : w.kv[a.counter]? = s.pool.world.kv[a.counter]?)
    (hsince : ∀ j, j ≠ i → since j = s.since j)
    (hothers : ∀ tok e, tok ≠ token i → t' < e → Holds s.pool.world.locks a.lock tok e → Holds w.locks a.lock tok e)
    (hinj : Function.Injective token)
    (hown : ph'.Critical → t' < since i + maxLockTtlSeconds →
      Holds w.locks a.lock (token i) (since i + maxLockTtlSeconds))
    (hcur : ∀ cur, ph' = .counted cur → t' < since i + maxLockTtlSeconds → cur = a.tally s.pool.world.kv)
    (hcount : ph'.count = (ph i).count) (htidy : ph'.Tidy a post) :
    Tallied a token post base t' ⟨⟨w, Function.update s.pool.procs i (ph'.render a (token i) post)⟩, since⟩
      (Function.update ph i ph') := by
  have htally : a.tally w.kv = a.tally s.pool.world.kv := tally_congr hkv
  have hcounts : ∀ j, (Function.update ph i ph' j).count = (ph j).count := by
    intro j
    by_cases hj : j = i
    · subst hj; rw [Function.update_self, hcount]
    · rw [Function.update_of_ne hj]
  refine ⟨?rendered, ?tidy, ?backed, ?current, ?low, ?range, ?distinct, ?onto⟩
  case rendered =>
    intro j
    by_cases hj : j = i
    · subst hj; simp only [Function.update_self]
    · simp only [Function.update_of_ne hj]; exact h.rendered j
  case tidy =>
    intro j
    by_cases hj : j = i
    · subst hj; rw [Function.update_self]; exact htidy
    · rw [Function.update_of_ne hj]; exact h.tidy j
  case backed =>
    intro j hcrit hlt
    by_cases hj : j = i
    · subst hj
      rw [Function.update_self] at hcrit
      exact hown hcrit hlt
    · rw [Function.update_of_ne hj] at hcrit
      simp only [hsince j hj] at hlt ⊢
      refine hothers _ _ (fun htok => hj (hinj htok)) hlt ?_
      exact h.backed j hcrit (by omega)
  case current =>
    intro j cur hph hlt
    simp only [htally]
    by_cases hj : j = i
    · subst hj
      rw [Function.update_self] at hph
      exact hcur cur hph hlt
    · rw [Function.update_of_ne hj] at hph
      simp only [hsince j hj] at hlt
      exact h.current j cur hph (by omega)
  case low => simp only [htally]; exact h.low
  case range =>
    intro j n hn
    rw [hcounts] at hn
    simp only [htally]
    exact h.range j n hn
  case distinct =>
    intro j k n hj hk
    rw [hcounts] at hj hk
    exact h.distinct j k n hj hk
  case onto =>
    intro n hlo hhi
    simp only [htally] at hhi
    obtain ⟨j, hj⟩ := h.onto n hlo hhi
    exact ⟨j, by rw [hcounts]; exact hj⟩

theorem kvPut_ok {α : Type} {fails : Bool} {kv kv' : Kv α} {now : UInt64} {ttl : Option Nat} {key : String} {v : α}
    (h : kvPut fails kv now ttl key v = .ok kv') : kv' = Store.put kv (secs now) ttl key v := by
  unfold kvPut at h
  split at h
  · cases h
  · cases h; rfl

theorem tally_put {kv : Kv String} {now : Nat} {n : Nat} (hn : n ≤ u32Max) :
    a.tally (Store.put kv now (some lockoutTrackingWindow) a.counter (toString n)) = n := by
  unfold Actor.tally Store.put
  rw [Std.TreeMap.getElem?_insert_self]
  simp only [Option.map_some, failureCount, parseU32_toString hn, Option.getD_some]

/-- A turn that ends outside the critical section. -/
theorem Tallied.outside (h : Tallied a token post base t s ph) {i : Nat} {ph' : Phase} {w : LimitsWorld}
    {since : Nat → Int} (htime : t ≤ t') (hkv : w.kv[a.counter]? = s.pool.world.kv[a.counter]?)
    (hsince : ∀ j, j ≠ i → since j = s.since j)
    (hothers : ∀ tok e, tok ≠ token i → t' < e → Holds s.pool.world.locks a.lock tok e → Holds w.locks a.lock tok e)
    (hinj : Function.Injective token) (hout : ¬ph'.Critical)
    (hcount : ph'.count = (ph i).count) (htidy : ph'.Tidy a post) :
    Tallied a token post base t' ⟨⟨w, Function.update s.pool.procs i (ph'.render a (token i) post)⟩, since⟩
      (Function.update ph i ph') := by
  refine h.quiet htime hkv hsince hothers hinj (fun hcrit => absurd hcrit hout) ?_ hcount htidy
  intro cur hph
  subst hph
  exact absurd trivial hout

/-- Call `i` writes the counter while it holds the lock: nobody else may, and the count is the next
one. -/
theorem Tallied.write (h : Tallied a token post base t s ph) {i cur now : Nat} {kv : Kv String}
    (hinj : Function.Injective token) (htime : t ≤ t') (hph : ph i = .counted cur)
    (hin : t < s.since i + maxLockTtlSeconds) (hmax : a.tally s.pool.world.kv < u32Max)
    (hkv : kv = Store.put s.pool.world.kv now (some lockoutTrackingWindow) a.counter (toString (satAddU32 cur 1))) :
    Tallied a token post base t'
      ⟨⟨{ s.pool.world with kv := kv },
        Function.update s.pool.procs i ((Phase.stored (satAddU32 cur 1)).render a (token i) post)⟩, s.since⟩
      (Function.update ph i (.stored (satAddU32 cur 1))) := by
  have hcur := h.current i cur hph hin
  have hnext : satAddU32 cur 1 = a.tally s.pool.world.kv + 1 := by
    rw [hcur]; exact satAddU32_of_le (by omega)
  have htally : a.tally kv = a.tally s.pool.world.kv + 1 := by
    rw [hkv, tally_put (by omega), hnext]
  have hcrit : (ph i).Critical := by rw [hph]; trivial
  -- another call that could still write would hold the same lock
  have halone : ∀ j, j ≠ i → (ph j).Critical → ¬ t' < s.since j + maxLockTtlSeconds := by
    intro j hj hcj hlt
    have hi := h.backed i hcrit hin
    have hj' := h.backed j hcj (by omega)
    exact hj (hinj (holds_unique hj' hi))
  have hnone : (ph i).count = none := by rw [hph]; rfl
  refine ⟨?rendered, ?tidy, ?backed, ?current, ?low, ?range, ?distinct, ?onto⟩
  case rendered =>
    intro j
    by_cases hj : j = i
    · subst hj; simp only [Function.update_self]
    · simp only [Function.update_of_ne hj]; exact h.rendered j
  case tidy =>
    intro j
    by_cases hj : j = i
    · subst hj; rw [Function.update_self]; trivial
    · rw [Function.update_of_ne hj]; exact h.tidy j
  case backed =>
    intro j hcj hlt
    by_cases hj : j = i
    · subst hj; rw [Function.update_self] at hcj; exact absurd hcj id
    · rw [Function.update_of_ne hj] at hcj; exact absurd hlt (halone j hj hcj)
  case current =>
    intro j c hc hlt
    by_cases hj : j = i
    · subst hj; rw [Function.update_self] at hc; cases hc
    · rw [Function.update_of_ne hj] at hc
      exact absurd hlt (halone j hj (by rw [hc]; trivial))
  case low =>
    have := h.low
    simp only [htally]
    omega
  case range =>
    intro j n hn
    have hlow := h.low
    simp only [htally]
    by_cases hj : j = i
    · subst hj
      rw [Function.update_self] at hn
      cases hn
      omega
    · rw [Function.update_of_ne hj] at hn
      have := h.range j n hn
      omega
  case distinct =>
    intro j k n hj hk
    by_cases hji : j = i
    · by_cases hki : k = i
      · rw [hji, hki]
      · rw [hji, Function.update_self] at hj
        rw [Function.update_of_ne hki] at hk
        cases hj
        have := h.range k _ hk
        omega
    · rw [Function.update_of_ne hji] at hj
      by_cases hki : k = i
      · rw [hki, Function.update_self] at hk
        cases hk
        have := h.range j _ hj
        omega
      · rw [Function.update_of_ne hki] at hk
        exact h.distinct j k n hj hk
  case onto =>
    intro n hlo hhi
    simp only [htally] at hhi
    by_cases hn : n = a.tally s.pool.world.kv + 1
    · exact ⟨i, by rw [Function.update_self, hn, ← hnext]; rfl⟩
    · obtain ⟨j, hj⟩ := h.onto n hlo (by omega)
      have hji : j ≠ i := by
        intro hji
        rw [hji, hnone] at hj
        cases hj
      exact ⟨j, by rw [Function.update_of_ne hji]; exact hj⟩

/-! ## One turn -/

theorem since_of_ne {i j : Nat} {tk : Tick} (hj : j ≠ i) : (s.step (.proc i tk)).since j = s.since j := by
  simp only [TimedPool.step]
  cases s.pool.procs i with
  | ret r => rfl
  | ask o k =>
    cases o with
    | acquire => exact Function.update_of_ne hj _ _
    | now | kvGet | kvPut | kvDelete | release => rfl

theorem kvGet_tally {kv : Kv String} {now : UInt64} {fails : Bool} {data : Option String}
    (hlive : (kv[a.counter]?).all (·.live (secs now)) = true)
    (h : kvGet fails kv now a.counter = .ok data) : failureCount a.threshold data = a.tally kv := by
  unfold kvGet Store.get at h
  unfold Actor.tally
  split at h
  · cases h
  · cases he : kv[a.counter]? with
    | none =>
      rw [he] at h
      cases h
      rfl
    | some e =>
      have hl : e.live (secs now) = true := by simpa only [he, Option.all_some] using hlive
      rw [he] at h
      simp only [hl, if_true] at h
      cases h
      rfl

theorem Tallied.proc (h : Tallied a token post base t s ph) (hv : validateActor a.actorType a.actorId = .ok ())
    (hinj : Function.Injective token) (hpost : ∀ r, Minds a (post r)) {i : Nat} {tk : Tick} (hstart : t ≤ nowEpochSecs tk.now)
    (hstop : nowEpochSecs tk.now ≤ nowEpochSecs tk.arm) (hok : Orderly a s (.proc i tk) = true) :
    ∃ ph', Moves a (token i) post s.pool.world tk (ph i) ph' (s.step (.proc i tk)).pool.world ∧
      Tallied a token post base (nowEpochSecs tk.arm) (s.step (.proc i tk)) (Function.update ph i ph') := by
  obtain ⟨ph', hadv, hmoves⟩ := advance_moves hv (token i) post s.pool.world tk (ph i)
  have hr := h.rendered i
  have hstep : s.step (.proc i tk) = ⟨⟨((s.pool.procs i).advance LimitsWorld.handle s.pool.world tk).2,
      Function.update s.pool.procs i (ph'.render a (token i) post)⟩, (s.step (.proc i tk)).since⟩ := by
    simp only [TimedPool.step, Pool.step, hr]
    rw [hadv]
  have hsince : ∀ j, j ≠ i → (s.step (.proc i tk)).since j = s.since j := fun j hj => since_of_ne hj
  have htime : t ≤ nowEpochSecs tk.arm := by omega
  have htidy := h.tidy i
  rw [← hr] at hmoves
  refine ⟨ph', by rw [hstep]; exact hmoves, ?_⟩
  rw [hstep]
  generalize ((s.pool.procs i).advance LimitsWorld.handle s.pool.world tk).2 = w at hmoves
  generalize hphi : ph i = phi at hmoves
  rw [hphi] at hr htidy
  have hcountOf : phi.count = (ph i).count := by rw [hphi]
  cases hmoves with
  | prepare o k =>
    refine h.outside htime (handle_counter htidy.1) hsince ?_ hinj id hcountOf (htidy.2 _ trivial)
    exact fun tok e _ hlt hl => handle_holds htidy.1 hl (by omega)
  | enter b answer hacq =>
    have hread : tk.faults.read (lockKey a.lock) = .success := orderlyOp_of_ask hok (hr.trans (render_entry hv b)) rfl
    have hown : (s.step (.proc i tk)).since i = nowEpochSecs tk.now := by
      simp only [TimedPool.step, hr, render_entry hv, Function.update_self]
    refine h.quiet htime rfl hsince ?_ hinj ?_ (fun _ hph _ => by cases hph) hcountOf trivial
    · intro tok e _ hlt hl
      have := acquire_ok_expired hacq hl hread
      omega
    · intro _ _
      rw [hown]
      exact acquire_ok_term hacq
  | refused b e hacq =>
    have hread : tk.faults.read (lockKey a.lock) = .success := orderlyOp_of_ask hok (hr.trans (render_entry hv b)) rfl
    refine h.outside htime rfl hsince ?_ hinj id hcountOf ?_
    · intro tok e _ hlt hl
      exact acquire_holds hl (by omega) fun _ => hread
    · exact .refl
  | read data hget =>
    have hlive := orderlyOp_of_ask hok (hr.trans render_locked) rfl
    have hown : (s.step (.proc i tk)).since i = s.since i := by
      simp only [TimedPool.step, hr, render_locked]
    refine h.quiet htime rfl hsince (fun _ _ _ _ hl => hl) hinj ?_ ?_ hcountOf trivial
    · intro _ hlt
      rw [hown] at hlt ⊢
      exact h.backed i (by rw [hphi]; trivial) (by omega)
    · intro cur hcur _
      cases hcur
      exact kvGet_tally hlive hget
  | readFailed e _ => exact h.outside htime rfl hsince (fun _ _ _ _ hl => hl) hinj id hcountOf trivial
  | put cur kv hput =>
    obtain ⟨hin, hmax⟩ := orderlyOp_of_ask hok hr rfl
    have hown : (s.step (.proc i tk)).since = s.since := by
      simp only [TimedPool.step, hr, Phase.render]
    rw [hown]
    exact h.write hinj htime hphi (by omega) hmax (kvPut_ok hput)
  | putFailed cur e _ => exact h.outside htime rfl hsince (fun _ _ _ _ hl => hl) hinj id hcountOf trivial
  | release n =>
    refine h.outside htime rfl hsince ?_ hinj id hcountOf ?_
    · exact fun tok e hne _ hl => release_holds hl fun hk => hne hk.2.symm
    · exact .refl
  | giveUp e =>
    refine h.outside htime rfl hsince ?_ hinj id hcountOf ?_
    · exact fun tok e hne _ hl => release_holds hl fun hk => hne hk.2.symm
    · exact .refl
  | leave r o k =>
    have hcount : (Phase.after r (k (s.pool.world.handle tk o).1)).count = (ph i).count := by
      rw [← hcountOf]
      cases r with
      | error e => rfl
      | ok n => rfl
    have hminds : Minds a (.ask o k) := Prog.reach_safe (hpost r) htidy
    refine h.outside htime (handle_counter hminds.1) hsince ?_ hinj id hcount (.answer htidy _)
    exact fun tok e _ hlt hl => handle_holds hminds.1 hl (by omega)
  | rest r x => exact h.outside htime rfl hsince (fun _ _ _ _ hl => hl) hinj id hcountOf htidy

theorem Tallied.env (h : Tallied a token post base t s ph) {al : LockAlarm} (hstart : t ≤ nowEpochSecs al.now)
    (hstop : nowEpochSecs al.now ≤ nowEpochSecs al.arm) :
    Tallied a token post base (nowEpochSecs al.arm) (s.step (.env al)) ph := by
  have hsoon : ∀ i, nowEpochSecs al.arm < (s.step (.env al)).since i + maxLockTtlSeconds →
      nowEpochSecs al.arm < s.since i + maxLockTtlSeconds := fun i hlt => hlt
  refine ⟨h.rendered, h.tidy, ?backed, ?current, h.low, h.range, h.distinct, h.onto⟩
  case backed =>
    intro i hcrit hlt
    have := hsoon i hlt
    exact react_holds (h.backed i hcrit (by omega)) (by omega)
  case current =>
    intro i cur hph hlt
    have := hsoon i hlt
    exact h.current i cur hph (by omega)

/-! ## Every run -/

def startPool (a : Actor) (token : Nat → String) (post : Except ApiError Nat → Limits LimitsReply)
    (pre : Nat → Limits Bool) (w : LimitsWorld) : TimedPool :=
  ⟨⟨w, fun i => (Phase.ahead (pre i)).render a (token i) post⟩, fun _ => 0⟩

theorem tallied_start {pre : Nat → Limits Bool} (hpre : ∀ i, Minds a (pre i)) (w : LimitsWorld) (t : Int) :
    Tallied a token post (a.tally w.kv) t (startPool a token post pre w) fun i => .ahead (pre i) := by
  refine ⟨fun i => rfl, hpre, fun _ hcrit => absurd hcrit id, fun _ _ hph _ => (by cases hph), le_refl _, fun _ _ hph => (by cases hph), fun _ _ _ hph => (by cases hph), fun n hlo hhi => ?_⟩
  have hhi' : n ≤ a.tally w.kv := hhi
  omega

/-- The invariant holds along every orderly run of calls that start ahead of their lock. -/
theorem run_tallied (hv : validateActor a.actorType a.actorId = .ok ()) (hinj : Function.Injective token)
    (hpost : ∀ r, Minds a (post r)) {pre : Nat → Limits Bool} (hpre : ∀ i, Minds a (pre i)) {w : LimitsWorld}
    (turns : List LimitsTurn) (t : Int) (hclock : Ordered turnStart turnStop t turns)
    (hok : Along TimedPool.step (fun s turn => Orderly a s turn = true) (startPool a token post pre w) turns) :
    ∃ ph, Tallied a token post (a.tally w.kv) (endTime turnStop t turns)
      (exec TimedPool.step (startPool a token post pre w) turns) ph := by
  refine exec_timed TimedPool.step (I := fun t s => ∃ ph, Tallied a token post (a.tally w.kv) t s ph) ?_ turns t _
    ⟨_, tallied_start hpre w t⟩ hclock hok
  rintro t s turn ⟨ph, h⟩ hstart hstop hturn
  cases turn with
  | proc i tk =>
    obtain ⟨ph', _, h'⟩ := h.proc hv hinj hpost hstart hstop hturn
    exact ⟨_, h'⟩
  | env al => exact ⟨ph, h.env hstart hstop⟩

/-- A call that has returned is behind its lock. -/
theorem render_ret (hv : validateActor a.actorType a.actorId = .ok ()) {tok : String} {ph : Phase} {x : LimitsReply}
    (h : ph.render a tok post = .ret x) : ∃ r, ph = .after r (.ret x) := by
  cases ph with
  | ahead p =>
    cases p with
    | ret b => rw [render_entry hv] at h; cases h
    | ask o k => cases h
  | locked => rw [render_locked] at h; cases h
  | counted cur => cases h
  | stored n => cases h
  | aborted e => cases h
  | after r q =>
    cases (show q = .ret x from h)
    exact ⟨r, rfl⟩

end

end Issuer
