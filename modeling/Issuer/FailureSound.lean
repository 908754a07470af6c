import Issuer.AuthfailIp
import Issuer.LockoutSound

/-!
# Failed authentications that do not meet all count

Both failure paths, that of an officer and that of an admin, record the failure and lock the account
when the count reaches the threshold. They treat a lock that is taken like broken storage and reject
without counting, so failures that meet at the lock are lost. In a run in which no acquire meets a
lock that still holds, every failure counts, and the account stays locked for the whole duration
after the last count.
-/

namespace Issuer

open Rust Store Runs

/-! ## The two failure paths -/

inductive FailurePath where
  | officer (officerId clientIp : String)
  | admin (clientIp : String)
deriving DecidableEq, Repr

namespace FailurePath

def actor (hashIp : String → String) : FailurePath → Actor
  | .officer officerId clientIp => ⟨"officer", officerLockoutActorId hashIp officerId clientIp, maxFailedAttempts⟩
  | .admin clientIp => ⟨"admin", clientIp, maxAdminFailedAttempts⟩

def duration : FailurePath → Nat
  | .officer _ _ => lockoutDurationSeconds
  | .admin _ => adminLockoutDurationSeconds

def call (token : Nat → String) (i : Nat) : FailurePath → LimitsCall
  | .officer officerId clientIp => .recordOfficerFailureAndReject (token i) officerId clientIp
  | .admin clientIp => .rejectAdmin (token i) clientIp

def before (hashIp : String → String) : FailurePath → Limits Bool
  | .officer _ clientIp => recordAuthfailIpAndCheck hashIp clientIp
  | .admin _ => .ret true

def onError : FailurePath → ApiError
  | .officer _ _ => .serviceUnavailable "Authentication infrastructure unavailable"
  | .admin _ => .forbidden "Unauthorised"

def onCount : FailurePath → ApiError
  | .officer _ _ => .unauthorized authFailureMessage
  | .admin _ => .forbidden "Unauthorised"

def behind (hashIp : String → String) (f : FailurePath) (r : Except ApiError Nat) : Limits LimitsReply :=
  (match r with
    | .error _ => pure f.onError
    | .ok count => lockAtThreshold (f.actor hashIp).actorType (f.actor hashIp).actorId (f.actor hashIp).threshold
        f.duration count f.onCount) >>= fun e => pure (.rejected e)

theorem kvMinTtl_le_duration (f : FailurePath) : kvMinTtl ≤ f.duration := by
  cases f with
  | officer => simp [kvMinTtl, duration, lockoutDurationSeconds]
  | admin => simp [kvMinTtl, duration, adminLockoutDurationSeconds]

end FailurePath

section
variable {hashIp : String → String} {f : FailurePath} {token : Nat → String}

theorem call_prog (i : Nat) : (f.call token i).prog hashIp =
    (Phase.ahead (f.before hashIp)).render (f.actor hashIp) (token i) (f.behind hashIp) := by
  cases f with
  | officer officerId clientIp =>
    simp only [FailurePath.call, LimitsCall.prog, recordOfficerFailureAndReject, Prog.bind_assoc]
    rfl
  | admin clientIp =>
    simp only [FailurePath.call, LimitsCall.prog, rejectAdmin, Prog.bind_assoc]
    rfl

theorem behind_locks (hv : validateActor (f.actor hashIp).actorType (f.actor hashIp).actorId = .ok ()) {n : Nat}
    (hn : (f.actor hashIp).threshold ≤ n) : ∃ until_ : UInt64 → String, f.behind hashIp (.ok n) =
      .ask .now fun now => .ask (.kvPut (some f.duration) (f.actor hashIp).flag (until_ now)) fun _ =>
        .ret (.rejected f.onCount) := by
  have hdur : max 1 (min f.duration maxLockoutDuration) = f.duration := by
    cases f with
    | officer => rfl
    | admin => rfl
  refine ⟨fun now => toString (satAddI64 (nowEpochSecs now) (toI64OrMax f.duration)), ?_⟩
  simp only [FailurePath.behind, lockAtThreshold, ge_iff_le, hn, if_true, lockAccount, hv, Limits.now, Limits.kvPut,
    Prog.op_bind, Prog.ask_bind, Prog.pure_eq]
  generalize max 1 (min f.duration maxLockoutDuration) = d at hdur
  subst hdur
  refine congrArg (Prog.ask _) (funext fun now => congrArg (Prog.ask _) (funext fun y => ?_))
  rcases y with u | u
  · rfl
  · rfl

theorem behind_below {n : Nat} (hn : n < (f.actor hashIp).threshold) :
    f.behind hashIp (.ok n) = .ret (.rejected f.onCount) := by
  simp [FailurePath.behind, lockAtThreshold, Nat.not_le.mpr hn]

/-- Where a failure that has counted `n` at the threshold can be: ahead of the flag, or done. -/
theorem behind_reach (hv : validateActor (f.actor hashIp).actorType (f.actor hashIp).actorId = .ok ()) {n : Nat}
    (hn : (f.actor hashIp).threshold ≤ n) {q : Limits LimitsReply} (h : (f.behind hashIp (.ok n)).Reach q) :
    (∃ k, q = .ask .now k ∧ ∀ now, ∃ o k', k now = .ask o k') ∨
      (∃ v k, q = .ask (.kvPut (some f.duration) (f.actor hashIp).flag v) k ∧ ∀ y, ∃ r, k y = .ret r) ∨
      ∃ r, q = .ret r := by
  obtain ⟨until_, heq⟩ := behind_locks hv hn
  have hq : q = f.behind hashIp (.ok n) ∨
      (∃ v, q = .ask (.kvPut (some f.duration) (f.actor hashIp).flag v) fun _ => .ret (.rejected f.onCount)) ∨
      q = .ret (.rejected f.onCount) := by
    induction h with
    | refl => exact .inl rfl
    | answer h x ih =>
      rcases ih with ih | ⟨v, ih⟩ | ih
      · rw [heq] at ih
        cases ih
        exact .inr (.inl ⟨_, rfl⟩)
      · cases ih
        exact .inr (.inr rfl)
      · cases ih
  rcases hq with rfl | ⟨v, rfl⟩ | rfl
  · rw [heq]
    exact .inl ⟨_, rfl, fun now => ⟨_, _, rfl⟩⟩
  · exact .inr (.inl ⟨v, _, rfl, fun _ => ⟨_, rfl⟩⟩)
  · exact .inr (.inr ⟨_, rfl⟩)

/-! ## Keys -/

theorem blindKey_ne_counter (a : Actor) (issuerId : String) (hour : Nat) : blindKey issuerId hour ≠ a.counter := by
  simp only [blindKey, Actor.counter, lockoutKey, String.append_assoc]
  exact append_ne_append (by decide)

theorem blindKey_ne_flag (a : Actor) (issuerId : String) (hour : Nat) : blindKey issuerId hour ≠ a.flag := by
  simp only [blindKey, Actor.flag, lockedKey, String.append_assoc]
  exact append_ne_append (by decide)

theorem flag_ne_counter (a : Actor) : a.flag ≠ a.counter := by
  simp only [Actor.flag, Actor.counter, lockedKey, lockoutKey, String.append_assoc]
  exact append_ne_append (by decide)

theorem before_minds : Minds (f.actor hashIp) (f.before hashIp) ∧
    (f.before hashIp).Safe (LimitsOp.Leaves (f.actor hashIp).flag) (fun _ _ => True) fun _ => True := by
  cases f with
  | admin clientIp => exact ⟨trivial, trivial⟩
  | officer officerId clientIp =>
    have hsafe : ∀ P : LimitsOp → Prop, P .now → (∀ k, P (.kvGet k)) →
        (∀ ttl issuerId hour v, P (.kvPut ttl (blindKey issuerId hour) v)) →
        (recordAuthfailIpAndCheck hashIp clientIp).Safe P (fun _ _ => True) fun _ => True := by
      intro P hnow hget hput
      refine Prog.safe_bind (Q := fun _ => True) _ ?_ fun _ _ => trivial
      refine Prog.safe_op hnow fun now _ => ?_
      refine Prog.safe_bind (Q := fun _ => True) _ ?_ fun _ _ => Prog.safe_op hnow fun _ _ => trivial
      refine Prog.safe_op (hget _) fun x _ => ?_
      rcases x with u | data
      · exact trivial
      · by_cases hc : (data.bind parseU32).getD 0 ≥ authfailIpLimitPerHour
        · simp only [hc, if_true]; exact trivial
        · simp only [hc, if_false]; exact Prog.safe_op (hput _ _ _ _) fun _ _ => trivial
    refine ⟨hsafe _ trivial (fun _ => trivial) fun _ _ _ _ => ?_, hsafe _ trivial (fun _ => trivial) fun _ _ _ _ => ?_⟩
    · exact blindKey_ne_counter _ _ _
    · exact blindKey_ne_flag _ _ _

theorem behind_minds (hv : validateActor (f.actor hashIp).actorType (f.actor hashIp).actorId = .ok ())
    (r : Except ApiError Nat) : Minds (f.actor hashIp) (f.behind hashIp r) := by
  cases r with
  | error e => exact trivial
  | ok n =>
    by_cases hn : (f.actor hashIp).threshold ≤ n
    · obtain ⟨until_, heq⟩ := behind_locks hv hn
      rw [heq]
      exact ⟨trivial, fun _ _ => ⟨flag_ne_counter _, fun _ _ => trivial⟩⟩
    · rw [behind_below (Nat.not_le.mp hn)]
      exact trivial

end

/-! ## Turns in which no two failures meet -/

def lockFree (locks : ResourceShards) (resourceKey : String) (now : Int) : Bool :=
  match (locks (resourceShard resourceKey)).storage[lockKey resourceKey]? with
  | some (.record (.lock r)) => !r.held now
  | _ => true

/-- An acquire of the actor's lock finds none that still holds. -/
def Uncontended (a : Actor) (s : TimedPool) : LimitsTurn → Bool
  | .proc i t =>
    match (s.pool.procs i).next with
    | some (.acquire k _ _) => k != a.lock || lockFree s.pool.world.locks a.lock (nowEpochSecs t.now)
    | _ => true
  | .env _ => true

def Faultless : LimitsTurn → Prop
  | .proc _ t => t.faults = .none ∧ t.kvFails = false
  | .env al => al.faults = .none

theorem holds_of_lockFree {locks : ResourceShards} {resourceKey token : String} {now e : Int}
    (h : lockFree locks resourceKey now = true) (hl : Holds locks resourceKey token e) : e ≤ now := by
  obtain ⟨r, hr, -, rfl⟩ := hl
  simp only [lockFree, hr, LockRecord.held, Bool.not_eq_true', decide_eq_false_iff_not] at h
  omega

theorem acquire_uncontended {locks : ResourceShards} {a : Actor} {t : Tick} {token : String}
    (hname : validateLockName a.lock = .ok ()) (htoken : validateLockToken token = .ok ())
    (hfaults : t.faults = .none) (hfree : lockFree locks a.lock (nowEpochSecs t.now) = true) :
    (acquireResourceLockWithTtl t.faults t.now t.arm a.lock token maxLockTtlSeconds.toNat locks).1 = .ok token := by
  have hvalid : (AcquireLockRequest.mk token maxLockTtlSeconds.toNat a.lock).validate = .ok () := by
    simp only [AcquireLockRequest.validate, htoken, hname]
    rfl
  have hgranted : acquireGranted ((locks (resourceShard a.lock)).handleAcquireLock t.faults t.now t.arm
      ⟨token, maxLockTtlSeconds.toNat, a.lock⟩).1 = true := by
    rw [hfaults]
    exact (acquire_granted_iff hvalid rfl rfl rfl).mpr fun tok e hl => holds_of_lockFree hfree hl
  unfold acquireResourceLockWithTtl
  simp only
  split
  · rename_i resp hresp
    rw [hresp] at hgranted
    have hacq : resp.acquired = true := hgranted
    simp only [hacq, if_true]
  · rename_i e hresp
    rw [hresp] at hgranted
    cases hgranted
  · rename_i hresp
    rw [hresp] at hgranted
    cases hgranted

/-! ## What a turn stores -/

def Phase.Clean : Phase → Prop
  | .aborted _ | .after (.error _) _ => False
  | .ahead _ | .locked | .counted _ | .stored _ | .after (.ok _) _ => True

section
variable {hashIp : String → String} {f : FailurePath} {token : String} {w w' : LimitsWorld} {tk : Tick} {ph ph' : Phase}

theorem moves_clean (hm : Moves (f.actor hashIp) token (f.behind hashIp) w tk ph ph' w') (hkv : tk.kvFails = false)
    (hacq : ∀ b, ph = .ahead (.ret b) → (acquireResourceLockWithTtl tk.faults tk.now tk.arm (f.actor hashIp).lock token
      maxLockTtlSeconds.toNat w.locks).1 = .ok token)
    (hc : ph.Clean) : ph'.Clean := by
  cases hm with
  | prepare | enter | read | put | release => trivial
  | refused b e h => rw [hacq b rfl] at h; cases h
  | readFailed e h => simp [kvGet, hkv] at h
  | putFailed cur e h => simp [kvPut, hkv, lockoutTrackingWindow, kvMinTtl] at h
  | giveUp e => exact absurd hc id
  | leave r o k =>
    cases r with
    | error e => exact absurd hc id
    | ok n => trivial
  | rest r x => exact hc

theorem moves_ahead {a : Actor} {post : Except ApiError Nat → Limits LimitsReply} {p : Limits Bool}
    (hm : Moves a token post w tk ph (.ahead p) w') :
    ∃ o k, ph = .ahead (.ask o k) ∧ p = k (w.handle tk o).1 := by
  cases hm with
  | prepare o k => exact ⟨o, k, rfl, rfl⟩

theorem handle_put {key v : String} {ttl : Nat} (hkv : tk.kvFails = false) (httl : kvMinTtl ≤ ttl) :
    (w.handle tk (.kvPut (some ttl) key v)).2.kv = Store.put w.kv (secs tk.now) (some ttl) key v := by
  simp [LimitsWorld.handle, kvPut, hkv, Nat.not_lt.mpr httl]

/-- A turn of a failure writes the next count, or leaves the counter and writes the flag, or leaves
both; only the turn that writes the flag ends a failure that has reached the threshold. -/
theorem moves_stores (hv : validateActor (f.actor hashIp).actorType (f.actor hashIp).actorId = .ok ())
    (hm : Moves (f.actor hashIp) token (f.behind hashIp) w tk ph ph' w') (hkv : tk.kvFails = false) (hc : ph.Clean)
    (htidy : ph.Tidy (f.actor hashIp) (f.behind hashIp))
    (hspare : ∀ p, ph = .ahead p → p.Safe (LimitsOp.Leaves (f.actor hashIp).flag) (fun _ _ => True) fun _ => True) :
    (∃ n ≤ u32Max, ph' = .stored n ∧
      w'.kv = Store.put w.kv (secs tk.now) (some lockoutTrackingWindow) (f.actor hashIp).counter (toString n)) ∨
    ph'.count = ph.count ∧ w'.kv[(f.actor hashIp).counter]? = w.kv[(f.actor hashIp).counter]? ∧
      ((∃ v, w'.kv[(f.actor hashIp).flag]? = some ⟨v, some (secs tk.now + f.duration)⟩) ∨
        w'.kv[(f.actor hashIp).flag]? = w.kv[(f.actor hashIp).flag]? ∧
          ∀ n r, ph' = .after (.ok n) (.ret r) → (f.actor hashIp).threshold ≤ n → ph = .after (.ok n) (.ret r)) := by
  cases hm with
  | prepare o k =>
    refine .inr ⟨rfl, handle_counter htidy.1, .inr ⟨?_, nofun⟩⟩
    exact handle_leaves (hspare _ rfl).1
  | enter b answer h => exact .inr ⟨rfl, rfl, .inr ⟨rfl, nofun⟩⟩
  | refused b e h => exact .inr ⟨rfl, rfl, .inr ⟨rfl, nofun⟩⟩
  | read data h => exact .inr ⟨rfl, rfl, .inr ⟨rfl, nofun⟩⟩
  | readFailed e h => exact .inr ⟨rfl, rfl, .inr ⟨rfl, nofun⟩⟩
  | put cur kv h => exact .inl ⟨_, Nat.min_le_right _ _, rfl, kvPut_ok h⟩
  | putFailed cur e h => exact .inr ⟨rfl, rfl, .inr ⟨rfl, nofun⟩⟩
  | giveUp e => exact absurd hc id
  | rest r x => exact .inr ⟨rfl, rfl, .inr ⟨rfl, fun _ _ h _ => h⟩⟩
  | release n =>
    refine .inr ⟨rfl, rfl, .inr ⟨rfl, fun m r h hm => ?_⟩⟩
    -- at the threshold the flag is still to be written
    simp only [Phase.after.injEq, Except.ok.injEq] at h
    obtain ⟨rfl, hret⟩ := h
    obtain ⟨until_, heq⟩ := behind_locks hv hm
    rw [heq] at hret
    cases hret
  | leave r o k =>
    cases r with
    | error e => exact absurd hc id
    | ok n =>
      have hminds : Minds (f.actor hashIp) (.ask o k) := Prog.reach_safe (behind_minds hv _) htidy
      refine .inr ⟨rfl, handle_counter hminds.1, ?_⟩
      by_cases hn : (f.actor hashIp).threshold ≤ n
      · rcases behind_reach hv hn htidy with ⟨k', hq, hk'⟩ | ⟨v, k', hq, -⟩ | ⟨x, hq⟩
        · cases hq
          refine .inr ⟨rfl, fun m r h _ => ?_⟩
          obtain ⟨o', k'', hask⟩ := hk' (w.handle tk .now).1
          simp only [hask, Phase.after.injEq, reduceCtorEq, and_false] at h
        · cases hq
          refine .inl ⟨v, ?_⟩
          rw [handle_put hkv f.kvMinTtl_le_duration]
          simp [Store.put]
        · cases hq
      · have hreach : (f.behind hashIp (.ok n)).Reach (.ask o k) := htidy
        rw [behind_below (Nat.not_le.mp hn)] at hreach
        cases Prog.reach_ret hreach

end

/-! ## The invariant -/

/-- Beside `Tallied`: nobody has been turned away, calls from `N` on have not started, and whoever has
the last count and is done has left a flag for the whole duration after that count. -/
structure Served (a : Actor) (duration base N : Nat) (t : Int) (w : LimitsWorld) (ph : Nat → Phase) : Prop where
  clean : ∀ i, (ph i).Clean
  spare : ∀ i p, ph i = .ahead p → p.Safe (LimitsOp.Leaves a.flag) (fun _ _ => True) fun _ => True
  idle : ∀ i, N ≤ i → (ph i).count = none
  stamp : base < a.tally w.kv → ∃ v x, w.kv[a.counter]? = some ⟨v, some (x + lockoutTrackingWindow)⟩ ∧ (x : Int) ≤ t
  flagged : ∀ i r v x, ph i = .after (.ok (a.tally w.kv)) (.ret r) → a.threshold ≤ a.tally w.kv →
    w.kv[a.counter]? = some ⟨v, some (x + lockoutTrackingWindow)⟩ →
    ∃ v' y, w.kv[a.flag]? = some ⟨v', some y⟩ ∧ x + duration ≤ y

section
variable {hashIp : String → String} {f : FailurePath} {token : Nat → String} {base N : Nat} {t t' : Int}
  {s s' : TimedPool} {ph : Nat → Phase} {ph' : Phase} {tk : Tick}

theorem Served.proc {i : Nat} (hs : Served (f.actor hashIp) f.duration base N t s.pool.world ph)
    (h : Tallied (f.actor hashIp) token (f.behind hashIp) base t s ph)
    (h' : Tallied (f.actor hashIp) token (f.behind hashIp) base t' s' (Function.update ph i ph'))
    (hm : Moves (f.actor hashIp) (token i) (f.behind hashIp) s.pool.world tk (ph i) ph' s'.pool.world)
    (hv : validateActor (f.actor hashIp).actorType (f.actor hashIp).actorId = .ok ()) (hi : i < N)
    (hkv : tk.kvFails = false) (hstart : t ≤ secs tk.now) (hstop : (secs tk.now : Int) ≤ t')
    (hacq : ∀ b, ph i = .ahead (.ret b) → (acquireResourceLockWithTtl tk.faults tk.now tk.arm (f.actor hashIp).lock
      (token i) maxLockTtlSeconds.toNat s.pool.world.locks).1 = .ok (token i)) :
    Served (f.actor hashIp) f.duration base N t' s'.pool.world (Function.update ph i ph') := by
  have hstores := moves_stores hv hm hkv (hs.clean i) (h.tidy i) (hs.spare i)
  refine ⟨?clean, ?spare, ?idle, ?stamp, ?flagged⟩
  case clean =>
    intro j
    by_cases hj : j = i
    · subst hj; rw [Function.update_self]; exact moves_clean hm hkv hacq (hs.clean j)
    · rw [Function.update_of_ne hj]; exact hs.clean j
  case spare =>
    intro j p hp
    by_cases hj : j = i
    · subst hj
      rw [Function.update_self] at hp
      subst hp
      obtain ⟨o, k, hphj, rfl⟩ := moves_ahead hm
      exact (hs.spare j _ hphj).2 _ trivial
    · rw [Function.update_of_ne hj] at hp; exact hs.spare j p hp
  case idle =>
    intro j hj
    have hne : j ≠ i := by omega
    rw [Function.update_of_ne hne]
    exact hs.idle j hj
  case stamp =>
    intro hlt
    rcases hstores with ⟨n, -, -, hput⟩ | ⟨-, hcounter, -⟩
    · refine ⟨toString n, secs tk.now, ?_, hstop⟩
      simp [hput, Store.put]
    · rw [tally_congr hcounter] at hlt
      obtain ⟨v, x, hx, hle⟩ := hs.stamp hlt
      exact ⟨v, x, hcounter.trans hx, by omega⟩
  case flagged =>
    intro j r v x hj hthr hx
    rcases hstores with ⟨n, hn, rfl, hput⟩ | ⟨-, hcounter, hflag⟩
    · -- the last count is that of call `i`, which still has its lock to release
      exfalso
      have htally : (f.actor hashIp).tally s'.pool.world.kv = n := by rw [hput, tally_put hn]
      have hci : (Function.update ph i (.stored n) i).count = some n := by rw [Function.update_self]; rfl
      have hcj : (Function.update ph i (.stored n) j).count = some n := by rw [hj, htally]; rfl
      have hji := h'.distinct j i n hcj hci
      rw [hji, Function.update_self] at hj
      cases hj
    · have htally := tally_congr hcounter
      have hrange := h'.range j _ (by rw [hj]; rfl)
      rw [htally] at hj hthr hrange
      rw [hcounter] at hx
      rcases hflag with ⟨v', hv'⟩ | ⟨hsame, hback⟩
      · obtain ⟨v₀, x₀, hx₀, hle⟩ := hs.stamp hrange.1
        rw [hx₀] at hx
        cases hx
        exact ⟨v', _, hv', by omega⟩
      · rw [hsame]
        by_cases hji : j = i
        · rw [hji, Function.update_self] at hj
          exact hs.flagged i r v x (hback _ r hj hthr) hthr hx
        · rw [Function.update_of_ne hji] at hj
          exact hs.flagged j r v x hj hthr hx

/-! ## Every run -/

/-- The condition on a turn: `Orderly`, and no acquire meets a lock that still holds. -/
def Counting (a : Actor) (s : TimedPool) (turn : LimitsTurn) : Bool := Orderly a s turn && Uncontended a s turn

theorem uncontended_acquire {a : Actor} {i : Nat} {k : Except ApiError String → Limits LimitsReply} {tok : String}
    (h : Uncontended a s (.proc i tk) = true) (hp : s.pool.procs i = .ask (.acquire a.lock tok maxLockTtlSeconds.toNat) k) :
    lockFree s.pool.world.locks a.lock (nowEpochSecs tk.now) = true := by
  simpa [Uncontended, hp, Prog.next] using h

theorem run_served {w : LimitsWorld} (hinj : Function.Injective token)
    (htoken : ∀ i < N, validateLockToken (token i) = .ok ())
    (hv : validateActor (f.actor hashIp).actorType (f.actor hashIp).actorId = .ok ())
    (hname : validateLockName (f.actor hashIp).lock = .ok ()) (turns : List LimitsTurn)
    (hclock : Ordered turnStart turnStop t turns) (hfaults : ∀ turn ∈ turns, Faultless turn)
    (howner : ∀ i tk, .proc i tk ∈ turns → i < N)
    (hok : Along TimedPool.step (fun s turn => Counting (f.actor hashIp) s turn = true)
      (startPool (f.actor hashIp) token (f.behind hashIp) (fun _ => f.before hashIp) w) turns) :
    ∃ ph, Tallied (f.actor hashIp) token (f.behind hashIp) ((f.actor hashIp).tally w.kv) (endTime turnStop t turns)
        (exec TimedPool.step (startPool (f.actor hashIp) token (f.behind hashIp) (fun _ => f.before hashIp) w) turns) ph ∧
      Served (f.actor hashIp) f.duration ((f.actor hashIp).tally w.kv) N (endTime turnStop t turns)
        (exec TimedPool.step (startPool (f.actor hashIp) token (f.behind hashIp) (fun _ => f.before hashIp) w) turns).pool.world
        ph := by
  have hok' := along_and TimedPool.step turns _ hok (p := fun turn => Faultless turn ∧ ∀ i tk, turn = .proc i tk → i < N)
    fun turn hturn => ⟨hfaults turn hturn, fun i tk heq => howner i tk (heq ▸ hturn)⟩
  refine exec_timed TimedPool.step (I := fun t s => ∃ ph,
    Tallied (f.actor hashIp) token (f.behind hashIp) ((f.actor hashIp).tally w.kv) t s ph ∧
      Served (f.actor hashIp) f.duration ((f.actor hashIp).tally w.kv) N t s.pool.world ph) ?_ turns t _ ?_ hclock hok'
  · rintro t s turn ⟨ph, h, hs⟩ hstart hstop ⟨hturn, hfault, hown⟩
    simp only [Counting, Bool.and_eq_true] at hturn
    cases turn with
    | env al =>
      refine ⟨ph, h.env hstart hstop, hs.clean, hs.spare, hs.idle, fun hlt => ?_, hs.flagged⟩
      obtain ⟨v, x, hx, hle⟩ := hs.stamp hlt
      exact ⟨v, x, hx, by simp only [turnStart, turnStop] at hstart hstop ⊢; omega⟩
    | proc i tk =>
      obtain ⟨ph', hm, h'⟩ := h.proc hv hinj (behind_minds hv) hstart hstop hturn.1
      simp only [turnStart, turnStop, nowEpochSecs_eq] at hstart hstop
      refine ⟨_, h', hs.proc h h' hm hv (hown i tk rfl) hfault.2 hstart (by simpa only [turnStop, nowEpochSecs_eq] using hstop)
        fun b hb => ?_⟩
      have hp := h.rendered i
      rw [hb, render_entry hv] at hp
      exact acquire_uncontended hname (htoken i (hown i tk rfl)) hfault.1 (uncontended_acquire hturn.2 hp)
  · refine ⟨_, tallied_start (fun _ => before_minds.1) w t, ?_, ?_, ?_, ?_, ?_⟩
    · exact fun i => trivial
    · rintro i p ⟨rfl⟩
      exact before_minds.2
    · exact fun i _ => rfl
    · intro hlt
      exact absurd hlt (lt_irrefl _)
    · nofun

theorem tally_of_done {w : LimitsWorld} {ph : Nat → Phase}
    (h : Tallied (f.actor hashIp) token (f.behind hashIp) base t s ph)
    (hs : Served (f.actor hashIp) f.duration base N t w ph)
    (hv : validateActor (f.actor hashIp).actorType (f.actor hashIp).actorId = .ok ())
    (hdone : ∀ i < N, ∃ r, s.pool.procs i = .ret r) : (f.actor hashIp).tally s.pool.world.kv = base + N := by
  have hcount : ∀ i < N, ∃ n, (ph i).count = some n := by
    intro i hi
    obtain ⟨r, hr⟩ := hdone i hi
    rw [h.rendered i] at hr
    obtain ⟨x, hx⟩ := render_ret hv hr
    have hclean := hs.clean i
    rw [hx] at hclean ⊢
    cases x with
    | error e => exact absurd hclean id
    | ok n => exact ⟨n, rfl⟩
  have hcard : (Finset.range N).card = (Finset.Ioc base ((f.actor hashIp).tally s.pool.world.kv)).card := by
    refine Finset.card_bij (fun i _ => (ph i).count.getD 0) ?_ ?_ ?_
    · intro i hi
      obtain ⟨n, hn⟩ := hcount i (Finset.mem_range.mp hi)
      rw [hn, Option.getD_some, Finset.mem_Ioc]
      exact h.range i n hn
    · intro i hi j hj hij
      obtain ⟨n, hn⟩ := hcount i (Finset.mem_range.mp hi)
      obtain ⟨m, hm⟩ := hcount j (Finset.mem_range.mp hj)
      rw [hn, hm, Option.getD_some, Option.getD_some] at hij
      subst hij
      exact h.distinct i j n hn hm
    · intro n hn
      obtain ⟨hlo, hhi⟩ := Finset.mem_Ioc.mp hn
      obtain ⟨i, hi⟩ := h.onto n hlo hhi
      refine ⟨i, Finset.mem_range.mpr ?_, by rw [hi, Option.getD_some]⟩
      by_contra hge
      rw [hs.idle i (Nat.le_of_not_lt hge)] at hi
      cases hi
  rw [Finset.card_range, Nat.card_Ioc] at hcard
  have := h.low
  omega

end

def failurePool (hashIp : String → String) (f : FailurePath) (token : Nat → String) (w : LimitsWorld) : LimitsPool :=
  limitsPool hashIp (fun i => f.call token i) w

theorem failurePool_start (hashIp : String → String) (f : FailurePath) (token : Nat → String) (w : LimitsWorld) :
    (⟨failurePool hashIp f token w, fun _ => 0⟩ : TimedPool) =
      startPool (f.actor hashIp) token (f.behind hashIp) (fun _ => f.before hashIp) w := by
  unfold failurePool limitsPool startPool
  congr 2
  funext i
  exact call_prog i

theorem isLockedOut_flagged {a : Actor} (hv : validateActor a.actorType a.actorId = .ok ()) {w : LimitsWorld} {v : String}
    {y : Nat} (hflag : w.kv[a.flag]? = some ⟨v, some y⟩) {now : UInt64} (hlt : secs now < y) :
    ((isLockedOut a.actorType a.actorId).run LimitsWorld.handle (.at now) w).1 = .ok true := by
  have hkey : lockedKey a.actorType a.actorId = a.flag := rfl
  simp [isLockedOut, hv, LimitsWorld.handle, Tick.at, kvGet, Store.get, Entry.live, hkey, hflag, hlt]

/-- `N` failures of one actor, in any order of their turns: where no acquire meets a lock that still
holds, all of them count, and an account at the threshold is locked for the whole duration after the
last count. -/
theorem failures_count_where_none_meet (hashIp : String → String) (f : FailurePath) (token : Nat → String)
    (w : LimitsWorld) (turns : List LimitsTurn) (t : Int) (N : Nat) (hinj : Function.Injective token)
    (htoken : ∀ i < N, validateLockToken (token i) = .ok ())
    (hv : validateActor (f.actor hashIp).actorType (f.actor hashIp).actorId = .ok ())
    (hname : validateLockName (f.actor hashIp).lock = .ok ())
    (hclock : Ordered turnStart turnStop t turns) (hfaults : ∀ turn ∈ turns, Faultless turn)
    (howner : ∀ i tk, .proc i tk ∈ turns → i < N)
    (hok : Along TimedPool.step (fun s turn => Counting (f.actor hashIp) s turn = true)
      ⟨failurePool hashIp f token w, fun _ => 0⟩ turns)
    (hdone : ∀ i < N, ∃ r, (exec LimitsPool.step (failurePool hashIp f token w) turns).procs i = .ret r) :
    (f.actor hashIp).tally (exec LimitsPool.step (failurePool hashIp f token w) turns).world.kv =
        (f.actor hashIp).tally w.kv + N ∧
      (0 < N → (f.actor hashIp).threshold ≤
          (f.actor hashIp).tally (exec LimitsPool.step (failurePool hashIp f token w) turns).world.kv →
        ∃ last v, (exec LimitsPool.step (failurePool hashIp f token w) turns).world.kv[(f.actor hashIp).counter]? =
            some ⟨v, some (last + lockoutTrackingWindow)⟩ ∧
          ∀ now, secs now < last + f.duration →
            ((isLockedOut (f.actor hashIp).actorType (f.actor hashIp).actorId).run LimitsWorld.handle (.at now)
              (exec LimitsPool.step (failurePool hashIp f token w) turns).world).1 = .ok true) := by
  rw [failurePool_start] at hok
  obtain ⟨ph, h, hs⟩ := run_served hinj htoken hv hname turns hclock hfaults howner hok
  rw [← failurePool_start] at h hs
  have hpool := exec_timedPool turns ⟨failurePool hashIp f token w, fun _ => 0⟩
  generalize exec TimedPool.step ⟨failurePool hashIp f token w, fun _ => 0⟩ turns = s at h hs hpool
  simp only at hpool
  rw [← hpool] at hdone ⊢
  have htally := tally_of_done h hs hv hdone
  refine ⟨htally, fun hN hthr => ?_⟩
  -- whoever has the last count is done and has left the flag
  obtain ⟨v, last, hlast, -⟩ := hs.stamp (by omega)
  obtain ⟨i, hi⟩ := h.onto _ (by omega) (le_refl _)
  have hiN : i < N := by
    by_contra hge
    rw [hs.idle i (Nat.le_of_not_lt hge)] at hi
    cases hi
  obtain ⟨r, hr⟩ := hdone i hiN
  rw [h.rendered i] at hr
  obtain ⟨x, hx⟩ := render_ret hv hr
  have hxok : x = .ok ((f.actor hashIp).tally s.pool.world.kv) := by
    rw [hx] at hi
    cases x with
    | error e => cases hi
    | ok n => simp only [Phase.count, Option.some.injEq] at hi; rw [hi]
  rw [hxok] at hx
  obtain ⟨v', y, hflag, hle⟩ := hs.flagged i r v last hx hthr hlast
  exact ⟨last, v, hlast, fun now hnow => isLockedOut_flagged hv hflag (by omega)⟩

/-! ## Two failures -/

def officerPath : FailurePath := .officer "o1" "192.0.2.1"

def rejection : Limits LimitsReply → Option ApiError
  | .ret (.rejected e) => some e
  | _ => none

def threeFailures : LimitsWorld :=
  ⟨fun _ => .empty, Store.put ∅ 0 (some lockoutTrackingWindow) (officerPath.actor hexHash).counter "3"⟩

@[irreducible] def apartTurns : List LimitsTurn :=
  List.replicate 10 (.proc 0 (.at 1000)) ++ List.replicate 10 (.proc 1 (.at 2000))

/-- Call 1 comes to the lock while call 0 holds it. -/
def meetingTurns : List LimitsTurn :=
  List.replicate 5 (.proc 0 (.at 1000)) ++ List.replicate 5 (.proc 1 (.at 1000)) ++ List.replicate 3 (.proc 0 (.at 1000))

theorem apart_returns : ∀ i < 2,
    ∃ r, (exec LimitsPool.step (failurePool hexHash officerPath toString threeFailures) apartTurns).procs i = .ret r := by
  intro i hi
  have hturns : 10 ≤ Pool.turnsOf i apartTurns := by
    have hall : ∀ i < 2, 10 ≤ Pool.turnsOf i apartTurns := by decide +kernel
    exact hall i hi
  refine Pool.exec_returns apartTurns _ 10 ?_ hturns
  exact Prog.within_bind (n := 10) (m := 0) _ (recordOfficerFailureAndReject_within hexHash _ _ _) fun _ => trivial

theorem failures_apart_lock :
    (officerPath.actor hexHash).tally threeFailures.kv = 3 ∧
    (officerPath.actor hexHash).tally
        (exec LimitsPool.step (failurePool hexHash officerPath toString threeFailures) apartTurns).world.kv = 5 ∧
    ∃ last, ∀ now, secs now < last + officerPath.duration →
      ((isLockedOut (officerPath.actor hexHash).actorType (officerPath.actor hexHash).actorId).run LimitsWorld.handle
        (.at now) (exec LimitsPool.step (failurePool hexHash officerPath toString threeFailures) apartTurns).world).1 =
          .ok true := by
  have hthree : (officerPath.actor hexHash).tally threeFailures.kv = 3 := by decide +kernel
  obtain ⟨hcount, hlock⟩ := failures_count_where_none_meet hexHash officerPath toString threeFailures apartTurns 1 2
    (fun _ _ h => toString_injective h) (by decide) (by decide +kernel) (by decide +kernel) (by decide +kernel)
    (by
      intro turn hturn
      simp only [apartTurns, List.mem_append, List.mem_replicate] at hturn
      rcases hturn with ⟨-, rfl⟩ | ⟨-, rfl⟩
      · exact ⟨rfl, rfl⟩
      · exact ⟨rfl, rfl⟩)
    (by
      intro i tk hturn
      simp only [apartTurns, List.mem_append, List.mem_replicate, Turn.proc.injEq] at hturn
      omega)
    (by decide +kernel) apart_returns
  rw [hthree] at hcount
  obtain ⟨last, -, -, hlast⟩ := hlock (by decide) (by rw [hcount]; decide)
  exact ⟨hthree, hcount, last, hlast⟩

/-- Both failures have been rejected, and only one has been counted. -/
theorem meeting_failure_not_counted :
    Ordered turnStart turnStop 1 meetingTurns ∧ (∀ turn ∈ meetingTurns, Faultless turn) ∧
    rejection ((exec LimitsPool.step (failurePool hexHash officerPath toString emptyLimits) meetingTurns).procs 0) =
      some (.unauthorized authFailureMessage) ∧
    rejection ((exec LimitsPool.step (failurePool hexHash officerPath toString emptyLimits) meetingTurns).procs 1) =
      some (.serviceUnavailable "Authentication infrastructure unavailable") ∧
    (officerPath.actor hexHash).tally emptyLimits.kv = 0 ∧
    (officerPath.actor hexHash).tally
      (exec LimitsPool.step (failurePool hexHash officerPath toString emptyLimits) meetingTurns).world.kv = 1 := by
  refine ⟨by decide, ?_, by decide +kernel, by decide +kernel, by decide +kernel, by decide +kernel⟩
  intro turn hturn
  simp only [meetingTurns, List.mem_append, List.mem_replicate] at hturn
  rcases hturn with (⟨-, rfl⟩ | ⟨-, rfl⟩) | ⟨-, rfl⟩
  · exact ⟨rfl, rfl⟩
  · exact ⟨rfl, rfl⟩
  · exact ⟨rfl, rfl⟩

end Issuer
