import Issuer.LockoutLaw

/-!
# Clearing failures while one is being counted

`record_auth_failure` reads and writes the counter under the actor's lock; `clear_auth_failures`
deletes it without the lock. Where the delete falls between a read and its write, the count from
before comes back. Where it never does, unless the read found no failures, a run of calls is worth
the calls one after another: the same replies and the same counter.
-/

namespace Issuer

open Rust Store Runs

/-! ## Calls one after another -/

/-- Call 0 clears, the others record. -/
def clearAndRecords (a : Actor) (token : Nat → String) : Nat → LimitsCall
  | 0 => .clearAuthFailures a.actorType a.actorId
  | i + 1 => .recordAuthFailure (token (i + 1)) a.actorType a.actorId a.threshold

/-- The turns of calls that do not overlap: each makes its turns in one piece. -/
def inTurn (blocks : List (Nat × List UInt64)) : List LimitsTurn :=
  blocks.flatMap fun b => (b.2.map Tick.at).map (Turn.proc b.1)

def Answered (p : Limits LimitsReply) : Prop := (∃ n, p = .ret (.counted (.ok n))) ∨ p = .ret (.cleared (.ok ()))

/-- A run from `start` to `final` comes to what its calls come to one after another: the same calls answer, with
the same replies, and leave the same counter. A call that was turned away has no place among them. -/
structure Worth (a : Actor) (t : Int) (start final : LimitsPool) (blocks : List (Nat × List UInt64)) : Prop where
  once : (blocks.map Prod.fst).Nodup
  clock : Ordered turnStart turnStop t (inTurn blocks)
  answered : ∀ i, i ∈ blocks.map Prod.fst ↔ Answered (final.procs i)
  replies : ∀ i ∈ blocks.map Prod.fst, (exec LimitsPool.step start (inTurn blocks)).procs i = final.procs i
  counter : (exec LimitsPool.step start (inTurn blocks)).world.kv[a.counter]? = final.world.kv[a.counter]?

/-- Call `i` has answered before call `j` makes its first turn. -/
def Precedes (start : LimitsPool) (turns : List LimitsTurn) (i j : Nat) : Prop :=
  ∃ xs ys, turns = xs ++ ys ∧ Answered ((exec LimitsPool.step start xs).procs i) ∧
    (exec LimitsPool.step start xs).procs j = start.procs j

/-! ## The condition on a turn -/

def InTime (a : Actor) (s : TimedPool) : LimitsTurn → Bool
  | .proc i t =>
    match (s.pool.procs i).next with
    | some (.kvPut _ k _) => k != a.counter || decide (nowEpochSecs t.now < s.since i + maxLockTtlSeconds)
    | _ => true
  | .env _ => true

/-- When the counter is deleted, whoever is about to write it has read that there were no failures. -/
def SparesCounts (a : Actor) (s : TimedPool) : LimitsTurn → Prop
  | .proc i _ => (s.pool.procs i).next = some (.kvDelete a.counter) →
      ∀ j ttl v, (s.pool.procs j).next = some (.kvPut ttl a.counter v) → v = "1"
  | .env _ => True

/-! ## A call on its own -/

section
variable {a : Actor} {w : LimitsWorld}

def clearFlag (a : Actor) : Limits LimitsReply :=
  .ask (.kvDelete a.flag) fun x => match x with
    | .error () => .ret (.cleared (.error (.storageError "Failed to clear lock flag")))
    | .ok () => .ret (.cleared (.ok ()))

inductive ClearPhase where
  | before
  | between
  | done
deriving DecidableEq, Repr

def ClearPhase.render (a : Actor) : ClearPhase → Limits LimitsReply
  | .before => .ask (.kvDelete a.counter) fun x => match x with
    | .error () => .ret (.cleared (.error (.storageError "Failed to clear auth failures")))
    | .ok () => clearFlag a
  | .between => clearFlag a
  | .done => .ret (.cleared (.ok ()))

theorem clear_prog (hashIp : String → String) (token : Nat → String) (hv : validateActor a.actorType a.actorId = .ok ()) :
    (clearAndRecords a token 0).prog hashIp = ClearPhase.before.render a := by
  simp only [clearAndRecords, LimitsCall.prog, clearAuthFailures, hv, Prog.op_bind, Prog.ask_bind, ClearPhase.render]
  refine congrArg (Prog.ask _) (funext fun x => ?_)
  rcases x with u | u
  · rfl
  · refine congrArg (Prog.ask _) (funext fun y => ?_)
    rcases y with u | u
    · rfl
    · rfl

abbrev recording (a : Actor) (token : String) (ph : Phase) : Limits LimitsReply :=
  ph.render a token fun r => .ret (.counted r)

theorem record_prog (hashIp : String → String) (token : Nat → String) {i : Nat} (hi : i ≠ 0) :
    (clearAndRecords a token i).prog hashIp = recording a (token i) (.ahead (.ret true)) := by
  cases i with
  | zero => exact absurd rfl hi
  | succ i => rfl

theorem clear_feed (d : UInt64) : Prog.feed LimitsWorld.handle ([d, d].map Tick.at) (ClearPhase.before.render a) w =
    (.ret (.cleared (.ok ())), ⟨w.locks, (w.kv.erase a.counter).erase a.flag⟩) := by
  simp [ClearPhase.render, clearFlag, LimitsWorld.handle, Tick.at]

theorem record_feed {token : String} (hv : validateActor a.actorType a.actorId = .ok ())
    (hname : validateLockName a.lock = .ok ()) (htoken : validateLockToken token = .ok ()) {r p : UInt64}
    (hfree : lockFree w.locks a.lock (nowEpochSecs r) = true) :
    ∃ locks, Prog.feed LimitsWorld.handle ([r, r, p, p].map Tick.at) (recording a token (.ahead (.ret true))) w =
        (.ret (.counted (.ok (nextCount a w.kv r))),
          ⟨locks, Store.put w.kv (secs p) (some lockoutTrackingWindow) a.counter (toString (nextCount a w.kv r))⟩) ∧
      ∀ t, lockFree locks a.lock t = true := by
  have hgranted : (acquireResourceLockWithTtl .none r r a.lock token maxLockTtlSeconds.toNat w.locks).1 = .ok token :=
    acquire_uncontended (t := .at r) hname htoken rfl hfree
  refine ⟨_, ?_, releaseResourceLock_frees hname htoken (acquire_ok hgranted)⟩
  have httl : ¬lockoutTrackingWindow < kvMinTtl := by decide
  rw [recording, render_entry hv]
  simp only [List.map_cons, List.map_nil, Prog.feed_ask, LimitsWorld.handle, Tick.at, hgranted]
  rw [render_locked]
  simp only [Prog.feed_ask, LimitsWorld.handle, kvGet, Bool.false_eq_true, if_false]
  simp only [Phase.render, Prog.feed_ask, LimitsWorld.handle, kvPut, httl, Bool.false_or, Option.any_some, decide_false,
    Bool.false_eq_true, if_false, Prog.feed_nil, nextCount]

end

/-! ## The calls so far, one after another -/

/-- The calls in `blocks`, made one after another by `τ`, have given the replies in `reply` and left the
counter at `entry` and the lock free. -/
structure Solo (a : Actor) (t : Int) (start : LimitsPool) (blocks : List (Nat × List UInt64))
    (reply : Nat → Option LimitsReply) (entry : Option (Entry String)) (τ : Int) : Prop where
  once : (blocks.map Prod.fst).Nodup
  clock : Ordered turnStart turnStop t (inTurn blocks)
  reached : endTime turnStop t (inTurn blocks) = τ
  members : ∀ i, i ∈ blocks.map Prod.fst ↔ (reply i).isSome = true
  procs : ∀ i, (exec LimitsPool.step start (inTurn blocks)).procs i = ((reply i).map Prog.ret).getD (start.procs i)
  counter : (exec LimitsPool.step start (inTurn blocks)).world.kv[a.counter]? = entry
  free : ∀ now : UInt64, τ ≤ nowEpochSecs now →
    lockFree (exec LimitsPool.step start (inTurn blocks)).world.locks a.lock (nowEpochSecs now) = true

theorem inTurn_append (blocks : List (Nat × List UInt64)) (i : Nat) (times : List UInt64) :
    inTurn (blocks ++ [(i, times)]) = inTurn blocks ++ (times.map Tick.at).map (Turn.proc i) := by
  simp [inTurn]

section
variable {a : Actor} {t τ τ' : Int} {start : LimitsPool} {blocks : List (Nat × List UInt64)}
  {reply : Nat → Option LimitsReply} {entry : Option (Entry String)}

theorem Solo.append (h : Solo a t start blocks reply entry τ) {i : Nat} (hi : reply i = none) {times : List UInt64}
    {r : LimitsReply} {w : LimitsWorld}
    (hfeed : Prog.feed LimitsWorld.handle (times.map Tick.at) (start.procs i)
      (exec LimitsPool.step start (inTurn blocks)).world = (.ret r, w))
    (hclock : Ordered turnStart turnStop τ ((times.map Tick.at).map (Turn.proc i)))
    (hreached : endTime turnStop τ ((times.map Tick.at).map (Turn.proc i)) = τ')
    (hfree : ∀ now : UInt64, τ' ≤ nowEpochSecs now → lockFree w.locks a.lock (nowEpochSecs now) = true) :
    Solo a t start (blocks ++ [(i, times)]) (Function.update reply i (some r)) w.kv[a.counter]? τ' := by
  have hprocs : (exec LimitsPool.step start (inTurn blocks)).procs i = start.procs i := by
    rw [h.procs, hi]
    rfl
  have hexec : exec LimitsPool.step start (inTurn (blocks ++ [(i, times)])) =
      ⟨w, Function.update (exec LimitsPool.step start (inTurn blocks)).procs i (.ret r)⟩ := by
    rw [inTurn_append, exec_append]
    refine (Pool.exec_alone i (times.map Tick.at) _).trans ?_
    rw [hprocs, hfeed]
  refine ⟨?once, ?clock, ?reached, ?members, ?procs, ?counter, ?free⟩
  case once =>
    rw [List.map_append, List.nodup_append]
    refine ⟨h.once, by simp, fun j hj k hk => ?_⟩
    have hki : k = i := by simpa using hk
    rintro rfl
    rw [hki, h.members, hi] at hj
    cases hj
  case clock =>
    rw [inTurn_append, ordered_append, h.reached]
    exact ⟨h.clock, hclock⟩
  case reached => rw [inTurn_append, endTime_append, h.reached, hreached]
  case members =>
    intro j
    by_cases hj : j = i
    · simp [hj]
    · rw [Function.update_of_ne hj, ← h.members]
      simp [hj]
  case procs =>
    intro j
    rw [hexec]
    by_cases hj : j = i
    · subst hj
      simp
    · simp only [Function.update_of_ne hj]
      exact h.procs j
  case counter => rw [hexec]
  case free =>
    rw [hexec]
    exact hfree

theorem solo_start {w : LimitsWorld} (hstart : start.world = w) (hfree : lockFree w.locks a.lock t = true) :
    Solo a t start [] (fun _ => none) w.kv[a.counter]? t := by
  subst hstart
  refine ⟨by simp, trivial, rfl, by simp, fun i => rfl, rfl, fun now hnow => ?_⟩
  exact lockFree_mono hfree hnow

end

/-! ## The calls side by side -/

def Phase.Plain : Phase → Prop
  | .ahead p => ∃ b, p = .ret b
  | .after r q => q = .ret (.counted r)
  | .aborted _ => False
  | .locked | .counted _ | .stored _ => True

/-- Beside `backed`, which is that of `Tallied`: whoever is about to write has read a count that is still the
counter's at a time from `τ` on. -/
structure Racing (a : Actor) (token : Nat → String) (t τ : Int) (s : TimedPool) (cl : ClearPhase) (ph : Nat → Phase) : Prop where
  clearing : s.pool.procs 0 = cl.render a
  rendered : ∀ i, i ≠ 0 → s.pool.procs i = recording a (token i) (ph i)
  plain : ∀ i, (ph i).Plain
  valid : ∀ i, (ph i).Critical → validateLockName a.lock = .ok () ∧ validateLockToken (token i) = .ok ()
  backed : ∀ i, i ≠ 0 → (ph i).Critical → t < s.since i + maxLockTtlSeconds →
    Holds s.pool.world.locks a.lock (token i) (s.since i + maxLockTtlSeconds)
  current : ∀ i cur, i ≠ 0 → ph i = .counted cur → t < s.since i + maxLockTtlSeconds →
    ∃ r : UInt64, τ ≤ nowEpochSecs r ∧ nowEpochSecs r ≤ t ∧
      failureCount a.threshold (Store.get s.pool.world.kv (secs r) a.counter) = cur
  past : τ ≤ t

section
variable {a : Actor} {token : Nat → String} {t τ t' τ' : Int} {s : TimedPool} {cl : ClearPhase} {ph : Nat → Phase}

theorem Racing.record (h : Racing a token t τ s cl ph) {i : Nat} (hi : i ≠ 0) {ph' : Phase} {w : LimitsWorld}
    {since : Nat → Int} (hinj : Function.Injective token) (htime : t ≤ t') (hpast : τ' ≤ t')
    (hsince : ∀ j, j ≠ i → since j = s.since j)
    (hothers : ∀ tok e, tok ≠ token i → t' < e → Holds s.pool.world.locks a.lock tok e → Holds w.locks a.lock tok e)
    (hplain : ph'.Plain)
    (hvalid : ph'.Critical → validateLockName a.lock = .ok () ∧ validateLockToken (token i) = .ok ())
    (hown : ph'.Critical → t' < since i + maxLockTtlSeconds →
      Holds w.locks a.lock (token i) (since i + maxLockTtlSeconds))
    (hcur : ∀ j cur, j ≠ 0 → Function.update ph i ph' j = .counted cur → t' < since j + maxLockTtlSeconds →
      ∃ r : UInt64, τ' ≤ nowEpochSecs r ∧ nowEpochSecs r ≤ t' ∧
        failureCount a.threshold (Store.get w.kv (secs r) a.counter) = cur) :
    Racing a token t' τ' ⟨⟨w, Function.update s.pool.procs i (recording a (token i) ph')⟩, since⟩ cl
      (Function.update ph i ph') := by
  refine ⟨?clearing, ?rendered, ?plain, ?valid, ?backed, hcur, hpast⟩
  case clearing =>
    simp only [Function.update_of_ne hi.symm]
    exact h.clearing
  case rendered =>
    intro j hj0
    by_cases hj : j = i
    · subst hj; simp only [Function.update_self]
    · simp only [Function.update_of_ne hj]; exact h.rendered j hj0
  case plain =>
    intro j
    by_cases hj : j = i
    · subst hj; rw [Function.update_self]; exact hplain
    · rw [Function.update_of_ne hj]; exact h.plain j
  case valid =>
    intro j hcrit
    by_cases hj : j = i
    · subst hj
      rw [Function.update_self] at hcrit
      exact hvalid hcrit
    · rw [Function.update_of_ne hj] at hcrit
      exact h.valid j hcrit
  case backed =>
    intro j hj0 hcrit hlt
    by_cases hj : j = i
    · subst hj
      rw [Function.update_self] at hcrit
      exact hown hcrit hlt
    · rw [Function.update_of_ne hj] at hcrit
      simp only [hsince j hj] at hlt ⊢
      refine hothers _ _ (fun htok => hj (hinj htok)) hlt ?_
      exact h.backed j hj0 hcrit (by omega)

theorem Racing.quiet (h : Racing a token t τ s cl ph) {i : Nat} (hi : i ≠ 0) {ph' : Phase} {w : LimitsWorld}
    {since : Nat → Int} (hinj : Function.Injective token) (htime : t ≤ t')
    (hkv : w.kv[a.counter]? = s.pool.world.kv[a.counter]?) (hsince : ∀ j, j ≠ i → since j = s.since j)
    (hothers : ∀ tok e, tok ≠ token i → t' < e → Holds s.pool.world.locks a.lock tok e → Holds w.locks a.lock tok e)
    (hplain : ph'.Plain)
    (hvalid : ph'.Critical → validateLockName a.lock = .ok () ∧ validateLockToken (token i) = .ok ())
    (hown : ph'.Critical → t' < since i + maxLockTtlSeconds →
      Holds w.locks a.lock (token i) (since i + maxLockTtlSeconds))
    (hcur : ∀ cur, ph' = .counted cur → ∃ r : UInt64, τ ≤ nowEpochSecs r ∧ nowEpochSecs r ≤ t' ∧
        failureCount a.threshold (Store.get s.pool.world.kv (secs r) a.counter) = cur) :
    Racing a token t' τ ⟨⟨w, Function.update s.pool.procs i (recording a (token i) ph')⟩, since⟩ cl
      (Function.update ph i ph') := by
  refine h.record hi hinj htime (le_trans h.past htime) hsince hothers hplain hvalid hown fun j cur hj0 hph hlt => ?_
  by_cases hj : j = i
  · subst hj
    rw [Function.update_self] at hph
    obtain ⟨r, hτ, hr, hcount⟩ := hcur cur hph
    exact ⟨r, hτ, hr, by rw [get_congr hkv]; exact hcount⟩
  · rw [Function.update_of_ne hj] at hph
    rw [hsince j hj] at hlt
    obtain ⟨r, hτ, hr, hcount⟩ := h.current j cur hj0 hph (by omega)
    exact ⟨r, hτ, by omega, by rw [get_congr hkv]; exact hcount⟩

def replyOf (cl : ClearPhase) (ph : Nat → Phase) (i : Nat) : Option LimitsReply :=
  if i = 0 then if cl = .before then none else some (.cleared (.ok ()))
  else (ph i).count.map fun n => .counted (.ok n)

theorem replyOf_update {i : Nat} (hi : i ≠ 0) (ph' : Phase) : replyOf cl (Function.update ph i ph') =
    Function.update (replyOf cl ph) i (ph'.count.map fun n => .counted (.ok n)) := by
  funext j
  by_cases hj : j = i
  · subst hj
    simp [replyOf, hi]
  · simp [replyOf, hj]

theorem replyOf_quiet {i : Nat} {ph' : Phase} (hcount : ph'.count = (ph i).count) :
    replyOf cl (Function.update ph i ph') = replyOf cl ph := by
  funext j
  by_cases hj : j = i
  · subst hj
    simp [replyOf, hcount]
  · simp [replyOf, hj]

theorem acquire_valid {fl : Faults} {now arm : UInt64} {resourceKey tok : String} {locks : ResourceShards} {answer : String}
    (h : (acquireResourceLockWithTtl fl now arm resourceKey tok maxLockTtlSeconds.toNat locks).1 = .ok answer) :
    validateLockName resourceKey = .ok () ∧ validateLockToken tok = .ok () := by
  have hgranted := (acquire_answer h).2
  have hvalid : (AcquireLockRequest.mk tok maxLockTtlSeconds.toNat resourceKey).validate = .ok () := by
    cases hv : (AcquireLockRequest.mk tok maxLockTtlSeconds.toNat resourceKey).validate with
    | ok u => rfl
    | error e =>
      simp only [ResourceLockDo.handleAcquireLock, hv] at hgranted
      cases hgranted
  cases htoken : validateLockToken tok with
  | error e =>
    simp only [AcquireLockRequest.validate, htoken] at hvalid
    cases hvalid
  | ok u =>
    cases hname : validateLockName resourceKey with
    | error e =>
      simp only [AcquireLockRequest.validate, htoken, hname] at hvalid
      cases hvalid
    | ok u => exact ⟨rfl, rfl⟩

end

end Issuer
