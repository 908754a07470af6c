import Issuer.LockoutRuns

/-!
# Counts of failed authentications

`record_auth_failure` hands out distinct, consecutive counts as long as its critical sections stay
within the lock's 30 seconds and the counter's entry stays alive. The callers however treat a lock
that is taken as a failure of storage and reject without counting, so failures that meet there are
lost; where no two meet, every one counts and the account is locked at the threshold.
-/

namespace Issuer

open Rust Store Runs

/-! ## Distinct and consecutive counts -/

def okCount : Limits LimitsReply → Option Nat
  | .ret (.counted (.ok n)) => some n
  | _ => none

def recordCalls (a : Actor) (token : Nat → String) (i : Nat) : LimitsCall :=
  .recordAuthFailure (token i) a.actorType a.actorId a.threshold

theorem okCount_some {p : Limits LimitsReply} {n : Nat} (h : okCount p = some n) : p = .ret (.counted (.ok n)) := by
  unfold okCount at h
  split at h
  · cases h; rfl
  · cases h

section
variable {a : Actor} {token : Nat → String} {hashIp : String → String} {w : LimitsWorld} {turns : List LimitsTurn}

theorem recordCalls_start (hashIp : String → String) : (⟨limitsPool hashIp (recordCalls a token) w, fun _ => 0⟩ : TimedPool) =
    startPool a token (fun r => .ret (.counted r)) (fun _ => .ret true) w := rfl

theorem okCount_phase {base : Nat} {t : Int} {s : TimedPool} {ph : Nat → Phase}
    (h : Tallied a token (fun r => .ret (.counted r)) base t s ph)
    (hv : validateActor a.actorType a.actorId = .ok ()) {i n : Nat} (hn : okCount (s.pool.procs i) = some n) :
    (ph i).count = some n := by
  have hret := okCount_some hn
  rw [h.rendered i] at hret
  obtain ⟨r, hr⟩ := render_ret hv hret
  have htidy := h.tidy i
  rw [hr] at htidy ⊢
  cases Prog.reach_ret htidy
  rfl

theorem phase_okCount {base : Nat} {t : Int} {s : TimedPool} {ph : Nat → Phase}
    (h : Tallied a token (fun r => .ret (.counted r)) base t s ph)
    (hv : validateActor a.actorType a.actorId = .ok ())
    (hsettled : ∀ i, s.pool.procs i = (recordCalls a token i).prog hashIp ∨ ∃ x, s.pool.procs i = .ret x)
    {i n : Nat} (hn : (ph i).count = some n) : okCount (s.pool.procs i) = some n := by
  have hr := h.rendered i
  cases hph : ph i with
  | ahead p => rw [hph] at hn; cases hn
  | locked => rw [hph] at hn; cases hn
  | counted cur => rw [hph] at hn; cases hn
  | aborted e => rw [hph] at hn; cases hn
  | stored m =>
    -- such a call has still to release its lock
    exfalso
    rw [hph] at hr
    rcases hsettled i with hi | ⟨x, hx⟩
    · have hentry : s.pool.procs i = Phase.render a (token i) (fun r => .ret (.counted r)) (.ahead (.ret true)) := hi
      rw [hentry, render_entry hv] at hr
      cases hr
    · rw [hx] at hr; cases hr
  | after r q =>
    have htidy := h.tidy i
    rw [hph] at htidy hr hn
    cases Prog.reach_ret htidy
    cases r with
    | error e => cases hn
    | ok m =>
      cases hn
      rw [hr]
      rfl

theorem okCount_invalid (hashIp : String → String) (token : Nat → String) (w : LimitsWorld) (turns : List LimitsTurn)
    {e : ApiError} (hv : validateActor a.actorType a.actorId = .error e) (i : Nat) :
    okCount ((exec LimitsPool.step (limitsPool hashIp (recordCalls a token) w) turns).procs i) = none := by
  have hprog : ∀ i, (recordCalls a token i).prog hashIp = .ret (.counted (.error e)) := by
    intro i
    simp only [recordCalls, LimitsCall.prog, recordAuthFailure, hv]
    rfl
  have hsafe := (Pool.pool_safe LimitsWorld.handle LimitsWorld.react (P := fun _ => True) (A := fun _ _ => True)
    (R := fun _ => True) (Q := fun _ r => r = .counted (.error e)) (fun _ _ _ _ _ => ⟨trivial, trivial⟩)
    (fun _ _ _ => trivial) turns (limitsPool hashIp (recordCalls a token) w) trivial
    (fun i => by simp only [limitsPool, hprog i]; rfl)).2 i
  cases hp : (exec LimitsPool.step (limitsPool hashIp (recordCalls a token) w) turns).procs i with
  | ask o k => rfl
  | ret r =>
    have hp' : (exec (Pool.step LimitsWorld.handle LimitsWorld.react) (limitsPool hashIp (recordCalls a token) w)
        turns).procs i = .ret r := hp
    rw [hp'] at hsafe
    have hr : r = .counted (.error e) := hsafe
    rw [hr]
    rfl

end

/-- The counts of the record calls of one actor in an orderly run: no two are the same, and once no
call is under way they are the numbers after the first stored count. -/
theorem counts_consecutive {hashIp : String → String} {a : Actor} {token : Nat → String} {w : LimitsWorld}
    {turns : List LimitsTurn} {t : Int} (hinj : Function.Injective token)
    (hclock : Ordered turnStart turnStop t turns)
    (hok : Along TimedPool.step (fun s turn => Orderly a s turn = true) ⟨limitsPool hashIp (recordCalls a token) w, fun _ => 0⟩ turns) :
    (∀ i j n, okCount ((exec LimitsPool.step (limitsPool hashIp (recordCalls a token) w) turns).procs i) = some n →
      okCount ((exec LimitsPool.step (limitsPool hashIp (recordCalls a token) w) turns).procs j) = some n → i = j) ∧
    ((∀ i, (exec LimitsPool.step (limitsPool hashIp (recordCalls a token) w) turns).procs i =
          (recordCalls a token i).prog hashIp ∨
        ∃ x, (exec LimitsPool.step (limitsPool hashIp (recordCalls a token) w) turns).procs i = .ret x) →
      ∃ last, ∀ n, (∃ i, okCount ((exec LimitsPool.step (limitsPool hashIp (recordCalls a token) w) turns).procs i) =
        some n) ↔ a.tally w.kv < n ∧ n ≤ last) := by
  cases hv : validateActor a.actorType a.actorId with
  | error e =>
    have hnone := fun i => okCount_invalid hashIp token w turns hv i
    refine ⟨fun i j n hi => ?_, fun _ => ⟨a.tally w.kv, fun n => ⟨?_, fun h => by omega⟩⟩⟩
    · rw [hnone i] at hi; cases hi
    · rintro ⟨i, hi⟩
      rw [hnone i] at hi; cases hi
  | ok u =>
    rw [recordCalls_start hashIp] at hok
    have hpost : ∀ r, Minds a (.ret (.counted r) : Limits LimitsReply) := fun _ => trivial
    have hpre : ∀ _ : Nat, Minds a (.ret true : Limits Bool) := fun _ => trivial
    obtain ⟨ph, h⟩ := run_tallied hv hinj hpost hpre turns t hclock hok
    rw [← recordCalls_start hashIp] at h
    have hpool := exec_timedPool turns ⟨limitsPool hashIp (recordCalls a token) w, fun _ => 0⟩
    generalize exec TimedPool.step ⟨limitsPool hashIp (recordCalls a token) w, fun _ => 0⟩ turns = s at h hpool
    simp only at hpool
    rw [← hpool]
    refine ⟨fun i j n hi hj => ?_, fun hsettled => ⟨a.tally s.pool.world.kv, fun n => ⟨?_, ?_⟩⟩⟩
    · exact h.distinct i j n (okCount_phase h hv hi) (okCount_phase h hv hj)
    · rintro ⟨i, hi⟩
      exact h.range i n (okCount_phase h hv hi)
    · rintro ⟨hlo, hhi⟩
      obtain ⟨i, hi⟩ := h.onto n hlo hhi
      exact ⟨i, phase_okCount h hv hsettled hi⟩

theorem acquire_granted_iff {fl : Faults} {now arm : UInt64} {d : ResourceLockDo} {body : AcquireLockRequest}
    (hvalid : body.validate = .ok ()) (hread : fl.read (lockKey body.resourceKey) = .success)
    (hput : fl.put = false) (halarm : fl.setAlarm = false) :
    acquireGranted (d.handleAcquireLock fl now arm body).1 = true ↔
      ∀ token e, LockedBy d.storage body.resourceKey token e → e ≤ nowEpochSecs now := by
  constructor
  · intro h token e hl
    by_contra hlt
    rw [acquire_not_granted hl (not_le.mp hlt) hread] at h
    cases h
  · intro hfree
    have hgrant : d.handleAcquireLock fl now arm body = d.grantLock fl now arm body := by
      unfold ResourceLockDo.handleAcquireLock
      rw [hvalid]
      simp only
      split
      · rename_i record hrec
        have hle := hfree record.lockToken record.expiresAt ⟨record, (readLock_some hrec).2, rfl, rfl⟩
        have hnot : record.held (nowEpochSecs now) = false := by
          simp only [LockRecord.held, decide_eq_false_iff_not]; omega
        rw [hnot]
        rfl
      · rfl
    rw [hgrant]
    rcases grantLock_cases fl now arm body d with ⟨hp, _⟩ | ⟨_, hm, _⟩
    · rw [hput] at hp; cases hp
    · rw [hm, halarm]; rfl

/-- Locks exclude each other and change hands as they should, so that counts taken under one are
consecutive while the counter's entry lives. -/
theorem locks_exclude_and_counts_consecutive :
    -- two grants that have not expired and were not released are the same one
    (∀ (d : ResourceLockDo) (steps : List ResourceStep) (t now : Int),
      Ordered ResourceStep.start ResourceStep.stop t steps → (∀ i ∈ steps, i.ReadsLocks) →
      endTime ResourceStep.stop t steps ≤ now →
      ∀ g ∈ (exec LockHistory.step ⟨d, []⟩ steps).grants, ∀ g' ∈ (exec LockHistory.step ⟨d, []⟩ steps).grants,
        g.resourceKey = g'.resourceKey → now < g.expiresAt → now < g'.expiresAt → g = g') ∧
    -- an acquire succeeds exactly when no lock is left that has not expired
    (∀ (d : ResourceLockDo) (fl : Faults) (now arm : UInt64) (body : AcquireLockRequest),
      body.validate = .ok () → fl.read (lockKey body.resourceKey) = .success → fl.put = false → fl.setAlarm = false →
      (acquireGranted (d.handleAcquireLock fl now arm body).1 = true ↔
        ∀ token e, LockedBy d.storage body.resourceKey token e → e ≤ nowEpochSecs now)) ∧
    -- a release never removes the record of another token
    (∀ (d : ResourceLockDo) (fl : Faults) (token resourceKey otherToken otherKey : String) (e : Int),
      token ≠ otherToken → LockedBy d.storage otherKey otherToken e →
      LockedBy (d.handleReleaseLock fl token resourceKey).2.storage otherKey otherToken e) ∧
    -- the alarm never removes a lock that has not expired
    (∀ (d : ResourceLockDo) (fl : Faults) (now arm : UInt64) (resourceKey token : String) (e : Int),
      nowEpochSecs now < e → LockedBy d.storage resourceKey token e →
      LockedBy (d.onAlarm fl now arm).storage resourceKey token e) ∧
    -- counts are distinct and, once no call is under way, consecutive
    ∀ (hashIp : String → String) (a : Actor) (token : Nat → String) (w : LimitsWorld) (turns : List LimitsTurn) (t : Int),
      Function.Injective token → Ordered turnStart turnStop t turns →
      Along TimedPool.step (fun s turn => Orderly a s turn = true) ⟨limitsPool hashIp (recordCalls a token) w, fun _ => 0⟩ turns →
      (∀ i j n, okCount ((exec LimitsPool.step (limitsPool hashIp (recordCalls a token) w) turns).procs i) = some n →
        okCount ((exec LimitsPool.step (limitsPool hashIp (recordCalls a token) w) turns).procs j) = some n → i = j) ∧
      ((∀ i, (exec LimitsPool.step (limitsPool hashIp (recordCalls a token) w) turns).procs i =
            (recordCalls a token i).prog hashIp ∨
          ∃ x, (exec LimitsPool.step (limitsPool hashIp (recordCalls a token) w) turns).procs i = .ret x) →
        ∃ last, ∀ n, (∃ i, okCount ((exec LimitsPool.step (limitsPool hashIp (recordCalls a token) w) turns).procs i) =
          some n) ↔ a.tally w.kv < n ∧ n ≤ last) := by
  refine ⟨?exclude, ?acquire, ?release, ?alarm, ?counts⟩
  case exclude =>
    intro d steps t now hclock hreads hnow g hg g' hg' hkey hlt hlt'
    have hb := run_backed steps t d hclock hreads
    have hl := hb g hg (by omega)
    have hl' := hb g' hg' (by omega)
    rw [hkey] at hl
    obtain ⟨htok, hexp⟩ := lockedBy_unique hl hl'
    cases g
    cases g'
    simp only at hkey htok hexp
    rw [hkey, htok, hexp]
  case acquire =>
    intro d fl now arm body hvalid hread hput halarm
    exact acquire_granted_iff hvalid hread hput halarm
  case release =>
    intro d fl token resourceKey otherToken otherKey e hne hl
    exact release_lockedBy hl fun h => hne h.2
  case alarm =>
    intro d fl now arm resourceKey token e hlt hl
    exact alarm_lockedBy hl hlt
  case counts =>
    intro hashIp a token w turns t hinj hclock hok
    exact counts_consecutive hinj hclock hok

def slowActor : Actor := ⟨"officer", "o1:ip1", maxFailedAttempts⟩

def twoCalls (ms : UInt64) : List LimitsTurn :=
  List.replicate 4 (.proc 0 (.at 0)) ++ List.replicate 4 (.proc 1 (.at ms))

def emptyLimits : LimitsWorld := ⟨fun _ => .empty, ∅⟩

def twoDone (ms : UInt64) : LimitsPool :=
  exec LimitsPool.step (limitsPool id (recordCalls slowActor toString) emptyLimits) (twoCalls ms)

/-- The entry of the first count lives 3600 seconds; a failure after 4000 counts as the first one
again. -/
theorem slow_failures_count_alike : Ordered turnStart turnStop 0 (twoCalls 4000000) ∧
    okCount ((twoDone 4000000).procs 0) = some 1 ∧ okCount ((twoDone 4000000).procs 1) = some 1 := by
  refine ⟨by decide, ?_⟩
  decide +kernel

theorem quick_failures_count_up : okCount ((twoDone 1000000).procs 0) = some 1 ∧
    okCount ((twoDone 1000000).procs 1) = some 2 ∧
    ∀ i j n, okCount ((twoDone 1000000).procs i) = some n → okCount ((twoDone 1000000).procs j) = some n → i = j := by
  refine ⟨by decide +kernel, by decide +kernel, ?_⟩
  exact (locks_exclude_and_counts_consecutive.2.2.2.2 id slowActor toString emptyLimits (twoCalls 1000000) 0
    (fun _ _ h => toString_injective h) (by decide) (by decide +kernel)).1

end Issuer
