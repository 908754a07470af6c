import Issuer.FailureSound

/-!
# When an officer is locked out

Failed and successful authentications of one officer from one address, one after the other. Two
entries with lifetimes of their own carry the state: the counter, which lives for an hour from the
last failure, and the flag, which lives for a quarter of an hour from the last failure at the
threshold. Together they say at any time what the history says: the officer is locked out exactly
while a failure that made the failures in a row at least five is no older than the flag's lifetime
and nothing has cleared it.

A history lists its latest attempt first.
-/

namespace Issuer

open Rust Store Runs

def generateLockToken (bytes : Vector UInt8 16) : String := hexEncode bytes.toList

inductive Attempt where
  | failure (now : UInt64) (bytes : Vector UInt8 16)
  | success (now : UInt64)
  | alarm (al : LockAlarm)

namespace Attempt

def time : Attempt → Nat
  | .failure now _ | .success now => secs now
  | .alarm al => secs al.now

def isSuccess : Attempt → Bool
  | .success _ => true
  | .failure _ _ | .alarm _ => false

def step (hashIp : String → String) (officerId clientIp : String) (w : LimitsWorld) : Attempt → LimitsWorld
  | .failure now bytes =>
    ((recordOfficerFailureAndReject hashIp (generateLockToken bytes) officerId clientIp).run LimitsWorld.handle (.at now) w).2
  | .success now =>
    ((clearAuthFailures "officer" (officerLockoutActorId hashIp officerId clientIp)).run LimitsWorld.handle (.at now) w).2
  | .alarm al => w.react al

end Attempt

/-! ## What the history says -/

/-- The failures at the end of a history with no success between them and no gap of an hour, the
last of them less than an hour before `t`. -/
def inARow (t : Nat) : List Attempt → Nat
  | [] => 0
  | .failure now _ :: past => if t < secs now + 3600 then inARow (secs now) past + 1 else 0
  | .success _ :: _ => 0
  | .alarm _ :: past => inARow t past

/-- A failure that made at least five in a row is less than a quarter of an hour old at `t` and no
success follows it. -/
def LockedOutBy (t : Nat) (past : List Attempt) : Prop :=
  ∃ later now bytes earlier, past = later ++ .failure now bytes :: earlier ∧ secs now ≤ t ∧ t < secs now + 900 ∧
    5 ≤ inARow (secs now) earlier + 1 ∧ ∀ x ∈ later, x.isSuccess = false

/-! ## The composite is a valid actor -/

/-- What `hash_ip` hands out is hex, or nothing where it fails. -/
def HexHash (hashIp : String → String) : Prop := ∀ input, (hashIp input).toList.all isAsciiHexdigit = true

section
variable {hashIp : String → String} {officerId clientIp : String}

theorem truncateHash_hex (hhash : HexHash hashIp) (input : String) :
    (truncateHash (hashIp input)).toList.length ≤ 32 ∧ ∀ c ∈ (truncateHash (hashIp input)).toList, isAsciiHexdigit c = true := by
  constructor
  · simp [truncateHash, lockoutHashHexLen]
  · intro c hc
    have hall := hhash input
    rw [List.all_eq_true] at hall
    apply hall
    simp only [truncateHash, String.toList_ofList] at hc
    exact List.mem_of_mem_take hc

theorem lockoutActor_ascii (officerId clientIp : String) (hhash : HexHash hashIp) :
    (officerLockoutActorId hashIp officerId clientIp).toList.length ≤ 65 ∧
    ∀ c ∈ (officerLockoutActorId hashIp officerId clientIp).toList, (c.isAlphanum = true ∨ c = ':') ∧ c.utf8Size = 1 := by
  obtain ⟨hlen, hhex⟩ := truncateHash_hex hhash officerId
  obtain ⟨hlen', hhex'⟩ := truncateHash_hex hhash clientIp
  simp only [officerLockoutActorId, String.toList_append, List.length_append, List.mem_append]
  constructor
  · have hcolon : (":" : String).toList.length = 1 := by decide
    omega
  · rintro c ((hc | hc) | hc)
    · have := isAsciiHexdigit_ascii (hhex c hc)
      exact ⟨.inl this.1, this.2⟩
    · have hcolon : c = ':' := by simpa using hc
      exact ⟨.inr hcolon, by rw [hcolon]; decide⟩
    · have := isAsciiHexdigit_ascii (hhex' c hc)
      exact ⟨.inl this.1, this.2⟩

theorem lockoutActor_valid (hhash : HexHash hashIp) :
    validateActor "officer" (officerLockoutActorId hashIp officerId clientIp) = .ok () := by
  obtain ⟨hlen, hchars⟩ := lockoutActor_ascii officerId clientIp hhash
  have hsize := utf8ByteSize_ascii fun c hc => (hchars c hc).2
  have hempty : (officerLockoutActorId hashIp officerId clientIp).isEmpty = false := by
    rw [String.isEmpty_eq_false_iff]
    intro h
    have := congrArg String.toList h
    simp [officerLockoutActorId] at this
  have hall : (officerLockoutActorId hashIp officerId clientIp).toList.all isIdentifierChar = true := by
    rw [List.all_eq_true]
    intro c hc
    rcases (hchars c hc).1 with h | rfl
    · simp [isIdentifierChar, h]
    · decide
  have hlong : ¬(officerLockoutActorId hashIp officerId clientIp).utf8ByteSize > maxIdentifierLength := by
    simp only [maxIdentifierLength]
    omega
  simp only [validateActor, validateIdentifier, hempty, hlong, hall, Bool.false_eq_true, if_false, Bool.not_true]
  rfl

theorem lockoutActor_lock (hhash : HexHash hashIp) :
    validateLockName (authFailureLock "officer" (officerLockoutActorId hashIp officerId clientIp)) = .ok () := by
  obtain ⟨hlen, hchars⟩ := lockoutActor_ascii officerId clientIp hhash
  have hsize := utf8ByteSize_ascii fun c hc => (hchars c hc).2
  have hlock : authFailureLock "officer" (officerLockoutActorId hashIp officerId clientIp) =
      "auth_failure:officer:" ++ officerLockoutActorId hashIp officerId clientIp := rfl
  have hempty : (authFailureLock "officer" (officerLockoutActorId hashIp officerId clientIp)).isEmpty = false := by
    rw [hlock, String.isEmpty_eq_false_iff]
    intro h
    have := congrArg String.toList h
    simp at this
  have hall : (authFailureLock "officer" (officerLockoutActorId hashIp officerId clientIp)).toList.all isLockNameChar = true := by
    rw [hlock, String.toList_append, List.all_append, Bool.and_eq_true]
    refine ⟨by decide, ?_⟩
    rw [List.all_eq_true]
    intro c hc
    rcases (hchars c hc).1 with h | rfl
    · simp [isLockNameChar, h]
    · decide
  have hlong : ¬(authFailureLock "officer" (officerLockoutActorId hashIp officerId clientIp)).utf8ByteSize > maxLockNameLength := by
    have hprefix : "auth_failure:officer:".utf8ByteSize = 21 := by decide
    rw [hlock, String.utf8ByteSize_append, hprefix]
    simp only [maxLockNameLength]
    omega
  simp [validateLockName, hempty, hlong, hall]

theorem generateLockToken_valid (bytes : Vector UInt8 16) : validateLockToken (generateLockToken bytes) = .ok () := by
  have hlength : (generateLockToken bytes).toList.length = 32 := by
    simp [generateLockToken, hexEncode_length]
  have hle := utf8ByteSize_ofList_le (generateLockToken bytes).toList
  rw [String.ofList_toList, hlength] at hle
  have hempty : (generateLockToken bytes).isEmpty = false := by
    rw [String.isEmpty_eq_false_iff]
    intro h
    rw [h] at hlength
    simp at hlength
  have hlong : ¬(generateLockToken bytes).utf8ByteSize > maxLockTokenLength := by
    simp only [maxLockTokenLength]
    omega
  simp [validateLockToken, hempty, hlong]

end

/-! ## What has ended stays so -/

theorem get_none_mono {kv : Kv String} {key : String} {t later : Nat} (h : Store.get kv t key = none) (hle : t ≤ later) :
    Store.get kv later key = none := by
  cases hkv : kv[key]? with
  | none => simp [Store.get, hkv]
  | some entry =>
    simp only [Store.get, hkv] at h ⊢
    by_cases hlive : entry.live later = true
    · have hearlier : entry.live t = true := by
        cases hx : entry.expires with
        | none => simp [Entry.live, hx]
        | some x =>
          simp only [Entry.live, hx, decide_eq_true_eq] at hlive ⊢
          omega
      simp [hearlier] at h
    · simp [hlive]

theorem lockFree_mono {locks : ResourceShards} {resourceKey : String} {t later : Int}
    (h : lockFree locks resourceKey t = true) (hle : t ≤ later) : lockFree locks resourceKey later = true := by
  simp only [lockFree] at h ⊢
  split
  · rename_i r hr
    simp only [hr, LockRecord.held, Bool.not_eq_true', decide_eq_false_iff_not] at h ⊢
    omega
  · rfl

/-! ## The operations, run alone -/

section
variable {a : Actor} {now : UInt64} {w : LimitsWorld} {token : String} {e : Int}

theorem releaseResourceLock_frees {locks : ResourceShards} (hname : validateLockName a.lock = .ok ())
    (htoken : validateLockToken token = .ok ()) (h : Holds locks a.lock token e) (t : Int) :
    lockFree (releaseResourceLock .none a.lock token locks) a.lock t = true := by
  obtain ⟨r, hr, hrtoken, -⟩ := h
  have hread : readLock .none (locks (resourceShard a.lock)).storage (lockKey a.lock) = some r := readLock_of_stored rfl hr
  have hdelete : Faults.none.delete (lockKey a.lock) = false := rfl
  simp [lockFree, releaseResourceLock, ResourceLockDo.handleReleaseLock, htoken, hname, hread, hrtoken, hdelete,
    bind, Except.bind]

/-- The count that the next failure stores. -/
def nextCount (a : Actor) (kv : Kv String) (now : UInt64) : Nat :=
  satAddU32 (failureCount a.threshold (Store.get kv (secs now) a.counter)) 1

theorem recordAuthFailure_alone (hv : validateActor a.actorType a.actorId = .ok ())
    (hname : validateLockName a.lock = .ok ()) (htoken : validateLockToken token = .ok ())
    (hfree : lockFree w.locks a.lock (nowEpochSecs now) = true) :
    ∃ locks, (recordAuthFailure token a.actorType a.actorId a.threshold).run LimitsWorld.handle (.at now) w =
        (.ok (nextCount a w.kv now),
          ⟨locks, Store.put w.kv (secs now) (some lockoutTrackingWindow) a.counter (toString (nextCount a w.kv now))⟩) ∧
      ∀ t, lockFree locks a.lock t = true := by
  have hgranted : (acquireResourceLockWithTtl .none now now a.lock token maxLockTtlSeconds.toNat w.locks).1 = .ok token :=
    acquire_uncontended (t := .at now) hname htoken rfl hfree
  have hheld := acquire_ok hgranted
  refine ⟨_, ?_, releaseResourceLock_frees hname htoken hheld⟩
  have hkey : lockoutKey a.actorType a.actorId = a.counter := rfl
  have hlock : authFailureLock a.actorType a.actorId = a.lock := rfl
  have httl : ¬lockoutTrackingWindow < kvMinTtl := by decide
  simp only [recordAuthFailure, recordAuthFailureInner, hv, hkey, hlock, Prog.op_bind, Prog.run_ask, LimitsWorld.handle,
    Tick.at, hgranted, kvGet, kvPut, httl, Prog.ask_bind, Prog.ret_bind, Prog.run_ret, Prog.pure_eq, nextCount,
    Bool.false_eq_true, if_false, Bool.false_or, Option.any_some, decide_false]

theorem clearAuthFailures_alone (hv : validateActor a.actorType a.actorId = .ok ()) :
    (clearAuthFailures a.actorType a.actorId).run LimitsWorld.handle (.at now) w =
      (.ok (), ⟨w.locks, (w.kv.erase a.counter).erase a.flag⟩) := by
  have hcounter : lockoutKey a.actorType a.actorId = a.counter := rfl
  have hflag : lockedKey a.actorType a.actorId = a.flag := rfl
  simp [clearAuthFailures, hv, LimitsWorld.handle, Tick.at, hcounter, hflag]

theorem isLockedOut_alone (hv : validateActor a.actorType a.actorId = .ok ()) :
    ((isLockedOut a.actorType a.actorId).run LimitsWorld.handle (.at now) w).1 =
      .ok (Store.get w.kv (secs now) a.flag).isSome := by
  have hflag : lockedKey a.actorType a.actorId = a.flag := rfl
  simp [isLockedOut, hv, LimitsWorld.handle, Tick.at, kvGet, hflag]

/-- The cap per address leaves every key but its own. -/
theorem recordAuthfailIpAndCheck_alone (hashIp : String → String) (clientIp : String) (now : UInt64) (w : LimitsWorld) :
    ∃ b kv, (recordAuthfailIpAndCheck hashIp clientIp).run LimitsWorld.handle (.at now) w = (b, ⟨w.locks, kv⟩) ∧
      ∀ key, blindKey (authfailIpKey (hashIp clientIp)) (hourOf now) ≠ key → kv[key]? = w.kv[key]? := by
  simp only [recordAuthfailIpAndCheck, checkBlindIssuance, checkKvCounter, Prog.op_bind, Prog.ask_bind, Prog.run_ask,
    LimitsWorld.handle, Tick.at, kvGet, Bool.false_eq_true, if_false]
  by_cases hcap : ((Store.get w.kv (secs now) (blindKey (authfailIpKey (hashIp clientIp)) (hourOf now))).bind
      parseU32).getD 0 ≥ authfailIpLimitPerHour
  · simp only [hcap, if_true, Prog.pure_eq, Prog.ret_bind, Prog.ask_bind, Prog.run_ask, Prog.run_ret]
    exact ⟨_, _, rfl, fun key _ => rfl⟩
  · simp only [hcap, if_false, Prog.pure_eq, Prog.ret_bind, Prog.ask_bind, Prog.run_ask, Prog.run_ret]
    exact ⟨_, _, rfl, fun key hkey => insert_get_of_ne _ hkey _⟩

theorem lockAtThreshold_alone (hv : validateActor a.actorType a.actorId = .ok ()) (now : UInt64) {duration n : Nat}
    (hduration : max 1 (min duration maxLockoutDuration) = duration) (httl : ¬duration < kvMinTtl) (reject : ApiError) :
    ∃ v, ((lockAtThreshold a.actorType a.actorId a.threshold duration n reject).run LimitsWorld.handle (.at now) w).2 =
      if a.threshold ≤ n then { w with kv := Store.put w.kv (secs now) (some duration) a.flag v } else w := by
  refine ⟨toString (satAddI64 (nowEpochSecs now) (toI64OrMax duration)), ?_⟩
  have hflag : lockedKey a.actorType a.actorId = a.flag := rfl
  by_cases hn : a.threshold ≤ n
  · simp only [lockAtThreshold, lockAccount, hv, hn, hduration, hflag, if_true, Prog.op_bind, Prog.ask_bind,
      Prog.run_ask, LimitsWorld.handle, Tick.at, kvPut, httl, Bool.false_or, Option.any_some, decide_false, Bool.false_eq_true,
      if_false, Prog.pure_eq, Prog.ret_bind, Prog.run_ret]
  · simp only [lockAtThreshold, hn, if_false, Prog.pure_eq, Prog.run_ret]

end

/-! ## One more attempt -/

theorem lockedOutBy_cons {t : Nat} {x : Attempt} {past : List Attempt} : LockedOutBy t (x :: past) ↔
    (∃ now bytes, x = .failure now bytes ∧ secs now ≤ t ∧ t < secs now + 900 ∧ 5 ≤ inARow (secs now) past + 1) ∨
      x.isSuccess = false ∧ LockedOutBy t past := by
  constructor
  · rintro ⟨later, now, bytes, earlier, heq, hle, hlt, hrow, hlater⟩
    cases later with
    | nil =>
      cases heq
      exact .inl ⟨now, bytes, rfl, hle, hlt, hrow⟩
    | cons y later =>
      cases heq
      exact .inr ⟨hlater _ (by simp), later, now, bytes, earlier, rfl, hle, hlt, hrow,
        fun z hz => hlater z (List.mem_cons_of_mem _ hz)⟩
  · rintro (⟨now, bytes, rfl, hle, hlt, hrow⟩ | ⟨hx, later, now, bytes, earlier, rfl, hle, hlt, hrow, hlater⟩)
    · exact ⟨[], now, bytes, past, rfl, hle, hlt, hrow, by simp⟩
    · refine ⟨x :: later, now, bytes, earlier, rfl, hle, hlt, hrow, fun y hy => ?_⟩
      rcases List.mem_cons.mp hy with rfl | hy
      · exact hx
      · exact hlater y hy

theorem not_lockedOutBy_nil (t : Nat) : ¬LockedOutBy t [] := by
  rintro ⟨later, now, bytes, earlier, heq, -⟩
  simp at heq

/-- The attempts so far have been made by `t`; from `t` on the lock is free, the counter stands for the
failures in a row and the flag says whether the officer is locked out. -/
structure Lawful (a : Actor) (t : Nat) (past : List Attempt) (w : LimitsWorld) : Prop where
  made : ∀ x ∈ past, x.time ≤ t
  free : ∀ now : UInt64, t ≤ secs now → lockFree w.locks a.lock (nowEpochSecs now) = true
  counter : ∀ now, t ≤ now → Store.get w.kv now a.counter =
    if inARow now past = 0 then none else some (toString (min (inARow now past) u32Max))
  flag : ∀ now, t ≤ now → ((Store.get w.kv now a.flag).isSome = true ↔ LockedOutBy now past)

section
variable {a : Actor} {t : Nat} {past : List Attempt} {w : LimitsWorld}

theorem Lawful.lt (h : Lawful a t past w) {now : Nat} (hl : LockedOutBy now past) : now < t + 900 := by
  obtain ⟨later, s, bytes, earlier, rfl, -, hlt, -, -⟩ := hl
  have hs : secs s ≤ t := h.made (.failure s bytes) (by simp)
  omega

theorem Lawful.nextCount (h : Lawful a t past w) {now : UInt64} (hnow : t ≤ secs now) :
    nextCount a w.kv now = min (inARow (secs now) past + 1) u32Max := by
  have hcounter := h.counter (secs now) hnow
  simp only [Issuer.nextCount, hcounter]
  by_cases hrow : inARow (secs now) past = 0
  · simp [hrow, failureCount, satAddU32]
  · have hparse : failureCount a.threshold (some (toString (min (inARow (secs now) past) u32Max))) =
        min (inARow (secs now) past) u32Max := by
      simp only [failureCount, parseU32_toString (Nat.min_le_right _ _), Option.getD_some]
    simp only [hrow, if_false, hparse, satAddU32]
    omega

theorem Lawful.alarm (h : Lawful a t past w) {al : LockAlarm} (hstart : t ≤ secs al.now) :
    Lawful a (secs al.now) (.alarm al :: past) (w.react al) where
  made := by
    intro x hx
    rcases List.mem_cons.mp hx with rfl | hx
    · exact le_refl _
    · exact le_trans (h.made x hx) hstart
  free := by
    intro now hnow
    have hfree := h.free now (le_trans hstart hnow)
    simp only [LimitsWorld.react, lockFree] at hfree ⊢
    by_cases hshard : resourceShard a.lock = al.shard
    · rw [hshard] at hfree ⊢
      rw [Function.update_self]
      -- a clean-up leaves the slot as it is or empties it
      have hslot : ((w.locks al.shard).onAlarm al.faults al.now al.arm).storage[lockKey a.lock]? =
          (w.locks al.shard).storage[lockKey a.lock]? ∨
          ((w.locks al.shard).onAlarm al.faults al.now al.arm).storage[lockKey a.lock]? = none := by
        rcases onAlarm_storage al.faults al.now al.arm (w.locks al.shard) with hs | hs
        · exact .inl (by rw [hs])
        · rw [hs, sweepResources]
          rcases sweep_get (judgeResource al.faults (nowEpochSecs al.now)) (w.locks al.shard).storage
            ((w.locks al.shard).storage.keys.take maxListEntries) (lockKey a.lock) with hsweep | ⟨hsweep, -⟩
          · exact .inl hsweep
          · exact .inr hsweep
      rcases hslot with hslot | hslot
      · rw [hslot]; exact hfree
      · rw [hslot]
    · rw [Function.update_of_ne hshard]
      exact hfree
  counter := fun now hnow => h.counter now (le_trans hstart hnow)
  flag := by
    intro now hnow
    simp only [lockedOutBy_cons, reduceCtorEq, false_and, exists_false, false_or, Attempt.isSuccess, true_and]
    exact h.flag now (le_trans hstart hnow)

theorem Lawful.success (h : Lawful a t past w) {now : UInt64} (hstart : t ≤ secs now) :
    Lawful a (secs now) (.success now :: past) ⟨w.locks, (w.kv.erase a.counter).erase a.flag⟩ where
  made := by
    intro x hx
    rcases List.mem_cons.mp hx with rfl | hx
    · exact le_refl _
    · exact le_trans (h.made x hx) hstart
  free := fun later hlater => h.free later (le_trans hstart hlater)
  counter := by
    intro later _
    simp [Store.get, inARow]
  flag := by
    intro later _
    simp [lockedOutBy_cons, Attempt.isSuccess, Store.get]

/-- The counter is written, and the flag with it where the count has reached five. -/
theorem Lawful.failure (h : Lawful a t past w) {now : UInt64} (bytes : Vector UInt8 16) (hstart : t ≤ secs now)
    (hthreshold : a.threshold = 5) {locks : ResourceShards} (hfree : ∀ s, lockFree locks a.lock s = true) {kv : Kv String}
    (hcounter : kv[a.counter]? = w.kv[a.counter]?) (hflag : kv[a.flag]? = w.kv[a.flag]?) {n : Nat}
    (hn : n = Issuer.nextCount a kv now) {v : String} {kv₁ kv₂ : Kv String}
    (hkv₁ : kv₁ = Store.put kv (secs now) (some lockoutTrackingWindow) a.counter (toString n))
    (hkv₂ : kv₂ = if a.threshold ≤ n then Store.put kv₁ (secs now) (some lockoutDurationSeconds) a.flag v else kv₁) :
    Lawful a (secs now) (.failure now bytes :: past) ⟨locks, kv₂⟩ := by
  have hcount : n = min (inARow (secs now) past + 1) u32Max := by
    rw [hn, ← h.nextCount hstart]
    simp only [Issuer.nextCount, get_congr hcounter]
  have hu : u32Max = 4294967295 := rfl
  refine ⟨?made, fun s _ => hfree _, ?counter, ?flag⟩
  case made =>
    intro x hx
    rcases List.mem_cons.mp hx with rfl | hx
    · exact le_refl _
    · exact le_trans (h.made x hx) hstart
  case counter =>
    intro later hlater
    have hget : Store.get kv₂ later a.counter = Store.get kv₁ later a.counter := by
      rw [hkv₂]
      by_cases hthr : a.threshold ≤ n
      · rw [if_pos hthr, put_get_of_ne _ (flag_ne_counter a)]
      · rw [if_neg hthr]
    rw [hget, hkv₁, put_get_self]
    simp only [Entry.live, Option.map_some, decide_eq_true_eq, lockoutTrackingWindow, inARow, hcount]
    by_cases hlate : later < secs now + 3600
    · simp [hlate]
    · simp [hlate]
  case flag =>
    intro later hlater
    simp only [lockedOutBy_cons, Attempt.failure.injEq, Attempt.isSuccess, true_and]
    by_cases hthr : a.threshold ≤ n
    · rw [hkv₂, if_pos hthr, put_get_self]
      simp only [Entry.live, Option.map_some, decide_eq_true_eq, lockoutDurationSeconds]
      constructor
      · intro hlive
        refine .inl ⟨now, bytes, ⟨rfl, rfl⟩, hlater, ?_, by omega⟩
        by_contra hlate
        simp [hlate] at hlive
      · intro hlocked
        have hlate : later < secs now + 900 := by
          rcases hlocked with ⟨now', bytes', ⟨rfl, rfl⟩, -, hlate, -⟩ | hlocked
          · exact hlate
          · have := h.lt hlocked
            omega
        simp [hlate]
    · have hget : Store.get kv₂ later a.flag = Store.get w.kv later a.flag := by
        rw [hkv₂, if_neg hthr, hkv₁, put_get_of_ne _ (flag_ne_counter a).symm]
        exact get_congr hflag later
      rw [hget, h.flag later (le_trans hstart hlater)]
      constructor
      · exact fun hlocked => .inr hlocked
      · rintro (⟨now', bytes', ⟨rfl, rfl⟩, -, -, hrow⟩ | hlocked)
        · omega
        · exact hlocked

end

section
variable {hashIp : String → String} {officerId clientIp : String} {t : Nat} {past : List Attempt} {w : LimitsWorld}

abbrev officerActor (hashIp : String → String) (officerId clientIp : String) : Actor :=
  ⟨"officer", officerLockoutActorId hashIp officerId clientIp, maxFailedAttempts⟩

theorem recordOfficerFailure_alone (hhash : HexHash hashIp) {now : UInt64} (bytes : Vector UInt8 16)
    (hfree : lockFree w.locks (officerActor hashIp officerId clientIp).lock (nowEpochSecs now) = true) :
    ∃ locks kv kv₁ kv₂ v,
      (Attempt.failure now bytes).step hashIp officerId clientIp w = ⟨locks, kv₂⟩ ∧
      (∀ s, lockFree locks (officerActor hashIp officerId clientIp).lock s = true) ∧
      (∀ key, blindKey (authfailIpKey (hashIp clientIp)) (hourOf now) ≠ key → kv[key]? = w.kv[key]?) ∧
      kv₁ = Store.put kv (secs now) (some lockoutTrackingWindow) (officerActor hashIp officerId clientIp).counter
        (toString (nextCount (officerActor hashIp officerId clientIp) kv now)) ∧
      kv₂ = if maxFailedAttempts ≤ nextCount (officerActor hashIp officerId clientIp) kv now then
        Store.put kv₁ (secs now) (some lockoutDurationSeconds) (officerActor hashIp officerId clientIp).flag v else kv₁ := by
  have hv : validateActor "officer" (officerLockoutActorId hashIp officerId clientIp) = .ok () := lockoutActor_valid hhash
  obtain ⟨b, kv, hcap, hkv⟩ := recordAuthfailIpAndCheck_alone hashIp clientIp now w
  obtain ⟨locks, hrecord, hfree'⟩ := recordAuthFailure_alone (a := officerActor hashIp officerId clientIp)
    (w := ⟨w.locks, kv⟩) hv (lockoutActor_lock hhash) (generateLockToken_valid bytes) hfree
  have hduration : max 1 (min lockoutDurationSeconds maxLockoutDuration) = lockoutDurationSeconds := by decide
  obtain ⟨v, hlock⟩ := lockAtThreshold_alone (a := officerActor hashIp officerId clientIp) hv now
    (n := nextCount (officerActor hashIp officerId clientIp) kv now)
    (w := ⟨locks, Store.put kv (secs now) (some lockoutTrackingWindow) (officerActor hashIp officerId clientIp).counter
      (toString (nextCount (officerActor hashIp officerId clientIp) kv now))⟩)
    hduration (by decide) (.unauthorized authFailureMessage)
  refine ⟨locks, kv, _, _, v, ?_, hfree', hkv, rfl, rfl⟩
  simp only [Attempt.step, recordOfficerFailureAndReject, Prog.run_bind, hcap, hrecord, hlock]
  by_cases hthr : maxFailedAttempts ≤ nextCount (officerActor hashIp officerId clientIp) kv now
  · simp only [hthr, if_true]
  · simp only [hthr, if_false]

theorem Lawful.step (hhash : HexHash hashIp) (h : Lawful (officerActor hashIp officerId clientIp) t past w)
    {x : Attempt} (hstart : t ≤ x.time) :
    Lawful (officerActor hashIp officerId clientIp) x.time (x :: past) (x.step hashIp officerId clientIp w) := by
  cases x with
  | alarm al => exact h.alarm hstart
  | success now =>
    simp only [Attempt.step, clearAuthFailures_alone (a := officerActor hashIp officerId clientIp) (lockoutActor_valid hhash)]
    exact h.success hstart
  | failure now bytes =>
    obtain ⟨locks, kv, kv₁, kv₂, v, hstep, hfree, hkv, hkv₁, hkv₂⟩ := recordOfficerFailure_alone hhash bytes (h.free now hstart)
    rw [hstep]
    exact h.failure bytes hstart rfl hfree (hkv _ (blindKey_ne_counter _ _ _)) (hkv _ (blindKey_ne_flag _ _ _)) rfl hkv₁ hkv₂

theorem Lawful.run (hhash : HexHash hashIp) : ∀ (attempts : List Attempt) {t : Nat} {past : List Attempt} {w : LimitsWorld},
    Lawful (officerActor hashIp officerId clientIp) t past w → Ordered Attempt.time Attempt.time t attempts →
    Lawful (officerActor hashIp officerId clientIp) (endTime Attempt.time t attempts) (attempts.reverse ++ past)
      (exec (Attempt.step hashIp officerId clientIp) w attempts)
  | [], _, _, _, h, _ => h
  | x :: attempts, _, past, _, h, hclock => by
    have hrun := Lawful.run hhash attempts (h.step hhash hclock.1) hclock.2.2
    rw [List.reverse_cons, List.append_assoc]
    exact hrun

end

/-- A history that the clock has ordered and that starts with no count and no flag left and the lock free: the
officer is locked out exactly while a failure that made at least five in a row, with nothing but failures after it,
is less than a quarter of an hour old. -/
theorem lockout_law (hashIp : String → String) (hhash : HexHash hashIp) (officerId clientIp : String) (w : LimitsWorld)
    (t : Nat) (hfree : lockFree w.locks (officerActor hashIp officerId clientIp).lock t = true)
    (hcounter : Store.get w.kv t (officerActor hashIp officerId clientIp).counter = none)
    (hflag : Store.get w.kv t (officerActor hashIp officerId clientIp).flag = none)
    (attempts : List Attempt) (hclock : Ordered Attempt.time Attempt.time t attempts)
    (now : UInt64) (hnow : endTime Attempt.time t attempts ≤ secs now) :
    ∃ locked, ((isLockedOut "officer" (officerLockoutActorId hashIp officerId clientIp)).run LimitsWorld.handle (.at now)
        (exec (Attempt.step hashIp officerId clientIp) w attempts)).1 = .ok locked ∧
      (locked = true ↔ ∃ before s bytes after, attempts = before ++ .failure s bytes :: after ∧
        secs s ≤ secs now ∧ secs now < secs s + 900 ∧ 5 ≤ inARow (secs s) before.reverse + 1 ∧
        ∀ x ∈ after, x.isSuccess = false) := by
  have hstart : Lawful (officerActor hashIp officerId clientIp) t [] w := by
    refine ⟨by simp, fun later hlater => ?_, fun later hlater => ?_, fun later hlater => ?_⟩
    · rw [nowEpochSecs_eq]
      exact lockFree_mono hfree (by omega)
    · rw [get_none_mono hcounter hlater]
      simp [inARow]
    · rw [get_none_mono hflag hlater]
      simp [not_lockedOutBy_nil]
  have hrun := hstart.run hhash attempts hclock
  refine ⟨_, isLockedOut_alone (a := officerActor hashIp officerId clientIp) (lockoutActor_valid hhash), ?_⟩
  rw [hrun.flag _ hnow, List.append_nil]
  constructor
  · rintro ⟨later, s, bytes, earlier, heq, hle, hlt, hrow, hlater⟩
    refine ⟨earlier.reverse, s, bytes, later.reverse, ?_, hle, hlt, by rwa [List.reverse_reverse], by simpa using hlater⟩
    rw [← List.reverse_reverse attempts, heq]
    simp
  · rintro ⟨before, s, bytes, after, heq, hle, hlt, hrow, hafter⟩
    exact ⟨after.reverse, s, bytes, before.reverse, by simp [heq], hle, hlt, hrow, by simpa using hafter⟩

theorem hexHash_hex : HexHash hexHash := by
  intro input
  rw [List.all_eq_true]
  intro c hc
  simp only [hexHash, hexEncode, String.toList_ofList, List.mem_flatMap, List.mem_cons, List.not_mem_nil, or_false] at hc
  obtain ⟨b, -, hc⟩ := hc
  have hdigit : ∀ n < 16, isAsciiHexdigit (hexDigit n) = true := by decide
  have hb := b.toNat_lt
  rcases hc with rfl | rfl
  · exact hdigit _ (by omega)
  · exact hdigit _ (by omega)

/-- One failure a second. -/
def fiveInARow : List Attempt :=
  [.failure 1000 (.replicate 16 1), .failure 2000 (.replicate 16 2), .failure 3000 (.replicate 16 3),
    .failure 4000 (.replicate 16 4), .failure 5000 (.replicate 16 5)]

theorem five_in_a_row_lock : ((isLockedOut "officer" (officerLockoutActorId hexHash "o1" "192.0.2.1")).run
    LimitsWorld.handle (.at 904999) (exec (Attempt.step hexHash "o1" "192.0.2.1") emptyLimits fiveInARow)).1 = .ok true := by
  obtain ⟨locked, hrun, hlocked⟩ := lockout_law hexHash hexHash_hex "o1" "192.0.2.1" emptyLimits 0 (by decide +kernel)
    (by decide +kernel) (by decide +kernel) fiveInARow (by decide) 904999 (by decide)
  rw [hrun, hlocked.mpr ⟨fiveInARow.take 4, 5000, .replicate 16 5, [], rfl, by decide, by decide, by decide, by simp⟩]

end Issuer
