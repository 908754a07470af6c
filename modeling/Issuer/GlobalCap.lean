import Issuer.AdminCap
import Issuer.DispatchTables
import Issuer.RateLimitKeys

/-!
# The hourly limit of an address, over a run

Requests of one hour, one after the other. What gets past the limit of a bucket is what is left of it; a request that is
refused before draws on nothing. Requests without a connecting address share one bucket.
-/

namespace Issuer

open Rust Store Runs

/-! ## A counter of the hour -/

section
variable {key : String} {hour limit : Nat} {w : LimitsWorld} {e : Nat → Tick}

def hourUsed (key : String) (w : LimitsWorld) : Nat := (w.kv[key]?.bind fun entry => parseU32 entry.value).getD 0

def HourLasts (key : String) (hour : Nat) (w : LimitsWorld) : Prop :=
  ∀ entry, w.kv[key]? = some entry → ∀ x, entry.expires = some x → hour + 3600 ≤ x

def LimitsWorld.countedAt (key : String) (now : UInt64) (w : LimitsWorld) : LimitsWorld :=
  ⟨w.locks, Store.put w.kv (secs now) (some 7200) key (toString (hourUsed key w + 1))⟩

theorem hourUsed_read (hlast : HourLasts key hour w) {now : UInt64} (hnow : hourOf now = hour) :
    ((Store.get w.kv (secs now) key).bind parseU32).getD 0 = hourUsed key w := by
  obtain ⟨-, hlt⟩ := hourOf_bounds hnow
  unfold Store.get hourUsed
  cases hentry : w.kv[key]? with
  | none => rfl
  | some entry =>
    have hlive : entry.live (secs now) = true := by
      unfold Entry.live
      cases hexp : entry.expires with
      | none => rfl
      | some x =>
        have := hlast entry hentry x hexp
        simp only [decide_eq_true_eq]
        omega
    simp [hlive]

theorem hourUsed_congr {w' : LimitsWorld} (h : w'.kv[key]? = w.kv[key]?) : hourUsed key w' = hourUsed key w := by
  unfold hourUsed
  rw [h]

theorem HourLasts.congr {w' : LimitsWorld} (h : w'.kv[key]? = w.kv[key]?) (hlast : HourLasts key hour w) :
    HourLasts key hour w' := by
  intro entry hentry
  exact hlast entry (h ▸ hentry)

theorem counted_used (hroom : hourUsed key w + 1 ≤ u32Max) (now : UInt64) :
    hourUsed key (w.countedAt key now) = hourUsed key w + 1 := by
  have hentry : (w.countedAt key now).kv[key]? = some ⟨toString (hourUsed key w + 1), some (secs now + 7200)⟩ := by
    simp [LimitsWorld.countedAt, Store.put]
  rw [hourUsed, hentry]
  simp only [Option.bind_some, parseU32_toString hroom, Option.getD_some]

theorem counted_lasts {now : UInt64} (hnow : hourOf now = hour) : HourLasts key hour (w.countedAt key now) := by
  intro entry hentry x hx
  have hstored : (w.countedAt key now).kv[key]? = some ⟨toString (hourUsed key w + 1), some (secs now + 7200)⟩ := by
    simp [LimitsWorld.countedAt, Store.put]
  rw [hstored] at hentry
  cases hentry
  cases hx
  have := (hourOf_bounds hnow).1
  omega

theorem blindIssuance_play {α : Type} {id : String} (he : ∀ n, (e n).kvFails = false ∧ hourOf (e n).now = hour)
    (hlast : HourLasts (blindKey id hour) hour w) (hlimit : limit ≤ u32Max) (f : RateLimitResult → Limits α) :
    (limit ≤ hourUsed (blindKey id hour) w → ∃ rl m, rl.allowed = false ∧
      (checkBlindIssuance id limit >>= f).play LimitsWorld.handle e w =
        (f rl).play LimitsWorld.handle (fun n => e (n + m)) w) ∧
    (hourUsed (blindKey id hour) w < limit → ∃ rl m now, rl.allowed = true ∧ hourOf now = hour ∧
      (checkBlindIssuance id limit >>= f).play LimitsWorld.handle e w =
        (f rl).play LimitsWorld.handle (fun n => e (n + m)) (w.countedAt (blindKey id hour) now)) := by
  have hhour := (he 0).2
  subst hhour
  have hread := hourUsed_read hlast (he 1).2
  have hget : kvGet (e 1).kvFails w.kv (e 1).now (blindKey id (hourOf (e 0).now)) =
      .ok (Store.get w.kv (secs (e 1).now) (blindKey id (hourOf (e 0).now))) := by
    simp only [kvGet, (he 1).1, Bool.false_eq_true, if_false]
  simp only [checkBlindIssuance, checkKvCounter, Limits.now, Limits.kvGet, Limits.kvPut, Prog.op_bind, Prog.ask_bind,
    Prog.play_ask, LimitsWorld.handle, Nat.zero_add, hget, ge_iff_le, hread]
  constructor
  · intro hfull
    simp only [if_pos hfull, Prog.pure_eq, Prog.ret_bind, Prog.ask_bind, Prog.play_ask, LimitsWorld.handle]
    exact ⟨_, 3, rfl, rfl⟩
  · intro hroom
    have hput : kvPut (e 2).kvFails w.kv (e 2).now (some 7200) (blindKey id (hourOf (e 0).now))
        (toString (satAddU32 (hourUsed (blindKey id (hourOf (e 0).now)) w) 1)) =
          .ok (w.countedAt (blindKey id (hourOf (e 0).now)) (e 2).now).kv := by
      have hsat : satAddU32 (hourUsed (blindKey id (hourOf (e 0).now)) w) 1 = hourUsed (blindKey id (hourOf (e 0).now)) w + 1 :=
        satAddU32_of_le (by omega)
      simp [kvPut, (he 2).1, hsat, kvMinTtl, LimitsWorld.countedAt]
    simp only [if_neg (not_le.mpr hroom), Prog.ask_bind, Prog.play_ask, LimitsWorld.handle, Prog.pure_eq, Prog.ret_bind,
      Nat.zero_add, Nat.reduceAdd, hread, hput]
    exact ⟨_, 4, _, rfl, (he 2).2, rfl⟩

end

theorem leaves_play {α : Type} {key : String} {p : Limits α} (hp : p.Safe (LimitsOp.Leaves key) (fun _ _ => True) fun _ => True)
    (e : Nat → Tick) (w : LimitsWorld) : (p.play LimitsWorld.handle e w).2.kv[key]? = w.kv[key]? :=
  (Prog.safe_play (Q := fun _ => True) (R := fun w' => w'.kv[key]? = w.kv[key]?) LimitsWorld.handle
    (fun _ _ _ ho hw' => (handle_leaves ho).trans hw') p e w hp rfl).2

namespace Dispatch

open Http

open Cors (UrlLibrary)

/-! ## Requests -/

structure Arrival where
  call : Call
  ticks : Nat → Tick

/-- No operation fails, and all happen in one clock hour. -/
def Arrival.InHour (hour : Nat) (a : Arrival) : Prop := ∀ n, (a.ticks n).kvFails = false ∧ hourOf (a.ticks n).now = hour

/-- What is limited together: the kind of method and the hash of the address. -/
structure Bucket where
  isMutating : Bool
  ipHash : String
deriving DecidableEq, Repr

def Bucket.key (b : Bucket) (hour : Nat) : String := blindKey (ipKey (rateLabel b.isMutating) b.ipHash) hour

def Call.bucket (env : WorkerEnv) (call : Call) : Bucket :=
  ⟨call.request.method.isMutating, env.hashIp (rateLimitIp call.request)⟩

section
variable (U : UrlLibrary) (env : WorkerEnv) (router : RouterLibrary)
  (handlers : Route → String → Request → Limits (Except Unit Response))

def serve (w : LimitsWorld) (a : Arrival) : LimitsWorld :=
  ((main U env a.call router handlers).play LimitsWorld.handle a.ticks w).2

/-- The request is one of the bucket and gets past its limit. -/
def pastLimit (b : Bucket) (w : LimitsWorld) (a : Arrival) : Bool :=
  decide (a.call.bucket env = b) && (beforeLimit env a.call).isOk &&
    ((globalLimit U env a.call).play LimitsWorld.handle a.ticks w).1.isOk

def draws (b : Bucket) (a : Arrival) : Bool := decide (a.call.bucket env = b) && (beforeLimit env a.call).isOk

end

section
variable {U : UrlLibrary} {env : WorkerEnv} {router : RouterLibrary}
  {handlers : Route → String → Request → Limits (Except Unit Response)} {b : Bucket} {hour : Nat} {w : LimitsWorld} {a : Arrival}

theorem ipKey_injective {caller caller' : IpLabel} {ipHash ipHash' : String} {hour hour' : Nat}
    (h : blindKey (ipKey caller ipHash) hour = blindKey (ipKey caller' ipHash') hour') : caller = caller' ∧ ipHash = ipHash' := by
  have hblind : ∀ id n, blindKey id n = ("blind:" ++ id) ++ ("|" ++ toString n) := fun _ _ => String.append_assoc
  have hip : ∀ caller ipHash, ipKey caller ipHash = caller.label ++ (":" ++ ipHash) := fun _ _ => String.append_assoc
  rw [hblind, hblind] at h
  obtain ⟨hbody, -⟩ := append_sep_inj_last (toString_nat_decimal hour) (toString_nat_decimal hour') (by decide) h
  rw [String.append_right_inj, hip, hip] at hbody
  obtain ⟨hlabel, hhash⟩ := append_sep_inj (caller_noColon _) (caller_noColon _) (by decide) hbody
  exact ⟨caller_label_injective hlabel, hhash⟩

theorem bucketKey_injective {b b' : Bucket} {hour hour' : Nat} (h : b.key hour = b'.key hour') : b = b' := by
  obtain ⟨hcaller, hhash⟩ := ipKey_injective h
  have hkind : b.isMutating = b'.isMutating := by
    unfold rateLabel at hcaller
    cases hb : b.isMutating <;> cases hb' : b'.isMutating <;> simp [hb, hb'] at hcaller ⊢
  cases b
  cases b'
  simp only [Bucket.mk.injEq]
  exact ⟨hkind, hhash⟩

/-- The variable that sets the limit, and the limit without it. -/
def limitText (env : WorkerEnv) (isMutating : Bool) : Option String :=
  if isMutating then env.globalIpMutatingLimitPerHour else env.globalIpGetLimitPerHour

def defaultLimit (isMutating : Bool) : Nat := if isMutating then 120 else 600

theorem ipRateLimit_eq (env : WorkerEnv) (isMutating : Bool) : ipRateLimit env isMutating =
    (((limitText env isMutating).bind parseU32).filter (1 ≤ ·)).getD (defaultLimit isMutating) := by
  cases isMutating <;> rfl

theorem ipRateLimit_configured {env : WorkerEnv} {isMutating : Bool} {limit : Nat} (hpositive : 1 ≤ limit)
    (h : (limitText env isMutating).bind parseU32 = some limit) : ipRateLimit env isMutating = limit := by
  rw [ipRateLimit_eq, h, Option.filter_some, if_pos (by simpa using hpositive), Option.getD_some]

theorem ipRateLimit_default {env : WorkerEnv} {isMutating : Bool}
    (h : (limitText env isMutating).bind parseU32 = none ∨ (limitText env isMutating).bind parseU32 = some 0) :
    ipRateLimit env isMutating = defaultLimit isMutating := by
  rw [ipRateLimit_eq]
  rcases h with h | h
  · rw [h]
    rfl
  · rw [h]
    rfl

theorem ipRateLimit_le (env : WorkerEnv) (isMutating : Bool) : ipRateLimit env isMutating ≤ u32Max := by
  rw [ipRateLimit_eq]
  cases hfilter : ((limitText env isMutating).bind parseU32).filter (1 ≤ ·) with
  | none => cases isMutating <;> decide
  | some limit =>
    obtain ⟨hbind, -⟩ := Option.filter_eq_some_iff.mp hfilter
    obtain ⟨text, -, hparse⟩ := Option.bind_eq_some_iff.mp hbind
    exact parseU32_le hparse

/-- What stands behind the limit leaves a counter alone that the handlers leave alone. -/
theorem behindLimit_leaves {key : String}
    (hhandlers : ∀ route param req, (handlers route param req).Safe (LimitsOp.Leaves key) (fun _ _ => True) fun _ => True)
    (call : Call) : (behindLimit U env call router handlers).Safe (LimitsOp.Leaves key) (fun _ _ => True) fun _ => True := by
  have hret : ∀ {α : Type} (x : α), (Prog.ret x : Limits α).Safe (LimitsOp.Leaves key) (fun _ _ => True) fun _ => True :=
    fun _ => trivial
  have hrouter : (runRouter env call router handlers).Safe (LimitsOp.Leaves key) (fun _ _ => True) fun _ => True := by
    unfold runRouter
    cases router (routes env) call.request.method call.request.path with
    | anyMethod => exact hret _
    | own resp => exact hret _
    | handler route param =>
      change (runRoute call handlers route param).Safe _ _ _
      unfold runRoute
      split
      · exact hret _
      · split
        · split
          · exact hret _
          · exact hhandlers route param call.request
        · exact hhandlers route param call.request
  have hrespond : (respond env call router handlers).Safe (LimitsOp.Leaves key) (fun _ _ => True) fun _ => True := by
    unfold respond
    split
    · exact hret _
    · dsimp only
      split
      · exact hret _
      · refine Prog.safe_bind _ hrouter fun result _ => ?_
        cases result <;> exact hret _
  unfold behindLimit
  cases checkFetchMetadata call with
  | error resp => exact hret _
  | ok u =>
    cases docsNonce call with
    | error resp => exact hret _
    | ok cspNonce => exact Prog.safe_bind _ hrespond fun _ _ => hret _

theorem checkBlindIssuance_leaves {id key : String} {limit : Nat} (hkey : ∀ hour, blindKey id hour ≠ key) :
    (checkBlindIssuance id limit).Safe (LimitsOp.Leaves key) (fun _ _ => True) fun _ => True := by
  refine Prog.safe_op trivial fun now _ => ?_
  refine Prog.safe_bind (Q := fun _ => True) _ ?_ fun _ _ => Prog.safe_op trivial fun _ _ => trivial
  refine Prog.safe_op trivial fun data _ => ?_
  cases data with
  | error u => exact trivial
  | ok data =>
    dsimp only
    split
    · exact trivial
    · exact Prog.safe_op (hkey _) fun _ _ => trivial

/-! ## The stages of a request -/

def limitAnswer (U : UrlLibrary) (env : WorkerEnv) (call : Call) (rl : RateLimitResult) : Limits (Except Response Unit) :=
  if rl.allowed then pure (.ok ())
  else do
    let resp ← rateLimitOrUnavailableResponse rl
    pure (.error (refuseEarly U env call resp))

def afterLimit (U : UrlLibrary) (env : WorkerEnv) (router : RouterLibrary)
    (handlers : Route → String → Request → Limits (Except Unit Response)) (call : Call) : Except Response Unit → Limits Response
  | .error resp => pure resp
  | .ok () => behindLimit U env call router handlers

theorem main_admitted {call : Call} (h : beforeLimit env call = .ok ()) :
    main U env call router handlers = (globalLimit U env call >>= afterLimit U env router handlers call) := by
  unfold main
  rw [h]
  refine congrArg (globalLimit U env call >>= ·) (funext fun result => ?_)
  rcases result with resp | ⟨⟩
  · rfl
  · rfl

theorem globalLimit_bound {call : Call} (hbound : env.rateLimits = true) : globalLimit U env call =
    (checkBlindIssuance (ipKey (rateLabel call.request.method.isMutating) (env.hashIp (rateLimitIp call.request)))
      (ipRateLimit env call.request.method.isMutating) >>= limitAnswer U env call) := by
  unfold globalLimit
  dsimp only
  rw [if_pos hbound]
  rfl

theorem limitAnswer_leaves {key : String} (call : Call) (rl : RateLimitResult) :
    (limitAnswer U env call rl).Safe (LimitsOp.Leaves key) (fun _ _ => True) fun _ => True := by
  unfold limitAnswer
  split
  · exact trivial
  · refine Prog.safe_bind (Q := fun _ => True) _ ?_ fun _ _ => trivial
    unfold rateLimitOrUnavailableResponse
    split
    · exact trivial
    · exact Prog.safe_op trivial fun _ _ => trivial

theorem limitAnswer_refused {call : Call} {rl : RateLimitResult} (h : rl.allowed = false) (e : Nat → Tick) (w : LimitsWorld) :
    ((limitAnswer U env call rl).play LimitsWorld.handle e w).1.isOk = false := by
  have hsafe : (limitAnswer U env call rl).Safe (fun _ => True) (fun _ _ => True) fun result => result.isOk = false := by
    rw [limitAnswer, if_neg (by rw [h]; exact Bool.false_ne_true)]
    exact Prog.safe_bind _ (Prog.safe_any _) fun resp _ => rfl
  exact (Prog.safe_play (R := fun _ => True) LimitsWorld.handle (fun _ _ _ _ _ => trivial) _ e w hsafe trivial).1

theorem afterLimit_leaves {key : String}
    (hhandlers : ∀ route param req, (handlers route param req).Safe (LimitsOp.Leaves key) (fun _ _ => True) fun _ => True)
    (call : Call) (result : Except Response Unit) :
    (afterLimit U env router handlers call result).Safe (LimitsOp.Leaves key) (fun _ _ => True) fun _ => True := by
  rcases result with resp | ⟨⟩
  · exact trivial
  · exact behindLimit_leaves hhandlers call

theorem globalLimit_leaves {key : String} (call : Call) (hkey : ∀ hour, (call.bucket env).key hour ≠ key) :
    (globalLimit U env call).Safe (LimitsOp.Leaves key) (fun _ _ => True) fun _ => True := by
  by_cases hbound : env.rateLimits = true
  · rw [globalLimit_bound hbound]
    exact Prog.safe_bind _ (checkBlindIssuance_leaves hkey) fun rl _ => limitAnswer_leaves call rl
  · unfold globalLimit
    dsimp only
    rw [if_neg hbound]
    exact trivial

/-! ## One request -/

variable (hhandlers : ∀ route param req,
  (handlers route param req).Safe (LimitsOp.Leaves (b.key hour)) (fun _ _ => True) fun _ => True)
include hhandlers

theorem serve_other (hdraws : draws env b a = false) :
    (serve U env router handlers w a).kv[b.key hour]? = w.kv[b.key hour]? ∧ pastLimit U env b w a = false := by
  have hpast : pastLimit U env b w a = false := by
    unfold pastLimit
    rw [show (decide (a.call.bucket env = b) && (beforeLimit env a.call).isOk) = draws env b a from rfl, hdraws, Bool.false_and]
  refine ⟨?_, hpast⟩
  unfold serve
  cases hbefore : beforeLimit env a.call with
  | error resp =>
    unfold main
    rw [hbefore]
    rfl
  | ok u =>
    have hbucket : a.call.bucket env ≠ b := by
      intro heq
      simp [draws, heq, hbefore, Except.isOk, Except.toBool] at hdraws
    have hleaves : (globalLimit U env a.call).Safe (LimitsOp.Leaves (b.key hour)) (fun _ _ => True) fun _ => True :=
      globalLimit_leaves a.call fun hour' hkey => hbucket (bucketKey_injective hkey)
    rw [main_admitted hbefore]
    have hmain : (globalLimit U env a.call >>= afterLimit U env router handlers a.call).Safe (LimitsOp.Leaves (b.key hour))
        (fun _ _ => True) fun _ => True := Prog.safe_bind _ hleaves fun result _ => afterLimit_leaves hhandlers a.call result
    exact leaves_play hmain a.ticks w

/-- A request that draws on the bucket gets past the limit exactly while less than it is used, and is counted then. -/
theorem serve_own (hbound : env.rateLimits = true) (ha : a.InHour hour) (hlast : HourLasts (b.key hour) hour w)
    (hdraws : draws env b a = true) :
    HourLasts (b.key hour) hour (serve U env router handlers w a) ∧
      pastLimit U env b w a = decide (hourUsed (b.key hour) w < ipRateLimit env b.isMutating) ∧
      hourUsed (b.key hour) (serve U env router handlers w a) =
        if hourUsed (b.key hour) w < ipRateLimit env b.isMutating then hourUsed (b.key hour) w + 1
        else hourUsed (b.key hour) w := by
  obtain ⟨hbucket, hbefore⟩ := Bool.and_eq_true_iff.mp hdraws
  have hb : a.call.bucket env = b := of_decide_eq_true hbucket
  cases hadmitted : beforeLimit env a.call with
  | error resp => rw [hadmitted] at hbefore; cases hbefore
  | ok u =>
    have hmax := ipRateLimit_le env b.isMutating
    have hkind : a.call.request.method.isMutating = b.isMutating := congrArg Bucket.isMutating hb
    have hid : ipKey (rateLabel a.call.request.method.isMutating) (env.hashIp (rateLimitIp a.call.request)) =
        ipKey (rateLabel b.isMutating) b.ipHash := by rw [← hb]; rfl
    have hlimit : globalLimit U env a.call =
        (checkBlindIssuance (ipKey (rateLabel b.isMutating) b.ipHash) (ipRateLimit env b.isMutating) >>=
          limitAnswer U env a.call) := by
      rw [globalLimit_bound hbound, hid, hkind]
    have hpast : pastLimit U env b w a = ((globalLimit U env a.call).play LimitsWorld.handle a.ticks w).1.isOk := by
      simp [pastLimit, hb, hadmitted, Except.isOk, Except.toBool]
    rw [hpast]
    unfold serve
    rw [main_admitted hadmitted, hlimit, Prog.bind_assoc]
    by_cases hroom : hourUsed (b.key hour) w < ipRateLimit env b.isMutating
    · obtain ⟨rl, m, now, hallowed, hnow, hplay⟩ := (blindIssuance_play ha hlast hmax (limitAnswer U env a.call)).2 hroom
      obtain ⟨rl', m', now', hallowed', hnow', hplay'⟩ := (blindIssuance_play ha hlast hmax fun rl =>
        limitAnswer U env a.call rl >>= afterLimit U env router handlers a.call).2 hroom
      rw [hplay, hplay', limitAnswer, limitAnswer, if_pos hallowed, if_pos hallowed', if_pos hroom, decide_eq_true hroom]
      have hkeep := leaves_play (@behindLimit_leaves U env router handlers _ hhandlers a.call) (fun n => a.ticks (n + m'))
        (w.countedAt (b.key hour) now')
      change HourLasts _ _ ((behindLimit U env a.call router handlers).play _ _ _).2 ∧ true = true ∧
        hourUsed _ ((behindLimit U env a.call router handlers).play _ _ _).2 = _
      exact ⟨(counted_lasts hnow').congr hkeep, rfl, (hourUsed_congr hkeep).trans (counted_used (by omega) now')⟩
    · obtain ⟨rl, m, hrefused, hplay⟩ := (blindIssuance_play ha hlast hmax (limitAnswer U env a.call)).1 (not_lt.mp hroom)
      obtain ⟨rl', m', hrefused', hplay'⟩ := (blindIssuance_play ha hlast hmax fun rl =>
        limitAnswer U env a.call rl >>= afterLimit U env router handlers a.call).1 (not_lt.mp hroom)
      rw [hplay, hplay', if_neg hroom, decide_eq_false hroom]
      have hsafe : (limitAnswer U env a.call rl' >>= afterLimit U env router handlers a.call).Safe
          (LimitsOp.Leaves (b.key hour)) (fun _ _ => True) fun _ => True :=
        Prog.safe_bind _ (limitAnswer_leaves a.call rl') fun result _ => afterLimit_leaves hhandlers a.call result
      have hkeep := leaves_play hsafe (fun n => a.ticks (n + m')) w
      exact ⟨hlast.congr hkeep, limitAnswer_refused hrefused _ w, hourUsed_congr hkeep⟩

/-- **Step lemma.** -/
theorem serve_step (hbound : env.rateLimits = true) (ha : a.InHour hour) (hlast : HourLasts (b.key hour) hour w) :
    HourLasts (b.key hour) hour (serve U env router handlers w a) ∧
      pastLimit U env b w a =
        (draws env b a && decide (hourUsed (b.key hour) w < ipRateLimit env b.isMutating)) ∧
      hourUsed (b.key hour) (serve U env router handlers w a) =
        if draws env b a = true ∧ hourUsed (b.key hour) w < ipRateLimit env b.isMutating then hourUsed (b.key hour) w + 1
        else hourUsed (b.key hour) w := by
  cases hdraws : draws env b a with
  | true =>
    obtain ⟨hnext, hpast, hused⟩ := @serve_own U env router handlers b hour w a hhandlers hbound ha hlast hdraws
    refine ⟨hnext, by rw [hpast, Bool.true_and], ?_⟩
    rw [hused]
    simp
  | false =>
    obtain ⟨hkeep, hpast⟩ := @serve_other U env router handlers b hour w a hhandlers hdraws
    exact ⟨hlast.congr hkeep, by rw [hpast, Bool.false_and], by rw [hourUsed_congr hkeep]; simp⟩

end

/-- **The hourly limit of an address.** Of the requests of one hour, handled one after the other without a failing
operation, as many of a bucket get past its limit as are not refused before, up to what is left of the limit. A request
that is refused before the limit, for its body or for a sandbox prefix, draws on no bucket. The limit is the one that is
set; one that is not set, does not parse or is 0 is the default. -/
theorem global_limit_holds (U : UrlLibrary) (env : WorkerEnv) (router : RouterLibrary)
    (handlers : Route → String → Request → Limits (Except Unit Response)) (b : Bucket) (hour : Nat)
    (hbound : env.rateLimits = true)
    (hhandlers : ∀ route param req,
      (handlers route param req).Safe (LimitsOp.Leaves (b.key hour)) (fun _ _ => True) fun _ => True)
    (w : LimitsWorld) (hlast : HourLasts (b.key hour) hour w) (arrivals : List Arrival) (hhour : ∀ a ∈ arrivals, a.InHour hour) :
    hits (serve U env router handlers) (pastLimit U env b) w arrivals =
        min (arrivals.countP (draws env b)) (ipRateLimit env b.isMutating - hourUsed (b.key hour) w) ∧
      (∀ limit, 1 ≤ limit → (limitText env b.isMutating).bind parseU32 = some limit → ipRateLimit env b.isMutating = limit) ∧
      ((limitText env b.isMutating).bind parseU32 = none ∨ (limitText env b.isMutating).bind parseU32 = some 0 →
        ipRateLimit env b.isMutating = defaultLimit b.isMutating) :=
  ⟨hits_eq_min (I := HourLasts (b.key hour) hour) (fun _ _ hs ha => serve_step hhandlers hbound ha hs) arrivals w hlast hhour,
    fun _ hpositive h => ipRateLimit_configured hpositive h, ipRateLimit_default⟩

def countingHandlers (_ : Route) (_ : String) (req : Request) : Limits (Except Unit Response) := do
  let rl ← checkBlindIssuance (ipKey .challenge (rateLimitIp req)) 60
  pure (.ok ⟨if rl.allowed then 200 else 429, [], .empty⟩)

/-- The limit is one request an hour. -/
def oneEnv : WorkerEnv := ⟨none, none, some "1", some "1", true, id⟩

def challengeArrival (length : String) : Arrival :=
  ⟨⟨⟨.post, "/v1/challenge", "", [("Content-Length", length), ("Content-Type", "application/json")]⟩, "r1", "n1"⟩,
    fun _ => .at 7200000⟩

theorem one_request_passes : hits (serve noUrls oneEnv challengeRouter countingHandlers) (pastLimit noUrls oneEnv ⟨true, "unknown"⟩)
    quietWorld [challengeArrival "many", challengeArrival "2", challengeArrival "2"] = 1 := by
  refine (global_limit_holds noUrls oneEnv challengeRouter countingHandlers ⟨true, "unknown"⟩ 7200 rfl ?_ quietWorld ?_
    [challengeArrival "many", challengeArrival "2", challengeArrival "2"] ?_).1.trans (by decide +kernel)
  · intro route param req
    refine Prog.safe_bind _ (checkBlindIssuance_leaves fun hour hkey => ?_) fun _ _ => trivial
    exact absurd (ipKey_injective hkey).1 (by decide)
  · intro entry hentry
    simp [quietWorld] at hentry
  · intro a ha n
    simp only [List.mem_cons, List.not_mem_nil, or_false] at ha
    rcases ha with rfl | rfl | rfl <;> exact ⟨rfl, by show hourOf 7200000 = 7200; decide⟩

end Dispatch

end Issuer
