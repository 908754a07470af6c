import Issuer.TierCache

/-!
# How old the limit of a customer can be

Two clock readings of one hour look alike to the cache, so what a call of the hour has fetched is used to the end of
it. A limit was in force in the last minute exactly where the entry it is taken from is that young, or the
configuration has prescribed the same again.
-/

namespace Issuer

open Rust Store Runs

/-! ## What the entries prescribe -/

def TierConfig.limitsOf (config : TierConfig) (clientId : String) : Table String Nat :=
  ((config.clients[clientId]?.bind fun tierId => config.tiers[tierId]?).map parseTierLimits).getD ∅

def TierConfig.prescribed (config : TierConfig) (call : QuotaCall) : Nat :=
  ((config.limitsOf call.clientId)[call.endpoint]?).getD call.defaultLimit

/-- `config` is what the namespace held at some moment of the minute before `t`, after the steps `before`. -/
def InForce (w₀ : QuotaWorld) (before : List QuotaStep) (t : Nat) (config : TierConfig) : Prop :=
  ∃ past rest, before = past ++ rest ∧ config = (exec QuotaWorld.step w₀ past).config ∧
    ∀ s ∈ rest.head?, t < s.time + 60000

/-- The limit that a call applies was prescribed at some moment of the minute before it. -/
def LimitInForce (w₀ : QuotaWorld) (before : List QuotaStep) (call : QuotaCall) : Prop :=
  ∃ config, InForce w₀ before call.time config ∧
    ((exec QuotaWorld.step w₀ before).answer call).1.limit = config.prescribed call

def QuotaWorld.Fetches (w : QuotaWorld) (call : QuotaCall) : Prop :=
  (w.caches call.isolate).fresh call.clientId call.hour = none ∧ (w.config.clients[call.clientId]?).isSome = true

/-- What an earlier call of the hour has cached is less than a minute old, or prescribed again. -/
def CacheFresh (w₀ : QuotaWorld) (before : List QuotaStep) (call : QuotaCall) : Prop :=
  ∀ past earlier rest, before = past ++ .checkQuota earlier :: rest → earlier.isolate = call.isolate →
    earlier.clientId = call.clientId → earlier.hour = call.hour → (exec QuotaWorld.step w₀ past).Fetches earlier →
    call.time < earlier.time + 60000 ∨ ∃ config, InForce w₀ before call.time config ∧
      config.prescribed call = (exec QuotaWorld.step w₀ past).config.prescribed call

def Timely (run : List QuotaStep) : Prop := run.Pairwise fun a b => a.time ≤ b.time

/-! ## One call -/

section
variable {w : QuotaWorld} {call : QuotaCall}

theorem checkKvCounter_limit (key : String) (limit ttl : Nat) : (checkKvCounter key limit ttl).Safe (fun _ => True)
    (fun _ _ => True) fun r => r.2.2.1 = limit := by
  unfold checkKvCounter
  refine Prog.safe_op trivial fun data _ => ?_
  cases data with
  | error e => rfl
  | ok data =>
    simp only
    split
    · rfl
    · exact Prog.safe_op trivial fun _ _ => rfl

theorem checkQuota_limit (customerLimit : Nat → Nat) (clientId endpoint : String) (e : Nat → Tick) (l : LimitsWorld) :
    ((checkQuota customerLimit clientId endpoint).play LimitsWorld.handle e l).1.limit = customerLimit (hourOf (e 0).now) := by
  rw [checkQuota, Prog.op_bind, Prog.play_ask]
  refine (Prog.safe_play LimitsWorld.handle (P := fun _ => True) (Q := fun r : RateLimitResult => r.limit = customerLimit (hourOf (e 0).now))
    (R := fun _ => True) (fun _ _ _ _ _ => trivial) _ _ _ ?_ trivial).1
  refine Prog.safe_bind _ (checkKvCounter_limit _ _ _) fun r hr => ?_
  exact Prog.safe_op trivial fun _ _ => hr

theorem answer_limit (w : QuotaWorld) (call : QuotaCall) : (w.answer call).1.limit = (w.lookup call call.hour).1 :=
  checkQuota_limit _ _ _ _ _

theorem lookup_cached {entry : TierCache} (h : (w.caches call.isolate).fresh call.clientId call.hour = some entry) :
    w.lookup call call.hour = ((entry.limits[call.endpoint]?).getD call.defaultLimit, w.caches call.isolate) := by
  rw [QuotaWorld.lookup, getCustomerLimit, h]

theorem lookup_missed (h : (w.caches call.isolate).fresh call.clientId call.hour = none)
    (hclient : w.config.clients[call.clientId]? = none) :
    w.lookup call call.hour = (w.config.prescribed call, w.caches call.isolate) := by
  rw [QuotaWorld.lookup, getCustomerLimit, h]
  simp [hclient, TierConfig.prescribed, TierConfig.limitsOf]

theorem lookup_fetched (h : w.Fetches call) : w.lookup call call.hour = (w.config.prescribed call,
    (w.caches call.isolate).insert call.clientId ⟨w.config.limitsOf call.clientId, call.hour⟩) := by
  obtain ⟨hmiss, hclient⟩ := h
  obtain ⟨tierId, htier⟩ := Option.isSome_iff_exists.mp hclient
  rw [QuotaWorld.lookup, getCustomerLimit, hmiss]
  simp [htier, TierConfig.prescribed, TierConfig.limitsOf]

theorem lookup_uncached (h : (w.caches call.isolate).fresh call.clientId call.hour = none) :
    (w.lookup call call.hour).1 = w.config.prescribed call := by
  cases hclient : w.config.clients[call.clientId]? with
  | none => rw [lookup_missed h hclient]
  | some tierId => rw [lookup_fetched ⟨h, by rw [hclient]; rfl⟩]

theorem step_fetched (h : w.Fetches call) : ((w.step (.checkQuota call)).caches call.isolate)[call.clientId]? =
    some ⟨w.config.limitsOf call.clientId, call.hour⟩ := by
  simp only [QuotaWorld.step]
  rw [Function.update_self, lookup_fetched h, insert_get, if_pos rfl]

theorem step_entry (w : QuotaWorld) (s : QuotaStep) (isolate : Nat) (clientId : String) :
    ((w.step s).caches isolate)[clientId]? = (w.caches isolate)[clientId]? ∨
      ∃ call, s = .checkQuota call ∧ call.isolate = isolate ∧ call.clientId = clientId ∧ w.Fetches call ∧
        ((w.step s).caches isolate)[clientId]? = some ⟨w.config.limitsOf clientId, call.hour⟩ := by
  cases s with
  | setClient now clientId tierId => exact .inl rfl
  | setTier now tierId text => exact .inl rfl
  | checkQuota call =>
    simp only [QuotaWorld.step]
    by_cases hi : call.isolate = isolate
    · subst hi
      rw [Function.update_self]
      cases hfresh : (w.caches call.isolate).fresh call.clientId call.hour with
      | some entry =>
        rw [lookup_cached hfresh]
        exact .inl rfl
      | none =>
        cases hclient : w.config.clients[call.clientId]? with
        | none =>
          rw [lookup_missed hfresh hclient]
          exact .inl rfl
        | some tierId =>
          have hfetch : w.Fetches call := ⟨hfresh, by rw [hclient]; rfl⟩
          by_cases hc : call.clientId = clientId
          · subst hc
            refine .inr ⟨call, rfl, rfl, rfl, hfetch, ?_⟩
            rw [lookup_fetched hfetch, insert_get, if_pos rfl]
          · rw [lookup_fetched hfetch]
            exact .inl (insert_get_of_ne _ hc _)
    · rw [Function.update_of_ne (Ne.symm hi)]
      exact .inl rfl

end

/-! ## Histories -/

section
variable {w₀ : QuotaWorld} {before : List QuotaStep} {call : QuotaCall}

theorem entry_fetched (hstart : ∀ isolate, w₀.caches isolate = ∅) {isolate : Nat} {clientId : String} {entry : TierCache} :
    ∀ before : List QuotaStep, ((exec QuotaWorld.step w₀ before).caches isolate)[clientId]? = some entry →
      ∃ past earlier rest, before = past ++ .checkQuota earlier :: rest ∧ earlier.isolate = isolate ∧
        earlier.clientId = clientId ∧ (exec QuotaWorld.step w₀ past).Fetches earlier ∧
        entry = ⟨(exec QuotaWorld.step w₀ past).config.limitsOf clientId, earlier.hour⟩ := by
  intro before
  induction before using List.reverseRecOn with
  | nil =>
    intro h
    rw [exec_nil, hstart] at h
    simp at h
  | append_singleton before s ih =>
    intro h
    rw [exec_append, exec_cons, exec_nil] at h
    rcases step_entry (exec QuotaWorld.step w₀ before) s isolate clientId with hsame | ⟨call, rfl, hi, hc, hfetch, hentry⟩
    · rw [hsame] at h
      obtain ⟨past, earlier, rest, rfl, hrest⟩ := ih h
      exact ⟨past, earlier, rest ++ [s], by simp, hrest⟩
    · rw [hentry] at h
      exact ⟨before, call, [], rfl, hi, hc, hfetch, (Option.some.inj h).symm⟩

theorem entry_kept {hour : Nat} {isolate : Nat} {clientId : String} {limits : Table String Nat} :
    ∀ (rest : List QuotaStep) (w : QuotaWorld), (w.caches isolate)[clientId]? = some ⟨limits, hour⟩ →
      (∀ s ∈ rest, ∀ call, s = .checkQuota call → call.hour = hour) →
      ((exec QuotaWorld.step w rest).caches isolate)[clientId]? = some ⟨limits, hour⟩
  | [], _, h, _ => h
  | s :: rest, w, h, hhour => by
    refine entry_kept rest (w.step s) ?_ fun s' hs' => hhour s' (List.mem_cons_of_mem s hs')
    rcases step_entry w s isolate clientId with hsame | ⟨call, rfl, rfl, rfl, ⟨hmiss, -⟩, -⟩
    · rw [hsame, h]
    · have hage := hhour _ (by simp) call rfl
      rw [TierCaches.fresh, h, hage] at hmiss
      simp at hmiss

theorem hour_mono {call call' : QuotaCall} (h : call.time ≤ call'.time) : call.hour ≤ call'.hour := by
  have := secs_mono h
  unfold QuotaCall.hour hourOf
  omega

theorem hour_eq_of_fresh {call call' : QuotaCall} (h : call.time ≤ call'.time) (hage : call'.hour - call.hour < 60) :
    call.hour = call'.hour := by
  have := hour_mono h
  unfold QuotaCall.hour hourOf at *
  omega

theorem past_le (htimely : Timely (before ++ [.checkQuota call])) {s : QuotaStep} (hs : s ∈ before) : s.time ≤ call.time :=
  (List.pairwise_append.mp htimely).2.2 s hs (.checkQuota call) (by simp)

theorem fetched_applied {past rest : List QuotaStep} {earlier : QuotaCall}
    (htimely : Timely (past ++ .checkQuota earlier :: rest ++ [.checkQuota call])) (hi : earlier.isolate = call.isolate)
    (hc : earlier.clientId = call.clientId) (hhour : earlier.hour = call.hour)
    (hfetch : (exec QuotaWorld.step w₀ past).Fetches earlier) :
    (((exec QuotaWorld.step w₀ (past ++ .checkQuota earlier :: rest)).caches call.isolate).fresh call.clientId call.hour) =
      some ⟨(exec QuotaWorld.step w₀ past).config.limitsOf call.clientId, call.hour⟩ := by
  have hentry : ((exec QuotaWorld.step w₀ (past ++ .checkQuota earlier :: rest)).caches call.isolate)[call.clientId]? =
      some ⟨(exec QuotaWorld.step w₀ past).config.limitsOf call.clientId, call.hour⟩ := by
    rw [exec_append, exec_cons, ← hhour]
    refine entry_kept rest _ (by rw [← hi, ← hc]; exact step_fetched hfetch) fun s hs c hcall => ?_
    subst hcall
    have hafter : earlier.time ≤ c.time := by
      have hbefore := (List.pairwise_append.mp (List.pairwise_append.mp htimely).1).2.1
      exact (List.pairwise_cons.mp hbefore).1 _ hs
    have hle := hour_mono hafter
    have hle' := hour_mono (past_le htimely (s := .checkQuota c) (by simp [hs]))
    omega
  rw [TierCaches.fresh, hentry]
  simp

theorem limit_in_force_iff (hstart : ∀ isolate, w₀.caches isolate = ∅) (htimely : Timely (before ++ [.checkQuota call])) :
    LimitInForce w₀ before call ↔ CacheFresh w₀ before call := by
  unfold LimitInForce
  rw [answer_limit]
  constructor
  · rintro ⟨config, hforce, hlimit⟩ past earlier rest rfl hi hc hhour hfetch
    refine .inr ⟨config, hforce, ?_⟩
    rw [← hlimit, lookup_cached (fetched_applied htimely hi hc hhour hfetch)]
    rfl
  · intro hcond
    cases hfresh : ((exec QuotaWorld.step w₀ before).caches call.isolate).fresh call.clientId call.hour with
    | none => exact ⟨_, ⟨before, [], (List.append_nil _).symm, rfl, by simp⟩, lookup_uncached hfresh⟩
    | some entry =>
      rw [lookup_cached hfresh]
      obtain ⟨hentry, hage⟩ := Option.filter_eq_some_iff.mp hfresh
      obtain ⟨past, earlier, rest, rfl, hi, hc, hfetch, rfl⟩ := entry_fetched hstart before hentry
      have hhour : earlier.hour = call.hour :=
        hour_eq_of_fresh (past_le htimely (s := .checkQuota earlier) (by simp)) (by simpa using hage)
      rcases hcond past earlier rest rfl hi hc hhour hfetch with hyoung | ⟨config, hforce, hsame⟩
      · exact ⟨_, ⟨past, .checkQuota earlier :: rest, rfl, rfl, fun s hs => by cases hs; exact hyoung⟩, rfl⟩
      · exact ⟨config, hforce, hsame.symm⟩

end

/-- In a run of calls and changes, all limits that are applied were in force in the last minute exactly where no call
is served from an older entry whose limit is no longer prescribed. -/
theorem customer_limits_fresh_iff (limits : LimitsWorld) (config : TierConfig) (run : List QuotaStep) (h : Timely run) :
    (∀ before call after, run = before ++ .checkQuota call :: after →
      LimitInForce (QuotaWorld.start limits config) before call) ↔
    ∀ before call after, run = before ++ .checkQuota call :: after →
      CacheFresh (QuotaWorld.start limits config) before call := by
  refine forall_congr' fun before => forall_congr' fun call => forall_congr' fun after => forall_congr' fun hrun => ?_
  refine limit_in_force_iff (fun _ => rfl) ?_
  subst hrun
  rw [List.append_cons] at h
  exact (List.pairwise_append.mp h).1

/-! ## A tier that changes -/

def tierText (limit : Int) : Cell Json := .record (.obj [("limits", .obj [("attestation", .num limit)])])

def quotaCallAt (ms : UInt64) : QuotaCall := ⟨0, fun _ => .at ms, "acme", "attestation", 50⟩

def freshLimits : LimitsWorld := ⟨fun _ => .empty, ∅⟩

def acmeTier : TierConfig := ⟨(∅ : Table String String).insert "acme" "pro", (∅ : Table String (Cell Json)).insert "pro" (tierText 1000)⟩

/-- A call of the last second of an hour and one of the next minute, between them a change. -/
def hourlyRun : List QuotaStep :=
  [.checkQuota (quotaCallAt 3599000), .setTier 3599500 "pro" (some (tierText 5)), .checkQuota (quotaCallAt 3660000)]

theorem hourlyRun_calls {past rest after : List QuotaStep} {earlier call : QuotaCall}
    (h : hourlyRun = past ++ .checkQuota earlier :: rest ++ .checkQuota call :: after) :
    earlier = quotaCallAt 3599000 ∧ call = quotaCallAt 3660000 := by
  unfold hourlyRun at h
  rcases past with _ | ⟨s, _ | ⟨s', past⟩⟩
  · rcases rest with _ | ⟨s, _ | ⟨s', rest⟩⟩
    · simp at h
    · simp at h
      exact ⟨h.1.symm, h.2.2.1.symm⟩
    · simp at h
  · simp at h
  · rcases past with _ | ⟨s'', past⟩
    · simp at h
    · simp at h

theorem hourly_run_fresh : LimitInForce (QuotaWorld.start freshLimits acmeTier)
    [.checkQuota (quotaCallAt 3599000), .setTier 3599500 "pro" (some (tierText 5))] (quotaCallAt 3660000) := by
  refine (customer_limits_fresh_iff freshLimits acmeTier hourlyRun ?_).mpr ?_ _ _ [] rfl
  · unfold Timely hourlyRun
    decide +kernel
  · intro before call after hrun past earlier rest hbefore _ _ hhour _
    subst hbefore
    -- the two calls are of different hours
    obtain ⟨rfl, rfl⟩ := hourlyRun_calls hrun
    exact absurd hhour (by decide +kernel)

def loweredTier : List QuotaStep :=
  [.checkQuota (quotaCallAt 3600000), .setTier 3601000 "pro" (some (tierText 5))]

/-- The tier is lowered to 5 a second after the first call of the hour, and 69 seconds later 1000 still apply. -/
theorem lowered_tier_still_cached : Timely (loweredTier ++ [.checkQuota (quotaCallAt 3670000)]) ∧
    ((exec QuotaWorld.step (QuotaWorld.start freshLimits acmeTier) loweredTier).answer (quotaCallAt 3670000)).1.limit = 1000 ∧
    ¬LimitInForce (QuotaWorld.start freshLimits acmeTier) loweredTier (quotaCallAt 3670000) := by
  have hanswer : ((exec QuotaWorld.step (QuotaWorld.start freshLimits acmeTier) loweredTier).answer
      (quotaCallAt 3670000)).1.limit = 1000 := by
    rw [answer_limit]
    decide +kernel
  have htimely : Timely (loweredTier ++ [.checkQuota (quotaCallAt 3670000)]) := by
    unfold Timely loweredTier
    decide +kernel
  refine ⟨htimely, hanswer, ?_⟩
  rintro ⟨config, ⟨past, rest, hsplit, rfl, hlate⟩, hlimit⟩
  have hrest : rest = [] := by
    cases rest with
    | nil => rfl
    | cons s rest =>
      have hs : s ∈ loweredTier := by
        rw [hsplit]
        simp
      have ht := hlate s rfl
      simp only [loweredTier, List.mem_cons, List.not_mem_nil, or_false] at hs
      rcases hs with rfl | rfl
      · exact absurd ht (by decide +kernel)
      · exact absurd ht (by decide +kernel)
  rw [hrest, List.append_nil] at hsplit
  rw [← hsplit, hanswer] at hlimit
  exact absurd hlimit (by decide +kernel)

end Issuer
