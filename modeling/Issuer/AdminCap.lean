import Issuer.AdminAuthSound
import Issuer.Lib.Budget

/-!
# The hourly cap of the internal endpoints

`admin_rate_limit_check` counts per role tag and source address. What passes it in an hour adds up over the role
tags, and the fixture class in the path makes a role tag of its own.
-/

namespace Issuer

open Rust Store Runs

/-! ## Requests -/

inductive InternalEndpoint where
  | replayPreRotationToken
  | testFixturesManifest
  | deleteTestFixtures (fixtureClass : String)
deriving DecidableEq, Repr

def InternalEndpoint.roleTag : InternalEndpoint → String
  | .replayPreRotationToken => "admin-replay-token"
  | .testFixturesManifest => "admin-fixture-manifest"
  | .deleteTestFixtures fixtureClass => fixtureRoleTag fixtureClass

/-- A request to an endpoint: its lock token, its headers and what its operations meet. -/
structure InternalRequest where
  endpoint : InternalEndpoint
  token : String
  headers : Admin.EndpointHeaders
  ticks : Nat → AdminTick

def InternalRequest.roleTag (r : InternalRequest) : String := r.endpoint.roleTag

/-- No operation of the request fails, and all happen in one clock hour. -/
def InternalRequest.InHour (hour : Nat) (r : InternalRequest) : Prop :=
  ∀ n, (r.ticks n).kvFails = false ∧ hourOf (r.ticks n).now = hour

section
variable (verifyApiKey : String → String → Bool) (sha256 : String → List UInt8) (clientIp ipHash : String)

/-- The wrapper of the request. What the endpoints do behind it is done in other namespaces. -/
def InternalRequest.serve (w : AdminWorld) (r : InternalRequest) : Admin.Admission × AdminWorld :=
  (Admin.wrapAdminHandler r.token clientIp ipHash r.roleTag r.headers).play (AdminWorld.handle verifyApiKey sha256) r.ticks w

def serveInternal (w : AdminWorld) (r : InternalRequest) : AdminWorld := (r.serve verifyApiKey sha256 clientIp ipHash w).2

def Admin.Admission.passed : Admin.Admission → Bool
  | .rateLimited _ => false
  | .denied _ | .admitted => true

def reachesAuth (w : AdminWorld) (r : InternalRequest) : Bool := (r.serve verifyApiKey sha256 clientIp ipHash w).1.passed

end

/-! ## Counters -/

def adminUsed (ipHash : String) (hour : Nat) (w : AdminWorld) (roleTag : String) : Nat :=
  (w.limits.kv[adminRlKey roleTag ipHash hour]?.bind fun entry => parseU32 entry.value).getD 0

def CountersLast (ipHash : String) (hour : Nat) (w : AdminWorld) : Prop :=
  ∀ roleTag entry, w.limits.kv[adminRlKey roleTag ipHash hour]? = some entry → ∀ x, entry.expires = some x → hour + 3600 ≤ x

theorem adminRlKey_injective {ipHash a b : String} {hour : Nat} (h : adminRlKey a ipHash hour = adminRlKey b ipHash hour) :
    a = b := by
  unfold adminRlKey at h
  simpa using h

theorem hourOf_bounds {now : UInt64} {hour : Nat} (h : hourOf now = hour) : hour ≤ secs now ∧ secs now < hour + 3600 := by
  unfold hourOf at h
  omega

theorem used_read {ipHash roleTag : String} {hour : Nat} {w : AdminWorld} {now : UInt64} (hlast : CountersLast ipHash hour w)
    (hnow : hourOf now = hour) :
    ((Store.get w.limits.kv (secs now) (adminRlKey roleTag ipHash hour)).bind parseU32).getD 0 =
      adminUsed ipHash hour w roleTag := by
  obtain ⟨-, hlt⟩ := hourOf_bounds hnow
  unfold Store.get adminUsed
  cases hentry : w.limits.kv[adminRlKey roleTag ipHash hour]? with
  | none => rfl
  | some entry =>
    have hlive : entry.live (secs now) = true := by
      unfold Entry.live
      cases hexp : entry.expires with
      | none => rfl
      | some x =>
        have := hlast roleTag entry hentry x hexp
        simp only [decide_eq_true_eq]
        omega
    simp [hlive]

/-! ## Authentication leaves the counters alone -/

theorem books_leaves {actorType actorId roleTag ipHash : String} {hour : Nat} {o : LimitsOp} (h : o.Books actorType actorId) :
    o.Leaves (adminRlKey roleTag ipHash hour) := by
  have hne : ∀ k, k = lockoutKey actorType actorId ∨ k = lockedKey actorType actorId → k ≠ adminRlKey roleTag ipHash hour := by
    rintro k (rfl | rfl)
    · unfold lockoutKey adminRlKey
      simp only [String.append_assoc]
      exact append_ne_append (by decide)
    · unfold lockedKey adminRlKey
      simp only [String.append_assoc]
      exact append_ne_append (by decide)
  cases o with
  | kvPut ttl k v => exact hne k h
  | kvDelete k => exact hne k h
  | now | kvGet | acquire | release => trivial

def AdminOp.LeavesCounters (ipHash : String) (hour : Nat) : AdminOp → Prop
  | .limits o => ∀ roleTag, o.Leaves (adminRlKey roleTag ipHash hour)
  | .verifyAdminApiKey _ | .secret _ | .verifyInternalTokenSlots _ _ _ | .consumeNonce _ => True

theorem authenticate_leaves (token clientIp : String) (headers : Admin.EndpointHeaders) (ipHash : String) (hour : Nat) :
    (Admin.authenticateAdminEndpoint token clientIp headers).Safe (AdminOp.LeavesCounters ipHash hour) (fun _ _ => True)
      fun _ => True := by
  have hpast : ∀ o, AdminOp.PastFlag clientIp o → AdminOp.LeavesCounters ipHash hour o := by
    intro o ho
    cases o with
    | limits o => exact fun _ => books_leaves ho
    | verifyAdminApiKey | secret | verifyInternalTokenSlots | consumeNonce => trivial
  have hbody : ∀ r, (Admin.behindFlag (Admin.verifyToken token clientIp headers) r).Safe (AdminOp.LeavesCounters ipHash hour)
      (fun _ _ => True) fun _ => True := by
    intro r
    rcases r with err | _ | _
    · exact trivial
    · exact Prog.safe_mono hpast (fun _ _ => trivial) _ (Admin.verifyToken_pastFlag token clientIp headers)
    · exact trivial
  rw [Admin.authenticateAdminEndpoint_eq]
  cases hvalid : validateActor "admin" clientIp with
  | error err =>
    rw [isLockedOut_invalid hvalid]
    exact hbody _
  | ok u =>
    rw [isLockedOut_bind hvalid]
    exact ⟨fun _ => trivial, fun data _ => hbody _⟩

/-! ## One request -/

def Admin.behindCap (token clientIp : String) (headers : Admin.EndpointHeaders) : Except Nat Unit → Admin Admin.Admission
  | .error retryAfter => pure (.rateLimited retryAfter)
  | .ok () => do
    match ← Admin.authenticateAdminEndpoint token clientIp headers with
    | .error e => pure (.denied e)
    | .ok () => pure .admitted

theorem wrapAdminHandler_eq (token clientIp ipHash roleTag : String) (headers : Admin.EndpointHeaders) :
    Admin.wrapAdminHandler token clientIp ipHash roleTag headers =
      (Admin.limits (adminRateLimitCheck ipHash roleTag) >>= Admin.behindCap token clientIp headers) := by
  unfold Admin.wrapAdminHandler
  refine congrArg _ (funext fun r => ?_)
  rcases r with retryAfter | ⟨⟩ <;> rfl

def AdminWorld.counted (ipHash roleTag : String) (hour : Nat) (now : UInt64) (w : AdminWorld) : AdminWorld :=
  ⟨⟨w.limits.locks, Store.put w.limits.kv (secs now) (some 7200) (adminRlKey roleTag ipHash hour)
    (toString (adminUsed ipHash hour w roleTag + 1))⟩, w.nonces⟩

section
variable {verifyApiKey : String → String → Bool} {sha256 : String → List UInt8} {clientIp ipHash roleTag : String} {hour : Nat}
  {w : AdminWorld} {e : Nat → AdminTick}

theorem rateCheck_play {α : Type} (he : ∀ n, (e n).kvFails = false ∧ hourOf (e n).now = hour) (hlast : CountersLast ipHash hour w)
    (f : Except Nat Unit → Admin α) :
    (adminRlLimitPerHour ≤ adminUsed ipHash hour w roleTag → ∃ retryAfter m,
      (Admin.limits (adminRateLimitCheck ipHash roleTag) >>= f).play (AdminWorld.handle verifyApiKey sha256) e w =
        (f (.error retryAfter)).play (AdminWorld.handle verifyApiKey sha256) (fun n => e (n + m)) w) ∧
    (adminUsed ipHash hour w roleTag < adminRlLimitPerHour → ∃ m,
      (Admin.limits (adminRateLimitCheck ipHash roleTag) >>= f).play (AdminWorld.handle verifyApiKey sha256) e w =
        (f (.ok ())).play (AdminWorld.handle verifyApiKey sha256) (fun n => e (n + m))
          (w.counted ipHash roleTag hour (e 2).now)) := by
  have hhour := (he 0).2
  subst hhour
  have hread := @used_read ipHash roleTag _ w _ hlast (he 1).2
  have hget : kvGet (e 1).kvFails w.limits.kv (e 1).now (adminRlKey roleTag ipHash (hourOf (e 0).now)) =
      .ok (Store.get w.limits.kv (secs (e 1).now) (adminRlKey roleTag ipHash (hourOf (e 0).now))) := by
    simp only [kvGet, (he 1).1, Bool.false_eq_true, if_false]
  simp only [adminRateLimitCheck, Limits.now, Limits.kvGet, Limits.kvPut, Prog.op_bind, Admin.limits, Prog.lift, Prog.ask_bind,
    Prog.play_ask, AdminWorld.handle, LimitsWorld.handle, Nat.zero_add, hget, ge_iff_le, hread]
  constructor
  · intro hfull
    simp only [if_pos hfull, Prog.pure_eq, Prog.lift, Prog.ret_bind]
    exact ⟨_, 2, rfl⟩
  · intro hroom
    have hput : kvPut (e 2).kvFails w.limits.kv (e 2).now (some 7200) (adminRlKey roleTag ipHash (hourOf (e 0).now))
        (toString (satAddU32 (adminUsed ipHash (hourOf (e 0).now) w roleTag) 1)) =
          .ok (w.counted ipHash roleTag (hourOf (e 0).now) (e 2).now).limits.kv := by
      have hsat : satAddU32 (adminUsed ipHash (hourOf (e 0).now) w roleTag) 1 =
          adminUsed ipHash (hourOf (e 0).now) w roleTag + 1 := by
        unfold satAddU32 u32Max
        unfold adminRlLimitPerHour at hroom
        omega
      simp [kvPut, (he 2).1, hsat, kvMinTtl, AdminWorld.counted]
    simp only [if_neg (not_le.mpr hroom), Prog.lift, Prog.ask_bind, Prog.play_ask, AdminWorld.handle, LimitsWorld.handle,
      Prog.pure_eq, Prog.ret_bind, Nat.zero_add, Nat.reduceAdd, hread, hput]
    exact ⟨3, rfl⟩

theorem counted_entry (w : AdminWorld) (now : UInt64) (tag : String) :
    (w.counted ipHash roleTag hour now).limits.kv[adminRlKey tag ipHash hour]? =
      if tag = roleTag then some ⟨toString (adminUsed ipHash hour w roleTag + 1), some (secs now + 7200)⟩
      else w.limits.kv[adminRlKey tag ipHash hour]? := by
  simp only [AdminWorld.counted, Store.put, insert_get, Option.map_some]
  by_cases htag : tag = roleTag
  · subst htag
    simp
  · have hkey : adminRlKey roleTag ipHash hour ≠ adminRlKey tag ipHash hour := fun h => htag (adminRlKey_injective h).symm
    simp [htag, hkey]

theorem behindCap_play (token : String) (headers : Admin.EndpointHeaders) (w : AdminWorld) (e : Nat → AdminTick) :
    let r := (Admin.behindCap token clientIp headers (.ok ())).play (AdminWorld.handle verifyApiKey sha256) e w
    r.1.passed = true ∧
      ∀ tag, r.2.limits.kv[adminRlKey tag ipHash hour]? = w.limits.kv[adminRlKey tag ipHash hour]? := by
  refine Prog.safe_play (P := AdminOp.LeavesCounters ipHash hour) (Q := fun a => Admin.Admission.passed a = true)
    (R := fun w' => ∀ tag, w'.limits.kv[adminRlKey tag ipHash hour]? = w.limits.kv[adminRlKey tag ipHash hour]?)
    (AdminWorld.handle verifyApiKey sha256) ?_ _ e w ?_ fun _ => rfl
  · intro w' t o ho hw' tag
    cases o with
    | limits o => exact (handle_leaves (ho tag)).trans (hw' tag)
    | verifyAdminApiKey | secret | verifyInternalTokenSlots | consumeNonce => exact hw' tag
  · refine Prog.safe_bind (Q := fun _ => True) _ (authenticate_leaves token clientIp headers ipHash hour) fun r _ => ?_
    rcases r with err | ⟨⟩
    · exact rfl
    · exact rfl

theorem serve_full {r : InternalRequest} (hr : r.InHour hour) (hlast : CountersLast ipHash hour w)
    (hfull : adminRlLimitPerHour ≤ adminUsed ipHash hour w r.roleTag) :
    serveInternal verifyApiKey sha256 clientIp ipHash w r = w ∧ reachesAuth verifyApiKey sha256 clientIp ipHash w r = false := by
  obtain ⟨retryAfter, m, hplay⟩ := (@rateCheck_play verifyApiKey sha256 ipHash r.roleTag hour w r.ticks _ hr hlast
    (Admin.behindCap r.token clientIp r.headers)).1 hfull
  rw [← wrapAdminHandler_eq] at hplay
  have hserve : r.serve verifyApiKey sha256 clientIp ipHash w = (.rateLimited retryAfter, w) := hplay
  unfold serveInternal reachesAuth
  rw [hserve]
  exact ⟨rfl, rfl⟩

theorem serve_room {r : InternalRequest} (hr : r.InHour hour) (hlast : CountersLast ipHash hour w)
    (hroom : adminUsed ipHash hour w r.roleTag < adminRlLimitPerHour) :
    reachesAuth verifyApiKey sha256 clientIp ipHash w r = true ∧
      ∀ tag, (serveInternal verifyApiKey sha256 clientIp ipHash w r).limits.kv[adminRlKey tag ipHash hour]? =
        if tag = r.roleTag then some ⟨toString (adminUsed ipHash hour w r.roleTag + 1), some (secs (r.ticks 2).now + 7200)⟩
        else w.limits.kv[adminRlKey tag ipHash hour]? := by
  obtain ⟨m, hplay⟩ := (@rateCheck_play verifyApiKey sha256 ipHash r.roleTag hour w r.ticks _ hr hlast
    (Admin.behindCap r.token clientIp r.headers)).2 hroom
  obtain ⟨hpassed, hkept⟩ := @behindCap_play verifyApiKey sha256 clientIp ipHash hour r.token r.headers
    (w.counted ipHash r.roleTag hour (r.ticks 2).now) fun n => r.ticks (n + m)
  rw [← hplay, ← wrapAdminHandler_eq] at hpassed hkept
  exact ⟨hpassed, fun tag => (hkept tag).trans (counted_entry w _ tag)⟩

/-- **Step lemma.** A request is let through exactly while its role tag has been used less than ten times, and is
counted under its role tag then. -/
theorem serve_step {r : InternalRequest} (hr : r.InHour hour) (hlast : CountersLast ipHash hour w) :
    CountersLast ipHash hour (serveInternal verifyApiKey sha256 clientIp ipHash w r) ∧
      reachesAuth verifyApiKey sha256 clientIp ipHash w r = decide (adminUsed ipHash hour w r.roleTag < adminRlLimitPerHour) ∧
      (∀ tag, tag ≠ r.roleTag →
        adminUsed ipHash hour (serveInternal verifyApiKey sha256 clientIp ipHash w r) tag = adminUsed ipHash hour w tag) ∧
      adminUsed ipHash hour (serveInternal verifyApiKey sha256 clientIp ipHash w r) r.roleTag =
        if adminUsed ipHash hour w r.roleTag < adminRlLimitPerHour then adminUsed ipHash hour w r.roleTag + 1
        else adminUsed ipHash hour w r.roleTag := by
  by_cases hused : adminUsed ipHash hour w r.roleTag < adminRlLimitPerHour
  · obtain ⟨hpassed, hentry⟩ := @serve_room verifyApiKey sha256 clientIp ipHash hour w r hr hlast hused
    refine ⟨?last, ?passed, ?others, ?own⟩
    case last =>
      intro tag entry hstored x hx
      rw [hentry] at hstored
      by_cases htag : tag = r.roleTag
      · rw [if_pos htag] at hstored
        cases hstored
        cases hx
        have := (hourOf_bounds (hr 2).2).1
        omega
      · rw [if_neg htag] at hstored
        exact hlast tag entry hstored x hx
    case passed =>
      rw [decide_eq_true hused]
      exact hpassed
    case others =>
      intro tag htag
      unfold adminUsed
      rw [hentry, if_neg htag]
    case own =>
      have hle : adminUsed ipHash hour w r.roleTag + 1 ≤ u32Max := by
        unfold u32Max
        unfold adminRlLimitPerHour at hused
        omega
      rw [if_pos hused, adminUsed, hentry, if_pos rfl]
      simp only [Option.bind_some, parseU32_toString hle, Option.getD_some]
  · obtain ⟨hsame, hrefused⟩ := @serve_full verifyApiKey sha256 clientIp ipHash hour w r hr hlast (not_lt.mp hused)
    rw [hsame, if_neg hused, decide_eq_false hused]
    exact ⟨hlast, hrefused, fun _ _ => rfl, rfl⟩

/-! ## A run -/

theorem passed_eq_granted (tags : Finset String) {requests : List InternalRequest} (hlast : CountersLast ipHash hour w)
    (hrun : ∀ r ∈ requests, r.InHour hour ∧ r.roleTag ∈ tags) :
    hits (serveInternal verifyApiKey sha256 clientIp ipHash) (reachesAuth verifyApiKey sha256 clientIp ipHash) w requests =
      granted InternalRequest.roleTag adminRlLimitPerHour (adminUsed ipHash hour w) tags requests :=
  @hits_eq_granted _ _ _ _ (serveInternal verifyApiKey sha256 clientIp ipHash) (reachesAuth verifyApiKey sha256 clientIp ipHash)
    InternalRequest.roleTag adminRlLimitPerHour (adminUsed ipHash hour) (CountersLast ipHash hour) (InternalRequest.InHour hour)
    tags (fun _ _ hs hr => serve_step hr hs) requests w hlast hrun

theorem mem_roleTags {requests : List InternalRequest} (hrun : ∀ r ∈ requests, r.InHour hour) :
    ∀ r ∈ requests, r.InHour hour ∧ r.roleTag ∈ (requests.map InternalRequest.roleTag).toFinset := by
  intro r hr
  refine ⟨hrun r hr, ?_⟩
  rw [List.mem_toFinset]
  exact List.mem_map_of_mem hr

/-- **The hourly cap.** At most ten requests of a run get past it exactly when what the role tags grant adds up
to at most ten. -/
theorem admin_cap_holds_iff {requests : List InternalRequest} (hlast : CountersLast ipHash hour w)
    (hrun : ∀ r ∈ requests, r.InHour hour) :
    hits (serveInternal verifyApiKey sha256 clientIp ipHash) (reachesAuth verifyApiKey sha256 clientIp ipHash) w requests ≤
        adminRlLimitPerHour ↔
      granted InternalRequest.roleTag adminRlLimitPerHour (adminUsed ipHash hour w)
        (requests.map InternalRequest.roleTag).toFinset requests ≤ adminRlLimitPerHour := by
  rw [passed_eq_granted _ hlast (mem_roleTags hrun)]

/-- One endpoint with one fixture class keeps the cap. -/
theorem admin_cap_one_tag {requests : List InternalRequest} {roleTag : String} (hlast : CountersLast ipHash hour w)
    (hrun : ∀ r ∈ requests, r.InHour hour) (htag : ∀ r ∈ requests, r.roleTag = roleTag) :
    hits (serveInternal verifyApiKey sha256 clientIp ipHash) (reachesAuth verifyApiKey sha256 clientIp ipHash) w requests ≤
      adminRlLimitPerHour := by
  have hone : ∀ r ∈ requests, r.InHour hour ∧ r.roleTag ∈ ({roleTag} : Finset String) := by
    intro r hr
    exact ⟨hrun r hr, Finset.mem_singleton.mpr (htag r hr)⟩
  rw [passed_eq_granted {roleTag} hlast hone]
  exact le_trans (granted_singleton _ _ _) (Nat.sub_le _ _)

end

/-! ## Eleven classes -/

def calmTick (_ : Nat) : AdminTick :=
  { Tick.at 7200000 with
    adminHash := fun _ => none
    secret := fun _ => .error ()
    purgeFaults := .none
    nonceReadings := .at 7200000 }

def classRequest (fixtureClass : String) : InternalRequest := ⟨.deleteTestFixtures fixtureClass, "t", ⟨none, none⟩, calmTick⟩

def calmWorld : AdminWorld := ⟨⟨fun _ => .empty, {}⟩, fun _ => .empty⟩

def calmServe : AdminWorld → InternalRequest → AdminWorld := serveInternal (fun _ _ => false) (fun _ => []) "192.0.2.1" "ab"

def calmReaches : AdminWorld → InternalRequest → Bool := reachesAuth (fun _ _ => false) (fun _ => []) "192.0.2.1" "ab"

theorem classRequest_inHour (fixtureClass : String) : (classRequest fixtureClass).InHour 7200 := by
  intro n
  exact ⟨rfl, by show hourOf 7200000 = 7200; decide⟩

theorem calmWorld_last : CountersLast "ab" 7200 calmWorld := by
  intro roleTag entry hentry
  simp [calmWorld] at hentry

theorem two_classes_capped :
    hits calmServe calmReaches calmWorld [classRequest "a", classRequest "b", classRequest "a"] ≤ adminRlLimitPerHour := by
  refine (admin_cap_holds_iff calmWorld_last ?_).mpr (by decide +kernel)
  intro r hr
  simp only [List.mem_cons, List.not_mem_nil, or_false] at hr
  rcases hr with rfl | rfl | rfl <;> exact classRequest_inHour _

/-- Eleven requests without a credential, each for a class of its own, all get to the authentication. -/
theorem eleven_classes_pass :
    ¬hits calmServe calmReaches calmWorld
      (["a", "b", "c", "d", "e", "f", "g", "h", "i", "j", "k"].map classRequest) ≤ adminRlLimitPerHour := by
  have hrun : ∀ r ∈ ["a", "b", "c", "d", "e", "f", "g", "h", "i", "j", "k"].map classRequest, r.InHour 7200 := by
    intro r hr
    obtain ⟨fixtureClass, -, rfl⟩ := List.mem_map.mp hr
    exact classRequest_inHour fixtureClass
  rw [calmServe, calmReaches, passed_eq_granted _ calmWorld_last (mem_roleTags hrun)]
  decide +kernel

end Issuer
