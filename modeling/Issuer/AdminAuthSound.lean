import Issuer.AdminAuth
import Issuer.AuthfailIp
import Issuer.LockoutRuns

/-!
# What an admin call does when the lock flag cannot be read

Both callers of `is_locked_out` reject on an error, and `is_locked_out` answers a failing read with `false`: the call
goes on as for an address that is not locked.
-/

namespace Issuer

open Rust Store

/-! ## Past the flag -/

theorem recordAdminAuthFailure_books (token clientIp : String) :
    Books "admin" clientIp (Admin.recordAdminAuthFailure token clientIp) := by
  refine Prog.safe_bind _ recordAuthFailure_books fun r _ => ?_
  cases r with
  | error e => exact trivial
  | ok count =>
    by_cases h : count ≥ maxAdminFailedAttempts
    · simp only [if_pos h]
      exact Prog.safe_bind _ lockAccount_books fun _ _ => trivial
    · simp only [if_neg h]
      exact trivial

def AdminOp.verifies : AdminOp → Bool
  | .verifyAdminApiKey _ | .verifyInternalTokenSlots _ _ _ => true
  | .limits _ | .secret _ | .consumeNonce _ => false

def AdminOp.PastFlag (clientIp : String) : AdminOp → Prop
  | .limits o => o.Books "admin" clientIp
  | .verifyAdminApiKey _ | .secret _ | .verifyInternalTokenSlots _ _ _ | .consumeNonce _ => True

section
variable {clientIp : String} {α β : Type}

theorem books_pastFlag {p : Limits α} {f : α → Admin β} (hp : Books "admin" clientIp p)
    (hf : ∀ a, (f a).Safe (AdminOp.PastFlag clientIp) (fun _ _ => True) fun _ => True) :
    (Admin.limits p >>= f).Safe (AdminOp.PastFlag clientIp) (fun _ _ => True) fun _ => True := by
  refine Prog.safe_bind (Q := fun _ => True) _ ?_ fun a _ => hf a
  refine Prog.safe_lift ?_ ?_ p hp
  · exact fun _ h => h
  · exact fun _ _ _ => trivial

end

namespace Admin

def verifyKey (token adminApiKey clientIp : String) : Admin (Except ApiError AdminKeySlot) := do
  match ← Prog.op (AdminOp.verifyAdminApiKey adminApiKey) with
  | none =>
    let e ← Admin.limits (rejectAdmin token clientIp)
    pure (.error e)
  | some slot =>
    let _ ← Admin.limits (clearAuthFailures "admin" clientIp)
    pure (.ok slot)

def verifyToken (token clientIp : String) (headers : EndpointHeaders) : Admin (Except ApiError Unit) := do
  match resolveInternalCredential headers.authorization with
  | none =>
    let () ← Admin.limits (recordAdminAuthFailure token clientIp)
    pure (.error (.unauthorized "Missing Authorization header"))
  | some provided =>
    match boundSecret (← Prog.op (AdminOp.secret serviceToken)) with
    | none => pure (.error (.serviceUnavailable "Internal version endpoint not configured"))
    | some expectedCurrent =>
      let expectedPrevious := boundSecret (← Prog.op (AdminOp.secret serviceTokenPrevious))
      if ← Prog.op (AdminOp.verifyInternalTokenSlots provided expectedCurrent expectedPrevious) then
        admitOnce token clientIp headers
      else do
        let () ← Admin.limits (recordAdminAuthFailure token clientIp)
        pure (.error (.unauthorized "Invalid service token"))

def behindFlag {α : Type} (body : Admin (Except ApiError α)) : Except ApiError Bool → Admin (Except ApiError α)
  | .ok true => pure (.error (.forbidden "Unauthorised"))
  | .error _ => pure (.error (.serviceUnavailable "Authentication infrastructure unavailable"))
  | .ok false => body

theorem authenticateAdmin_eq (token adminApiKey clientIp : String) : authenticateAdmin token adminApiKey clientIp =
    (Admin.limits (isLockedOut "admin" clientIp) >>= behindFlag (verifyKey token adminApiKey clientIp)) := by
  unfold authenticateAdmin
  refine congrArg _ (funext fun r => ?_)
  rcases r with e | _ | _ <;> rfl

theorem authenticateAdminEndpoint_eq (token clientIp : String) (headers : EndpointHeaders) :
    authenticateAdminEndpoint token clientIp headers =
      (Admin.limits (isLockedOut "admin" clientIp) >>= behindFlag (verifyToken token clientIp headers)) := by
  unfold authenticateAdminEndpoint
  refine congrArg _ (funext fun r => ?_)
  rcases r with e | _ | _ <;> rfl

theorem verifyKey_pastFlag (token adminApiKey clientIp : String) :
    (verifyKey token adminApiKey clientIp).Safe (AdminOp.PastFlag clientIp) (fun _ _ => True) fun _ => True := by
  refine Prog.safe_op trivial fun slot _ => ?_
  cases slot with
  | none => exact books_pastFlag (rejectAdmin_books token clientIp) fun _ => trivial
  | some slot => exact books_pastFlag clearAuthFailures_books fun _ => trivial

theorem admitOnce_pastFlag (token clientIp : String) (headers : EndpointHeaders) :
    (admitOnce token clientIp headers).Safe (AdminOp.PastFlag clientIp) (fun _ _ => True) fun _ => True := by
  unfold admitOnce
  cases headers.nonce with
  | none => exact books_pastFlag (recordAdminAuthFailure_books token clientIp) fun _ => trivial
  | some nonce =>
    refine Prog.safe_op trivial fun fresh _ => ?_
    rcases fresh with e | _ | _
    · exact trivial
    · exact trivial
    · exact books_pastFlag clearAuthFailures_books fun _ => trivial

theorem verifyToken_pastFlag (token clientIp : String) (headers : EndpointHeaders) :
    (verifyToken token clientIp headers).Safe (AdminOp.PastFlag clientIp) (fun _ _ => True) fun _ => True := by
  unfold verifyToken
  cases resolveInternalCredential headers.authorization with
  | none => exact books_pastFlag (recordAdminAuthFailure_books token clientIp) fun _ => trivial
  | some provided =>
    refine Prog.safe_op trivial fun current _ => ?_
    cases boundSecret current with
    | none => exact trivial
    | some current =>
      refine Prog.safe_op trivial fun previous _ => Prog.safe_op trivial fun verified _ => ?_
      cases verified with
      | true => exact admitOnce_pastFlag token clientIp headers
      | false => exact books_pastFlag (recordAdminAuthFailure_books token clientIp) fun _ => trivial

end Admin

/-! ## The call on the rate-limit namespace alone -/

section
variable {verifyApiKey : String → String → Bool} {sha256 : String → List UInt8}

theorem limits_run {α : Type} (t : AdminTick) : ∀ (p : Limits α) (w : AdminWorld),
    (Admin.limits p).run (AdminWorld.handle verifyApiKey sha256) t w =
      ((p.run LimitsWorld.handle t.toTick w.limits).1, { w with limits := (p.run LimitsWorld.handle t.toTick w.limits).2 })
  | .ret _, _ => rfl
  | .ask o k, w => limits_run t (k (w.limits.handle t.toTick o).1) { w with limits := (w.limits.handle t.toTick o).2 }

/-- `authenticate_admin` is the call of the rate-limit namespace with what the verification answers. -/
theorem authenticateAdmin_run (token adminApiKey clientIp : String) (t : AdminTick) (w : AdminWorld) :
    let r := (Admin.authenticateAdmin token adminApiKey clientIp).run (AdminWorld.handle verifyApiKey sha256) t w
    let slot := (verifyAdminApiKey verifyApiKey t.adminHash adminApiKey).map AdminKeySlot.label
    let r' := (authenticateAdmin token clientIp slot).run LimitsWorld.handle t.toTick w.limits
    r.1.map AdminKeySlot.label = r'.1 ∧ r.2 = { w with limits := r'.2 } := by
  simp only [Admin.authenticateAdmin, authenticateAdmin, Prog.run_bind, limits_run]
  generalize (isLockedOut "admin" clientIp).run LimitsWorld.handle t.toTick w.limits = flag
  obtain ⟨answer, limits⟩ := flag
  rcases answer with err | _ | _
  · exact ⟨rfl, rfl⟩
  · simp only [Prog.op_bind, Prog.run_ask, AdminWorld.handle]
    cases verifyAdminApiKey verifyApiKey t.adminHash adminApiKey with
    | none =>
      simp only [Option.map_none, Prog.run_bind, limits_run]
      exact ⟨rfl, rfl⟩
    | some slot =>
      simp only [Option.map_some, Prog.run_bind, limits_run]
      exact ⟨rfl, rfl⟩
  · exact ⟨rfl, rfl⟩

end

/-! ## Failing closed -/

section
variable (verifyApiKey : String → String → Bool) (sha256 : String → List UInt8) {α : Type}

/-- The call rejects, and has verified nothing. -/
def Unverified (p : Admin (Except ApiError α)) (e : Nat → AdminTick) (w : AdminWorld) : Prop :=
  (∃ err, (p.play (AdminWorld.handle verifyApiKey sha256) e w).1 = .error err) ∧
    ∀ x ∈ p.history (AdminWorld.handle verifyApiKey sha256) e w, x.2.verifies = false

/-- A call from `clientIp` whose read of the lock flag fails rejects before it verifies anything, and a call from a
locked address rejects. -/
structure AdminFailClosed (clientIp : String) (p : Admin (Except ApiError α)) (e : Nat → AdminTick) (w : AdminWorld) : Prop where
  unread : ∀ t, (t, AdminOp.limits (.kvGet (lockedKey "admin" clientIp))) ∈
      p.history (AdminWorld.handle verifyApiKey sha256) e w → t.kvFails = true → Unverified verifyApiKey sha256 p e w
  locked : Store.get w.limits.kv (secs (e 0).now) (lockedKey "admin" clientIp) ≠ none →
    ∃ err, (p.play (AdminWorld.handle verifyApiKey sha256) e w).1 = .error err

variable {verifyApiKey sha256} {clientIp : String} {e : Nat → AdminTick} {w : AdminWorld}

def flagAnswer : Except Unit (Option String) → Except ApiError Bool
  | .ok data => .ok data.isSome
  | .error () => .ok false

theorem isLockedOut_bind (hvalid : validateActor "admin" clientIp = .ok ()) (f : Except ApiError Bool → Admin α) :
    (Admin.limits (isLockedOut "admin" clientIp) >>= f) =
      .ask (AdminOp.limits (.kvGet (lockedKey "admin" clientIp))) fun data => f (flagAnswer data) := by
  unfold isLockedOut
  rw [hvalid]
  refine congrArg (Prog.ask (AdminOp.limits (.kvGet (lockedKey "admin" clientIp)))) (funext fun data => ?_)
  rcases data with ⟨⟩ | data <;> rfl

theorem isLockedOut_invalid {err : ApiError} (hvalid : validateActor "admin" clientIp = .error err)
    (f : Except ApiError Bool → Admin α) : (Admin.limits (isLockedOut "admin" clientIp) >>= f) = f (.error err) := by
  unfold isLockedOut
  rw [hvalid]
  rfl

theorem lockedKey_ne_lockoutKey (actorType actorId : String) : lockedKey actorType actorId ≠ lockoutKey actorType actorId := by
  unfold lockedKey lockoutKey
  simp only [String.append_assoc]
  exact append_ne_append (by decide)

theorem pastFlag_ne {o : AdminOp} (h : o.PastFlag clientIp) : o ≠ .limits (.kvGet (lockedKey "admin" clientIp)) := by
  rintro rfl
  exact lockedKey_ne_lockoutKey "admin" clientIp h

section
variable {body : Admin (Except ApiError α)} (hbody : body.Safe (AdminOp.PastFlag clientIp) (fun _ _ => True) fun _ => True)
include hbody

theorem behindFlag_reads (r : Except ApiError Bool) (t : AdminTick) :
    (t, AdminOp.limits (.kvGet (lockedKey "admin" clientIp))) ∉
      (Admin.behindFlag body r).history (AdminWorld.handle verifyApiKey sha256) e w := by
  intro ht
  rcases r with err | _ | _
  · cases ht
  · exact pastFlag_ne (Prog.safe_history _ body _ _ hbody _ ht) rfl
  · cases ht

theorem failClosed_of_read (hvalid : validateActor "admin" clientIp = .ok ()) (hread : (e 0).kvFails = false) :
    AdminFailClosed verifyApiKey sha256 clientIp (Admin.limits (isLockedOut "admin" clientIp) >>= Admin.behindFlag body) e w := by
  have hanswer : (AdminWorld.handle verifyApiKey sha256 w (e 0) (.limits (.kvGet (lockedKey "admin" clientIp)))) =
      (.ok (Store.get w.limits.kv (secs (e 0).now) (lockedKey "admin" clientIp)), w) := by
    simp only [AdminWorld.handle, LimitsWorld.handle, kvGet, hread, Bool.false_eq_true, if_false]
  rw [isLockedOut_bind hvalid]
  refine ⟨fun t ht hft => ?_, fun hlocked => ?_⟩
  · rw [Prog.history_ask, hanswer] at ht
    rcases List.mem_cons.mp ht with heq | ht
    · cases heq
      rw [hread] at hft
      cases hft
    · exact absurd ht (behindFlag_reads hbody _ t)
  · obtain ⟨value, hvalue⟩ := Option.ne_none_iff_exists'.mp hlocked
    rw [Prog.play_ask, hanswer, hvalue]
    exact ⟨_, rfl⟩

omit hbody in
theorem failClosed_unread_iff (hvalid : validateActor "admin" clientIp = .ok ()) (hfail : (e 0).kvFails = true) :
    AdminFailClosed verifyApiKey sha256 clientIp (Admin.limits (isLockedOut "admin" clientIp) >>= Admin.behindFlag body) e w ↔
      Unverified verifyApiKey sha256 body (fun n => e (n + 1)) w := by
  have hanswer : (AdminWorld.handle verifyApiKey sha256 w (e 0) (.limits (.kvGet (lockedKey "admin" clientIp)))) =
      (.error (), w) := by
    simp only [AdminWorld.handle, LimitsWorld.handle, kvGet, hfail, if_true]
  rw [isLockedOut_bind hvalid]
  have hplay : ((Prog.ask (AdminOp.limits (.kvGet (lockedKey "admin" clientIp))) fun data =>
      Admin.behindFlag body (flagAnswer data)) : Admin (Except ApiError α)).play (AdminWorld.handle verifyApiKey sha256) e w =
        body.play (AdminWorld.handle verifyApiKey sha256) (fun n => e (n + 1)) w := by
    rw [Prog.play_ask, hanswer]
    rfl
  have hhistory : ((Prog.ask (AdminOp.limits (.kvGet (lockedKey "admin" clientIp))) fun data =>
      Admin.behindFlag body (flagAnswer data)) : Admin (Except ApiError α)).history (AdminWorld.handle verifyApiKey sha256) e w =
        (e 0, .limits (.kvGet (lockedKey "admin" clientIp))) ::
          body.history (AdminWorld.handle verifyApiKey sha256) (fun n => e (n + 1)) w := by
    rw [Prog.history_ask, hanswer]
    rfl
  constructor
  · intro hclosed
    obtain ⟨herr, hnone⟩ := hclosed.unread (e 0) (by rw [hhistory]; exact List.mem_cons_self) hfail
    rw [hplay] at herr
    rw [hhistory] at hnone
    exact ⟨herr, fun x hx => hnone x (List.mem_cons_of_mem _ hx)⟩
  · rintro ⟨herr, hnone⟩
    refine ⟨fun t _ _ => ⟨by rw [hplay]; exact herr, ?_⟩, fun _ => by rw [hplay]; exact herr⟩
    rw [hhistory]
    intro x hx
    rcases List.mem_cons.mp hx with rfl | hx
    · rfl
    · exact hnone x hx

/-- **Behind the flag.** Such a call fails closed exactly when it does not get to the flag, the flag is read, or what
comes behind the flag rejects without a verification anyway. -/
theorem behindFlag_fail_closed_iff :
    AdminFailClosed verifyApiKey sha256 clientIp (Admin.limits (isLockedOut "admin" clientIp) >>= Admin.behindFlag body) e w ↔
      validateActor "admin" clientIp ≠ .ok () ∨ (e 0).kvFails = false ∨
        Unverified verifyApiKey sha256 body (fun n => e (n + 1)) w := by
  cases hvalid : validateActor "admin" clientIp with
  | error err =>
    rw [isLockedOut_invalid hvalid]
    refine iff_of_true ⟨fun t ht => ?_, fun _ => ⟨_, rfl⟩⟩ (.inl (by simp))
    cases ht
  | ok u =>
    cases hfail : (e 0).kvFails with
    | false => exact iff_of_true (failClosed_of_read hbody hvalid hfail) (.inr (.inl rfl))
    | true => simpa using failClosed_unread_iff hvalid hfail

end

/-! ## Behind the flag -/

theorem verifyKey_not_unverified (token adminApiKey : String) :
    ¬Unverified verifyApiKey sha256 (Admin.verifyKey token adminApiKey clientIp) e w := by
  intro h
  have hnone := h.2 (e 0, .verifyAdminApiKey adminApiKey) List.mem_cons_self
  cases hnone

theorem books_unverified {β : Type} {p : Limits β} {err : ApiError} (hp : Books "admin" clientIp p) :
    Unverified verifyApiKey sha256 (Admin.limits p >>= fun _ => (pure (.error err) : Admin (Except ApiError α))) e w := by
  have hsafe : (Admin.limits p >>= fun _ => (pure (.error err) : Admin (Except ApiError α))).Safe (fun o => o.verifies = false)
      (fun _ _ => True) fun r => ∃ err, r = .error err := by
    refine Prog.safe_bind (Q := fun _ => True) _ ?_ fun _ _ => ⟨err, rfl⟩
    refine Prog.safe_lift ?_ ?_ p hp
    · exact fun _ _ => rfl
    · exact fun _ _ _ => trivial
  have hplay := Prog.safe_play (R := fun _ => True) (AdminWorld.handle verifyApiKey sha256) (fun _ _ _ _ _ => trivial) _ e w
    hsafe trivial
  exact ⟨hplay.1, Prog.safe_history _ _ e w hsafe⟩

/-- The endpoint compares a token exactly when the request has one and there is one to compare it with. -/
theorem verifyToken_unverified_iff (token : String) (headers : Admin.EndpointHeaders) :
    Unverified verifyApiKey sha256 (Admin.verifyToken token clientIp headers) e w ↔
      resolveInternalCredential headers.authorization = none ∨ Admin.boundSecret ((e 0).secret Admin.serviceToken) = none := by
  unfold Admin.verifyToken
  cases hbearer : resolveInternalCredential headers.authorization with
  | none => exact iff_of_true (books_unverified (recordAdminAuthFailure_books token clientIp)) (.inl rfl)
  | some provided =>
    simp only [Prog.op_bind]
    cases hcurrent : Admin.boundSecret ((e 0).secret Admin.serviceToken) with
    | none =>
      refine iff_of_true ⟨?_, ?_⟩ (.inr rfl)
      · simp only [Prog.play_ask, AdminWorld.handle, hcurrent]
        exact ⟨_, rfl⟩
      · simp only [Prog.history_ask, AdminWorld.handle, hcurrent]
        intro x hx
        rw [List.mem_singleton.mp hx]
        rfl
    | some current =>
      refine iff_of_false (fun h => ?_) (by simp)
      have hall := h.2
      simp only [Prog.history_ask, AdminWorld.handle, hcurrent] at hall
      have hverified := hall (e 2, _) (List.mem_cons_of_mem _ (List.mem_cons_of_mem _ List.mem_cons_self))
      cases hverified

/-- **Admin calls fail closed** exactly when the flag is read, where they get to it; the endpoint besides when it has no
token to compare. -/
theorem admin_fail_closed_iff (token adminApiKey : String) (headers : Admin.EndpointHeaders) :
    (AdminFailClosed verifyApiKey sha256 clientIp (Admin.authenticateAdmin token adminApiKey clientIp) e w ↔
      validateActor "admin" clientIp ≠ .ok () ∨ (e 0).kvFails = false) ∧
    (AdminFailClosed verifyApiKey sha256 clientIp (Admin.authenticateAdminEndpoint token clientIp headers) e w ↔
      validateActor "admin" clientIp ≠ .ok () ∨ (e 0).kvFails = false ∨ resolveInternalCredential headers.authorization = none ∨
        Admin.boundSecret ((e 1).secret Admin.serviceToken) = none) := by
  constructor
  · rw [Admin.authenticateAdmin_eq, behindFlag_fail_closed_iff (Admin.verifyKey_pastFlag token adminApiKey clientIp)]
    have hverifies : ¬Unverified verifyApiKey sha256 (Admin.verifyKey token adminApiKey clientIp) (fun n => e (n + 1)) w :=
      verifyKey_not_unverified token adminApiKey
    tauto
  · rw [Admin.authenticateAdminEndpoint_eq, behindFlag_fail_closed_iff (Admin.verifyToken_pastFlag token clientIp headers),
      verifyToken_unverified_iff]

end

/-! ## A locked address -/

def officeIp : String := "192.0.2.1"

/-- At second 10; the secrets are readable, and only the first operation fails. -/
def blipTick (n : Nat) : AdminTick :=
  { Tick.at 10000 with
    kvFails := n == 0
    adminHash := fun _ => some "key"
    secret := fun _ => .ok (some "service")
    purgeFaults := .none
    nonceReadings := .at 10000 }

def lockedWorld : AdminWorld :=
  ⟨⟨fun _ => .empty, Store.put {} 0 (some adminLockoutDurationSeconds) (lockedKey "admin" officeIp) "1800"⟩, fun _ => .empty⟩

def adminHeaders : Admin.EndpointHeaders := ⟨some "Bearer service", some (String.ofList (List.replicate 64 'a'))⟩

def plainHandle : AdminWorld → AdminTick → (o : AdminOp) → o.Ans × AdminWorld :=
  AdminWorld.handle (fun provided hash => provided == hash) fun s => s.toUTF8.toList

/-- A locked address is let in by both where the read of its flag fails. -/
theorem locked_address_admitted :
    Store.get lockedWorld.limits.kv 10 (lockedKey "admin" officeIp) = some "1800" ∧
      ((Admin.authenticateAdmin "t" "key" officeIp).play plainHandle blipTick lockedWorld).1 = .ok .current ∧
      ((Admin.authenticateAdminEndpoint "t" officeIp adminHeaders).play plainHandle blipTick lockedWorld).1 = .ok () ∧
      ¬AdminFailClosed (fun provided hash => provided == hash) (fun s => s.toUTF8.toList) officeIp
        (Admin.authenticateAdmin "t" "key" officeIp) blipTick lockedWorld ∧
      ¬AdminFailClosed (fun provided hash => provided == hash) (fun s => s.toUTF8.toList) officeIp
        (Admin.authenticateAdminEndpoint "t" officeIp adminHeaders) blipTick lockedWorld := by
  have hflag : Store.get lockedWorld.limits.kv 10 (lockedKey "admin" officeIp) = some "1800" := by decide +kernel
  have hkey : ((Admin.authenticateAdmin "t" "key" officeIp).play plainHandle blipTick lockedWorld).1 = .ok .current := by
    decide +kernel
  have htoken : ((Admin.authenticateAdminEndpoint "t" officeIp adminHeaders).play plainHandle blipTick lockedWorld).1 =
      .ok () := by
    decide +kernel
  refine ⟨hflag, hkey, htoken, fun hclosed => ?_, fun hclosed => ?_⟩
  · obtain ⟨err, herr⟩ := hclosed.locked (by show Store.get _ 10 _ ≠ none; rw [hflag]; simp)
    exact absurd (hkey.symm.trans herr) (by simp)
  · obtain ⟨err, herr⟩ := hclosed.locked (by show Store.get _ 10 _ ≠ none; rw [hflag]; simp)
    exact absurd (htoken.symm.trans herr) (by simp)

end Issuer
