import Issuer.Lockout

/-!
# The cap per source address looks at an entry nobody writes

Failures are counted under `blind:authfail_ip:{hash}|{hour}`, because `check_blind_issuance` builds
its own key; `authfail_ip_exceeded` reads `authfail_ip:{hash}`. No caller of the namespace writes
that entry, so in every interleaving the check answers that the cap is not exceeded.
-/

namespace Issuer

open Rust Store

/-! ## Programs that leave one key alone -/

def LimitsOp.Spares (key : String) : LimitsOp → Prop
  | .kvPut _ k _ => k ≠ key
  | _ => True

def LimitsOp.FindsNothing (key : String) : (o : LimitsOp) → o.Ans → Prop
  | .kvGet k, x => k = key → x = .ok none ∨ x = .error ()
  | .now, _ | .kvPut _ _ _, _ | .kvDelete _, _ | .acquire _ _ _, _ | .release _ _, _ => True

theorem handle_spares {key : String} (w : LimitsWorld) (t : Tick) (o : LimitsOp) (ho : o.Spares key)
    (hw : w.kv[key]? = none) : o.FindsNothing key (w.handle t o).1 ∧ (w.handle t o).2.kv[key]? = none := by
  cases o with
  | now => exact ⟨trivial, hw⟩
  | kvGet k =>
    refine ⟨fun hk => ?_, hw⟩
    subst hk
    show kvGet t.kvFails w.kv t.now k = .ok none ∨ kvGet t.kvFails w.kv t.now k = .error ()
    unfold kvGet Store.get
    rw [hw]
    cases t.kvFails with
    | true => exact .inr rfl
    | false => exact .inl rfl
  | kvPut ttl k v =>
    refine ⟨trivial, ?_⟩
    have hk : k ≠ key := ho
    simp only [LimitsWorld.handle]
    unfold kvPut
    split
    · rename_i kv hkv
      split at hkv
      · cases hkv
      · cases hkv
        simp only [Store.put]
        rw [insert_get_of_ne _ hk]
        exact hw
    · exact hw
  | kvDelete k =>
    refine ⟨trivial, ?_⟩
    simp only [LimitsWorld.handle]
    split
    · exact hw
    · show (w.kv.erase k)[key]? = none
      rw [erase_get, hw, ite_self]
  | acquire k token ttl => exact ⟨trivial, hw⟩
  | release k token => exact ⟨trivial, hw⟩

/-! ## The bookkeeping of an actor -/

/-- The operations of an actor's bookkeeping: it reads the counter, and writes counter and flag. -/
def LimitsOp.Books (actorType actorId : String) : LimitsOp → Prop
  | .now | .acquire _ _ _ | .release _ _ => True
  | .kvGet k => k = lockoutKey actorType actorId
  | .kvPut _ k _ | .kvDelete k => k = lockoutKey actorType actorId ∨ k = lockedKey actorType actorId

abbrev Books {α : Type} (actorType actorId : String) (p : Limits α) : Prop :=
  p.Safe (LimitsOp.Books actorType actorId) (fun _ _ => True) fun _ => True

section
variable {actorType actorId token : String} {threshold duration : Nat}

theorem recordAuthFailure_books : Books actorType actorId (recordAuthFailure token actorType actorId threshold) := by
  unfold recordAuthFailure
  split
  · exact trivial
  refine Prog.safe_op trivial fun x _ => ?_
  cases x with
  | error e => exact trivial
  | ok token =>
    refine Prog.safe_bind (Q := fun _ => True) _ ?_ fun _ _ => Prog.safe_op trivial fun _ _ => trivial
    refine Prog.safe_op rfl fun x _ => ?_
    cases x with
    | error u => exact trivial
    | ok data =>
      refine Prog.safe_op (.inl rfl) fun y _ => ?_
      cases y with
      | error u => exact trivial
      | ok u => exact trivial

theorem lockAccount_books : Books actorType actorId (lockAccount actorType actorId duration) := by
  unfold lockAccount
  split
  · exact trivial
  refine Prog.safe_op trivial fun now _ => Prog.safe_op (.inr rfl) fun y _ => ?_
  cases y with
  | error u => exact trivial
  | ok u => exact trivial

theorem clearAuthFailures_books : Books actorType actorId (clearAuthFailures actorType actorId) := by
  unfold clearAuthFailures
  split
  · exact trivial
  refine Prog.safe_op (.inl rfl) fun x _ => ?_
  cases x with
  | error u => exact trivial
  | ok u =>
    refine Prog.safe_op (.inr rfl) fun y _ => ?_
    cases y with
    | error u => exact trivial
    | ok u => exact trivial

theorem lockAtThreshold_books {count : Nat} {reject : ApiError} :
    Books actorType actorId (lockAtThreshold actorType actorId threshold duration count reject) := by
  unfold lockAtThreshold
  split
  · exact Prog.safe_bind _ lockAccount_books fun _ _ => trivial
  · exact trivial

end

theorem rejectAdmin_books (token clientIp : String) : Books "admin" clientIp (rejectAdmin token clientIp) := by
  refine Prog.safe_bind _ recordAuthFailure_books fun r _ => ?_
  cases r with
  | error e => exact trivial
  | ok count => exact lockAtThreshold_books

/-! ## Every caller leaves the address entry alone -/

/-- What `Safe` says here: the program never writes `key`. -/
abbrev SparesKey {α : Type} (key : String) (p : Limits α) : Prop :=
  p.Safe (LimitsOp.Spares key) (LimitsOp.FindsNothing key) fun _ => True

section
variable {key : String}

theorem checkKvCounter_spares {k : String} {limit ttlSecs : Nat} (hk : k ≠ key) :
    SparesKey key (checkKvCounter k limit ttlSecs) := by
  refine Prog.safe_op trivial fun x _ => ?_
  cases x with
  | error u => exact trivial
  | ok data =>
    by_cases hc : (data.bind parseU32).getD 0 ≥ limit
    · simp only [hc, ite_true]; exact trivial
    · simp only [hc, ite_false]; exact Prog.safe_op hk fun _ _ => trivial

theorem checkBlindIssuance_spares {issuerId : String} {limit : Nat} (hk : ∀ hour, blindKey issuerId hour ≠ key) :
    SparesKey key (checkBlindIssuance issuerId limit) := by
  refine Prog.safe_op trivial fun now _ => ?_
  exact Prog.safe_bind _ (checkKvCounter_spares (hk _)) fun _ _ => Prog.safe_op trivial fun _ _ => trivial

variable {actorType actorId : String}

theorem Books.spares {α : Type} {p : Limits α} (h : Books actorType actorId p) (hcounter : lockoutKey actorType actorId ≠ key)
    (hflag : lockedKey actorType actorId ≠ key) : SparesKey key p := by
  refine Prog.safe_weaken (fun o ho => ?_) (fun _ _ _ => trivial) p h
  cases o with
  | kvPut ttl k v => exact ho.elim (fun hk => hk ▸ hcounter) fun hk => hk ▸ hflag
  | now | kvGet k | kvDelete k | acquire k token ttl | release k token => trivial

theorem isLockedOut_spares : SparesKey key (isLockedOut actorType actorId) := by
  unfold isLockedOut
  split
  · exact trivial
  refine Prog.safe_op trivial fun x _ => ?_
  cases x with
  | error u => exact trivial
  | ok data => exact trivial

end

theorem blindKey_ne (issuerId ipHash : String) (hour : Nat) : blindKey issuerId hour ≠ authfailIpKey ipHash := by
  unfold blindKey authfailIpKey
  rw [String.append_assoc, String.append_assoc]
  exact append_ne_append (by decide)

theorem lockoutKey_ne (actorType actorId ipHash : String) : lockoutKey actorType actorId ≠ authfailIpKey ipHash := by
  unfold lockoutKey authfailIpKey
  rw [String.append_assoc, String.append_assoc]
  exact append_ne_append (by decide)

theorem lockedKey_ne (actorType actorId ipHash : String) : lockedKey actorType actorId ≠ authfailIpKey ipHash := by
  unfold lockedKey authfailIpKey
  rw [String.append_assoc, String.append_assoc]
  exact append_ne_append (by decide)

section
variable {ipHash : String}

theorem Books.spares_address {α : Type} {actorType actorId : String} {p : Limits α} (h : Books actorType actorId p) :
    SparesKey (authfailIpKey ipHash) p :=
  h.spares (lockoutKey_ne _ _ _) (lockedKey_ne _ _ _)

theorem rejectAdmin_spares (token clientIp : String) :
    SparesKey (authfailIpKey ipHash) (rejectAdmin token clientIp) :=
  (rejectAdmin_books token clientIp).spares_address

theorem recordOfficerFailureAndReject_spares (hashIp : String → String) (token officerId clientIp : String) :
    SparesKey (authfailIpKey ipHash) (recordOfficerFailureAndReject hashIp token officerId clientIp) := by
  refine Prog.safe_bind (Q := fun _ => True) _ ?_ fun _ _ => ?_
  · exact Prog.safe_bind _ (checkBlindIssuance_spares fun _ => blindKey_ne _ _ _) fun _ _ => trivial
  · refine Prog.safe_bind _ (recordAuthFailure_books.spares_address) fun r _ => ?_
    cases r with
    | error e => exact trivial
    | ok count => exact lockAtThreshold_books.spares_address

theorem authenticateAdmin_spares (token clientIp : String) (matchedSlot : Option String) :
    SparesKey (authfailIpKey ipHash) (authenticateAdmin token clientIp matchedSlot) := by
  refine Prog.safe_bind _ isLockedOut_spares fun r _ => ?_
  rcases r with e | _ | _
  · exact trivial
  · cases matchedSlot with
    | none => exact Prog.safe_bind _ (rejectAdmin_spares token clientIp) fun _ _ => trivial
    | some slot => exact Prog.safe_bind _ clearAuthFailures_books.spares_address fun _ _ => trivial
  · exact trivial

theorem authfailIpExceeded_false (hashIp : String → String) (sourceIp : String) :
    (authfailIpExceeded hashIp sourceIp).Safe (LimitsOp.Spares (authfailIpKey (hashIp sourceIp)))
      (LimitsOp.FindsNothing (authfailIpKey (hashIp sourceIp))) (· = false) := by
  refine Prog.safe_op trivial fun x hx => ?_
  rcases hx rfl with rfl | rfl
  · exact rfl
  · exact rfl

end

/-! ## Every run -/

/-- What a call may reply: a check for `sourceIp` only `false`. -/
def RepliesUnthrottled (sourceIp : String) (c : LimitsCall) (r : LimitsReply) : Prop :=
  c = .authfailIpExceeded sourceIp → r = .exceeded false

theorem prog_safe (hashIp : String → String) (sourceIp : String) (c : LimitsCall) :
    (c.prog hashIp).Safe (LimitsOp.Spares (authfailIpKey (hashIp sourceIp)))
      (LimitsOp.FindsNothing (authfailIpKey (hashIp sourceIp))) (RepliesUnthrottled sourceIp c) := by
  cases c with
  | recordAuthFailure token actorType actorId threshold =>
    exact Prog.safe_bind _ recordAuthFailure_books.spares_address fun _ _ => nofun
  | recordOfficerFailureAndReject token officerId clientIp =>
    exact Prog.safe_bind _ (recordOfficerFailureAndReject_spares hashIp token officerId clientIp) fun _ _ => nofun
  | authenticateAdmin token clientIp matchedSlot =>
    exact Prog.safe_bind _ (authenticateAdmin_spares token clientIp matchedSlot) fun _ _ => nofun
  | rejectAdmin token clientIp => exact Prog.safe_bind _ (rejectAdmin_spares token clientIp) fun _ _ => nofun
  | clearAuthFailures actorType actorId => exact Prog.safe_bind _ clearAuthFailures_books.spares_address fun _ _ => nofun
  | isLockedOut actorType actorId => exact Prog.safe_bind _ isLockedOut_spares fun _ _ => nofun
  | authfailIpExceeded ip =>
    by_cases hip : ip = sourceIp
    · subst hip
      refine Prog.safe_bind _ (authfailIpExceeded_false hashIp ip) fun b hb => ?_
      exact fun _ => congrArg LimitsReply.exceeded hb
    · refine Prog.safe_bind (Q := fun _ => True) _ ?_ fun _ _ => ?_
      · refine Prog.safe_op trivial fun x _ => ?_
        rcases x with u | _ | s
        · exact trivial
        · exact trivial
        · exact trivial
      · intro h
        cases h
        exact absurd rfl hip
  | checkBlindIssuance issuerId limit =>
    exact Prog.safe_bind _ (checkBlindIssuance_spares fun _ => blindKey_ne _ _ _) fun _ _ => nofun

theorem limits_safe (hashIp : String → String) (sourceIp : String) (calls : Nat → LimitsCall) (w : LimitsWorld)
    (turns : List LimitsTurn) (hclean : w.kv[authfailIpKey (hashIp sourceIp)]? = none) (i : Nat) :
    ((Runs.exec LimitsPool.step (limitsPool hashIp calls w) turns).procs i).Safe
      (LimitsOp.Spares (authfailIpKey (hashIp sourceIp))) (LimitsOp.FindsNothing (authfailIpKey (hashIp sourceIp)))
      (RepliesUnthrottled sourceIp (calls i)) :=
  (Pool.pool_safe LimitsWorld.handle LimitsWorld.react (R := fun w => w.kv[authfailIpKey (hashIp sourceIp)]? = none)
    handle_spares (fun _ _ hw => hw) turns (limitsPool hashIp calls w) hclean
    fun i => prog_safe hashIp sourceIp (calls i)).2 i

/-- Whatever calls ran before or beside it, failures of officers included, a check that has returned
answered `false`. -/
theorem authfailIpExceeded_never (hashIp : String → String) (sourceIp : String) (calls : Nat → LimitsCall)
    (w : LimitsWorld) (turns : List LimitsTurn) (hclean : w.kv[authfailIpKey (hashIp sourceIp)]? = none)
    (j : Nat) (hj : calls j = .authfailIpExceeded sourceIp) (r : LimitsReply)
    (hr : (Runs.exec LimitsPool.step (limitsPool hashIp calls w) turns).procs j = .ret r) :
    r = .exceeded false := by
  have h := limits_safe hashIp sourceIp calls w turns hclean j
  rw [hr] at h
  exact h hj

/-! ## Fifty failures in one hour -/

theorem checkBlindIssuance_within (issuerId : String) (limit : Nat) : (checkBlindIssuance issuerId limit).Within 4 := by
  refine Prog.within_op fun now => Prog.within_bind (n := 2) (m := 1) _ ?_ fun _ => Prog.within_op fun _ => trivial
  refine Prog.within_op fun x => ?_
  rcases x with u | data
  · exact trivial
  · by_cases hc : (data.bind parseU32).getD 0 ≥ limit
    · simp only [hc, ite_true]; exact trivial
    · simp only [hc, ite_false]; exact Prog.within_op fun _ => trivial

theorem recordAuthFailure_within (token actorType actorId : String) (threshold : Nat) :
    (recordAuthFailure token actorType actorId threshold).Within 4 := by
  unfold recordAuthFailure
  split
  · exact trivial
  refine Prog.within_op fun x => ?_
  rcases x with e | token
  · exact trivial
  refine Prog.within_bind (n := 2) (m := 1) _ ?_ fun _ => Prog.within_op fun _ => trivial
  refine Prog.within_op fun x => ?_
  rcases x with u | data
  · exact trivial
  refine Prog.within_op fun y => ?_
  rcases y with u | u
  · exact trivial
  · exact trivial

theorem lockAtThreshold_within (actorType actorId : String) (threshold duration count : Nat) (reject : ApiError) :
    (lockAtThreshold actorType actorId threshold duration count reject).Within 2 := by
  unfold lockAtThreshold
  split
  · refine Prog.within_bind (n := 2) (m := 0) _ ?_ fun _ => trivial
    unfold lockAccount
    split
    · exact trivial
    refine Prog.within_op fun now => Prog.within_op fun y => ?_
    rcases y with u | u
    · exact trivial
    · exact trivial
  · exact trivial

theorem recordOfficerFailureAndReject_within (hashIp : String → String) (token officerId clientIp : String) :
    (recordOfficerFailureAndReject hashIp token officerId clientIp).Within 10 := by
  refine Prog.within_bind (n := 4) (m := 6) _ ?_ fun _ => ?_
  · exact Prog.within_bind (n := 4) (m := 0) _ (checkBlindIssuance_within _ _) fun _ => trivial
  · refine Prog.within_bind (n := 4) (m := 2) _ (recordAuthFailure_within _ _ _ _) fun r => ?_
    cases r with
    | error e => exact trivial
    | ok count => exact lockAtThreshold_within _ _ _ _ _ _

/-- Calls 0 to 49 are failures of one officer from one address, call 50 is the check. -/
def fiftyCalls (i : Nat) : LimitsCall :=
  if i < 50 then .recordOfficerFailureAndReject (toString i) "officer" "192.0.2.1" else .authfailIpExceeded "192.0.2.1"

/-- One after the other at the start of an hour, and the check a minute later. -/
@[irreducible] def fiftyTurns : List LimitsTurn :=
  ((List.range 50).flatMap fun i => List.replicate 10 (.proc i (.at 7200000))) ++ [.proc 50 (.at 7260000)]

theorem fiftyTurns_each : ∀ i < 50, Pool.turnsOf i fiftyTurns = 10 := by decide +kernel

theorem fifty_rejected (hashIp : String → String) (w : LimitsWorld) (i : Nat) (hi : i < 50) :
    ∃ r, (Runs.exec LimitsPool.step (limitsPool hashIp fiftyCalls w) fiftyTurns).procs i = .ret r := by
  refine Pool.exec_returns fiftyTurns _ 10 ?_ (le_of_eq (fiftyTurns_each i hi).symm)
  have hcall : fiftyCalls i = .recordOfficerFailureAndReject (toString i) "officer" "192.0.2.1" := if_pos hi
  simp only [limitsPool, hcall]
  exact Prog.within_bind (n := 10) (m := 0) _ (recordOfficerFailureAndReject_within hashIp _ _ _) fun _ => trivial

theorem fifty_checked (hashIp : String → String) (w : LimitsWorld) :
    ∃ r, (Runs.exec LimitsPool.step (limitsPool hashIp fiftyCalls w) fiftyTurns).procs 50 = .ret r := by
  refine Pool.exec_returns fiftyTurns _ 1 ?_ (by decide +kernel)
  show ((LimitsCall.authfailIpExceeded "192.0.2.1").prog hashIp).Within 1
  refine Prog.within_bind (n := 1) (m := 0) _ (Prog.within_op fun x => ?_) fun _ => trivial
  rcases x with u | _ | t
  · exact trivial
  · exact trivial
  · exact trivial

def hexHash (s : String) : String := hexEncode s.toUTF8.data.toList

theorem fifty_failures_check : ∃ r,
    (Runs.exec LimitsPool.step (limitsPool hexHash fiftyCalls ⟨fun _ => .empty, ∅⟩) fiftyTurns).procs 50 = .ret r ∧
      r = .exceeded false := by
  obtain ⟨r, hr⟩ := fifty_checked hexHash ⟨fun _ => .empty, ∅⟩
  exact ⟨r, hr, authfailIpExceeded_never hexHash "192.0.2.1" fiftyCalls ⟨fun _ => .empty, ∅⟩ fiftyTurns
    Std.TreeMap.getElem?_emptyc 50 rfl r hr⟩

/-- Fifty failures from one address have been rejected, and the check in the same hour lets the
address through. -/
theorem fifty_failures_not_throttled :
    (∀ i < 50, ∃ r,
      (Runs.exec LimitsPool.step (limitsPool hexHash fiftyCalls ⟨fun _ => .empty, ∅⟩) fiftyTurns).procs i = .ret r) ∧
    (Runs.exec LimitsPool.step (limitsPool hexHash fiftyCalls ⟨fun _ => .empty, ∅⟩) fiftyTurns).procs 50 =
      .ret (.exceeded false) := by
  refine ⟨fifty_rejected hexHash _, ?_⟩
  obtain ⟨r, hr⟩ := fifty_checked hexHash ⟨fun _ => .empty, ∅⟩
  have h := limits_safe hexHash "192.0.2.1" fiftyCalls ⟨fun _ => .empty, ∅⟩ fiftyTurns Std.TreeMap.getElem?_emptyc 50
  rw [hr] at h
  rw [hr, h rfl]

end Issuer
