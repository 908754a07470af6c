import Issuer.ResourceLockDoSound

/-!
# Locks exclude each other

`LockHistory` keeps, beside an object, the grants it gave out and that their holders have not
released. A grant that has not expired is backed by the stored record, so two of them on one
resource are the same one, in every run whose reads of lock records succeed.
-/

namespace Issuer

open Rust Store Runs

/-! ## Stored locks -/

/-- The slot of `resourceKey` holds a lock of `token` that ends at `expiresAt`. -/
def LockedBy (m : Table String (Cell ResourceRecord)) (resourceKey token : String) (expiresAt : Int) : Prop :=
  ∃ r, m[lockKey resourceKey]? = some (.record (.lock r)) ∧ r.lockToken = token ∧ r.expiresAt = expiresAt

theorem lockedBy_congr {m m' : Table String (Cell ResourceRecord)} {resourceKey token : String} {e : Int}
    (h : m'[lockKey resourceKey]? = m[lockKey resourceKey]?) (hl : LockedBy m resourceKey token e) :
    LockedBy m' resourceKey token e := by
  obtain ⟨r, hr, ht, he⟩ := hl
  exact ⟨r, h.trans hr, ht, he⟩

theorem lockedBy_unique {m : Table String (Cell ResourceRecord)} {resourceKey token token' : String} {e e' : Int}
    (h : LockedBy m resourceKey token e) (h' : LockedBy m resourceKey token' e') : token = token' ∧ e = e' := by
  obtain ⟨r, hr, ht, he⟩ := h
  obtain ⟨r', hr', ht', he'⟩ := h'
  rw [hr] at hr'
  cases hr'
  exact ⟨ht.symm.trans ht', he.symm.trans he'⟩

theorem held_of_lt {r : LockRecord} {now e : Int} (he : r.expiresAt = e) (hlt : now < e) : r.held now = true := by
  simp only [LockRecord.held, he, decide_eq_true_eq]
  exact hlt

section
variable {fl : Faults} {now arm : UInt64} {d : ResourceLockDo} {resourceKey token : String} {e : Int}

/-- A lock that has not expired makes every acquire fail and stays. -/
theorem acquire_lockedBy {body : AcquireLockRequest} (hl : LockedBy d.storage resourceKey token e)
    (hlt : nowEpochSecs now < e) (hread : body.resourceKey = resourceKey → fl.read (lockKey resourceKey) = .success) :
    LockedBy (d.handleAcquireLock fl now arm body).2.storage resourceKey token e := by
  by_cases hk : resourceKey = body.resourceKey
  · subst hk
    obtain ⟨r, hr, ht, he⟩ := hl
    rw [(handleAcquireLock_refused (hread rfl) hr (held_of_lt he hlt)).2]
    exact ⟨r, hr, ht, he⟩
  · have hne : lockKey resourceKey ≠ lockKey body.resourceKey := fun h => hk (lockKey_injective h)
    exact lockedBy_congr (handleAcquireLock_frame hne) hl

theorem acquire_not_granted {body : AcquireLockRequest} (hl : LockedBy d.storage body.resourceKey token e)
    (hlt : nowEpochSecs now < e) (hread : fl.read (lockKey body.resourceKey) = .success) :
    acquireGranted (d.handleAcquireLock fl now arm body).1 = false := by
  obtain ⟨r, hr, _, he⟩ := hl
  exact (handleAcquireLock_refused hread hr (held_of_lt he hlt)).1

theorem acquire_granted_lockedBy {body : AcquireLockRequest}
    (h : acquireGranted (d.handleAcquireLock fl now arm body).1 = true) :
    LockedBy (d.handleAcquireLock fl now arm body).2.storage body.resourceKey body.lockToken
      (satAddI64 (nowEpochSecs now) body.ttl) := by
  rcases handleAcquireLock_cases fl now arm body d with ⟨hf, _⟩ | ⟨hg, _⟩
  · rw [hf] at h; cases h
  · rw [hg] at h ⊢
    rcases grantLock_cases fl now arm body d with ⟨_, hm⟩ | ⟨_, _, hm⟩
    · rw [hm] at h; cases h
    · rw [hm]
      exact ⟨_, Std.TreeMap.getElem?_insert_self, rfl, rfl⟩

/-- A release leaves the record of any other token. -/
theorem release_lockedBy {releasedKey releasedToken : String} (hl : LockedBy d.storage resourceKey token e)
    (hne : ¬(releasedKey = resourceKey ∧ releasedToken = token)) :
    LockedBy (d.handleReleaseLock fl releasedToken releasedKey).2.storage resourceKey token e := by
  by_cases hk : resourceKey = releasedKey
  · subst hk
    rcases handleReleaseLock_cases fl releasedToken resourceKey d with h | ⟨⟨r', hr', ht'⟩, _⟩
    · rw [h]; exact hl
    · exfalso
      obtain ⟨r, hr, ht, _⟩ := hl
      rw [hr] at hr'
      cases hr'
      exact hne ⟨rfl, ht'.symm.trans ht⟩
  · have hkey : lockKey resourceKey ≠ lockKey releasedKey := fun h => hk (lockKey_injective h)
    exact lockedBy_congr (handleReleaseLock_frame hkey) hl

/-- The alarm leaves a lock that has not expired. -/
theorem alarm_lockedBy (hl : LockedBy d.storage resourceKey token e) (hlt : nowEpochSecs now < e) :
    LockedBy (d.onAlarm fl now arm).storage resourceKey token e := by
  obtain ⟨r, hr, ht, he⟩ := hl
  exact ⟨r, onAlarm_survives hr (judgeResource_lock (held_of_lt he hlt)), ht, he⟩

end

theorem resetResource_frame {fl : Faults} {environment resourceType resourceId : String} {d : ResourceLockDo}
    {a : String} (ha : a ≠ consumedKey resourceType resourceId) :
    (d.resetResource fl environment resourceType resourceId).2.storage[a]? = d.storage[a]? := by
  unfold ResourceLockDo.resetResource
  split
  · rfl
  split
  · rfl
  simp only
  split
  · rfl
  · exact erase_get_of_ne _ ha.symm

/-! ## Grants -/

structure Grant where
  resourceKey : String
  lockToken : String
  expiresAt : Int
deriving DecidableEq, Repr

structure LockHistory where
  object : ResourceLockDo
  grants : List Grant

def LockHistory.step (h : LockHistory) (i : ResourceStep) : LockHistory where
  object := i.apply h.object
  grants :=
    match i with
    | .acquire fl now arm body =>
      if acquireGranted (h.object.handleAcquireLock fl now arm body).1 then
        ⟨body.resourceKey, body.lockToken, satAddI64 (nowEpochSecs now) body.ttl⟩ :: h.grants
      else h.grants
    | .release _ _ lockToken resourceKey =>
      h.grants.filter fun g => !(g.resourceKey == resourceKey && g.lockToken == lockToken)
    | _ => h.grants

/-- Reads of lock records succeed. -/
def ResourceStep.ReadsLocks : ResourceStep → Prop
  | .acquire fl _ _ body => fl.read (lockKey body.resourceKey) = .success
  | _ => True

def Backed (t : Int) (h : LockHistory) : Prop :=
  ∀ g ∈ h.grants, t < g.expiresAt → LockedBy h.object.storage g.resourceKey g.lockToken g.expiresAt

theorem step_backed {t : Int} {h : LockHistory} {i : ResourceStep} (hb : Backed t h) (hstart : t ≤ i.start)
    (hstop : i.start ≤ i.stop) (hread : i.ReadsLocks) : Backed i.stop (h.step i) := by
  intro g hg hlt
  -- a grant that was there before is still backed before this step
  have hold : g ∈ h.grants → LockedBy h.object.storage g.resourceKey g.lockToken g.expiresAt :=
    fun hm => hb g hm (by omega)
  have hstartlt : i.start < g.expiresAt := by omega
  cases i with
  | consume fl t body =>
    exact lockedBy_congr (consumeResource_frame (consumedKey_ne_lockKey _ _ _).symm) (hold hg)
  | check fl now resourceType resourceId =>
    exact lockedBy_congr (checkConsumed_frame (consumedKey_ne_lockKey _ _ _).symm) (hold hg)
  | reset fl now environment resourceType resourceId =>
    exact lockedBy_congr (resetResource_frame (consumedKey_ne_lockKey _ _ _).symm) (hold hg)
  | acquire fl now arm body =>
    have hread' : fl.read (lockKey body.resourceKey) = .success := hread
    cases hgr : acquireGranted (h.object.handleAcquireLock fl now arm body).1 with
    | false =>
      simp only [LockHistory.step, hgr, Bool.false_eq_true, if_false] at hg
      exact acquire_lockedBy (hold hg) hstartlt fun hk => hk ▸ hread'
    | true =>
      simp only [LockHistory.step, hgr, if_true, List.mem_cons] at hg
      rcases hg with rfl | hg
      · exact acquire_granted_lockedBy hgr
      · exact acquire_lockedBy (hold hg) hstartlt fun hk => hk ▸ hread'
  | release fl now lockToken resourceKey =>
    simp only [LockHistory.step, List.mem_filter, Bool.not_eq_eq_eq_not, Bool.not_true, Bool.and_eq_false_iff,
      beq_eq_false_iff_ne] at hg
    refine release_lockedBy (hold hg.1) ?_
    rintro ⟨hk, ht⟩
    rcases hg.2 with h1 | h1
    · exact h1 hk.symm
    · exact h1 ht.symm
  | alarm fl now arm => exact alarm_lockedBy (hold hg) hstartlt

theorem run_backed (steps : List ResourceStep) (t : Int) (d : ResourceLockDo)
    (hclock : Ordered ResourceStep.start ResourceStep.stop t steps) (hreads : ∀ i ∈ steps, i.ReadsLocks) :
    Backed (endTime ResourceStep.stop t steps) (exec LockHistory.step ⟨d, []⟩ steps) := by
  refine exec_timed LockHistory.step ?_ steps t ⟨d, []⟩ ?_ hclock
    (along_of_forall _ steps _ hreads)
  · intro t h i hb hstart hstop hread
    exact step_backed hb hstart hstop hread
  · intro g hg
    exact absurd hg List.not_mem_nil

end Issuer
