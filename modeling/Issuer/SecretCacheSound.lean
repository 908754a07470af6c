import Issuer.SecretCache
import Issuer.Lib.Ghost

/-!
# How long a cached credential lives

The requests of an isolate run interleaved. A credential that has been gone from both its slots for five minutes
is refused, and one that has been the current one for as long is accepted.
-/

namespace Issuer

namespace SecretCache

open Rust Kek Runs

/-! ## Credentials -/

/-- Argon2id: what verifies against the hash of a secret is that secret. -/
def SecretCrypto.Lawful (C : SecretCrypto) : Prop :=
  ∀ salt value hash p, C.hashApiKey salt value = some hash → (C.verifyApiKey p hash = true ↔ p = value)

def SecretCall.slots : SecretCall → Option (SecretSlot × SecretSlot)
  | .verifyAdminApiKey _ => some (.adminKey, .adminKeyPrevious)
  | .authenticateStatusRequest _ => some (.statusToken, .statusTokenPrevious)
  | _ => none

def SecretCall.credential : SecretCall → Option String
  | .verifyAdminApiKey provided => some provided
  | .authenticateStatusRequest authorization => authorization.bind extractBearerToken
  | _ => none

def SecretReply.letsIn : SecretReply → Bool
  | .adminSlot slot => slot.isSome
  | .status result => result.isOk
  | .fingerprints _ => false

def CachedHashedSecret.Holds (C : SecretCrypto) (key : String) (entry : CachedHashedSecret) : Prop :=
  entry.argon2Hash.any (C.verifyApiKey key) = true

section
variable {C : SecretCrypto} {contents : Int → String → Option String} {slot : SecretSlot} {key fresh : String}

theorem fetched_ok {answer : SecretAnswer} (h : slot.fetched answer = .ok fresh) : answer = .found fresh ∧ fresh ≠ "" := by
  have hadmin : ∀ binding, fetchAdminSecret binding answer = .ok fresh → answer = .found fresh ∧ fresh ≠ "" := by
    intro binding h
    cases answer with
    | found val =>
      simp only [fetchAdminSecret] at h
      split at h
      · cases h
      · rename_i hne
        cases h
        exact ⟨rfl, by simpa using hne⟩
    | unbound _ | absent | failed _ => cases h
  have hstatus : fetchStatusToken answer = .ok fresh → answer = .found fresh ∧ fresh ≠ "" := by
    intro h
    cases answer with
    | found val =>
      simp only [fetchStatusToken] at h
      split at h
      · cases h
      · rename_i hne
        cases h
        exact ⟨rfl, by simpa using hne⟩
    | unbound _ | absent | failed _ => cases h
  cases slot with
  | adminKey | adminKeyPrevious => exact hadmin _ h
  | statusToken | statusTokenPrevious => exact hstatus h

theorem fetched_found (hkey : key ≠ "") : slot.fetched (.found key) = .ok key := by
  cases slot <;> simp [SecretSlot.fetched, fetchAdminSecret, fetchStatusToken, hkey]

theorem answerOf_found {fault : Option SecretFault} {now : Int} {binding value : String}
    (h : answerOf contents fault now binding = .found value) : contents now binding = some value := by
  unfold answerOf at h
  split at h
  · cases h
  · cases h
  · split at h
    · cases h
    · rename_i hvalue
      cases h
      exact hvalue

theorem holds_keep (hC : C.Lawful) {salt : Bytes} {fp : String} {now : Int}
    (h : (CachedHashedSecret.mk (C.hashApiKey salt fresh) fp now).Holds C key) : key = fresh := by
  obtain ⟨hash, hhash, hverify⟩ := (Option.any_eq_true _ _).mp h
  exact (hC salt fresh hash key hhash).mp hverify

end

/-! ## A protocol for accesses

The ghost state of a request is its last clock reading. `Fill` says which entries may be kept, `Look` what a
look at a slot shows, `Found` what a fetch finds.
-/

section
variable (Fill : SecretSlot → CachedHashedSecret → Prop) (Look : SecretSlot → Int → Option CachedHashedSecret → Prop)
  (Found : SecretSlot → Int → SecretAnswer → Prop)

def lastReading (g : Int) : (o : SecretOp) → o.Ans → Int
  | .lookup _, (now, _) => now
  | .fetch _, _ | .drawSalt, _ | .fill _ _, _ => g

def Keeps (_ : Int) : SecretOp → Prop
  | .fill slot entry => Fill slot entry
  | .lookup _ | .fetch _ | .drawSalt => True

def Promised (g : Int) : (o : SecretOp) → o.Ans → Prop
  | .lookup slot, (now, hit) => Look slot now hit
  | .fetch binding, answer => ∀ slot : SecretSlot, slot.binding = binding → Found slot g answer
  | .drawSalt, _ | .fill _ _, _ => True

/-- A request whose every return has `Q`. -/
abbrev Obeys {α : Type} (Q : α → Prop) (g : Int) (p : Secrets α) : Prop :=
  p.Follows lastReading (Keeps Fill) (Promised Look Found) (fun _ a => Q a) g

variable {Fill Look Found} {C : SecretCrypto}

theorem obeys_bind {α β : Type} {Q : α → Prop} {Q' : β → Prop} {f : α → Secrets β} {p : Secrets α}
    (hp : ∀ g, Obeys Fill Look Found Q g p) (hf : ∀ a, Q a → ∀ g, Obeys Fill Look Found Q' g (f a)) (g : Int) :
    Obeys Fill Look Found Q' g (p >>= f) :=
  Prog.follows_bind (fun g a ha => hf a ha g) p g (hp g)

/-- One access: what it returns was shown by the slot, or fetched and kept under the reading before. -/
theorem obeys_access {slot : SecretSlot} {Q : Except String (Option String × String) → Prop}
    (hhit : ∀ now entry, Look slot now (some entry) → Q (.ok (entry.argon2Hash, entry.fingerprint)))
    (hmiss : ∀ now answer, Look slot now none → Found slot now answer → (∀ e, slot.fetched answer = .error e → Q (.error e)) ∧
      ∀ fresh, slot.fetched answer = .ok fresh →
        ∀ salt fp, Fill slot ⟨C.hashApiKey salt fresh, fp, now⟩ ∧ Q (.ok (C.hashApiKey salt fresh, fp)))
    (g : Int) : Obeys Fill Look Found Q g (getOrFetchHashed C slot) := by
  refine ⟨trivial, ?_⟩
  rintro ⟨now, hit⟩ hlook
  cases hit with
  | some entry => exact hhit now entry hlook
  | none =>
    refine ⟨trivial, fun answer hfound => ?_⟩
    have h := hmiss now answer hlook (hfound slot rfl)
    change Obeys Fill Look Found Q now (keepAnswer C slot now answer)
    unfold keepAnswer
    cases hfetched : slot.fetched answer with
    | error e => exact h.1 e hfetched
    | ok fresh =>
      replace h := h.2 fresh hfetched
      exact ⟨trivial, fun salt _ => ⟨(h salt (fingerprint6 C.sha256 (bytesOf fresh))).1,
        fun _ _ => (h salt (fingerprint6 C.sha256 (bytesOf fresh))).2⟩⟩

theorem obeys_call (hacc : ∀ slot g, Obeys Fill Look Found (fun _ => True) g (getOrFetchHashed C slot)) (call : SecretCall)
    (g : Int) : Obeys Fill Look Found (fun _ => True) g (call.prog C) := by
  have hret : ∀ {α : Type} (a : α) (g : Int), Obeys Fill Look Found (fun _ => True) g (Prog.ret a) := fun _ _ => trivial
  have hadmin : ∀ slot g, Obeys Fill Look Found (fun _ => True) g (adminKeyFingerprintForSlot C slot) := by
    intro slot
    cases slot <;> exact obeys_bind (hacc _) fun _ _ => hret _
  have hstatus : ∀ slot g, Obeys Fill Look Found (fun _ => True) g (statusSecretVersionHeader C slot) := by
    intro slot
    cases slot <;> exact obeys_bind (hacc _) fun _ _ => hret _
  cases call with
  | verifyAdminApiKey provided =>
    refine obeys_bind (Q := fun _ => True) (fun g => ?_) (fun _ _ => hret _) g
    refine obeys_bind (hacc _) (fun current _ g => ?_) g
    split
    · exact hret _ g
    · refine obeys_bind (hacc _) (fun previous _ g => ?_) g
      split <;> exact hret _ g
  | adminKeyFingerprintForSlot slot => exact obeys_bind (hadmin slot) (fun _ _ => hret _) g
  | logAdminSecretVersion => exact obeys_bind (hadmin _) (fun _ _ => obeys_bind (hadmin _) fun _ _ => hret _) g
  | authenticateStatusRequest authorization =>
    refine obeys_bind (Q := fun _ => True) (fun g => ?_) (fun _ _ => hret _) g
    refine obeys_bind (hacc _) (fun current _ g => ?_) g
    cases current with
    | error e => exact hret _ g
    | ok current =>
      refine obeys_bind (hacc _) (fun previous _ g => ?_) g
      split
      · exact hret _ g
      · split <;> exact hret _ g
  | statusSecretVersionHeader slot => exact obeys_bind (hstatus slot) (fun _ _ => hret _) g
  | logStatusSecretVersion => exact obeys_bind (hstatus _) (fun _ _ => obeys_bind (hstatus _) fun _ _ => hret _) g

end

/-! ## Runs of an isolate -/

section
variable (contents : Int → String → Option String) (i : Nat) (late : Int) (clean : SecretTick → Prop)

/-- The turns of request `i` happen from `late` on and are clean. -/
def TurnsLate (s : SecretPool) : SecretTurn → Prop
  | .proc j e => j = i → late ≤ s.world.clockMs ∧ clean e
  | .env _ => True

variable {contents i late clean}

theorem clock_le_step (s : SecretPool) (turn : SecretTurn) : s.world.clockMs ≤ (s.step contents turn).world.clockMs := by
  cases turn with
  | env h => exact h.elim
  | proc j e =>
    have hclock : ∀ o, s.world.clockMs ≤ (s.world.handle contents e o).2.clockMs := by
      intro o
      cases o <;> exact Int.le_add_of_nonneg_right (Int.natCast_nonneg _)
    rcases (s.procs j).advance_cases (SecretWorld.handle contents) s.world e with ⟨a, -, hadv⟩ | ⟨o, k, -, hadv⟩
    · simp only [SecretPool.step, Pool.step, hadv, le_refl]
    · simpa only [SecretPool.step, Pool.step, hadv] using hclock o

theorem turnsLate_before : ∀ (turns : List SecretTurn) (s : SecretPool), (∀ e, Turn.proc i e ∉ turns) →
    Along (SecretPool.step contents) (TurnsLate i late clean) s turns
  | [], _, _ => trivial
  | .env h :: _, _, _ => h.elim
  | .proc j e :: turns, s, h => by
    refine ⟨fun hj => ?_, turnsLate_before turns _ fun e' he' => h e' (List.mem_cons_of_mem _ he')⟩
    subst hj
    exact absurd (List.mem_cons_self) (h e)

theorem turnsLate_after : ∀ (turns : List SecretTurn) (s : SecretPool), late ≤ s.world.clockMs →
    (∀ e, Turn.proc i e ∈ turns → clean e) → Along (SecretPool.step contents) (TurnsLate i late clean) s turns
  | [], _, _, _ => trivial
  | .env h :: _, _, _, _ => h.elim
  | .proc j e :: turns, s, hs, hclean => by
    refine ⟨fun hj => ⟨hs, hclean e (by simp [hj])⟩, ?_⟩
    exact turnsLate_after turns _ (le_trans hs (clock_le_step s _)) fun e' he' => hclean e' (List.mem_cons_of_mem _ he')

variable {Fill : SecretSlot → CachedHashedSecret → Prop} {Look Look' : SecretSlot → Int → Option CachedHashedSecret → Prop}
  {Found Found' : SecretSlot → Int → SecretAnswer → Prop} {Q : SecretReply → Prop} {C : SecretCrypto} {startMs : Int}
  {calls : Nat → SecretCall} {before after : List SecretTurn} {reply : SecretReply}

theorem late_reply
    (hlook : ∀ slot now o, (∀ entry, o = some entry → Fill slot entry) → Look slot now (o.filter (CachedHashedSecret.hit now)))
    (hlook' : ∀ slot now o, late ≤ now → (∀ entry, o = some entry → Fill slot entry) →
      Look' slot now (o.filter (CachedHashedSecret.hit now)))
    (hfound : ∀ slot g now fault, g ≤ now → Found slot g (answerOf contents fault now slot.binding))
    (hfound' : ∀ slot g now e, late ≤ now → g ≤ now → clean e → Found' slot g (answerOf contents e.fault now slot.binding))
    (hcalls : ∀ j g, Obeys Fill Look Found (fun _ => True) g ((calls j).prog C))
    (hcall : ∀ g, Obeys Fill Look' Found' Q g ((calls i).prog C))
    (hlate : late ≤ (exec (SecretPool.step contents) (isolate C startMs calls) before).world.clockMs)
    (hnew : ∀ e, Turn.proc i e ∉ before) (hclean : ∀ e, Turn.proc i e ∈ after → clean e)
    (hreply : (exec (SecretPool.step contents) (isolate C startMs calls) (before ++ after)).procs i = .ret reply) : Q reply := by
  have halong : Along (SecretPool.step contents) (TurnsLate i late clean) (isolate C startMs calls) (before ++ after) :=
    (along_append (SecretPool.step contents) before after _).mpr
      ⟨turnsLate_before before _ hnew, turnsLate_after after _ hlate hclean⟩
  let A : Nat → Int → (o : SecretOp) → o.Ans → Prop := fun j =>
    if j = i then Promised Look' Found' else Promised Look Found
  let Q' : Nat → Int → SecretReply → Prop := fun j _ r => j = i → Q r
  have hstart : ∀ j, ((isolate C startMs calls).procs j).Follows lastReading (Keeps Fill) (A j) (Q' j) startMs := by
    intro j
    by_cases hj : j = i
    · subst hj
      simp only [A, if_pos rfl]
      exact Prog.follows_mono (fun _ r hr _ => hr) _ _ (hcall startMs)
    · simp only [A, if_neg hj]
      exact Prog.follows_mono (fun _ r _ hji => absurd hji hj) _ _ (hcalls j startMs)
  -- all readings are past ones, and the slots keep what may be kept
  let R : (Nat → Int) → SecretWorld → Prop := fun γ w =>
    (∀ j, γ j ≤ w.clockMs) ∧ ∀ slot entry, w.cache slot = some entry → Fill slot entry
  have hop : ∀ (s : SecretPool) (γ : Nat → Int) (j : Nat) (e : SecretTick) (o : SecretOp) (k : o.Ans → Secrets SecretReply),
      TurnsLate i late clean s (.proc j e) → s.procs j = .ask o k → Keeps Fill (γ j) o → R γ s.world →
        A j (γ j) o (s.world.handle contents e o).1 ∧
          R (Function.update γ j (lastReading (γ j) o (s.world.handle contents e o).1)) (s.world.handle contents e o).2 := by
    intro s γ j e o k hturn _ hkeeps ⟨hγ, hcache⟩
    have hclock : s.world.clockMs ≤ s.world.clockMs + e.elapsedMs := Int.le_add_of_nonneg_right (Int.natCast_nonneg _)
    have hpast : ∀ g, g ≤ s.world.clockMs + e.elapsedMs → ∀ j', Function.update γ j g j' ≤ s.world.clockMs + e.elapsedMs := by
      intro g hg j'
      by_cases hj : j' = j
      · subst hj
        rw [Function.update_self]
        exact hg
      · rw [Function.update_of_ne hj]
        exact le_trans (hγ j') hclock
    have hold := hpast (γ j) (le_trans (hγ j) hclock)
    cases o with
    | lookup slot =>
      refine ⟨?_, hpast _ (le_refl _), hcache⟩
      by_cases hj : j = i
      · simp only [A, if_pos hj]
        exact hlook' slot _ _ (le_trans (hturn hj).1 hclock) (hcache slot)
      · simp only [A, if_neg hj]
        exact hlook slot _ _ (hcache slot)
    | fetch binding =>
      refine ⟨?_, hold, hcache⟩
      by_cases hj : j = i
      · simp only [A, if_pos hj]
        rintro slot rfl
        exact hfound' slot _ _ e (le_trans (hturn hj).1 hclock) (le_trans (hγ j) hclock) (hturn hj).2
      · simp only [A, if_neg hj]
        rintro slot rfl
        exact hfound slot _ _ _ (le_trans (hγ j) hclock)
    | drawSalt =>
      refine ⟨?_, hold, hcache⟩
      by_cases hj : j = i
      · simp only [A, if_pos hj]; trivial
      · simp only [A, if_neg hj]; trivial
    | fill slot entry =>
      refine ⟨?_, hold, ?_⟩
      · by_cases hj : j = i
        · simp only [A, if_pos hj]; trivial
        · simp only [A, if_neg hj]; trivial
      · intro slot' entry' hentry
        by_cases hslot : slot' = slot
        · subst hslot
          simp only [SecretWorld.handle, Function.update_self, Option.some.injEq] at hentry
          subst hentry
          exact hkeeps
        · simp only [SecretWorld.handle, Function.update_of_ne hslot] at hentry
          exact hcache slot' entry' hentry
  obtain ⟨γ, -, hend⟩ := Pool.pool_follows (SecretWorld.handle contents) (fun w _ => w) (R := R) (A := A) (Q := Q') hop
    (fun _ _ h => h.elim) (before ++ after) (isolate C startMs calls) (γ := fun _ => startMs)
    ⟨fun _ => le_refl _, fun _ _ h => by cases h⟩ hstart halong
  have hi := hend i
  rw [hreply] at hi
  exact hi rfl

end

/-! ## A retired credential -/

section
variable {C : SecretCrypto} {call : SecretCall} {current previous : SecretSlot} {key : String}

/-- What an access to a slot yields, seen from the credential. -/
def Refuses (C : SecretCrypto) (key : String) (result : Except String (Option String × String)) : Prop :=
  (slotHash result).any (C.verifyApiKey key) = false

def Accepts (C : SecretCrypto) (key : String) (result : Except String (Option String × String)) : Prop :=
  (slotHash result).any (C.verifyApiKey key) = true

theorem obeys_refused {Fill : SecretSlot → CachedHashedSecret → Prop}
    {Look : SecretSlot → Int → Option CachedHashedSecret → Prop} {Found : SecretSlot → Int → SecretAnswer → Prop}
    (hslots : call.slots = some (current, previous))
    (hkey : call.credential = some key)
    (hacc : ∀ slot, slot = current ∨ slot = previous → ∀ g, Obeys Fill Look Found (Refuses C key) g (getOrFetchHashed C slot))
    (g : Int) : Obeys Fill Look Found (fun reply => reply.letsIn = false) g (call.prog C) := by
  cases call with
  | verifyAdminApiKey provided =>
    simp only [SecretCall.slots, Option.some.injEq, Prod.mk.injEq] at hslots
    simp only [SecretCall.credential, Option.some.injEq] at hkey
    obtain ⟨rfl, rfl⟩ := hslots
    subst hkey
    refine obeys_bind (Q := fun slot => slot = none) (fun g => ?_) (fun slot hslot g => ?_) g
    · refine obeys_bind (hacc _ (.inl rfl)) (fun result hresult g => ?_) g
      rw [hresult]
      refine obeys_bind (hacc _ (.inr rfl)) (fun result hresult g => ?_) g
      rw [hresult]
      rfl
    · subst hslot
      rfl
  | authenticateStatusRequest authorization =>
    simp only [SecretCall.slots, Option.some.injEq, Prod.mk.injEq] at hslots
    simp only [SecretCall.credential] at hkey
    obtain ⟨rfl, rfl⟩ := hslots
    refine obeys_bind (Q := fun result => result.isOk = false) (fun g => ?_) (fun _ hresult _ => ?_) g
    case refine_2 => exact hresult
    refine obeys_bind (hacc _ (.inl rfl)) (fun result hresult g => ?_) g
    cases result with
    | error e => rfl
    | ok found =>
      refine obeys_bind (hacc _ (.inr rfl)) (fun result' hresult' g => ?_) g
      simp only [Refuses, slotHash] at hresult
      simp only [hkey, verifyStatusTokenSlots, hresult, Bool.false_eq_true, if_false]
      rw [hresult']
      rfl
  | adminKeyFingerprintForSlot _ | logAdminSecretVersion | statusSecretVersionHeader _ | logStatusSecretVersion => cases hslots

theorem obeys_accepted {Fill : SecretSlot → CachedHashedSecret → Prop}
    {Look : SecretSlot → Int → Option CachedHashedSecret → Prop} {Found : SecretSlot → Int → SecretAnswer → Prop}
    (hslots : call.slots = some (current, previous))
    (hkey : call.credential = some key) (hcurrent : ∀ g, Obeys Fill Look Found (Accepts C key) g (getOrFetchHashed C current))
    (hprevious : ∀ g, Obeys Fill Look Found (fun _ => True) g (getOrFetchHashed C previous)) (g : Int) :
    Obeys Fill Look Found (fun reply => reply.letsIn = true) g (call.prog C) := by
  cases call with
  | verifyAdminApiKey provided =>
    simp only [SecretCall.slots, Option.some.injEq, Prod.mk.injEq] at hslots
    simp only [SecretCall.credential, Option.some.injEq] at hkey
    obtain ⟨rfl, rfl⟩ := hslots
    subst hkey
    refine obeys_bind (Q := fun slot => slot = some .current) (fun g => ?_) (fun slot hslot g => ?_) g
    · refine obeys_bind hcurrent (fun result hresult g => ?_) g
      rw [hresult]
      rfl
    · subst hslot
      rfl
  | authenticateStatusRequest authorization =>
    simp only [SecretCall.slots, Option.some.injEq, Prod.mk.injEq] at hslots
    simp only [SecretCall.credential] at hkey
    obtain ⟨rfl, rfl⟩ := hslots
    refine obeys_bind (Q := fun result => result.isOk = true) (fun g => ?_) (fun _ hresult _ => ?_) g
    case refine_2 => exact hresult
    refine obeys_bind hcurrent (fun result hresult g => ?_) g
    cases result with
    | error e => cases hresult
    | ok found =>
      refine obeys_bind hprevious (fun result' _ g => ?_) g
      simp only [Accepts, slotHash] at hresult
      simp only [hkey, verifyStatusTokenSlots, hresult, if_true]
      rfl
  | adminKeyFingerprintForSlot _ | logAdminSecretVersion | statusSecretVersionHeader _ | logStatusSecretVersion => cases hslots

end

section
variable {C : SecretCrypto} {contents : Int → String → Option String} {calls : Nat → SecretCall} {current previous : SecretSlot}
  {key : String} {retiredMs startMs : Int} {i : Nat} {before after : List SecretTurn} {reply : SecretReply}

/-- **A retired credential is refused.** In an isolate whose requests run in any order, a request that begins
five minutes after its credential left both slots is not let in. -/
theorem retired_credential_refused (hC : C.Lawful) (hslots : (calls i).slots = some (current, previous))
    (hkey : (calls i).credential = some key)
    (hretired : ∀ now, retiredMs ≤ now →
      contents now current.binding ≠ some key ∧ contents now previous.binding ≠ some key)
    (hnew : ∀ e, Turn.proc i e ∉ before)
    (hlate : retiredMs + cacheTtlMs ≤ (exec (SecretPool.step contents) (isolate C startMs calls) before).world.clockMs)
    (hreply : (exec (SecretPool.step contents) (isolate C startMs calls) (before ++ after)).procs i = .ret reply) :
    reply.letsIn = false := by
  -- an entry that the credential verifies against was looked for before it was retired
  let Fill : SecretSlot → CachedHashedSecret → Prop := fun slot entry =>
    slot = current ∨ slot = previous → entry.Holds C key → entry.fetchedAtMs < retiredMs
  have hgone : ∀ slot now fault, slot = current ∨ slot = previous → retiredMs ≤ now →
      answerOf contents fault now slot.binding ≠ .found key := by
    rintro slot now fault (rfl | rfl) hnow hfound
    · exact (hretired now hnow).1 (answerOf_found hfound)
    · exact (hretired now hnow).2 (answerOf_found hfound)
  let Look' : SecretSlot → Int → Option CachedHashedSecret → Prop := fun slot _ hit =>
    ∀ entry, hit = some entry → slot = current ∨ slot = previous → ¬ entry.Holds C key
  let Found : SecretSlot → Int → SecretAnswer → Prop := fun slot g answer =>
    slot = current ∨ slot = previous → answer = .found key → g < retiredMs
  let Found' : SecretSlot → Int → SecretAnswer → Prop := fun slot _ answer =>
    slot = current ∨ slot = previous → answer ≠ .found key
  refine @late_reply contents i (retiredMs + cacheTtlMs) (fun _ => True) Fill (fun _ _ _ => True) Look' Found Found'
    (fun reply => reply.letsIn = false) C startMs calls before after reply (fun _ _ _ _ => trivial)
    ?_ ?_ ?_ ?_ ?_ hlate hnew (fun _ _ => trivial) hreply
  · intro slot now o hnow hfill entry hentry hslot hholds
    obtain ⟨hsome, hhit⟩ := Option.filter_eq_some_iff.mp hentry
    have hold := hfill entry hsome hslot hholds
    simp only [CachedHashedSecret.hit, decide_eq_true_eq] at hhit
    omega
  · intro slot g now fault hg hslot hfound
    by_contra hlt
    exact hgone slot now fault hslot (by omega) hfound
  · intro slot g now e hnow hg _ hslot
    exact hgone slot now e.fault hslot (by simp only [cacheTtlMs] at hnow; omega)
  · intro j
    refine obeys_call (fun slot => obeys_access (fun _ _ _ => trivial) fun now answer _ hfound => ?_) (calls j)
    refine ⟨fun _ _ => trivial, ?_⟩
    rintro fresh hfresh salt fp
    refine ⟨fun hslot hholds => hfound hslot ?_, trivial⟩
    rw [holds_keep hC hholds]
    exact (fetched_ok hfresh).1
  · refine obeys_refused hslots hkey fun slot hslot => ?_
    refine obeys_access (fun now entry hlook => ?_) fun now answer _ hfound => ⟨fun _ _ => rfl, ?_⟩
    · exact Bool.eq_false_iff.mpr (hlook entry rfl hslot)
    · rintro fresh hfresh salt fp
      have hno : ¬ (CachedHashedSecret.mk (C.hashApiKey salt fresh) fp now).Holds C key := by
        intro hholds
        have hfetched := (fetched_ok hfresh).1
        rw [← holds_keep hC hholds] at hfetched
        exact hfound hslot hfetched
      exact ⟨fun _ hholds => absurd hholds hno, Bool.eq_false_iff.mpr hno⟩

end

/-- An admin key that is replaced after a second. -/
def replacedKey (now : Int) (binding : String) : Option String :=
  if binding = "ADMIN_API_KEY" then some (if now < 1000 then "old" else "new") else none

def plainCrypto : SecretCrypto where
  sha256 := fun _ => []
  hashApiKey := fun _ value => some value
  verifyApiKey := fun p hash => decide (p = hash)

theorem plainCrypto_lawful : plainCrypto.Lawful := by
  intro salt value hash p h
  cases h
  exact decide_eq_true_iff

theorem retired_credential_refused_replaced : (exec (SecretPool.step replacedKey)
      (isolate plainCrypto 0 fun _ => .verifyAdminApiKey "old")
      (List.replicate 4 (.proc 0 ⟨0, none, []⟩) ++ .proc 2 ⟨301000, none, []⟩ ::
        List.replicate 8 (.proc 1 ⟨0, none, []⟩))).procs 1 = .ret (.adminSlot none) ∧
      (SecretReply.adminSlot none).letsIn = false := by
  refine ⟨rfl, ?_⟩
  refine @retired_credential_refused plainCrypto replacedKey (fun _ => .verifyAdminApiKey "old") .adminKey .adminKeyPrevious
    "old" 1000 0 1 (List.replicate 4 (.proc 0 ⟨0, none, []⟩) ++ [.proc 2 ⟨301000, none, []⟩])
    (List.replicate 8 (.proc 1 ⟨0, none, []⟩)) _ plainCrypto_lawful rfl rfl ?_ ?_ (by decide) rfl
  · intro now hnow
    simp [replacedKey, SecretSlot.binding, show ¬ now < 1000 by omega]
  · intro e he
    simp at he

/-! ## A current credential -/

section
variable {C : SecretCrypto}

theorem access_within (slot : SecretSlot) : (getOrFetchHashed C slot).Within 4 := by
  refine Prog.within_op (n := 3) fun ⟨now, hit⟩ => ?_
  cases hit with
  | some entry => exact Prog.within_mono (n := 0) _ (by omega) (by simp [Prog.Within])
  | none =>
    refine Prog.within_op (n := 2) fun answer => ?_
    unfold keepAnswer
    cases slot.fetched answer with
    | error e => exact Prog.within_mono (n := 0) _ (by omega) (by simp [Prog.Within])
    | ok fresh => exact Prog.within_op (n := 1) fun salt => Prog.within_op (n := 0) fun _ => by simp [Prog.Within]

theorem call_within (call : SecretCall) : (call.prog C).Within 8 := by
  have hret : ∀ {α : Type} (a : α) (n : Nat), (Prog.ret a : Secrets α).Within n := fun _ n => by simp [Prog.Within]
  have hadmin : ∀ slot, (adminKeyFingerprintForSlot C slot).Within 4 := by
    intro slot
    cases slot <;> exact Prog.within_bind (m := 0) _ (access_within _) fun _ => hret _ _
  have hstatus : ∀ slot, (statusSecretVersionHeader C slot).Within 4 := by
    intro slot
    cases slot <;> exact Prog.within_bind (m := 0) _ (access_within _) fun _ => hret _ _
  cases call with
  | verifyAdminApiKey provided =>
    refine Prog.within_bind (n := 8) (m := 0) _ ?_ fun _ => hret _ _
    refine Prog.within_bind (n := 4) (m := 4) _ (access_within _) fun current => ?_
    split
    · exact hret _ _
    · refine Prog.within_bind (n := 4) (m := 0) _ (access_within _) fun previous => ?_
      split <;> exact hret _ _
  | adminKeyFingerprintForSlot slot => exact Prog.within_bind (m := 4) _ (hadmin slot) fun _ => hret _ _
  | logAdminSecretVersion =>
    exact Prog.within_bind _ (hadmin _) fun _ => Prog.within_bind (m := 0) _ (hadmin _) fun _ => hret _ _
  | authenticateStatusRequest authorization =>
    refine Prog.within_bind (n := 8) (m := 0) _ ?_ fun _ => hret _ _
    refine Prog.within_bind (n := 4) (m := 4) _ (access_within _) fun current => ?_
    cases current with
    | error e => exact hret _ _
    | ok current =>
      refine Prog.within_bind (n := 4) (m := 0) _ (access_within _) fun previous => ?_
      split
      · exact hret _ _
      · split <;> exact hret _ _
  | statusSecretVersionHeader slot => exact Prog.within_bind (m := 4) _ (hstatus slot) fun _ => hret _ _
  | logStatusSecretVersion =>
    exact Prog.within_bind _ (hstatus _) fun _ => Prog.within_bind (m := 0) _ (hstatus _) fun _ => hret _ _

end

section
variable {C : SecretCrypto} {contents : Int → String → Option String} {calls : Nat → SecretCall} {current previous : SecretSlot}
  {key : String} {rotatedMs startMs : Int} {i : Nat} {before after : List SecretTurn}

/-- **A current credential is accepted.** Five minutes after a rotation, a request with the new credential is let in
once it has had eight turns without a fault of the Secrets Store, whatever the other requests do. -/
theorem current_credential_accepted (hC : C.Lawful) (hslots : (calls i).slots = some (current, previous))
    (hcredential : (calls i).credential = some key) (hne : key ≠ "") (hhash : ∀ salt, (C.hashApiKey salt key).isSome)
    (hcurrent : ∀ now, rotatedMs ≤ now → contents now current.binding = some key) (hnew : ∀ e, Turn.proc i e ∉ before)
    (hlate : rotatedMs + cacheTtlMs ≤ (exec (SecretPool.step contents) (isolate C startMs calls) before).world.clockMs)
    (hfault : ∀ e, Turn.proc i e ∈ after → e.fault = none) (hturns : 8 ≤ Pool.turnsOf i after) :
    ∃ reply, (exec (SecretPool.step contents) (isolate C startMs calls) (before ++ after)).procs i = .ret reply ∧
      reply.letsIn = true := by
  have hreturns : ∃ reply,
      (exec (SecretPool.step contents) (isolate C startMs calls) (before ++ after)).procs i = .ret reply := by
    have hidle : (exec (SecretPool.step contents) (isolate C startMs calls) before).procs i = (calls i).prog C :=
      Pool.exec_procs_of_ne before _ fun turn hturn e he => hnew e (he ▸ hturn)
    rw [exec_append]
    refine Pool.exec_returns after _ 8 ?_ hturns
    rw [hidle]
    exact call_within (calls i)
  obtain ⟨reply, hreply⟩ := hreturns
  refine ⟨reply, hreply, ?_⟩
  have hfresh : ∀ salt fp now, (CachedHashedSecret.mk (C.hashApiKey salt key) fp now).Holds C key := by
    intro salt fp now
    obtain ⟨hash, hsome⟩ := Option.isSome_iff_exists.mp (hhash salt)
    simp only [CachedHashedSecret.Holds, hsome, Option.any_some]
    exact (hC salt key hash key hsome).mpr rfl
  -- an entry that was looked for after the rotation is one of the new credential
  let Fill : SecretSlot → CachedHashedSecret → Prop := fun slot entry =>
    slot = current → rotatedMs ≤ entry.fetchedAtMs → entry.Holds C key
  have hfound : ∀ slot now fault, slot = current → rotatedMs ≤ now → ∀ fresh,
      answerOf contents fault now slot.binding = .found fresh → fresh = key := by
    rintro slot now fault rfl hnow fresh hanswer
    rw [answerOf_found hanswer |>.symm.trans (hcurrent now hnow) |> Option.some.inj]
  have hkept : ∀ slot now answer fresh, slot.fetched answer = .ok fresh →
      (slot = current → rotatedMs ≤ now → ∀ v, answer = .found v → v = key) →
      ∀ salt fp, Fill slot ⟨C.hashApiKey salt fresh, fp, now⟩ := by
    intro slot now answer fresh hfetched hans salt fp hslot hnow
    rw [hans hslot hnow fresh (fetched_ok hfetched).1]
    exact hfresh salt fp now
  let Look' : SecretSlot → Int → Option CachedHashedSecret → Prop := fun slot now hit =>
    rotatedMs ≤ now ∧ ∀ entry, hit = some entry → slot = current → entry.Holds C key
  let Found : SecretSlot → Int → SecretAnswer → Prop := fun slot g answer =>
    slot = current → rotatedMs ≤ g → ∀ fresh, answer = .found fresh → fresh = key
  let Found' : SecretSlot → Int → SecretAnswer → Prop := fun slot _ answer => slot = current → answer = .found key
  refine @late_reply contents i (rotatedMs + cacheTtlMs) (fun e => e.fault = none) Fill (fun _ _ _ => True) Look' Found Found'
    (fun reply => reply.letsIn = true) C startMs calls before after reply (fun _ _ _ _ => trivial)
    ?_ ?_ ?_ ?_ ?_ hlate hnew hfault hreply
  · intro slot now o hnow hfill
    refine ⟨by simp only [cacheTtlMs] at hnow; omega, fun entry hentry hslot => ?_⟩
    obtain ⟨hsome, hhit⟩ := Option.filter_eq_some_iff.mp hentry
    simp only [CachedHashedSecret.hit, decide_eq_true_eq] at hhit
    exact hfill entry hsome hslot (by omega)
  · intro slot g now fault hg hslot hnow
    exact hfound slot now fault hslot (by omega)
  · rintro slot g now e hnow hg hclean rfl
    simp only [hclean, answerOf, hcurrent now (by simp only [cacheTtlMs] at hnow; omega)]
  · intro j
    refine obeys_call (fun slot => obeys_access (fun _ _ _ => trivial) fun now answer _ hans => ?_) (calls j)
    refine ⟨fun _ _ => trivial, ?_⟩
    exact fun fresh hfetched salt fp => ⟨hkept slot now answer fresh hfetched hans salt fp, trivial⟩
  · refine obeys_accepted hslots hcredential ?_ ?_
    · refine obeys_access (fun now entry hlook => hlook.2 entry rfl rfl) fun now answer hlook hans => ?_
      rw [hans rfl, fetched_found hne]
      refine ⟨fun _ he => (by cases he), fun fresh hfetched salt fp => ?_⟩
      cases hfetched
      exact ⟨fun _ _ => hfresh salt fp now, hfresh salt fp now⟩
    · refine obeys_access (fun _ _ _ => trivial) fun now answer _ hans => ⟨fun _ _ => trivial, fun fresh hfetched salt fp => ?_⟩
      refine ⟨hkept previous now answer fresh hfetched (fun hslot _ v hv => ?_) salt fp, trivial⟩
      rw [hans hslot] at hv
      cases hv
      rfl

end

theorem current_credential_accepted_replaced : ∃ reply, (exec (SecretPool.step replacedKey)
      (isolate plainCrypto 0 fun _ => .verifyAdminApiKey "new")
      ((List.replicate 4 (.proc 0 ⟨0, none, []⟩) ++ [.proc 2 ⟨301000, none, []⟩]) ++
        List.replicate 8 (.proc 1 ⟨0, none, []⟩))).procs 1 = .ret reply ∧ reply.letsIn = true := by
  refine @current_credential_accepted plainCrypto replacedKey (fun _ => .verifyAdminApiKey "new") .adminKey
    .adminKeyPrevious "new" 1000 0 1 _ _ plainCrypto_lawful rfl rfl (by decide) (fun _ => rfl) ?_ ?_ (by decide) ?_ (by decide)
  · intro now hnow
    simp [replacedKey, SecretSlot.binding, show ¬ now < 1000 by omega]
  · intro e he
    simp at he
  · intro e he
    simp only [List.mem_replicate, Turn.proc.injEq] at he
    rw [he.2.2]

/-! ## The cached verification and the plain one -/

def hashesOf (current previous : Option String) : AdminKeySlot → Option String
  | .current => current
  | .previous => previous

theorem verifyAdminApiKey_play (C : SecretCrypto) (contents : Int → String → Option String) (provided : String)
    (e : Nat → SecretTick) (w : SecretWorld) : ∃ n,
    ((SecretCache.verifyAdminApiKey C provided).play (SecretWorld.handle contents) e w).1 =
      Issuer.verifyAdminApiKey C.verifyApiKey
        (hashesOf (slotHash ((getOrFetchHashed C .adminKey).play (SecretWorld.handle contents) e w).1)
          (slotHash ((getOrFetchHashed C .adminKeyPrevious).play (SecretWorld.handle contents) (fun m => e (m + n))
            ((getOrFetchHashed C .adminKey).play (SecretWorld.handle contents) e w).2).1)) provided := by
  let ofPrevious : Except String (Option String × String) → Secrets (Option AdminKeySlot) := fun previous =>
    if (slotHash previous).any (C.verifyApiKey provided) then pure (some .previous) else pure none
  let ofCurrent : Except String (Option String × String) → Secrets (Option AdminKeySlot) := fun current =>
    if (slotHash current).any (C.verifyApiKey provided) then pure (some .current)
    else getOrFetchHashed C .adminKeyPrevious >>= ofPrevious
  obtain ⟨n, hn⟩ := Prog.play_bind (SecretWorld.handle contents) ofCurrent (getOrFetchHashed C .adminKey) e w
  refine ⟨n, ?_⟩
  have hplay : (SecretCache.verifyAdminApiKey C provided).play (SecretWorld.handle contents) e w = _ := hn
  rw [hplay]
  by_cases hcurrent :
      (slotHash ((getOrFetchHashed C .adminKey).play (SecretWorld.handle contents) e w).1).any (C.verifyApiKey provided)
  · simp only [ofCurrent, Issuer.verifyAdminApiKey, hashesOf, hcurrent, if_true]
    rfl
  · simp only [ofCurrent, Issuer.verifyAdminApiKey, hashesOf, hcurrent, Bool.false_eq_true, if_false]
    obtain ⟨m, hm⟩ := Prog.play_bind (SecretWorld.handle contents) ofPrevious (getOrFetchHashed C .adminKeyPrevious)
      (fun m => e (m + n)) ((getOrFetchHashed C .adminKey).play (SecretWorld.handle contents) e w).2
    rw [hm]
    by_cases hprevious : (slotHash ((getOrFetchHashed C .adminKeyPrevious).play (SecretWorld.handle contents) (fun m => e (m + n))
        ((getOrFetchHashed C .adminKey).play (SecretWorld.handle contents) e w).2).1).any (C.verifyApiKey provided)
    · simp only [ofPrevious, hprevious, if_true]
      rfl
    · simp only [ofPrevious, hprevious, Bool.false_eq_true, if_false]
      rfl

end SecretCache

end Issuer
