import Issuer.KekCache
import Issuer.KekWindow
import Issuer.Lib.TtlSlot

/-!
# What the cached key pair and its preflight say

Both slots of an isolate hand out what an earlier call has found. The preflight agrees with the fetch where the
key can be had as it could at the probe, and the pair lacks the previous key as long as a fetch is remembered
that could not read it.
-/

namespace Issuer

open Rust Runs

namespace Kek

/-! ## One call -/

def Call.isPreflight : Call → Bool
  | .getKekPair _ _ => false
  | .preflightKek _ _ => true

namespace Isolate
variable (w : Isolate)

def cachedPair (now : Int) : Option KekPair :=
  (w.kekCache.filter (CachedBytePair.hit now)).map fun entry => ⟨entry.current, entry.previous⟩

def cachedAnswer (now : Int) : Option Bool :=
  (w.kekPreflight.filter fun cached => preflightCacheHit cached.1 (now - cached.2)).map Prod.fst

def asks : Call → Bool
  | .getKekPair _ _ => true
  | .preflightKek now _ => (w.cachedAnswer now).isNone

def probes (c : Call) : Bool := c.isPreflight && w.asks c

def fetched (c : Call) : Option KekPair :=
  if w.asks c = true ∧ w.cachedPair c.now = none then (fetchKekPair c.answers).toOption else none

end Isolate

section
variable {now : Int} {answers : StoreAnswers} {w : Isolate} {c : Call} {pair : KekPair}

theorem getKekPair_cached (h : w.cachedPair now = some pair) : getKekPair now answers w = (.ok pair, w) := by
  unfold Isolate.cachedPair at h
  obtain ⟨entry, hentry, rfl⟩ := Option.map_eq_some_iff.mp h
  simp [getKekPair, getOrFetchBytePair, hentry]

theorem getKekPair_read (h : w.cachedPair now = none) : getKekPair now answers w = (fetchKekPair answers,
    match fetchKekPair answers with
    | .error _ => w
    | .ok pair => { w with kekCache := some ⟨pair.current, pair.previous, now⟩ }) := by
  unfold Isolate.cachedPair at h
  have hmiss := Option.map_eq_none_iff.mp h
  unfold getKekPair getOrFetchBytePair
  rw [hmiss]
  cases fetchKekPair answers <;> rfl

theorem getKekPair_isOk : (getKekPair now answers w).1.isOk = ((w.cachedPair now).isSome || (fetchKekPair answers).isOk) := by
  cases h : w.cachedPair now with
  | some pair => rw [getKekPair_cached h]; rfl
  | none => rw [getKekPair_read h]; rfl

theorem getKekPair_preflight : (getKekPair now answers w).2.kekPreflight = w.kekPreflight := rfl

theorem preflightKek_cached {available : Bool} (h : w.cachedAnswer now = some available) :
    preflightKek now answers w = (available, w) := by
  unfold Isolate.cachedAnswer at h
  obtain ⟨⟨available', checkedAt⟩, hcached, rfl⟩ := Option.map_eq_some_iff.mp h
  simp [preflightKek, hcached]

theorem preflightKek_asks (h : w.cachedAnswer now = none) :
    preflightKek now answers w = ((getKekPair now answers w).1.isOk,
      { (getKekPair now answers w).2 with kekPreflight := some ((getKekPair now answers w).1.isOk, now) }) := by
  unfold Isolate.cachedAnswer at h
  unfold preflightKek
  rw [Option.map_eq_none_iff.mp h]

theorem step_asks (h : w.asks c = true) : (w.step c).kekCache = (getKekPair c.now c.answers w).2.kekCache := by
  cases c with
  | getKekPair now answers => rfl
  | preflightKek now answers =>
    change (preflightKek now answers w).2.kekCache = _
    rw [preflightKek_asks (Option.isNone_iff_eq_none.mp h)]
    rfl

theorem step_unasked (h : w.asks c = false) : w.step c = w := by
  cases c with
  | getKekPair now answers => cases h
  | preflightKek now answers =>
    change (preflightKek now answers w).2 = w
    cases hanswer : w.cachedAnswer now with
    | some available => rw [preflightKek_cached hanswer]
    | none => simp [Isolate.asks, hanswer] at h

theorem step_getKekPair (now : Int) (answers : StoreAnswers) : w.step (.getKekPair now answers) = (getKekPair now answers w).2 := rfl

theorem step_preflightKek (now : Int) (answers : StoreAnswers) : w.step (.preflightKek now answers) = (preflightKek now answers w).2 :=
  rfl

end

/-! ## Both slots along a run -/

def Isolate.pairSlot (w : Isolate) : Option (KekPair × Int) :=
  w.kekCache.map fun entry => (⟨entry.current, entry.previous⟩, entry.fetchedAtMs)

def Isolate.probed (w : Isolate) (c : Call) : Option Bool :=
  if w.probes c then some (getKekPair c.now c.answers w).1.isOk else none

theorem cachedPair_eq (w : Isolate) (now : Int) :
    w.cachedPair now = TtlSlot.read (fun _ => cacheTtlMs) now w.pairSlot := by
  unfold Isolate.cachedPair Isolate.pairSlot
  cases w.kekCache with
  | none => rfl
  | some entry =>
    rw [Option.filter_some, Option.map_some, TtlSlot.read]
    by_cases h : 0 ≤ now - entry.fetchedAtMs ∧ now - entry.fetchedAtMs < cacheTtlMs
    · rw [if_pos h, if_pos (show CachedBytePair.hit now entry = true from decide_eq_true h)]
      rfl
    · rw [if_neg h, if_neg (show ¬CachedBytePair.hit now entry = true by simpa [CachedBytePair.hit] using h)]
      rfl

theorem cachedAnswer_eq (w : Isolate) (now : Int) : w.cachedAnswer now = TtlSlot.read preflightTtl now w.kekPreflight := by
  unfold Isolate.cachedAnswer
  cases w.kekPreflight with
  | none => rfl
  | some cached =>
    rw [Option.filter_some, TtlSlot.read]
    by_cases h : 0 ≤ now - cached.2 ∧ now - cached.2 < preflightTtl cached.1
    · rw [if_pos h, if_pos (show preflightCacheHit cached.1 (now - cached.2) = true from decide_eq_true h)]
      rfl
    · rw [if_neg h, if_neg (show ¬preflightCacheHit cached.1 (now - cached.2) = true by simpa [preflightCacheHit] using h)]
      rfl

theorem pairSlot_keeps : TtlSlot.Keeps Isolate.step Call.now (fun _ => cacheTtlMs) Isolate.pairSlot Isolate.fetched where
  filled := by
    intro w c pair h
    unfold Isolate.fetched at h
    split at h
    · rename_i hreads
      have hok : fetchKekPair c.answers = .ok pair := by
        cases hfetch : fetchKekPair c.answers with
        | error e => rw [hfetch] at h; cases h
        | ok pair' => rw [hfetch] at h; cases h; rfl
      rw [Isolate.pairSlot, step_asks hreads.1, getKekPair_read hreads.2, hok]
      rfl
    · cases h
  left := by
    intro w c h
    unfold Isolate.fetched at h
    cases hasks : w.asks c with
    | false => rw [step_unasked hasks]
    | true =>
      rw [Isolate.pairSlot, step_asks hasks]
      cases hcached : w.cachedPair c.now with
      | some pair => rw [getKekPair_cached hcached]; rfl
      | none =>
        rw [if_pos ⟨hasks, hcached⟩] at h
        rw [getKekPair_read hcached]
        cases hfetch : fetchKekPair c.answers with
        | error e => rfl
        | ok pair => rw [hfetch] at h; cases h
  guarded := by
    intro w c h
    rw [← cachedPair_eq] at h
    obtain ⟨pair, hpair⟩ := Option.isSome_iff_exists.mp h
    rw [Isolate.fetched, if_neg]
    rintro ⟨-, hnone⟩
    rw [hnone] at hpair
    cases hpair

theorem preflightSlot_keeps : TtlSlot.Keeps Isolate.step Call.now preflightTtl Isolate.kekPreflight Isolate.probed where
  filled := by
    intro w c available h
    unfold Isolate.probed at h
    split at h
    · rename_i hprobes
      cases c with
      | getKekPair now answers => cases hprobes
      | preflightKek now answers =>
        cases h
        rw [step_preflightKek, preflightKek_asks (Option.isNone_iff_eq_none.mp hprobes)]
        rfl
    · cases h
  left := by
    intro w c h
    cases c with
    | getKekPair now answers => rfl
    | preflightKek now answers =>
      cases hanswer : w.cachedAnswer now with
      | some available => rw [step_preflightKek, preflightKek_cached hanswer]
      | none => simp [Isolate.probed, Isolate.probes, Call.isPreflight, Isolate.asks, hanswer] at h
  guarded := by
    intro w c h
    rw [← cachedAnswer_eq] at h
    cases c with
    | getKekPair now answers => rfl
    | preflightKek now answers =>
      have hsome : (w.cachedAnswer now).isNone = false := by
        rw [Option.isNone_eq_false_iff]
        exact h
      simp [Isolate.probed, Isolate.probes, Isolate.asks, hsome]

/-! ## The history -/

/-- The key can be had: it can be read now, or a call of the last five minutes has read it. -/
def KekAt (before : List Call) (now : Int) (answers : StoreAnswers) : Prop :=
  (fetchKekPair answers).isOk = true ∨ ∃ past earlier rest, before = past ++ earlier :: rest ∧
    ((after past).fetched earlier).isSome = true ∧ now < earlier.now + 300000

section
variable {before : List Call} {c : Call}

theorem Timely.past (h : Timely (before ++ [c])) :
    (before.Pairwise fun a b => a.now ≤ b.now) ∧ ∀ earlier ∈ before, earlier.now ≤ c.now := by
  obtain ⟨hbefore, -, hle⟩ := List.pairwise_append.mp h
  exact ⟨hbefore, fun earlier hin => hle earlier hin c (by simp)⟩

theorem Timely.upto {past rest : List Call} (h : Timely (past ++ c :: rest)) : Timely (past ++ [c]) := by
  refine List.Pairwise.sublist ?_ h
  simp

theorem cachedPair_iff (h : Timely (before ++ [c])) {pair : KekPair} :
    (after before).cachedPair c.now = some pair ↔ ∃ past earlier rest, before = past ++ earlier :: rest ∧
      (after past).fetched earlier = some pair ∧ c.now < earlier.now + 300000 := by
  obtain ⟨hordered, hle⟩ := h.past
  rw [cachedPair_eq]
  exact TtlSlot.read_iff pairSlot_keeps rfl hordered hle

theorem available_iff (h : Timely (before ++ [c])) :
    (getKekPair c.now c.answers (after before)).1.isOk = true ↔ KekAt before c.now c.answers := by
  rw [getKekPair_isOk, Bool.or_eq_true, or_comm, KekAt]
  refine or_congr_right ?_
  rw [Option.isSome_iff_exists]
  constructor
  · rintro ⟨pair, hpair⟩
    obtain ⟨past, earlier, rest, heq, hfetched, hlt⟩ := (cachedPair_iff h).mp hpair
    exact ⟨past, earlier, rest, heq, by rw [hfetched]; rfl, hlt⟩
  · rintro ⟨past, earlier, rest, heq, hsome, hlt⟩
    obtain ⟨pair, hfetched⟩ := Option.isSome_iff_exists.mp hsome
    exact ⟨pair, (cachedPair_iff h).mpr ⟨past, earlier, rest, heq, hfetched, hlt⟩⟩

theorem cachedAnswer_iff (h : Timely (before ++ [c])) {available : Bool} :
    (after before).cachedAnswer c.now = some available ↔ ∃ past probe rest, before = past ++ probe :: rest ∧
      (after past).probes probe = true ∧ (available = true ↔ KekAt past probe.now probe.answers) ∧
      c.now < probe.now + preflightTtl available := by
  obtain ⟨hordered, hle⟩ := h.past
  rw [cachedAnswer_eq]
  refine (TtlSlot.read_iff preflightSlot_keeps rfl hordered hle).trans ?_
  refine exists_congr fun past => exists_congr fun probe => exists_congr fun rest => and_congr_right fun heq => ?_
  have hprobe : Timely (past ++ [probe]) := by
    rw [heq, List.append_assoc] at h
    exact h.upto
  rw [← and_assoc]
  refine and_congr_left fun _ => ?_
  change (after past).probed probe = some available ↔ _
  rw [← available_iff hprobe, Isolate.probed]
  by_cases hprobes : (after past).probes probe = true
  · simp only [hprobes, if_true, Option.some.injEq, true_and]
    rw [Bool.eq_iff_iff]
    exact iff_comm
  · simp [hprobes]

end

/-! ## The preflight and the fetch -/

/-- `preflight_kek` says what `get_kek_pair` would do at that moment. -/
def PreflightAgrees (before : List Call) (now : Int) (answers : StoreAnswers) : Prop :=
  (preflightKek now answers (after before)).1 = (getKekPair now answers (after before)).1.isOk

/-- A probe of the last five minutes that could have the key and one of the last thirty seconds that could not
found it as it is now. -/
def PreflightSteady (before : List Call) (now : Int) (answers : StoreAnswers) : Prop :=
  ∀ past probe rest, before = past ++ probe :: rest → (after past).probes probe = true →
    (KekAt past probe.now probe.answers → now < probe.now + 300000 → KekAt before now answers) ∧
    (¬KekAt past probe.now probe.answers → now < probe.now + 30000 → ¬KekAt before now answers)

theorem preflightAgrees_iff {before : List Call} {now : Int} {answers : StoreAnswers}
    (h : Timely (before ++ [.preflightKek now answers])) :
    PreflightAgrees before now answers ↔ PreflightSteady before now answers := by
  have havailable : (getKekPair now answers (after before)).1.isOk = true ↔ KekAt before now answers := available_iff h
  have hanswer : ∀ available, (after before).cachedAnswer now = some available ↔ ∃ past probe rest,
      before = past ++ probe :: rest ∧ (after past).probes probe = true ∧
        (available = true ↔ KekAt past probe.now probe.answers) ∧ now < probe.now + preflightTtl available :=
    fun _ => cachedAnswer_iff h
  unfold PreflightAgrees
  constructor
  · intro hagrees past probe rest heq hprobes
    refine ⟨fun hkek hlt => ?_, fun hkek hlt => ?_⟩
    · have hcached := (hanswer true).mpr ⟨past, probe, rest, heq, hprobes, iff_of_true rfl hkek, hlt⟩
      rw [preflightKek_cached hcached] at hagrees
      exact havailable.mp hagrees.symm
    · have hcached := (hanswer false).mpr ⟨past, probe, rest, heq, hprobes, iff_of_false Bool.false_ne_true hkek, hlt⟩
      rw [preflightKek_cached hcached] at hagrees
      intro hnow
      rw [havailable.mpr hnow] at hagrees
      cases hagrees
  · intro hsteady
    cases hcached : (after before).cachedAnswer now with
    | none => rw [preflightKek_asks hcached]
    | some available =>
      rw [preflightKek_cached hcached]
      obtain ⟨past, probe, rest, heq, hprobes, hkek, hlt⟩ := (hanswer available).mp hcached
      obtain ⟨hfound, hmissed⟩ := hsteady past probe rest heq hprobes
      cases available with
      | true => exact (havailable.mpr (hfound (hkek.mp rfl) hlt)).symm
      | false =>
        have hnot : ¬KekAt past probe.now probe.answers := fun hk => Bool.false_ne_true (hkek.mpr hk)
        cases hok : (getKekPair now answers (after before)).1.isOk with
        | false => rfl
        | true => exact absurd (havailable.mp hok) (hmissed hnot hlt)

/-- In a run whose clock does not go back every preflight agrees with the fetch exactly where no probe it may
answer from found the key otherwise. -/
theorem preflight_agrees_iff (run : List Call) (h : Timely run) :
    (∀ before now answers rest, run = before ++ .preflightKek now answers :: rest → PreflightAgrees before now answers) ↔
      ∀ before now answers rest, run = before ++ .preflightKek now answers :: rest → PreflightSteady before now answers := by
  have hcall : ∀ before now answers rest, run = before ++ .preflightKek now answers :: rest →
      Timely (before ++ [.preflightKek now answers]) := by
    rintro before now answers rest rfl
    exact h.upto
  exact forall₅_congr fun before now answers rest heq => preflightAgrees_iff (hcall before now answers rest heq)

def currentDrill : String := Base64.encode (List.replicate 32 7)

def previousDrill : String := Base64.encode (List.replicate 32 8)

def storeUp : StoreAnswers := ⟨.found currentDrill, .found previousDrill⟩

def storeDown : StoreAnswers := ⟨.failed "Secrets Store unavailable", .failed "Secrets Store unavailable"⟩

theorem retry_agrees : PreflightAgrees [.preflightKek 0 storeDown] 30000 storeUp := by
  have htimely : Timely [.preflightKek 0 storeDown, .preflightKek 30000 storeUp] := by simp [Timely, Call.now]
  refine (preflight_agrees_iff _ htimely).mpr ?_ _ _ _ [] rfl
  rintro (_ | ⟨c, _ | ⟨d, before⟩⟩) now answers rest heq past probe later hsplit
  · simp at hsplit
  · simp only [List.cons_append, List.nil_append, List.cons.injEq, Call.preflightKek.injEq] at heq
    obtain ⟨rfl, ⟨rfl, rfl⟩, -⟩ := heq
    obtain ⟨rfl, rfl, rfl⟩ : past = [] ∧ probe = .preflightKek 0 storeDown ∧ later = [] := by
      cases past with
      | nil => simpa [eq_comm] using hsplit
      | cons p past => simp at hsplit
    intro _
    refine ⟨fun hkek => ?_, fun _ hlt => by simp [Call.now] at hlt⟩
    rcases hkek with hread | ⟨past, earlier, rest, heq, -⟩
    · exact absurd hread (by decide)
    · simp at heq
  · simp at heq

/-- A recovered store is refused for half a minute, and an answer outlives the pair it was taken from. -/
theorem preflight_disagrees :
    (Timely [.preflightKek 0 storeDown, .preflightKek 10000 storeUp] ∧
      ¬PreflightAgrees [.preflightKek 0 storeDown] 10000 storeUp) ∧
    Timely [.getKekPair 0 storeUp, .preflightKek 200000 storeUp, .preflightKek 400000 storeDown] ∧
      ¬PreflightAgrees [.getKekPair 0 storeUp, .preflightKek 200000 storeUp] 400000 storeDown := by
  refine ⟨⟨by simp [Timely, Call.now], ?_⟩, by simp [Timely, Call.now], ?_⟩
  · unfold PreflightAgrees
    decide +kernel
  · unfold PreflightAgrees
    decide +kernel

/-! ## The previous key -/

/-- Both secrets are there and hold these keys; a read gives the text or fails. -/
structure Provisioned (currentB64 previousB64 : String) (current previous : Bytes) (answers : StoreAnswers) : Prop where
  current_valid : Base64.decode currentB64 = some current ∧ current.length = 32
  previous_valid : Base64.decode previousB64 = some previous ∧ previous.length = 32
  issuerKek : answers.issuerKek = .found currentB64 ∨ ∃ e, answers.issuerKek = .failed e
  issuerKekPrevious : answers.issuerKekPrevious = .found previousB64 ∨ ∃ e, answers.issuerKekPrevious = .failed e

/-- A pair without the previous key comes of a call that failed to read it, and a call that can read both secrets
makes everything readable again. -/
def PreviousKept (currentB64 previousB64 : String) (previous : Bytes) (before : List Call) (now : Int) (answers : StoreAnswers) :
    Prop :=
  (∀ pair, (getKekPair now answers (after before)).1 = .ok pair → pair.previous = none →
    (after before).cachedPair now = none ∧ ∃ e, answers.issuerKekPrevious = .failed e) ∧
  (answers = ⟨.found currentB64, .found previousB64⟩ → ∃ pair, (getKekPair now answers (after before)).1 = .ok pair ∧
    ∀ (A : AesGcm) (data purpose : Bytes), (decryptWithKek A previous data purpose).isOk = true →
      (decryptWithKekFallback A pair data purpose).isOk = true)

/-- No call of the last five minutes has brought a pair into the cache without being able to read the previous key. -/
def PreviousSeen (before : List Call) (now : Int) : Prop :=
  ∀ past earlier rest e, before = past ++ earlier :: rest → ((after past).fetched earlier).isSome = true →
    earlier.answers.issuerKekPrevious = .failed e → earlier.now + 300000 ≤ now

theorem decryptWithKekFallback_previous {A : AesGcm} {pair : KekPair} {previous data purpose : Bytes}
    (hprevious : pair.previous = some previous) (h : (decryptWithKek A previous data purpose).isOk = true) :
    (decryptWithKekFallback A pair data purpose).isOk = true := by
  unfold decryptWithKekFallback
  rw [hprevious]
  cases decryptWithKek A pair.current data purpose with
  | ok plaintext => rfl
  | error primaryErr =>
    cases hprev : decryptWithKek A previous data purpose with
    | ok plaintext => simp only [hprev, Except.isOk, Except.toBool]
    | error e => rw [hprev] at h; cases h

section
variable {currentB64 previousB64 : String} {current previous : Bytes} {answers : StoreAnswers} {pair : KekPair}

theorem fetchAndDecodeKek_found {binding b64 : String} {required : Bool} {key : Bytes}
    (h : Base64.decode b64 = some key ∧ key.length = 32) : fetchAndDecodeKek binding required (.found b64) = .ok (some key) := by
  simp [fetchAndDecodeKek, h.1, h.2]

/-- What a fetch brings in: the current key, and the previous one unless its read fails. -/
theorem Provisioned.fetch (h : Provisioned currentB64 previousB64 current previous answers)
    (hfetch : fetchKekPair answers = .ok pair) :
    (∃ e, answers.issuerKekPrevious = .failed e) ∧ pair = ⟨current, none⟩ ∨
      answers.issuerKekPrevious = .found previousB64 ∧ pair = ⟨current, some previous⟩ := by
  unfold fetchKekPair at hfetch
  rcases h.issuerKek with hkek | ⟨e, hkek⟩
  · rw [hkek, fetchAndDecodeKek_found h.current_valid] at hfetch
    rcases h.issuerKekPrevious with hprev | ⟨e, hprev⟩
    · simp only [hprev, fetchAndDecodeKek_found h.previous_valid] at hfetch
      cases hfetch
      exact .inr ⟨hprev, rfl⟩
    · simp only [hprev, fetchAndDecodeKek] at hfetch
      cases hfetch
      exact .inl ⟨⟨e, hprev⟩, rfl⟩
  · rw [hkek] at hfetch
    cases hfetch

theorem Provisioned.fetch_found (h : Provisioned currentB64 previousB64 current previous answers)
    (hanswers : answers = ⟨.found currentB64, .found previousB64⟩) : fetchKekPair answers = .ok ⟨current, some previous⟩ := by
  subst hanswers
  simp only [fetchKekPair, fetchAndDecodeKek_found h.current_valid, fetchAndDecodeKek_found h.previous_valid]

theorem fetched_eq_some {w : Isolate} {c : Call} (h : w.fetched c = some pair) : fetchKekPair c.answers = .ok pair := by
  unfold Isolate.fetched at h
  split at h
  · cases hfetch : fetchKekPair c.answers with
    | error e => rw [hfetch] at h; cases h
    | ok pair' => rw [hfetch] at h; cases h; rfl
  · cases h

variable {before : List Call} {now : Int}

theorem previousKept_iff (h : Timely (before ++ [.getKekPair now answers]))
    (hprov : ∀ c ∈ before ++ [.getKekPair now answers], Provisioned currentB64 previousB64 current previous c.answers) :
    PreviousKept currentB64 previousB64 previous before now answers ↔ PreviousSeen before now := by
  have hcached : ∀ pair, (after before).cachedPair now = some pair ↔ ∃ past earlier rest, before = past ++ earlier :: rest ∧
      (after past).fetched earlier = some pair ∧ now < earlier.now + 300000 := fun _ => cachedPair_iff h
  have hnow : Provisioned currentB64 previousB64 current previous answers := hprov (.getKekPair now answers) (by simp)
  constructor
  · intro hkept past earlier rest e heq hsome hfailed
    by_contra hlate
    obtain ⟨pair, hfetched⟩ := Option.isSome_iff_exists.mp hsome
    have hearlier : Provisioned currentB64 previousB64 current previous earlier.answers := hprov earlier (by simp [heq])
    have hnone : pair.previous = none := by
      rcases hearlier.fetch (fetched_eq_some hfetched) with ⟨-, rfl⟩ | ⟨hfound, -⟩
      · rfl
      · rw [hfailed] at hfound
        cases hfound
    have hhit := (hcached pair).mpr ⟨past, earlier, rest, heq, hfetched, by omega⟩
    have hmiss := (hkept.1 pair (by rw [getKekPair_cached hhit]) hnone).1
    rw [hhit] at hmiss
    cases hmiss
  · intro hseen
    cases hpair : (after before).cachedPair now with
    | none =>
      refine ⟨fun pair hok hnone => ⟨hpair, ?_⟩, fun hanswers => ?_⟩
      · rw [getKekPair_read hpair] at hok
        rcases hnow.fetch hok with ⟨hfailed, -⟩ | ⟨-, rfl⟩
        · exact hfailed
        · cases hnone
      · refine ⟨⟨current, some previous⟩, ?_, fun A data purpose => decryptWithKekFallback_previous rfl⟩
        rw [getKekPair_read hpair, hnow.fetch_found hanswers]
    | some pair =>
      obtain ⟨past, earlier, rest, heq, hfetched, hlt⟩ := (hcached pair).mp hpair
      have hearlier : Provisioned currentB64 previousB64 current previous earlier.answers := hprov earlier (by simp [heq])
      have hprevious : pair.previous = some previous := by
        rcases hearlier.fetch (fetched_eq_some hfetched) with ⟨⟨e, hfailed⟩, -⟩ | ⟨-, rfl⟩
        · have := hseen past earlier rest e heq (by rw [hfetched]; rfl) hfailed
          omega
        · rfl
      refine ⟨fun pair' hok hnone => ?_, fun _ => ⟨pair, ?_, fun A data purpose => decryptWithKekFallback_previous hprevious⟩⟩
      · rw [getKekPair_cached hpair] at hok
        cases hok
        rw [hprevious] at hnone
        cases hnone
      · rw [getKekPair_cached hpair]

end

/-- With both secrets in place, the pair of every call of a run is as good as the store is at that moment exactly
where none is taken from a fetch that missed the previous key. -/
theorem previous_kept_iff (currentB64 previousB64 : String) (current previous : Bytes) (run : List Call) (h : Timely run)
    (hprov : ∀ c ∈ run, Provisioned currentB64 previousB64 current previous c.answers) :
    (∀ before now answers rest, run = before ++ .getKekPair now answers :: rest →
        PreviousKept currentB64 previousB64 previous before now answers) ↔
      ∀ before now answers rest, run = before ++ .getKekPair now answers :: rest → PreviousSeen before now := by
  refine forall₅_congr fun before now answers rest heq => ?_
  subst heq
  refine previousKept_iff h.upto fun c hc => hprov c ?_
  simp only [List.mem_append, List.mem_cons, List.not_mem_nil, or_false] at hc ⊢
  tauto

def previousFails : StoreAnswers := ⟨.found currentDrill, .failed "timeout"⟩

theorem provisioned_drill {answers : StoreAnswers} (h : answers = storeUp ∨ answers = previousFails) :
    Provisioned currentDrill previousDrill (List.replicate 32 7) (List.replicate 32 8) answers := by
  refine ⟨by decide, by decide, ?_, ?_⟩
  · rcases h with rfl | rfl <;> exact .inl rfl
  · rcases h with rfl | rfl
    · exact .inl rfl
    · exact .inr ⟨_, rfl⟩

theorem previous_kept_later : PreviousKept currentDrill previousDrill (List.replicate 32 8)
    [.getKekPair 0 previousFails] 300000 storeUp := by
  have htimely : Timely [.getKekPair 0 previousFails, .getKekPair 300000 storeUp] := by simp [Timely, Call.now]
  refine (previous_kept_iff currentDrill previousDrill (List.replicate 32 7) _ _ htimely ?_).mpr ?_ _ _ _ [] rfl
  · intro c hc
    simp only [List.mem_cons, List.not_mem_nil, or_false] at hc
    rcases hc with rfl | rfl
    · exact provisioned_drill (.inr rfl)
    · exact provisioned_drill (.inl rfl)
  · rintro (_ | ⟨c, _ | ⟨d, before⟩⟩) now answers rest heq past earlier later e hsplit hsome hfailed
    · simp at hsplit
    · simp only [List.cons_append, List.nil_append, List.cons.injEq, Call.getKekPair.injEq] at heq
      obtain ⟨rfl, ⟨rfl, rfl⟩, -⟩ := heq
      have hearlier : earlier = .getKekPair 0 previousFails := by
        cases past with
        | nil => exact (List.cons.inj hsplit).1.symm
        | cons p past => simp at hsplit
      rw [hearlier]
      decide
    · simp at heq

/-- One failed read hides the previous key although the store has recovered. -/
theorem previous_hidden :
    Timely [.getKekPair 0 previousFails, .getKekPair 10000 storeUp] ∧
      (∀ c ∈ [Call.getKekPair 0 previousFails, .getKekPair 10000 storeUp],
        Provisioned currentDrill previousDrill (List.replicate 32 7) (List.replicate 32 8) c.answers) ∧
      ¬PreviousKept currentDrill previousDrill (List.replicate 32 8) [.getKekPair 0 previousFails] 10000 storeUp := by
  refine ⟨by simp [Timely, Call.now], ?_, fun h => ?_⟩
  · intro c hc
    simp only [List.mem_cons, List.not_mem_nil, or_false] at hc
    rcases hc with rfl | rfl
    · exact provisioned_drill (.inr rfl)
    · exact provisioned_drill (.inl rfl)
  · have hok : (getKekPair 10000 storeUp (after [.getKekPair 0 previousFails])).1 = .ok ⟨List.replicate 32 7, none⟩ := by
      decide +kernel
    obtain ⟨-, e, hfailed⟩ := h.1 _ hok rfl
    cases hfailed

end Kek

end Issuer
