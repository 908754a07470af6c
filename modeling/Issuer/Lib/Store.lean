import Mathlib

/-!
# Sorted tables, bounded clean-up and expiring entries

A `Table` is a key-value map that lists its keys in ascending order. `sweep` is the clean-up loop
over a list of keys: a judge looks at each entry and skips it, drops it, or keeps it and reports
when it falls due; the loop returns the smaller table and the earliest due time it saw.

An expiring table (`Entry`) gives each value an optional expiry; a read sees an entry only while
it is live, and a later write replaces value and expiry together.
-/

namespace Store

abbrev Table (κ : Type) [Ord κ] (β : Type) := Std.TreeMap κ β compare

section
variable {κ β : Type} [Ord κ] [Std.TransOrd κ] [Std.LawfulEqOrd κ] [DecidableEq κ]

theorem insert_get (m : Table κ β) (k a : κ) (v : β) :
    (m.insert k v)[a]? = if k = a then some v else m[a]? := by
  rw [Std.TreeMap.getElem?_insert]
  by_cases h : k = a <;> simp [h]

theorem insert_get_of_ne (m : Table κ β) {k a : κ} (h : k ≠ a) (v : β) :
    (m.insert k v)[a]? = m[a]? := by
  rw [insert_get, if_neg h]

theorem erase_get (m : Table κ β) (k a : κ) :
    (m.erase k)[a]? = if k = a then none else m[a]? := by
  rw [Std.TreeMap.getElem?_erase]
  by_cases h : k = a <;> simp [h]

theorem erase_get_of_ne (m : Table κ β) {k a : κ} (h : k ≠ a) : (m.erase k)[a]? = m[a]? := by
  rw [erase_get, if_neg h]

omit [DecidableEq κ] in
theorem mem_keys_iff (m : Table κ β) (k : κ) : k ∈ m.keys ↔ ∃ v, m[k]? = some v := by
  rw [Std.TreeMap.mem_keys, Std.TreeMap.mem_iff_isSome_getElem?, Option.isSome_iff_exists]

end

/-! ## Clean-up -/

inductive Verdict (τ : Type) where
  | skip
  | drop
  | keep (due : τ)

section
variable {κ β τ : Type} [Ord κ] [Min τ] (judge : κ → β → Verdict τ)

def earlier (due : τ) : Option τ → Option τ
  | some e => some (min e due)
  | none => some due

def sweepStep (acc : Table κ β × Option τ) (k : κ) : Table κ β × Option τ :=
  match acc.1[k]? with
  | none => acc
  | some v =>
    match judge k v with
    | .skip => acc
    | .drop => (acc.1.erase k, acc.2)
    | .keep due => (acc.1, earlier due acc.2)

def sweep (m : Table κ β) (ks : List κ) : Table κ β × Option τ :=
  ks.foldl (sweepStep judge) (m, none)

variable [Std.TransOrd κ] [Std.LawfulEqOrd κ] [DecidableEq κ]

theorem sweepStep_get (acc : Table κ β × Option τ) (k a : κ) :
    (sweepStep judge acc k).1[a]? = acc.1[a]? ∨
      (sweepStep judge acc k).1[a]? = none ∧ ∃ v, acc.1[a]? = some v ∧ judge a v = .drop := by
  unfold sweepStep
  cases hv : acc.1[k]? with
  | none => exact .inl rfl
  | some v =>
    simp only
    cases hj : judge k v with
    | skip => exact .inl rfl
    | keep due => exact .inl rfl
    | drop =>
      by_cases hka : k = a
      · subst hka
        exact .inr ⟨by simp, v, hv, hj⟩
      · exact .inl (erase_get_of_ne _ hka)

theorem foldl_sweepStep_get (a : κ) : ∀ (ks : List κ) (acc : Table κ β × Option τ),
    (ks.foldl (sweepStep judge) acc).1[a]? = acc.1[a]? ∨
      (ks.foldl (sweepStep judge) acc).1[a]? = none ∧ ∃ v, acc.1[a]? = some v ∧ judge a v = .drop
  | [], _ => .inl rfl
  | k :: ks, acc => by
    simp only [List.foldl_cons]
    rcases sweepStep_get judge acc k a with h | ⟨h, v, hv, hj⟩
    · rcases foldl_sweepStep_get a ks (sweepStep judge acc k) with h' | ⟨h', v, hv, hj⟩
      · exact .inl (h'.trans h)
      · exact .inr ⟨h', v, h ▸ hv, hj⟩
    · rcases foldl_sweepStep_get a ks (sweepStep judge acc k) with h' | ⟨h', v', hv', _⟩
      · exact .inr ⟨h'.trans h, v, hv, hj⟩
      · rw [h] at hv'; cases hv'

/-- A clean-up leaves an entry alone or drops one that was judged so. -/
theorem sweep_get (m : Table κ β) (ks : List κ) (a : κ) :
    (sweep judge m ks).1[a]? = m[a]? ∨
      (sweep judge m ks).1[a]? = none ∧ ∃ v, m[a]? = some v ∧ judge a v = .drop :=
  foldl_sweepStep_get judge a ks (m, none)

theorem sweep_survives {m : Table κ β} (ks : List κ) {a : κ} {v : β} (hv : m[a]? = some v)
    (hj : judge a v ≠ .drop) : (sweep judge m ks).1[a]? = some v := by
  rcases sweep_get judge m ks a with h | ⟨_, w, hw, hd⟩
  · rw [h, hv]
  · rw [hv] at hw
    cases hw
    exact absurd hd hj

theorem sweep_subset {m : Table κ β} {ks : List κ} {a : κ} {v : β}
    (hv : (sweep judge m ks).1[a]? = some v) : m[a]? = some v := by
  rcases sweep_get judge m ks a with h | ⟨h, _⟩
  · rw [← h, hv]
  · rw [h] at hv; cases hv

end

/-! ## Expiring entries -/

structure Entry (β : Type) where
  value : β
  expires : Option Nat
deriving Repr

def Entry.live {β : Type} (e : Entry β) (now : Nat) : Bool :=
  match e.expires with
  | some x => decide (now < x)
  | none => true

section
variable {κ β : Type} [Ord κ]

def get (m : Table κ (Entry β)) (now : Nat) (k : κ) : Option β :=
  match m[k]? with
  | some e => if e.live now then some e.value else none
  | none => none

def put (m : Table κ (Entry β)) (now : Nat) (ttl : Option Nat) (k : κ) (v : β) : Table κ (Entry β) :=
  m.insert k ⟨v, ttl.map (now + ·)⟩

theorem get_congr {m m' : Table κ (Entry β)} {k : κ} (h : m[k]? = m'[k]?) (now : Nat) :
    get m now k = get m' now k := by
  unfold get; rw [h]

theorem get_expired {m : Table κ (Entry β)} {k : κ} {e : Entry β} (he : m[k]? = some e) {x now : Nat}
    (hx : e.expires = some x) (hle : x ≤ now) : get m now k = none := by
  unfold get Entry.live
  simp [he, hx, Nat.not_lt.mpr hle]

variable [Std.TransOrd κ]

theorem put_get_of_ne [Std.LawfulEqOrd κ] [DecidableEq κ] (m : Table κ (Entry β)) {k a : κ} (h : k ≠ a) (now t : Nat) (ttl : Option Nat)
    (v : β) : get (put m t ttl k v) now a = get m now a :=
  get_congr (insert_get_of_ne m h _) now

theorem put_get_self [Std.LawfulEqOrd κ] (m : Table κ (Entry β)) (k : κ) (now t : Nat) (ttl : Option Nat) (v : β) :
    get (put m t ttl k v) now k =
      if Entry.live ⟨v, ttl.map (t + ·)⟩ now then some v else none := by
  unfold get put
  simp

end

end Store
