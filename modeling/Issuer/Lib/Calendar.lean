import Mathlib

/-!
# Dates of the Gregorian calendar

A `Date` carries that its month has that day. `dayNumber` counts days from 1 January 1970, also for
the 29th of February of a common year, which is then the first of March; `fullYears` are the years
between two dates, a birthday counted from the day on which month and day come round.

`le_fullYears_iff` turns years into days, `exists_epochDay` says that every day has a date.
-/

namespace Calendar

def isLeap (y : Int) : Bool := decide (y % 4 = 0 ∧ (y % 100 ≠ 0 ∨ y % 400 = 0))

def leapDay (y : Int) : Nat := if isLeap y then 1 else 0

def monthLength (y : Int) : Nat → Nat
  | 2 => 28 + leapDay y
  | 4 | 6 | 9 | 11 => 30
  | _ => 31

/-- The days of the year before month `m`; the months are counted from 1. -/
def daysBeforeMonth (y : Int) (m : Nat) : Nat := ((List.range' 1 (m - 1)).map (monthLength y)).sum

def yearLength (y : Int) : Nat := daysBeforeMonth y 13

/-- The days from 1 January of year 1. -/
def daysBeforeYear (y : Int) : Int := 365 * (y - 1) + (y - 1) / 4 - (y - 1) / 100 + (y - 1) / 400

theorem leapDay_le (y : Int) : leapDay y ≤ 1 := by
  unfold leapDay; split <;> omega

theorem yearLength_eq (y : Int) : yearLength y = 365 + leapDay y := by
  simp [yearLength, daysBeforeMonth, monthLength, List.range'_succ]
  omega

theorem leapDay_cases (y : Int) : (leapDay y = 1 ∧ y % 4 = 0 ∧ (y % 100 ≠ 0 ∨ y % 400 = 0)) ∨
    (leapDay y = 0 ∧ (y % 4 ≠ 0 ∨ y % 100 = 0 ∧ y % 400 ≠ 0)) := by
  by_cases h : y % 4 = 0 ∧ (y % 100 ≠ 0 ∨ y % 400 = 0)
  · exact .inl ⟨by rw [leapDay, isLeap, decide_eq_true h, if_pos rfl], h⟩
  · refine .inr ⟨by rw [leapDay, isLeap, decide_eq_false h, if_neg Bool.false_ne_true], ?_⟩
    omega

/-- The closed form adds up the years. -/
theorem daysBeforeYear_succ (y : Int) : daysBeforeYear (y + 1) = daysBeforeYear y + yearLength y := by
  rw [yearLength_eq]
  unfold daysBeforeYear
  rcases leapDay_cases y with ⟨h, hy⟩ | ⟨h, hy⟩ <;> rw [h] <;> push_cast <;> omega

theorem daysBeforeMonth_succ (y : Int) {m : Nat} (h : 1 ≤ m) :
    daysBeforeMonth y (m + 1) = daysBeforeMonth y m + monthLength y m := by
  obtain ⟨k, rfl⟩ : ∃ k, m = k + 1 := ⟨m - 1, by omega⟩
  simp only [daysBeforeMonth, Nat.add_sub_cancel, List.range'_concat, List.map_append, List.map_cons, List.map_nil,
    List.sum_append, List.sum_cons, List.sum_nil, Nat.add_zero]
  congr 2
  omega

theorem daysBeforeMonth_mono (y : Int) {m m' : Nat} (h : 1 ≤ m) (hle : m ≤ m') :
    daysBeforeMonth y m ≤ daysBeforeMonth y m' := by
  induction m', hle using Nat.le_induction with
  | base => exact Nat.le_refl _
  | succ k hk ih =>
    rw [daysBeforeMonth_succ y (by omega)]
    omega

theorem daysBeforeYear_mono {y y' : Int} (h : y ≤ y') : daysBeforeYear y ≤ daysBeforeYear y' := by
  induction y', h using Int.leInduction with
  | base => exact Int.le_refl _
  | succ k hk ih =>
    rw [daysBeforeYear_succ]
    omega

/-! ## Dates -/

structure Date where
  year : Int
  month : Nat
  day : Nat
  month_pos : 1 ≤ month
  month_le : month ≤ 12
  day_pos : 1 ≤ day
  day_le : day ≤ monthLength year month
deriving DecidableEq, Repr

def dayNumber (y : Int) (m d : Nat) : Int := daysBeforeYear y + (daysBeforeMonth y m + d - 1 : Nat) - daysBeforeYear 1970

def Date.epochDay (a : Date) : Int := dayNumber a.year a.month a.day

/-- Month and day come earlier in the year. -/
def Date.EarlierInYear (a b : Date) : Prop := a.month < b.month ∨ a.month = b.month ∧ a.day < b.day

instance (a b : Date) : Decidable (a.EarlierInYear b) :=
  inferInstanceAs (Decidable (a.month < b.month ∨ a.month = b.month ∧ a.day < b.day))

def fullYears (birth today : Date) : Int :=
  today.year - birth.year - if today.EarlierInYear birth then 1 else 0

section
variable (a : Date)

theorem ordinal_lt : daysBeforeMonth a.year a.month + a.day - 1 < daysBeforeMonth a.year (a.month + 1) := by
  have hday := a.day_pos
  have hlen := a.day_le
  rw [daysBeforeMonth_succ a.year a.month_pos]
  omega

theorem epochDay_lt_year : a.epochDay < daysBeforeYear (a.year + 1) - daysBeforeYear 1970 := by
  have hord := ordinal_lt a
  have hmono : daysBeforeMonth a.year (a.month + 1) ≤ yearLength a.year :=
    daysBeforeMonth_mono a.year (by omega) (by have := a.month_le; omega)
  rw [daysBeforeYear_succ]
  unfold Date.epochDay dayNumber
  omega

theorem year_le_epochDay : daysBeforeYear a.year - daysBeforeYear 1970 ≤ a.epochDay := by
  unfold Date.epochDay dayNumber
  omega

end

/-! ## Birthdays -/

theorem birthday_le (birth : Date) (y : Int) :
    daysBeforeMonth y birth.month + birth.day - 1 ≤ daysBeforeMonth y (birth.month + 1) := by
  have hlen := birth.day_le
  have hleap := leapDay_le birth.year
  rw [daysBeforeMonth_succ y birth.month_pos]
  have hshort : monthLength birth.year birth.month ≤ monthLength y birth.month + 1 := by
    unfold monthLength; split <;> omega
  omega

theorem birthday_le_iff (birth today : Date) (y : Int) :
    dayNumber y birth.month birth.day ≤ today.epochDay ↔ y < today.year ∨ y = today.year ∧ ¬today.EarlierInYear birth := by
  have hpos := birth.day_pos
  have hfirst := birthday_le birth y
  have hlast : daysBeforeMonth y (birth.month + 1) ≤ yearLength y :=
    daysBeforeMonth_mono y (by omega) (by have := birth.month_le; omega)
  rcases lt_trichotomy y today.year with hy | rfl | hy
  · -- the birthday is at most the first day of the next year
    have hnext : daysBeforeYear (y + 1) ≤ daysBeforeYear today.year := daysBeforeYear_mono (by omega)
    have htoday := year_le_epochDay today
    rw [daysBeforeYear_succ] at hnext
    have hle : dayNumber y birth.month birth.day ≤ today.epochDay := by
      unfold dayNumber
      omega
    exact iff_of_true hle (.inl hy)
  · have hord := ordinal_lt today
    have hday := today.day_pos
    unfold Date.epochDay dayNumber Date.EarlierInYear
    rcases lt_trichotomy today.month birth.month with hm | hm | hm
    · have hmono : daysBeforeMonth today.year (today.month + 1) ≤ daysBeforeMonth today.year birth.month :=
        daysBeforeMonth_mono today.year (by omega) hm
      omega
    · rw [hm] at hord ⊢
      omega
    · have hmono : daysBeforeMonth today.year (birth.month + 1) ≤ daysBeforeMonth today.year today.month :=
        daysBeforeMonth_mono today.year (by omega) hm
      omega
  · have hprev : daysBeforeYear (today.year + 1) ≤ daysBeforeYear y := daysBeforeYear_mono (by omega)
    have htoday := epochDay_lt_year today
    have hlt : ¬dayNumber y birth.month birth.day ≤ today.epochDay := by
      unfold dayNumber
      omega
    exact iff_of_false hlt (by omega)

/-- The `n`-th birthday is the day from which on `n` full years have passed. -/
theorem le_fullYears_iff (n : Int) (birth today : Date) :
    n ≤ fullYears birth today ↔ dayNumber (birth.year + n) birth.month birth.day ≤ today.epochDay := by
  rw [birthday_le_iff, fullYears]
  by_cases h : today.EarlierInYear birth
  · simp only [h, if_true, not_true_eq_false, and_false, or_false]
    omega
  · simp only [h, if_false, not_false_eq_true, and_true]
    omega

/-! ## Every day has a date -/

theorem exists_step {f : Nat → Nat} {k m n : Nat} (hm : f m ≤ k) (hn : k < f n) (hle : m ≤ n) :
    ∃ i, m ≤ i ∧ i < n ∧ f i ≤ k ∧ k < f (i + 1) := by
  induction n, hle using Nat.le_induction with
  | base => omega
  | succ n hmn ih =>
    by_cases h : k < f n
    · obtain ⟨i, hi, hin, hik⟩ := ih h
      exact ⟨i, hi, by omega, hik⟩
    · exact ⟨n, hmn, by omega, by omega, hn⟩

/-- Each day is in one year: near the 400-th part of as many days as four centuries have. -/
theorem exists_year (n : Int) : ∃ y, daysBeforeYear y ≤ n ∧ n < daysBeforeYear (y + 1) := by
  have hlow : daysBeforeYear (n * 400 / 146097) ≤ n := by
    unfold daysBeforeYear
    omega
  have hhigh : n < daysBeforeYear (n * 400 / 146097 + 3) := by
    unfold daysBeforeYear
    omega
  generalize n * 400 / 146097 = y at hlow hhigh
  by_cases h1 : n < daysBeforeYear (y + 1)
  · exact ⟨y, hlow, h1⟩
  by_cases h2 : n < daysBeforeYear (y + 2)
  · exact ⟨y + 1, by omega, by rwa [show y + 1 + 1 = y + 2 by omega]⟩
  · exact ⟨y + 2, by omega, by rwa [show y + 2 + 1 = y + 3 by omega]⟩

theorem exists_epochDay (n : Int) : ∃ a : Date, a.epochDay = n := by
  obtain ⟨y, hlow, hhigh⟩ := exists_year (n + daysBeforeYear 1970)
  rw [daysBeforeYear_succ] at hhigh
  obtain ⟨k, hk⟩ : ∃ k : Nat, n + daysBeforeYear 1970 = daysBeforeYear y + k :=
    ⟨(n + daysBeforeYear 1970 - daysBeforeYear y).toNat, by omega⟩
  have hyear : k < daysBeforeMonth y 13 := by
    unfold yearLength at hhigh
    omega
  obtain ⟨m, hm, hm13, hmk, hkm⟩ := exists_step (f := daysBeforeMonth y) (Nat.zero_le k) hyear (by omega : 1 ≤ 13)
  rw [daysBeforeMonth_succ y hm] at hkm
  refine ⟨⟨y, m, k - daysBeforeMonth y m + 1, hm, by omega, by omega, by omega⟩, ?_⟩
  unfold Date.epochDay dayNumber
  simp only
  omega

end Calendar
