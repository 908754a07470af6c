import Issuer.AttestationSound
import Issuer.Lib.Calendar

/-!
# The guard for minors

Client authentication shall not attest anyone under 18. The guard counts days: it lets pass from 6574
days on, but 18 years are 6575 days where five leap days fall into them. Someone born so is let pass on
the day before the eighteenth birthday, and no one earlier.
-/

namespace Issuer

open Rust Calendar

/-! ## Eighteen years in days -/

/-- The year that starts on 1 March, before the leap day of its calendar year. -/
def marchYear (a : Date) : Int := if a.month ≤ 2 then a.year - 1 else a.year

/-- Five leap days come after the birth and up to the eighteenth birthday. -/
def FiveLeapDays (birth : Date) : Prop := marchYear birth % 4 = 2 ∨ marchYear birth % 4 = 3

instance (birth : Date) : Decidable (FiveLeapDays birth) :=
  inferInstanceAs (Decidable (marchYear birth % 4 = 2 ∨ marchYear birth % 4 = 3))

theorem daysBeforeMonth_leapDay (y : Int) {m : Nat} (hm : 1 ≤ m) (hm12 : m ≤ 12) :
    daysBeforeMonth y m = daysBeforeMonth 1 m + if m ≤ 2 then 0 else leapDay y := by
  have h1 : leapDay 1 = 0 := by decide
  interval_cases m <;> simp [daysBeforeMonth, monthLength, List.range'_succ, h1] <;> omega

theorem year_of_range {birth : Date} (hlow : -25000 ≤ birth.epochDay) (hhigh : birth.epochDay ≤ 36500) :
    1901 ≤ birth.year ∧ birth.year ≤ 2069 := by
  have hstart := year_le_epochDay birth
  have hstop := epochDay_lt_year birth
  unfold daysBeforeYear at hstart hstop
  omega

theorem eighteen_years {birth : Date} (hlow : -25000 ≤ birth.epochDay) (hhigh : birth.epochDay ≤ 36500) :
    dayNumber (birth.year + 18) birth.month birth.day = birth.epochDay + if FiveLeapDays birth then 6575 else 6574 := by
  obtain ⟨hfrom, hto⟩ := year_of_range hlow hhigh
  have hday := birth.day_pos
  unfold Date.epochDay dayNumber FiveLeapDays marchYear
  rw [daysBeforeMonth_leapDay _ birth.month_pos birth.month_le, daysBeforeMonth_leapDay birth.year birth.month_pos birth.month_le]
  unfold daysBeforeYear
  have h18 := leapDay_cases (birth.year + 18)
  have h0 := leapDay_cases birth.year
  by_cases hm : birth.month ≤ 2
  · simp only [hm, if_true]
    split <;> omega
  · simp only [hm, if_false]
    split <;> omega

/-! ## The guard -/

section
variable (C : ClientCrypto)

def passesChildGuard (call : CreateCall) (w : ClientWorld) : Bool :=
  (authorizeAttestation C call w).1.isOk &&
    !decide (call.request.authorizer.format = "client" ∧ satSubI32 (nowDays call.age) call.request.dobDays < 6574)

variable {C} {VerifyingKey : Type} {L : AttestationLib VerifyingKey} {call : CreateCall} {w : ClientWorld} {config : IssuerConfig}

theorem createAttestation_of_passes (h : passesChildGuard C call w = true) :
    (createAttestation C L call w config).1 = match call.quota with
      | .error e => .error e
      | .ok () => signAttestation C L call config := by
  simp only [passesChildGuard, Bool.and_eq_true, Bool.not_eq_true', decide_eq_false_iff_not] at h
  obtain ⟨hauth, hguard⟩ := h
  unfold createAttestation
  split
  · rename_i hfail
    rw [hfail] at hauth
    cases hauth
  · rw [if_neg hguard]
    split <;> simp only [*]

theorem passesChildGuard_of_ok (h : (createAttestation C L call w config).1.isOk = true) :
    passesChildGuard C call w = true := by
  simp only [passesChildGuard, Bool.and_eq_true, Bool.not_eq_true', decide_eq_false_iff_not]
  unfold createAttestation at h
  split at h
  · cases h
  · rename_i hauth
    refine ⟨by rw [hauth]; rfl, fun hguard => ?_⟩
    rw [if_pos hguard] at h
    cases h

theorem dobDays_range (h : (authorizeAttestation C call w).1.isOk = true) :
    -25000 ≤ call.request.dobDays ∧ call.request.dobDays ≤ 36500 := by
  unfold authorizeAttestation at h
  split at h
  · cases h
  split at h
  · cases h
  · omega

/-- Neither the clamped date nor the subtraction hides a minor. -/
theorem satSubI32_nowDays (now : UInt64) {dobDays : Int} (hlow : -25000 ≤ dobDays) (hhigh : dobDays ≤ 36500) :
    satSubI32 (nowDays now) dobDays < 6574 ↔ (secs now / 86400 : Nat) - dobDays < 6574 := by
  unfold satSubI32 nowDays i32Min i32Max
  omega

/-- **The guard for minors.** A client's request gets past the guard only for someone of 18 full calendar
years, except where the birth is followed by five leap days in 18 years and the age is 6574 days. -/
theorem child_guard_sound_iff (call : CreateCall) (w : ClientWorld) (birth today : Date)
    (hbirth : birth.epochDay = call.request.dobDays) (htoday : today.epochDay = (secs call.age / 86400 : Nat)) :
    (call.request.authorizer.format = "client" → passesChildGuard C call w = true → 18 ≤ fullYears birth today) ↔
      ¬(call.request.authorizer.format = "client" ∧ (authorizeAttestation C call w).1.isOk = true ∧
        today.epochDay - birth.epochDay = 6574 ∧ FiveLeapDays birth) := by
  simp only [passesChildGuard, Bool.and_eq_true, Bool.not_eq_true', decide_eq_false_iff_not, le_fullYears_iff]
  by_cases hauth : (authorizeAttestation C call w).1.isOk = true
  · obtain ⟨hlow, hhigh⟩ := dobDays_range hauth
    have hage := satSubI32_nowDays call.age hlow hhigh
    rw [← hbirth, ← htoday] at hage
    rw [← hbirth] at hlow hhigh
    have hyears := eighteen_years hlow hhigh
    rw [← hbirth]
    by_cases hformat : call.request.authorizer.format = "client"
    · simp only [hformat, hauth, true_and, true_implies, hage, hyears]
      by_cases hfive : FiveLeapDays birth
      · simp only [hfive, if_true, and_true]
        omega
      · simp only [hfive, if_false, and_false, not_false_eq_true, iff_true]
        omega
    · simp [hformat]
  · simp [hauth]

end

/-! ## On the eve of a birthday -/

def clientRequest (dobDays : Int) (day : Nat) : CreateAttestationRequest :=
  let unsigned : CreateAttestationRequest :=
    ⟨dobDays, ⟨"client", sandboxMint.clientId, none, day * 86400 + 43200, "", String.ofList (List.replicate 64 '0')⟩⟩
  { unsigned with authorizer := { unsigned.authorizer with
      hmac := hexEncode (sandboxCrypto.hmacSha256 (List.replicate 32 1) (bytesOf unsigned.canonicalMessage)) } }

def noon (day : Nat) : UInt64 := UInt64.ofNat ((day * 86400 + 43200) * 1000)

def clientCreate (dobDays : Int) (day : Nat) : CreateCall :=
  { sandboxCreate '0' (noon day) with request := clientRequest dobDays day }

def mintedOn (day : Nat) : ClientWorld :=
  (registerTestIssuer sandboxCrypto { sandboxMint with now := noon day, put := noon day } ⟨fun _ => .empty, ∅⟩).2

def newYear2008 : Date := ⟨2008, 1, 1, by decide, by decide, by decide, by decide⟩

def newYearsEve2025 : Date := ⟨2025, 12, 31, by decide, by decide, by decide, by decide⟩

def newYear2026 : Date := ⟨2026, 1, 1, by decide, by decide, by decide, by decide⟩

theorem birthday_let_pass : passesChildGuard sandboxCrypto (clientCreate 13879 20454) (mintedOn 20454) = true ∧
    18 ≤ fullYears newYear2008 newYear2026 := by
  have hpass : passesChildGuard sandboxCrypto (clientCreate 13879 20454) (mintedOn 20454) = true := by decide +kernel
  refine ⟨hpass, (child_guard_sound_iff (C := sandboxCrypto) (clientCreate 13879 20454) (mintedOn 20454) newYear2008 newYear2026
    (by decide +kernel) (by decide +kernel)).mpr ?_ (by decide +kernel) hpass⟩
  rintro ⟨-, -, hdays, -⟩
  exact absurd hdays (by decide +kernel)

/-- The day before, 6574 days old and 17, is let pass as well. -/
theorem seventeen_let_pass : newYear2008.epochDay = (clientCreate 13879 20453).request.dobDays ∧
    newYearsEve2025.epochDay = (secs (clientCreate 13879 20453).age / 86400 : Nat) ∧
    (clientCreate 13879 20453).request.authorizer.format = "client" ∧
    passesChildGuard sandboxCrypto (clientCreate 13879 20453) (mintedOn 20453) = true ∧
    fullYears newYear2008 newYearsEve2025 = 17 := by
  decide +kernel

end Issuer
