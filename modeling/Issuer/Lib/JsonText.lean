import Issuer.Lib.Rust

/-!
# The text of a JSON string

`quote` writes a string as `serde_json::to_string` does. What follows a quoted string never changes how
it reads: `quote_append_inj`.
-/

namespace Json

open Rust

def quoteMark : Char := Char.ofNat 34

def backslash : Char := Char.ofNat 92

def escapeChar (c : Char) : List Char :=
  if c = quoteMark ∨ c = backslash then [backslash, c]
  else if c.toNat = 8 then [backslash, 'b']
  else if c.toNat = 9 then [backslash, 't']
  else if c.toNat = 10 then [backslash, 'n']
  else if c.toNat = 12 then [backslash, 'f']
  else if c.toNat = 13 then [backslash, 'r']
  else if c.toNat < 32 then [backslash, 'u', '0', '0', hexDigit (c.toNat / 16), hexDigit (c.toNat % 16)]
  else [c]

def quote (s : String) : String :=
  String.ofList (quoteMark :: (s.toList.flatMap escapeChar ++ [quoteMark]))

/-- The characters that are not written as themselves. -/
def escapedChars : List Char := quoteMark :: backslash :: (List.range 32).map Char.ofNat

theorem mem_escapedChars_or (c : Char) : c ∈ escapedChars ∨ escapeChar c = [c] ∧ c ≠ backslash ∧ c ≠ quoteMark := by
  by_cases hq : c = quoteMark
  · exact .inl (by simp [escapedChars, hq])
  by_cases hb : c = backslash
  · exact .inl (by simp [escapedChars, hb])
  by_cases hc : c.toNat < 32
  · refine .inl (List.mem_cons_of_mem _ (List.mem_cons_of_mem _ ?_))
    exact List.mem_map.mpr ⟨c.toNat, List.mem_range.mpr hc, Char.ofNat_toNat c⟩
  · refine .inr ⟨?_, hb, hq⟩
    unfold escapeChar
    rw [if_neg (by simp [hq, hb]), if_neg (by omega), if_neg (by omega), if_neg (by omega), if_neg (by omega),
      if_neg (by omega), if_neg hc]

theorem escapedChars_apart : (escapedChars.all fun c => (escapeChar c).head? == some backslash &&
    escapedChars.all fun d => !(escapeChar c).isPrefixOf (escapeChar d) || c == d) = true := by
  decide +kernel

theorem escapeChar_distinct {c d : Char} (hc : c ∈ escapedChars) (hd : d ∈ escapedChars)
    (h : (escapeChar c).isPrefixOf (escapeChar d) = true) : c = d := by
  have hall := List.all_eq_true.mp escapedChars_apart c hc
  rw [Bool.and_eq_true] at hall
  have := List.all_eq_true.mp hall.2 d hd
  simpa [h] using this

theorem escapeChar_head {c : Char} (hc : c ∈ escapedChars) : ∃ r, escapeChar c = backslash :: r := by
  have hall := List.all_eq_true.mp escapedChars_apart c hc
  rw [Bool.and_eq_true] at hall
  exact ⟨(escapeChar c).tail, (List.cons_head?_tail (by simpa using hall.1)).symm⟩

theorem escapeChar_append_inj {c d : Char} {s t : List Char} (h : escapeChar c ++ s = escapeChar d ++ t) :
    c = d ∧ s = t := by
  have hcd : c = d := by
    rcases mem_escapedChars_or c with hc | ⟨hc, hcb, -⟩
    · rcases mem_escapedChars_or d with hd | ⟨hd, hdb, -⟩
      · rcases List.append_eq_append_iff.mp h with ⟨r, hr, -⟩ | ⟨r, hr, -⟩
        · exact escapeChar_distinct hc hd (by rw [hr]; simp)
        · exact (escapeChar_distinct hd hc (by rw [hr]; simp)).symm
      · obtain ⟨r, hr⟩ := escapeChar_head hc
        rw [hr, hd] at h
        exact absurd (List.cons.inj h).1.symm hdb
    · rcases mem_escapedChars_or d with hd | ⟨hd, -, -⟩
      · obtain ⟨r, hr⟩ := escapeChar_head hd
        rw [hc, hr] at h
        exact absurd (List.cons.inj h).1 hcb
      · rw [hc, hd] at h
        exact (List.cons.inj h).1
  subst hcd
  exact ⟨rfl, List.append_cancel_left h⟩

theorem escapeChar_append_ne (c : Char) (s t : List Char) : escapeChar c ++ s ≠ quoteMark :: t := by
  intro h
  rcases mem_escapedChars_or c with hc | ⟨hc, -, hq⟩
  · obtain ⟨r, hr⟩ := escapeChar_head hc
    rw [hr] at h
    exact absurd (List.cons.inj h).1 (by decide)
  · rw [hc] at h
    exact hq (List.cons.inj h).1

theorem escaped_append_inj : ∀ {a b s t : List Char},
    a.flatMap escapeChar ++ quoteMark :: s = b.flatMap escapeChar ++ quoteMark :: t → a = b ∧ s = t
  | [], [], _, _, h => ⟨rfl, (List.cons.inj h).2⟩
  | [], d :: b, s, t, h => by
    rw [List.flatMap_cons, List.append_assoc] at h
    exact absurd h.symm (escapeChar_append_ne d _ _)
  | c :: a, [], s, t, h => by
    rw [List.flatMap_cons, List.append_assoc] at h
    exact absurd h (escapeChar_append_ne c _ _)
  | c :: a, d :: b, s, t, h => by
    rw [List.flatMap_cons, List.flatMap_cons, List.append_assoc, List.append_assoc] at h
    obtain ⟨rfl, h'⟩ := escapeChar_append_inj h
    obtain ⟨rfl, hst⟩ := escaped_append_inj h'
    exact ⟨rfl, hst⟩

/-- A quoted string ends where its closing mark is, whatever follows. -/
theorem quote_append_inj {a b s t : String} (h : quote a ++ s = quote b ++ t) : a = b ∧ s = t := by
  have hl := congrArg String.toList h
  simp only [quote, String.toList_append, String.toList_ofList, List.cons_append, List.append_assoc,
    List.cons.injEq, true_and] at hl
  obtain ⟨hab, hst⟩ := escaped_append_inj hl
  exact ⟨String.toList_inj.mp hab, String.toList_inj.mp hst⟩

end Json
