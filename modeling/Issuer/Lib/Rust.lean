import Mathlib

/-!
# Machine integers and text as Rust has them

Saturating arithmetic on `u32`, `u64`, `i32` and `i64` over `Nat` and `Int`, prefixes, separators and white
space of strings, hex encoding and decoding, and the decimal form of a `u32`: `parseU32` reads back what
`toString` prints.
-/

namespace Rust

/-! ## Saturating arithmetic

`toI64OrMax` is `i64::try_from(x).unwrap_or(i64::MAX)` on an unsigned value.
-/

def u32Max : Nat := 4294967295

def u64Max : Nat := 18446744073709551615

def i32Max : Int := 2147483647

def i32Min : Int := -2147483648

def i64Max : Int := 9223372036854775807

def i64Min : Int := -9223372036854775808

def satAddU32 (a b : Nat) : Nat := min (a + b) u32Max

def satAddU64 (a b : Nat) : Nat := min (a + b) u64Max

def satMulU64 (a b : Nat) : Nat := min (a * b) u64Max

def satSubI32 (a b : Int) : Int := max i32Min (min (a - b) i32Max)

def clampI64 (x : Int) : Int := max i64Min (min x i64Max)

def satAddI64 (a b : Int) : Int := clampI64 (a + b)

def satSubI64 (a b : Int) : Int := clampI64 (a - b)

def satMulI64 (a b : Int) : Int := clampI64 (a * b)

def toI64OrMax (x : Nat) : Int := min (x : Int) i64Max

def absDiff (a b : Nat) : Nat := (a - b) + (b - a)

theorem clampI64_of_range {x : Int} (hl : i64Min ≤ x) (hu : x ≤ i64Max) : clampI64 x = x := by
  unfold clampI64; omega

theorem satAddU64_of_le {a b : Nat} (h : a + b ≤ u64Max) : satAddU64 a b = a + b := by
  unfold satAddU64; omega

theorem satAddU32_of_le {a b : Nat} (h : a + b ≤ u32Max) : satAddU32 a b = a + b := by
  unfold satAddU32; omega

/-! ## Prefixes -/

def hasPrefix (p s : String) : Bool := p.toList.isPrefixOf s.toList

def stripPrefix (p s : String) : Option String :=
  if hasPrefix p s then some (String.ofList (s.toList.drop p.toList.length)) else none

def hasSuffix (t s : String) : Bool := t.toList.isSuffixOf s.toList

@[simp] theorem hasPrefix_append (p s : String) : hasPrefix p (p ++ s) = true := by
  simp [hasPrefix]

@[simp] theorem hasSuffix_append (s t : String) : hasSuffix t (s ++ t) = true := by
  simp [hasSuffix]

@[simp] theorem stripPrefix_append (p s : String) : stripPrefix p (p ++ s) = some s := by
  simp [stripPrefix, hasPrefix]

theorem eq_append_of_stripPrefix {p s t : String} (h : stripPrefix p s = some t) : s = p ++ t := by
  unfold stripPrefix hasPrefix at h
  split at h
  · rename_i hp
    simp only [Option.some.injEq] at h
    subst h
    obtain ⟨r, hr⟩ := List.isPrefixOf_iff_prefix.mp hp
    rw [← String.toList_inj, String.toList_append, String.toList_ofList, ← hr]
    simp
  · cases h

theorem append_ne_append {p q s t : String} (h : (p.toList.zip q.toList).any fun c => c.1 != c.2) :
    p ++ s ≠ q ++ t := by
  intro he
  have hl : p.toList ++ s.toList = q.toList ++ t.toList := by
    rw [← String.toList_append, ← String.toList_append, he]
  generalize p.toList = ps at h hl
  generalize q.toList = qs at h hl
  induction ps generalizing qs with
  | nil => simp at h
  | cons c ps ih =>
    cases qs with
    | nil => simp at h
    | cons d qs =>
      simp only [List.cons_append, List.cons.injEq] at hl
      simp only [List.zip_cons_cons, List.any_cons, hl.1, bne_self_eq_false, Bool.false_or] at h
      exact ih qs h hl.2

/-- The part before a separator is determined, as it has none of the separator's first character. -/
theorem append_sep_inj {p : Char → Bool} {a b sep s t : String} (ha : a.toList.all p = true)
    (hb : b.toList.all p = true) (hsep : sep.toList.head?.any (fun c => !p c) = true)
    (h : a ++ (sep ++ s) = b ++ (sep ++ t)) : a = b ∧ s = t := by
  have hl := congrArg String.toList h
  simp only [String.toList_append] at hl
  cases hs : sep.toList with
  | nil => rw [hs] at hsep; cases hsep
  | cons c r =>
    rw [hs] at hl hsep
    have hc : p c = false := by simpa using hsep
    rw [List.all_eq_true] at ha hb
    have hab : a.toList = b.toList := by
      have h1 : (a.toList ++ (c :: r ++ s.toList)).takeWhile p = a.toList := by
        rw [List.takeWhile_append_of_pos ha]; simp [hc]
      have h2 : (b.toList ++ (c :: r ++ t.toList)).takeWhile p = b.toList := by
        rw [List.takeWhile_append_of_pos hb]; simp [hc]
      rw [← h1, ← h2, hl]
    rw [hab] at hl
    exact ⟨String.toList_inj.mp hab, String.toList_inj.mp (List.append_cancel_left (List.append_cancel_left hl))⟩

/-- The same from the right. -/
theorem append_sep_inj_last {p : Char → Bool} {a b sep s t : String} (ha : a.toList.all p = true)
    (hb : b.toList.all p = true) (hsep : sep.toList.getLast?.any (fun c => !p c) = true)
    (h : s ++ (sep ++ a) = t ++ (sep ++ b)) : s = t ∧ a = b := by
  have hl := congrArg (fun u => u.toList.reverse) h
  simp only [String.toList_append, List.reverse_append, List.append_assoc] at hl
  have hrev : String.ofList a.toList.reverse ++ (String.ofList sep.toList.reverse ++ String.ofList s.toList.reverse) =
      String.ofList b.toList.reverse ++ (String.ofList sep.toList.reverse ++ String.ofList t.toList.reverse) := by
    apply String.toList_injective
    simpa only [String.toList_append, String.toList_ofList] using hl
  obtain ⟨hab, hst⟩ := append_sep_inj (p := p) (by simpa using ha) (by simpa using hb) (by simpa using hsep) hrev
  have hback : ∀ {u v : String}, String.ofList u.toList.reverse = String.ofList v.toList.reverse → u = v := by
    intro u v huv
    have := congrArg String.toList huv
    rw [String.toList_ofList, String.toList_ofList, List.reverse_inj] at this
    exact String.toList_injective this
  exact ⟨hback hst, hback hab⟩

theorem utf8ByteSize_ofList_le (cs : List Char) : (String.ofList cs).utf8ByteSize ≤ 4 * cs.length := by
  induction cs with
  | nil => simp
  | cons c cs ih =>
    rw [String.ofList_cons, String.utf8ByteSize_append, String.utf8ByteSize_singleton, List.length_cons]
    have := c.utf8Size_le_four
    omega

theorem utf8ByteSize_ascii {s : String} (h : ∀ c ∈ s.toList, c.utf8Size = 1) : s.utf8ByteSize = s.toList.length := by
  have hlist : ∀ cs : List Char, (∀ c ∈ cs, c.utf8Size = 1) → (String.ofList cs).utf8ByteSize = cs.length := by
    intro cs hcs
    induction cs with
    | nil => simp
    | cons c cs ih =>
      rw [String.ofList_cons, String.utf8ByteSize_append, String.utf8ByteSize_singleton, List.length_cons,
        hcs c (by simp), ih fun d hd => hcs d (List.mem_cons_of_mem c hd)]
      omega
  have := hlist s.toList h
  rwa [String.ofList_toList] at this

/-! ## Splitting and trimming

`isWhitespace` is the `White_Space` property of Unicode, which `str::trim` goes by.
-/

def isWhitespace (c : Char) : Bool :=
  decide (9 ≤ c.toNat ∧ c.toNat ≤ 13 ∨ 0x2000 ≤ c.toNat ∧ c.toNat ≤ 0x200A) ||
    [0x20, 0x85, 0xA0, 0x1680, 0x2028, 0x2029, 0x202F, 0x205F, 0x3000].contains c.toNat

def trim (s : String) : String := String.ofList ((s.toList.dropWhile isWhitespace).rdropWhile isWhitespace)

def split (sep : Char) (s : String) : List String := (s.toList.splitOn sep).map String.ofList

example : (split ',' " w3.org , provii.app,").map trim = ["w3.org", "provii.app", ""] := by decide

/-! ## Hex -/

def hexDigit (n : Nat) : Char :=
  if n < 10 then Char.ofNat (48 + n) else Char.ofNat (87 + n)

def hexEncode (bytes : List UInt8) : String :=
  String.ofList (bytes.flatMap fun b => [hexDigit (b.toNat / 16), hexDigit (b.toNat % 16)])

def isAsciiHexdigit (c : Char) : Bool :=
  c.isDigit || ('a' ≤ c && c ≤ 'f') || ('A' ≤ c && c ≤ 'F')

theorem hexEncode_length (bytes : List UInt8) : (hexEncode bytes).toList.length = 2 * bytes.length := by
  simp only [hexEncode, String.toList_ofList]
  induction bytes with
  | nil => rfl
  | cons b bytes ih =>
    simp only [List.flatMap_cons, List.length_append, List.length_cons, List.length_nil, ih]
    omega

theorem isAsciiHexdigit_ascii {c : Char} (h : isAsciiHexdigit c = true) : c.isAlphanum = true ∧ c.utf8Size = 1 := by
  have hval : (48 ≤ c.val ∧ c.val ≤ 57) ∨ (97 ≤ c.val ∧ c.val ≤ 102) ∨ (65 ≤ c.val ∧ c.val ≤ 70) := by
    simp only [isAsciiHexdigit, Char.isDigit, Bool.or_eq_true, Bool.and_eq_true, decide_eq_true_eq, Char.le_def] at h
    rcases h with (h | h) | h
    · exact .inl h
    · exact .inr (.inl h)
    · exact .inr (.inr h)
  constructor
  · simp only [Char.isAlphanum, Char.isAlpha, Char.isUpper, Char.isLower, Char.isDigit, Bool.or_eq_true, Bool.and_eq_true,
      decide_eq_true_eq]
    simp only [UInt32.le_iff_toNat_le, ge_iff_le, Char.reduceVal, UInt32.reduceToNat] at hval ⊢
    omega
  · have hle : c.val ≤ 127 := by
      simp only [UInt32.le_iff_toNat_le, UInt32.reduceToNat] at hval ⊢
      omega
    exact Char.utf8Size_eq_one_iff.mpr hle

def hexVal (c : Char) : Option Nat :=
  if '0' ≤ c ∧ c ≤ '9' then some (c.toNat - 48)
  else if 'a' ≤ c ∧ c ≤ 'f' then some (c.toNat - 87)
  else if 'A' ≤ c ∧ c ≤ 'F' then some (c.toNat - 55)
  else none

def hexBytes : List Char → Option (List UInt8)
  | [] => some []
  | [_] => none
  | hi :: lo :: cs => do
    let hi ← hexVal hi
    let lo ← hexVal lo
    return UInt8.ofNat (16 * hi + lo) :: (← hexBytes cs)

/-- `hex::decode`. -/
def hexDecode (s : String) : Option (List UInt8) := hexBytes s.toList

/-! ## Decimal numbers

`parseU32` is `str::parse::<u32>`: an optional plus sign, at least one digit, no overflow.
-/

def parseDigits (ds : List Char) : Option Nat :=
  if ds = [] then none else if ds.all Char.isDigit then some (Nat.ofDigitChars 10 ds 0) else none

def parseU32 (s : String) : Option Nat :=
  let ds := match s.toList with
    | '+' :: ds => ds
    | ds => ds
  (parseDigits ds).filter (· ≤ u32Max)

theorem parseDigits_toDigits (n : Nat) : parseDigits (Nat.toDigits 10 n) = some n := by
  have hall : ∀ c ∈ Nat.toDigits 10 n, c.isDigit = true :=
    fun c hc => Nat.isDigit_of_mem_toDigits (by decide) (by decide) hc
  unfold parseDigits
  rw [if_neg Nat.toDigits_ne_nil, if_pos (by simpa using hall), Nat.ofDigitChars_ten_toDigits]

/-- A printed number reads back. -/
theorem parseU32_toString {n : Nat} (h : n ≤ u32Max) : parseU32 (toString n) = some n := by
  have hd : (toString n).toList = Nat.toDigits 10 n := Nat.toList_repr
  have hm : (match Nat.toDigits 10 n with | '+' :: ds => ds | ds => ds) = Nat.toDigits 10 n := by
    split
    · rename_i ds he
      have hplus : Char.isDigit '+' = true :=
        Nat.isDigit_of_mem_toDigits (n := n) (b := 10) (by decide) (by decide) (by rw [he]; simp)
      exact absurd hplus (by decide)
    · rfl
  unfold parseU32
  rw [hd]
  simp only [hm, parseDigits_toDigits]
  simp [h]

theorem parseU32_le {s : String} {n : Nat} (h : parseU32 s = some n) : n ≤ u32Max := by
  unfold parseU32 at h
  simp only [Option.filter_eq_some_iff, decide_eq_true_eq] at h
  exact h.2

theorem toString_injective {m n : Nat} (h : toString m = toString n) : m = n :=
  Nat.repr_injective h

def isDecimalChar (c : Char) : Bool := c.isDigit || c == '-'

theorem toString_nat_decimal (n : Nat) : (toString n).toList.all isDecimalChar = true := by
  rw [List.all_eq_true]
  intro c hc
  have hd : (toString n).toList = Nat.toDigits 10 n := Nat.toList_repr
  have hdigit : c.isDigit = true := Nat.isDigit_of_mem_toDigits (by decide) (by decide) (hd ▸ hc)
  simp [isDecimalChar, hdigit]

theorem toString_int_decimal (a : Int) : (toString a).toList.all isDecimalChar = true := by
  rw [Int.toString_eq_repr, Int.repr_eq_if]
  split
  · exact toString_nat_decimal _
  · rw [String.toList_append, List.all_append, Bool.and_eq_true]
    exact ⟨by decide, toString_nat_decimal _⟩

theorem toString_int_injective {a b : Int} (h : toString a = toString b) : a = b := by
  have hsign : ∀ m n : Nat, m.repr ≠ "-" ++ n.repr := by
    intro m n he
    have hdigits := toString_nat_decimal m
    have hmem : '-' ∈ Nat.toDigits 10 m := by
      rw [← Nat.toList_repr, he]
      simp
    exact absurd (Nat.isDigit_of_mem_toDigits (by decide) (by decide) hmem) (by decide)
  rw [Int.toString_eq_repr, Int.toString_eq_repr, Int.repr_eq_if, Int.repr_eq_if] at h
  split at h
  · split at h
    · have := Nat.repr_injective h
      omega
    · exact absurd h (hsign _ _)
  · split at h
    · exact absurd h.symm (hsign _ _)
    · have := Nat.repr_injective ((String.append_right_inj _).mp h)
      omega

end Rust
