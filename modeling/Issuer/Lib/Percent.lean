import Issuer.Lib.Text

/-!
# Percent-encoding

Escapes over bytes as URLs have them: a percent sign and two hex digits of either case stand for one byte,
every other byte for itself, a percent sign that begins no escape included.
-/

namespace Percent

open Rust

def sign : UInt8 := 0x25

def hexValue (b : UInt8) : Option Nat := hexVal (Char.ofNat b.toNat)

/-- The byte that two hex digits spell. -/
def spelled (hi lo : UInt8) : Option UInt8 := do
  let h ← hexValue hi
  let l ← hexValue lo
  return UInt8.ofNat (16 * h + l)

def decode : List UInt8 → List UInt8
  | b :: hi :: lo :: rest =>
    if b = sign then
      match spelled hi lo with
      | some v => v :: decode rest
      | none => b :: decode (hi :: lo :: rest)
    else b :: decode (hi :: lo :: rest)
  | bs => bs

/-- `e` replaces some of the bytes of `s` by escapes, and every percent sign. -/
inductive Encodes : List UInt8 → List UInt8 → Prop
  | nil : Encodes [] []
  | plain {b : UInt8} {s e : List UInt8} (hb : b ≠ sign) (h : Encodes s e) : Encodes (b :: s) (b :: e)
  | escape {b hi lo : UInt8} {s e : List UInt8} (hb : spelled hi lo = some b) (h : Encodes s e) :
    Encodes (b :: s) (sign :: hi :: lo :: e)

def NoEscape (bs : List UInt8) : Prop := ∀ hi lo, [sign, hi, lo] <:+: bs → spelled hi lo = none

example : decode (utf8 "%6d%2B%2g%") = utf8 "m+%2g%" := by decide

/-! ## One byte at a time -/

theorem spelled_eq_none {hi lo : UInt8} : spelled hi lo = none ↔ hexValue hi = none ∨ hexValue lo = none := by
  unfold spelled
  cases hexValue hi <;> cases hexValue lo <;> simp

@[simp] theorem decode_nil : decode [] = [] := rfl

theorem decode_cons_ne {b : UInt8} (hb : b ≠ sign) (rest : List UInt8) : decode (b :: rest) = b :: decode rest := by
  match rest with
  | [] => rfl
  | [_] => rfl
  | _ :: _ :: _ => rw [decode, if_neg hb]

theorem decode_escape {hi lo v : UInt8} (h : spelled hi lo = some v) (rest : List UInt8) :
    decode (sign :: hi :: lo :: rest) = v :: decode rest := by
  rw [decode, if_pos rfl, h]

theorem decode_cons_hi {hi : UInt8} (h : hexValue hi = none) (b : UInt8) (rest : List UInt8) :
    decode (b :: hi :: rest) = b :: decode (hi :: rest) := by
  match rest with
  | [] => rfl
  | lo :: rest =>
    rw [decode, spelled_eq_none.mpr (.inl h)]
    exact ite_self _

theorem decode_cons_lo {lo : UInt8} (h : hexValue lo = none) (b hi : UInt8) (rest : List UInt8) :
    decode (b :: hi :: lo :: rest) = b :: decode (hi :: lo :: rest) := by
  rw [decode, spelled_eq_none.mpr (.inr h)]
  exact ite_self _

/-! ## Whole strings -/

theorem decode_of_encodes {s e : List UInt8} (h : Encodes s e) : decode e = s := by
  induction h with
  | nil => rfl
  | plain hb _ ih => rw [decode_cons_ne hb, ih]
  | escape hb _ ih => rw [decode_escape hb, ih]

theorem NoEscape.tail {b : UInt8} {bs : List UInt8} (h : NoEscape (b :: bs)) : NoEscape bs :=
  fun hi lo hin => h hi lo (hin.trans (List.suffix_cons b bs).isInfix)

theorem noEscape_of_no_sign {bs : List UInt8} (h : sign ∉ bs) : NoEscape bs :=
  fun _ _ hin => absurd (hin.subset (by simp)) h

theorem decode_of_noEscape (bs : List UInt8) (h : NoEscape bs) : decode bs = bs := by
  induction bs with
  | nil => rfl
  | cons b bs ih =>
    by_cases hb : b = sign
    · subst hb
      match bs with
      | [] => rfl
      | [_] => rfl
      | hi :: lo :: rest =>
        have hnone := h hi lo ⟨[], rest, rfl⟩
        rw [decode, if_pos rfl, hnone]
        simp only
        rw [ih h.tail]
    · rw [decode_cons_ne hb, ih h.tail]

theorem decode_plain_append {p : List UInt8} (hp : sign ∉ p) (rest : List UInt8) : decode (p ++ rest) = p ++ decode rest := by
  induction p with
  | nil => rfl
  | cons b p ih =>
    simp only [List.mem_cons, not_or] at hp
    rw [List.cons_append, decode_cons_ne (Ne.symm hp.1), ih hp.2, List.cons_append]

/-- No escape reaches across a byte that is neither a hex digit nor the sign. -/
theorem decode_append_cons {c : UInt8} (hc : hexValue c = none) (a rest : List UInt8) :
    decode (a ++ c :: rest) = decode a ++ decode (c :: rest) := by
  induction a using decode.induct with
  | case1 hi lo a v hv ih =>
    simp only [List.cons_append]
    rw [decode_escape hv, decode_escape hv, ih, List.cons_append]
  | case2 hi lo a hv ih =>
    rw [List.cons_append, List.cons_append] at ih
    simp only [List.cons_append]
    rcases spelled_eq_none.mp hv with h | h
    · rw [decode_cons_hi h, decode_cons_hi h, ih, List.cons_append]
    · rw [decode_cons_lo h, decode_cons_lo h, ih, List.cons_append]
  | case3 b hi lo a hb ih =>
    rw [List.cons_append, decode_cons_ne hb, decode_cons_ne hb, ih, List.cons_append]
  | case4 bs hbs =>
    match bs, hbs with
    | [], _ => rfl
    | [b], _ => exact decode_cons_hi hc b rest
    | [b, b'], _ => exact (decode_cons_lo hc b b' rest).trans (congrArg (b :: ·) (decode_cons_hi hc b' rest))
    | b :: hi :: lo :: a, h => exact absurd rfl (h b hi lo a)

/-- A run of bytes that no escape can touch is there after decoding as well. -/
theorem infix_decode {c : UInt8} {p bs : List UInt8} (hc : hexValue c = none) (hp : sign ∉ c :: p) (h : c :: p <:+: bs) :
    c :: p <:+: decode bs := by
  obtain ⟨a, b, rfl⟩ := h
  refine ⟨decode a, decode b, ?_⟩
  rw [List.append_assoc, List.append_assoc, ← decode_plain_append hp, List.cons_append, decode_append_cons hc]

end Percent
