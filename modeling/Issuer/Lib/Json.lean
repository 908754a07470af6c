import Mathlib

/-!
# JSON values and how serde reads them

A parsed JSON value keeps the members of an object in the order of the text, repeated names
included; a number with a fraction or an exponent is a `float`. A derived `Deserialize` takes a
struct from an object or from an array: an object gives a field by its names (unknown members are
passed over, a field given twice is an error), an array by its position.
-/

inductive Json where
  | null
  | bool (b : Bool)
  | num (n : Int)
  | float (text : String)
  | str (s : String)
  | arr (elements : List Json)
  | obj (members : List (String × Json))
deriving Repr

namespace Json

def asStr : Json → Option String
  | .str s => some s
  | _ => none

def asBool : Json → Option Bool
  | .bool b => some b
  | _ => none

def asInt (lo hi : Int) : Json → Option Int
  | .num n => if lo ≤ n ∧ n ≤ hi then some n else none
  | _ => none

/-- An `Option`. -/
def nullable {α : Type} (decode : Json → Option α) : Json → Option (Option α)
  | .null => some none
  | j => (decode j).map some

/-! ## Byte arrays

A `Vec<u8>` is an array of numbers.
-/

def asU8 (j : Json) : Option UInt8 := (asInt 0 255 j).map fun n => UInt8.ofNat n.toNat

def asBytes : Json → Option (List UInt8)
  | .arr elements => elements.mapM asU8
  | _ => none

def ofBytes (bytes : List UInt8) : Json := .arr (bytes.map fun b => .num b.toNat)

theorem asU8_num (b : UInt8) : asU8 (.num b.toNat) = some b := by
  have hb := b.toNat_lt
  have hrange : (0 : Int) ≤ b.toNat ∧ (b.toNat : Int) ≤ 255 := by omega
  simp [asU8, asInt, hrange]

@[simp] theorem asBytes_ofBytes (bytes : List UInt8) : asBytes (ofBytes bytes) = some bytes := by
  simp only [asBytes, ofBytes]
  induction bytes with
  | nil => rfl
  | cons b bytes ih => simp [asU8_num, ih]

/-! ## Structs

An outer `none` is an error, an inner one an absent field.
-/

def field (members : List (String × Json)) (names : List String) : Option (Option Json) :=
  match members.filter fun m => names.contains m.1 with
  | [] => some none
  | [m] => some (some m.2)
  | _ => none

/-- The field at position `i`. -/
def get (i : Nat) (names : List String) : Json → Option (Option Json)
  | .obj members => field members names
  | .arr elements => some elements[i]?
  | _ => none

/-- The value is an object, or an array of at most `n` elements. -/
def fits (n : Nat) : Json → Bool
  | .obj _ => true
  | .arr elements => decide (elements.length ≤ n)
  | _ => false

section
variable {α : Type} (decode : Json → Option α) (i : Nat) (names : List String) (j : Json)

def required : Option α := (j.get i names).bind fun v => v.bind decode

def defaulted (dflt : α) : Option α :=
  (j.get i names).bind fun
    | none => some dflt
    | some v => decode v

/-- An `Option` field without a default: absent from an object it is `None`. -/
def optional : Option (Option α) :=
  (j.get i names).bind fun
    | none => match j with
      | .obj _ => some none
      | _ => none
    | some v => nullable decode v

end

end Json
