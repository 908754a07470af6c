import Issuer.Lib.Rust

/-!
# Text as bytes, and where it splits

The UTF-8 bytes of a text and back, `str::split_once` at a character, `str::trim_start`, and `str::replace` of one
text by another.
-/

namespace Rust

/-! ## UTF-8 -/

def utf8 (s : String) : List UInt8 := s.toByteArray.data.toList

/-- `String::from_utf8`. -/
def fromUtf8 (bs : List UInt8) : Option String := String.fromUTF8? bs.toByteArray

@[simp] theorem utf8_toByteArray (s : String) : (utf8 s).toByteArray = s.toByteArray := by
  apply ByteArray.ext
  simp [utf8, List.data_toByteArray]

theorem utf8_injective {s t : String} (h : utf8 s = utf8 t) : s = t := by
  rw [← String.toByteArray_inj, ← utf8_toByteArray, h, utf8_toByteArray]

theorem utf8_append (s t : String) : utf8 (s ++ t) = utf8 s ++ utf8 t := by
  simp [utf8, String.toByteArray_append]

theorem fromUtf8_eq_some_iff {bs : List UInt8} {s : String} : fromUtf8 bs = some s ↔ utf8 s = bs := by
  unfold fromUtf8 String.fromUTF8?
  constructor
  · intro h
    split at h
    · have hs : (String.fromUTF8 bs.toByteArray ‹_›).toByteArray = s.toByteArray := by
        rw [Option.some.inj h]
      rw [utf8, ← hs]
      exact List.toList_data_toByteArray
    · cases h
  · intro h
    subst h
    have hvalid : (utf8 s).toByteArray.IsValidUTF8 := by
      rw [utf8_toByteArray]
      exact s.isValidUTF8
    rw [dif_pos hvalid, Option.some.injEq, ← String.toByteArray_inj]
    exact utf8_toByteArray s

@[simp] theorem fromUtf8_utf8 (s : String) : fromUtf8 (utf8 s) = some s := fromUtf8_eq_some_iff.mpr rfl

/-- Bytes begin with those of a text exactly where the text begins with it. -/
theorem utf8_prefix_iff {p s : String} : utf8 p <+: utf8 s ↔ hasPrefix p s = true := by
  rw [hasPrefix, List.isPrefixOf_iff_prefix]
  constructor
  · rintro ⟨bs, h⟩
    apply List.isPrefix_of_utf8Encode_append_eq_utf8Encode bs.toByteArray
    rw [String.utf8Encode_toList, String.utf8Encode_toList, ← utf8_toByteArray p, ← utf8_toByteArray s, ← h]
    simp
  · rintro ⟨cs, h⟩
    refine ⟨utf8 (String.ofList cs), ?_⟩
    rw [← utf8_append]
    congr 1
    rw [← String.toList_inj, String.toList_append, String.toList_ofList, h]

theorem utf8_infix_of_infix {p s : String} (h : p.toList <:+: s.toList) : utf8 p <:+: utf8 s := by
  obtain ⟨a, b, h⟩ := h
  refine ⟨utf8 (String.ofList a), utf8 (String.ofList b), ?_⟩
  rw [← utf8_append, ← utf8_append]
  congr 1
  rw [← String.toList_inj]
  simpa using h

theorem utf8_ofList (cs : List Char) : utf8 (String.ofList cs) = cs.flatMap String.utf8EncodeChar := by
  unfold utf8
  rw [String.toByteArray_ofList, List.utf8Encode, List.toList_data_toByteArray]

/-- The bytes of a character outside ASCII all have the top bit. -/
theorem le_of_mem_utf8EncodeChar {c : Char} {b : UInt8} (hb : b ∈ String.utf8EncodeChar c) (hc : c.utf8Size ≠ 1) :
    128 ≤ b.toNat := by
  have hor : ∀ x m : UInt8, 128 ≤ m.toNat → 128 ≤ (x ||| m).toNat := by
    intro x m hm
    rw [UInt8.toNat_or]
    exact le_trans hm Nat.right_le_or
  rcases c.utf8Size_eq with h | h | h | h
  · exact absurd h hc
  · rw [String.utf8EncodeChar_eq_cons_cons h] at hb
    simp only [List.mem_cons, List.not_mem_nil, or_false] at hb
    rcases hb with rfl | rfl <;> exact hor _ _ (by decide)
  · rw [String.utf8EncodeChar_eq_cons_cons_cons h] at hb
    simp only [List.mem_cons, List.not_mem_nil, or_false] at hb
    rcases hb with rfl | rfl | rfl <;> exact hor _ _ (by decide)
  · rw [String.utf8EncodeChar_eq_cons_cons_cons_cons h] at hb
    simp only [List.mem_cons, List.not_mem_nil, or_false] at hb
    rcases hb with rfl | rfl | rfl | rfl <;> exact hor _ _ (by decide)

theorem utf8EncodeChar_ascii {c : Char} (hc : c.toNat < 128) : String.utf8EncodeChar c = [UInt8.ofNat c.toNat] := by
  have hone : c.utf8Size = 1 := by
    rw [Char.utf8Size_eq_one_iff, UInt32.le_iff_toNat_le]
    exact Nat.le_of_lt_succ hc
  rw [String.utf8EncodeChar_eq_singleton hone]
  rfl

/-- An ASCII byte in the bytes of a character is the character. -/
theorem eq_of_mem_utf8EncodeChar {c d : Char} (hc : c.toNat < 128) (h : UInt8.ofNat c.toNat ∈ String.utf8EncodeChar d) :
    c = d := by
  by_cases hone : d.utf8Size = 1
  · have hle : d.val.toNat ≤ 127 := by
      have := Char.utf8Size_eq_one_iff.mp hone
      rwa [UInt32.le_iff_toNat_le] at this
    have hd : d.toNat < 128 := Nat.lt_succ_of_le hle
    rw [utf8EncodeChar_ascii hd, List.mem_singleton, ← UInt8.toNat_inj, UInt8.toNat_ofNat', UInt8.toNat_ofNat'] at h
    apply Char.toNat_inj.mp
    omega
  · have := le_of_mem_utf8EncodeChar h hone
    simp only [UInt8.toNat_ofNat'] at this
    omega

/-- An ASCII byte of a text is one of its characters. -/
theorem mem_of_mem_utf8 {c : Char} {s : String} (hc : c.toNat < 128) (h : UInt8.ofNat c.toNat ∈ utf8 s) : c ∈ s.toList := by
  rw [← String.ofList_toList (s := s), utf8_ofList, List.mem_flatMap] at h
  obtain ⟨d, hd, hb⟩ := h
  rwa [eq_of_mem_utf8EncodeChar hc hb]

/-- Bytes end with those of a text behind an ASCII character exactly where the text does: no character is cut. -/
theorem utf8_suffix_iff {c : Char} (hc : c.toNat < 128) (t s : String) :
    UInt8.ofNat c.toNat :: utf8 t <:+ utf8 s ↔ hasSuffix (String.singleton c ++ t) s = true := by
  rw [hasSuffix, List.isSuffixOf_iff_suffix, String.toList_append, String.toList_singleton, List.singleton_append,
    ← String.ofList_toList (s := s), utf8_ofList, String.toList_ofList]
  generalize s.toList = cs
  induction cs with
  | nil => simp
  | cons d cs ih =>
    rw [List.flatMap_cons]
    constructor
    · intro h
      by_cases hlen : (UInt8.ofNat c.toNat :: utf8 t).length ≤ (cs.flatMap String.utf8EncodeChar).length
      · have hshort := List.suffix_of_suffix_length_le h (List.suffix_append _ _) hlen
        exact (ih.mp hshort).trans (List.suffix_cons d cs)
      -- it begins within `d`, which is then the ASCII character itself
      have hlong : cs.flatMap String.utf8EncodeChar <:+ UInt8.ofNat c.toNat :: utf8 t :=
        List.suffix_of_suffix_length_le (List.suffix_append _ _) h (by omega)
      obtain ⟨x, hx⟩ := hlong
      obtain ⟨y, hy⟩ := h
      rw [← hx, ← List.append_assoc] at hy
      have hyx := List.append_cancel_right hy
      cases x with
      | nil =>
        rw [← hx] at hlen
        exact absurd (le_refl _) hlen
      | cons b x =>
        rw [List.cons_append] at hx
        obtain ⟨rfl, hrest⟩ := List.cons.inj hx
        have hcd : c = d := eq_of_mem_utf8EncodeChar hc (by rw [← hyx]; simp)
        subst hcd
        rw [utf8EncodeChar_ascii hc, List.append_eq_singleton_iff] at hyx
        rcases hyx with ⟨-, hx'⟩ | ⟨-, hx'⟩
        · obtain ⟨-, rfl⟩ := List.cons.inj hx'
          rw [List.nil_append, ← utf8_ofList] at hrest
          rw [← utf8_injective hrest, String.toList_ofList]
        · cases hx'
    · intro h
      rcases List.suffix_cons_iff.mp h with h | h
      · obtain ⟨rfl, rfl⟩ := List.cons.inj h
        rw [utf8EncodeChar_ascii hc, List.singleton_append, ← utf8_ofList, String.ofList_toList]
      · exact (ih.mpr h).trans (List.suffix_append _ _)

/-! ## Splitting, trimming and case -/

def splitOnce (sep : Char) (s : String) : Option (String × String) :=
  match s.toList.span (· != sep) with
  | (_, []) => none
  | (a, _ :: b) => some (String.ofList a, String.ofList b)

def trimStart (s : String) : String := String.ofList (s.toList.dropWhile isWhitespace)

def toAsciiLowercase (s : String) : String := String.ofList (s.toList.map Char.toLower)

theorem splitOnce_eq_some {sep : Char} {s a b : String} (h : splitOnce sep s = some (a, b)) :
    s.toList = a.toList ++ sep :: b.toList := by
  unfold splitOnce at h
  rw [List.span_eq_takeWhile_dropWhile] at h
  have hs := List.takeWhile_append_dropWhile (p := (· != sep)) (l := s.toList)
  split at h
  · cases h
  · rename_i hspan
    obtain ⟨rfl, rfl⟩ := Prod.mk.inj (Option.some.inj h)
    obtain ⟨htake, hdrop⟩ := Prod.mk.inj hspan
    have hsep := List.head_dropWhile_not (· != sep) (l := s.toList) (by rw [hdrop]; simp)
    simp only [hdrop, List.head_cons, bne_eq_false_iff_eq] at hsep
    rw [String.toList_ofList, String.toList_ofList, ← hs, htake, hdrop, hsep]

theorem trimStart_suffix (s : String) : (trimStart s).toList <:+ s.toList := by
  rw [trimStart, String.toList_ofList]
  exact List.dropWhile_suffix _

/-! ## Replacing

`replaceList p t skip` drops `skip` characters, then writes `t` for each `p` from the left.
-/

def contains (p s : String) : Bool := decide (p.toList <:+: s.toList)

def replaceList (p t : List Char) : Nat → List Char → List Char
  | _, [] => []
  | skip + 1, _ :: cs => replaceList p t skip cs
  | 0, c :: cs => if p.isPrefixOf (c :: cs) then t ++ replaceList p t (p.length - 1) cs else c :: replaceList p t 0 cs

/-- `str::replace` of a text that is not empty. -/
def replace (p t s : String) : String := String.ofList (replaceList p.toList t.toList 0 s.toList)

example : replace "*." "wildcard." "https://*.*.example.com" = "https://wildcard.wildcard.example.com" := by decide

section
variable {p t : List Char}

theorem replaceList_skip (skip : Nat) (cs : List Char) : replaceList p t skip cs = replaceList p t 0 (cs.drop skip) := by
  induction skip generalizing cs with
  | zero => rfl
  | succ skip ih =>
    cases cs with
    | nil => rfl
    | cons c cs => exact ih cs

theorem replaceList_of_not_infix {cs : List Char} (h : ¬p <:+: cs) : replaceList p t 0 cs = cs := by
  induction cs with
  | nil => rfl
  | cons c cs ih =>
    rw [List.infix_cons_iff, not_or] at h
    rw [replaceList, if_neg (by rw [List.isPrefixOf_iff_prefix]; exact h.1), ih h.2]

/-- The first place where `p` stands is the one that is replaced. -/
theorem replaceList_first (hp : p ≠ []) {a : List Char} (h : ¬p <:+: a ++ p.dropLast) (b : List Char) :
    replaceList p t 0 (a ++ p ++ b) = a ++ t ++ replaceList p t 0 b := by
  induction a with
  | nil =>
    cases p with
    | nil => exact absurd rfl hp
    | cons c p =>
      have hprefix : (c :: p).isPrefixOf (c :: (p ++ b)) = true := by
        rw [List.isPrefixOf_iff_prefix]
        exact List.prefix_append (c :: p) b
      rw [List.nil_append, List.nil_append, List.cons_append, replaceList, if_pos hprefix, replaceList_skip]
      simp
  | cons c a ih =>
    have hshort : c :: a ++ p.dropLast <+: c :: (a ++ p ++ b) := by
      refine ⟨[p.getLast hp] ++ b, ?_⟩
      conv_rhs => rw [← List.dropLast_append_getLast hp]
      simp
    have hnot : ¬p.isPrefixOf (c :: (a ++ p ++ b)) = true := by
      rw [List.isPrefixOf_iff_prefix]
      intro hprefix
      refine h (List.prefix_of_prefix_length_le hprefix hshort ?_).isInfix
      simp only [List.length_append, List.length_cons, List.length_dropLast]
      omega
    have hrest : ¬p <:+: a ++ p.dropLast := fun hin => h (hin.trans (List.suffix_cons c _).isInfix)
    rw [List.cons_append, List.cons_append, replaceList, if_neg hnot, ih hrest]
    rfl

end

theorem mem_replaceList {p t : List Char} {c : Char} : ∀ {skip : Nat} {cs : List Char},
    c ∈ replaceList p t skip cs → c ∈ t ∨ c ∈ cs
  | _, [], h => by simp [replaceList] at h
  | _ + 1, _ :: _, h => by
    rw [replaceList] at h
    exact (mem_replaceList h).imp_right (List.mem_cons_of_mem _)
  | 0, d :: cs, h => by
    rw [replaceList] at h
    split at h
    · rcases List.mem_append.mp h with ht | h
      · exact .inl ht
      · exact (mem_replaceList h).imp_right (List.mem_cons_of_mem _)
    · rcases List.mem_cons.mp h with rfl | h
      · exact .inr List.mem_cons_self
      · exact (mem_replaceList h).imp_right (List.mem_cons_of_mem _)

/-- The first place alone. -/
theorem replace_first {p t a : String} (hp : p ≠ "") (ha : ¬p.toList <:+: a.toList ++ p.toList.dropLast) (b : String) :
    replace p t (a ++ p ++ b) = a ++ t ++ replace p t b := by
  have hne : p.toList ≠ [] := by
    rwa [Ne, String.toList_eq_nil_iff]
  rw [replace, String.toList_append, String.toList_append, replaceList_first hne ha, ← String.toList_inj, String.toList_ofList]
  simp [replace]

theorem replace_of_not_contains {p t s : String} (h : contains p s = false) : replace p t s = s := by
  rw [replace, replaceList_of_not_infix (of_decide_eq_false h), String.ofList_toList]

end Rust
