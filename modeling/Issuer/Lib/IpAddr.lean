import Issuer.Lib.Rust

/-!
# IP addresses (`std::net`)

Addresses of both versions, how `str::parse` reads them, and the blocks they lie in. The text of an IPv4 address
reads back (`parseIpAddr_display`), and so does the long text of an IPv6 address (`parseIpAddr_longText`).
-/

namespace Net

open Rust

structure Ipv4Addr where
  o0 : UInt8
  o1 : UInt8
  o2 : UInt8
  o3 : UInt8
deriving DecidableEq, Repr

/-- Eight segments. -/
structure Ipv6Addr where
  s0 : UInt16
  s1 : UInt16
  s2 : UInt16
  s3 : UInt16
  s4 : UInt16
  s5 : UInt16
  s6 : UInt16
  s7 : UInt16
deriving DecidableEq, Repr

inductive IpAddr where
  | v4 (a : Ipv4Addr)
  | v6 (a : Ipv6Addr)
deriving DecidableEq, Repr

/-! ## Reading

Each reader takes what it can from the front and hands back the rest.
-/

def digitValue (radix : Nat) (c : Char) : Option Nat := (hexVal c).filter (· < radix)

def digitsValue (radix : Nat) (digits : List Char) : Nat :=
  digits.foldl (fun n c => radix * n + (digitValue radix c).getD 0) 0

/-- All digits that follow: at least one, not too many, no leading zero unless allowed, no overflow. -/
def readNumber (radix maxDigits : Nat) (allowZeroPrefix : Bool) (maxValue : Nat) (cs : List Char) : Option (Nat × List Char) :=
  let digits := cs.takeWhile fun c => (digitValue radix c).isSome
  if digits = [] ∨ maxDigits < digits.length ∨ maxValue < digitsValue radix digits ∨
      (allowZeroPrefix = false ∧ digits.head? = some '0' ∧ 1 < digits.length) then none
  else some (digitsValue radix digits, cs.dropWhile fun c => (digitValue radix c).isSome)

def readGivenChar (c : Char) : List Char → Option (List Char)
  | d :: cs => if d = c then some cs else none
  | [] => none

/-- The separator stands before every group but the first. -/
def readSeparator (sep : Char) (index : Nat) (cs : List Char) : Option (List Char) :=
  if index = 0 then some cs else readGivenChar sep cs

def readOctet (index : Nat) (cs : List Char) : Option (UInt8 × List Char) := do
  let cs ← readSeparator '.' index cs
  let (n, cs) ← readNumber 10 3 false 255 cs
  return (UInt8.ofNat n, cs)

def readIpv4Addr (cs : List Char) : Option (Ipv4Addr × List Char) := do
  let (o0, cs) ← readOctet 0 cs
  let (o1, cs) ← readOctet 1 cs
  let (o2, cs) ← readOctet 2 cs
  let (o3, cs) ← readOctet 3 cs
  return (⟨o0, o1, o2, o3⟩, cs)

def segmentOf (hi lo : UInt8) : UInt16 := UInt16.ofNat (256 * hi.toNat + lo.toNat)

/-- Groups for the free slots, of which the last two may be an IPv4 address (then the flag is set). -/
def readGroups : (slots index : Nat) → List Char → List UInt16 × Bool × List Char
  | 0, _, cs => ([], false, cs)
  | slots + 1, index, cs =>
    match if 1 ≤ slots then (readSeparator ':' index cs).bind readIpv4Addr else none with
    | some (a, cs) => ([segmentOf a.o0 a.o1, segmentOf a.o2 a.o3], true, cs)
    | none =>
      match (readSeparator ':' index cs).bind (readNumber 16 4 true 65535) with
      | none => ([], false, cs)
      | some (group, cs) =>
        let (groups, ipv4, cs) := readGroups slots (index + 1) cs
        (UInt16.ofNat group :: groups, ipv4, cs)

def ipv6OfSegments : List UInt16 → Option Ipv6Addr
  | [s0, s1, s2, s3, s4, s5, s6, s7] => some ⟨s0, s1, s2, s3, s4, s5, s6, s7⟩
  | _ => none

/-- Two colons stand for the segments that are left out. -/
def readIpv6Addr (cs : List Char) : Option (Ipv6Addr × List Char) :=
  let (head, headIpv4, cs) := readGroups 8 0 cs
  if head.length = 8 then (ipv6OfSegments head).map (·, cs)
  else if headIpv4 then none
  else do
    let cs ← readGivenChar ':' cs
    let cs ← readGivenChar ':' cs
    let (tail, _, cs) := readGroups (7 - head.length) 0 cs
    let a ← ipv6OfSegments (head ++ List.replicate (8 - head.length - tail.length) 0 ++ tail)
    return (a, cs)

def readIpAddr (cs : List Char) : Option (IpAddr × List Char) :=
  match readIpv4Addr cs with
  | some (a, cs) => some (.v4 a, cs)
  | none => (readIpv6Addr cs).map fun r => (.v6 r.1, r.2)

/-- `str::parse::<IpAddr>`. -/
def parseIpAddr (s : String) : Option IpAddr :=
  match readIpAddr s.toList with
  | some (a, []) => some a
  | _ => none

example : ["10.0.0.1", "10.0.0.01", "fe80::1", "::ffff:10.0.0.1", "1::2::3"].map parseIpAddr =
    [some (.v4 ⟨10, 0, 0, 1⟩), none, some (.v6 ⟨0xfe80, 0, 0, 0, 0, 0, 0, 1⟩), some (.v6 ⟨0, 0, 0, 0, 0, 0xffff, 0xa00, 1⟩),
      none] := by decide +kernel

/-! ## The text of an IPv4 address -/

namespace Ipv4Addr

def display (a : Ipv4Addr) : String :=
  toString a.o0.toNat ++ "." ++ toString a.o1.toNat ++ "." ++ toString a.o2.toNat ++ "." ++ toString a.o3.toNat

end Ipv4Addr

theorem digits_octet : ∀ n < 256, ((Nat.toDigits 10 n).all fun c => (digitValue 10 c).isSome) = true ∧
    ¬(Nat.toDigits 10 n = [] ∨ 3 < (Nat.toDigits 10 n).length ∨ 255 < digitsValue 10 (Nat.toDigits 10 n) ∨
      (false = false ∧ (Nat.toDigits 10 n).head? = some '0' ∧ 1 < (Nat.toDigits 10 n).length)) ∧
    digitsValue 10 (Nat.toDigits 10 n) = n := by
  decide +kernel

/-- What reads back: digits within the bounds, then something that is no digit. -/
theorem readNumber_append {radix maxDigits maxValue : Nat} {zeros : Bool} {digits rest : List Char}
    (hall : ∀ c ∈ digits, (digitValue radix c).isSome = true)
    (hgood : ¬(digits = [] ∨ maxDigits < digits.length ∨ maxValue < digitsValue radix digits ∨
      (zeros = false ∧ digits.head? = some '0' ∧ 1 < digits.length)))
    (hrest : ∀ c ∈ rest.head?, (digitValue radix c).isSome = false) :
    readNumber radix maxDigits zeros maxValue (digits ++ rest) = some (digitsValue radix digits, rest) := by
  have hempty : rest.takeWhile (fun c => (digitValue radix c).isSome) = [] := by
    cases rest with
    | nil => rfl
    | cons c rest => rw [List.takeWhile_cons_of_neg (by simpa using hrest c rfl)]
  have hwhole : rest.dropWhile (fun c => (digitValue radix c).isSome) = rest := by
    cases rest with
    | nil => rfl
    | cons c rest => rw [List.dropWhile_cons_of_neg (by simpa using hrest c rfl)]
  unfold readNumber
  rw [List.takeWhile_append_of_pos hall, List.dropWhile_append_of_pos hall, hempty, hwhole, List.append_nil]
  exact if_neg hgood

theorem readNumber_octet (o : UInt8) {rest : List Char} (hrest : ∀ c ∈ rest.head?, (digitValue 10 c).isSome = false) :
    readNumber 10 3 false 255 (Nat.toDigits 10 o.toNat ++ rest) = some (o.toNat, rest) := by
  obtain ⟨hall, hgood, hvalue⟩ := digits_octet o.toNat o.toNat_lt
  rw [readNumber_append (List.all_eq_true.mp hall) hgood hrest, hvalue]

theorem readOctet_first (o : UInt8) {rest : List Char} (hrest : ∀ c ∈ rest.head?, (digitValue 10 c).isSome = false) :
    readOctet 0 (Nat.toDigits 10 o.toNat ++ rest) = some (o, rest) := by
  simp [readOctet, readSeparator, readNumber_octet o hrest]

theorem readOctet_next {index : Nat} (hindex : index ≠ 0) (o : UInt8) {rest : List Char}
    (hrest : ∀ c ∈ rest.head?, (digitValue 10 c).isSome = false) :
    readOctet index ('.' :: (Nat.toDigits 10 o.toNat ++ rest)) = some (o, rest) := by
  simp [readOctet, readSeparator, hindex, readGivenChar, readNumber_octet o hrest]

/-- The text of an address reads back as the address. -/
theorem parseIpAddr_display (a : Ipv4Addr) : parseIpAddr a.display = some (.v4 a) := by
  have hdot : ∀ cs : List Char, ∀ c ∈ ('.' :: cs).head?, (digitValue 10 c).isSome = false := by
    intro cs c hc
    cases hc
    decide
  have htext : a.display.toList = Nat.toDigits 10 a.o0.toNat ++ '.' :: (Nat.toDigits 10 a.o1.toNat ++
      '.' :: (Nat.toDigits 10 a.o2.toNat ++ '.' :: (Nat.toDigits 10 a.o3.toNat ++ []))) := by
    simp [Ipv4Addr.display]
  have hread : readIpv4Addr a.display.toList = some (a, []) := by
    rw [htext, readIpv4Addr, readOctet_first _ (hdot _)]
    simp only [Option.bind_eq_bind, Option.bind_some]
    rw [readOctet_next (by decide) _ (hdot _)]
    simp only [Option.bind_some]
    rw [readOctet_next (by decide) _ (hdot _)]
    simp only [Option.bind_some]
    rw [readOctet_next (by decide) _ (by simp)]
    rfl
  simp [parseIpAddr, readIpAddr, hread]

/-! ## The long text of an IPv6 address -/

def segmentText (s : UInt16) : List Char :=
  [hexDigit (s.toNat / 4096), hexDigit (s.toNat / 256 % 16), hexDigit (s.toNat / 16 % 16), hexDigit (s.toNat % 16)]

def groupsText : List UInt16 → List Char
  | [] => []
  | s :: segments => ':' :: (segmentText s ++ groupsText segments)

namespace Ipv6Addr

/-- All eight segments, with four digits each. -/
def longText (a : Ipv6Addr) : String :=
  String.ofList (segmentText a.s0 ++ groupsText [a.s1, a.s2, a.s3, a.s4, a.s5, a.s6, a.s7])

end Ipv6Addr

theorem hexDigit_spec : ∀ n < 16,
    digitValue 16 (hexDigit n) = some n ∧ hexDigit n ≠ '.' ∧ hexDigit n ≠ '[' ∧ hexDigit n ≠ ']' := by
  decide

theorem mem_segmentText {s : UInt16} {c : Char} (h : c ∈ segmentText s) : ∃ n < 16, c = hexDigit n := by
  have hs := s.toNat_lt
  simp only [segmentText, List.mem_cons, List.not_mem_nil, or_false] at h
  rcases h with h | h | h | h
  · exact ⟨_, by omega, h⟩
  · exact ⟨_, by omega, h⟩
  · exact ⟨_, by omega, h⟩
  · exact ⟨_, by omega, h⟩

theorem mem_groupsText {segments : List UInt16} {c : Char} (h : c ∈ groupsText segments) :
    c = ':' ∨ ∃ n < 16, c = hexDigit n := by
  induction segments with
  | nil => cases h
  | cons s segments ih =>
    rw [groupsText, List.mem_cons, List.mem_append] at h
    rcases h with h | h | h
    · exact .inl h
    · exact .inr (mem_segmentText h)
    · exact ih h

theorem readNumber_segment (s : UInt16) {rest : List Char} (hrest : ∀ c ∈ rest.head?, (digitValue 16 c).isSome = false) :
    readNumber 16 4 true 65535 (segmentText s ++ rest) = some (s.toNat, rest) := by
  have hs := s.toNat_lt
  have hall : ∀ c ∈ segmentText s, (digitValue 16 c).isSome = true := by
    intro c hc
    obtain ⟨n, hn, rfl⟩ := mem_segmentText hc
    rw [(hexDigit_spec n hn).1]
    rfl
  have hvalue : digitsValue 16 (segmentText s) = s.toNat := by
    simp only [digitsValue, segmentText, List.foldl_cons, List.foldl_nil, (hexDigit_spec _ (by omega : s.toNat / 4096 < 16)).1,
      (hexDigit_spec _ (by omega : s.toNat / 256 % 16 < 16)).1, (hexDigit_spec _ (by omega : s.toNat / 16 % 16 < 16)).1,
      (hexDigit_spec _ (by omega : s.toNat % 16 < 16)).1, Option.getD_some]
    omega
  have hgood : ¬(segmentText s = [] ∨ 4 < (segmentText s).length ∨ 65535 < digitsValue 16 (segmentText s) ∨
      (true = false ∧ (segmentText s).head? = some '0' ∧ 1 < (segmentText s).length)) := by
    rw [hvalue]
    rintro (h | h | h | h)
    · cases h
    · exact absurd h (by simp [segmentText])
    · omega
    · cases h.1
  rw [readNumber_append hall hgood hrest, hvalue]

/-- An IPv4 address has dots. -/
theorem readIpv4Addr_none {cs : List Char} (h : '.' ∉ cs) : readIpv4Addr cs = none := by
  have hrest : ∀ {o rest}, readOctet 0 cs = some (o, rest) → '.' ∉ rest := by
    intro o rest hread
    simp only [readOctet, readSeparator, if_true, Option.bind_eq_bind, Option.bind_some, readNumber] at hread
    split at hread
    · cases hread
    · simp only [Option.bind_some, Option.pure_def, Option.some.injEq, Prod.mk.injEq] at hread
      rw [← hread.2]
      exact fun hmem => h ((List.dropWhile_suffix _).subset hmem)
  unfold readIpv4Addr
  cases hfirst : readOctet 0 cs with
  | none => rfl
  | some read =>
    obtain ⟨o, rest⟩ := read
    have hsep : readSeparator '.' 1 rest = none := by
      rw [readSeparator, if_neg (by decide)]
      cases hcs : rest with
      | nil => rfl
      | cons c rest' =>
        refine if_neg ?_
        rintro rfl
        exact hrest hfirst (by rw [hcs]; simp)
    simp [readOctet, hsep]

theorem groupsText_head (segments : List UInt16) : ∀ c ∈ (groupsText segments).head?, (digitValue 16 c).isSome = false := by
  intro c hc
  cases segments with
  | nil => cases hc
  | cons s segments =>
    cases hc
    decide

theorem dot_notMem_segments (s : UInt16) (segments : List UInt16) : '.' ∉ segmentText s ++ groupsText segments := by
  intro hmem
  rcases List.mem_append.mp hmem with hmem | hmem
  · obtain ⟨n, hn, hc⟩ := mem_segmentText hmem
    exact (hexDigit_spec n hn).2.1 hc.symm
  · rcases mem_groupsText hmem with hc | ⟨n, hn, hc⟩
    · cases hc
    · exact (hexDigit_spec n hn).2.1 hc.symm

theorem readGroups_step {slots index : Nat} {cs : List Char} {s : UInt16} {segments : List UInt16}
    (hsep : readSeparator ':' index cs = some (segmentText s ++ groupsText segments)) :
    readGroups (slots + 1) index cs = (s :: (readGroups slots (index + 1) (groupsText segments)).1,
      (readGroups slots (index + 1) (groupsText segments)).2) := by
  have hipv4 : (if 1 ≤ slots then (readSeparator ':' index cs).bind readIpv4Addr else none) = none := by
    rw [hsep, Option.bind_some, readIpv4Addr_none (dot_notMem_segments s segments), ite_self]
  have hnumber : (readSeparator ':' index cs).bind (readNumber 16 4 true 65535) = some (s.toNat, groupsText segments) := by
    rw [hsep, Option.bind_some, readNumber_segment s (groupsText_head segments)]
  rw [readGroups, hipv4, hnumber]
  simp only [UInt16.ofNat_toNat]

theorem readGroups_groupsText (segments : List UInt16) {index : Nat} (hindex : index ≠ 0) :
    readGroups segments.length index (groupsText segments) = (segments, false, []) := by
  induction segments generalizing index with
  | nil => rfl
  | cons s segments ih =>
    have hsep : readSeparator ':' index (groupsText (s :: segments)) = some (segmentText s ++ groupsText segments) := by
      rw [readSeparator, if_neg hindex]
      rfl
    rw [List.length_cons, readGroups_step hsep, ih (Nat.succ_ne_zero index)]

theorem parseIpAddr_longText (a : Ipv6Addr) : parseIpAddr a.longText = some (.v6 a) := by
  have htext : a.longText.toList = segmentText a.s0 ++ groupsText [a.s1, a.s2, a.s3, a.s4, a.s5, a.s6, a.s7] := by
    rw [Ipv6Addr.longText, String.toList_ofList]
  have hsep : readSeparator ':' 0 a.longText.toList =
      some (segmentText a.s0 ++ groupsText [a.s1, a.s2, a.s3, a.s4, a.s5, a.s6, a.s7]) := by
    rw [readSeparator, if_pos rfl, htext]
  have hrest : readGroups 7 (0 + 1) (groupsText [a.s1, a.s2, a.s3, a.s4, a.s5, a.s6, a.s7]) =
      ([a.s1, a.s2, a.s3, a.s4, a.s5, a.s6, a.s7], false, []) :=
    readGroups_groupsText [a.s1, a.s2, a.s3, a.s4, a.s5, a.s6, a.s7] Nat.one_ne_zero
  have hgroups : readGroups 8 0 a.longText.toList = ([a.s0, a.s1, a.s2, a.s3, a.s4, a.s5, a.s6, a.s7], false, []) := by
    rw [readGroups_step hsep, hrest]
  have hread : readIpv6Addr a.longText.toList = some (a, []) := by
    rw [readIpv6Addr, hgroups]
    rfl
  have hipv4 : readIpv4Addr a.longText.toList = none := by
    rw [htext]
    exact readIpv4Addr_none (dot_notMem_segments _ _)
  simp [parseIpAddr, readIpAddr, hread, hipv4]

/-! ## Hosts of URLs -/

inductive Host where
  | domain (name : String)
  | ipv4 (a : Ipv4Addr)
  | ipv6 (a : Ipv6Addr)
deriving DecidableEq, Repr

/-- `Url::host_str`, the text of an IPv6 address being given; it stands in brackets. -/
def Host.str (ipv6Text : Ipv6Addr → String) : Host → String
  | .domain name => name
  | .ipv4 a => a.display
  | .ipv6 a => "[" ++ ipv6Text a ++ "]"

/-! ## What the standard library knows of an address -/

namespace Ipv4Addr
variable (a : Ipv4Addr)

def isLoopback : Bool := a.o0 == 127

def isPrivate : Bool := a.o0 == 10 || (a.o0 == 172 && 16 ≤ a.o1 && a.o1 ≤ 31) || (a.o0 == 192 && a.o1 == 168)

def isLinkLocal : Bool := a.o0 == 169 && a.o1 == 254

def isBroadcast : Bool := a.o0 == 255 && a.o1 == 255 && a.o2 == 255 && a.o3 == 255

def isDocumentation : Bool :=
  (a.o0 == 192 && a.o1 == 0 && a.o2 == 2) || (a.o0 == 198 && a.o1 == 51 && a.o2 == 100) ||
    (a.o0 == 203 && a.o1 == 0 && a.o2 == 113)

end Ipv4Addr

namespace Ipv6Addr
variable (a : Ipv6Addr)

def isLoopback : Bool := a == ⟨0, 0, 0, 0, 0, 0, 0, 1⟩

def isUnspecified : Bool := a == ⟨0, 0, 0, 0, 0, 0, 0, 0⟩

def isMulticast : Bool := (a.s0 &&& 0xff00) == 0xff00

def lowIpv4 : Ipv4Addr :=
  ⟨UInt8.ofNat (a.s6.toNat / 256), UInt8.ofNat (a.s6.toNat % 256), UInt8.ofNat (a.s7.toNat / 256), UInt8.ofNat (a.s7.toNat % 256)⟩

def toIpv4Mapped : Option Ipv4Addr :=
  if a.s0 = 0 ∧ a.s1 = 0 ∧ a.s2 = 0 ∧ a.s3 = 0 ∧ a.s4 = 0 ∧ a.s5 = 0xffff then some a.lowIpv4 else none

/-- The mapped form and the compatible one. -/
def toIpv4 : Option Ipv4Addr :=
  if a.s0 = 0 ∧ a.s1 = 0 ∧ a.s2 = 0 ∧ a.s3 = 0 ∧ a.s4 = 0 ∧ (a.s5 = 0 ∨ a.s5 = 0xffff) then some a.lowIpv4 else none

end Ipv6Addr

namespace IpAddr

def isLoopback : IpAddr → Bool
  | .v4 a => a.isLoopback
  | .v6 a => a.isLoopback

end IpAddr

/-! ## Blocks -/

def Ipv4Addr.toNat (a : Ipv4Addr) : Nat := ((a.o0.toNat * 256 + a.o1.toNat) * 256 + a.o2.toNat) * 256 + a.o3.toNat

def Ipv6Addr.toNat (a : Ipv6Addr) : Nat :=
  ((((((a.s0.toNat * 65536 + a.s1.toNat) * 65536 + a.s2.toNat) * 65536 + a.s3.toNat) * 65536 + a.s4.toNat) * 65536 +
    a.s5.toNat) * 65536 + a.s6.toNat) * 65536 + a.s7.toNat

/-- `a` has the first `length` bits of `base`, as in `base/length`. -/
def Ipv4Addr.InBlock (a : Ipv4Addr) (block : Ipv4Addr × Nat) : Prop :=
  a.toNat / 2 ^ (32 - block.2) = block.1.toNat / 2 ^ (32 - block.2)

def Ipv6Addr.InBlock (a : Ipv6Addr) (block : Ipv6Addr × Nat) : Prop :=
  a.toNat / 2 ^ (128 - block.2) = block.1.toNat / 2 ^ (128 - block.2)

/-- Clearing the low bits of a segment. -/
theorem land_high {x k : Nat} (hx : x < 2 ^ 16) (hk : k ≤ 16) : x &&& (2 ^ 16 - 2 ^ k) = x / 2 ^ k * 2 ^ k := by
  have hpow : 2 ^ 16 = 2 ^ (16 - k) * 2 ^ k := by rw [← pow_add, Nat.sub_add_cancel hk]
  have hmask : 2 ^ 16 - 2 ^ k = (2 ^ (16 - k) - 1) * 2 ^ k := by rw [Nat.sub_mul, ← hpow, one_mul]
  have hdiv : (x &&& (2 ^ 16 - 2 ^ k)) / 2 ^ k = x / 2 ^ k := by
    rw [Nat.and_div_two_pow, hmask, Nat.mul_div_cancel _ (Nat.two_pow_pos k), Nat.and_two_pow_sub_one_eq_mod]
    exact Nat.mod_eq_of_lt (Nat.div_lt_of_lt_mul (by rw [mul_comm, ← hpow]; exact hx))
  have hmod : (x &&& (2 ^ 16 - 2 ^ k)) % 2 ^ k = 0 := by
    rw [Nat.and_mod_two_pow, hmask, Nat.mul_mod_left, Nat.and_zero]
  rw [← hdiv, Nat.div_mul_cancel (Nat.dvd_of_mod_eq_zero hmod)]

end Net
