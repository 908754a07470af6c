import Issuer.Ssrf

/-!
# What the service URL check keeps out

Every address in a restricted block is refused, in whichever form it is written. A name is refused as it stands:
with a final dot it names the same host and passes.
-/

namespace Issuer

open Rust Net

namespace Ssrf

/-! ## Restricted addresses -/

/-- Loopback, private, link-local, documentation, this network, multicast, reserved and carrier-grade NAT. -/
def restrictedIpv4 : List (Ipv4Addr × Nat) :=
  [(⟨127, 0, 0, 0⟩, 8), (⟨10, 0, 0, 0⟩, 8), (⟨172, 16, 0, 0⟩, 12), (⟨192, 168, 0, 0⟩, 16), (⟨169, 254, 0, 0⟩, 16),
    (⟨192, 0, 2, 0⟩, 24), (⟨198, 51, 100, 0⟩, 24), (⟨203, 0, 113, 0⟩, 24), (⟨0, 0, 0, 0⟩, 8), (⟨224, 0, 0, 0⟩, 4),
    (⟨240, 0, 0, 0⟩, 4), (⟨100, 64, 0, 0⟩, 10)]

/-- Loopback, unspecified, multicast, link-local, unique local, documentation and site-local. -/
def restrictedIpv6 : List (Ipv6Addr × Nat) :=
  [(⟨0, 0, 0, 0, 0, 0, 0, 1⟩, 128), (⟨0, 0, 0, 0, 0, 0, 0, 0⟩, 128), (⟨0xff00, 0, 0, 0, 0, 0, 0, 0⟩, 8),
    (⟨0xfe80, 0, 0, 0, 0, 0, 0, 0⟩, 10), (⟨0xfc00, 0, 0, 0, 0, 0, 0, 0⟩, 7), (⟨0x2001, 0xdb8, 0, 0, 0, 0, 0, 0⟩, 32),
    (⟨0xfec0, 0, 0, 0, 0, 0, 0, 0⟩, 10)]

def RestrictedIpv4 (a : Ipv4Addr) : Prop := ∃ block ∈ restrictedIpv4, a.InBlock block

def RestrictedIpv6 (a : Ipv6Addr) : Prop := ∃ block ∈ restrictedIpv6, a.InBlock block

theorem sharedMask_iff (o : UInt8) : o &&& 0b11000000 = 0b01000000 ↔ 64 ≤ o.toNat ∧ o.toNat < 128 := by
  have hall : ∀ n < 256, UInt8.ofNat n &&& 0b11000000 = 0b01000000 ↔ 64 ≤ n ∧ n < 128 := by decide +kernel
  have h := hall o.toNat o.toNat_lt
  rwa [UInt8.ofNat_toNat] at h

theorem restrictedIpv4_iff (a : Ipv4Addr) : RestrictedIpv4 a ↔
    a.o0.toNat = 127 ∨ a.o0.toNat = 10 ∨ (a.o0.toNat = 172 ∧ 16 ≤ a.o1.toNat ∧ a.o1.toNat ≤ 31) ∨
      (a.o0.toNat = 192 ∧ a.o1.toNat = 168) ∨ (a.o0.toNat = 169 ∧ a.o1.toNat = 254) ∨
      (a.o0.toNat = 192 ∧ a.o1.toNat = 0 ∧ a.o2.toNat = 2) ∨ (a.o0.toNat = 198 ∧ a.o1.toNat = 51 ∧ a.o2.toNat = 100) ∨
      (a.o0.toNat = 203 ∧ a.o1.toNat = 0 ∧ a.o2.toNat = 113) ∨ a.o0.toNat = 0 ∨
      (224 ≤ a.o0.toNat ∧ a.o0.toNat ≤ 239) ∨ 240 ≤ a.o0.toNat ∨
      (a.o0.toNat = 100 ∧ 64 ≤ a.o1.toNat ∧ a.o1.toNat < 128) := by
  have h0 := a.o0.toNat_lt
  have h1 := a.o1.toNat_lt
  have h2 := a.o2.toNat_lt
  have h3 := a.o3.toNat_lt
  simp only [RestrictedIpv4, restrictedIpv4, List.mem_cons, List.not_mem_nil, or_false, exists_eq_or_imp, exists_eq_left,
    Ipv4Addr.InBlock, Ipv4Addr.toNat, UInt8.reduceToNat, Nat.reduceMul, Nat.reduceAdd, Nat.reduceSub, Nat.reducePow,
    Nat.reduceDiv]
  refine or_congr ?_ (or_congr ?_ (or_congr ?_ (or_congr ?_ (or_congr ?_ (or_congr ?_ (or_congr ?_ (or_congr ?_ (or_congr ?_
    (or_congr ?_ (or_congr ?_ ?_)))))))))) <;> omega

theorem isPrivateOrRestrictedIpv4_iff (a : Ipv4Addr) : isPrivateOrRestrictedIpv4 a = true ↔ RestrictedIpv4 a := by
  obtain ⟨o0, o1, o2, o3⟩ := a
  rw [restrictedIpv4_iff]
  simp only [isPrivateOrRestrictedIpv4, Ipv4Addr.isLoopback, Ipv4Addr.isPrivate, Ipv4Addr.isLinkLocal, Ipv4Addr.isBroadcast,
    Ipv4Addr.isDocumentation, Bool.if_true_left, Bool.or_eq_true, Bool.and_eq_true, decide_eq_true_eq, beq_iff_eq,
    Ipv4Addr.mk.injEq, sharedMask_iff, Bool.false_eq_true, or_false]
  simp only [ge_iff_le, UInt8.le_iff_toNat_le, ← UInt8.toNat_inj, UInt8.reduceToNat]
  simp only [or_assoc, and_assoc]
  refine or_congr_right (or_congr_right (or_congr_right (or_congr_right (or_congr_right ?_))))
  -- the broadcast address is reserved, and 100.100.100.200 lies in the shared block
  refine (or_iff_right_of_imp ?_).trans ?_
  · rintro ⟨hbroadcast, -⟩
    exact .inr (.inr (.inr (.inr (.inr (.inl (by omega))))))
  · refine or_congr_right (or_congr_right (or_congr_right (or_congr_right (or_congr_right (or_congr_right ?_)))))
    refine or_iff_right_of_imp ?_
    rintro ⟨hfirst, hsecond, -⟩
    exact ⟨hfirst, by omega⟩

theorem segmentMask_iff (s : UInt16) {mask value : UInt16} {k : Nat} (hk : k ≤ 16) (hmask : mask.toNat = 2 ^ 16 - 2 ^ k)
    (hvalue : value.toNat % 2 ^ k = 0) : s &&& mask = value ↔ s.toNat / 2 ^ k = value.toNat / 2 ^ k := by
  rw [← UInt16.toNat_inj, UInt16.toNat_and, hmask, land_high s.toNat_lt hk]
  have hv := Nat.div_mul_cancel (Nat.dvd_of_mod_eq_zero hvalue)
  constructor
  · intro h
    rw [← h, Nat.mul_div_cancel _ (Nat.two_pow_pos k)]
  · intro h
    rw [h, hv]

theorem restrictedIpv6_iff (a : Ipv6Addr) : RestrictedIpv6 a ↔
    a = ⟨0, 0, 0, 0, 0, 0, 0, 1⟩ ∨ a = ⟨0, 0, 0, 0, 0, 0, 0, 0⟩ ∨ a.s0.toNat / 2 ^ 8 = 0xff00 / 2 ^ 8 ∨
      a.s0.toNat / 2 ^ 6 = 0xfe80 / 2 ^ 6 ∨ a.s0.toNat / 2 ^ 9 = 0xfc00 / 2 ^ 9 ∨
      (a.s0.toNat = 0x2001 ∧ a.s1.toNat = 0xdb8) ∨ a.s0.toNat / 2 ^ 6 = 0xfec0 / 2 ^ 6 := by
  obtain ⟨s0, s1, s2, s3, s4, s5, s6, s7⟩ := a
  have h0 := s0.toNat_lt
  have h1 := s1.toNat_lt
  have h2 := s2.toNat_lt
  have h3 := s3.toNat_lt
  have h4 := s4.toNat_lt
  have h5 := s5.toNat_lt
  have h6 := s6.toNat_lt
  have h7 := s7.toNat_lt
  simp only [RestrictedIpv6, restrictedIpv6, List.mem_cons, List.not_mem_nil, or_false, exists_eq_or_imp, exists_eq_left,
    Ipv6Addr.InBlock, Ipv6Addr.toNat, Ipv6Addr.mk.injEq, ← UInt16.toNat_inj, UInt16.reduceToNat, Nat.reduceMul, Nat.reduceAdd,
    Nat.reduceSub, Nat.reducePow, Nat.reduceDiv]
  refine or_congr ?_ (or_congr ?_ (or_congr ?_ (or_congr ?_ (or_congr ?_ (or_congr ?_ ?_)))))
  · omega
  · omega
  · omega
  · omega
  · omega
  · omega
  · omega

theorem toIpv4_of_mapped {a : Ipv6Addr} {v4 : Ipv4Addr} (h : a.toIpv4Mapped = some v4) : a.toIpv4 = some v4 := by
  unfold Ipv6Addr.toIpv4Mapped at h
  split at h
  · rename_i hseg
    obtain ⟨h0, h1, h2, h3, h4, h5⟩ := hseg
    rw [Ipv6Addr.toIpv4, if_pos ⟨h0, h1, h2, h3, h4, .inr h5⟩, h]
  · cases h

/-- Refused are the restricted addresses and those that carry a restricted IPv4 address. -/
theorem isPrivateOrRestrictedIpv6_iff (a : Ipv6Addr) : isPrivateOrRestrictedIpv6 a = true ↔
    RestrictedIpv6 a ∨ ∃ v4, a.toIpv4 = some v4 ∧ RestrictedIpv4 v4 := by
  have hlinkLocal : a.s0 &&& 0xffc0 = 0xfe80 ↔ a.s0.toNat / 2 ^ 6 = 0xfe80 / 2 ^ 6 :=
    segmentMask_iff a.s0 (by decide) (by decide) (by decide)
  have hsiteLocal : a.s0 &&& 0xffc0 = 0xfec0 ↔ a.s0.toNat / 2 ^ 6 = 0xfec0 / 2 ^ 6 :=
    segmentMask_iff a.s0 (by decide) (by decide) (by decide)
  have huniqueLocal : a.s0 &&& 0xfe00 = 0xfc00 ↔ a.s0.toNat / 2 ^ 9 = 0xfc00 / 2 ^ 9 :=
    segmentMask_iff a.s0 (by decide) (by decide) (by decide)
  have hmulticast : a.s0 &&& 0xff00 = 0xff00 ↔ a.s0.toNat / 2 ^ 8 = 0xff00 / 2 ^ 8 :=
    segmentMask_iff a.s0 (by decide) (by decide) (by decide)
  have hdocumentation : a.s0 = 0x2001 ∧ a.s1 = 0x0db8 ↔ a.s0.toNat = 0x2001 ∧ a.s1.toNat = 0xdb8 := by
    simp only [← UInt16.toNat_inj, UInt16.reduceToNat]
  have hmetadata : a.s0 = 0xfd00 → a.s0.toNat / 2 ^ 9 = 0xfc00 / 2 ^ 9 := by
    intro h
    rw [h]
    decide
  rw [restrictedIpv6_iff]
  unfold isPrivateOrRestrictedIpv6
  simp only [Ipv6Addr.isLoopback, Ipv6Addr.isUnspecified, Ipv6Addr.isMulticast, beq_iff_eq, hlinkLocal, hsiteLocal, huniqueLocal,
    hmulticast, hdocumentation, Bool.if_true_left, Bool.or_eq_true, decide_eq_true_eq, or_assoc]
  refine or_congr_right (or_congr_right (or_congr_right (or_congr_right ?_)))
  -- the metadata address is unique local
  by_cases hlocal : a.s0.toNat / 2 ^ 9 = 0xfc00 / 2 ^ 9
  · exact iff_of_true (.inl hlocal) (.inl hlocal)
  refine or_congr_right (or_congr_right ((or_iff_right fun h => hlocal (hmetadata h.1)).trans ?_))
  cases hv4 : a.toIpv4 with
  | none =>
    have hmapped : a.toIpv4Mapped = none := by
      cases hmapped : a.toIpv4Mapped with
      | none => rfl
      | some v4 =>
        rw [toIpv4_of_mapped hmapped] at hv4
        cases hv4
    simp only [hmapped, Bool.or_false, decide_eq_true_eq, reduceCtorEq, false_and, exists_false, or_false]
  | some v4 =>
    have hfirst : a.s0 = 0 := by
      unfold Ipv6Addr.toIpv4 at hv4
      split at hv4
      · rename_i hseg
        exact hseg.1
      · cases hv4
    have hnotSite : ¬a.s0.toNat / 2 ^ 6 = 0xfec0 / 2 ^ 6 := by
      rw [hfirst]
      decide
    simp only [Option.some.injEq, exists_eq_left', hnotSite, false_or, ← isPrivateOrRestrictedIpv4_iff v4]
    cases hmapped : a.toIpv4Mapped with
    | none => rfl
    | some v4' =>
      rw [toIpv4_of_mapped hmapped, Option.some.injEq] at hv4
      rw [hv4]

/-! ## Names -/

def BlockedName (name : String) : Prop :=
  name ∈ ["localhost", "localhost.localdomain", "metadata", "metadata.google.internal", "local"] ∨
    hasSuffix ".metadata.google.internal" name = true ∨ hasSuffix ".local" name = true

def withoutRootDot (name : String) : String :=
  if hasSuffix "." name then String.ofList name.toList.dropLast else name

def Safe : Host → Prop
  | .domain name => ¬BlockedName (withoutRootDot (toAsciiLowercase name))
  | .ipv4 a => ¬RestrictedIpv4 a
  | .ipv6 a => ¬RestrictedIpv6 a ∧ ∀ v4, a.toIpv4 = some v4 → ¬RestrictedIpv4 v4

theorem withoutRootDot_dotted (x : String) : withoutRootDot (x ++ ".") = x := by
  rw [withoutRootDot, if_pos (hasSuffix_append x "."), String.toList_append]
  simp

theorem eq_dotted_of_hasSuffix {name : String} (h : hasSuffix "." name = true) : name = withoutRootDot name ++ "." := by
  obtain ⟨x, hx⟩ := List.isSuffixOf_iff_suffix.mp h
  rw [withoutRootDot, if_pos h, ← String.toList_inj, ← hx]
  simp

theorem dotted_ne {x t : String} (ht : t.toList.getLast? ≠ some '.') : x ++ "." ≠ t := by
  rintro rfl
  exact ht (by simp)

theorem hasSuffix_dotted {x t : String} (hempty : t.toList ≠ []) (ht : t.toList.getLast? ≠ some '.') :
    hasSuffix t (x ++ ".") = false := by
  rw [hasSuffix, ← Bool.not_eq_true, List.isSuffixOf_iff_suffix]
  rintro ⟨cs, h⟩
  have hlast := congrArg List.getLast? h
  rw [List.getLast?_append_of_ne_nil _ hempty] at hlast
  exact ht (by simpa using hlast)

theorem trimBrackets_plain {cs : List Char} (hopen : '[' ∉ cs) (hclose : ']' ∉ cs) :
    ((cs.dropWhile (· == '[')).rdropWhile (· == ']')) = cs := by
  have hfront : cs.dropWhile (· == '[') = cs := by
    cases cs with
    | nil => rfl
    | cons c cs =>
      refine List.dropWhile_cons_of_neg ?_
      intro h
      exact hopen (by simp [eq_of_beq h])
  rw [hfront, List.rdropWhile_eq_self_iff]
  intro hne h
  exact hclose (eq_of_beq h ▸ List.getLast_mem hne)

theorem trimBrackets_of_notMem {s : String} (hopen : '[' ∉ s.toList) (hclose : ']' ∉ s.toList) : trimBrackets s = s := by
  rw [trimBrackets, trimBrackets_plain hopen hclose, String.ofList_toList]

theorem trimBrackets_bracketed {s : String} (hopen : '[' ∉ s.toList) (hclose : ']' ∉ s.toList) :
    trimBrackets ("[" ++ s ++ "]") = s := by
  have htext : ("[" ++ s ++ "]").toList = '[' :: (s.toList ++ [']']) := by simp
  have hfront : ('[' :: (s.toList ++ [']'])).dropWhile (· == '[') = s.toList ++ [']'] := by
    rw [List.dropWhile_cons_of_pos (by decide)]
    cases hs : s.toList with
    | nil => rfl
    | cons c cs =>
      refine List.dropWhile_cons_of_neg ?_
      intro h
      exact hopen (by simp [hs, eq_of_beq h])
  have hback : (s.toList ++ [']']).rdropWhile (· == ']') = s.toList := by
    rw [List.rdropWhile_concat_pos _ _ _ (by decide), List.rdropWhile_eq_self_iff]
    intro hne h
    exact hclose (eq_of_beq h ▸ List.getLast_mem hne)
  rw [trimBrackets, htext, hfront, hback, String.ofList_toList]

theorem toDigits_plain {n : Nat} {c : Char} (hc : c ∈ Nat.toDigits 10 n) : c ≠ '[' ∧ c ≠ ']' := by
  have hdigit := Nat.isDigit_of_mem_toDigits (by decide) (by decide) hc
  constructor
  · rintro rfl
    exact absurd hdigit (by decide)
  · rintro rfl
    exact absurd hdigit (by decide)

theorem display_plain (a : Ipv4Addr) : ∀ c ∈ a.display.toList, c ≠ '[' ∧ c ≠ ']' := by
  have hdot : ∀ c ∈ ".".toList, c ≠ '[' ∧ c ≠ ']' := by
    have hlist : ".".toList = ['.'] := by decide
    intro c hc
    rw [hlist, List.mem_singleton] at hc
    rw [hc]
    decide
  intro c hc
  simp only [Ipv4Addr.display, String.toList_append, List.mem_append, Nat.toString_eq_repr, Nat.toList_repr] at hc
  rcases hc with (((((hc | hc) | hc) | hc) | hc) | hc) | hc
  · exact toDigits_plain hc
  · exact hdot c hc
  · exact toDigits_plain hc
  · exact hdot c hc
  · exact toDigits_plain hc
  · exact hdot c hc
  · exact toDigits_plain hc

/-! ## Accepted URLs -/

/-- What the `url` crate and `str::to_lowercase` promise: an address prints as it parses, without brackets of its own;
a domain under HTTP is ASCII, without brackets, and never reads as an address. -/
structure UrlLibrary.Documented (U : UrlLibrary) : Prop where
  ipv6Text_parse : ∀ a, parseIpAddr (U.ipv6Text a) = some (.v6 a)
  ipv6Text_plain : ∀ a, '[' ∉ (U.ipv6Text a).toList ∧ ']' ∉ (U.ipv6Text a).toList
  domain_plain : ∀ {text scheme name}, U.parse text = some ⟨scheme, some (.domain name)⟩ → scheme = "https" ∨ scheme = "http" →
    (∀ c ∈ name.toList, c.toNat < 128) ∧ '[' ∉ name.toList ∧ ']' ∉ name.toList
  domain_parse : ∀ {text scheme name}, U.parse text = some ⟨scheme, some (.domain name)⟩ → scheme = "https" ∨ scheme = "http" →
    parseIpAddr name = none
  toLowercase_ascii : ∀ {s}, (∀ c ∈ s.toList, c.toNat < 128) → U.toLowercase s = toAsciiLowercase s

section
variable {U : UrlLibrary} {text : String}

theorem validateServiceUrl_ok_iff {url : ServiceUrl} : validateServiceUrl U text = .ok url ↔
    U.parse text = some url ∧ (url.scheme = "https" ∨ url.scheme = "http") ∧ ∃ host, url.host = some host ∧
      isLocalhost U (host.str U.ipv6Text) = false ∧ isCloudMetadata U (host.str U.ipv6Text) = false ∧
      (parseIpAddr (trimBrackets (host.str U.ipv6Text))).any isPrivateOrRestrictedIp = false ∧
      hasSuffix ".local" (U.toLowercase (host.str U.ipv6Text)) = false ∧ U.toLowercase (host.str U.ipv6Text) ≠ "local" := by
  unfold validateServiceUrl
  cases hparse : U.parse text with
  | none => simp
  | some parsed =>
    obtain ⟨scheme, host⟩ := parsed
    simp only
    by_cases hscheme : scheme ≠ "https" ∧ scheme ≠ "http"
    · rw [if_pos hscheme]
      refine iff_of_false nofun ?_
      rintro ⟨hurl, hhttp, -⟩
      cases hurl
      exact hhttp.elim hscheme.1 hscheme.2
    · rw [if_neg hscheme]
      have hhttp : scheme = "https" ∨ scheme = "http" := by
        rw [← or_iff_not_and_not] at hscheme
        exact hscheme
      cases host with
      | none =>
        refine iff_of_false nofun ?_
        rintro ⟨hurl, -, host, hhost, -⟩
        cases hurl
        cases hhost
      | some host =>
        simp only [Option.map_some]
        constructor
        · intro h
          split at h
          · cases h
          split at h
          · cases h
          split at h
          · cases h
          split at h
          · cases h
          rename_i hlocalhost hmetadata hip hlocal
          cases h
          simp only [Bool.not_eq_true, Bool.or_eq_false_iff, beq_eq_false_iff_ne] at hlocalhost hmetadata hip hlocal
          exact ⟨rfl, hhttp, host, rfl, hlocalhost, hmetadata, hip, hlocal⟩
        · rintro ⟨hurl, -, host', hhost, hlocalhost, hmetadata, hip, hsuffix, hname⟩
          cases hurl
          cases hhost
          simp [hlocalhost, hmetadata, hip, hsuffix, hname]

theorem isLocalhost_false_iff {name : String} (hip : parseIpAddr name = none) : isLocalhost U name = false ↔
    U.toLowercase name ∉ ["localhost", "localhost.localdomain", "::1", "[::1]"] ∧
      hasPrefix "127." (U.toLowercase name) = false := by
  unfold isLocalhost
  simp only [hip, List.mem_cons, List.not_mem_nil, or_false, not_or]
  split <;> rename_i hname
  · simp only [Bool.or_eq_true, beq_iff_eq] at hname
    simp only [Bool.true_eq_false, false_iff]
    tauto
  · simp only [Bool.or_eq_true, beq_iff_eq, not_or] at hname
    simp only [hname, Bool.if_true_left]
    simp
    tauto

def addressNames : List String :=
  ["::1", "[::1]", "169.254.169.254", "100.100.100.200", "168.63.129.16", "fd00:ec2::254", "[fd00:ec2::254]"]

theorem isCloudMetadata_false_iff {host : String} : isCloudMetadata U host = false ↔
    U.toLowercase host ∉ ["metadata.google.internal", "metadata", "169.254.169.254", "100.100.100.200", "168.63.129.16",
      "fd00:ec2::254", "[fd00:ec2::254]"] ∧ hasSuffix ".metadata.google.internal" (U.toLowercase host) = false := by
  simp only [isCloudMetadata, Bool.if_true_left, Bool.or_eq_false_iff, decide_eq_false_iff_not, beq_iff_eq, Bool.or_eq_true,
    not_or, List.mem_cons, List.not_mem_nil, not_false_eq_true, and_true, Bool.not_eq_true]
  tauto

theorem domain_passes_iff {name : String} (hip : parseIpAddr name = none) (hopen : '[' ∉ name.toList)
    (hclose : ']' ∉ name.toList) :
    (isLocalhost U name = false ∧ isCloudMetadata U name = false ∧
        (parseIpAddr (trimBrackets name)).any isPrivateOrRestrictedIp = false ∧
        hasSuffix ".local" (U.toLowercase name) = false ∧ U.toLowercase name ≠ "local") ↔
      ¬BlockedName (U.toLowercase name) ∧ hasPrefix "127." (U.toLowercase name) = false ∧ U.toLowercase name ∉ addressNames := by
  rw [trimBrackets_of_notMem hopen hclose, hip, isLocalhost_false_iff hip, isCloudMetadata_false_iff]
  simp only [BlockedName, addressNames, List.mem_cons, List.not_mem_nil, or_false, not_or, Option.any_none, Bool.not_eq_true]
  tauto

theorem dotted_passes (x : String) : ¬BlockedName (x ++ ".") ∧ x ++ "." ∉ addressNames := by
  have hlast : ∀ t ∈ ["localhost", "localhost.localdomain", "metadata", "metadata.google.internal", "local"] ++ addressNames,
      t.toList.getLast? ≠ some '.' := by
    decide
  constructor
  · rintro (hmem | hsuffix | hsuffix)
    · exact dotted_ne (hlast _ (List.mem_append_left _ hmem)) rfl
    · rw [hasSuffix_dotted (by decide) (by decide)] at hsuffix
      cases hsuffix
    · rw [hasSuffix_dotted (by decide) (by decide)] at hsuffix
      cases hsuffix
  · intro hmem
    exact dotted_ne (hlast _ (List.mem_append_right _ hmem)) rfl

theorem ipv4_refused {a : Ipv4Addr}
    (h : (parseIpAddr (trimBrackets (Host.str U.ipv6Text (.ipv4 a)))).any isPrivateOrRestrictedIp = false) :
    ¬RestrictedIpv4 a := by
  rw [Host.str, trimBrackets_of_notMem (fun hc => (display_plain a _ hc).1 rfl) fun hc => (display_plain a _ hc).2 rfl,
    parseIpAddr_display] at h
  rw [← isPrivateOrRestrictedIpv4_iff, Bool.not_eq_true]
  exact h

theorem ipv6_refused (hU : U.Documented) {a : Ipv6Addr}
    (h : (parseIpAddr (trimBrackets (Host.str U.ipv6Text (.ipv6 a)))).any isPrivateOrRestrictedIp = false) :
    Safe (.ipv6 a) := by
  obtain ⟨hopen, hclose⟩ := hU.ipv6Text_plain a
  rw [Host.str, trimBrackets_bracketed hopen hclose, hU.ipv6Text_parse] at h
  have hunrestricted : ¬(RestrictedIpv6 a ∨ ∃ v4, a.toIpv4 = some v4 ∧ RestrictedIpv4 v4) := by
    rw [← isPrivateOrRestrictedIpv6_iff, Bool.not_eq_true]
    exact h
  exact ⟨fun h => hunrestricted (.inl h), fun v4 hv4 h => hunrestricted (.inr ⟨v4, hv4, h⟩)⟩

/-- The check lets nothing unsafe through but one kind of host: a blocked name that ends in the dot of the root and
does not begin as a loopback address. -/
theorem validateServiceUrl_safe_iff (hU : U.Documented) (text : String) :
    (∀ url, validateServiceUrl U text = .ok url → ∀ host, url.host = some host → Safe host) ↔
      ¬∃ scheme name x, U.parse text = some ⟨scheme, some (.domain name)⟩ ∧ (scheme = "https" ∨ scheme = "http") ∧
        toAsciiLowercase name = x ++ "." ∧ BlockedName x ∧ hasPrefix "127." (toAsciiLowercase name) = false := by
  constructor
  · rintro hsafe ⟨scheme, name, x, hparse, hhttp, hdotted, hblocked, hloopback⟩
    obtain ⟨hascii, hopen, hclose⟩ := hU.domain_plain hparse hhttp
    have hlower := hU.toLowercase_ascii hascii
    obtain ⟨hunblocked, haddress⟩ := dotted_passes x
    have hchecks : ¬BlockedName (U.toLowercase name) ∧ hasPrefix "127." (U.toLowercase name) = false ∧
        U.toLowercase name ∉ addressNames := by
      rw [hlower, hdotted]
      exact ⟨hunblocked, hdotted ▸ hloopback, haddress⟩
    have hpasses := (domain_passes_iff (hU.domain_parse hparse hhttp) hopen hclose).mpr hchecks
    have hname := hsafe _ (validateServiceUrl_ok_iff.mpr ⟨hparse, hhttp, _, rfl, hpasses⟩) _ rfl
    rw [Safe, hdotted, withoutRootDot_dotted] at hname
    exact hname hblocked
  · rintro hnone ⟨scheme, host'⟩ hok host hhost
    obtain ⟨hparse, hhttp, host, hhost', hpasses⟩ := validateServiceUrl_ok_iff.mp hok
    cases hhost
    cases hhost'
    cases host with
    | ipv4 a => exact ipv4_refused hpasses.2.2.1
    | ipv6 a => exact ipv6_refused hU hpasses.2.2.1
    | domain name =>
      obtain ⟨hascii, hopen, hclose⟩ := hU.domain_plain hparse hhttp
      have hlower := hU.toLowercase_ascii hascii
      obtain ⟨hunblocked, hloopback, -⟩ := (domain_passes_iff (hU.domain_parse hparse hhttp) hopen hclose).mp hpasses
      rw [hlower] at hunblocked hloopback
      rw [Safe]
      intro hblocked
      by_cases hdot : hasSuffix "." (toAsciiLowercase name) = true
      · exact hnone ⟨scheme, name, _, hparse, hhttp, eq_dotted_of_hasSuffix hdot, hblocked, hloopback⟩
      · rw [withoutRootDot, if_neg hdot] at hblocked
        exact hunblocked hblocked

end

/-! ## A parser for plain service URLs -/

/-- `scheme://host/path`, the host an address or an ASCII name. -/
def plainServiceUrl (text : String) : Option ServiceUrl := do
  let (scheme, rest) ← splitOnce ':' text
  let authority ← stripPrefix "//" rest
  let host := toAsciiLowercase (((splitOnce '/' authority).map Prod.fst).getD authority)
  match parseIpAddr (trimBrackets host) with
  | some (.v4 a) => some ⟨scheme, some (.ipv4 a)⟩
  | some (.v6 a) => some ⟨scheme, some (.ipv6 a)⟩
  | none =>
    if host.toList.all fun c => c.toNat < 128 && c != '[' && c != ']' then some ⟨scheme, some (.domain host)⟩ else none

def plainService : UrlLibrary := ⟨plainServiceUrl, Ipv6Addr.longText, toAsciiLowercase⟩

theorem plainServiceUrl_domain {text scheme name : String} (h : plainServiceUrl text = some ⟨scheme, some (.domain name)⟩) :
    (∀ c ∈ name.toList, c.toNat < 128) ∧ '[' ∉ name.toList ∧ ']' ∉ name.toList ∧ parseIpAddr name = none := by
  simp only [plainServiceUrl, Option.bind_eq_bind, Option.bind_eq_some_iff] at h
  obtain ⟨parts, -, authority, -, h⟩ := h
  split at h
  · cases h
  · cases h
  · rename_i hip
    split at h
    · rename_i hall
      simp only [Option.some.injEq, ServiceUrl.mk.injEq, Host.domain.injEq] at h
      rw [h.2, List.all_eq_true] at hall
      rw [h.2] at hip
      simp only [Bool.and_eq_true, decide_eq_true_eq, bne_iff_ne] at hall
      have hopen : '[' ∉ name.toList := fun hc => (hall _ hc).1.2 rfl
      have hclose : ']' ∉ name.toList := fun hc => (hall _ hc).2 rfl
      rw [trimBrackets_of_notMem hopen hclose] at hip
      exact ⟨fun c hc => (hall c hc).1.1, hopen, hclose, hip⟩
    · cases h

theorem longText_plain (a : Ipv6Addr) : '[' ∉ a.longText.toList ∧ ']' ∉ a.longText.toList := by
  have hplain : ∀ c ∈ a.longText.toList, c = ':' ∨ ∃ n < 16, c = hexDigit n := by
    intro c hc
    rw [Ipv6Addr.longText, String.toList_ofList, List.mem_append] at hc
    rcases hc with hc | hc
    · exact .inr (mem_segmentText hc)
    · exact mem_groupsText hc
  constructor
  · intro hc
    rcases hplain _ hc with h | ⟨n, hn, h⟩
    · cases h
    · exact (hexDigit_spec n hn).2.2.1 h.symm
  · intro hc
    rcases hplain _ hc with h | ⟨n, hn, h⟩
    · cases h
    · exact (hexDigit_spec n hn).2.2.2 h.symm

theorem plainService_documented : plainService.Documented where
  ipv6Text_parse := parseIpAddr_longText
  ipv6Text_plain := longText_plain
  domain_plain := fun h _ => ⟨(plainServiceUrl_domain h).1, (plainServiceUrl_domain h).2.1, (plainServiceUrl_domain h).2.2.1⟩
  domain_parse := fun h _ => (plainServiceUrl_domain h).2.2.2
  toLowercase_ascii := fun _ => rfl

theorem plain_service_safe :
    validateServiceUrl plainService "https://billing.provii.app./v1" = .ok ⟨"https", some (.domain "billing.provii.app.")⟩ ∧
      Safe (.domain "billing.provii.app.") := by
  have hok : validateServiceUrl plainService "https://billing.provii.app./v1" =
      .ok ⟨"https", some (.domain "billing.provii.app.")⟩ := by
    decide +kernel
  refine ⟨hok, (validateServiceUrl_safe_iff plainService_documented _).mpr ?_ _ hok _ rfl⟩
  rintro ⟨scheme, name, x, hparse, -, hdotted, hblocked, -⟩
  rw [(validateServiceUrl_ok_iff.mp hok).1] at hparse
  cases hparse
  have hx : x = "billing.provii.app" := by
    rw [← withoutRootDot_dotted x, ← hdotted]
    decide +kernel
  rw [hx, BlockedName] at hblocked
  exact absurd hblocked (by decide +kernel)

/-- With a final dot the local host and a metadata name pass. -/
theorem rooted_names_accepted :
    (validateServiceUrl plainService "http://localhost./" = .ok ⟨"http", some (.domain "localhost.")⟩ ∧
      ¬Safe (.domain "localhost.")) ∧
    validateServiceUrl plainService "http://metadata.google.internal./v1" =
        .ok ⟨"http", some (.domain "metadata.google.internal.")⟩ ∧ ¬Safe (.domain "metadata.google.internal.") := by
  refine ⟨⟨by decide +kernel, ?_⟩, by decide +kernel, ?_⟩
  · rw [Safe, BlockedName]
    decide +kernel
  · rw [Safe, BlockedName]
    decide +kernel

end Ssrf

end Issuer
