import Issuer.AdminAuth
import Issuer.PrefixRejection

/-!
# What the sandbox-prefix scan catches

The decoder undoes every percent-encoding of a text. It hands back its input as it stands where the decoded
bytes are not UTF-8, and there an escaped prefix is not seen.
-/

namespace Issuer

open Rust

namespace PrefixRejection

/-! ## The decoder -/

theorem byte_forall {P : UInt8 → Prop} (h : ∀ n < 256, P (UInt8.ofNat n)) (b : UInt8) : P b := by
  have hb := h b.toNat b.toNat_lt
  rwa [UInt8.ofNat_toNat] at hb

theorem hexDigit_eq (b : UInt8) : hexDigit b = (Percent.hexValue b).map UInt8.ofNat :=
  byte_forall (P := fun b => hexDigit b = (Percent.hexValue b).map UInt8.ofNat) (by decide +kernel) b

theorem hexValue_lt {b : UInt8} {n : Nat} (h : Percent.hexValue b = some n) : n < 16 := by
  have hb := byte_forall (P := fun b => (Percent.hexValue b).all (· < 16) = true) (by decide +kernel) b
  rw [h] at hb
  simpa using hb

theorem spelled_of_hexDigit {hi lo h l : UInt8} (hh : hexDigit hi = some h) (hl : hexDigit lo = some l) :
    Percent.spelled hi lo = some (satAddU8 (satMulU8 h 16) l) := by
  rw [hexDigit_eq, Option.map_eq_some_iff] at hh hl
  obtain ⟨m, hm, rfl⟩ := hh
  obtain ⟨n, hn, rfl⟩ := hl
  have hsat : ∀ m < 16, ∀ n < 16,
      satAddU8 (satMulU8 (UInt8.ofNat m) 16) (UInt8.ofNat n) = UInt8.ofNat (16 * m + n) := by decide +kernel
  rw [hsat m (hexValue_lt hm) n (hexValue_lt hn)]
  simp [Percent.spelled, hm, hn]

theorem hexValue_of_hexDigit {b : UInt8} (h : hexDigit b = none) : Percent.hexValue b = none := by
  simpa [hexDigit_eq] using h

theorem ne_sign_of_hexDigit {b h : UInt8} (hb : hexDigit b = some h) : b ≠ Percent.sign := by
  rintro rfl
  have hsign : hexDigit Percent.sign = none := by decide
  rw [hsign] at hb
  cases hb

theorem decodeLoop_eq (bs : List UInt8) : decodeLoop bs = Percent.decode bs := by
  induction bs using decodeLoop.induct with
  | case1 => rfl
  | case2 => rfl
  | case3 next1 iter h ih =>
    rw [decodeLoop, if_pos rfl, h]
    exact (congrArg (0x25 :: ·) ih).trans (Percent.decode_cons_hi (hexValue_of_hexDigit h) 0x25 iter).symm
  | case4 next1 h hh =>
    rw [decodeLoop, if_pos rfl, hh]
    rfl
  | case5 next1 h hh next2 iter l hl ih =>
    rw [decodeLoop, if_pos rfl, hh]
    simp only [hl]
    rw [ih]
    exact (Percent.decode_escape (spelled_of_hexDigit hh hl) iter).symm
  | case6 next1 h hh next2 iter hl ih =>
    rw [decodeLoop, if_pos rfl, hh]
    simp only [hl]
    -- the digit is pushed with the sign, and no escape begins at a digit
    rw [ih, Percent.decode_cons_lo (hexValue_of_hexDigit hl), Percent.decode_cons_ne (ne_sign_of_hexDigit hh)]
  | case7 b iter hb ih =>
    rw [decodeLoop.eq_def]
    simp only [hb, if_false]
    rw [ih, Percent.decode_cons_ne hb]

theorem percentDecode_eq (input : String) :
    percentDecode input = (fromUtf8 (Percent.decode (utf8 input))).getD input := by
  unfold percentDecode
  rw [decodeLoop_eq]
  split
  · rename_i hno
    have hsign : Percent.sign ∉ utf8 input := by
      intro hin
      have := mem_of_mem_utf8 (c := '%') (by decide) hin
      simp [this] at hno
    rw [Percent.decode_of_noEscape _ (Percent.noEscape_of_no_sign hsign), fromUtf8_utf8, Option.getD_some]
  · rfl

/-- Every percent-encoding of a text is undone, and what holds no escape is left as it is. -/
theorem percentDecode_inverts :
    (∀ s e : String, Percent.Encodes (utf8 s) (utf8 e) → percentDecode e = s) ∧
      ∀ s : String, Percent.NoEscape (utf8 s) → percentDecode s = s := by
  constructor
  · intro s e h
    rw [percentDecode_eq, Percent.decode_of_encodes h, fromUtf8_utf8, Option.getD_some]
  · intro s h
    rw [percentDecode_eq, Percent.decode_of_noEscape _ h, fromUtf8_utf8, Option.getD_some]

theorem percentDecode_inverts_mixed : percentDecode "%6dé%C3%a9%25" = "méé%" := by
  refine percentDecode_inverts.1 _ _ ?_
  have hs : utf8 "méé%" = [0x6d, 0xC3, 0xA9, 0xC3, 0xA9, 0x25] := by decide
  have he : utf8 "%6dé%C3%a9%25" =
      [0x25, 0x36, 0x64, 0xC3, 0xA9, 0x25, 0x43, 0x33, 0x25, 0x61, 0x39, 0x25, 0x32, 0x35] := by decide
  rw [hs, he]
  refine .escape (by decide) (.plain (by decide) (.plain (by decide) ?_))
  exact .escape (by decide) (.escape (by decide) (.escape (by decide) .nil))

/-! ## What is rejected -/

def items (path query : String) : List String :=
  split '/' path ++ (split '&' query).flatMap fun pair => [(keyAndValue pair).1, (keyAndValue pair).2]

theorem beginsWithAnyPrefix_eq (candidate : String) : beginsWithAnyPrefix candidate = hasPrefix "mwallet-sbx-" candidate := by
  simp [beginsWithAnyPrefix, sandboxPrefixes]

theorem matches_of_prefix {value : String} (h : hasPrefix "mwallet-sbx-" value = true) : matchesSandboxPrefix value = true := by
  have hne : value.isEmpty = false := by
    rw [String.isEmpty_eq_false_iff]
    rintro rfl
    exact absurd h (by decide)
  unfold matchesSandboxPrefix
  rw [hne, beginsWithAnyPrefix_eq, h]
  rfl

/-- What matches has the prefix in it, at its start or behind a scheme. -/
theorem infix_of_matches {value : String} (h : matchesSandboxPrefix value = true) :
    "mwallet-sbx-".toList <:+: value.toList := by
  unfold matchesSandboxPrefix at h
  simp only [beginsWithAnyPrefix_eq] at h
  split at h
  · cases h
  split at h
  · rename_i hp
    exact (List.isPrefixOf_iff_prefix.mp hp).isInfix
  split at h
  · rename_i scheme rest hsplit
    split at h
    · have htrim := (List.isPrefixOf_iff_prefix.mp h).isInfix.trans (trimStart_suffix rest).isInfix
      refine htrim.trans ?_
      rw [splitOnce_eq_some hsplit]
      exact ((List.suffix_cons ' ' rest.toList).trans (List.suffix_append _ _)).isInfix
    · cases h
  · cases h

theorem matches_empty : matchesSandboxPrefix (percentDecode "") = false := by decide

theorem segmentMatches_eq (segment : String) : segmentMatches segment = matchesSandboxPrefix (percentDecode segment) := by
  unfold segmentMatches
  split
  · rename_i h
    rw [String.isEmpty_iff.mp h, matches_empty]
  · rfl

theorem pairMatches_iff (pair : String) :
    pairMatches pair = true ↔ matchesSandboxPrefix (percentDecode (keyAndValue pair).1) = true ∨
      matchesSandboxPrefix (percentDecode (keyAndValue pair).2) = true := by
  unfold pairMatches
  split
  · rename_i h
    rw [String.isEmpty_iff.mp h]
    exact iff_of_false Bool.false_ne_true (by decide)
  split
  · rename_i h
    simp [h]
  split
  · rename_i hkey h
    rw [String.isEmpty_iff.mp h, matches_empty]
    simpa using hkey
  · rename_i hkey h
    simp [hkey]

theorem mem_items_iff {path query item : String} :
    item ∈ items path query ↔ item ∈ split '/' path ∨
      ∃ pair ∈ split '&' query, item = (keyAndValue pair).1 ∨ item = (keyAndValue pair).2 := by
  simp [items]

theorem rejected_iff {path query : String} {headers : List (String × String)} :
    (∃ source, checkRequestInputs path query headers = .reject source) ↔
      (∃ item ∈ items path query, matchesSandboxPrefix (percentDecode item) = true) ∨
        ∃ header ∈ headers, headerMatches header = true := by
  have hsegments : (split '/' path).any segmentMatches = true ↔
      ∃ item ∈ split '/' path, matchesSandboxPrefix (percentDecode item) = true := by
    simp [segmentMatches_eq]
  have hpairs : (split '&' query).any pairMatches = true ↔ ∃ pair ∈ split '&' query,
      matchesSandboxPrefix (percentDecode (keyAndValue pair).1) = true ∨
        matchesSandboxPrefix (percentDecode (keyAndValue pair).2) = true := by
    simp [pairMatches_iff]
  have hitems : (∃ item ∈ items path query, matchesSandboxPrefix (percentDecode item) = true) ↔
      (split '/' path).any segmentMatches = true ∨ (split '&' query).any pairMatches = true := by
    rw [hsegments, hpairs]
    constructor
    · rintro ⟨item, hin, hm⟩
      rcases mem_items_iff.mp hin with hseg | ⟨pair, hpair, rfl | rfl⟩
      · exact .inl ⟨item, hseg, hm⟩
      · exact .inr ⟨pair, hpair, .inl hm⟩
      · exact .inr ⟨pair, hpair, .inr hm⟩
    · rintro (⟨item, hseg, hm⟩ | ⟨pair, hpair, hm | hm⟩)
      · exact ⟨item, mem_items_iff.mpr (.inl hseg), hm⟩
      · exact ⟨_, mem_items_iff.mpr (.inr ⟨pair, hpair, .inl rfl⟩), hm⟩
      · exact ⟨_, mem_items_iff.mpr (.inr ⟨pair, hpair, .inr rfl⟩), hm⟩
  rw [hitems, ← List.any_eq_true]
  unfold checkRequestInputs
  split
  · simp [*]
  split
  · simp [*]
  split
  · simp [*]
  · simp [*]

theorem allow_iff {path query : String} {headers : List (String × String)} :
    checkRequestInputs path query headers = .allow ↔ ¬∃ source, checkRequestInputs path query headers = .reject source := by
  cases checkRequestInputs path query headers <;> simp

/-! ## The bearer parser -/

theorem dropWhile_eq_cons {p q : Char → Bool} (himp : ∀ c, p c = true → q c = true) {cs rest : List Char} {c : Char}
    (h : cs.dropWhile p = c :: rest) (hc : q c = false) : cs.dropWhile q = c :: rest := by
  induction cs with
  | nil => cases h
  | cons d cs ih =>
    by_cases hp : p d = true
    · rw [List.dropWhile_cons_of_pos hp] at h
      rw [List.dropWhile_cons_of_pos (himp d hp), ih h]
    · rw [List.dropWhile_cons_of_neg hp] at h
      obtain ⟨rfl, rfl⟩ := List.cons.inj h
      exact List.dropWhile_cons_of_neg (by simp [hc])

theorem isWhitespace_of_ascii {c : Char} (h : isAsciiWhitespace c = true) : isWhitespace c = true := by
  simp only [isAsciiWhitespace, Bool.or_eq_true, beq_iff_eq] at h
  rcases h with (((rfl | rfl) | rfl) | rfl) | rfl <;> decide

theorem trimAscii_begins (cs : List Char) : trimAscii cs <+: cs.dropWhile isAsciiWhitespace := by
  rw [trimAscii, ← List.reverse_suffix, List.reverse_reverse]
  exact List.dropWhile_suffix _

theorem utf8Size_of_toLower {c : Char} (h : c.toLower.toNat < 128) : c.utf8Size = 1 := by
  rw [Char.utf8Size_eq_one_iff, UInt32.le_iff_toNat_le]
  unfold Char.toLower at h
  split at h
  · rename_i hupper
    have hle := hupper.2
    rw [UInt32.le_iff_toNat_le] at hle
    exact le_trans hle (by decide)
  · exact Nat.le_of_lt_succ h

/-- Whatever its case, the scheme has six bytes. -/
theorem bearer_size {scheme : List Char} (h : scheme.map Char.toLower = "bearer".toList) :
    (String.ofList scheme).utf8ByteSize = 6 := by
  have hlength : scheme.length = 6 := by
    rw [← List.length_map (f := Char.toLower), h]
    decide
  rw [utf8ByteSize_ascii, String.toList_ofList, hlength]
  intro c hc
  rw [String.toList_ofList] at hc
  have hletter : c.toLower ∈ "bearer".toList := by
    rw [← h]
    exact List.mem_map_of_mem hc
  have hascii : ("bearer".toList.all fun d => d.toNat < 128) = true := by decide
  exact utf8Size_of_toLower (of_decide_eq_true (List.all_eq_true.mp hascii _ hletter))

/-- White space of either kind ends where the prefix begins. -/
theorem prefix_behind_trim {rest : List Char} (h : hasPrefix "mwallet-sbx-" (String.ofList (trimAscii rest)) = true) :
    hasPrefix "mwallet-sbx-" (trimStart (String.ofList rest)) = true := by
  have hcred : (String.ofList (trimAscii rest)).toList = trimAscii rest := String.toList_ofList
  rw [hasPrefix, List.isPrefixOf_iff_prefix, hcred] at h
  obtain ⟨tail, htail⟩ := h.trans (trimAscii_begins rest)
  have hm : "mwallet-sbx-".toList = 'm' :: "wallet-sbx-".toList := by decide
  rw [hm, List.cons_append] at htail
  have hdrop := dropWhile_eq_cons (fun _ => isWhitespace_of_ascii) htail.symm (by decide)
  have htrim : (trimStart (String.ofList rest)).toList = rest.dropWhile isWhitespace := by simp [trimStart]
  rw [hasPrefix, List.isPrefixOf_iff_prefix, htrim, hdrop, hm]
  exact ⟨tail, List.cons_append⟩

/-- The scan looks behind the scheme where the bearer parser finds its credential. -/
theorem matches_of_bearer {authorization credential : String} (hb : extractBearerToken authorization = some credential)
    (hp : hasPrefix "mwallet-sbx-" credential = true) : matchesSandboxPrefix authorization = true := by
  unfold extractBearerToken at hb
  split at hb
  · cases hb
  rename_i scheme sep rest hspan
  split at hb
  · cases hb
  rename_i hscheme
  simp only at hb
  split at hb
  · cases hb
  cases hb
  have hsplit : splitOnce ' ' authorization = some (String.ofList scheme, String.ofList rest) := by
    unfold splitOnce
    rw [hspan]
  have hsize := bearer_size (not_not.mp hscheme)
  unfold matchesSandboxPrefix
  split
  · rename_i hempty
    rw [String.isEmpty_iff.mp hempty] at hsplit
    cases hsplit
  split
  · rfl
  have hnonempty : (String.ofList scheme).isEmpty = false := by
    rw [String.isEmpty_eq_false_iff]
    intro h
    rw [h] at hsize
    cases hsize
  simp only [hsplit, hsize, hnonempty, maxAuthSchemeLength, beginsWithAnyPrefix_eq, prefix_behind_trim hp]
  rfl

/-- A bearer credential with the prefix is rejected, in whatever case the header's name is written. -/
theorem bearer_prefix_rejected {path query name authorization credential : String} {headers : List (String × String)}
    (hname : toAsciiLowercase name = "authorization") (hmem : (name, authorization) ∈ headers)
    (hb : extractBearerToken authorization = some credential) (hp : hasPrefix "mwallet-sbx-" credential = true) :
    ∃ source, checkRequestInputs path query headers = .reject source := by
  refine rejected_iff.mpr (.inr ⟨_, hmem, ?_⟩)
  unfold headerMatches
  rw [hname, matches_of_bearer hb hp]
  decide

theorem bearer_prefix_rejected_tab : ∃ source, checkRequestInputs "/v1/blind" "" [("host", "provii.app"),
    ("Authorization", "bEARER  \tmwallet-sbx-1 ")] = .reject source :=
  bearer_prefix_rejected (by decide : toAsciiLowercase "Authorization" = "authorization") (by decide)
    (by decide : extractBearerToken "bEARER  \tmwallet-sbx-1 " = some "mwallet-sbx-1") (by decide)

/-! ## When the scan is complete -/

/-- Every item that decodes to the prefix is rejected; a request without the prefix is let through. -/
def PrefixRejectionComplete (path query : String) (headers : List (String × String)) : Prop :=
  ((∃ item ∈ items path query, utf8 "mwallet-sbx-" <+: Percent.decode (utf8 item)) →
      ∃ source, checkRequestInputs path query headers = .reject source) ∧
    ((∀ item ∈ items path query, ¬utf8 "mwallet-sbx-" <:+: Percent.decode (utf8 item)) →
      (∀ header ∈ headers, inspectedHeaders.contains (toAsciiLowercase header.1) = true →
        ¬"mwallet-sbx-".toList <:+: header.2.toList) →
      checkRequestInputs path query headers = .allow)

/-- The scan sees the prefix in what an item decodes to, or in the item as written where that is not UTF-8. -/
def Caught (item : String) : Prop :=
  (∃ text, utf8 text = Percent.decode (utf8 item) ∧ matchesSandboxPrefix text = true) ∨
    ((∀ text, utf8 text ≠ Percent.decode (utf8 item)) ∧ matchesSandboxPrefix item = true)

theorem caught_iff (item : String) : Caught item ↔ matchesSandboxPrefix (percentDecode item) = true := by
  rw [percentDecode_eq, Caught]
  cases hdecoded : fromUtf8 (Percent.decode (utf8 item)) with
  | none =>
    have hnot : ∀ text, utf8 text ≠ Percent.decode (utf8 item) := by
      intro text htext
      rw [fromUtf8_eq_some_iff.mpr htext] at hdecoded
      cases hdecoded
    rw [Option.getD_none]
    constructor
    · rintro (⟨text, htext, -⟩ | ⟨-, h⟩)
      · exact absurd htext (hnot text)
      · exact h
    · exact fun h => .inr ⟨hnot, h⟩
  | some text =>
    have htext := fromUtf8_eq_some_iff.mp hdecoded
    rw [Option.getD_some]
    constructor
    · rintro (⟨text', htext', h⟩ | ⟨hnot, -⟩)
      · rwa [utf8_injective (htext.trans htext'.symm)]
      · exact absurd htext (hnot text)
    · exact fun h => .inl ⟨text, htext, h⟩

theorem infix_of_caught {item : String} (h : Caught item) : utf8 "mwallet-sbx-" <:+: Percent.decode (utf8 item) := by
  rcases h with ⟨text, htext, h⟩ | ⟨-, h⟩
  · rw [← htext]
    exact utf8_infix_of_infix (infix_of_matches h)
  · have hm : utf8 "mwallet-sbx-" = 0x6d :: utf8 "wallet-sbx-" := by decide
    have hraw := utf8_infix_of_infix (infix_of_matches h)
    rw [hm] at hraw ⊢
    exact Percent.infix_decode (by decide) (by decide) hraw

/-- The scan is complete exactly where an item that decodes to the prefix and to no text is not alone:
another item or header is caught, or that item is as written. -/
theorem prefixRejection_complete_iff (path query : String) (headers : List (String × String)) :
    PrefixRejectionComplete path query headers ↔
      ∀ item ∈ items path query, utf8 "mwallet-sbx-" <+: Percent.decode (utf8 item) →
        (∀ text, utf8 text ≠ Percent.decode (utf8 item)) →
        (∃ other ∈ items path query, Caught other) ∨ ∃ header ∈ headers, headerMatches header = true := by
  have hrejected : (∃ source, checkRequestInputs path query headers = .reject source) ↔
      (∃ item ∈ items path query, Caught item) ∨ ∃ header ∈ headers, headerMatches header = true := by
    simp only [rejected_iff, caught_iff]
  constructor
  · intro h item hitem hprefix _
    exact hrejected.mp (h.1 ⟨item, hitem, hprefix⟩)
  · intro h
    refine ⟨?_, ?_⟩
    · rintro ⟨item, hitem, hprefix⟩
      apply hrejected.mpr
      by_cases htext : ∃ text, utf8 text = Percent.decode (utf8 item)
      · obtain ⟨text, htext⟩ := htext
        have hbegins : hasPrefix "mwallet-sbx-" text = true := by rwa [← htext, utf8_prefix_iff] at hprefix
        exact .inl ⟨item, hitem, .inl ⟨text, htext, matches_of_prefix hbegins⟩⟩
      · exact h item hitem hprefix fun text heq => htext ⟨text, heq⟩
    · intro hitems hheaders
      rw [allow_iff, hrejected]
      rintro (⟨item, hitem, hcaught⟩ | ⟨header, hheader, hmatch⟩)
      · exact hitems item hitem (infix_of_caught hcaught)
      · obtain ⟨hinspected, hvalue⟩ := Bool.and_eq_true_iff.mp hmatch
        exact hheaders header hheader hinspected (infix_of_matches hvalue)

theorem prefixRejection_incomplete : ¬PrefixRejectionComplete "/%6Dwallet-sbx-%FF" "" [] := by
  intro h
  obtain ⟨source, hs⟩ := h.1 ⟨"%6Dwallet-sbx-%FF", by decide, by decide⟩
  have hallow : checkRequestInputs "/%6Dwallet-sbx-%FF" "" [] = .allow := by decide +kernel
  rw [hallow] at hs
  cases hs

end PrefixRejection

end Issuer
