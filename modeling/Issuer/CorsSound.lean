import Issuer.Cors

/-!
# What an origin has to be to match

Patterns against their meaning. A pattern with one `*.`, in front of its host, matches the domain and all below it.
In a pattern with more of them every `*.` is read as the label `wildcard`.
-/

namespace Issuer

open Rust Net

namespace Cors

/-! ## Hosts under a domain -/

def Under (domain host : String) : Prop := host = domain ∨ hasSuffix ("." ++ domain) host = true

theorem cons_suffix_iff {α : Type} [BEq α] [LawfulBEq α] (b : α) (d h : List α) :
    (d.length < h.length ∧ d.isSuffixOf h = true ∧ h[h.length - (d.length + 1)]? = some b) ↔ b :: d <:+ h := by
  rw [List.isSuffixOf_iff_suffix]
  constructor
  · rintro ⟨hlen, ⟨front, rfl⟩, hb⟩
    have hfront : front ≠ [] := by
      rintro rfl
      exact absurd hlen (lt_irrefl _)
    have hlast : front.length - 1 < front.length := Nat.sub_lt (List.length_pos_iff.mpr hfront) Nat.one_pos
    have hoffset : (front ++ d).length - (d.length + 1) = front.length - 1 := by
      rw [List.length_append]
      omega
    rw [hoffset, List.getElem?_append_left hlast, List.getElem?_eq_getElem hlast, Option.some.injEq] at hb
    refine ⟨front.dropLast, ?_⟩
    rw [← hb, ← List.getLast_eq_getElem hfront]
    conv_rhs => rw [← List.dropLast_append_getLast hfront]
    simp
  · rintro ⟨front, rfl⟩
    have hlength : (front ++ b :: d).length = front.length + (d.length + 1) := by
      rw [List.length_append, List.length_cons]
    refine ⟨by omega, ⟨front ++ [b], by simp⟩, ?_⟩
    rw [hlength, Nat.add_sub_cancel]
    simp

theorem byteTest_iff (domain host : String) : (if host = domain then true else
      decide ((utf8 domain).length < (utf8 host).length) && (utf8 domain).isSuffixOf (utf8 host) &&
        (utf8 host)[(utf8 host).length - ((utf8 domain).length + 1)]? == some (UInt8.ofNat '.'.toNat)) = true ↔
    Under domain host := by
  have hdot : String.singleton '.' = "." := rfl
  by_cases heq : host = domain
  · simp [heq, Under]
  · rw [if_neg heq, Under, or_iff_right heq, ← hdot, ← utf8_suffix_iff (by decide), ← cons_suffix_iff]
    simp only [Bool.and_eq_true, decide_eq_true_eq, beq_iff_eq, and_assoc]

/-! ## Reading of the patterns -/

section
variable (U : UrlLibrary)

def originHost (o : OriginUrl) : String := (o.hostStr U).getD ""

/-- Without a wildcard: scheme, host and effective port are those of the origin. -/
def ExactCovers (pattern : String) (o : OriginUrl) : Prop :=
  pattern ≠ "*" ∧ contains "://*." pattern = false ∧ ∃ u, U.parse pattern = some u ∧
    u.scheme = o.scheme ∧ u.host = o.host ∧ u.portOrKnownDefault = o.portOrKnownDefault

def isSchemeChar (c : Char) : Bool := c.isAlphanum || c == '+' || c == '-' || c == '.'

/-- `scheme://rest`, where `rest` begins with a host that no user name precedes. -/
def SchemeAndHost (scheme rest : String) : Prop :=
  scheme.toList.all isSchemeChar = true ∧ rest.toList.all (fun c => 32 < c.toNat && c != '@') = true ∧
    rest.toList.head? ≠ some '/' ∧ rest.toList.head? ≠ some '\\'

/-- The domain of `scheme://rest` and what lies under it, with its scheme and effective port. -/
def HostCovers (scheme rest : String) (o : OriginUrl) : Prop :=
  ∃ u d, U.parse (scheme ++ "://" ++ rest) = some u ∧ u.host = some (.domain d) ∧ d ≠ "" ∧ u.scheme = o.scheme ∧
    u.portOrKnownDefault = o.portOrKnownDefault ∧ Under d (originHost U o)

/-- `scheme://*.d` covers `d` and what lies under it, with its scheme and effective port. -/
def WildcardCovers (pattern : String) (o : OriginUrl) : Prop :=
  ∃ scheme rest u d, pattern = scheme ++ "://*." ++ rest ∧ SchemeAndHost scheme rest ∧
    U.parse (scheme ++ "://" ++ rest) = some u ∧ u.host = some (.domain d) ∧ d ≠ "" ∧ u.scheme = o.scheme ∧
    u.portOrKnownDefault = o.portOrKnownDefault ∧ Under d (originHost U o)

/-- The same for the pattern in which each `*.` stands for the label `wildcard`. -/
def DummyCovers (pattern : String) (o : OriginUrl) : Prop :=
  contains "://*." pattern = true ∧ ∃ u d, U.parse (replace "*." "wildcard." pattern) = some u ∧
    u.host = some (.domain ("wildcard." ++ d)) ∧ d ≠ "" ∧ u.scheme = o.scheme ∧
    u.portOrKnownDefault = o.portOrKnownDefault ∧ Under d (originHost U o)

/-- One `*.`, in front of the host. -/
def OneWildcard (pattern : String) : Prop :=
  ∃ scheme rest, pattern = scheme ++ "://*." ++ rest ∧ SchemeAndHost scheme rest ∧ toAsciiLowercase scheme ≠ "file" ∧
    contains "*." rest = false

/-- Another `*.` behind the one in front of the host. -/
def SecondWildcard (pattern scheme rest : String) : Prop :=
  pattern = scheme ++ "://*." ++ rest ∧ SchemeAndHost scheme rest ∧ toAsciiLowercase scheme ≠ "file" ∧ contains "*." rest = true

/-- `://*.` does not stand between a scheme and a host, or the scheme is that of files. -/
def Misplaced (pattern : String) : Prop :=
  contains "://*." pattern = true ∧ ∀ scheme rest, pattern = scheme ++ "://*." ++ rest → SchemeAndHost scheme rest →
    toAsciiLowercase scheme = "file"

def Covered (patterns : List String) (o : OriginUrl) : Prop :=
  "*" ∈ patterns ∨ (∃ pattern ∈ patterns, ExactCovers U pattern o) ∨ ∃ pattern ∈ patterns, WildcardCovers U pattern o

/-- A label before the host of a text stands before the domain that is read. -/
structure UrlLibrary.Documented : Prop where
  subdomain : ∀ {scheme rest label s d port}, SchemeAndHost scheme rest → toAsciiLowercase scheme ≠ "file" → label ≠ "" →
    label.toList.all Char.isLower = true → d ≠ "" →
    (U.parse (scheme ++ "://" ++ rest) = some ⟨s, some (.domain d), port⟩ ↔
      U.parse (scheme ++ "://" ++ label ++ "." ++ rest) = some ⟨s, some (.domain (label ++ "." ++ d)), port⟩)

/-! ## The model against the readings -/

variable {U} {o : OriginUrl}

theorem matchesExactly_iff {pattern : String} : matchesExactly U pattern o = true ↔ ∃ u, U.parse pattern = some u ∧
    u.scheme = o.scheme ∧ u.host = o.host ∧ u.portOrKnownDefault = o.portOrKnownDefault := by
  unfold matchesExactly
  cases hparse : U.parse pattern with
  | none => simp
  | some u => simp [and_assoc]

theorem stripPrefix_host {u : OriginUrl} {d : String} :
    (u.hostStr U).bind (stripPrefix "wildcard.") = some d ↔ u.host = some (.domain ("wildcard." ++ d)) := by
  unfold OriginUrl.hostStr
  constructor
  · intro h
    cases hhost : u.host with
    | none => simp [hhost] at h
    | some host =>
      rw [hhost, Option.map_some, Option.bind_some] at h
      have htext := eq_append_of_stripPrefix h
      cases host with
      | domain name =>
        rw [Host.str] at htext
        rw [htext]
      | ipv4 a =>
        exfalso
        have hhead : (Nat.toDigits 10 a.o0.toNat).head? = some 'w' := by
          have hchars := congrArg (fun s => s.toList.head?) htext
          simp only [Host.str, Ipv4Addr.display, String.toList_append, Nat.toString_eq_repr, Nat.toList_repr,
            List.append_assoc] at hchars
          rwa [List.head?_append_of_ne_nil _ Nat.toDigits_ne_nil] at hchars
        have hdigit := Nat.isDigit_of_mem_toDigits (by decide) (by decide) (List.mem_of_head? hhead)
        exact absurd hdigit (by decide)
      | ipv6 a =>
        exfalso
        have hchars := congrArg (fun s => s.toList.head?) htext
        simp [Host.str] at hchars
  · intro h
    simp [h, Host.str]

theorem matchesSubdomainWildcard_iff {pattern : String} (h : contains "://*." pattern = true) :
    matchesSubdomainWildcard U pattern o = true ↔ DummyCovers U pattern o := by
  unfold matchesSubdomainWildcard DummyCovers
  rw [and_iff_right h]
  cases hparse : U.parse (replace "*." "wildcard." pattern) with
  | none => simp
  | some u =>
    have hone : ∀ R : OriginUrl → String → Prop, (∃ u' d, some u = some u' ∧ R u' d) ↔ ∃ d, R u d := by
      intro R
      simp only [exists_and_left, Option.some.injEq, exists_eq_left']
    rw [hone]
    simp only [← stripPrefix_host (U := U)]
    by_cases hscheme : u.scheme = o.scheme
    · by_cases hport : u.portOrKnownDefault = o.portOrKnownDefault
      · rw [if_neg (not_not.mpr hscheme), if_neg (not_not.mpr hport)]
        simp only [hscheme, hport, true_and]
        cases hstrip : (u.hostStr U).bind (stripPrefix "wildcard.") with
        | none => simp
        | some d =>
          simp only [Option.some.injEq, exists_eq_left']
          by_cases hempty : d = ""
          · simp [hempty]
          · rw [if_neg hempty, and_iff_right hempty]
            exact byteTest_iff d _
      · simp [hscheme, hport]
    · simp [hscheme]

theorem matchesOrigin_iff {origins : AllowedOrigins} {origin : String} (ho : U.parse origin = some o) :
    origins.matchesOrigin U origin = true ↔ "*" ∈ origins.patterns ∨ (∃ pattern ∈ origins.patterns, ExactCovers U pattern o) ∨
      ∃ pattern ∈ origins.patterns, DummyCovers U pattern o := by
  unfold AllowedOrigins.matchesOrigin
  simp only [ho, List.any_eq_true]
  constructor
  · rintro ⟨pattern, hpattern, h⟩
    by_cases hstar : pattern = "*"
    · exact .inl (hstar ▸ hpattern)
    rw [if_neg (by simpa using hstar)] at h
    by_cases hwild : contains "://*." pattern = true
    · rw [if_pos hwild, matchesSubdomainWildcard_iff hwild] at h
      exact .inr (.inr ⟨pattern, hpattern, h⟩)
    · rw [if_neg hwild, matchesExactly_iff] at h
      exact .inr (.inl ⟨pattern, hpattern, hstar, Bool.not_eq_true _ ▸ hwild, h⟩)
  · rintro (hstar | ⟨pattern, hpattern, hstar, hwild, h⟩ | ⟨pattern, hpattern, h⟩)
    · exact ⟨"*", hstar, rfl⟩
    · refine ⟨pattern, hpattern, ?_⟩
      rw [if_neg (by simpa using hstar), hwild, if_neg Bool.false_ne_true, matchesExactly_iff]
      exact h
    · refine ⟨pattern, hpattern, ?_⟩
      by_cases hstar : pattern = "*"
      · simp [hstar]
      · rw [if_neg (by simpa using hstar), if_pos h.1, matchesSubdomainWildcard_iff h.1]
        exact h

theorem allowsCredentials_iff {origins : AllowedOrigins} {origin : String} (ho : U.parse origin = some o) :
    origins.allowsCredentials U origin = true ↔
      "*" ∉ origins.patterns ∧ ∃ pattern ∈ origins.patterns, ExactCovers U pattern o := by
  unfold AllowedOrigins.allowsCredentials
  have hflag : origins.containsGlobalWildcard = true ↔ "*" ∈ origins.patterns := by
    rw [origins.flag_eq]
    simp
  by_cases hstar : "*" ∈ origins.patterns
  · rw [if_pos (hflag.mpr hstar)]
    simp [hstar]
  · rw [if_neg (mt hflag.mp hstar), and_iff_right hstar]
    simp only [ho, List.any_eq_true]
    refine exists_congr fun pattern => and_congr_right fun hpattern => ?_
    have hne : pattern ≠ "*" := by
      rintro rfl
      exact hstar hpattern
    rw [ExactCovers, and_iff_right hne, ← matchesExactly_iff]
    cases hwild : contains "://*." pattern with
    | true => simp
    | false => simp [hne]

/-! ## Patterns with one wildcard -/

theorem pair_not_infix {α : Type} {c d : α} {front : List α} (hc : c ∉ front) (hd : d ≠ c) : ¬[c, d] <:+: front ++ [c] := by
  rw [List.infix_concat_iff, not_or]
  constructor
  · rintro ⟨a, h⟩
    have hlast := congrArg List.getLast? h
    simp only [List.getLast?_append, List.getLast?_cons_cons, List.getLast?_singleton, Option.some_or, Option.some.injEq] at hlast
    exact hd hlast
  · intro h
    exact hc (h.subset (by simp))

theorem wildcard_text (scheme rest : String) : scheme ++ "://*." ++ rest = scheme ++ "://" ++ "*." ++ rest := by
  have htext : "://*." = "://" ++ "*." := by decide
  rw [htext, ← String.append_assoc]

theorem replace_wildcard {scheme : String} (hscheme : scheme.toList.all isSchemeChar = true) (rest : String) :
    replace "*." "wildcard." (scheme ++ "://*." ++ rest) =
      scheme ++ "://" ++ "wildcard" ++ "." ++ replace "*." "wildcard." rest := by
  have htext : "wildcard." = "wildcard" ++ "." := by decide
  rw [wildcard_text, replace_first (by decide) ?_ rest, htext, ← String.append_assoc]
  rw [List.all_eq_true] at hscheme
  refine pair_not_infix ?_ (by decide)
  rw [String.toList_append, List.mem_append, not_or]
  exact ⟨fun hmem => absurd (hscheme _ hmem) (by decide), by decide⟩

/-- A host stays one when `wildcard` stands for each star. -/
theorem schemeAndHost_replace {scheme rest : String} (h : SchemeAndHost scheme rest) :
    SchemeAndHost scheme (replace "*." "wildcard." rest) := by
  obtain ⟨hscheme, hrest, hslash, hback⟩ := h
  have hdummy : ("wildcard.").toList.all (fun c => 32 < c.toNat && c != '@') = true := by decide
  rw [List.all_eq_true] at hrest hdummy
  have hchars : (replace "*." "wildcard." rest).toList = replaceList "*.".toList "wildcard.".toList 0 rest.toList := by
    rw [replace, String.toList_ofList]
  refine ⟨hscheme, List.all_eq_true.mpr fun c hc => ?_, ?_⟩
  · rw [hchars] at hc
    exact (mem_replaceList hc).elim (hdummy c) (hrest c)
  · rw [hchars]
    cases hcs : rest.toList with
    | nil => simp [replaceList]
    | cons c cs =>
      rw [hcs, List.head?_cons] at hslash hback
      rw [replaceList]
      split
      · rw [List.head?_append_of_ne_nil _ (by decide)]
        exact ⟨by decide, by decide⟩
      · exact ⟨hslash, hback⟩

theorem wildcard_inj {scheme rest scheme' rest' : String} (h : scheme ++ "://*." ++ rest = scheme' ++ "://*." ++ rest')
    (hscheme : scheme.toList.all isSchemeChar = true) (hscheme' : scheme'.toList.all isSchemeChar = true) :
    scheme = scheme' ∧ rest = rest' := by
  rw [String.append_assoc, String.append_assoc] at h
  exact append_sep_inj hscheme hscheme' (by decide) h

theorem contains_wildcard (scheme rest : String) : contains "://*." (scheme ++ "://*." ++ rest) = true := by
  rw [contains, decide_eq_true_eq, String.toList_append, String.toList_append]
  exact List.infix_append _ _ _

theorem wildcardCovers_read {scheme rest : String} (hparts : SchemeAndHost scheme rest) :
    WildcardCovers U (scheme ++ "://*." ++ rest) o ↔ HostCovers U scheme rest o := by
  constructor
  · rintro ⟨scheme', rest', u, d, heq, hparts', hcovers⟩
    obtain ⟨rfl, rfl⟩ := wildcard_inj heq hparts.1 hparts'.1
    exact ⟨u, d, hcovers⟩
  · rintro ⟨u, d, hcovers⟩
    exact ⟨scheme, rest, u, d, rfl, hparts, hcovers⟩

theorem dummyCovers_read (hU : U.Documented) {scheme rest : String} (hparts : SchemeAndHost scheme rest)
    (hfile : toAsciiLowercase scheme ≠ "file") :
    DummyCovers U (scheme ++ "://*." ++ rest) o ↔ HostCovers U scheme (replace "*." "wildcard." rest) o := by
  unfold DummyCovers
  rw [and_iff_right (contains_wildcard scheme rest), replace_wildcard hparts.1]
  have hsubdomain := @hU.subdomain scheme (replace "*." "wildcard." rest) "wildcard"
  constructor
  · rintro ⟨⟨s, host, port⟩, d, hparse, hhost, hempty, hcovers⟩
    cases hhost
    exact ⟨_, d, (hsubdomain (schemeAndHost_replace hparts) hfile (by decide) (by decide) hempty).mpr hparse, rfl, hempty, hcovers⟩
  · rintro ⟨⟨s, host, port⟩, d, hparse, hhost, hempty, hcovers⟩
    cases hhost
    exact ⟨_, d, (hsubdomain (schemeAndHost_replace hparts) hfile (by decide) (by decide) hempty).mp hparse, rfl, hempty, hcovers⟩

theorem dummyCovers_iff (hU : U.Documented) {pattern : String} (hone : OneWildcard pattern) :
    DummyCovers U pattern o ↔ WildcardCovers U pattern o := by
  obtain ⟨scheme, rest, rfl, hparts, hfile, hrest⟩ := hone
  rw [dummyCovers_read hU hparts hfile, wildcardCovers_read hparts, replace_of_not_contains hrest]

/-- A wildcard pattern that is not of one wildcard has a second one or is misplaced. -/
theorem not_oneWildcard_iff {pattern : String} : contains "://*." pattern = true ∧ ¬OneWildcard pattern ↔
    (∃ scheme rest, SecondWildcard pattern scheme rest) ∨ Misplaced pattern := by
  constructor
  · rintro ⟨hwild, hone⟩
    by_contra hno
    rw [not_or] at hno
    refine hno.2 ⟨hwild, fun scheme rest heq hparts => ?_⟩
    by_contra hfile
    cases hrest : contains "*." rest with
    | true => exact hno.1 ⟨scheme, rest, heq, hparts, hfile, hrest⟩
    | false => exact hone ⟨scheme, rest, heq, hparts, hfile, hrest⟩
  · rintro (⟨scheme, rest, rfl, hparts, hfile, hrest⟩ | ⟨hwild, hfile⟩)
    · refine ⟨contains_wildcard scheme rest, ?_⟩
      rintro ⟨scheme', rest', heq, hparts', -, hrest'⟩
      obtain ⟨rfl, rfl⟩ := wildcard_inj heq hparts.1 hparts'.1
      rw [hrest] at hrest'
      cases hrest'
    · refine ⟨hwild, ?_⟩
      rintro ⟨scheme, rest, heq, hparts, hne, -⟩
      exact hne (hfile scheme rest heq hparts)

theorem covers_odd {covers : Prop} {host : String → String → Prop} {pattern : String}
    (hwild : covers → contains "://*." pattern = true)
    (hread : ∀ scheme rest, SecondWildcard pattern scheme rest → (covers ↔ host scheme rest)) :
    ¬OneWildcard pattern ∧ covers ↔
      (∃ scheme rest, SecondWildcard pattern scheme rest ∧ host scheme rest) ∨ Misplaced pattern ∧ covers := by
  constructor
  · rintro ⟨hone, h⟩
    rcases not_oneWildcard_iff.mp ⟨hwild h, hone⟩ with ⟨scheme, rest, hsecond⟩ | hmisplaced
    · exact .inl ⟨scheme, rest, hsecond, (hread scheme rest hsecond).mp h⟩
    · exact .inr ⟨hmisplaced, h⟩
  · rintro (⟨scheme, rest, hsecond, h⟩ | ⟨hmisplaced, h⟩)
    · exact ⟨(not_oneWildcard_iff.mpr (.inl ⟨scheme, rest, hsecond⟩)).2, (hread scheme rest hsecond).mpr h⟩
    · exact ⟨(not_oneWildcard_iff.mpr (.inr hmisplaced)).2, h⟩

/-- Where every wildcard pattern has one wildcard, matching is as the patterns say. -/
theorem matchesOrigin_covered (hU : U.Documented) {origins : AllowedOrigins} {origin : String} (ho : U.parse origin = some o)
    (hone : ∀ pattern ∈ origins.patterns, contains "://*." pattern = true → OneWildcard pattern) :
    origins.matchesOrigin U origin = true ↔ Covered U origins.patterns o := by
  rw [matchesOrigin_iff ho, Covered]
  refine or_congr_right (or_congr_right (exists_congr fun pattern => and_congr_right fun hpattern => ?_))
  by_cases hwild : contains "://*." pattern = true
  · exact dummyCovers_iff hU (hone pattern hpattern hwild)
  · refine iff_of_false (fun h => hwild h.1) ?_
    rintro ⟨scheme, rest, -, -, rfl, -⟩
    exact hwild (contains_wildcard scheme rest)

/-! ## Any list -/

theorem exists_split {patterns : List String} (P Q : String → Prop) :
    (∃ pattern ∈ patterns, Q pattern) ↔
      (∃ pattern ∈ patterns, P pattern ∧ Q pattern) ∨ ∃ pattern ∈ patterns, ¬P pattern ∧ Q pattern := by
  constructor
  · rintro ⟨pattern, hpattern, h⟩
    by_cases hp : P pattern
    · exact .inl ⟨pattern, hpattern, hp, h⟩
    · exact .inr ⟨pattern, hpattern, hp, h⟩
  · rintro (⟨pattern, hpattern, -, h⟩ | ⟨pattern, hpattern, -, h⟩)
    · exact ⟨pattern, hpattern, h⟩
    · exact ⟨pattern, hpattern, h⟩

theorem or_iff_or_left_iff {star exact one dummy wild : Prop} :
    ((star ∨ exact ∨ one ∨ dummy) ↔ star ∨ exact ∨ one ∨ wild) ↔ star ∨ exact ∨ one ∨ (dummy ↔ wild) := by
  by_cases hstar : star
  · simp only [hstar, true_or]
  by_cases hexact : exact
  · simp only [hexact, true_or, or_true]
  by_cases hone : one
  · simp only [hone, true_or, or_true]
  simp only [hstar, hexact, hone, false_or]

theorem credentials_sound {origins : AllowedOrigins} {origin : String} (ho : U.parse origin = some o)
    (h : origins.allowsCredentials U origin = true) :
    origins.matchesOrigin U origin = true ∧ ∃ pattern ∈ origins.patterns, ExactCovers U pattern o := by
  have hexact := ((allowsCredentials_iff ho).mp h).2
  exact ⟨(matchesOrigin_iff ho).mpr (.inr (.inl hexact)), hexact⟩

theorem credentials_star {origins : AllowedOrigins} (h : "*" ∈ origins.patterns) (origin : String) :
    origins.allowsCredentials U origin = false := by
  unfold AllowedOrigins.allowsCredentials
  have hflag : origins.containsGlobalWildcard = true := by
    rw [origins.flag_eq]
    simpa using h
  rw [if_pos hflag]

/-- Matching is as the patterns say, and so are credentials, unless nothing else in the list covers the origin and it is
reached in one reading only: with the second `*.` of a pattern as it is written, or as `wildcard.`; or by a pattern whose
`://*.` is misplaced. -/
theorem allowedOrigins_exact_iff (hU : U.Documented) {raw origin : String} (ho : U.parse origin = some o) :
    (((AllowedOrigins.new raw).matchesOrigin U origin = true ↔ Covered U (AllowedOrigins.new raw).patterns o) ∧
      ((AllowedOrigins.new raw).allowsCredentials U origin = true → (AllowedOrigins.new raw).matchesOrigin U origin = true ∧
        ∃ pattern ∈ (AllowedOrigins.new raw).patterns, ExactCovers U pattern o) ∧
      ("*" ∈ (AllowedOrigins.new raw).patterns → ∀ other, (AllowedOrigins.new raw).allowsCredentials U other = false)) ↔
    "*" ∈ (AllowedOrigins.new raw).patterns ∨ (∃ pattern ∈ (AllowedOrigins.new raw).patterns, ExactCovers U pattern o) ∨
      (∃ pattern ∈ (AllowedOrigins.new raw).patterns, OneWildcard pattern ∧ WildcardCovers U pattern o) ∨
      ((∃ pattern ∈ (AllowedOrigins.new raw).patterns,
          (∃ scheme rest, SecondWildcard pattern scheme rest ∧ HostCovers U scheme (replace "*." "wildcard." rest) o) ∨
            Misplaced pattern ∧ DummyCovers U pattern o) ↔
        ∃ pattern ∈ (AllowedOrigins.new raw).patterns,
          (∃ scheme rest, SecondWildcard pattern scheme rest ∧ HostCovers U scheme rest o) ∨
            Misplaced pattern ∧ WildcardCovers U pattern o) := by
  generalize AllowedOrigins.new raw = origins
  have hone : (∃ pattern ∈ origins.patterns, OneWildcard pattern ∧ DummyCovers U pattern o) ↔
      ∃ pattern ∈ origins.patterns, OneWildcard pattern ∧ WildcardCovers U pattern o :=
    exists_congr fun pattern => and_congr_right fun _ => and_congr_right fun hone => dummyCovers_iff hU hone
  have hdummy : ∀ pattern, ¬OneWildcard pattern ∧ DummyCovers U pattern o ↔
      (∃ scheme rest, SecondWildcard pattern scheme rest ∧ HostCovers U scheme (replace "*." "wildcard." rest) o) ∨
        Misplaced pattern ∧ DummyCovers U pattern o := by
    refine fun pattern => covers_odd And.left ?_
    rintro scheme rest ⟨rfl, hparts, hfile, -⟩
    exact dummyCovers_read hU hparts hfile
  have hwild : ∀ pattern, ¬OneWildcard pattern ∧ WildcardCovers U pattern o ↔
      (∃ scheme rest, SecondWildcard pattern scheme rest ∧ HostCovers U scheme rest o) ∨
        Misplaced pattern ∧ WildcardCovers U pattern o := by
    refine fun pattern => covers_odd ?_ ?_
    · rintro ⟨scheme, rest, -, -, rfl, -⟩
      exact contains_wildcard scheme rest
    · rintro scheme rest ⟨rfl, hparts, -, -⟩
      exact wildcardCovers_read hparts
  rw [and_iff_left ⟨credentials_sound ho, credentials_star⟩, matchesOrigin_iff ho, Covered,
    exists_split OneWildcard (DummyCovers U · o), exists_split OneWildcard (WildcardCovers U · o), hone]
  simp only [hdummy, hwild]
  exact or_iff_or_left_iff

/-! ## Headers of an early answer -/

theorem mem_setHeader {name value : String} {headers : List (String × String)} {header : String × String} :
    header ∈ setHeader name value headers ↔
      (header ∈ headers ∧ toAsciiLowercase header.1 ≠ toAsciiLowercase name) ∨ header = (name, value) := by
  simp [setHeader]

/-- A credentials header that is new stands beside the origin itself, which an exact pattern covers. -/
theorem credentials_header {headers : List (String × String)} {reqPath origin value : String} {origins : AllowedOrigins}
    (hnone : ∀ header ∈ headers, header.1 ≠ "Access-Control-Allow-Credentials")
    (h : ("Access-Control-Allow-Credentials", value) ∈ addCorsHeadersEarly U headers reqPath origin origins) :
    ("Access-Control-Allow-Origin", origin) ∈ addCorsHeadersEarly U headers reqPath origin origins ∧
      "*" ∉ origins.patterns ∧ ∃ o, U.parse origin = some o ∧ ∃ pattern ∈ origins.patterns, ExactCovers U pattern o := by
  have hold : ("Access-Control-Allow-Credentials", value) ∉ headers := fun hmem => hnone _ hmem rfl
  have hnames : ["Access-Control-Allow-Methods", "Access-Control-Allow-Headers", "Vary", "Access-Control-Allow-Credentials"].all
      (fun name => toAsciiLowercase "Access-Control-Allow-Origin" != toAsciiLowercase name) = true := by
    decide +kernel
  simp only [List.all_cons, List.all_nil, Bool.and_true, Bool.and_eq_true, bne_iff_ne] at hnames
  unfold addCorsHeadersEarly at h ⊢
  split at h
  · exact absurd h hold
  split at h
  · exact absurd h hold
  split at h
  · exact absurd h hold
  split at h
  · exact absurd h hold
  rename_i hinternal hpath hempty hmatches
  by_cases hcredentials : origins.allowsCredentials U origin = true
  · rw [if_neg hinternal, if_neg hpath, if_neg hempty, if_neg hmatches]
    simp only [hcredentials, if_true, mem_setHeader]
    refine ⟨.inl ⟨.inl ⟨.inl ⟨.inl ⟨.inr trivial, hnames.1⟩, hnames.2.1⟩, hnames.2.2.1⟩, hnames.2.2.2⟩, ?_⟩
    cases ho : U.parse origin with
    | none =>
      rw [AllowedOrigins.matchesOrigin, ho] at hmatches
      exact absurd rfl hmatches
    | some o =>
      obtain ⟨hstar, hexact⟩ := (allowsCredentials_iff ho).mp hcredentials
      exact ⟨hstar, o, rfl, hexact⟩
  · simp only [hcredentials, Bool.false_eq_true, if_false, mem_setHeader, hold, false_and, false_or, Prod.mk.injEq] at h
    exfalso
    revert h
    simp

end

/-! ## A parser for plain origins -/

def isHostChar (c : Char) : Bool := c.isAlphanum || c == '-' || c == '.' || c == '*'

/-- `scheme://host:port`; the host is a name that ends in a letter. -/
def plainOriginUrl (text : String) : Option OriginUrl := do
  let (scheme, rest) ← splitOnce ':' text
  let authority ← stripPrefix "//" rest
  let host := authority.toList.takeWhile isHostChar
  let port := (stripPrefix ":" (String.ofList (authority.toList.dropWhile isHostChar))).bind parseU32
  if host.getLast?.any Char.isAlpha then
    some ⟨toAsciiLowercase scheme, some (.domain (toAsciiLowercase (String.ofList host))),
      port.filter (defaultPort (toAsciiLowercase scheme) != some ·)⟩
  else none

def plainOrigins : UrlLibrary := ⟨plainOriginUrl, Ipv6Addr.longText⟩

theorem splitOnce_append {sep : Char} {a : String} (h : sep ∉ a.toList) (b : String) :
    splitOnce sep (a ++ String.singleton sep ++ b) = some (a, b) := by
  have htext : (a ++ String.singleton sep ++ b).toList = a.toList ++ sep :: b.toList := by simp
  have hall : ∀ c ∈ a.toList, (c != sep) = true := by
    intro c hc
    rw [bne_iff_ne]
    rintro rfl
    exact h hc
  unfold splitOnce
  rw [htext, List.span_eq_takeWhile_dropWhile, List.takeWhile_append_of_pos hall, List.dropWhile_append_of_pos hall]
  simp

theorem plainOriginUrl_scheme {scheme rest : String} (hscheme : scheme.toList.all isSchemeChar = true) :
    plainOriginUrl (scheme ++ "://" ++ rest) =
      if (rest.toList.takeWhile isHostChar).getLast?.any Char.isAlpha then
        some ⟨toAsciiLowercase scheme, some (.domain (toAsciiLowercase (String.ofList (rest.toList.takeWhile isHostChar)))),
          ((stripPrefix ":" (String.ofList (rest.toList.dropWhile isHostChar))).bind parseU32).filter
            (defaultPort (toAsciiLowercase scheme) != some ·)⟩
      else none := by
  have hcolon : ':' ∉ scheme.toList := by
    intro hmem
    rw [List.all_eq_true] at hscheme
    exact absurd (hscheme _ hmem) (by decide)
  have htext : scheme ++ "://" ++ rest = scheme ++ String.singleton ':' ++ ("//" ++ rest) := by
    rw [← String.toList_inj]
    simp
  rw [htext, plainOriginUrl, splitOnce_append hcolon]
  simp only [Option.bind_eq_bind, Option.bind_some, stripPrefix_append]

theorem lower_spec {c : Char} (h : c.isLower = true) : isHostChar c = true ∧ c.toLower = c := by
  have hupper : c.isUpper = false := by
    rw [← Bool.not_eq_true]
    intro hu
    simp only [Char.isUpper, Char.isLower, Bool.and_eq_true, decide_eq_true_eq, UInt32.le_iff_toNat_le, ge_iff_le] at h hu
    exact absurd (h.1.trans hu.2) (by decide)
  refine ⟨by simp [isHostChar, Char.isAlphanum, Char.isAlpha, h], ?_⟩
  exact Char.toLower_eq_of_not_isUpper (by simp [hupper])

theorem plainOrigins_documented : plainOrigins.Documented where
  subdomain := by
    intro scheme rest label s d port hparts _ hlabel hlower hempty
    have hassoc : scheme ++ "://" ++ label ++ "." ++ rest = scheme ++ "://" ++ (label ++ "." ++ rest) := by
      simp only [String.append_assoc]
    have hfront : ∀ c ∈ (label ++ ".").toList, isHostChar c = true ∧ c.toLower = c := by
      intro c hc
      rw [String.toList_append, List.mem_append] at hc
      rcases hc with hc | hc
      · exact lower_spec (List.all_eq_true.mp hlower c hc)
      · cases List.mem_singleton.mp hc
        decide
    have hmap : (label ++ ".").toList.map Char.toLower = (label ++ ".").toList :=
      (List.map_congr_left fun c hc => (hfront c hc).2).trans (List.map_id _)
    have hdomain : ∀ h : List Char, toAsciiLowercase (String.ofList ((label ++ ".").toList ++ h)) =
        label ++ "." ++ toAsciiLowercase (String.ofList h) := by
      intro h
      rw [← String.toList_inj, toAsciiLowercase, String.toList_ofList, String.toList_ofList, List.map_append, hmap]
      simp [toAsciiLowercase]
    show plainOriginUrl _ = _ ↔ plainOriginUrl _ = _
    rw [hassoc, plainOriginUrl_scheme hparts.1, plainOriginUrl_scheme hparts.1, String.toList_append,
      List.takeWhile_append_of_pos fun c hc => (hfront c hc).1, List.dropWhile_append_of_pos fun c hc => (hfront c hc).1, hdomain]
    by_cases hhost : rest.toList.takeWhile isHostChar = []
    · rw [hhost]
      simp
    · rw [List.getLast?_append_of_ne_nil _ hhost]
      split
      · simp only [Option.some.injEq, OriginUrl.mk.injEq, Host.domain.injEq, String.append_right_inj]
      · simp

theorem subdomain_with_port :
    ((AllowedOrigins.new "https://app.provii.app, https://*.provii.app:8443").matchesOrigin plainOrigins
        "https://demo.provii.app:8443" = true ↔
      Covered plainOrigins (AllowedOrigins.new "https://app.provii.app, https://*.provii.app:8443").patterns
        ⟨"https", some (.domain "demo.provii.app"), some 8443⟩) ∧
    (AllowedOrigins.new "https://app.provii.app, https://*.provii.app:8443").matchesOrigin plainOrigins
      "https://demo.provii.app:8443" = true := by
  have ho : plainOrigins.parse "https://demo.provii.app:8443" = some ⟨"https", some (.domain "demo.provii.app"), some 8443⟩ := by
    decide +kernel
  have hpatterns : (AllowedOrigins.new "https://app.provii.app, https://*.provii.app:8443").patterns =
      ["https://app.provii.app", "https://*.provii.app:8443"] := by
    decide +kernel
  have hparts : SchemeAndHost "https" "provii.app:8443" := by
    unfold SchemeAndHost
    decide +kernel
  have hone : OneWildcard "https://*.provii.app:8443" :=
    ⟨"https", "provii.app:8443", by decide +kernel, hparts, by decide +kernel, by decide +kernel⟩
  have hcovers : WildcardCovers plainOrigins "https://*.provii.app:8443" ⟨"https", some (.domain "demo.provii.app"), some 8443⟩ :=
    ⟨"https", "provii.app:8443", ⟨"https", some (.domain "provii.app"), some 8443⟩, "provii.app", by decide +kernel, hparts,
      by decide +kernel, rfl, by decide, rfl, rfl, .inr (by decide +kernel)⟩
  refine ⟨((allowedOrigins_exact_iff plainOrigins_documented ho).mpr (.inr (.inr (.inl ?_)))).1, by decide +kernel⟩
  rw [hpatterns]
  exact ⟨_, by simp, hone, hcovers⟩

/-- The second star of a pattern is read as `wildcard` too. -/
theorem second_star_matches :
    (AllowedOrigins.new "https://*.*.example.com").matchesOrigin plainOrigins "https://wildcard.example.com" = true ∧
      plainOrigins.parse "https://wildcard.example.com" = some ⟨"https", some (.domain "wildcard.example.com"), none⟩ ∧
      ¬Covered plainOrigins (AllowedOrigins.new "https://*.*.example.com").patterns
        ⟨"https", some (.domain "wildcard.example.com"), none⟩ := by
  have hpatterns : (AllowedOrigins.new "https://*.*.example.com").patterns = ["https://*.*.example.com"] := by
    decide +kernel
  refine ⟨by decide +kernel, by decide +kernel, ?_⟩
  rw [hpatterns]
  rintro (hstar | ⟨pattern, hpattern, -, hwild, -⟩ | ⟨pattern, hpattern, hcovers⟩)
  · exact absurd hstar (by decide)
  · cases List.mem_singleton.mp hpattern
    exact absurd hwild (by decide +kernel)
  · cases List.mem_singleton.mp hpattern
    obtain ⟨scheme, rest, u, d, htext, hparts, hparse, hhost, -, -, -, hunder⟩ := hcovers
    have hsplit : "https://*.*.example.com" = "https" ++ "://*." ++ "*.example.com" := by decide
    obtain ⟨rfl, rfl⟩ := wildcard_inj (hsplit.symm.trans htext) (by decide +kernel) hparts.1
    have hurl : plainOrigins.parse ("https" ++ "://" ++ "*.example.com") =
        some ⟨"https", some (.domain "*.example.com"), none⟩ := by
      decide +kernel
    rw [hurl] at hparse
    cases hparse
    cases hhost
    rw [Under, originHost] at hunder
    exact absurd hunder (by decide +kernel)

end Cors

end Issuer
