import Issuer.Lib.Text
import Issuer.SchemaUrl

/-!
# What the schema check lets through

An accepted schema is a plain identifier or an `https` URL on a listed domain, but for URLs without a host, listed
hosts under other schemes, and hosts that only an empty entry of the list admits.
-/

namespace Issuer

open Rust

/-! ## Accepted as meant -/

def PlainIdentifier (schema : String) : Prop :=
  (∀ c ∈ schema.toList, c.isAlphanum = true ∨ c ∈ ['.', '/', '_', '-']) ∧ ¬['.', '.'] <:+: schema.toList

/-- The host is a domain of the list that is not empty, or lies under one. -/
def Listed (domains : List String) (host : String) : Prop :=
  ∃ domain ∈ domains, domain ≠ "" ∧ (host = domain ∨ hasSuffix ("." ++ domain) host = true)

def SoundSchema (T : SchemaText) (allowedDomainsEnv : Option String) (schema : String) : Prop :=
  PlainIdentifier schema ∨ ∃ url host, T.parseUrl schema = some url ∧ url.scheme = "https" ∧ url.hostStr = some host ∧
    Listed (allowedDomains allowedDomainsEnv) host

/-- A URL that the blocked schemes leave, of a text of admitted length, which has no host, or a listed one under
another scheme than `https`, or one that only an empty entry admits. -/
def SchemaSlips (T : SchemaText) (schemaUrl : String) (allowedDomainsEnv : Option String) : Prop :=
  ∃ url, T.parseUrl (T.nfc schemaUrl) = some url ∧ schemaUrl.isEmpty = false ∧
    schemaUrl.utf8ByteSize ≤ maxSchemaValueUrlLength ∧ blockedSchemes.contains url.scheme = false ∧ url.scheme ≠ "http" ∧
    ∀ host, url.hostStr = some host → hostAllowed (allowedDomains allowedDomainsEnv) host = true ∧
      (url.scheme = "https" → ∀ domain ∈ allowedDomains allowedDomainsEnv, domain ≠ "" → hostAllowed [domain] host = false)

theorem containsDotDot_iff (cs : List Char) : containsDotDot cs = true ↔ ['.', '.'] <:+: cs := by
  induction cs with
  | nil => simp [containsDotDot]
  | cons c cs ih =>
    rw [List.infix_cons_iff, ← ih]
    by_cases hdots : ['.', '.'] <+: c :: cs
    · obtain ⟨rest, hrest⟩ := hdots
      rw [← hrest]
      exact iff_of_true rfl (.inl ⟨rest, rfl⟩)
    · rw [containsDotDot]
      · exact (or_iff_right hdots).symm
      · rintro rest rfl rfl
        exact hdots ⟨rest, rfl⟩

theorem plainIdentifier_iff (schema : String) :
    PlainIdentifier schema ↔ (schema.toList.all isSimpleIdentifierChar && !containsDotDot schema.toList) = true := by
  have hchars : (∀ c ∈ schema.toList, c.isAlphanum = true ∨ c ∈ ['.', '/', '_', '-']) ↔
      schema.toList.all isSimpleIdentifierChar = true := by
    rw [List.all_eq_true]
    refine forall₂_congr fun c _ => ?_
    simp only [isSimpleIdentifierChar, List.mem_cons, List.not_mem_nil, or_false, Bool.or_eq_true, beq_iff_eq]
    tauto
  rw [PlainIdentifier, hchars, ← containsDotDot_iff, Bool.and_eq_true, Bool.not_eq_true', Bool.not_eq_true]

theorem hostAllowed_iff {domains : List String} {host : String} :
    hostAllowed domains host = true ↔ ∃ domain ∈ domains, host = domain ∨ hasSuffix ("." ++ domain) host = true := by
  simp [hostAllowed]

theorem listed_iff {domains : List String} {host : String} :
    Listed domains host ↔ ¬∀ domain ∈ domains, domain ≠ "" → hostAllowed [domain] host = false := by
  simp only [Listed, not_forall, Bool.not_eq_false, hostAllowed_iff, List.mem_singleton, exists_eq_left, exists_prop]

theorem Listed.allowed {domains : List String} {host : String} (h : Listed domains host) : hostAllowed domains host = true := by
  obtain ⟨domain, hin, -, hmatch⟩ := h
  exact hostAllowed_iff.mpr ⟨domain, hin, hmatch⟩

/-! ## What is accepted -/

section
variable {T : SchemaText} {schemaUrl schema : String} {allowedDomainsEnv : Option String}

theorem validateSchemaUrl_none (hempty : schemaUrl.isEmpty = false) (hlength : schemaUrl.utf8ByteSize ≤ maxSchemaValueUrlLength)
    (hparse : T.parseUrl (T.nfc schemaUrl) = none) (h : validateSchemaUrl T schemaUrl allowedDomainsEnv = .ok schema) :
    PlainIdentifier (T.nfc schemaUrl) := by
  unfold validateSchemaUrl validateSchemaUrlInner at h
  rw [hempty, if_neg Bool.false_ne_true, if_neg (not_lt.mpr hlength)] at h
  simp only [hparse] at h
  split at h
  · rename_i hplain
    exact (plainIdentifier_iff _).mpr hplain
  · cases h

/-- A text that parses is accepted exactly where its scheme is neither blocked nor `http` and its host, if it has
one, is allowed. -/
theorem validateSchemaUrl_some {url : ParsedUrl} (hempty : schemaUrl.isEmpty = false)
    (hlength : schemaUrl.utf8ByteSize ≤ maxSchemaValueUrlLength) (hparse : T.parseUrl (T.nfc schemaUrl) = some url) :
    (∃ schema, validateSchemaUrl T schemaUrl allowedDomainsEnv = .ok schema) ↔
      blockedSchemes.contains url.scheme = false ∧ url.scheme ≠ "http" ∧
        ∀ host, url.hostStr = some host → hostAllowed (allowedDomains allowedDomainsEnv) host = true := by
  unfold validateSchemaUrl validateSchemaUrlInner
  rw [hempty, if_neg Bool.false_ne_true, if_neg (not_lt.mpr hlength)]
  simp only [hparse]
  split
  · rename_i hblocked
    have hmem : url.scheme ∈ blockedSchemes := by simpa using hblocked
    simp [hmem]
  split
  · rename_i hhttp
    simp [hhttp.1]
  · rename_i hblocked hhttp
    have hmem : url.scheme ∉ blockedSchemes := by simpa using hblocked
    have hscheme : url.scheme ≠ "http" := fun h => hhttp ⟨h, .inr trivial⟩
    cases hhost : url.hostStr with
    | none => simp [hmem, hscheme]
    | some host =>
      by_cases hallowed : hostAllowed (allowedDomains allowedDomainsEnv) host = true
      · simp [hmem, hscheme, hallowed]
      · simp [hallowed]

/-- A text that is refused for its length is accepted under no list. -/
theorem validateSchemaUrl_length (h : validateSchemaUrl T schemaUrl allowedDomainsEnv = .ok schema) :
    schemaUrl.isEmpty = false ∧ schemaUrl.utf8ByteSize ≤ maxSchemaValueUrlLength := by
  unfold validateSchemaUrl validateSchemaUrlInner at h
  split at h
  · cases h
  · rename_i hempty
    split at h
    · cases h
    · rename_i hlength
      exact ⟨by simpa using hempty, not_lt.mp hlength⟩

/-- The check accepts only identifiers and `https` URLs on listed domains exactly where the text does not slip
through one of its gaps, and hands ASCII texts on unchanged. -/
theorem schema_sound_iff (hcolon : ∀ text url, T.parseUrl text = some url → ':' ∈ text.toList)
    (hnfc : ∀ text, (∀ c ∈ text.toList, c.toNat < 128) → T.nfc text = text) (schemaUrl : String)
    (allowedDomainsEnv : Option String) :
    ((∀ schema, validateSchemaUrl T schemaUrl allowedDomainsEnv = .ok schema → SoundSchema T allowedDomainsEnv schema) ↔
      ¬SchemaSlips T schemaUrl allowedDomainsEnv) ∧
    ∀ schema, validateSchemaUrl T schemaUrl allowedDomainsEnv = .ok schema → (∀ c ∈ schemaUrl.toList, c.toNat < 128) →
      schema = schemaUrl := by
  refine ⟨⟨?_, ?_⟩, fun schema hok hascii => (validateSchemaUrl_ok hok).trans (hnfc schemaUrl hascii)⟩
  · rintro hsound ⟨url, hparse, hempty, hlength, hblocked, hhttp, hhosts⟩
    have hallowed : ∀ host, url.hostStr = some host → hostAllowed (allowedDomains allowedDomainsEnv) host = true :=
      fun host hhost => (hhosts host hhost).1
    obtain ⟨schema, hok⟩ := (validateSchemaUrl_some hempty hlength hparse).mpr ⟨hblocked, hhttp, hallowed⟩
    have hschema := validateSchemaUrl_ok hok
    rcases hsound schema hok with hplain | ⟨url', host, hparse', hhttps, hhost, hlisted⟩
    · have hmem := hcolon _ _ hparse
      rw [← hschema] at hmem
      exact absurd (hplain.1 ':' hmem) (by decide)
    · rw [hschema, hparse] at hparse'
      cases hparse'
      exact listed_iff.mp hlisted ((hhosts host hhost).2 hhttps)
  · intro hslips schema hok
    obtain ⟨hempty, hlength⟩ := validateSchemaUrl_length hok
    have hschema := validateSchemaUrl_ok hok
    cases hparse : T.parseUrl (T.nfc schemaUrl) with
    | none =>
      rw [hschema]
      exact .inl (validateSchemaUrl_none hempty hlength hparse hok)
    | some url =>
      obtain ⟨hblocked, hhttp, hallowed⟩ := (validateSchemaUrl_some hempty hlength hparse).mp ⟨schema, hok⟩
      by_contra hunsound
      refine hslips ⟨url, hparse, hempty, hlength, hblocked, hhttp, fun host hhost => ⟨hallowed host hhost, fun hhttps => ?_⟩⟩
      by_contra hlisted
      refine hunsound (.inr ⟨url, host, ?_, hhttps, hhost, listed_iff.mpr hlisted⟩)
      rw [hschema, hparse]

end

/-! ## A parser for plain URLs -/

/-- `scheme:path` and `scheme://host/path`. -/
def plainUrl (text : String) : Option ParsedUrl :=
  (splitOnce ':' text).map fun parts =>
    ⟨parts.1, (stripPrefix "//" parts.2).map fun authority => ((splitOnce '/' authority).map Prod.fst).getD authority⟩

def plainText : SchemaText := ⟨id, plainUrl⟩

theorem plainUrl_colon (text : String) (url : ParsedUrl) (h : plainUrl text = some url) : ':' ∈ text.toList := by
  obtain ⟨parts, hsplit, -⟩ := Option.map_eq_some_iff.mp h
  rw [splitOnce_eq_some hsplit]
  simp

theorem subdomain_sound :
    validateSchemaUrl plainText "https://schemas.provii.app/v1" none = .ok "https://schemas.provii.app/v1" ∧
      SoundSchema plainText none "https://schemas.provii.app/v1" := by
  have hok : validateSchemaUrl plainText "https://schemas.provii.app/v1" none = .ok "https://schemas.provii.app/v1" := by
    decide
  refine ⟨hok, (schema_sound_iff plainUrl_colon (fun _ _ => rfl) "https://schemas.provii.app/v1" none).1.mpr ?_ _ hok⟩
  rintro ⟨url, hparse, -, -, -, -, hhosts⟩
  have hurl : plainText.parseUrl (plainText.nfc "https://schemas.provii.app/v1") =
      some ⟨"https", some "schemas.provii.app"⟩ := by decide
  rw [hurl] at hparse
  cases hparse
  have hmissed := (hhosts _ rfl).2 rfl "provii.app" (by decide) (by decide)
  exact absurd hmissed (by decide)

/-- A URL without a host, a listed host under another scheme, and a host with a final dot under a list that ends in
a comma. -/
theorem schema_slips :
    (validateSchemaUrl plainText "mailto:a@evil.example" none = .ok "mailto:a@evil.example" ∧
      ¬SoundSchema plainText none "mailto:a@evil.example") ∧
    (validateSchemaUrl plainText "gemini://w3.org/v1" none = .ok "gemini://w3.org/v1" ∧
      ¬SoundSchema plainText none "gemini://w3.org/v1") ∧
    validateSchemaUrl plainText "https://evil.example./v1" (some "w3.org,") = .ok "https://evil.example./v1" ∧
      ¬SoundSchema plainText (some "w3.org,") "https://evil.example./v1" := by
  refine ⟨⟨by decide, ?_⟩, ⟨by decide, ?_⟩, by decide, ?_⟩
  · rintro (⟨hchars, -⟩ | ⟨url, host, hparse, hhttps, -⟩)
    · exact absurd (hchars ':' (by decide)) (by decide)
    · have hurl : plainText.parseUrl "mailto:a@evil.example" = some ⟨"mailto", none⟩ := by decide
      rw [hurl] at hparse
      cases hparse
      exact absurd hhttps (by decide)
  · rintro (⟨hchars, -⟩ | ⟨url, host, hparse, hhttps, -⟩)
    · exact absurd (hchars ':' (by decide)) (by decide)
    · have hurl : plainText.parseUrl "gemini://w3.org/v1" = some ⟨"gemini", some "w3.org"⟩ := by decide
      rw [hurl] at hparse
      cases hparse
      exact absurd hhttps (by decide)
  · rintro (⟨hchars, -⟩ | ⟨url, host, hparse, -, hhost, hlisted⟩)
    · exact absurd (hchars ':' (by decide)) (by decide)
    · have hurl : plainText.parseUrl "https://evil.example./v1" = some ⟨"https", some "evil.example."⟩ := by decide
      rw [hurl] at hparse
      cases hparse
      cases hhost
      have hdomains : allowedDomains (some "w3.org,") = ["w3.org", ""] := by decide
      rw [listed_iff, hdomains] at hlisted
      exact hlisted (by decide)

end Issuer
