import Issuer.JwksSound
import Issuer.Lib.JsonObject

/-!
# What a rotation does to the records it deprecates

A rotation reads an active record through `SigningKeyRecord`, sets its status and writes it to the slot that its
`version` names, with the issuer whose configuration it then reads. The stored object comes back with its other
members as they were exactly where the record knows them all and the last save under its name is its own.
-/

namespace Issuer

open Rust Store

/-! ## The members of a written record -/

namespace SigningKeyRecord

def memberNames : List String :=
  ["version", "key_id", "private_key_encrypted", "public_key", "created_at", "expires_at", "status", "encrypted"]

def member (k : SigningKeyRecord) (n : String) : Option Json :=
  if n = "version" then some (.str k.version)
  else if n = "key_id" then some (.str k.keyId)
  else if n = "private_key_encrypted" then k.privateKeyEncrypted.map .str
  else if n = "public_key" then some (.str k.publicKey)
  else if n = "created_at" then some (.num k.createdAt)
  else if n = "expires_at" then some (.num k.expiresAt)
  else if n = "status" then some (.str k.status.name)
  else if n = "encrypted" then some (.bool k.encrypted)
  else none

theorem mem_memberNames {n : String} (h : n ∈ memberNames) : n = "version" ∨ n = "key_id" ∨
    n = "private_key_encrypted" ∨ n = "public_key" ∨ n = "created_at" ∨ n = "expires_at" ∨ n = "status" ∨
      n = "encrypted" := by
  simpa only [memberNames, List.mem_cons, List.not_mem_nil, or_false] using h

theorem member_of_not_mem (k : SigningKeyRecord) {n : String} (h : n ∉ memberNames) : k.member n = none := by
  simp only [memberNames, List.mem_cons, List.not_mem_nil, or_false, not_or] at h
  simp [member, h]

theorem toJson_distinct (k : SigningKeyRecord) : k.toJson.Distinct := by
  cases hsk : k.privateKeyEncrypted with
  | none => simp [toJson, hsk, Json.Distinct]
  | some sk => simp [toJson, hsk, Json.Distinct]

theorem toJson_entries (k : SigningKeyRecord) (n : String) : k.toJson.entries[n]? = k.member n := by
  have hdistinct := k.toJson_distinct
  rw [toJson] at hdistinct ⊢
  cases hm : k.member n with
  | some v =>
    refine (Json.mem_iff_entries hdistinct n v).mp ?_
    have hn : n ∈ memberNames := by
      by_contra hn
      rw [k.member_of_not_mem hn] at hm
      cases hm
    rcases mem_memberNames hn with rfl | rfl | rfl | rfl | rfl | rfl | rfl | rfl <;> simp [member] at hm
    case inr.inr.inl =>
      obtain ⟨sk, hsk, rfl⟩ := hm
      simp [hsk]
    all_goals simp [← hm]
  | none =>
    refine Json.entries_get_none fun hn => ?_
    cases hsk : k.privateKeyEncrypted with
    | none =>
      simp [hsk] at hn
      rcases hn with rfl | rfl | rfl | rfl | rfl | rfl | rfl <;> simp [member] at hm
    | some sk =>
      simp [hsk] at hn
      rcases hn with rfl | rfl | rfl | rfl | rfl | rfl | rfl | rfl <;> simp [member, hsk] at hm

structure Fields (j : Json) (k : SigningKeyRecord) : Prop where
  version : j.required Json.asStr 0 ["version"] = some k.version
  keyId : j.required Json.asStr 1 ["key_id"] = some k.keyId
  privateKeyEncrypted : j.optional Json.asStr 2 ["private_key_encrypted"] = some k.privateKeyEncrypted
  publicKey : j.required Json.asStr 3 ["public_key"] = some k.publicKey
  createdAt : j.required (Json.asInt i64Min i64Max) 4 ["created_at"] = some k.createdAt
  expiresAt : j.required (Json.asInt i64Min i64Max) 5 ["expires_at"] = some k.expiresAt
  status : j.required KeyStatus.ofJson 6 ["status"] = some k.status
  encrypted : j.defaulted Json.asBool 7 ["encrypted"] true = some k.encrypted

theorem fields_of_ofJson {j : Json} {k : SigningKeyRecord} (h : ofJson j = some k) : Fields j k := by
  unfold ofJson at h
  cases hf : j.fits 8 with
  | false =>
    rw [hf] at h
    cases h
  | true =>
    rw [hf] at h
    obtain ⟨_, h₁, h⟩ := Option.bind_eq_some_iff.mp h
    obtain ⟨_, h₂, h⟩ := Option.bind_eq_some_iff.mp h
    obtain ⟨_, h₃, h⟩ := Option.bind_eq_some_iff.mp h
    obtain ⟨_, h₄, h⟩ := Option.bind_eq_some_iff.mp h
    obtain ⟨_, h₅, h⟩ := Option.bind_eq_some_iff.mp h
    obtain ⟨_, h₆, h⟩ := Option.bind_eq_some_iff.mp h
    obtain ⟨_, h₇, h⟩ := Option.bind_eq_some_iff.mp h
    obtain ⟨_, h₈, h⟩ := Option.bind_eq_some_iff.mp h
    cases h
    exact ⟨h₁, h₂, h₃, h₄, h₅, h₆, h₇, h₈⟩

end SigningKeyRecord

/-! ## What a reader takes from an object -/

section
variable {members : List (String × Json)} {i : Nat} {n : String}

theorem entry_of_str {s : String} (h : (Json.obj members).required Json.asStr i [n] = some s) :
    (Json.obj members).entries[n]? = some (.str s) := by
  obtain ⟨v, hv, hs⟩ := Json.required_obj h
  cases v with
  | str s' => cases hs; exact hv
  | _ => cases hs

theorem entry_of_int {lo hi m : Int} (h : (Json.obj members).required (Json.asInt lo hi) i [n] = some m) :
    (Json.obj members).entries[n]? = some (.num m) := by
  obtain ⟨v, hv, hm⟩ := Json.required_obj h
  cases v with
  | num m' =>
    simp only [Json.asInt, Option.ite_none_right_eq_some, Option.some.injEq] at hm
    rw [hv, hm.2]
  | _ => cases hm

theorem entry_of_optional {o : Option String} (h : (Json.obj members).optional Json.asStr i [n] = some o)
    (hnull : (Json.obj members).entries[n]? ≠ some .null) : (Json.obj members).entries[n]? = o.map .str := by
  rcases Json.optional_obj h with ⟨hv, rfl⟩ | ⟨v, hv, hs⟩
  · exact hv
  · cases v with
    | str s =>
      simp only [Json.nullable, Json.asStr, Option.map_some, Option.some.injEq] at hs
      rw [hv, ← hs]
      rfl
    | null => exact absurd hv hnull
    | _ => cases hs

theorem entry_of_bool {b dflt : Bool} (h : (Json.obj members).defaulted Json.asBool i [n] dflt = some b)
    (hgiven : (Json.obj members).entries[n]? ≠ none) : (Json.obj members).entries[n]? = some (.bool b) := by
  rcases Json.defaulted_obj h with ⟨hv, -⟩ | ⟨v, hv, hb⟩
  · exact absurd hv hgiven
  · cases v with
    | bool b' => cases hb; exact hv
    | _ => cases hb

end

/-! ## Records that a rotation can write back -/

/-- The record has no members but those of `SigningKeyRecord`, and all it would be written with. -/
structure Complete (j : Json) : Prop where
  known : ∀ n, j.entries[n]? ≠ none → n ∈ SigningKeyRecord.memberNames
  nonNull : j.entries["private_key_encrypted"]? ≠ some .null
  given : j.entries["encrypted"]? ≠ none

namespace SigningKeyRecord

variable {members : List (String × Json)} {k : SigningKeyRecord}

theorem Fields.entries (h : Fields (.obj members) k) (hc : Complete (.obj members)) {n : String} (hn : n ≠ "status") :
    (Json.obj members).entries[n]? = k.member n := by
  by_cases hmem : n ∈ memberNames
  · rcases mem_memberNames hmem with rfl | rfl | rfl | rfl | rfl | rfl | rfl | rfl
    · exact entry_of_str h.version
    · exact entry_of_str h.keyId
    · exact entry_of_optional h.privateKeyEncrypted hc.nonNull
    · exact entry_of_str h.publicKey
    · exact entry_of_int h.createdAt
    · exact entry_of_int h.expiresAt
    · exact absurd rfl hn
    · exact entry_of_bool h.encrypted hc.given
  · rw [k.member_of_not_mem hmem]
    by_contra hv
    exact hmem (hc.known n hv)

theorem field_ne_none {α : Type} {decode : Json → Option α} {i : Nat} {n : String} {a : α}
    (h : (Json.obj members).required decode i [n] = some a) : Json.field members [n] ≠ none := by
  obtain ⟨r, hr, -⟩ := Option.bind_eq_some_iff.mp h
  exact fun hnone => by rw [Json.get, hnone] at hr; cases hr

theorem Fields.distinct (h : Fields (.obj members) k) (hc : Complete (.obj members)) : (Json.obj members).Distinct := by
  refine Json.distinct_of_fields (fun n hn => hc.known n ?_) fun n hn => ?_
  · have hsome := Json.entries_get_isSome ∅ hn
    intro hnone
    rw [Json.entries] at hnone
    rw [hnone] at hsome
    cases hsome
  · rcases mem_memberNames hn with rfl | rfl | rfl | rfl | rfl | rfl | rfl | rfl
    · exact field_ne_none h.version
    · exact field_ne_none h.keyId
    · obtain ⟨r, hr, -⟩ := Option.bind_eq_some_iff.mp h.privateKeyEncrypted
      exact fun hnone => by rw [Json.get, hnone] at hr; cases hr
    · exact field_ne_none h.publicKey
    · exact field_ne_none h.createdAt
    · exact field_ne_none h.expiresAt
    · exact field_ne_none h.status
    · obtain ⟨r, hr, -⟩ := Option.bind_eq_some_iff.mp h.encrypted
      exact fun hnone => by rw [Json.get, hnone] at hr; cases hr

/-- Reading an object fixes the record, so records written with the same members are one. -/
theorem Fields.eq_of_entries {k' : SigningKeyRecord} (h : Fields (.obj members) k)
    (hentries : ∀ n, n ≠ "status" → (Json.obj members).entries[n]? = k'.member n) (hstatus : k'.status = k.status) : k' = k := by
  have hversion := (entry_of_str h.version).symm.trans (hentries "version" (by decide))
  have hkeyId := (entry_of_str h.keyId).symm.trans (hentries "key_id" (by decide))
  have hpublicKey := (entry_of_str h.publicKey).symm.trans (hentries "public_key" (by decide))
  have hcreatedAt := (entry_of_int h.createdAt).symm.trans (hentries "created_at" (by decide))
  have hexpiresAt := (entry_of_int h.expiresAt).symm.trans (hentries "expires_at" (by decide))
  have hsk := hentries "private_key_encrypted" (by decide)
  have hencrypted := hentries "encrypted" (by decide)
  have hnull : (Json.obj members).entries["private_key_encrypted"]? ≠ some .null := by
    rw [hsk]
    cases hk : k'.privateKeyEncrypted <;> simp [member, hk]
  rw [entry_of_optional h.privateKeyEncrypted hnull] at hsk
  rw [entry_of_bool h.encrypted (by rw [hencrypted]; simp [member])] at hencrypted
  rcases k with ⟨version, keyId, sk, publicKey, createdAt, expiresAt, status, encrypted⟩
  rcases k' with ⟨version', keyId', sk', publicKey', createdAt', expiresAt', status', encrypted'⟩
  simp [member] at hversion hkeyId hpublicKey hcreatedAt hexpiresAt hencrypted hsk
  have hsk' : sk = sk' := by
    cases sk <;> cases sk' <;> simp_all
  simp_all

end SigningKeyRecord

/-! ## Only the status changes -/

structure OnlyStatus (j j' : Json) : Prop where
  kept : ∀ n, n ≠ "status" → j'.entries[n]? = j.entries[n]?
  deprecated : j'.entries["status"]? = some (.str "deprecated")

def reactivate (j : Json) : Json := .ofEntries (j.entries.insert "status" (.str "active"))

def reactivateSlot (issuerKid slot : String) (kv : KeyKv) : KeyKv :=
  match kv[keyName issuerKid slot]? with
  | some (.record j) => kv.insert (keyName issuerKid slot) (.record (reactivate j))
  | _ => kv

/-- The slot of `j` holds it with another status, and set back gives the key pair that it gave before. -/
structure DeprecatedOnly (A : AesGcm) (issuerKid slot : String) (j : Json) (kv kv' : KeyKv) : Prop where
  rewritten : ∃ j', kv'[keyName issuerKid slot]? = some (.record j') ∧ OnlyStatus j j'
  reopened : ∀ kek now, getSigningKeypair A false issuerKid slot kek now (reactivateSlot issuerKid slot kv') =
    getSigningKeypair A false issuerKid slot kek now kv

/-- `j`, which is read as `k`, can be written back: it is an object without foreign members, and the last save under
its name brings `k`. -/
structure Deprecatable {J : RedJubjub} (r : Rotation J) (issuerKid kid slot : String) (j : Json) (k : SigningKeyRecord)
    (loaded : List SigningKeyRecord) : Prop where
  object : ∃ members, j = .obj members
  complete : Complete j
  own : lastSave (r.deprecations issuerKid loaded) (keyName kid slot) = some k.deprecate
  notReplaced : keyName (r.keyIssuer issuerKid loaded) (nextVersionFromKeys loaded) ≠ keyName kid slot

section
variable {k : SigningKeyRecord} {keys : List SigningKeyRecord} {slot : String}

theorem claimant_some (h : claimant (activeKeys keys) slot = some k) : k ∈ keys ∧ k.status = .active ∧ k.version = slot := by
  have hmem := List.mem_reverse.mp (List.mem_of_find?_eq_some h)
  obtain ⟨hkeys, hactive⟩ := List.mem_filter.mp hmem
  exact ⟨hkeys, by simpa using hactive, by simpa using List.find?_some h⟩

theorem deprecate_injective {k' : SigningKeyRecord} (hk' : k'.status = .active) (hk : k.status = .active)
    (h : k'.deprecate = k.deprecate) : k' = k := by
  rcases k with ⟨version, keyId, sk, publicKey, createdAt, expiresAt, status, encrypted⟩
  rcases k' with ⟨version', keyId', sk', publicKey', createdAt', expiresAt', status', encrypted'⟩
  simp only at hk hk'
  subst hk hk'
  simpa [SigningKeyRecord.deprecate] using h

theorem nextVersion_eq_iff (hk : k ∈ keys) : nextVersionFromKeys keys = k.version ↔ k.version = "v4294967295" := by
  have hnonempty : keys.isEmpty = false := by
    cases keys with
    | nil => cases hk
    | cons => rfl
  have hmax : maxVersion keys ≤ u32Max := by
    refine foldl_max_le (fun k => (versionNumber k.version).getD 0) keys 0 (Nat.zero_le _) fun k' _ => ?_
    cases hv : versionNumber k'.version with
    | none => exact Nat.zero_le _
    | some n =>
      obtain ⟨s, -, hs⟩ := Option.bind_eq_some_iff.mp hv
      exact parseU32_le hs
  have hlast : "v4294967295" = versionName u32Max := by decide +kernel
  simp only [nextVersionFromKeys, hnonempty, Bool.false_eq_true, if_false, satAddU32]
  constructor
  · intro h
    have hle := le_maxVersion hk (by rw [← h, versionNumber_versionName (by omega)])
    have hend : min (maxVersion keys + 1) u32Max = u32Max := by omega
    rw [← h, hend, hlast]
  · intro h
    have hle := le_maxVersion hk (by rw [h, hlast, versionNumber_versionName (le_refl _)])
    have hend : min (maxVersion keys + 1) u32Max = u32Max := by omega
    rw [h, hlast, hend]

end

section
variable {j : Json} {members : List (String × Json)} {k : SigningKeyRecord}

theorem onlyStatus_written {k' : SigningKeyRecord} (h : OnlyStatus j k'.deprecate.toJson) :
    ∀ n, n ≠ "status" → j.entries[n]? = k'.member n := by
  intro n hn
  rw [← h.kept n hn, SigningKeyRecord.toJson_entries]
  simp [SigningKeyRecord.member, SigningKeyRecord.deprecate, hn]

theorem object_of_entries {n : String} {v : Json} (h : j.entries[n]? = some v) : ∃ members, j = .obj members := by
  cases j with
  | obj members => exact ⟨members, rfl⟩
  | _ => simp [Json.entries] at h

theorem deprecated_not_active (h : j.entries["status"]? = some (.str "deprecated"))
    (hstatus : j.required KeyStatus.ofJson 6 ["status"] = some k.status) : k.status = .deprecated := by
  obtain ⟨members, rfl⟩ := object_of_entries h
  obtain ⟨v, hv, hdecode⟩ := Json.required_obj hstatus
  rw [h] at hv
  cases hv
  exact (Option.some.inj hdecode).symm

theorem complete_of_written {k' : SigningKeyRecord} (h : ∀ n, n ≠ "status" → j.entries[n]? = k'.member n) : Complete j := by
  refine ⟨fun n hn => ?_, ?_, ?_⟩
  · by_cases hs : n = "status"
    · rw [hs]
      decide
    · by_contra hmem
      rw [h n hs, k'.member_of_not_mem hmem] at hn
      exact hn rfl
  · rw [h _ (by decide)]
    cases hk : k'.privateKeyEncrypted <;> simp [SigningKeyRecord.member, hk]
  · rw [h _ (by decide)]
    simp [SigningKeyRecord.member]

theorem written_onlyStatus (h : SigningKeyRecord.Fields (.obj members) k) (hc : Complete (.obj members)) :
    OnlyStatus (.obj members) k.deprecate.toJson := by
  refine ⟨fun n hn => ?_, ?_⟩
  · rw [h.entries hc hn, SigningKeyRecord.toJson_entries]
    simp [SigningKeyRecord.member, SigningKeyRecord.deprecate, hn]
  · rw [SigningKeyRecord.toJson_entries]
    rfl

theorem keypair_reactivate (h : SigningKeyRecord.Fields (.obj members) k) (hdistinct : (Json.obj members).Distinct)
    (hactive : k.status = .active) {j' : Json} (hj' : OnlyStatus (.obj members) j') :
    KeypairRecord.ofJson (reactivate j') = KeypairRecord.ofJson (.obj members) := by
  have hd' : (reactivate j').Distinct := Json.distinct_ofEntries _
  have hsame : ∀ n, n ≠ "status" → (reactivate j').entries[n]? = (Json.obj members).entries[n]? := by
    intro n hn
    rw [reactivate, Json.entries_ofEntries_get, insert_get_of_ne _ (Ne.symm hn), hj'.kept n hn]
  have hstatus : (reactivate j').defaulted KeyStatus.ofJson 5 ["status"] .active =
      (Json.obj members).defaulted KeyStatus.ofJson 5 ["status"] .active := by
    obtain ⟨v, hv, hdecode⟩ := Json.required_obj h.status
    have hv' : (reactivate j').entries["status"]? = some (.str "active") := by
      rw [reactivate, Json.entries_ofEntries_get, insert_get, if_pos rfl]
    rw [Json.defaulted, Json.defaulted, Json.get_singleton hd' 5 hv', Json.get_singleton hdistinct 5 hv]
    simp only [Option.bind_some]
    rw [hdecode, hactive]
    rfl
  have hnames : ∀ names : List String, "status" ∉ names →
      ∀ n ∈ names, (reactivate j').entries[n]? = (Json.obj members).entries[n]? :=
    fun names hs n hn => hsame n fun he => hs (he ▸ hn)
  unfold KeypairRecord.ofJson
  rw [hstatus, Json.required_congr hd' hdistinct _ 0 (hnames ["sk", "private_key_encrypted"] (by decide)),
    Json.defaulted_congr hd' hdistinct _ 1 (hnames ["vk"] (by decide)),
    Json.defaulted_congr hd' hdistinct _ 2 (hnames ["public_key"] (by decide)),
    Json.defaulted_congr hd' hdistinct _ 3 (hnames ["encrypted"] (by decide)),
    Json.defaulted_congr hd' hdistinct _ 4 (hnames ["version"] (by decide)),
    Json.defaulted_congr hd' hdistinct _ 6 (hnames ["valid_until"] (by decide))]
  rfl

end

section
variable {A : AesGcm} {J : RedJubjub} {calls : LockCalls} {r : Rotation J} {issuerKid slot : String}
  {locks locks' : ResourceShards} {kv kv' : KeyKv} {newKey k : SigningKeyRecord} {j : Json}

theorem loaded_record {kid : String} (hlisted : slot ∈ r.reads.listed issuerKid kv)
    (hkid : (r.reads.record slot).config.kid issuerKid = .ok kid) (hstored : kv[keyName kid slot]? = some (.record j))
    (hload : loadKeyRecord r.reads issuerKid kv slot = some k) :
    k ∈ loadedKeys r issuerKid kv ∧ SigningKeyRecord.Fields j k := by
  refine ⟨List.mem_filterMap.mpr ⟨slot, hlisted, hload⟩, ?_⟩
  obtain ⟨kid', c, hkid', -, hc, hparse⟩ := loadKeyRecord_some.mp hload
  rw [hkid] at hkid'
  cases hkid'
  rw [hstored] at hc
  cases hc
  exact SigningKeyRecord.fields_of_ofJson hparse

theorem deprecatable_of_deprecatedOnly {kid : String}
    (h : rotateSigningKey A calls r issuerKid locks kv = (.ok newKey, locks', kv'))
    (hstored : kv[keyName kid slot]? = some (.record j)) (hfields : SigningKeyRecord.Fields j k) (hactive : k.status = .active)
    (honly : DeprecatedOnly A kid slot j kv kv') : Deprecatable r issuerKid kid slot j k (loadedKeys r issuerKid kv) := by
  obtain ⟨hnew, sk, hget⟩ := rotate_ok_get (rotateSigningKey_ok h)
  obtain ⟨⟨j', hj', honly⟩, -⟩ := honly
  rw [hget] at hj'
  have hne : keyName (r.keyIssuer issuerKid (loadedKeys r issuerKid kv)) newKey.version ≠ keyName kid slot := by
    intro he
    rw [if_pos he] at hj'
    cases hj'
    have hstatus := honly.deprecated
    rw [SigningKeyRecord.toJson_entries, hnew] at hstatus
    simp [SigningKeyRecord.member, Rotation.newKey, newSigningKey, KeyStatus.name] at hstatus
  rw [if_neg hne] at hj'
  cases hsave : lastSave (r.deprecations issuerKid (loadedKeys r issuerKid kv)) (keyName kid slot) with
  | none =>
    -- the slot holds the record as it was, which is active
    rw [hsave, hstored] at hj'
    cases hj'
    exact absurd (deprecated_not_active honly.deprecated hfields.status) (by rw [hactive]; decide)
  | some saved =>
    rw [hsave] at hj'
    cases hj'
    obtain ⟨_, hmem, -⟩ := lastSave_some hsave
    obtain ⟨k', hk', rfl⟩ : ∃ k' ∈ activeKeys (loadedKeys r issuerKid kv), saved = k'.deprecate := mem_deprecations hmem
    have hactive' : k'.status = .active := by simpa using (List.mem_filter.mp hk').2
    have hwritten := onlyStatus_written honly
    obtain ⟨members, rfl⟩ := object_of_entries (hwritten "version" (by decide))
    have hsame := hfields.eq_of_entries hwritten (by rw [hactive', hactive])
    refine ⟨⟨members, rfl⟩, complete_of_written hwritten, by rw [hsave, hsame], ?_⟩
    rw [hnew] at hne
    exact hne

theorem deprecatedOnly_of_deprecatable {kid : String}
    (h : rotateSigningKey A calls r issuerKid locks kv = (.ok newKey, locks', kv'))
    (hstored : kv[keyName kid slot]? = some (.record j)) (hfields : SigningKeyRecord.Fields j k) (hactive : k.status = .active)
    (hdeprecatable : Deprecatable r issuerKid kid slot j k (loadedKeys r issuerKid kv)) :
    DeprecatedOnly A kid slot j kv kv' := by
  obtain ⟨hnew, sk, hget⟩ := rotate_ok_get (rotateSigningKey_ok h)
  obtain ⟨⟨members, rfl⟩, hcomplete, hown, hne⟩ := hdeprecatable
  have hversion : newKey.version = nextVersionFromKeys (loadedKeys r issuerKid kv) := by rw [hnew]; rfl
  have hkv' : kv'[keyName kid slot]? = some (.record k.deprecate.toJson) := by
    rw [hget, hversion, if_neg hne, hown]
    rfl
  have honly := written_onlyStatus hfields hcomplete
  refine ⟨⟨_, hkv', honly⟩, fun kek now => ?_⟩
  have hback : (reactivateSlot kid slot kv')[keyName kid slot]? = some (.record (reactivate k.deprecate.toJson)) := by
    rw [reactivateSlot, hkv', insert_get, if_pos rfl]
  unfold getSigningKeypair
  rw [hback, hstored]
  simp only [keypair_reactivate hfields (hfields.distinct hcomplete) hactive honly]

/-- Where every save goes to the issuer's own slots: the record is the last of the active ones that name its slot, and
its slot is not the last of the versions. -/
theorem deprecatable_home_iff (hhome : ∀ n kid, (r.write n).config ≠ .other kid) (hmem : k ∈ loadedKeys r issuerKid kv)
    (hactive : k.status = .active) : Deprecatable r issuerKid issuerKid slot j k (loadedKeys r issuerKid kv) ↔
      (∃ members, j = .obj members) ∧ Complete j ∧ claimant (activeKeys (loadedKeys r issuerKid kv)) slot = some k ∧
        slot ≠ "v4294967295" := by
  have hsave : lastSave (r.deprecations issuerKid (loadedKeys r issuerKid kv)) (keyName issuerKid slot) = some k.deprecate ↔
      claimant (activeKeys (loadedKeys r issuerKid kv)) slot = some k := by
    rw [Rotation.deprecations, deprecations_home hhome, lastSave_own]
    constructor
    · intro h
      obtain ⟨k', hclaim, heq⟩ := Option.map_eq_some_iff.mp h
      rw [hclaim, deprecate_injective (claimant_some hclaim).2.1 hactive heq]
    · intro h
      rw [h]
      rfl
  have hnext : ∀ hclaim : claimant (activeKeys (loadedKeys r issuerKid kv)) slot = some k,
      keyName (r.keyIssuer issuerKid (loadedKeys r issuerKid kv)) (nextVersionFromKeys (loadedKeys r issuerKid kv)) ≠
        keyName issuerKid slot ↔ slot ≠ "v4294967295" := by
    intro hclaim
    rw [keyIssuer_home hhome, Ne, keyName_eq_iff, ← (claimant_some hclaim).2.2, nextVersion_eq_iff hmem]
  constructor
  · rintro ⟨hobject, hcomplete, hown, hne⟩
    exact ⟨hobject, hcomplete, hsave.mp hown, (hnext (hsave.mp hown)).mp hne⟩
  · rintro ⟨hobject, hcomplete, hclaim, hne⟩
    exact ⟨hobject, hcomplete, hsave.mpr hclaim, (hnext hclaim).mpr hne⟩

end

/-- A rotation that succeeds leaves an active record it has loaded as it was, the status apart, exactly where the
record can be written back. The record is the one of `slot` with the issuer `kid` whose configuration its load reads. -/
theorem deprecation_frame_iff (A : AesGcm) (J : RedJubjub) (calls : LockCalls) (r : Rotation J) (issuerKid : String)
    (locks locks' : ResourceShards) (kv kv' : KeyKv) (newKey : SigningKeyRecord)
    (h : rotateSigningKey A calls r issuerKid locks kv = (.ok newKey, locks', kv')) (kid slot : String) (j : Json)
    (k : SigningKeyRecord) (hlisted : slot ∈ r.reads.listed issuerKid kv)
    (hkid : (r.reads.record slot).config.kid issuerKid = .ok kid) (hstored : kv[keyName kid slot]? = some (.record j))
    (hload : loadKeyRecord r.reads issuerKid kv slot = some k) (hactive : k.status = .active) :
    DeprecatedOnly A kid slot j kv kv' ↔ Deprecatable r issuerKid kid slot j k (loadedKeys r issuerKid kv) := by
  obtain ⟨-, hfields⟩ := loaded_record hlisted hkid hstored hload
  constructor
  · intro honly
    exact deprecatable_of_deprecatedOnly h hstored hfields hactive honly
  · intro hdeprecatable
    exact deprecatedOnly_of_deprecatable h hstored hfields hactive hdeprecatable

/-- The key of the rotation module, in its own slot. -/
theorem rotated_key_deprecated : DeprecatedOnly clearGcm "k" "v2" (demoKey "v2" .active 2).toJson twoKeys
    (rotateTwo "").2.2 := by
  have hok : (rotateTwo "").1 = .ok ((demoRotation "").newKey "v3") := by decide +kernel
  have hstored : twoKeys[keyName "k" "v2"]? = some (.record (demoKey "v2" .active 2).toJson) := by
    rw [twoKeys, saveKey_slot]
    rfl
  have hlisted : "v2" ∈ (demoRotation "").reads.listed "k" twoKeys := mem_slotNames.mpr ⟨_, hstored⟩
  have hload : loadKeyRecord (demoRotation "").reads "k" twoKeys "v2" = some (demoKey "v2" .active 2) := by decide +kernel
  refine (deprecation_frame_iff clearGcm demoCurve demoCalls (demoRotation "") "k" (fun _ => .empty) (rotateTwo "").2.1
    twoKeys (rotateTwo "").2.2 ((demoRotation "").newKey "v3") (Prod.ext hok rfl) "k" "v2" _ (demoKey "v2" .active 2) hlisted
    rfl hstored hload rfl).mpr ((deprecatable_home_iff (fun _ _ h => by cases h) (loaded_record hlisted rfl hstored hload).1 rfl).mpr
      ⟨⟨_, rfl⟩, ?_, by decide +kernel, by decide⟩)
  exact complete_of_written fun n _ => SigningKeyRecord.toJson_entries (demoKey "v2" .active 2) n

def rotateOnboarded : Except ApiError SigningKeyRecord × ResourceShards × KeyKv :=
  rotateSigningKey clearGcm demoCalls (demoRotation "") "issuer" (fun _ => .empty) onboardedWorld.keys

/-- An onboarded key comes back without its `sk` and `vk`, and cannot be opened any more. -/
theorem onboarded_key_stripped : onboardedWorld.keys[keyName "issuer" "main"]? = some (.record (.obj onboardedMembers)) ∧
    (loadKeyRecord .ok "issuer" onboardedWorld.keys "main").map (·.status) = some .active ∧
    rotateOnboarded.1 = .ok ((demoRotation "").newKey "v1") ∧
    getSigningKeypair clearGcm false "issuer" "main" (.ok demoKek) 0 onboardedWorld.keys =
      .ok (List.replicate 32 5, List.replicate 32 5) ∧
    getSigningKeypair clearGcm false "issuer" "main" (.ok demoKek) 0 (reactivateSlot "issuer" "main" rotateOnboarded.2.2) =
      .error .json ∧
    ¬ DeprecatedOnly clearGcm "issuer" "main" (.obj onboardedMembers) onboardedWorld.keys rotateOnboarded.2.2 := by
  have hbefore : getSigningKeypair clearGcm false "issuer" "main" (.ok demoKek) 0 onboardedWorld.keys =
      .ok (List.replicate 32 5, List.replicate 32 5) := by decide +kernel
  have hafter : getSigningKeypair clearGcm false "issuer" "main" (.ok demoKek) 0
      (reactivateSlot "issuer" "main" rotateOnboarded.2.2) = .error .json := by decide +kernel
  refine ⟨?_, by decide +kernel, by decide +kernel, hbefore, hafter, fun h => ?_⟩
  · have hget := onboardedWorld_get "main"
    rwa [show onboardedWorld.issuerKid = "issuer" by decide +kernel, if_pos rfl] at hget
  · have hsame := h.reopened (.ok demoKek) 0
    rw [hbefore, hafter] at hsame
    cases hsame

end Issuer
