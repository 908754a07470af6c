import Issuer.KeyRotation
import Issuer.SigningKeySound
import Issuer.Lib.Except

/-!
# What a rotation writes

`rotate_ok_get` says what every name of the namespace holds after a rotation that succeeds: the new
record in the slot that its save went to, under any other name the last record that was loaded as
active and saved there, now deprecated, and else what was there. A rotation is therefore safe exactly
when the new key goes to the issuer's own slot of its version and that slot is free, every slot of the
issuer stored as active is saved to, and such a save brings the key material that is there already.
-/

namespace Issuer

open Rust Store

/-! ## Slots -/

theorem keyName_injective {issuerKid a b : String} (h : keyName issuerKid a = keyName issuerKid b) : a = b := by
  simpa only [keyName, String.append_right_inj] using h

theorem mem_slotNames {issuerKid slot : String} {kv : KeyKv} :
    slot ∈ slotNames issuerKid kv ↔ ∃ c, kv[keyName issuerKid slot]? = some c := by
  unfold slotNames
  rw [List.mem_filterMap]
  constructor
  · rintro ⟨name, hname, hslot⟩
    have heq : name = keyName issuerKid slot := eq_append_of_stripPrefix hslot
    rw [← heq]
    exact (mem_keys_iff kv name).mp hname
  · intro h
    exact ⟨keyName issuerKid slot, (mem_keys_iff kv _).mpr h, stripPrefix_append _ _⟩

theorem listPages_ok {fails : Nat → Bool} : ∀ {more page : Nat} {names all : List String},
    listPages fails page more names = .ok all → all = names := by
  intro more
  induction more with
  | zero =>
    intro page names all h
    unfold listPages at h
    split at h
    · cases h
    · cases h; rfl
  | succ more ih =>
    intro page names all h
    unfold listPages at h
    split at h
    · cases h
    · cases hrest : listPages fails (page + 1) more (names.drop kvListLimit) with
      | error e => simp [hrest, bind, Except.bind] at h
      | ok rest =>
        rw [ih hrest] at hrest
        simp only [hrest, bind, Except.bind, pure, Except.pure, Except.ok.injEq] at h
        rw [← h, List.take_append_drop]

theorem listPages_total : ∀ (more page : Nat) (names : List String),
    listPages (fun _ => false) page more names = .ok names := by
  intro more
  induction more with
  | zero => intro page names; rfl
  | succ more ih =>
    intro page names
    simp [listPages, ih, bind, Except.bind, pure, Except.pure]

def KeyReads.listed (reads : KeyReads) (issuerKid : String) (kv : KeyKv) : List String :=
  match reads.config.kid issuerKid with
  | .error _ => []
  | .ok kid => slotNames kid kv

theorem getAllSigningKeys_ok {reads : KeyReads} {issuerKid : String} {kv : KeyKv} {keys : List SigningKeyRecord}
    (h : getAllSigningKeys reads issuerKid kv = .ok keys) :
    keys = (reads.listed issuerKid kv).filterMap (loadKeyRecord reads issuerKid kv) := by
  simp only [getAllSigningKeys, Except.bind_eq_ok] at h
  obtain ⟨kid, hkid, names, hlist, h⟩ := h
  cases h
  rw [listPages_ok hlist, KeyReads.listed, hkid]

theorem loadKeyRecord_some {reads : KeyReads} {issuerKid slot : String} {kv : KeyKv} {k : SigningKeyRecord} :
    loadKeyRecord reads issuerKid kv slot = some k ↔ ∃ kid c, (reads.record slot).config.kid issuerKid = .ok kid ∧
      (reads.record slot).fails = false ∧ kv[keyName kid slot]? = some c ∧ parseRecord c = some k := by
  unfold loadKeyRecord
  cases (reads.record slot).config.kid issuerKid with
  | error e => simp
  | ok kid =>
    cases (reads.record slot).fails with
    | true => simp
    | false => simp [Option.bind_eq_some_iff]

/-- No configuration that is read is another issuer's. -/
structure KeyReads.Home (reads : KeyReads) : Prop where
  config : ∀ kid, reads.config ≠ .other kid
  record : ∀ slot kid, (reads.record slot).config ≠ .other kid

theorem ConfigRead.kid_home {config : ConfigRead} (h : ∀ kid, config ≠ .other kid) {issuerKid kid : String}
    (hkid : config.kid issuerKid = .ok kid) : kid = issuerKid := by
  cases config with
  | own => cases hkid; rfl
  | other kid' => exact absurd rfl (h kid')
  | failed e => cases hkid

theorem KeyReads.ok_home : KeyReads.ok.Home := ⟨nofun, nofun⟩

theorem mem_loaded {reads : KeyReads} (hreads : reads.Home) {issuerKid : String} {kv : KeyKv} {k : SigningKeyRecord}
    (h : k ∈ (reads.listed issuerKid kv).filterMap (loadKeyRecord reads issuerKid kv)) :
    ∃ slot c, kv[keyName issuerKid slot]? = some c ∧ parseRecord c = some k := by
  obtain ⟨slot, -, hload⟩ := List.mem_filterMap.mp h
  obtain ⟨kid, c, hkid, -, hc, hk⟩ := loadKeyRecord_some.mp hload
  rw [ConfigRead.kid_home (hreads.record slot) hkid] at hc
  exact ⟨slot, c, hc, hk⟩

/-! ## Saving records -/

theorem saveKey_get (issuerKid name : String) (kv : KeyKv) (k : SigningKeyRecord) :
    (saveKey issuerKid kv k)[name]? = if keyName issuerKid k.version = name then some (.record k.toJson) else kv[name]? := by
  rw [saveKey, insert_get]

theorem keyName_eq_iff {issuerKid a b : String} : keyName issuerKid a = keyName issuerKid b ↔ a = b :=
  ⟨keyName_injective, fun h => h ▸ rfl⟩

theorem saveKey_slot (issuerKid slot : String) (kv : KeyKv) (k : SigningKeyRecord) :
    (saveKey issuerKid kv k)[keyName issuerKid slot]? =
      if k.version = slot then some (.record k.toJson) else kv[keyName issuerKid slot]? := by
  simp only [saveKey_get, keyName_eq_iff]

def ConfigRead.target (issuerKid : String) : ConfigRead → String
  | own => issuerKid
  | other kid => kid
  | failed _ => issuerKid

theorem KeyWrite.kid_ok {w : KeyWrite} {issuerKid kid : String} (h : w.kid issuerKid = .ok kid) :
    kid = w.config.target issuerKid := by
  rcases w with ⟨config, put⟩
  cases put with
  | some e => cases config <;> cases h
  | none => cases config <;> cases h <;> rfl

theorem ConfigRead.target_home {config : ConfigRead} (h : ∀ kid, config ≠ .other kid) (issuerKid : String) :
    config.target issuerKid = issuerKid := by
  cases config with
  | own => rfl
  | other kid => exact absurd rfl (h kid)
  | failed e => rfl

/-- Records saved one after the other, each with the issuer that its save addresses. -/
def saveAll (kv : KeyKv) (saves : List (String × SigningKeyRecord)) : KeyKv :=
  saves.foldl (fun kv save => saveKey save.1 kv save.2) kv

def lastSave (saves : List (String × SigningKeyRecord)) (name : String) : Option SigningKeyRecord :=
  (saves.reverse.find? fun save => keyName save.1 save.2.version == name).map Prod.snd

theorem saveAll_get (name : String) (kv : KeyKv) (saves : List (String × SigningKeyRecord)) :
    (saveAll kv saves)[name]? = ((lastSave saves name).map fun k => Cell.record k.toJson).or kv[name]? := by
  induction saves using List.reverseRecOn with
  | nil => rfl
  | append_singleton saves save ih =>
    have hsnoc : saveAll kv (saves ++ [save]) = saveKey save.1 (saveAll kv saves) save.2 := by simp [saveAll]
    rw [hsnoc, saveKey_get, ih]
    by_cases hname : keyName save.1 save.2.version = name
    · simp [lastSave, hname]
    · simp [lastSave, hname]

theorem lastSave_some {saves : List (String × SigningKeyRecord)} {name : String} {k : SigningKeyRecord}
    (h : lastSave saves name = some k) : ∃ kid, (kid, k) ∈ saves ∧ keyName kid k.version = name := by
  obtain ⟨⟨kid, k'⟩, hfind, rfl⟩ := Option.map_eq_some_iff.mp h
  exact ⟨kid, List.mem_reverse.mp (List.mem_of_find?_eq_some hfind), by simpa using List.find?_some hfind⟩

def activeKeys (keys : List SigningKeyRecord) : List SigningKeyRecord := keys.filter fun k => decide (k.status = .active)

/-- Active records written back deprecated, the first of them by save `n`. -/
def deprecations (write : Nat → KeyWrite) (issuerKid : String) :
    Nat → List SigningKeyRecord → List (String × SigningKeyRecord)
  | _, [] => []
  | n, k :: keys => ((write n).config.target issuerKid, k.deprecate) :: deprecations write issuerKid (n + 1) keys

theorem mem_deprecations {write : Nat → KeyWrite} {issuerKid : String} {save : String × SigningKeyRecord} :
    ∀ {keys : List SigningKeyRecord} {n : Nat}, save ∈ deprecations write issuerKid n keys →
      ∃ k ∈ keys, save.2 = k.deprecate := by
  intro keys
  induction keys with
  | nil => intro n h; cases h
  | cons k keys ih =>
    intro n h
    rcases List.mem_cons.mp h with rfl | h
    · exact ⟨k, by simp, rfl⟩
    · obtain ⟨k', hk', heq⟩ := ih h
      exact ⟨k', List.mem_cons_of_mem k hk', heq⟩

theorem deprecations_home {write : Nat → KeyWrite} (hwrite : ∀ n kid, (write n).config ≠ .other kid) (issuerKid : String)
    (keys : List SigningKeyRecord) : ∀ n, deprecations write issuerKid n keys = keys.map fun k => (issuerKid, k.deprecate) := by
  induction keys with
  | nil => intro n; rfl
  | cons k keys ih =>
    intro n
    rw [deprecations, ih, ConfigRead.target_home (hwrite n), List.map_cons]

theorem deprecateKeys_spec (write : Nat → KeyWrite) (issuerKid : String) (keys : List SigningKeyRecord) :
    ∀ (n : Nat) (kv : KeyKv), ∃ done rest, activeKeys keys = done ++ rest ∧
      (deprecateKeys write issuerKid n keys kv).2 = saveAll kv (deprecations write issuerKid n done) ∧
      ∀ m, (deprecateKeys write issuerKid n keys kv).1 = .ok m → rest = [] ∧ m = n + (activeKeys keys).length := by
  induction keys with
  | nil => intro n kv; exact ⟨[], [], rfl, rfl, fun m hm => ⟨rfl, by cases hm; rfl⟩⟩
  | cons k keys ih =>
    intro n kv
    by_cases hk : k.status = .active
    · have hactive : activeKeys (k :: keys) = k :: activeKeys keys := by simp [activeKeys, hk]
      cases hw : (write n).kid issuerKid with
      | error e =>
        refine ⟨[], k :: activeKeys keys, hactive, ?_, ?_⟩
        · simp [deprecateKeys, hk, saveKeyMetadata, hw, saveAll, deprecations]
        · intro m hm
          simp [deprecateKeys, hk, saveKeyMetadata, hw] at hm
      | ok kid =>
        obtain ⟨done, rest, hsplit, hkv, hok⟩ := ih (n + 1) (saveKey kid kv k.deprecate)
        refine ⟨k :: done, rest, ?_, ?_, ?_⟩
        · rw [hactive, hsplit, List.cons_append]
        · simp only [deprecateKeys, hk, if_true, saveKeyMetadata, hw, hkv, deprecations, ← KeyWrite.kid_ok hw]
          rfl
        · intro m hm
          simp only [deprecateKeys, hk, if_true, saveKeyMetadata, hw] at hm
          obtain ⟨hrest, hcount⟩ := hok m hm
          exact ⟨hrest, by rw [hactive, List.length_cons]; omega⟩
    · have hactive : activeKeys (k :: keys) = activeKeys keys := by simp [activeKeys, hk]
      obtain ⟨done, rest, hsplit, hkv, hok⟩ := ih n kv
      refine ⟨done, rest, ?_, ?_, ?_⟩
      · rw [hactive, hsplit]
      · simp only [deprecateKeys, hk, if_false, hkv]
      · intro m hm
        simp only [deprecateKeys, hk, if_false] at hm
        rw [hactive]
        exact hok m hm

/-! ## Rotations -/

section
variable {A : AesGcm} {J : RedJubjub} {r : Rotation J} {issuerKid : String} {kv : KeyKv}

theorem sealKey_ok {gcmNonce : Vector UInt8 12} {kek : Except ApiError KekPair} {key record : SigningKeyRecord}
    {privateKey : Bytes} (h : sealKey A gcmNonce kek key privateKey = .ok record) : ∃ kekPair data, kek = .ok kekPair ∧
      encryptWithKek A gcmNonce kekPair.current privateKey (signingKeyAad key.version) = .ok data ∧
      record = { key with privateKeyEncrypted := some (Base64.encode data) } := by
  unfold sealKey at h
  cases hkek : kek with
  | error e => simp [hkek, bind, Except.bind] at h
  | ok kekPair =>
    cases henc : encryptWithKek A gcmNonce kekPair.current privateKey (signingKeyAad key.version) with
    | error e => simp [hkek, henc, bind, Except.bind] at h
    | ok data =>
      simp only [hkek, henc, bind, Except.bind, pure, Except.pure, Except.ok.injEq] at h
      exact ⟨kekPair, data, rfl, henc, h.symm⟩

def Rotation.deprecations (r : Rotation J) (issuerKid : String) (keys : List SigningKeyRecord) :
    List (String × SigningKeyRecord) :=
  Issuer.deprecations r.write issuerKid 0 (activeKeys keys)

def Rotation.keyIssuer (r : Rotation J) (issuerKid : String) (keys : List SigningKeyRecord) : String :=
  (r.write (activeKeys keys).length).config.target issuerKid

theorem keyIssuer_home (hwrite : ∀ n kid, (r.write n).config ≠ .other kid) (issuerKid : String) (keys : List SigningKeyRecord) :
    r.keyIssuer issuerKid keys = issuerKid :=
  ConfigRead.target_home (hwrite _) issuerKid

/-- A rotation ends before it has loaded the keys, or having written some of the active ones back, or
having stored the new key on top of all of them. -/
theorem rotateSigningKeyInner_cases (A : AesGcm) (r : Rotation J) (issuerKid : String) (kv : KeyKv) :
    (∃ e, rotateSigningKeyInner A r issuerKid kv = (.error e, kv)) ∨
    ∃ keys, getAllSigningKeys r.reads issuerKid kv = .ok keys ∧
      ((∃ e done rest, activeKeys keys = done ++ rest ∧
          rotateSigningKeyInner A r issuerKid kv = (.error e, saveAll kv (Issuer.deprecations r.write issuerKid 0 done))) ∨
        ∃ record, sealKey A r.gcmNonce r.kek (r.newKey (nextVersionFromKeys keys)) r.keypair.sk.toList = .ok record ∧
          rotateSigningKeyInner A r issuerKid kv = (.ok (r.newKey (nextVersionFromKeys keys)),
            saveKey (r.keyIssuer issuerKid keys) (saveAll kv (r.deprecations issuerKid keys)) record)) := by
  unfold rotateSigningKeyInner
  cases hkeys : getAllSigningKeys r.reads issuerKid kv with
  | error e => exact .inl ⟨e, rfl⟩
  | ok keys =>
    refine .inr ⟨keys, rfl, ?_⟩
    obtain ⟨done, rest, hsplit, hkv, hok⟩ := deprecateKeys_spec r.write issuerKid keys 0 kv
    simp only
    cases hd : deprecateKeys r.write issuerKid 0 keys kv with
    | mk res kv₁ =>
      rw [hd] at hkv hok
      simp only at hkv hok
      subst hkv
      cases res with
      | error e => exact .inl ⟨e, done, rest, hsplit, rfl⟩
      | ok n =>
        obtain ⟨hrest, hcount⟩ := hok n rfl
        rw [hrest, List.append_nil] at hsplit
        rw [Nat.zero_add] at hcount
        unfold storeEncryptedKey
        cases hseal : sealKey A r.gcmNonce r.kek (r.newKey (nextVersionFromKeys keys)) r.keypair.sk.toList with
        | error e => exact .inl ⟨e, done, [], by rw [hsplit, List.append_nil], rfl⟩
        | ok record =>
          cases hw : (r.write n).kid issuerKid with
          | error e => exact .inl ⟨e, done, [], by rw [hsplit, List.append_nil], by simp [saveKeyMetadata, hw]⟩
          | ok kid =>
            have hkid := KeyWrite.kid_ok hw
            rw [hcount] at hkid
            refine .inr ⟨record, rfl, ?_⟩
            simp [saveKeyMetadata, hw, hsplit, hkid, Rotation.keyIssuer, Rotation.deprecations]

def loadedKeys (r : Rotation J) (issuerKid : String) (kv : KeyKv) : List SigningKeyRecord :=
  (r.reads.listed issuerKid kv).filterMap (loadKeyRecord r.reads issuerKid kv)

theorem rotate_ok {newKey : SigningKeyRecord} {kv' : KeyKv}
    (h : rotateSigningKeyInner A r issuerKid kv = (.ok newKey, kv')) :
    newKey = r.newKey (nextVersionFromKeys (loadedKeys r issuerKid kv)) ∧
    ∃ record, sealKey A r.gcmNonce r.kek newKey r.keypair.sk.toList = .ok record ∧
      kv' = saveKey (r.keyIssuer issuerKid (loadedKeys r issuerKid kv))
        (saveAll kv (r.deprecations issuerKid (loadedKeys r issuerKid kv))) record := by
  rcases rotateSigningKeyInner_cases A r issuerKid kv with ⟨e, he⟩ | ⟨keys, hkeys, ⟨e, done, rest, -, he⟩ | ⟨record, hseal, he⟩⟩
  · rw [he] at h; cases h
  · rw [he] at h; cases h
  · rw [he] at h
    cases h
    have hloaded : keys = loadedKeys r issuerKid kv := getAllSigningKeys_ok hkeys
    rw [← hloaded]
    exact ⟨rfl, record, hseal, rfl⟩

theorem rotate_ok_get {newKey : SigningKeyRecord} {kv' : KeyKv}
    (h : rotateSigningKeyInner A r issuerKid kv = (.ok newKey, kv')) :
    newKey = r.newKey (nextVersionFromKeys (loadedKeys r issuerKid kv)) ∧
    ∃ sk, ∀ name, kv'[name]? =
      if keyName (r.keyIssuer issuerKid (loadedKeys r issuerKid kv)) newKey.version = name then
        some (.record { newKey with privateKeyEncrypted := some sk }.toJson)
      else ((lastSave (r.deprecations issuerKid (loadedKeys r issuerKid kv)) name).map fun k => Cell.record k.toJson).or
        kv[name]? := by
  obtain ⟨hnew, record, hseal, rfl⟩ := rotate_ok h
  obtain ⟨kekPair, data, -, -, rfl⟩ := sealKey_ok hseal
  exact ⟨hnew, Base64.encode data, fun name => by rw [saveKey_get, saveAll_get]⟩

theorem rotateSigningKey_ok {calls : LockCalls} {locks locks' : ResourceShards} {newKey : SigningKeyRecord} {kv' : KeyKv}
    (h : rotateSigningKey A calls r issuerKid locks kv = (.ok newKey, locks', kv')) :
    rotateSigningKeyInner A r issuerKid kv = (.ok newKey, kv') := by
  unfold rotateSigningKey at h
  split at h
  · cases h
  · simp only [Prod.mk.injEq] at h
    exact Prod.ext h.1 h.2.2

theorem lastSave_deprecated {keys : List SigningKeyRecord} {name : String} {k : SigningKeyRecord}
    (h : lastSave (r.deprecations issuerKid keys) name = some k) : k.status = .deprecated := by
  obtain ⟨kid, hmem, -⟩ := lastSave_some h
  obtain ⟨k', -, heq⟩ := mem_deprecations hmem
  rw [show k = k'.deprecate from heq]
  rfl

end

/-! ## Key material and status of a slot -/

/-- What `get_signing_keypair` takes from a stored text: the secret key and the two public ones. -/
def keyMaterial : Cell Json → Option (Option (Option Json) × Option (Option Json) × Option (Option Json))
  | .record j => some (j.get 0 ["sk", "private_key_encrypted"], j.get 1 ["vk"], j.get 2 ["public_key"])
  | .garbled => none

def storedStatus : Cell Json → Option KeyStatus
  | .record j => j.required KeyStatus.ofJson 6 ["status"]
  | .garbled => none

theorem keyMaterial_toJson (k : SigningKeyRecord) : keyMaterial (.record k.toJson) =
    some (some (k.privateKeyEncrypted.map .str), some none, some (some (.str k.publicKey))) := by
  rcases k with ⟨version, keyId, sk, publicKey, createdAt, expiresAt, status, encrypted⟩
  cases sk with
  | none => simp [keyMaterial, SigningKeyRecord.toJson, Json.get, Json.field]
  | some sk => simp [keyMaterial, SigningKeyRecord.toJson, Json.get, Json.field]

theorem storedStatus_toJson (k : SigningKeyRecord) : storedStatus (.record k.toJson) = some k.status := by
  rcases k with ⟨version, keyId, sk, publicKey, createdAt, expiresAt, status, encrypted⟩
  cases sk with
  | none => simp [storedStatus, SigningKeyRecord.toJson, Json.required, Json.get, Json.field, KeyStatus.ofJson]
  | some sk => simp [storedStatus, SigningKeyRecord.toJson, Json.required, Json.get, Json.field, KeyStatus.ofJson]

/-! ## When a rotation is safe -/

/-- No name holds other key material than before, whosever it is; the new key is stored, and of the
issuer's records it is the only active one. -/
structure RotatedSafely (issuerKid : String) (kv kv' : KeyKv) (newKey : SigningKeyRecord) : Prop where
  kept : ∀ (name : String) c, kv[name]? = some c → ∃ c', kv'[name]? = some c' ∧ keyMaterial c' = keyMaterial c
  stored : ∃ sk, kv'[keyName issuerKid newKey.version]? = some (.record { newKey with privateKeyEncrypted := some sk }.toJson)
  single : ∀ slot c', kv'[keyName issuerKid slot]? = some c' → (storedStatus c' = some .active ↔ slot = newKey.version)

/-- The new key goes to the issuer's slot of the next version, which is free; to every slot of the issuer
that is stored as active a record loaded as active is saved; and what is saved last under a name has the key
material that is there. -/
structure SafeToRotate {J : RedJubjub} (r : Rotation J) (issuerKid : String) (kv : KeyKv) (loaded : List SigningKeyRecord) :
    Prop where
  home : r.keyIssuer issuerKid loaded = issuerKid
  free : kv[keyName issuerKid (nextVersionFromKeys loaded)]? = none
  covered : ∀ slot c, kv[keyName issuerKid slot]? = some c → storedStatus c = some .active →
    (lastSave (r.deprecations issuerKid loaded) (keyName issuerKid slot)).isSome = true
  faithful : ∀ (name : String) c k, kv[name]? = some c → lastSave (r.deprecations issuerKid loaded) name = some k →
    keyMaterial (.record k.toJson) = keyMaterial c

theorem keyName_issuer_injective {kid kid' version : String} (h : keyName kid version = keyName kid' version) : kid = kid' := by
  simpa only [keyName, keyPrefix, String.append_left_inj, String.append_right_inj] using h

section
variable {A : AesGcm} {J : RedJubjub} {r : Rotation J} {issuerKid : String} {kv kv' : KeyKv} {newKey : SigningKeyRecord}

theorem rotated_safely (h : rotateSigningKeyInner A r issuerKid kv = (.ok newKey, kv'))
    (hsafe : SafeToRotate r issuerKid kv (loadedKeys r issuerKid kv)) : RotatedSafely issuerKid kv kv' newKey := by
  obtain ⟨hnew, sk, hget⟩ := rotate_ok_get h
  have hactive : newKey.status = .active := by rw [hnew]; rfl
  have hfree : kv[keyName issuerKid newKey.version]? = none := by
    rw [hnew]
    exact hsafe.free
  rw [hsafe.home] at hget
  refine ⟨?kept, ?stored, ?single⟩
  case kept =>
    intro name c hc
    have hne : keyName issuerKid newKey.version ≠ name := by
      rintro rfl
      rw [hfree] at hc
      cases hc
    rw [hget, if_neg hne]
    cases hk : lastSave (r.deprecations issuerKid (loadedKeys r issuerKid kv)) name with
    | none => exact ⟨c, hc, rfl⟩
    | some k => exact ⟨_, rfl, hsafe.faithful name c k hc hk⟩
  case stored => exact ⟨sk, by rw [hget, if_pos rfl]⟩
  case single =>
    intro slot c' hc'
    rw [hget] at hc'
    by_cases hslot : newKey.version = slot
    · rw [if_pos (keyName_eq_iff.mpr hslot)] at hc'
      cases hc'
      rw [storedStatus_toJson]
      exact ⟨fun _ => hslot.symm, fun _ => congrArg some hactive⟩
    · rw [if_neg fun he => hslot (keyName_injective he)] at hc'
      refine ⟨fun hact => ?_, fun he => absurd he.symm hslot⟩
      cases hk : lastSave (r.deprecations issuerKid (loadedKeys r issuerKid kv)) (keyName issuerKid slot) with
      | some k =>
        rw [hk] at hc'
        cases hc'
        rw [storedStatus_toJson, lastSave_deprecated hk] at hact
        cases hact
      | none =>
        rw [hk] at hc'
        have hcov := hsafe.covered slot c' hc' hact
        rw [hk] at hcov
        cases hcov

theorem safe_to_rotate (h : rotateSigningKeyInner A r issuerKid kv = (.ok newKey, kv'))
    (hfresh : ∀ (name : String) j, kv[name]? = some (.record j) → j.get 2 ["public_key"] ≠ some (some (.str newKey.publicKey)))
    (hsafe : RotatedSafely issuerKid kv kv' newKey) : SafeToRotate r issuerKid kv (loadedKeys r issuerKid kv) := by
  obtain ⟨hnew, sk, hget⟩ := rotate_ok_get h
  have hactive : newKey.status = .active := by rw [hnew]; rfl
  -- the new key is in its slot, which neither the deprecated records nor the ones from before explain
  have hhome : r.keyIssuer issuerKid (loadedKeys r issuerKid kv) = issuerKid := by
    obtain ⟨sk', hstored⟩ := hsafe.stored
    rw [hget] at hstored
    by_cases hname : keyName (r.keyIssuer issuerKid (loadedKeys r issuerKid kv)) newKey.version = keyName issuerKid newKey.version
    · exact keyName_issuer_injective hname
    · rw [if_neg hname] at hstored
      cases hk : lastSave (r.deprecations issuerKid (loadedKeys r issuerKid kv)) (keyName issuerKid newKey.version) with
      | some k =>
        rw [hk] at hstored
        have hstatus := congrArg (fun c : Option (Cell Json) => c.bind storedStatus) hstored
        simp only [Option.map_some, Option.some_or, Option.bind_some, storedStatus_toJson, lastSave_deprecated hk, hactive] at hstatus
        cases hstatus
      | none =>
        rw [hk] at hstored
        have hmaterial := keyMaterial_toJson { newKey with privateKeyEncrypted := some sk' }
        simp only [keyMaterial, Option.some.injEq, Prod.mk.injEq] at hmaterial
        exact absurd hmaterial.2.2 (hfresh _ _ hstored)
  rw [hhome] at hget
  have hfree : kv[keyName issuerKid newKey.version]? = none := by
    cases hc : kv[keyName issuerKid newKey.version]? with
    | none => rfl
    | some c =>
      obtain ⟨c', hc', hm⟩ := hsafe.kept _ c hc
      rw [hget, if_pos rfl] at hc'
      cases hc'
      rw [keyMaterial_toJson] at hm
      cases c with
      | garbled => cases hm
      | record j =>
        simp only [keyMaterial, Option.some.injEq, Prod.mk.injEq] at hm
        exact absurd hm.2.2.symm (hfresh _ j hc)
  have hne : ∀ (name : String) c, kv[name]? = some c → keyName issuerKid newKey.version ≠ name := by
    rintro name c hc rfl
    rw [hfree] at hc
    cases hc
  refine ⟨hhome, ?free, ?covered, ?faithful⟩
  case free =>
    rw [hnew] at hfree
    exact hfree
  case covered =>
    intro slot c hc hact
    cases hk : lastSave (r.deprecations issuerKid (loadedKeys r issuerKid kv)) (keyName issuerKid slot) with
    | some k => rfl
    | none =>
      have hc' : kv'[keyName issuerKid slot]? = some c := by
        rw [hget, if_neg (hne _ c hc), hk]
        exact hc
      have hslot := (hsafe.single slot c hc').mp hact
      exact absurd (by rw [hslot]) (hne _ c hc)
  case faithful =>
    intro name c k hc hk
    obtain ⟨c', hc', hm⟩ := hsafe.kept name c hc
    rw [hget, if_neg (hne name c hc), hk] at hc'
    cases hc'
    exact hm

end

/-- A rotation that succeeds, whatever the namespace holds, whichever records could not be loaded and
whichever issuer each of its reads of the configuration has found, is safe exactly where `SafeToRotate`
says. The key it generates is not stored yet. -/
theorem rotation_safe_iff (A : AesGcm) (J : RedJubjub) (calls : LockCalls) (r : Rotation J) (issuerKid : String)
    (locks locks' : ResourceShards) (kv kv' : KeyKv) (newKey : SigningKeyRecord)
    (h : rotateSigningKey A calls r issuerKid locks kv = (.ok newKey, locks', kv'))
    (hfresh : ∀ (name : String) j, kv[name]? = some (.record j) →
      j.get 2 ["public_key"] ≠ some (some (.str (Base64.encode r.keypair.vk.toList)))) :
    RotatedSafely issuerKid kv kv' newKey ↔ SafeToRotate r issuerKid kv (loadedKeys r issuerKid kv) := by
  have hinner := rotateSigningKey_ok h
  obtain ⟨hnew, -⟩ := rotate_ok hinner
  have hpublic : newKey.publicKey = Base64.encode r.keypair.vk.toList := by rw [hnew]; rfl
  refine ⟨safe_to_rotate hinner fun name j hj => ?_, rotated_safely hinner⟩
  rw [hpublic]
  exact hfresh name j hj

/-! ## Two stored keys -/

def demoCurve : RedJubjub := ⟨fun _ => true, some⟩

def demoKeypair (b : UInt8) : Keypair demoCurve := ⟨Vector.replicate 32 b, Vector.replicate 32 b, rfl, rfl⟩

def demoKey (version : String) (status : KeyStatus) (b : UInt8) : SigningKeyRecord where
  version := version
  keyId := "provii:" ++ version
  privateKeyEncrypted := some (Base64.encode (List.replicate 60 b))
  publicKey := Base64.encode (List.replicate 32 b)
  createdAt := 0
  expiresAt := 31536000
  status := status
  encrypted := true

def twoKeys : KeyKv := saveKey "k" (saveKey "k" ∅ (demoKey "v1" .deprecated 1)) (demoKey "v2" .active 2)

/-- A rotation that cannot load the slot `unreadable`. -/
def demoRotation (unreadable : String) : Rotation demoCurve where
  reads := ⟨.own, fun _ => false, fun slot => ⟨.own, slot == unreadable⟩⟩
  keypair := demoKeypair 3
  gcmNonce := Vector.replicate 12 0
  kek := .ok ⟨List.replicate 32 7, none⟩
  now := 0
  write := fun _ => ⟨.own, none⟩

def demoCalls : LockCalls := ⟨"t", .none, 0, 0, .none⟩

def rotateTwo (unreadable : String) : Except ApiError SigningKeyRecord × ResourceShards × KeyKv :=
  rotateSigningKey clearGcm demoCalls (demoRotation unreadable) "k" (fun _ => .empty) twoKeys

theorem twoKeys_get {name : String} {c : Cell Json} (h : twoKeys[name]? = some c) :
    (name = keyName "k" "v2" ∧ c = .record (demoKey "v2" .active 2).toJson) ∨
      (name = keyName "k" "v1" ∧ c = .record (demoKey "v1" .deprecated 1).toJson) := by
  rw [twoKeys, saveKey_get, saveKey_get] at h
  split at h
  · rename_i hname
    cases h
    exact .inl ⟨hname.symm, rfl⟩
  · split at h
    · rename_i hname
      cases h
      exact .inr ⟨hname.symm, rfl⟩
    · simp at h

theorem demoKey_fresh {version : String} {status : KeyStatus} {b : UInt8}
    (hb : Base64.encode (List.replicate 32 b) ≠ Base64.encode (List.replicate 32 3)) :
    (demoKey version status b).toJson.get 2 ["public_key"] ≠
      some (some (.str (Base64.encode (demoKeypair 3).vk.toList))) := by
  have hm := keyMaterial_toJson (demoKey version status b)
  simp only [keyMaterial, Option.some.injEq, Prod.mk.injEq] at hm
  rw [hm.2.2]
  intro h
  simp only [Option.some.injEq, Json.str.injEq] at h
  exact hb h

theorem twoKeys_fresh (name : String) (j : Json) (h : twoKeys[name]? = some (.record j)) :
    j.get 2 ["public_key"] ≠ some (some (.str (Base64.encode (demoKeypair 3).vk.toList))) := by
  rcases twoKeys_get h with ⟨-, hc⟩ | ⟨-, hc⟩
  · cases hc; exact demoKey_fresh (by decide +kernel)
  · cases hc; exact demoKey_fresh (by decide +kernel)

theorem demo_deprecations : (demoRotation "").deprecations "k" (loadedKeys (demoRotation "") "k" twoKeys) =
    [("k", (demoKey "v2" .active 2).deprecate)] := by decide +kernel

theorem readable_rotation_safe : (rotateTwo "").1 = .ok ((demoRotation "").newKey "v3") ∧
    RotatedSafely "k" twoKeys (rotateTwo "").2.2 ((demoRotation "").newKey "v3") := by
  have hok : (rotateTwo "").1 = .ok ((demoRotation "").newKey "v3") := by decide +kernel
  refine ⟨hok, (rotation_safe_iff clearGcm demoCurve demoCalls (demoRotation "") "k" (fun _ => .empty) (rotateTwo "").2.1
    twoKeys (rotateTwo "").2.2 ((demoRotation "").newKey "v3") (Prod.ext hok rfl) twoKeys_fresh).mpr
    ⟨rfl, ?free, ?covered, ?faithful⟩⟩
  case free =>
    have hnext : nextVersionFromKeys (loadedKeys (demoRotation "") "k" twoKeys) = "v3" := by decide +kernel
    rw [hnext]
    cases hc : twoKeys[keyName "k" "v3"]? with
    | none => rfl
    | some c =>
      rcases twoKeys_get hc with ⟨h, -⟩ | ⟨h, -⟩
      · exact absurd h (by decide)
      · exact absurd h (by decide)
  case covered =>
    intro slot c hc hact
    rcases twoKeys_get hc with ⟨hname, -⟩ | ⟨-, rfl⟩
    · rw [demo_deprecations, hname]
      decide +kernel
    · rw [storedStatus_toJson] at hact
      cases hact
  case faithful =>
    intro name c k hc hk
    rw [demo_deprecations] at hk
    rcases twoKeys_get hc with ⟨rfl, rfl⟩ | ⟨rfl, rfl⟩
    · have hlast : lastSave [("k", (demoKey "v2" .active 2).deprecate)] (keyName "k" "v2") =
          some (demoKey "v2" .active 2).deprecate := by decide +kernel
      rw [hlast] at hk
      cases hk
      rw [keyMaterial_toJson, keyMaterial_toJson]
      rfl
    · have hlast : lastSave [("k", (demoKey "v2" .active 2).deprecate)] (keyName "k" "v1") = none := by decide +kernel
      rw [hlast] at hk
      cases hk

/-- The active key `v2` cannot be loaded, and the rotation takes its slot for the next version. -/
theorem unreadable_key_replaced : (rotateTwo "v2").1 = .ok ((demoRotation "v2").newKey "v2") ∧
    ¬ RotatedSafely "k" twoKeys (rotateTwo "v2").2.2 ((demoRotation "v2").newKey "v2") := by
  have hok : (rotateTwo "v2").1 = .ok ((demoRotation "v2").newKey "v2") := by decide +kernel
  refine ⟨hok, fun hsafe => ?_⟩
  have hrotate : rotateTwo "v2" = (.ok ((demoRotation "v2").newKey "v2"), (rotateTwo "v2").2.1, (rotateTwo "v2").2.2) :=
    Prod.ext hok rfl
  obtain ⟨-, sk, hget⟩ := rotate_ok_get (rotateSigningKey_ok hrotate)
  have hold : twoKeys[keyName "k" "v2"]? = some (.record (demoKey "v2" .active 2).toJson) := by
    rw [twoKeys, saveKey_get]
    rfl
  obtain ⟨c', hc', hm⟩ := hsafe.kept _ _ hold
  have hname : keyName ((demoRotation "v2").keyIssuer "k" (loadedKeys (demoRotation "v2") "k" twoKeys))
      ((demoRotation "v2").newKey "v2").version = keyName "k" "v2" := rfl
  rw [hget, if_pos hname] at hc'
  cases hc'
  rw [keyMaterial_toJson, keyMaterial_toJson] at hm
  simp only [Option.some.injEq, Prod.mk.injEq, Json.str.injEq] at hm
  exact absurd hm.2.2 (by decide +kernel)

end Issuer
