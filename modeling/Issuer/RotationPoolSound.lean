import Issuer.RotationPool

/-!
# Rotations of the signing key as sections

Alone, the operations of a rotation make up `rotateSigningKeyInner`. Among others, a request enters its rotation by the
lock, and a rotation that is never heard of again is one whose later writes fail.
-/

namespace Issuer

open Rust Store Runs

namespace RotationPool

/-! ## The rotation alone -/

section
variable {A : AesGcm} {J : RedJubjub} {issuerKid : String} {kekPair : KekPair} {kv : KeyKv}

/-- Reads succeed, the configuration is the issuer's own, and the key encryption keys are `kekPair`. -/
structure KeyTick.Calm (kekPair : KekPair) (t : KeyTick J) : Prop where
  config : t.config = .own
  reads : t.readFails = false
  kek : t.kek = .ok kekPair

theorem andThen_play {α β : Type} {p : Keys J (Except ApiError α)} {f : α → Keys J (Except ApiError β)} {e : Nat → KeyTick J}
    {result : Except ApiError α} {kv' : KeyKv} (h : p.play (KeyOp.handle issuerKid) e kv = (result, kv')) : ∃ n,
    (p.andThen f).play (KeyOp.handle issuerKid) e kv =
      match result with
      | .error err => (.error err, kv')
      | .ok a => (f a).play (KeyOp.handle issuerKid) (fun m => e (m + n)) kv' := by
  obtain ⟨n, hn⟩ := Prog.play_bind (KeyOp.handle issuerKid)
    (fun result : Except ApiError α => match result with
      | .error e => (pure (.error e) : Keys J (Except ApiError β))
      | .ok a => f a) p e kv
  refine ⟨n, hn.trans ?_⟩
  rw [h]
  cases result <;> rfl

/-- The same for all outcomes of `p` at once. -/
theorem andThen_split {α β : Type} (p : Keys J (Except ApiError α)) (f : α → Keys J (Except ApiError β)) (e : Nat → KeyTick J)
    (kv : KeyKv) : ∃ n,
    (∀ err kv', p.play (KeyOp.handle issuerKid) e kv = (.error err, kv') →
      (p.andThen f).play (KeyOp.handle issuerKid) e kv = (.error err, kv')) ∧
    ∀ a kv', p.play (KeyOp.handle issuerKid) e kv = (.ok a, kv') →
      (p.andThen f).play (KeyOp.handle issuerKid) e kv = (f a).play (KeyOp.handle issuerKid) (fun m => e (m + n)) kv' := by
  have hsame : p.play (KeyOp.handle issuerKid) e kv =
      ((p.play (KeyOp.handle issuerKid) e kv).1, (p.play (KeyOp.handle issuerKid) e kv).2) := rfl
  obtain ⟨n, hn⟩ := andThen_play (f := f) hsame
  refine ⟨n, fun err kv' hp => hn.trans ?_, fun a kv' hp => hn.trans ?_⟩
  · rw [hp]
  · rw [hp]

theorem listPages_play {kid : String} : ∀ (more page : Nat) (e : Nat → KeyTick J) (fails : Nat → Bool),
    (∀ i, fails (page + i) = (e i).readFails) → ((slotNames kid kv).length - 1) / kvListLimit ≤ page + more →
    (listPages kid more page).play (KeyOp.handle issuerKid) e kv =
      (Issuer.listPages fails page more ((slotNames kid kv).drop (page * kvListLimit)), kv) := by
  intro more
  induction more with
  | zero =>
    intro page e fails hfails hmore
    have hlast : ((slotNames kid kv).drop (page * kvListLimit)).take kvListLimit =
        (slotNames kid kv).drop (page * kvListLimit) := by
      refine List.take_of_length_le ?_
      rw [List.length_drop]
      unfold kvListLimit at *
      omega
    have h0 : fails page = (e 0).readFails := hfails 0
    cases hread : (e 0).readFails with
    | true => simp [listPages, KeyOp.handle, Issuer.listPages, h0, hread]
    | false => simp [listPages, KeyOp.handle, Issuer.listPages, h0, hread, hlast]
  | succ more ih =>
    intro page e fails hfails hmore
    have h0 : fails page = (e 0).readFails := hfails 0
    cases hread : (e 0).readFails with
    | true => simp [listPages, KeyOp.handle, Issuer.listPages, h0, hread]
    | false =>
      have hnext : ∀ i, fails (page + 1 + i) = (e (i + 1)).readFails := by
        intro i
        rw [show page + 1 + i = page + (i + 1) by omega]
        exact hfails (i + 1)
      have hrest := ih (page + 1) (fun n => e (n + 1)) fails hnext (by omega)
      have hdrop : ((slotNames kid kv).drop (page * kvListLimit)).drop kvListLimit =
          (slotNames kid kv).drop ((page + 1) * kvListLimit) := by
        rw [List.drop_drop, Nat.succ_mul]
      simp only [listPages, Prog.op_bind, Prog.play_ask, KeyOp.handle, hread, Bool.false_eq_true, if_false, Issuer.listPages,
        h0, hdrop]
      obtain ⟨n, hn⟩ := Prog.play_bind (KeyOp.handle issuerKid)
        (fun result : Except ApiError (List String) => (pure (result.map
          (((slotNames kid kv).drop (page * kvListLimit)).take kvListLimit ++ ·)) : Keys J (Except ApiError (List String))))
        (listPages kid more (page + 1)) (fun n => e (n + 1)) kv
      rw [hn, hrest]
      cases Issuer.listPages fails (page + 1) more ((slotNames kid kv).drop ((page + 1) * kvListLimit)) <;> rfl

theorem listNames_play {kid : String} (e : Nat → KeyTick J) : (listNames kid).play (KeyOp.handle issuerKid) e kv =
    (Issuer.listPages (fun p => (e p).readFails) 0 (((slotNames kid kv).length - 1) / kvListLimit)
      (slotNames kid kv), kv) := by
  have hpages := @listPages_play J issuerKid kv kid (((slotNames kid kv).length - 1) / kvListLimit) 0 e
    (fun p => (e p).readFails) (fun i => by rw [Nat.zero_add]) (by omega)
  rw [Nat.zero_mul, List.drop_zero] at hpages
  rw [← hpages]
  simp only [listNames, Prog.op_bind, Prog.play_ask]
  cases hread : (e 0).readFails with
  | true => cases ((slotNames kid kv).length - 1) / kvListLimit <;> simp [listPages, KeyOp.handle, hread]
  | false =>
    have hfirst : (KeyOp.handle issuerKid kv (e 0) (.list kid 0)).1 = .ok ((slotNames kid kv).take kvListLimit,
        ((slotNames kid kv).length - 1) / kvListLimit) := by
      simp [KeyOp.handle, hread]
    rw [hfirst]
    cases hmore : ((slotNames kid kv).length - 1) / kvListLimit with
    | zero => simp [listPages, KeyOp.handle, hread]
    | succ more =>
      simp only [listPages, Prog.op_bind, Prog.play_ask]
      rw [hfirst]

theorem loadKeyRecord_congr {reads reads' : KeyReads} {slot : String} (h : reads.record slot = reads'.record slot) :
    Issuer.loadKeyRecord reads issuerKid kv slot = Issuer.loadKeyRecord reads' issuerKid kv slot := by
  unfold Issuer.loadKeyRecord
  rw [h]

theorem loadKeyRecord_play (slot : String) (e : Nat → KeyTick J) {reads : KeyReads}
    (h : reads.record slot = ⟨(e 0).config, (e 1).readFails⟩) : (loadKeyRecord slot).play (KeyOp.handle issuerKid) e kv =
      (Issuer.loadKeyRecord reads issuerKid kv slot, kv) := by
  simp only [loadKeyRecord, Prog.op_bind, Prog.play_ask, KeyOp.handle, Issuer.loadKeyRecord, h]
  cases (e 0).config.kid issuerKid with
  | error err => rfl
  | ok kid =>
    simp only [Prog.play_ask, KeyOp.handle, Nat.zero_add]
    cases (e 1).readFails <;> rfl

theorem loadKeyRecords_play (kekPair : KekPair) : ∀ (names : List String), names.Nodup → ∀ e : Nat → KeyTick J,
    ∃ record : String → RecordRead, (∀ reads : KeyReads, reads.record = record →
      (loadKeyRecords names).play (KeyOp.handle issuerKid) e kv =
        (names.filterMap (Issuer.loadKeyRecord reads issuerKid kv), kv)) ∧
      ((∀ n, (e n).Calm kekPair) → record = fun _ => ⟨.own, false⟩) := by
  intro names
  induction names with
  | nil => exact fun _ _ => ⟨fun _ => ⟨.own, false⟩, fun _ _ => rfl, fun _ => rfl⟩
  | cons slot names ih =>
    intro hnodup e
    obtain ⟨hslot, hrest⟩ := List.nodup_cons.mp hnodup
    obtain ⟨n, hn⟩ := Prog.play_bind (KeyOp.handle issuerKid)
      (fun found : Option SigningKeyRecord => do
        let records ← loadKeyRecords names
        (pure (found.toList ++ records) : Keys J (List SigningKeyRecord))) (loadKeyRecord slot) e kv
    obtain ⟨record, hrecord, hcalm⟩ := ih hrest fun m => e (m + n)
    refine ⟨Function.update record slot ⟨(e 0).config, (e 1).readFails⟩, fun reads hreads => ?_, fun h => ?_⟩
    · have hfirst : reads.record slot = ⟨(e 0).config, (e 1).readFails⟩ := by rw [hreads, Function.update_self]
      have hnames : names.filterMap (Issuer.loadKeyRecord reads issuerKid kv) =
          names.filterMap (Issuer.loadKeyRecord { reads with record := record } issuerKid kv) := by
        refine List.filterMap_congr fun name hname => loadKeyRecord_congr ?_
        have hne : name ≠ slot := fun h => hslot (h ▸ hname)
        rw [hreads, Function.update_of_ne hne]
      obtain ⟨m, hm⟩ := Prog.play_bind (KeyOp.handle issuerKid)
        (fun records : List SigningKeyRecord =>
          (pure ((Issuer.loadKeyRecord reads issuerKid kv slot).toList ++ records) : Keys J (List SigningKeyRecord)))
        (loadKeyRecords names) (fun m => e (m + n)) kv
      rw [hrecord { reads with record := record } rfl, ← hnames] at hm
      rw [loadKeyRecord_play slot e hfirst] at hn
      refine hn.trans (hm.trans ?_)
      rw [List.filterMap_cons]
      cases Issuer.loadKeyRecord reads issuerKid kv slot <;> rfl
    · rw [hcalm fun m => h _, (h 0).config, (h 1).reads]
      exact Function.update_eq_self slot fun _ => (⟨.own, false⟩ : RecordRead)

theorem slotNames_nodup {kid : String} : (slotNames kid kv).Nodup := by
  refine List.Nodup.filterMap ?_ Std.TreeMap.nodup_keys
  intro a b slot ha hb
  rw [eq_append_of_stripPrefix ha, eq_append_of_stripPrefix hb]

theorem getAllSigningKeys_play (kekPair : KekPair) (e : Nat → KeyTick J) : ∃ reads,
    getAllSigningKeys.play (KeyOp.handle issuerKid) e kv = (Issuer.getAllSigningKeys reads issuerKid kv, kv) ∧
      ((∀ n, (e n).Calm kekPair) → reads = .ok) := by
  let rest : String → Keys J (Except ApiError (List SigningKeyRecord)) := fun kid => (listNames kid).andThen fun names => do
    let keys ← loadKeyRecords names
    pure (.ok keys)
  have hop : (Prog.op KeyOp.config : Keys J _).play (KeyOp.handle issuerKid) e kv = KeyOp.handle issuerKid kv (e 0) .config := rfl
  cases hconfig : (e 0).config.kid issuerKid with
  | error err =>
    simp only [KeyOp.handle, hconfig] at hop
    obtain ⟨n, hn⟩ := andThen_play (f := rest) hop
    refine ⟨⟨(e 0).config, fun _ => false, fun _ => ⟨.own, false⟩⟩, ?_, fun hcalm => by rw [(hcalm 0).config]; rfl⟩
    simp only [Issuer.getAllSigningKeys, hconfig]
    exact hn
  | ok kid =>
    simp only [KeyOp.handle, hconfig] at hop
    obtain ⟨n, hn⟩ := andThen_play (f := rest) hop
    obtain ⟨m, hm⟩ := andThen_play (f := fun names => do
      let keys ← loadKeyRecords names
      pure (.ok keys)) (@listNames_play J issuerKid kv kid fun m => e (m + n))
    obtain ⟨record, hrecord, hown⟩ := @loadKeyRecords_play J issuerKid kv kekPair (slotNames kid kv) slotNames_nodup
      fun i => e (i + m + n)
    refine ⟨⟨(e 0).config, fun p => (e (p + n)).readFails, record⟩, ?_, fun hcalm => ?_⟩
    · rw [getAllSigningKeys, hn]
      refine hm.trans ?_
      simp only [Issuer.getAllSigningKeys, hconfig, bind, Except.bind]
      cases hlist : Issuer.listPages (fun p => (e (p + n)).readFails) 0 (((slotNames kid kv).length - 1) / kvListLimit)
          (slotNames kid kv) with
      | error err => rfl
      | ok all =>
        have hall := listPages_ok hlist
        subst hall
        obtain ⟨k, hk⟩ := Prog.play_bind (KeyOp.handle issuerKid)
          (fun keys : List SigningKeyRecord => (pure (.ok keys) : Keys J (Except ApiError (List SigningKeyRecord))))
          (loadKeyRecords (slotNames kid kv)) (fun i => e (i + m + n)) kv
        rw [hrecord ⟨(e 0).config, fun p => (e (p + n)).readFails, record⟩ rfl] at hk
        exact hk
    · rw [hown fun i => hcalm _, (hcalm 0).config]
      simp only [KeyReads.ok, KeyReads.mk.injEq, true_and, and_true]
      exact funext fun p => (hcalm _).reads

theorem saveKeyMetadata_play (key : SigningKeyRecord) (e : Nat → KeyTick J) :
    (saveKeyMetadata key).play (KeyOp.handle issuerKid) e kv =
      Issuer.saveKeyMetadata ⟨(e 0).config, (e 1).put⟩ issuerKid kv key := by
  simp only [saveKeyMetadata, Keys.andThen, Prog.op_bind, Prog.play_ask, KeyOp.handle, Issuer.saveKeyMetadata, KeyWrite.kid]
  cases (e 0).config.kid issuerKid with
  | error err => rfl
  | ok kid =>
    change KeyOp.handle issuerKid kv (e 1) (.put kid key) = _
    cases hput : (e 1).put with
    | none => simp only [KeyOp.handle, hput]; rfl
    | some err => simp only [KeyOp.handle, hput]; rfl

theorem deprecateKeys_congr {write write' : Nat → KeyWrite} : ∀ {keys : List SigningKeyRecord} {n : Nat} {kv : KeyKv},
    (∀ i, n ≤ i → i < n + (activeKeys keys).length → write i = write' i) →
    Issuer.deprecateKeys write issuerKid n keys kv = Issuer.deprecateKeys write' issuerKid n keys kv := by
  intro keys
  induction keys with
  | nil => intro n kv _; rfl
  | cons k keys ih =>
    intro n kv h
    by_cases hk : k.status = .active
    · have hlen : (activeKeys (k :: keys)).length = (activeKeys keys).length + 1 := by simp [activeKeys, hk]
      simp only [Issuer.deprecateKeys, hk, if_true, h n (le_refl n) (by omega)]
      cases hsave : Issuer.saveKeyMetadata (write' n) issuerKid kv k.deprecate with
      | mk result kv' =>
        cases result with
        | error err => rfl
        | ok u => exact ih fun i hi hlt => h i (by omega) (by omega)
    · have hlen : activeKeys (k :: keys) = activeKeys keys := by simp [activeKeys, hk]
      rw [hlen] at h
      simp only [Issuer.deprecateKeys, hk, if_false]
      exact ih h

theorem deprecateKeys_play (kekPair : KekPair) : ∀ (keys : List SigningKeyRecord) (e : Nat → KeyTick J) (n : Nat) (kv : KeyKv),
    ∃ write : Nat → KeyWrite, (deprecateKeys keys).play (KeyOp.handle issuerKid) e kv =
        ((Issuer.deprecateKeys write issuerKid n keys kv).1.map fun _ => (), (Issuer.deprecateKeys write issuerKid n keys kv).2) ∧
      ((∀ i, (e i).Calm kekPair) → ∀ i, (write i).config = .own) := by
  intro keys
  induction keys with
  | nil => exact fun e n kv => ⟨fun _ => ⟨.own, none⟩, rfl, fun _ _ => rfl⟩
  | cons k keys ih =>
    intro e n kv
    by_cases hk : k.status = .active
    · obtain ⟨m, herror, hok⟩ := @andThen_split J issuerKid _ _ (saveKeyMetadata k.deprecate) (fun () => deprecateKeys keys) e kv
      have hsave := @saveKeyMetadata_play J issuerKid kv k.deprecate e
      simp only [deprecateKeys, hk, if_true]
      cases hresult : Issuer.saveKeyMetadata ⟨(e 0).config, (e 1).put⟩ issuerKid kv k.deprecate with
      | mk result kv' =>
        rw [hresult] at hsave
        cases result with
        | error err =>
          refine ⟨fun _ => ⟨(e 0).config, (e 1).put⟩, ?_, fun hcalm _ => (hcalm 0).config⟩
          rw [herror err kv' hsave]
          simp only [Issuer.deprecateKeys, hk, if_true, hresult, Except.map]
        | ok u =>
          obtain ⟨write, hwrite, hown⟩ := ih (fun i => e (i + m)) (n + 1) kv'
          refine ⟨Function.update write n ⟨(e 0).config, (e 1).put⟩, ?_, fun hcalm i => ?_⟩
          · rw [hok () kv' hsave, hwrite]
            have hlater : Issuer.deprecateKeys (Function.update write n ⟨(e 0).config, (e 1).put⟩) issuerKid (n + 1) keys kv' =
                Issuer.deprecateKeys write issuerKid (n + 1) keys kv' :=
              deprecateKeys_congr fun i hi _ => Function.update_of_ne (by omega) _ _
            simp only [Issuer.deprecateKeys, hk, if_true, Function.update_self, hresult, hlater]
          · by_cases hi : i = n
            · rw [hi, Function.update_self]
              exact (hcalm 0).config
            · rw [Function.update_of_ne hi]
              exact hown (fun j => hcalm _) i
    · simp only [deprecateKeys, Issuer.deprecateKeys, hk, if_false]
      exact ih e n kv

theorem storeEncryptedKey_play {r : Rotation J} {n : Nat} {key : SigningKeyRecord} {e : Nat → KeyTick J}
    (hnonce : r.gcmNonce = (e 0).gcmNonce) (hkek : r.kek = (e 0).kek) (hwrite : r.write n = ⟨(e 1).config, (e 2).put⟩) :
    (storeEncryptedKey A key r.keypair.sk.toList).play (KeyOp.handle issuerKid) e kv =
      Issuer.storeEncryptedKey A r issuerKid n key kv := by
  simp only [storeEncryptedKey, Issuer.storeEncryptedKey, Prog.op_bind, Prog.play_ask, KeyOp.handle, hnonce, hkek]
  cases hseal : sealKey A (e 0).gcmNonce (e 0).kek key r.keypair.sk.toList with
  | error err => rfl
  | ok record =>
    have hsave := @saveKeyMetadata_play J issuerKid kv record fun i => e (i + 1)
    rw [Nat.zero_add] at hsave
    exact hsave.trans (by rw [hwrite])

theorem replaceKeys_play (kekPair : KekPair) {reads : KeyReads} {keys : List SigningKeyRecord} (e : Nat → KeyTick J)
    (hkeys : Issuer.getAllSigningKeys reads issuerKid kv = .ok keys) : ∃ r : Rotation J, r.reads = reads ∧
      (replaceKeys A keys).play (KeyOp.handle issuerKid) e kv = Issuer.rotateSigningKeyInner A r issuerKid kv ∧
      ((∀ n, (e n).Calm kekPair) → r.kek = .ok kekPair ∧ ∀ i, (r.write i).config = .own) := by
  let key := newSigningKey (e 0).keypair (e 0).now (nextVersionFromKeys keys)
  let store : Keys J (Except ApiError SigningKeyRecord) :=
    (storeEncryptedKey A key (e 0).keypair.sk.toList).andThen fun () => pure (.ok key)
  have hplay : (replaceKeys A keys).play (KeyOp.handle issuerKid) e kv =
      ((deprecateKeys keys).andThen fun () => store).play (KeyOp.handle issuerKid) (fun n => e (n + 1)) kv := rfl
  obtain ⟨n, herror, hok⟩ := @andThen_split J issuerKid _ _ (deprecateKeys keys) (fun () => store) (fun n => e (n + 1)) kv
  obtain ⟨write, hdeprecate, hown⟩ := @deprecateKeys_play J issuerKid kekPair keys (fun n => e (n + 1)) 0 kv
  -- the save after the deprecations is the one of the new key
  let last : KeyWrite := ⟨(e (1 + n + 1)).config, (e (2 + n + 1)).put⟩
  let r : Rotation J := ⟨reads, (e 0).keypair, (e (0 + n + 1)).gcmNonce, (e (0 + n + 1)).kek, (e 0).now,
    Function.update write (activeKeys keys).length last⟩
  refine ⟨r, rfl, ?_, fun hcalm => ⟨(hcalm _).kek, fun i => ?_⟩⟩
  · have hsame : Issuer.deprecateKeys r.write issuerKid 0 keys kv = Issuer.deprecateKeys write issuerKid 0 keys kv :=
      deprecateKeys_congr fun i _ hi => Function.update_of_ne (by omega) _ _
    rw [hplay]
    have hloaded : Issuer.getAllSigningKeys r.reads issuerKid kv = .ok keys := hkeys
    simp only [Issuer.rotateSigningKeyInner, hloaded, hsame]
    obtain ⟨_, _, -, -, hcount⟩ := deprecateKeys_spec write issuerKid keys 0 kv
    cases hresult : Issuer.deprecateKeys write issuerKid 0 keys kv with
    | mk result kv' =>
      rw [hresult] at hdeprecate hcount
      cases result with
      | error err => exact herror err kv' hdeprecate
      | ok m =>
        rw [hok () kv' hdeprecate]
        have hm : m = (activeKeys keys).length := by rw [(hcount m rfl).2, Nat.zero_add]
        have hwrite : r.write m = last := by rw [hm]; exact Function.update_self ..
        have hstore : (storeEncryptedKey A key (e 0).keypair.sk.toList).play (KeyOp.handle issuerKid) (fun m => e (m + n + 1)) kv' =
            Issuer.storeEncryptedKey A r issuerKid m key kv' :=
          @storeEncryptedKey_play A J issuerKid kv' r m key (fun m => e (m + n + 1)) rfl rfl hwrite
        have hkey : r.newKey (nextVersionFromKeys keys) = key := rfl
        cases hs : Issuer.storeEncryptedKey A r issuerKid m key kv' with
        | mk result kv'' =>
          rw [hs] at hstore
          obtain ⟨l, hl⟩ := andThen_play (f := fun () => (pure (.ok key) : Keys J (Except ApiError SigningKeyRecord))) hstore
          refine hl.trans ?_
          dsimp only
          rw [hkey, hs]
          cases result <;> rfl
  · by_cases hi : i = (activeKeys keys).length
    · rw [hi, show r.write (activeKeys keys).length = last from Function.update_self ..]
      exact (hcalm _).config
    · rw [show r.write i = write i from Function.update_of_ne hi ..]
      exact hown (fun j => hcalm _) i

/-- **Alone**, the operations make up `rotateSigningKeyInner`. -/
theorem rotateSigningKeyInner_play (kekPair : KekPair) (e : Nat → KeyTick J) : ∃ r : Rotation J,
    (rotateSigningKeyInner A).play (KeyOp.handle issuerKid) e kv = Issuer.rotateSigningKeyInner A r issuerKid kv ∧
      ((∀ n, (e n).Calm kekPair) → Smooth kekPair r) := by
  obtain ⟨reads, hreads, hcalm⟩ := @getAllSigningKeys_play J issuerKid kv kekPair e
  obtain ⟨n, hn⟩ := andThen_play (f := fun existingKeys => replaceKeys A existingKeys) hreads
  cases hkeys : Issuer.getAllSigningKeys reads issuerKid kv with
  | error err =>
    rw [hkeys] at hn
    refine ⟨⟨reads, (e 0).keypair, (e 0).gcmNonce, (e 0).kek, 0, fun _ => ⟨.own, none⟩⟩, ?_,
      fun h => ⟨hcalm h, (h 0).kek, fun _ _ => nofun⟩⟩
    simp only [Issuer.rotateSigningKeyInner, hkeys]
    exact hn
  | ok keys =>
    rw [hkeys] at hn
    obtain ⟨r, rfl, hplay, hkek⟩ := @replaceKeys_play A J issuerKid kv kekPair reads keys (fun m => e (m + n)) hkeys
    refine ⟨r, hn.trans hplay, fun h => ?_⟩
    obtain ⟨hpair, hown⟩ := hkek fun m => h _
    exact ⟨hcalm h, hpair, fun i kid => by rw [hown i]; nofun⟩

end

/-! ## Requests stay outside until they have the lock -/

section
variable {A : AesGcm} {J : RedJubjub}

def KeyOp.Reads : KeyOp → Prop
  | .put .. => False
  | .config | .list .. | .get .. | .generate | .kek => True

theorem reads_handle {issuerKid : String} {kv : KeyKv} {t : KeyTick J} {o : KeyOp} (ho : o.Reads) :
    (KeyOp.handle issuerKid kv t o).2 = kv := by
  cases o with
  | put kid key => exact ho.elim
  | config | list kid page | get kid slot | generate | kek => rfl

abbrev Reading {α : Type} (p : Keys J α) : Prop := p.Safe KeyOp.Reads (fun _ _ => True) fun _ => True

theorem andThen_reading {α β : Type} {p : Keys J (Except ApiError α)} {f : α → Keys J (Except ApiError β)} (hp : Reading p)
    (hf : ∀ a, Reading (f a)) : Reading (p.andThen f) := by
  refine Prog.safe_bind _ hp fun result _ => ?_
  cases result with
  | error e => exact trivial
  | ok a => exact hf a

theorem listPages_reading (kid : String) (more : Nat) : ∀ page, Reading (listPages kid more page : Keys J _) := by
  induction more with
  | zero =>
    intro page
    refine Prog.safe_op trivial fun result _ => ?_
    cases result <;> exact trivial
  | succ more ih =>
    intro page
    refine Prog.safe_op trivial fun result _ => ?_
    cases result with
    | error u => exact trivial
    | ok names => exact Prog.safe_bind _ (ih (page + 1)) fun _ _ => trivial

theorem loadKeyRecord_reading (slot : String) : Reading (loadKeyRecord slot : Keys J _) := by
  refine Prog.safe_op trivial fun config _ => ?_
  cases config with
  | error e => exact trivial
  | ok kid =>
    refine Prog.safe_op trivial fun stored _ => ?_
    cases stored <;> exact trivial

theorem loadKeyRecords_reading (names : List String) : Reading (loadKeyRecords names : Keys J _) := by
  induction names with
  | nil => exact trivial
  | cons slot names ih =>
    exact Prog.safe_bind _ (loadKeyRecord_reading slot) fun _ _ => Prog.safe_bind _ ih fun _ _ => trivial

theorem getAllSigningKeys_reading : Reading (getAllSigningKeys : Keys J _) := by
  refine andThen_reading (Prog.safe_op trivial fun _ _ => trivial) fun kid => andThen_reading ?_ fun names =>
    Prog.safe_bind _ (loadKeyRecords_reading names) fun _ _ => trivial
  refine Prog.safe_op trivial fun result _ => ?_
  rcases result with u | ⟨names, _ | more⟩
  · exact trivial
  · exact trivial
  · exact Prog.safe_bind _ (listPages_reading kid more 1) fun _ _ => trivial

/-- A reply that names a key is the result of a rotation. -/
def Told (_ : Nat) (result : Option (Except ApiError SigningKeyRecord)) : RotationReply → Prop
  | .refused _ => True
  | .rotated _ key => result = some (.ok key)

abbrev rotationSetting (J : RedJubjub) (lib : AdminLib) (issuerKid : String) (token : Nat → String) :
    Lease.Setting (LockedWorld KeyKv) KeyKv Int (LockedOp KeyOp) KeyOp (LockedTick (KeyTick J)) LockAlarm
      (LockedOp.Ans (KeyOp.Ans J)) (KeyOp.Ans J) :=
  lockSetting lib (KeyOp.handle issuerKid) KeyOp.Reads rotationLock token

theorem rotateSigningKey_enters {lib : AdminLib} {issuerKid : String} {token : Nat → String} {i : Nat} {call : RotationCall}
    (htoken : call.token = token i) :
    Lease.Enters (rotationSetting J lib issuerKid token) (fun _ => rotateSigningKeyInner A) Told i (rotateSigningKey A call) := by
  have hlock : rotationLock.toList.take 2 ≠ ['a', 'u'] := by decide
  refine Lease.enters_bind ?_ _ (Prog.safe_lift ?_ ?_ _ (@admitRotation_apart _ (token i) hlock .keyRotate _))
  · intro admitted
    cases admitted with
    | error refusal => exact .ret trivial
    | ok slot =>
      refine Lease.enters_bind ?_ _ (Prog.safe_lift ?_ ?_ _ getAllSigningKeys_reading)
      · intro keys
        cases keys with
        | error e => exact .ret trivial
        | ok keys =>
          refine .outer (show requestLock ≠ rotationLock by decide) fun answer => ?_
          cases answer with
          | error e => exact .ret trivial
          | ok requestToken =>
            unfold rotateUnderLock
            rw [htoken]
            let post : Except ApiError SigningKeyRecord → Rotations J RotationReply := fun result => do
              let () ← Locked.release rotationLock (token i)
              let () ← Locked.release requestLock requestToken
              rotationReply slot result
            refine @Lease.Enters.enter _ _ _ _ _ _ _ _ _ _ _ _ _ _ _ _ post ?_ ?_ ?_
            · intro result
              refine Prog.safe_op (fun _ => rfl) fun _ _ => Prog.safe_op (fun h => absurd h (by decide)) fun _ _ => ?_
              cases result with
              | error e => exact trivial
              | ok key => exact Prog.safe_op trivial fun _ _ => rfl
            · exact Prog.bind_assoc (fun result => do
                let () ← Locked.release rotationLock (token i)
                pure result) (fun result => do
                  let () ← Locked.release requestLock requestToken
                  rotationReply slot result) (Locked.data (rotateSigningKeyInner A))
            · intro answer hanswer
              cases answer with
              | ok answer => exact absurd (hanswer.symm.trans (beq_self_eq_true rotationLock)) Bool.false_ne_true
              | error e =>
                refine .outer (fun h => absurd h (by decide)) fun _ => .ret trivial
      · exact fun _ ho => ho
      · exact fun _ _ _ => trivial
  · exact fun _ ho => ho
  · exact fun _ _ _ => trivial

end

/-! ## Blocks are rotations -/

section
variable {J : RedJubjub} [Inhabited (Keypair J)] {issuerKid : String}

/-- Reads succeed, writes fail. -/
def stalled (kekPair : KekPair) : KeyTick J := ⟨.own, false, default, .ok kekPair, Vector.replicate 12 0, 0, some .json⟩

theorem stalled_handle (kekPair : KekPair) (kv : KeyKv) (o : KeyOp) :
    (KeyOp.handle issuerKid kv (stalled kekPair : KeyTick J) o).2 = kv := by
  cases o with
  | config | list kid page | get kid slot | generate | kek | put kid key => rfl

/-- A block is a rotation, which may be one whose later writes fail. -/
theorem block_rotation (A : AesGcm) (lib : AdminLib) (issuerKid : String) (token : Nat → String) (kekPair : KekPair) (kv : KeyKv)
    (i : Nat) (es : List (LockedTick (KeyTick J))) : ∃ r : Rotation J, ((∀ t ∈ es, t.data.Calm kekPair) → Smooth kekPair r) ∧
      Lease.Amounts (rotationSetting J lib issuerKid token) (fun kv r => Issuer.rotateSigningKeyInner A r issuerKid kv)
        (fun _ => rotateSigningKeyInner A) kv i es r := by
  obtain ⟨e, hticks, hdata, hresult⟩ := Lease.feed_alone (@stalled_handle J _ issuerKid kekPair)
    (es.map LockedTick.data) (rotateSigningKeyInner A) kv
  obtain ⟨r, hplay, hsmooth⟩ := @rotateSigningKeyInner_play A J issuerKid kv kekPair e
  rw [hplay, ← feed_data] at hdata
  rw [hplay, ← feed_data] at hresult
  refine ⟨r, fun hcalm => hsmooth fun n => ?_, hdata, hresult⟩
  rcases hticks n with hmem | hdead
  · obtain ⟨t, ht, heq⟩ := List.mem_map.mp hmem
    exact heq ▸ hcalm t ht
  · exact hdead ▸ ⟨rfl, rfl, rfl⟩

end

end RotationPool

end Issuer
