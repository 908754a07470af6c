import Issuer.KekTool
import Issuer.Lib.Except

/-!
# What a rotation of the key encryption key does to the stored records

`stageEntry_cases` says what Phase 1 makes of an entry: skipped, refused because a field does not
open under the old key, or re-encrypted field by field with everything else kept. `kekPuts_eq` says
what a run writes: for each configured namespace all staged entries, or none if one was refused.
-/

namespace Issuer.Tool

open Rust Store Batch

section
variable (A : AesGcm) (r : RotateKek)

/-! ## Fields -/

def FieldOpens (kek : Bytes) (record : Table String Json) (field : EncryptedField) : Prop :=
  field.optional = true ∧ fieldValue record[field.jsonKey]? = .absent ∨
    ∃ form data plaintext, fieldValue record[field.jsonKey]? = .bytes form data ∧
      aesGcmDecrypt A kek data (field.aad.bytes record) = some plaintext

/-- Bytes that are encrypted anew, so that the worker opens them under the new key. -/
def Rewrapped (aad data data' : Bytes) : Prop :=
  ∃ plaintext nonce, aesGcmDecrypt A r.oldKek data aad = some plaintext ∧
    data' = aesGcmEncrypt A nonce r.newKek plaintext aad ∧ decryptWithKek A r.newKek data' aad = .ok plaintext

/-- The field is encrypted anew, for the same AAD and in the same form. -/
def FieldReencrypted (record record' : Table String Json) (field : EncryptedField) : Prop :=
  field.optional = true ∧ fieldValue record[field.jsonKey]? = .absent ∧
      record'[field.jsonKey]? = record[field.jsonKey]? ∨
    ∃ form data data', fieldValue record[field.jsonKey]? = .bytes form data ∧
      fieldValue record'[field.jsonKey]? = .bytes form data' ∧ field.aad.bytes record' = field.aad.bytes record ∧
      Rewrapped A r (field.aad.bytes record) data data'

@[simp] theorem fieldValue_render (form : Form) (data : Bytes) :
    fieldValue (some (form.render data)) = .bytes form data := by
  cases form with
  | text => simp [Form.render, fieldValue]
  | array =>
    have h : (data.map fun b => Json.num b.toNat).mapM Json.asU8 = some data := Json.asBytes_ofBytes data
    simp [Form.render, fieldValue, Json.ofBytes, h]

theorem aad_congr {record record' : Table String Json} (h : record'["version"]? = record["version"]?) (aad : AadSource) :
    aad.bytes record' = aad.bytes record := by
  cases aad with
  | fixed _ => rfl
  | signingKeyVersion => simp [AadSource.bytes, h]

theorem fieldOpens_congr {kek : Bytes} {record record' : Table String Json} {field : EncryptedField}
    (hversion : record'["version"]? = record["version"]?) (hkey : record'[field.jsonKey]? = record[field.jsonKey]?) :
    FieldOpens A kek record' field ↔ FieldOpens A kek record field := by
  unfold FieldOpens
  rw [hkey, aad_congr hversion]

variable {A r}

/-- Both sides may be replaced by records with the same version and the same field. -/
theorem fieldReencrypted_congr {record record' record'' : Table String Json} {field : EncryptedField}
    (h : FieldReencrypted A r record record' field) (hversion : record''["version"]? = record'["version"]?)
    (hkey : record''[field.jsonKey]? = record'[field.jsonKey]?) : FieldReencrypted A r record record'' field := by
  unfold FieldReencrypted at h ⊢
  rw [hkey, aad_congr hversion]
  exact h

theorem fieldReencrypted_trans {record record' record'' : Table String Json} {field : EncryptedField}
    (hversion : record'["version"]? = record["version"]?) (hkey : record'[field.jsonKey]? = record[field.jsonKey]?)
    (h : FieldReencrypted A r record' record'' field) : FieldReencrypted A r record record'' field := by
  unfold FieldReencrypted at h ⊢
  rw [hkey, aad_congr hversion] at h
  exact h

section
variable (hA : A.Lawful) (hnew : r.newKek.length = 32) (hrotate : r.verifyOnly = false)
  (nonce : String → Vector UInt8 12)

include hrotate in
theorem reencryptField_of_not_opens {acc : Table String Json × Bool} {field : EncryptedField}
    (h : ¬FieldOpens A r.oldKek acc.1 field) : reencryptField A r nonce acc field = (acc.1, true) := by
  unfold reencryptField
  unfold FieldOpens at h
  split
  · rename_i habsent
    split
    · rename_i hopt
      exact absurd (.inl ⟨hopt, habsent⟩) h
    · rfl
  · rfl
  · rename_i form data hdata
    simp only [hrotate, Bool.false_eq_true, if_false]
    split
    · rfl
    · rename_i plaintext hplain
      exact absurd (.inr ⟨form, data, plaintext, hdata, hplain⟩) h

include hA hnew hrotate in
theorem reencryptField_of_opens {acc : Table String Json × Bool} {field : EncryptedField} (hv : field.jsonKey ≠ "version")
    (h : FieldOpens A r.oldKek acc.1 field) :
    (reencryptField A r nonce acc field).2 = acc.2 ∧
      (∀ name ≠ field.jsonKey, (reencryptField A r nonce acc field).1[name]? = acc.1[name]?) ∧
      FieldReencrypted A r acc.1 (reencryptField A r nonce acc field).1 field := by
  unfold reencryptField
  rcases h with ⟨hopt, habsent⟩ | ⟨form, data, plaintext, hdata, hplain⟩
  · simp only [habsent, hopt, if_true]
    exact ⟨trivial, fun _ _ => trivial, .inl ⟨hopt, habsent, rfl⟩⟩
  · simp only [hdata, hrotate, Bool.false_eq_true, if_false, hplain]
    refine ⟨trivial, fun name hname => insert_get_of_ne _ (Ne.symm hname) _, .inr ⟨form, data, ?_⟩⟩
    refine ⟨aesGcmEncrypt A (nonce field.jsonKey) r.newKek plaintext (field.aad.bytes acc.1), hdata, ?_, ?_, plaintext, _, hplain,
      rfl, decryptWithKek_aesGcmEncrypt hA hnew _ _ _⟩
    · rw [insert_get, if_pos rfl, fieldValue_render]
    · exact aad_congr (insert_get_of_ne _ hv _) _

include hA hnew hrotate in
theorem reencryptField_get {acc : Table String Json × Bool} {field : EncryptedField} (hv : field.jsonKey ≠ "version")
    {name : String} (hname : name ≠ field.jsonKey) : (reencryptField A r nonce acc field).1[name]? = acc.1[name]? := by
  by_cases h : FieldOpens A r.oldKek acc.1 field
  · exact (reencryptField_of_opens hA hnew hrotate nonce hv h).2.1 name hname
  · rw [reencryptField_of_not_opens hrotate nonce h]

structure FieldsRun (fields : List EncryptedField) (record : Table String Json) (flag : Bool)
    (out : Table String Json × Bool) : Prop where
  failed : out.2 = true ↔ flag = true ∨ ∃ field ∈ fields, ¬FieldOpens A r.oldKek record field
  others : ∀ name ∉ fields.map EncryptedField.jsonKey, out.1[name]? = record[name]?
  fields : ∀ field ∈ fields, FieldOpens A r.oldKek record field → FieldReencrypted A r record out.1 field

include hA hnew hrotate in
theorem foldl_reencryptField : ∀ (fields : List EncryptedField) (record : Table String Json) (flag : Bool),
    (fields.map EncryptedField.jsonKey).Nodup → "version" ∉ fields.map EncryptedField.jsonKey →
    FieldsRun (A := A) (r := r) fields record flag (fields.foldl (reencryptField A r nonce) (record, flag))
  | [], record, flag, _, _ => ⟨by simp, fun _ _ => rfl, fun _ h => absurd h List.not_mem_nil⟩
  | field :: fields, record, flag, hnd, hv => by
    rw [List.map_cons, List.nodup_cons] at hnd
    rw [List.map_cons, List.mem_cons, not_or] at hv
    have hkey : field.jsonKey ≠ "version" := Ne.symm hv.1
    have hget : ∀ {name : String}, name ≠ field.jsonKey →
        (reencryptField A r nonce (record, flag) field).1[name]? = record[name]? :=
      fun h => reencryptField_get hA hnew hrotate nonce hkey h
    have hne : ∀ f ∈ fields, f.jsonKey ≠ field.jsonKey :=
      fun f hf he => hnd.1 (he ▸ List.mem_map_of_mem hf)
    have hopens : ∀ f ∈ fields, FieldOpens A r.oldKek (reencryptField A r nonce (record, flag) field).1 f ↔
        FieldOpens A r.oldKek record f :=
      fun f hf => fieldOpens_congr A (hget hv.1) (hget (hne f hf))
    have ih := foldl_reencryptField fields (reencryptField A r nonce (record, flag) field).1
      (reencryptField A r nonce (record, flag) field).2 hnd.2 hv.2
    rw [List.foldl_cons]
    refine ⟨?_, ?_, ?_⟩
    · have hflag : (reencryptField A r nonce (record, flag) field).2 = true ↔
          flag = true ∨ ¬FieldOpens A r.oldKek record field := by
        by_cases h : FieldOpens A r.oldKek record field
        · rw [(reencryptField_of_opens hA hnew hrotate nonce hkey h).1]
          simp [h]
        · rw [reencryptField_of_not_opens hrotate nonce h]
          simp [h]
      rw [ih.failed, hflag]
      simp only [List.mem_cons, exists_eq_or_imp, or_assoc]
      refine or_congr_right (or_congr_right (exists_congr fun f => and_congr_right fun hf => ?_))
      rw [hopens f hf]
    · intro name hname
      rw [List.map_cons, List.mem_cons, not_or] at hname
      rw [ih.others name hname.2, hget hname.1]
    · intro f hf hopen
      rcases List.mem_cons.mp hf with rfl | hf
      · have hfirst : FieldOpens A r.oldKek (record, flag).1 f := hopen
        exact fieldReencrypted_congr (reencryptField_of_opens hA hnew hrotate nonce hkey hfirst).2.2
          (ih.others _ hv.2) (ih.others _ hnd.1)
      · refine fieldReencrypted_trans (hget hv.1) (hget (hne f hf)) (ih.fields f hf ?_)
        rw [hopens f hf]
        exact hopen

end

/-! ## Entries -/

/-- A JSON record without the flag, which the tool takes for plaintext. -/
def Skipped (ns : EncryptedNamespace) : Cell Json → Prop
  | .garbled => False
  | .record j => ns.isSessionNs = false ∧ ns.requiresEncryptedFlag = true ∧ encryptedFlag j.entries = false

def SessionOpens (A : AesGcm) (kek : Bytes) (j : Json) : Prop :=
  ∃ rawValue data plaintext, j = .str rawValue ∧ Base64.decode rawValue = some data ∧
    aesGcmDecrypt A kek data sessionAad = some plaintext

/-- Everything the table lists for an entry opens. -/
def Opens (A : AesGcm) (kek : Bytes) (ns : EncryptedNamespace) : Cell Json → Prop
  | .garbled => False
  | .record j =>
    if ns.isSessionNs then SessionOpens A kek j else ∀ field ∈ ns.fields, FieldOpens A kek j.entries field

def SessionReencrypted (A : AesGcm) (r : RotateKek) (j j' : Json) : Prop :=
  ∃ rawValue rawValue' data data', j = .str rawValue ∧ j' = .str rawValue' ∧
    Base64.decode rawValue = some data ∧ Base64.decode rawValue' = some data' ∧ Rewrapped A r sessionAad data data'

/-- The listed fields are re-encrypted, every other member is as it was. -/
structure RecordReencrypted (A : AesGcm) (r : RotateKek) (ns : EncryptedNamespace) (record record' : Table String Json) :
    Prop where
  fields : ∀ field ∈ ns.fields, FieldReencrypted A r record record' field
  others : ∀ name ∉ ns.fields.map EncryptedField.jsonKey, record'[name]? = record[name]?

def Reencrypted (A : AesGcm) (r : RotateKek) (ns : EncryptedNamespace) : Cell Json → Cell Json → Prop
  | .record j, .record j' =>
    if ns.isSessionNs then SessionReencrypted A r j j' else j'.Distinct ∧ RecordReencrypted A r ns j.entries j'.entries
  | _, _ => False

/-- What the field loop relies on. -/
structure EncryptedNamespace.WellFormed (ns : EncryptedNamespace) : Prop where
  distinct : (ns.fields.map EncryptedField.jsonKey).Nodup
  version : "version" ∉ ns.fields.map EncryptedField.jsonKey
  flag : "encrypted" ∉ ns.fields.map EncryptedField.jsonKey
  required : ns.isSessionNs = false → ∃ field ∈ ns.fields, field.optional = false

theorem mem_encryptedNamespaces_true {includeSessions : Bool} {ns : EncryptedNamespace}
    (h : ns ∈ encryptedNamespaces includeSessions) : ns ∈ encryptedNamespaces true := by
  cases includeSessions with
  | true => exact h
  | false =>
    simp only [encryptedNamespaces, Bool.false_eq_true, if_false, List.append_nil] at h
    exact List.mem_append_left _ h

theorem wellFormed_of_mem {includeSessions : Bool} {ns : EncryptedNamespace}
    (h : ns ∈ encryptedNamespaces includeSessions) : ns.WellFormed := by
  have hall : ∀ ns ∈ encryptedNamespaces true, (ns.fields.map EncryptedField.jsonKey).Nodup ∧
      "version" ∉ ns.fields.map EncryptedField.jsonKey ∧ "encrypted" ∉ ns.fields.map EncryptedField.jsonKey ∧
      (ns.isSessionNs = false → ∃ field ∈ ns.fields, field.optional = false) := by decide
  obtain ⟨hdistinct, hversion, hflag, hrequired⟩ := hall ns (mem_encryptedNamespaces_true h)
  exact ⟨hdistinct, hversion, hflag, hrequired⟩

section
variable (hA : A.Lawful) (hnew : r.newKek.length = 32) (hrotate : r.verifyOnly = false) {ns : EncryptedNamespace}

include hA hnew hrotate in
theorem reEncryptSessionBlob_of_opens (nonce : Vector UInt8 12) {j : Json} (h : SessionOpens A r.oldKek j) :
    ∃ blob, j.asStr.bind (reEncryptSessionBlob A r nonce) = some (some blob) ∧ SessionReencrypted A r j (.str blob) := by
  obtain ⟨rawValue, data, plaintext, rfl, hdata, hplain⟩ := h
  refine ⟨Base64.encode (aesGcmEncrypt A nonce r.newKek plaintext sessionAad), ?_, rawValue, _, data, _, rfl, rfl,
    hdata, Base64.decode_encode _, plaintext, _, hplain, rfl, decryptWithKek_aesGcmEncrypt hA hnew _ _ _⟩
  simp [Json.asStr, reEncryptSessionBlob, hdata, hrotate, hplain]

include hrotate in
theorem reEncryptSessionBlob_of_not_opens (nonce : Vector UInt8 12) {j : Json} (h : ¬SessionOpens A r.oldKek j) :
    j.asStr.bind (reEncryptSessionBlob A r nonce) = none := by
  cases j with
  | str rawValue =>
    cases hdata : Base64.decode rawValue with
    | none => simp [Json.asStr, reEncryptSessionBlob, hdata]
    | some data =>
      cases hplain : aesGcmDecrypt A r.oldKek data sessionAad with
      | none => simp [Json.asStr, reEncryptSessionBlob, hdata, hrotate, hplain]
      | some plaintext => exact absurd ⟨rawValue, data, plaintext, rfl, hdata, hplain⟩ h
  | _ => rfl

include hA hnew hrotate in
theorem stageEntry_cases (hns : ns.WellFormed) (key : String) (cell : Cell Json) :
    Skipped ns cell ∧ stageEntry A r ns key cell = .skip ∨
      ¬Skipped ns cell ∧ ¬Opens A r.oldKek ns cell ∧ stageEntry A r ns key cell = .fail ∨
      ¬Skipped ns cell ∧ Opens A r.oldKek ns cell ∧
        ∃ cell', stageEntry A r ns key cell = .put cell' ∧ Reencrypted A r ns cell cell' := by
  cases cell with
  | garbled => exact .inr (.inl ⟨id, id, rfl⟩)
  | record j =>
    simp only [Skipped, Opens, stageEntry]
    cases hs : ns.isSessionNs with
    | true =>
      simp only [Bool.true_eq_false, false_and, not_false_eq_true, true_and, if_true, false_or]
      by_cases hopen : SessionOpens A r.oldKek j
      · obtain ⟨blob, hblob, hre⟩ := reEncryptSessionBlob_of_opens hA hnew hrotate (r.nonces ns.namespaceId key "") hopen
        refine .inr ⟨hopen, .record (.str blob), by rw [hblob], ?_⟩
        simp only [Reencrypted, hs, if_true]
        exact hre
      · refine .inl ⟨hopen, ?_⟩
        rw [reEncryptSessionBlob_of_not_opens hrotate _ hopen]
    | false =>
      simp only [true_and, Bool.false_eq_true, if_false]
      by_cases hskip : ns.requiresEncryptedFlag = true ∧ encryptedFlag j.entries = false
      · exact .inl ⟨hskip, by simp [hskip.1, hskip.2]⟩
      · have hflag : (ns.requiresEncryptedFlag && !encryptedFlag j.entries) = false := by
          cases hreq : ns.requiresEncryptedFlag <;> simp_all
        have hrun := foldl_reencryptField hA hnew hrotate (r.nonces ns.namespaceId key) ns.fields j.entries false
          hns.distinct hns.version
        refine .inr ?_
        simp only [hskip, not_false_eq_true, true_and, hflag, Bool.false_eq_true, if_false, hrotate]
        by_cases hopen : ∀ field ∈ ns.fields, FieldOpens A r.oldKek j.entries field
        · have hok : (ns.fields.foldl (reencryptField A r (r.nonces ns.namespaceId key)) (j.entries, false)).2 = false := by
            refine Bool.eq_false_iff.mpr fun ht => ?_
            rcases hrun.failed.mp ht with hf | ⟨field, hf, hno⟩
            · cases hf
            · exact hno (hopen field hf)
          refine .inr ⟨hopen, _, by rw [if_neg (by simp [hok])], ?_⟩
          simp only [Reencrypted, hs, Bool.false_eq_true, if_false]
          refine ⟨Json.distinct_ofEntries _, fun field hf => ?_, fun name hname => ?_⟩
          · exact fieldReencrypted_congr (hrun.fields field hf (hopen field hf)) (Json.entries_ofEntries_get _ _)
              (Json.entries_ofEntries_get _ _)
          · rw [Json.entries_ofEntries_get, hrun.others name hname]
        · have hfail : (ns.fields.foldl (reencryptField A r (r.nonces ns.namespaceId key)) (j.entries, false)).2 = true := by
            rw [hrun.failed]
            simpa using hopen
          exact .inl ⟨hopen, by rw [if_pos hfail]⟩

end

/-! ## The writes of a run -/

@[simp] theorem puts_nil : puts [] = [] := rfl

@[simp] theorem puts_append (ops ops' : List KvOp) : puts (ops ++ ops') = puts ops ++ puts ops' :=
  List.filterMap_append

@[simp] theorem puts_list (ns : NamespaceId) (ops : List KvOp) : puts (.list ns :: ops) = puts ops := rfl

@[simp] theorem puts_get (ns : NamespaceId) (key : String) (ops : List KvOp) : puts (.get ns key :: ops) = puts ops := rfl

@[simp] theorem puts_put (ns : NamespaceId) (key : String) (value : Cell Json) (ops : List KvOp) :
    puts (.put ns key value :: ops) = (ns, key, value) :: puts ops := rfl

theorem run_eq_commit {α : Type} : ∀ (p : ToolProg α) (store : KvStore),
    (p.run kvStep () store).2 = commit store (puts (p.trace kvStep () store))
  | .ret _, _ => rfl
  | .ask (.list _) k, store => run_eq_commit (k _) store
  | .ask (.get _ _) k, store => run_eq_commit (k _) store
  | .ask (.put _ _ _) k, _ => run_eq_commit (k ()) _

theorem after_eq_commit {α : Type} : ∀ (n : Nat) (p : ToolProg α) (store : KvStore),
    p.after kvStep () n store = commit store (puts ((p.trace kvStep () store).take n))
  | 0, _, _ => rfl
  | _ + 1, .ret _, _ => rfl
  | n + 1, .ask (.list _) k, store => after_eq_commit n (k _) store
  | n + 1, .ask (.get _ _) k, store => after_eq_commit n (k _) store
  | n + 1, .ask (.put _ _ _) k, _ => after_eq_commit n (k ()) _

/-- A run that stops after some requests has made some of its writes, the first ones. -/
theorem after_eq_interrupted (n : Nat) (store : KvStore) :
    ∃ k, (rotateKek A r).after kvStep () n store = interrupted A r k store := by
  refine ⟨(puts (((rotateKek A r).trace kvStep () store).take n)).length, ?_⟩
  rw [after_eq_commit, interrupted, kekPuts]
  generalize (rotateKek A r).trace kvStep () store = ops
  have hsplit : puts ops = puts (ops.take n) ++ puts (ops.drop n) := by
    rw [← puts_append, List.take_append_drop]
  rw [hsplit, List.take_left]

variable (A r) (store : KvStore) (ns : EncryptedNamespace)

def matchingKeys : List String := (store ns.namespaceId).keys.filter (hasPrefix ns.keyPrefix)

def nsFailed : List String := failed (stageEntry A r ns) (store ns.namespaceId) (matchingKeys store ns)

def nsWrites : List (NamespaceId × String × Cell Json) :=
  if !r.configured ns.namespaceId || r.verifyOnly then []
  else (writes (stageEntry A r ns) (store ns.namespaceId) (matchingKeys store ns)).map fun w => (ns.namespaceId, w)

theorem stageKeys_run : ∀ (keys : List String) (s : Staging), (stageKeys A r ns keys s).run kvStep () store =
    (⟨s.writes ++ staged (stageEntry A r ns) (store ns.namespaceId) keys,
      s.failedEntries ++ (failed (stageEntry A r ns) (store ns.namespaceId) keys).map (ns.label ++ ":" ++ ·)⟩, store)
  | [], s => by simp [stageKeys, staged, failed]
  | key :: keys, s => by
    have hstep : (stageKeys A r ns (key :: keys) s).run kvStep () store =
        (stageKeys A r ns keys (stageValue A r ns key s (store ns.namespaceId)[key]?)).run kvStep () store := rfl
    rw [hstep, stageKeys_run keys]
    simp only [staged, failed, decisionOf, List.filterMap_cons, List.filter_cons]
    cases hv : (store ns.namespaceId)[key]? with
    | none => simp [stageValue]
    | some v => cases hd : stageEntry A r ns key v <;> simp [stageValue, Staging.add, hd]

theorem stageKeys_puts : ∀ (keys : List String) (s : Staging),
    puts ((stageKeys A r ns keys s).trace kvStep () store) = []
  | [], _ => rfl
  | _ :: keys, _ => stageKeys_puts keys _

theorem commitWrites_puts : ∀ (ws : List (String × Cell Json)) (store : KvStore),
    puts ((commitWrites ns ws).trace kvStep () store) = ws.map fun w => (ns.namespaceId, w)
  | [], _ => rfl
  | _ :: ws, _ => congrArg (_ :: ·) (commitWrites_puts ws _)

theorem commitStaged_puts (hc : r.configured ns.namespaceId = true) :
    puts ((commitStaged r ns ((stageKeys A r ns (matchingKeys store ns) ⟨[], []⟩).run kvStep () store).1).trace kvStep () store) =
      nsWrites A r store ns := by
  simp only [commitStaged, stageKeys_run, List.nil_append, List.isEmpty_map, nsWrites, hc, Bool.not_true, Bool.false_or, writes]
  cases r.verifyOnly with
  | true => simp
  | false =>
    by_cases hf : failed (stageEntry A r ns) (store ns.namespaceId) (matchingKeys store ns) = []
    · simp [hf, commitWrites_puts]
    · simp [hf]

theorem nsWrites_congr {store store' : KvStore} (h : store' ns.namespaceId = store ns.namespaceId) :
    nsWrites A r store' ns = nsWrites A r store ns := by
  simp only [nsWrites, matchingKeys, h]

theorem nsFailed_congr {store store' : KvStore} (h : store' ns.namespaceId = store ns.namespaceId) :
    nsFailed A r store' ns = nsFailed A r store ns := by
  simp only [nsFailed, matchingKeys, h]

theorem rotateNamespaces_cons (hc : r.configured ns.namespaceId = true) (rest : List EncryptedNamespace)
    (failedEntries : List String) :
    ∃ entries, (entries = [] ↔ nsFailed A r store ns = []) ∧
      ((rotateNamespaces A r (ns :: rest) failedEntries).run kvStep () store).1 =
        ((rotateNamespaces A r rest (failedEntries ++ entries)).run kvStep () (commit store (nsWrites A r store ns))).1 ∧
      puts ((rotateNamespaces A r (ns :: rest) failedEntries).trace kvStep () store) = nsWrites A r store ns ++
        puts ((rotateNamespaces A r rest (failedEntries ++ entries)).trace kvStep () (commit store (nsWrites A r store ns))) := by
  refine ⟨(nsFailed A r store ns).map (ns.label ++ ":" ++ ·), by simp, ?_⟩
  have hsplit : rotateNamespaces A r (ns :: rest) failedEntries =
      .ask (.list ns.namespaceId) fun (allKeys : List String) =>
        stageKeys A r ns (allKeys.filter (hasPrefix ns.keyPrefix)) ⟨[], []⟩ >>= fun s =>
          commitStaged r ns s >>= fun _ => rotateNamespaces A r rest (failedEntries ++ s.failedEntries) := by
    simp only [rotateNamespaces, hc, Bool.not_true, Bool.false_eq_true, if_false]
  have hkeys : kvStep store () (.list ns.namespaceId) = ((store ns.namespaceId).keys, store) := rfl
  have hfailed : ((stageKeys A r ns (matchingKeys store ns) ⟨[], []⟩).run kvStep () store).1.failedEntries =
      (nsFailed A r store ns).map (ns.label ++ ":" ++ ·) := by
    rw [stageKeys_run]
    rfl
  have hstore : ((stageKeys A r ns (matchingKeys store ns) ⟨[], []⟩).run kvStep () store).2 = store := by
    rw [stageKeys_run]
  have hcommit := run_eq_commit
    (commitStaged r ns ((stageKeys A r ns (matchingKeys store ns) ⟨[], []⟩).run kvStep () store).1) store
  rw [commitStaged_puts A r store ns hc] at hcommit
  rw [hsplit, Prog.run_ask, Prog.trace_ask, puts_list, hkeys]
  simp only [Prog.run_bind, Prog.trace_bind, puts_append]
  rw [show (store ns.namespaceId).keys.filter (hasPrefix ns.keyPrefix) = matchingKeys store ns from rfl, hfailed, hstore,
    hcommit, stageKeys_puts, commitStaged_puts A r store ns hc, List.nil_append]
  exact ⟨rfl, rfl⟩

theorem rotateNamespaces_unconfigured (hc : r.configured ns.namespaceId = false) (rest : List EncryptedNamespace)
    (failedEntries : List String) : rotateNamespaces A r (ns :: rest) failedEntries = rotateNamespaces A r rest failedEntries := by
  simp [rotateNamespaces, hc]

theorem mem_nsWrites {w : NamespaceId × String × Cell Json} (h : w ∈ nsWrites A r store ns) : w.1 = ns.namespaceId := by
  unfold nsWrites at h
  split at h
  · cases h
  · obtain ⟨_, _, rfl⟩ := List.mem_map.mp h
    rfl

theorem rotateNamespaces_run : ∀ (nss : List EncryptedNamespace) (failedEntries : List String) (store : KvStore),
    (nss.map EncryptedNamespace.namespaceId).Nodup →
    puts ((rotateNamespaces A r nss failedEntries).trace kvStep () store) = nss.flatMap (nsWrites A r store) ∧
      (((rotateNamespaces A r nss failedEntries).run kvStep () store).1 = .ok () ↔
        failedEntries = [] ∧ ∀ ns ∈ nss, r.configured ns.namespaceId = true → nsFailed A r store ns = [])
  | [], failedEntries, store, _ => by
    cases failedEntries <;> simp [rotateNamespaces]
  | ns :: rest, failedEntries, store, hnd => by
    rw [List.map_cons, List.nodup_cons] at hnd
    cases hc : r.configured ns.namespaceId with
    | false =>
      have hnone : nsWrites A r store ns = [] := by simp [nsWrites, hc]
      obtain ⟨hputs, hok⟩ := rotateNamespaces_run rest failedEntries store hnd.2
      rw [rotateNamespaces_unconfigured A r ns hc, hputs, hok, List.flatMap_cons, hnone, List.nil_append]
      simp [hc]
    | true =>
      obtain ⟨entries, hentries, hrun, htrace⟩ := rotateNamespaces_cons A r store ns hc rest failedEntries
      obtain ⟨hputs, hok⟩ := rotateNamespaces_run rest (failedEntries ++ entries) (commit store (nsWrites A r store ns)) hnd.2
      have hsame : ∀ ns' ∈ rest, commit store (nsWrites A r store ns) ns'.namespaceId = store ns'.namespaceId := by
        intro ns' hns'
        refine commit_of_not_mem _ _ _ fun w hw he => hnd.1 ?_
        rw [← mem_nsWrites A r store ns hw, he]
        exact List.mem_map_of_mem hns'
      have hwrites : rest.flatMap (nsWrites A r (commit store (nsWrites A r store ns))) = rest.flatMap (nsWrites A r store) :=
        List.flatMap_congr fun ns' hns' => nsWrites_congr A r ns' (hsame ns' hns')
      rw [hrun, htrace, hputs, hok, hwrites, List.flatMap_cons, List.append_eq_nil_iff, hentries]
      refine ⟨rfl, ?_⟩
      simp only [List.mem_cons, forall_eq_or_imp, hc, forall_const, and_assoc]
      refine and_congr_right fun _ => and_congr_right fun _ => ?_
      refine forall_congr' fun ns' => forall_congr' fun hns' => forall_congr' fun _ => ?_
      rw [nsFailed_congr A r ns' (hsame ns' hns')]

theorem namespaceIds_nodup (includeSessions : Bool) :
    ((encryptedNamespaces includeSessions).map EncryptedNamespace.namespaceId).Nodup := by
  cases includeSessions <;> decide

theorem eq_of_namespaceId {includeSessions : Bool} {ns ns' : EncryptedNamespace} (h : ns ∈ encryptedNamespaces includeSessions)
    (h' : ns' ∈ encryptedNamespaces includeSessions) (he : ns.namespaceId = ns'.namespaceId) : ns = ns' :=
  List.inj_on_of_nodup_map (namespaceIds_nodup includeSessions) h h' he

section
variable {A r} (hold : r.oldKek.length = 32) (hnew : r.newKek.length = 32)

include hold hnew

theorem rotateKek_eq : rotateKek A r = rotateNamespaces A r (encryptedNamespaces r.includeSessions) [] := by
  simp [rotateKek, hold, hnew]

theorem kekPuts_eq : kekPuts A r store = (encryptedNamespaces r.includeSessions).flatMap (nsWrites A r store) := by
  rw [kekPuts, rotateKek_eq hold hnew]
  exact (rotateNamespaces_run A r _ [] store (namespaceIds_nodup _)).1

theorem runKek_ok_iff : (runKek A r store).1 = .ok () ↔
    ∀ ns ∈ encryptedNamespaces r.includeSessions, r.configured ns.namespaceId = true → nsFailed A r store ns = [] := by
  rw [runKek, rotateKek_eq hold hnew, (rotateNamespaces_run A r _ [] store (namespaceIds_nodup _)).2]
  simp

omit hold hnew in
theorem runKek_store : (runKek A r store).2 = commit store (kekPuts A r store) := run_eq_commit _ store

theorem mem_kekPuts_namespace {w : NamespaceId × String × Cell Json} (hw : w ∈ kekPuts A r store) :
    ∃ ns ∈ encryptedNamespaces r.includeSessions, w.1 = ns.namespaceId ∧ w ∈ nsWrites A r store ns := by
  rw [kekPuts_eq store hold hnew] at hw
  obtain ⟨ns, hns, hw⟩ := List.mem_flatMap.mp hw
  exact ⟨ns, hns, mem_nsWrites A r store ns hw, hw⟩

variable {ns}

theorem mem_kekPuts (hns : ns ∈ encryptedNamespaces r.includeSessions) {key : String} {value : Cell Json} :
    (ns.namespaceId, key, value) ∈ kekPuts A r store ↔ (ns.namespaceId, key, value) ∈ nsWrites A r store ns := by
  constructor
  · intro hw
    obtain ⟨ns', hns', hid, hw⟩ := mem_kekPuts_namespace store hold hnew hw
    exact eq_of_namespaceId hns hns' hid ▸ hw
  · intro hw
    rw [kekPuts_eq store hold hnew]
    exact List.mem_flatMap.mpr ⟨ns, hns, hw⟩

omit hold hnew ns in
theorem matchingKeys_nodup (ns : EncryptedNamespace) : (matchingKeys store ns).Nodup :=
  Std.TreeMap.nodup_keys.filter _

omit hold hnew ns in
theorem nsWrites_nodup (ns : EncryptedNamespace) : ((nsWrites A r store ns).map address).Nodup := by
  unfold nsWrites
  split
  · exact List.nodup_nil
  · rw [List.map_map]
    have hkeys := (writes_keys_sublist (stageEntry A r ns) (store ns.namespaceId) (matchingKeys store ns)).nodup
      (matchingKeys_nodup store ns)
    refine List.Nodup.of_map Prod.snd ?_
    rw [List.map_map]
    exact hkeys

theorem kekPuts_nodup : ((kekPuts A r store).map address).Nodup := by
  rw [kekPuts_eq store hold hnew, List.map_flatMap, List.nodup_flatMap]
  refine ⟨fun ns _ => nsWrites_nodup store ns, ?_⟩
  have hids := namespaceIds_nodup r.includeSessions
  rw [List.Nodup, List.pairwise_map] at hids
  refine hids.imp fun {ns ns'} hne => ?_
  rw [Function.onFun, List.disjoint_left]
  intro a ha ha'
  obtain ⟨w, hw, rfl⟩ := List.mem_map.mp ha
  obtain ⟨w', hw', he⟩ := List.mem_map.mp ha'
  have hid : (address w').1 = (address w).1 := congrArg Prod.fst he
  rw [address, address, mem_nsWrites A r store ns hw, mem_nsWrites A r store ns' hw'] at hid
  exact hne hid.symm

/-! ## All or nothing -/

/-- An entry that the run looks at. -/
def Listed (store : KvStore) (ns : EncryptedNamespace) (key : String) (cell : Cell Json) : Prop :=
  (store ns.namespaceId)[key]? = some cell ∧ hasPrefix ns.keyPrefix key = true

/-- Some entry fails in Phase 1. -/
def Refuses (A : AesGcm) (r : RotateKek) (store : KvStore) (ns : EncryptedNamespace) : Prop :=
  ∃ key cell, Listed store ns key cell ∧ ¬Skipped ns cell ∧ ¬Opens A r.oldKek ns cell

omit hold hnew ns in
theorem mem_matchingKeys {ns : EncryptedNamespace} {key : String} :
    key ∈ matchingKeys store ns ↔ ∃ cell, Listed store ns key cell := by
  simp only [matchingKeys, List.mem_filter, mem_keys_iff, Listed]
  exact exists_and_right.symm

omit hold hnew ns in
theorem decisionOf_listed {ns : EncryptedNamespace} {key : String} {cell : Cell Json} (h : Listed store ns key cell) :
    decisionOf (stageEntry A r ns) (store ns.namespaceId) key = stageEntry A r ns key cell := by
  simp [decisionOf, h.1]

section
variable (hA : A.Lawful) (hrotate : r.verifyOnly = false)

include hA hrotate

omit hold in
theorem nsFailed_eq_nil_iff (hns : ns.WellFormed) : nsFailed A r store ns = [] ↔ ¬Refuses A r store ns := by
  rw [nsFailed, failed_eq_nil]
  constructor
  · rintro h ⟨key, cell, hl, hskip, hopen⟩
    refine h key ((mem_matchingKeys store).mpr ⟨cell, hl⟩) ?_
    rw [decisionOf_listed store hl]
    rcases stageEntry_cases hA hnew hrotate hns key cell with h' | h' | h'
    · exact absurd h'.1 hskip
    · exact h'.2.2
    · exact absurd h'.2.1 hopen
  · intro h key hkey hfail
    obtain ⟨cell, hl⟩ := (mem_matchingKeys store).mp hkey
    rw [decisionOf_listed store hl] at hfail
    rcases stageEntry_cases hA hnew hrotate hns key cell with h' | h' | h'
    · rw [h'.2] at hfail; cases hfail
    · exact h ⟨key, cell, hl, h'.1, h'.2.1⟩
    · obtain ⟨_, _, cell', hput, _⟩ := h'
      rw [hput] at hfail; cases hfail

omit hA hold hnew in
theorem mem_nsWrites_iff (hc : r.configured ns.namespaceId = true) {key : String} {value : Cell Json} :
    (ns.namespaceId, key, value) ∈ nsWrites A r store ns ↔ nsFailed A r store ns = [] ∧
      ∃ cell, Listed store ns key cell ∧ stageEntry A r ns key cell = .put value := by
  have hmem : (key, value) ∈ staged (stageEntry A r ns) (store ns.namespaceId) (matchingKeys store ns) ↔
      ∃ cell, Listed store ns key cell ∧ stageEntry A r ns key cell = .put value := by
    rw [mem_staged, mem_matchingKeys]
    constructor
    · rintro ⟨⟨cell, hl⟩, hput⟩
      exact ⟨cell, hl, (decisionOf_listed store hl) ▸ hput⟩
    · rintro ⟨cell, hl, hput⟩
      exact ⟨⟨cell, hl⟩, (decisionOf_listed store hl) ▸ hput⟩
  rw [← hmem]
  simp only [nsWrites, hc, hrotate, writes, nsFailed, Bool.not_true, Bool.or_self, Bool.false_eq_true, if_false]
  split
  · rename_i hf
    simp [hf]
  · rename_i hf
    simp [hf]

omit hold hnew hA hrotate in
/-- An address that nothing is put to keeps its value. -/
theorem runKek_get_of_not_put {id : NamespaceId} {key : String} (h : ∀ value, (id, key, value) ∉ kekPuts A r store) :
    ((runKek A r store).2 id)[key]? = (store id)[key]? := by
  rw [runKek_store]
  refine commit_get_of_not_mem _ _ fun hm => ?_
  obtain ⟨⟨_, _, value⟩, hw, he⟩ := List.mem_map.mp hm
  cases he
  exact h value hw

/-- Whatever is put is a listed entry re-encrypted, of a namespace that refuses none. -/
theorem of_put {id : NamespaceId} {key : String} {value : Cell Json} (hw : (id, key, value) ∈ kekPuts A r store) :
    ∃ ns ∈ encryptedNamespaces r.includeSessions, ns.namespaceId = id ∧ r.configured id = true ∧ ¬Refuses A r store ns ∧
      ∃ cell, Listed store ns key cell ∧ ¬Skipped ns cell ∧ Reencrypted A r ns cell value := by
  obtain ⟨ns, hns, hid, hput⟩ := mem_kekPuts_namespace store hold hnew hw
  cases hid
  have hwf := wellFormed_of_mem hns
  cases hc : r.configured ns.namespaceId with
  | false => simp [nsWrites, hc] at hput
  | true =>
    rw [mem_nsWrites_iff store hrotate hc, nsFailed_eq_nil_iff store hnew hA hrotate hwf] at hput
    obtain ⟨hopen, cell, hl, hstage⟩ := hput
    refine ⟨ns, hns, rfl, rfl, hopen, cell, hl, ?_⟩
    rcases stageEntry_cases hA hnew hrotate hwf key cell with h | h | ⟨hskip, _, cell', hstage', hre⟩
    · rw [h.2] at hstage
      cases hstage
    · rw [h.2.2] at hstage
      cases hstage
    · rw [hstage'] at hstage
      cases hstage
      exact ⟨hskip, hre⟩

theorem not_put_of_refuses (hns : ns ∈ encryptedNamespaces r.includeSessions) (h : Refuses A r store ns) :
    ∀ w ∈ kekPuts A r store, w.1 ≠ ns.namespaceId := by
  rintro ⟨id, key, value⟩ hw rfl
  obtain ⟨ns', hns', hid, _, hopen, _⟩ := of_put store hold hnew hA hrotate hw
  rw [eq_of_namespaceId hns' hns hid] at hopen
  exact hopen h

theorem not_put_of_skipped (hns : ns ∈ encryptedNamespaces r.includeSessions) {key : String}
    (h : ∀ cell, Listed store ns key cell → Skipped ns cell) (value : Cell Json) :
    (ns.namespaceId, key, value) ∉ kekPuts A r store := by
  intro hw
  obtain ⟨ns', hns', hid, _, _, cell, hl, hskip, _⟩ := of_put store hold hnew hA hrotate hw
  rw [eq_of_namespaceId hns' hns hid] at hl hskip
  exact hskip (h cell hl)

/-- Every entry of a namespace that refuses none is put, re-encrypted. -/
theorem put_of_listed (hns : ns ∈ encryptedNamespaces r.includeSessions) (hc : r.configured ns.namespaceId = true)
    (h : ¬Refuses A r store ns) {key : String} {cell : Cell Json} (hl : Listed store ns key cell) (hskip : ¬Skipped ns cell) :
    ∃ cell', (ns.namespaceId, key, cell') ∈ kekPuts A r store ∧ Reencrypted A r ns cell cell' := by
  have hwf := wellFormed_of_mem hns
  rcases stageEntry_cases hA hnew hrotate hwf key cell with h' | h' | h'
  · exact absurd h'.1 hskip
  · exact absurd ⟨key, cell, hl, h'.1, h'.2.1⟩ h
  · obtain ⟨_, _, cell', hput, hre⟩ := h'
    refine ⟨cell', ?_, hre⟩
    rw [mem_kekPuts store hold hnew hns, mem_nsWrites_iff store hrotate hc,
      nsFailed_eq_nil_iff store hnew hA hrotate hwf]
    exact ⟨h, cell, hl, hput⟩

omit hA hrotate in
theorem runKek_get_of_put {id : NamespaceId} {key : String} {value : Cell Json} (h : (id, key, value) ∈ kekPuts A r store) :
    ((runKek A r store).2 id)[key]? = some value := by
  rw [runKek_store]
  exact commit_get_of_mem _ _ (kekPuts_nodup store hold hnew) h

end

end

end

/-- **All or nothing.** A run that nothing interrupts writes no key of a namespace in which an entry
that is not skipped fails to open under the old key. Otherwise it rewrites each such entry: every
listed field opens under the new key and its AAD to the plaintext it had, in the form it had, and
the other members are as they were. Other entries are left alone. -/
theorem rotateKek_all_or_nothing {A : AesGcm} (hA : A.Lawful) (r : RotateKek) (hrotate : r.verifyOnly = false)
    (hold : r.oldKek.length = 32) (hnew : r.newKek.length = 32) (store : KvStore) {ns : EncryptedNamespace}
    (hns : ns ∈ encryptedNamespaces r.includeSessions) (hc : r.configured ns.namespaceId = true) :
    (Refuses A r store ns → (∀ w ∈ kekPuts A r store, w.1 ≠ ns.namespaceId) ∧
        (runKek A r store).2 ns.namespaceId = store ns.namespaceId) ∧
      (¬Refuses A r store ns → ∀ key cell, Listed store ns key cell → ¬Skipped ns cell →
        ∃ cell', (ns.namespaceId, key, cell') ∈ kekPuts A r store ∧
          ((runKek A r store).2 ns.namespaceId)[key]? = some cell' ∧ Reencrypted A r ns cell cell') ∧
      ∀ key, (∀ cell, Listed store ns key cell → Skipped ns cell) →
        (∀ value, (ns.namespaceId, key, value) ∉ kekPuts A r store) ∧
          ((runKek A r store).2 ns.namespaceId)[key]? = (store ns.namespaceId)[key]? := by
  refine ⟨fun hr => ?_, fun hr key cell hl hskip => ?_, fun key hskip => ?_⟩
  · have hnone := not_put_of_refuses store hold hnew hA hrotate hns hr
    exact ⟨hnone, by rw [runKek_store, commit_of_not_mem _ _ _ hnone]⟩
  · obtain ⟨cell', hput, hre⟩ := put_of_listed store hold hnew hA hrotate hns hc hr hl hskip
    exact ⟨cell', hput, runKek_get_of_put store hold hnew hput, hre⟩
  · have hnone := not_put_of_skipped store hold hnew hA hrotate hns hskip
    exact ⟨hnone, runKek_get_of_not_put store hnone⟩

/-! ## A drill

Two keys, and a record with one secret, as the stand-in cipher encrypts it.
-/

def drillKek : RotateKek where
  configured _ := true
  includeSessions := false
  verifyOnly := false
  oldKek := List.replicate 32 1
  newKek := List.replicate 32 2
  nonces _ _ _ := Vector.replicate 12 9

def drillSecret (kek aad : Bytes) : Json :=
  .ofBytes (aesGcmEncrypt clearGcm (Vector.replicate 12 7) kek (List.replicate 32 5) aad)

def drillOfficer : Cell Json :=
  .record (.obj [("hmac_secret", drillSecret drillKek.oldKek sessionAad), ("encrypted", .bool true)])

def drillStore : KvStore
  | .officers => (∅ : Table String (Cell Json)).insert "issuer:acme:officer:alice" drillOfficer
  | _ => ∅

theorem drill_rewrites_officer :
    ∃ cell', ((runKek clearGcm drillKek drillStore).2 officersNs.namespaceId)["issuer:acme:officer:alice"]? = some cell' ∧
      Reencrypted clearGcm drillKek officersNs drillOfficer cell' := by
  have hns : officersNs ∈ encryptedNamespaces drillKek.includeSessions := by simp [encryptedNamespaces]
  have hopen : ¬Refuses clearGcm drillKek drillStore officersNs := by
    rw [← nsFailed_eq_nil_iff drillStore rfl clearGcm_lawful rfl (wellFormed_of_mem hns)]
    decide +kernel
  have hlisted : Listed drillStore officersNs "issuer:acme:officer:alice" drillOfficer :=
    ⟨by simp [drillStore, officersNs], by decide⟩
  have hflagged : ¬Skipped officersNs drillOfficer := by
    have hflag : encryptedFlag (Json.obj [("hmac_secret", drillSecret drillKek.oldKek sessionAad),
      ("encrypted", .bool true)]).entries = true := by decide +kernel
    simp [Skipped, drillOfficer, hflag]
  obtain ⟨cell', _, hget, hre⟩ := (rotateKek_all_or_nothing clearGcm_lawful drillKek rfl rfl rfl drillStore hns rfl).2.1
    hopen _ _ hlisted hflagged
  exact ⟨cell', hget, hre⟩

end Issuer.Tool
