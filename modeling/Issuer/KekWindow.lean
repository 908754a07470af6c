import Issuer.KekCache
import Issuer.KekResume

/-!
# The window of a rotation

The tool prints the procedure: it commits its writes one by one while the worker still holds the old
key alone; then `ISSUER_KEK` is set to the new key, then `ISSUER_KEK_PREVIOUS` to the old one, then the
worker is deployed. `procedure_readable_iff` says for each state of the procedure when the worker can
read everything: before the first write, after the previous key is set, and in between only where
nothing has been written or, with the new key alone, where nothing was left out.
-/

namespace Issuer.Tool

open Rust Store Batch

def AllReadable (A : AesGcm) (kekPair : KekPair) (store : KvStore) : Prop :=
  ∀ id key c, Stored store id key c → (decryptWithKekFallback A kekPair c.data c.aad).isOk = true

/-! ## The procedure -/

structure Secrets where
  issuerKek : Option String
  issuerKekPrevious : Option String

/-- The worker's pair; its Secrets Store does not fail. -/
def fetchKekPair (secrets : Secrets) : Except ApiError KekPair :=
  Kek.fetchKekPair ⟨secrets.issuerKek.elim .absent .found, secrets.issuerKekPrevious.elim .absent .found⟩

inductive ProcedureState where
  | writing (n : Nat)
  | kekSet
  | previousSet
  | deployed
deriving DecidableEq, Repr

section
variable (A : AesGcm) (r : RotateKek)

def ProcedureState.secrets : ProcedureState → Secrets
  | .writing _ => ⟨some (Base64.encode r.oldKek), none⟩
  | .kekSet => ⟨some (Base64.encode r.newKek), none⟩
  | .previousSet | .deployed => ⟨some (Base64.encode r.newKek), some (Base64.encode r.oldKek)⟩

def ProcedureState.store (original : KvStore) : ProcedureState → KvStore
  | .writing n => interrupted A r n original
  | _ => (runKek A r original).2

/-- The next steps are printed when nothing has failed. -/
def ProcedureState.Reached (original : KvStore) : ProcedureState → Prop
  | .writing _ => True
  | _ => (runKek A r original).1 = .ok ()

def WritesNothing (store : KvStore) : Prop :=
  ∀ ns ∈ encryptedNamespaces r.includeSessions, r.configured ns.namespaceId = true →
    Refuses A r store ns ∨ ∀ key cell, Listed store ns key cell → Skipped ns cell

/-- The run looks at this field of this entry. -/
def Covered (id : NamespaceId) (key name : String) : Prop :=
  ∃ ns ∈ encryptedNamespaces r.includeSessions, ns.namespaceId = id ∧ r.configured id = true ∧
    hasPrefix ns.keyPrefix key = true ∧ (ns.isSessionNs = true ∨ name ∈ ns.fields.map EncryptedField.jsonKey)

def ProcedureState.Condition (original : KvStore) : ProcedureState → Prop
  | .writing n => n = 0 ∨ WritesNothing A r original
  | .kekSet => ∀ id key c, Stored original id key c → Covered r id key c.name
  | .previousSet | .deployed => True

end

/-! ## Ciphertexts of a rewritten entry -/

section
variable {A : AesGcm} {r : RotateKek}

section
variable {ns : EncryptedNamespace} (hns : ns ∈ encryptedNamespaces r.includeSessions)

include hns

/-- A ciphertext of a rewritten entry is made anew from one of the entry, or is one that the table
does not list. -/
theorem ciphertexts_of_reencrypted {cell cell' : Cell Json} (h : Reencrypted A r ns cell cell') {c' : Ciphertext}
    (hc' : c' ∈ ciphertexts ns.namespaceId cell') :
    (∃ c ∈ ciphertexts ns.namespaceId cell, Rewrapped A r c'.aad c.data c'.data) ∨
      c' ∈ ciphertexts ns.namespaceId cell ∧ ns.isSessionNs = false ∧ c'.name ∉ ns.fields.map EncryptedField.jsonKey := by
  obtain ⟨hsession, -, -, hfields⟩ := namespace_cases hns
  have hwf := wellFormed_of_mem hns
  cases cell with
  | garbled => exact h.elim
  | record j =>
    cases cell' with
    | garbled => exact h.elim
    | record j' =>
      cases hs : ns.isSessionNs with
      | true =>
        simp only [Reencrypted, hs, if_true] at h
        rw [hsession.mp hs, mem_ciphertexts_session] at hc'
        obtain ⟨rawValue, rawValue', data, data', rfl, rfl, hdata, hdata', hre⟩ := h
        obtain ⟨raw, d, hraw, hd, rfl⟩ := hc'
        cases hraw
        rw [hdata'] at hd
        cases hd
        rw [hsession.mp hs]
        exact .inl ⟨⟨"", data, sessionAad⟩, mem_ciphertexts_session.mpr ⟨rawValue, data, rfl, hdata, rfl⟩, hre⟩
      | false =>
        have hid : ns.namespaceId ≠ .sessions := fun he => by
          rw [hsession.mpr he] at hs
          cases hs
        simp only [Reencrypted, hs, Bool.false_eq_true, if_false] at h
        obtain ⟨_, hre⟩ := h
        have hflag : encryptedFlag j'.entries = encryptedFlag j.entries := by
          rw [encryptedFlag, encryptedFlag, hre.others "encrypted" hwf.flag]
        rw [mem_ciphertexts hid] at hc'
        obtain ⟨hflag', field, hfield, hct⟩ := hc'
        obtain ⟨form, hd', hne, hname, haad⟩ := fieldCiphertext_eq_some.mp hct
        rw [hflag] at hflag'
        by_cases hlisted : field.jsonKey ∈ ns.fields.map EncryptedField.jsonKey
        · rcases hre.fields field (hfields field hfield hlisted) with ⟨_, habsent, hsame⟩ | ⟨form₀, data, data', hd, hd'', haad', hrew⟩
          · rw [hsame, habsent] at hd'
            cases hd'
          · rw [hd''] at hd'
            cases hd'
            refine .inl ⟨⟨field.jsonKey, data, field.aad.bytes j.entries⟩, ?_, ?_⟩
            · rw [mem_ciphertexts hid]
              exact ⟨hflag', field, hfield, fieldCiphertext_eq_some.mpr ⟨_, hd, hrew.ne_nil.1, rfl, rfl⟩⟩
            · rw [haad, haad']
              exact hrew
        · refine .inr ⟨?_, rfl, hname ▸ hlisted⟩
          rw [mem_ciphertexts hid]
          refine ⟨hflag', field, hfield, fieldCiphertext_eq_some.mpr ⟨form, ?_, hne, hname, ?_⟩⟩
          · rw [← hre.others _ hlisted]
            exact hd'
          · rw [haad, aad_congr (hre.others "version" hwf.version)]

theorem ciphertexts_kept {cell cell' : Cell Json} (h : Reencrypted A r ns cell cell') (hs : ns.isSessionNs = false) {c : Ciphertext}
    (hc : c ∈ ciphertexts ns.namespaceId cell) (hlisted : c.name ∉ ns.fields.map EncryptedField.jsonKey) :
    c ∈ ciphertexts ns.namespaceId cell' := by
  obtain ⟨hsession, -, -, -⟩ := namespace_cases hns
  have hwf := wellFormed_of_mem hns
  have hid : ns.namespaceId ≠ .sessions := fun he => by
    rw [hsession.mpr he] at hs
    cases hs
  cases cell with
  | garbled => exact h.elim
  | record j =>
    cases cell' with
    | garbled => exact h.elim
    | record j' =>
      simp only [Reencrypted, hs, Bool.false_eq_true, if_false] at h
      obtain ⟨_, hre⟩ := h
      rw [mem_ciphertexts hid] at hc ⊢
      obtain ⟨hflag, field, hfield, hct⟩ := hc
      obtain ⟨form, hd, hne, hname, haad⟩ := fieldCiphertext_eq_some.mp hct
      rw [hname] at hlisted
      refine ⟨?_, field, hfield, fieldCiphertext_eq_some.mpr ⟨form, ?_, hne, hname, ?_⟩⟩
      · rw [encryptedFlag, hre.others "encrypted" hwf.flag]
        exact hflag
      · rw [hre.others _ hlisted]
        exact hd
      · rw [haad, aad_congr (hre.others "version" hwf.version)]

end

theorem not_skipped_of_mem_ciphertexts {ns : EncryptedNamespace} (hns : ns ∈ encryptedNamespaces r.includeSessions)
    {cell : Cell Json} {c : Ciphertext} (hc : c ∈ ciphertexts ns.namespaceId cell) : ¬Skipped ns cell := by
  cases cell with
  | garbled => exact id
  | record j =>
    rintro ⟨hs, -, hflag⟩
    have hid : ns.namespaceId ≠ .sessions := fun he => by
      rw [(namespace_cases hns).1.mpr he] at hs
      cases hs
    rw [mem_ciphertexts hid, hflag] at hc
    cases hc.1

/-! ## Which key opens what -/

theorem isOk_alone {kek data aad : Bytes} :
    (decryptWithKekFallback A ⟨kek, none⟩ data aad).isOk = true ↔ Sealed A kek aad data := by
  rw [fallback_alone]
  exact Except.isOk_iff

theorem isOk_current {kek data aad plaintext : Bytes} (prev : Option Bytes) (h : decryptWithKek A kek data aad = .ok plaintext) :
    (decryptWithKekFallback A ⟨kek, prev⟩ data aad).isOk = true := by
  rw [decryptWithKekFallback_current h]
  rfl

theorem isOk_previous {kek prev data aad plaintext : Bytes} (h : decryptWithKek A prev data aad = .ok plaintext) :
    (decryptWithKekFallback A ⟨kek, some prev⟩ data aad).isOk = true := by
  unfold decryptWithKekFallback
  cases decryptWithKek A kek data aad with
  | ok _ => rfl
  | error _ =>
    simp only [h]
    rfl

/-! ## The store after a run -/

section
variable (hA : A.Lawful) (hrotate : r.verifyOnly = false) (hold : r.oldKek.length = 32) (hnew : r.newKek.length = 32)
  {store : KvStore} {id : NamespaceId} {key : String} {c : Ciphertext}

include hA hrotate hold hnew

/-- A ciphertext after the run is made anew, or it was there before and the run does not look at it. -/
theorem stored_runKek (hok : (runKek A r store).1 = .ok ()) (h : Stored (runKek A r store).2 id key c) :
    (∃ data, Rewrapped A r c.aad data c.data) ∨ Stored store id key c ∧ ¬Covered r id key c.name := by
  obtain ⟨cell', hget', hc⟩ := h
  by_cases hput : ∃ value, (id, key, value) ∈ kekPuts A r store
  · obtain ⟨value, hput⟩ := hput
    rw [runKek_get_of_put store hold hnew hput] at hget'
    cases hget'
    obtain ⟨ns, hns, rfl, -, -, cell, hl, -, hre⟩ := of_put store hold hnew hA hrotate hput
    rcases ciphertexts_of_reencrypted hns hre hc with ⟨c₀, _, hrew⟩ | ⟨hmem, hs, hlisted⟩
    · exact .inl ⟨c₀.data, hrew⟩
    · refine .inr ⟨⟨cell, hl.1, hmem⟩, ?_⟩
      rintro ⟨ns', hns', hid, -, -, hcovered⟩
      rw [eq_of_namespaceId hns' hns hid, hs] at hcovered
      exact hcovered.elim (fun h => by cases h) hlisted
  · rw [runKek_get_of_not_put store (not_exists.mp hput)] at hget'
    refine .inr ⟨⟨cell', hget', hc⟩, ?_⟩
    rintro ⟨ns, hns, rfl, hconf, hstarts, -⟩
    have hopen := (runKek_ok_iff_opens hA hrotate hold hnew store).mp hok ns hns hconf
    obtain ⟨value, hmem, _⟩ := put_of_listed store hold hnew hA hrotate hns hconf hopen ⟨hget', hstarts⟩
      (not_skipped_of_mem_ciphertexts hns hc)
    exact hput ⟨value, hmem⟩

theorem stored_of_not_covered (h : Stored store id key c) (hcovered : ¬Covered r id key c.name) :
    Stored (runKek A r store).2 id key c := by
  obtain ⟨cell, hget, hc⟩ := h
  by_cases hput : ∃ value, (id, key, value) ∈ kekPuts A r store
  · obtain ⟨value, hput⟩ := hput
    refine ⟨value, runKek_get_of_put store hold hnew hput, ?_⟩
    obtain ⟨ns, hns, rfl, hconf, -, cell₀, hl, -, hre⟩ := of_put store hold hnew hA hrotate hput
    rw [hl.1] at hget
    cases hget
    have hfield : ¬(ns.isSessionNs = true ∨ c.name ∈ ns.fields.map EncryptedField.jsonKey) :=
      fun h => hcovered ⟨ns, hns, rfl, hconf, hl.2, h⟩
    rw [not_or, Bool.not_eq_true] at hfield
    exact ciphertexts_kept hns hre hfield.1 hc hfield.2
  · refine ⟨cell, ?_, hc⟩
    rw [runKek_get_of_not_put store (not_exists.mp hput)]
    exact hget

theorem kekPuts_eq_nil_iff_writesNothing : kekPuts A r store = [] ↔ WritesNothing A r store := by
  constructor
  · intro hnil ns hns hc
    by_contra hno
    rw [not_or] at hno
    refine hno.2 fun key cell hl => ?_
    by_contra hskip
    obtain ⟨cell', hput, _⟩ := put_of_listed store hold hnew hA hrotate hns hc hno.1 hl hskip
    rw [hnil] at hput
    cases hput
  · intro hnone
    refine List.eq_nil_iff_forall_not_mem.mpr fun w hw => ?_
    obtain ⟨ns, hns, hid, hc, hopen, cell, hl, hskip, _⟩ := of_put store hold hnew hA hrotate hw
    rcases hnone ns hns (hid ▸ hc) with hrefuses | hall
    · exact hopen hrefuses
    · exact hskip (hall _ cell hl)

/-! ## The states of the procedure -/

theorem readable_unwritten (hread : AllReadable A ⟨r.oldKek, none⟩ store) {n : Nat} (h : n = 0 ∨ WritesNothing A r store) :
    AllReadable A ⟨r.oldKek, none⟩ (interrupted A r n store) := by
  rw [← kekPuts_eq_nil_iff_writesNothing hA hrotate hold hnew, ← List.take_eq_nil_iff] at h
  rw [interrupted, h, commit_nil]
  exact hread

theorem readable_writing_iff (hrej : ∀ c, Made A r store c → A.Rejects r.oldKek c.data c.aad)
    (hread : AllReadable A ⟨r.oldKek, none⟩ store) (n : Nat) :
    AllReadable A ⟨r.oldKek, none⟩ (interrupted A r n store) ↔ n = 0 ∨ WritesNothing A r store := by
  refine ⟨fun hall => ?_, readable_unwritten hA hrotate hold hnew hread⟩
  rw [← kekPuts_eq_nil_iff_writesNothing hA hrotate hold hnew, ← List.take_eq_nil_iff]
  refine List.eq_nil_iff_forall_not_mem.mpr fun w hw => ?_
  obtain ⟨ns, -, -, key, cell, hl, -, c, hc, hmade, -⟩ := of_committed hA hrotate hold hnew store hw
  obtain ⟨plaintext, hopen⟩ := isOk_alone.mp (hall ns.namespaceId key c ⟨cell, hl.1, hc⟩)
  obtain ⟨_, _, hopen⟩ := decryptWithKek_eq_ok.mp hopen
  rw [aesGcmDecrypt_rejected (hrej c hmade)] at hopen
  cases hopen

theorem readable_covered (hok : (runKek A r store).1 = .ok ()) (hcovered : ∀ id key c, Stored store id key c → Covered r id key c.name) :
    AllReadable A ⟨r.newKek, none⟩ (runKek A r store).2 := by
  intro id key c hc
  rcases stored_runKek hA hrotate hold hnew hok hc with ⟨data, plaintext, _, _, _, hopen⟩ | ⟨hc₀, hno⟩
  · exact isOk_current none hopen
  · exact absurd (hcovered id key c hc₀) hno

theorem readable_kekSet_iff (hrej : ∀ id key c, Stored store id key c → A.Rejects r.newKek c.data c.aad)
    (hok : (runKek A r store).1 = .ok ()) :
    AllReadable A ⟨r.newKek, none⟩ (runKek A r store).2 ↔ ∀ id key c, Stored store id key c → Covered r id key c.name := by
  refine ⟨fun hall id key c hc => ?_, readable_covered hA hrotate hold hnew hok⟩
  by_contra hcovered
  have hkept := stored_of_not_covered hA hrotate hold hnew hc hcovered
  obtain ⟨plaintext, hopen⟩ := isOk_alone.mp (hall id key c hkept)
  obtain ⟨_, _, hopen⟩ := decryptWithKek_eq_ok.mp hopen
  rw [aesGcmDecrypt_rejected (hrej id key c hc)] at hopen
  cases hopen

theorem readable_both (hread : AllReadable A ⟨r.oldKek, none⟩ store) (hok : (runKek A r store).1 = .ok ()) :
    AllReadable A ⟨r.newKek, some r.oldKek⟩ (runKek A r store).2 := by
  intro id key c hc
  rcases stored_runKek hA hrotate hold hnew hok hc with ⟨data, plaintext, _, _, _, hopen⟩ | ⟨hc₀, _⟩
  · exact isOk_current _ hopen
  · obtain ⟨plaintext, hopen⟩ := isOk_alone.mp (hread id key c hc₀)
    exact isOk_previous hopen

end

theorem fetchKekPair_secrets (hold : r.oldKek.length = 32) (hnew : r.newKek.length = 32) (state : ProcedureState) :
    fetchKekPair (state.secrets r) = .ok (match state with
      | .writing _ => ⟨r.oldKek, none⟩
      | .kekSet => ⟨r.newKek, none⟩
      | .previousSet | .deployed => ⟨r.newKek, some r.oldKek⟩) := by
  cases state <;> simp [ProcedureState.secrets, fetchKekPair, Kek.fetchKekPair, hold, hnew, Kek.fetchAndDecodeKek]

section
variable (hA : A.Lawful) (hrotate : r.verifyOnly = false) (hold : r.oldKek.length = 32) (hnew : r.newKek.length = 32)
  (store : KvStore) (hread : AllReadable A ⟨r.oldKek, none⟩ store) (state : ProcedureState) (hreached : state.Reached A r store)

include hA hrotate hold hnew hread hreached

/-- Whatever the cipher, the worker reads every stored field where the condition on the state is met. -/
theorem procedure_readable (h : state.Condition A r store) :
    ∃ kekPair, fetchKekPair (state.secrets r) = .ok kekPair ∧ AllReadable A kekPair (state.store A r store) := by
  rw [fetchKekPair_secrets hold hnew state]
  simp only [Except.ok.injEq, exists_eq_left']
  cases state with
  | writing n => exact readable_unwritten hA hrotate hold hnew hread h
  | kekSet => exact readable_covered hA hrotate hold hnew hreached h
  | previousSet => exact readable_both hA hrotate hold hnew hread hreached
  | deployed => exact readable_both hA hrotate hold hnew hread hreached

/-- **The window of a rotation.** From a store that the worker reads with the old key, it reads every stored
field in a state of the procedure exactly when: nothing is written yet, while it holds the old key alone; the run
looks at everything stored, while it holds the new key alone; always, once the previous key is set. -/
theorem procedure_readable_iff (hmade : ∀ c, Made A r store c → A.Rejects r.oldKek c.data c.aad)
    (hstored : ∀ id key c, Stored store id key c → A.Rejects r.newKek c.data c.aad) :
    (∃ kekPair, fetchKekPair (state.secrets r) = .ok kekPair ∧ AllReadable A kekPair (state.store A r store)) ↔
      state.Condition A r store := by
  refine ⟨?_, procedure_readable hA hrotate hold hnew store hread state hreached⟩
  rw [fetchKekPair_secrets hold hnew state]
  simp only [Except.ok.injEq, exists_eq_left']
  cases state with
  | writing n => exact (readable_writing_iff hA hrotate hold hnew hmade hread n).mp
  | kekSet => exact (readable_kekSet_iff hA hrotate hold hnew hstored hreached).mp
  | previousSet => exact fun _ => trivial
  | deployed => exact fun _ => trivial

end

end

/-! ## The drill, step by step -/

theorem drill_stored {id : NamespaceId} {key : String} {c : Ciphertext} (h : Stored drillStore id key c) :
    c ∈ ciphertexts .officers drillOfficer := by
  obtain ⟨cell, hget, hc⟩ := h
  cases id with
  | officers =>
    simp only [drillStore, insert_get] at hget
    split at hget
    · cases hget
      exact hc
    · simp at hget
  | _ => simp [drillStore] at hget

theorem drillStore_allReadable : AllReadable clearGcm ⟨drillKek.oldKek, none⟩ drillStore := by
  intro id key c hc
  have hopen : ∀ c ∈ ciphertexts .officers drillOfficer,
    (decryptWithKekFallback clearGcm ⟨drillKek.oldKek, none⟩ c.data c.aad).isOk = true := by decide +kernel
  exact hopen c (drill_stored hc)

theorem drill_stored_rejected : ∀ id key c, Stored drillStore id key c → clearGcm.Rejects drillKek.newKek c.data c.aad := by
  intro id key c hc
  have hopen : ∀ c ∈ ciphertexts .officers drillOfficer,
    clearGcm.decrypt drillKek.newKek (c.data.take 12) (c.data.drop 12) c.aad = none := by decide +kernel
  exact hopen c (drill_stored hc)

theorem drill_runs : (runKek clearGcm drillKek drillStore).1 = .ok () := by decide +kernel

theorem drill_readable_deployed :
    ∃ kekPair, fetchKekPair (ProcedureState.deployed.secrets drillKek) = .ok kekPair ∧
      AllReadable clearGcm kekPair (ProcedureState.deployed.store clearGcm drillKek drillStore) :=
  (procedure_readable_iff clearGcm_lawful rfl rfl rfl drillStore drillStore_allReadable .deployed drill_runs drill_made_rejected
    drill_stored_rejected).mpr trivial

theorem drill_unreadable_written : AllReadable clearGcm ⟨drillKek.oldKek, none⟩ drillStore ∧
    (runKek clearGcm drillKek drillStore).1 = .ok () ∧
    fetchKekPair ((ProcedureState.writing 1).secrets drillKek) = .ok ⟨drillKek.oldKek, none⟩ ∧
    ¬AllReadable clearGcm ⟨drillKek.oldKek, none⟩ ((ProcedureState.writing 1).store clearGcm drillKek drillStore) := by
  refine ⟨drillStore_allReadable, drill_runs, fetchKekPair_secrets rfl rfl (.writing 1), fun hall => ?_⟩
  rw [ProcedureState.store, readable_writing_iff clearGcm_lawful rfl rfl rfl drill_made_rejected drillStore_allReadable,
    ← kekPuts_eq_nil_iff_writesNothing clearGcm_lawful rfl rfl rfl] at hall
  have hwrites : kekPuts clearGcm drillKek drillStore ≠ [] := by decide +kernel
  exact hall.elim (by decide) hwrites

end Issuer.Tool
