import Issuer.KekCoverage

/-!
# Running an interrupted rotation again

The recovery steps of the tool say to run it again after a network error in Phase 2. The second run
decrypts with the old key only, so a record that the first run has written already refuses its whole
namespace. The rotation can be resumed exactly when nothing had been written (`rerun_recovers_iff`).

That the second run fails rests on the cipher: what the first run has made under the new key does not open
under the old one. That it succeeds where nothing had been written does not.
-/

namespace Issuer.Tool

open Rust Store Batch

/-! ## What is stored encrypted -/

/-- The fields that the worker decrypts; the table of the tool has no `private_key_encrypted`. -/
def workerFields : NamespaceId → List EncryptedField
  | .keys => signingKeysNs.fields ++ [⟨"private_key_encrypted", .signingKeyVersion, false⟩]
  | .officers => officersNs.fields
  | .clients => clientsNs.fields
  | .ed25519SigningKeys => ed25519SigningKeysNs.fields
  | .sessions => []

structure Ciphertext where
  name : String
  data : Bytes
  aad : Bytes
deriving DecidableEq, Repr

/-- The sandbox leaves a field empty for a secret that a client does not have. -/
def fieldCiphertext (record : Table String Json) (field : EncryptedField) : Option Ciphertext :=
  match fieldValue record[field.jsonKey]? with
  | .bytes _ data => if data = [] then none else some ⟨field.jsonKey, data, field.aad.bytes record⟩
  | _ => none

def ciphertexts (id : NamespaceId) : Cell Json → List Ciphertext
  | .garbled => []
  | .record j =>
    if id = .sessions then ((j.asStr.bind Base64.decode).map fun data => ⟨"", data, sessionAad⟩).toList
    else if encryptedFlag j.entries then (workerFields id).filterMap (fieldCiphertext j.entries)
    else []

def Stored (store : KvStore) (id : NamespaceId) (key : String) (c : Ciphertext) : Prop :=
  ∃ cell, (store id)[key]? = some cell ∧ c ∈ ciphertexts id cell

/-! ## Ciphertexts of a rewritten entry -/

section
variable {A : AesGcm} {r : RotateKek}

theorem namespace_cases {includeSessions : Bool} {ns : EncryptedNamespace} (hns : ns ∈ encryptedNamespaces includeSessions) :
    (ns.isSessionNs = true ↔ ns.namespaceId = .sessions) ∧ (ns.isSessionNs = false → ns.requiresEncryptedFlag = true) ∧
      (∀ field ∈ ns.fields, field ∈ workerFields ns.namespaceId) ∧
      ∀ field ∈ workerFields ns.namespaceId, field.jsonKey ∈ ns.fields.map EncryptedField.jsonKey → field ∈ ns.fields := by
  have hmem : ns = signingKeysNs ∨ ns = officersNs ∨ ns = clientsNs ∨ ns = ed25519SigningKeysNs ∨ ns = sessionsNs := by
    simpa [encryptedNamespaces] using mem_encryptedNamespaces_true hns
  rcases hmem with rfl | rfl | rfl | rfl | rfl
  · refine ⟨by decide, by decide, fun field hf => List.mem_append_left _ hf, fun field hf hkey => ?_⟩
    simp only [workerFields, signingKeysNs, List.cons_append, List.nil_append, List.mem_cons, List.not_mem_nil, or_false] at hf
    rcases hf with rfl | rfl
    · simp [signingKeysNs]
    · exact absurd hkey (by decide)
  · exact ⟨by decide, by decide, fun _ hf => hf, fun _ hf _ => hf⟩
  · exact ⟨by decide, by decide, fun _ hf => hf, fun _ hf _ => hf⟩
  · exact ⟨by decide, by decide, fun _ hf => hf, fun _ hf _ => hf⟩
  · exact ⟨by decide, by decide, fun _ hf => hf, fun _ hf _ => hf⟩

theorem fieldCiphertext_eq_some {record : Table String Json} {field : EncryptedField} {c : Ciphertext} :
    fieldCiphertext record field = some c ↔
      ∃ form, fieldValue record[field.jsonKey]? = .bytes form c.data ∧ c.data ≠ [] ∧ c.name = field.jsonKey ∧
        c.aad = field.aad.bytes record := by
  unfold fieldCiphertext
  constructor
  · intro h
    split at h
    · rename_i form data hd
      split at h
      · cases h
      · rename_i hdata
        cases h
        exact ⟨form, hd, hdata, rfl, rfl⟩
    · cases h
  · rintro ⟨form, hd, hdata, hname, haad⟩
    rw [hd]
    simp only [if_neg hdata, ← hname, ← haad]

theorem mem_ciphertexts {id : NamespaceId} (hid : id ≠ .sessions) {j : Json} {c : Ciphertext} :
    c ∈ ciphertexts id (.record j) ↔
      encryptedFlag j.entries = true ∧ ∃ field ∈ workerFields id, fieldCiphertext j.entries field = some c := by
  simp only [ciphertexts, if_neg hid]
  split
  · rename_i hflag
    simp only [hflag, true_and, List.mem_filterMap]
  · rename_i hflag
    simp only [hflag, false_and, List.not_mem_nil, Bool.false_eq_true]

theorem mem_ciphertexts_session {j : Json} {c : Ciphertext} :
    c ∈ ciphertexts .sessions (.record j) ↔
      ∃ rawValue data, j = .str rawValue ∧ Base64.decode rawValue = some data ∧ c = ⟨"", data, sessionAad⟩ := by
  simp only [ciphertexts, if_true, Option.mem_toList, Option.map_eq_some_iff, Option.bind_eq_some_iff]
  constructor
  · rintro ⟨data, ⟨rawValue, hraw, hdata⟩, rfl⟩
    cases j with
    | str s =>
      cases hraw
      exact ⟨_, data, rfl, hdata, rfl⟩
    | _ => cases hraw
  · rintro ⟨rawValue, data, rfl, hdata, rfl⟩
    exact ⟨data, ⟨rawValue, rfl, hdata⟩, rfl⟩

theorem Rewrapped.ne_nil {aad data data' : Bytes} (h : Rewrapped A r aad data data') : data ≠ [] ∧ data' ≠ [] := by
  obtain ⟨plaintext, nonce, hopen, -, hopen'⟩ := h
  constructor
  · rintro rfl
    cases hopen
  · rintro rfl
    cases hopen'

/-- Every rewritten entry has a ciphertext that is made anew, and opens only if that one does. -/
theorem exists_rewrapped {ns : EncryptedNamespace} (hns : ns ∈ encryptedNamespaces r.includeSessions) {cell cell' : Cell Json}
    (hskip : ¬Skipped ns cell) (h : Reencrypted A r ns cell cell') :
    ∃ c ∈ ciphertexts ns.namespaceId cell', (∃ data, Rewrapped A r c.aad data c.data) ∧
      ∀ kek, Opens A kek ns cell' → ∃ plaintext, aesGcmDecrypt A kek c.data c.aad = some plaintext := by
  obtain ⟨hsession, hrequires, hfields, -⟩ := namespace_cases hns
  have hwf := wellFormed_of_mem hns
  cases cell with
  | garbled => exact h.elim
  | record j =>
    cases cell' with
    | garbled => exact h.elim
    | record j' =>
      cases hs : ns.isSessionNs with
      | true =>
        simp only [Reencrypted, hs, if_true] at h
        obtain ⟨rawValue, rawValue', data, data', rfl, rfl, hdata, hdata', hre⟩ := h
        rw [hsession.mp hs]
        refine ⟨⟨"", data', sessionAad⟩, mem_ciphertexts_session.mpr ⟨rawValue', data', rfl, hdata', rfl⟩, ⟨data, hre⟩, ?_⟩
        intro kek hopen
        simp only [Opens, hs, if_true] at hopen
        obtain ⟨raw, d, plaintext, hraw, hd, hplain⟩ := hopen
        cases hraw
        rw [hdata'] at hd
        cases hd
        exact ⟨plaintext, hplain⟩
      | false =>
        have hid : ns.namespaceId ≠ .sessions := fun he => by
          rw [hsession.mpr he] at hs
          cases hs
        simp only [Reencrypted, hs, Bool.false_eq_true, if_false] at h
        obtain ⟨_, hre⟩ := h
        have hflag : encryptedFlag j'.entries = true := by
          rw [encryptedFlag, hre.others "encrypted" hwf.flag, ← encryptedFlag]
          by_contra hno
          exact hskip ⟨hs, hrequires hs, Bool.eq_false_iff.mpr hno⟩
        obtain ⟨field, hfield, hreq⟩ := hwf.required hs
        rcases hre.fields field hfield with ⟨hopt, _⟩ | ⟨form, data, data', _, hd', haad, hrew⟩
        · rw [hreq] at hopt
          cases hopt
        · rw [← haad] at hrew
          refine ⟨⟨field.jsonKey, data', field.aad.bytes j'.entries⟩, ?_, ⟨data, hrew⟩, fun kek hopen => ?_⟩
          · rw [mem_ciphertexts hid]
            exact ⟨hflag, field, hfields field hfield, fieldCiphertext_eq_some.mpr ⟨form, hd', hrew.ne_nil.2, rfl, rfl⟩⟩
          · simp only [Opens, hs, Bool.false_eq_true, if_false] at hopen
            rcases hopen field hfield with ⟨hopt, _⟩ | ⟨_, d, plaintext, hd, hplain⟩
            · rw [hreq] at hopt
              cases hopt
            · rw [hd'] at hd
              cases hd
              exact ⟨plaintext, hplain⟩

theorem not_skipped_of_reencrypted {ns : EncryptedNamespace} (hns : ns.WellFormed) {cell cell' : Cell Json} (hskip : ¬Skipped ns cell)
    (h : Reencrypted A r ns cell cell') : ¬Skipped ns cell' := by
  cases cell with
  | garbled => exact h.elim
  | record j =>
    cases cell' with
    | garbled => exact h.elim
    | record j' =>
      intro hskip'
      obtain ⟨hs, hrequires, hflag⟩ := hskip'
      simp only [Reencrypted, hs, Bool.false_eq_true, if_false] at h
      refine hskip ⟨hs, hrequires, ?_⟩
      rw [encryptedFlag, ← h.2.others "encrypted" hns.flag]
      exact hflag

/-! ## The second run -/

def Readable (A : AesGcm) (r : RotateKek) (store : KvStore) : Prop :=
  ∀ ns ∈ encryptedNamespaces r.includeSessions, r.configured ns.namespaceId = true → ¬Refuses A r store ns

/-- The run on `store` succeeds and leaves every encrypted entry of `original` under the new key, with the
plaintexts it had. -/
def Recovers (A : AesGcm) (r : RotateKek) (original store : KvStore) : Prop :=
  (runKek A r store).1 = .ok () ∧
    ∀ ns ∈ encryptedNamespaces r.includeSessions, r.configured ns.namespaceId = true →
      ∀ key cell, Listed original ns key cell → ¬Skipped ns cell →
        ∃ cell', ((runKek A r store).2 ns.namespaceId)[key]? = some cell' ∧ Reencrypted A r ns cell cell'

def NothingEncrypted (r : RotateKek) (store : KvStore) : Prop :=
  ∀ ns ∈ encryptedNamespaces r.includeSessions, r.configured ns.namespaceId = true →
    ∀ key cell, Listed store ns key cell → Skipped ns cell

/-- A ciphertext of an entry that the run writes, made anew under the new key. -/
def Made (A : AesGcm) (r : RotateKek) (store : KvStore) (c : Ciphertext) : Prop :=
  ∃ id key cell, (id, key, cell) ∈ kekPuts A r store ∧ c ∈ ciphertexts id cell ∧ ∃ data, Rewrapped A r c.aad data c.data

section
variable (hA : A.Lawful) (hrotate : r.verifyOnly = false) (hold : r.oldKek.length = 32) (hnew : r.newKek.length = 32)
  (store : KvStore)

include hA hrotate hold hnew

theorem kekPuts_eq_nil_iff (hread : Readable A r store) : kekPuts A r store = [] ↔ NothingEncrypted r store := by
  constructor
  · intro hnil ns hns hc key cell hl
    by_contra hskip
    obtain ⟨cell', hput, _⟩ := put_of_listed store hold hnew hA hrotate hns hc (hread ns hns hc) hl hskip
    rw [hnil] at hput
    cases hput
  · intro hnone
    refine List.eq_nil_iff_forall_not_mem.mpr fun w hw => ?_
    obtain ⟨ns, hns, hid, hc, _, cell, hl, hskip, _⟩ := of_put store hold hnew hA hrotate hw
    exact hskip (hnone ns hns (hid ▸ hc) _ cell hl)

theorem recovers_of_readable (hread : Readable A r store) : Recovers A r store store := by
  refine ⟨(runKek_ok_iff_opens hA hrotate hold hnew store).mpr hread, fun ns hns hc key cell hl hskip => ?_⟩
  obtain ⟨cell', hput, hre⟩ := put_of_listed store hold hnew hA hrotate hns hc (hread ns hns hc) hl hskip
  exact ⟨cell', runKek_get_of_put store hold hnew hput, hre⟩

theorem of_committed {n : Nat} {w : NamespaceId × String × Cell Json} (hw : w ∈ (kekPuts A r store).take n) :
    ∃ ns ∈ encryptedNamespaces r.includeSessions, r.configured ns.namespaceId = true ∧
      ∃ key cell, Listed (interrupted A r n store) ns key cell ∧ ¬Skipped ns cell ∧
        ∃ c ∈ ciphertexts ns.namespaceId cell, Made A r store c ∧
          ∀ kek, Opens A kek ns cell → ∃ plaintext, aesGcmDecrypt A kek c.data c.aad = some plaintext := by
  have hnd : (((kekPuts A r store).take n).map address).Nodup := by
    rw [List.map_take]
    exact (kekPuts_nodup store hold hnew).take
  have hput := List.mem_of_mem_take hw
  obtain ⟨id, key, cell'⟩ := w
  obtain ⟨ns, hns, rfl, hc, _, cell, hl, hskip, hre⟩ := of_put store hold hnew hA hrotate hput
  obtain ⟨c, hmem, hmade, hopen⟩ := exists_rewrapped hns hskip hre
  exact ⟨ns, hns, hc, key, cell', ⟨commit_get_of_mem _ _ hnd hw, hl.2⟩, not_skipped_of_reencrypted (wellFormed_of_mem hns) hskip hre,
    c, hmem, ⟨_, key, cell', hput, hmem, hmade⟩, hopen⟩

theorem refuses_of_committed (hrej : ∀ c, Made A r store c → A.Rejects r.oldKek c.data c.aad) {n : Nat}
    {w : NamespaceId × String × Cell Json} (hw : w ∈ (kekPuts A r store).take n) :
    ∃ ns ∈ encryptedNamespaces r.includeSessions, r.configured ns.namespaceId = true ∧ Refuses A r (interrupted A r n store) ns := by
  obtain ⟨ns, hns, hc, key, cell, hl, hskip, c, -, hmade, hopen⟩ := of_committed hA hrotate hold hnew store hw
  refine ⟨ns, hns, hc, key, cell, hl, hskip, fun h => ?_⟩
  obtain ⟨plaintext, hplain⟩ := hopen _ h
  rw [aesGcmDecrypt_rejected (hrej c hmade)] at hplain
  cases hplain

/-- Whatever the cipher, a run that had written nothing can be run again. -/
theorem rerun_recovers (hread : Readable A r store) (nonces : NamespaceId → String → String → Vector UInt8 12) {n : Nat}
    (h : n = 0 ∨ NothingEncrypted r store) : Recovers A { r with nonces } store (interrupted A r n store) := by
  have hstore : interrupted A r n store = store := by
    rcases h with rfl | hnone
    · rfl
    · rw [interrupted, (kekPuts_eq_nil_iff hA hrotate hold hnew store hread).mpr hnone, List.take_nil, commit_nil]
  rw [hstore]
  exact recovers_of_readable (r := { r with nonces }) hA hrotate hold hnew store hread

/-- **Resuming.** From a store that is readable under the old key, a run that was cut off after `n`
writes can be completed by running the tool again exactly when it had written nothing, or nothing
is encrypted. -/
theorem rerun_recovers_iff (hrej : ∀ c, Made A r store c → A.Rejects r.oldKek c.data c.aad) (hread : Readable A r store)
    (nonces : NamespaceId → String → String → Vector UInt8 12) (n : Nat) :
    Recovers A { r with nonces } store (interrupted A r n store) ↔ n = 0 ∨ NothingEncrypted r store := by
  refine ⟨fun hrec => ?_, rerun_recovers hA hrotate hold hnew store hread nonces⟩
  by_contra hno
  rw [not_or, ← kekPuts_eq_nil_iff hA hrotate hold hnew store hread] at hno
  obtain ⟨w, hw⟩ : ∃ w, w ∈ (kekPuts A r store).take n := by
    refine List.exists_mem_of_ne_nil _ fun hnil => ?_
    rcases List.take_eq_nil_iff.mp hnil with h | h
    · exact hno.1 h
    · exact hno.2 h
  obtain ⟨ns, hns, hc, hrefuses⟩ := refuses_of_committed hA hrotate hold hnew store hrej hw
  have hok := (runKek_ok_iff_opens (r := { r with nonces }) hA hrotate hold hnew _).mp hrec.1 ns hns hc
  exact hok hrefuses

end

end

/-! ## A drill that is cut off -/

theorem drillStore_readable : Readable clearGcm drillKek drillStore := by
  intro ns hns _
  rw [← nsFailed_eq_nil_iff drillStore rfl clearGcm_lawful rfl (wellFormed_of_mem hns)]
  have hall : ∀ ns ∈ encryptedNamespaces false, nsFailed clearGcm drillKek drillStore ns = [] := by decide +kernel
  exact hall ns hns

theorem drill_made_rejected : ∀ c, Made clearGcm drillKek drillStore c → clearGcm.Rejects drillKek.oldKek c.data c.aad := by
  rintro ⟨name, data', aad⟩ ⟨_, _, _, -, -, data, plaintext, nonce, -, hdata, -⟩
  rw [hdata]
  exact clearGcm_rejects (by decide) nonce plaintext aad

theorem drill_recovers_unwritten : Recovers clearGcm drillKek drillStore (interrupted clearGcm drillKek 0 drillStore) :=
  (rerun_recovers_iff clearGcm_lawful rfl rfl rfl drillStore drill_made_rejected drillStore_readable drillKek.nonces 0).mpr
    (.inl rfl)

theorem drill_not_resumed : Readable clearGcm drillKek drillStore ∧
    ¬Recovers clearGcm drillKek drillStore (interrupted clearGcm drillKek 1 drillStore) := by
  refine ⟨drillStore_readable, fun h => ?_⟩
  have hfails : (runKek clearGcm drillKek (interrupted clearGcm drillKek 1 drillStore)).1 ≠ .ok () := by decide +kernel
  exact hfails h.1

end Issuer.Tool
