import Issuer.AttestationKeySound

/-!
# The configuration in KV (`get_issuer_config`, `put_issuer_config`)

The configuration is read from `issuer:{issuer_kid}:config`, the key that `ISSUER_ID` gives. A read
of that key that yields nothing is followed by a scan of the namespace, and the first `:config` key
that can be read is taken. Writes always go to the key that `ISSUER_ID` gives.

A value is the `IssuerConfig` that its text parses to.
-/

namespace Issuer

open Rust Store

structure PolicyConfig where
  schema : String
  validityDays : Nat
  v : Nat
deriving DecidableEq, Repr

structure StoredIssuerConfig extends IssuerConfig where
  defaultPolicy : PolicyConfig
deriving DecidableEq, Repr

abbrev ConfigKv := Table String (Cell StoredIssuerConfig)

namespace ConfigStore

structure Env where
  namespaceError : Option String
  issuerId : Option String

/-- How KV answers a read: with what is stored, with nothing, or with an error. -/
inductive ReadOutcome where
  | stored
  | absent
  | failed
deriving DecidableEq, Repr

structure Reads where
  primary : ReadOutcome
  listError : Option String
  listed : String → ReadOutcome

def Reads.all : Reads := ⟨.stored, none, fun _ => .stored⟩

def configKey (issuerId : String) : String := "issuer:" ++ extractIssuerKid issuerId ++ ":config"

def readText (outcome : ReadOutcome) (kv : ConfigKv) (key : String) : Except Unit (Option (Cell StoredIssuerConfig)) :=
  match outcome with
  | .stored => .ok kv[key]?
  | .absent => .ok none
  | .failed => .error ()

def parse : Cell StoredIssuerConfig → Except ApiError StoredIssuerConfig
  | .record config => .ok config
  | .garbled => .error .json

def listLimit : Nat := 1000

def discover (reads : Reads) (kv : ConfigKv) : List String → Option (Cell StoredIssuerConfig)
  | [] => none
  | name :: names =>
    if hasSuffix ":config" name then
      match readText (reads.listed name) kv name with
      | .ok (some data) => some data
      | _ => discover reads kv names
    else discover reads kv names

def getIssuerConfig (env : Env) (reads : Reads) (kv : ConfigKv) : Except ApiError StoredIssuerConfig :=
  match env.namespaceError with
  | some e => .error (.storageError ("Failed to get KV namespace: " ++ e))
  | none =>
    match env.issuerId with
    | none => .error (.storageError "ISSUER_ID environment variable is required but not set")
    | some issuerId =>
      match readText reads.primary kv (configKey issuerId) with
      | .ok (some data) => parse data
      -- an error of the read goes the way of an absent key
      | _ =>
        match reads.listError with
        | some e => .error (.storageError ("Failed to list configs: " ++ e))
        | none =>
          if listLimit < kv.size then
            .error (.storageError "Config namespace list truncated; cannot auto-discover issuer config reliably")
          else
            match discover reads kv kv.keys with
            | some data => parse data
            | none =>
              .error (.storageError "Issuer configuration not found. Neither KV nor environment variables provide a valid config.")

def putIssuerConfig (env : Env) (putError : Option String) (config : StoredIssuerConfig) (kv : ConfigKv) :
    Except ApiError Unit × ConfigKv :=
  match env.namespaceError with
  | some e => (.error (.storageError ("Failed to get KV namespace: " ++ e)), kv)
  | none =>
    match env.issuerId with
    | none => (.error (.storageError "ISSUER_ID environment variable is required but not set"), kv)
    | some issuerId =>
      match putError with
      | some e => (.error (.storageError ("Failed to write issuer config: " ++ e)), kv)
      | none => (.ok (), kv.insert (configKey issuerId) (.record config))

/-- A rotation and what its reads and its write meet. -/
structure Rotation where
  newKid : String
  reads : Reads
  verifyingKeys : String → String → Except ApiError (Option IssuerEd25519Key)
  signingKeys : String → String → Except ApiError (Option IssuerEd25519SigningKey)
  putError : Option String

def promote (newKid : String) (config : StoredIssuerConfig) : StoredIssuerConfig :=
  { config with previousKid := some config.defaultKid, defaultKid := newKid }

def rotateAttestationKeyInner (env : Env) (r : Rotation) (kv : ConfigKv) :
    Except ApiError (String × String) × ConfigKv :=
  match getIssuerConfig env r.reads kv with
  | .error _ => (.error (.internal "Internal server error"), kv)
  | .ok config =>
    if config.defaultKid = r.newKid then (.error (.badRequest "new_kid is already the active default_kid"), kv)
    else
      match getIssuerEd25519Key r.verifyingKeys config.issuerId r.newKid with
      | .error _ => (.error (.internal "Internal server error"), kv)
      | .ok none => (.error (.badRequest "new_kid has no verifying key loaded; load key material first"), kv)
      | .ok (some _) =>
        match getIssuerEd25519SigningKey r.signingKeys config.issuerId r.newKid with
        | .error _ => (.error (.internal "Internal server error"), kv)
        | .ok none => (.error (.badRequest "new_kid has no signing key loaded; load key material first"), kv)
        | .ok (some _) =>
          match putIssuerConfig env r.putError (promote r.newKid config) kv with
          | (.error _, kv) => (.error (.internal "Internal server error"), kv)
          | (.ok (), kv) => (.ok (config.defaultKid, r.newKid), kv)

/-! ## What a rotation does -/

section
variable {env : Env} {reads : Reads} {kv kv' : ConfigKv} {r : Rotation} {config : StoredIssuerConfig} {issuerId : String}

/-- The checks between the read of the configuration and its write. -/
structure Promotes (r : Rotation) (config : StoredIssuerConfig) : Prop where
  other : config.defaultKid ≠ r.newKid
  verifying : ∃ key, getIssuerEd25519Key r.verifyingKeys config.issuerId r.newKid = .ok (some key)
  signing : ∃ record, getIssuerEd25519SigningKey r.signingKeys config.issuerId r.newKid = .ok (some record)
  put : r.putError = none

theorem getIssuerConfig_env (h : getIssuerConfig env reads kv = .ok config) :
    env.namespaceError = none ∧ ∃ issuerId, env.issuerId = some issuerId := by
  cases hn : env.namespaceError with
  | some e => simp [getIssuerConfig, hn] at h
  | none =>
    cases hi : env.issuerId with
    | none => simp [getIssuerConfig, hn, hi] at h
    | some issuerId => exact ⟨rfl, issuerId, rfl⟩

theorem putIssuerConfig_ok_iff {putError : Option String} (hn : env.namespaceError = none)
    (hi : env.issuerId = some issuerId) :
    putIssuerConfig env putError config kv = (.ok (), kv') ↔
      putError = none ∧ kv' = kv.insert (configKey issuerId) (.record config) := by
  cases putError with
  | some e => simp [putIssuerConfig, hn, hi]
  | none => simp [putIssuerConfig, hn, hi, eq_comm]

theorem rotateAttestationKeyInner_ok_iff (hn : env.namespaceError = none) (hi : env.issuerId = some issuerId)
    {kids : String × String} :
    rotateAttestationKeyInner env r kv = (.ok kids, kv') ↔
      ∃ config, getIssuerConfig env r.reads kv = .ok config ∧ Promotes r config ∧ kids = (config.defaultKid, r.newKid) ∧
        kv' = kv.insert (configKey issuerId) (.record (promote r.newKid config)) := by
  constructor
  · intro h
    unfold rotateAttestationKeyInner at h
    split at h
    · cases h
    rename_i config hget
    split at h
    · cases h
    rename_i hother
    split at h
    · cases h
    · cases h
    rename_i key hkey
    split at h
    · cases h
    · cases h
    rename_i record hrecord
    split at h
    · cases h
    rename_i hput
    cases h
    obtain ⟨hput, hkv⟩ := (putIssuerConfig_ok_iff hn hi).mp hput
    exact ⟨config, hget, ⟨hother, ⟨key, hkey⟩, ⟨record, hrecord⟩, hput⟩, rfl, hkv⟩
  · intro h
    obtain ⟨config, hget, ⟨hother, ⟨key, hkey⟩, ⟨record, hrecord⟩, hput⟩, hkids, hkv⟩ := h
    simp only [rotateAttestationKeyInner, hget, if_neg hother, hkey, hrecord, (putIssuerConfig_ok_iff hn hi).mpr ⟨hput, hkv⟩,
      hkids]

def Rotation.request (r : Rotation) (admission : Except ApiError Unit) (calls : LockCalls) : AttestationRotation :=
  ⟨r.newKid, admission, calls, false, r.verifyingKeys, r.signingKeys, r.putError.isSome⟩

/-- On the configuration it reads, the rotation is that of `AttestationKey`. -/
theorem rotateAttestationKeyInner_refines (hget : getIssuerConfig env r.reads kv = .ok config)
    (hi : env.issuerId = some issuerId) (admission : Except ApiError Unit) (calls : LockCalls) :
    let (result, config') := Issuer.rotateAttestationKeyInner (r.request admission calls) config.toIssuerConfig
    rotateAttestationKeyInner env r kv = (result, if result.isOk then
      kv.insert (configKey issuerId) (.record { config with toIssuerConfig := config' }) else kv) := by
  have hn := (getIssuerConfig_env hget).1
  by_cases hsame : config.defaultKid = r.newKid
  · simp [rotateAttestationKeyInner, Issuer.rotateAttestationKeyInner, Rotation.request, hget, hsame, Except.isOk, Except.toBool]
  cases hv : getIssuerEd25519Key r.verifyingKeys config.issuerId r.newKid with
  | error e =>
    simp [rotateAttestationKeyInner, Issuer.rotateAttestationKeyInner, Rotation.request, hget, hsame, hv, Except.isOk, Except.toBool]
  | ok key =>
    cases key with
    | none =>
      simp [rotateAttestationKeyInner, Issuer.rotateAttestationKeyInner, Rotation.request, hget, hsame, hv, Except.isOk, Except.toBool]
    | some key =>
      cases hs : getIssuerEd25519SigningKey r.signingKeys config.issuerId r.newKid with
      | error e =>
        simp [rotateAttestationKeyInner, Issuer.rotateAttestationKeyInner, Rotation.request, hget, hsame, hv, hs, Except.isOk,
          Except.toBool]
      | ok record =>
        cases record with
        | none =>
          simp [rotateAttestationKeyInner, Issuer.rotateAttestationKeyInner, Rotation.request, hget, hsame, hv, hs, Except.isOk,
            Except.toBool]
        | some record =>
          cases hput : r.putError with
          | some e =>
            simp [rotateAttestationKeyInner, Issuer.rotateAttestationKeyInner, Rotation.request, hget, hsame, hv, hs,
              putIssuerConfig, hn, hi, hput, Except.isOk, Except.toBool]
          | none =>
            simp [rotateAttestationKeyInner, Issuer.rotateAttestationKeyInner, Rotation.request, hget, hsame, hv, hs,
              putIssuerConfig, hn, hi, hput, promote, Except.isOk, Except.toBool]

/-! ## What is read -/

theorem readText_eq_some {outcome : ReadOutcome} {key : String} {data : Cell StoredIssuerConfig} :
    readText outcome kv key = .ok (some data) ↔ outcome = .stored ∧ kv[key]? = some data := by
  cases outcome <;> simp [readText]

/-- `data` is under the first `:config` name that a read answers. -/
def FirstAnswered (reads : Reads) (kv : ConfigKv) (names : List String) (data : Cell StoredIssuerConfig) : Prop :=
  ∃ before name after, names = before ++ name :: after ∧ hasSuffix ":config" name = true ∧ reads.listed name = .stored ∧
    kv[name]? = some data ∧
    ∀ n ∈ before, hasSuffix ":config" n = true → ∀ data', ¬(reads.listed n = .stored ∧ kv[n]? = some data')

theorem discover_cons_skip {name : String} {names : List String}
    (h : hasSuffix ":config" name = true → ∀ data, ¬(reads.listed name = .stored ∧ kv[name]? = some data)) :
    discover reads kv (name :: names) = discover reads kv names := by
  simp only [discover]
  split
  · rename_i hconfig
    split
    · rename_i data hdata
      exact absurd (readText_eq_some.mp hdata) (h hconfig data)
    · rfl
  · rfl

theorem discover_cons_found {name : String} {names : List String} {data : Cell StoredIssuerConfig}
    (hconfig : hasSuffix ":config" name = true) (h : reads.listed name = .stored ∧ kv[name]? = some data) :
    discover reads kv (name :: names) = some data := by
  simp only [discover, if_pos hconfig, readText_eq_some.mpr h]

theorem discover_eq_some {data : Cell StoredIssuerConfig} {names : List String} :
    discover reads kv names = some data ↔ FirstAnswered reads kv names data := by
  induction names with
  | nil => simp [discover, FirstAnswered]
  | cons name names ih =>
    by_cases hfound : hasSuffix ":config" name = true ∧ ∃ d, reads.listed name = .stored ∧ kv[name]? = some d
    · obtain ⟨hconfig, d, hd⟩ := hfound
      rw [discover_cons_found hconfig hd]
      constructor
      · intro h
        cases h
        exact ⟨[], name, names, rfl, hconfig, hd.1, hd.2, by simp⟩
      · intro h
        obtain ⟨before, n, after, hnames, -, -, hdata, hbefore⟩ := h
        cases before with
        | nil =>
          cases hnames
          rw [← hd.2, hdata]
        | cons b before =>
          cases hnames
          exact absurd hd (hbefore name (List.mem_cons_self ..) hconfig d)
    · have hskip : hasSuffix ":config" name = true → ∀ d, ¬(reads.listed name = .stored ∧ kv[name]? = some d) :=
        fun hconfig d hd => hfound ⟨hconfig, d, hd⟩
      rw [discover_cons_skip hskip, ih]
      constructor
      · intro h
        obtain ⟨before, n, after, hnames, hconfig, hread, hdata, hbefore⟩ := h
        refine ⟨name :: before, n, after, by rw [hnames, List.cons_append], hconfig, hread, hdata, ?_⟩
        intro m hm
        cases hm with
        | head => exact hskip
        | tail _ hm => exact hbefore m hm
      · intro h
        obtain ⟨before, n, after, hnames, hconfig, hread, hdata, hbefore⟩ := h
        cases before with
        | nil =>
          cases hnames
          exact absurd ⟨hread, hdata⟩ (hskip hconfig data)
        | cons b before =>
          cases hnames
          exact ⟨before, n, after, rfl, hconfig, hread, hdata, fun m hm => hbefore m (List.mem_cons_of_mem _ hm)⟩

theorem parse_eq_ok {data : Cell StoredIssuerConfig} : parse data = .ok config ↔ data = .record config := by
  cases data <;> simp [parse]

theorem getIssuerConfig_primary (hn : env.namespaceError = none) (hi : env.issuerId = some issuerId)
    {data : Cell StoredIssuerConfig} (h : reads.primary = .stored ∧ kv[configKey issuerId]? = some data) :
    getIssuerConfig env reads kv = parse data := by
  simp only [getIssuerConfig, hn, hi, readText_eq_some.mpr h]

theorem getIssuerConfig_scan (hn : env.namespaceError = none) (hi : env.issuerId = some issuerId)
    (h : ∀ data, ¬(reads.primary = .stored ∧ kv[configKey issuerId]? = some data)) :
    getIssuerConfig env reads kv = .ok config ↔
      reads.listError = none ∧ kv.size ≤ listLimit ∧ FirstAnswered reads kv kv.keys (.record config) := by
  have hprimary : ∀ data, readText reads.primary kv (configKey issuerId) ≠ .ok (some data) :=
    fun data hd => h data (readText_eq_some.mp hd)
  have hscan : getIssuerConfig env reads kv =
      match reads.listError with
      | some e => .error (.storageError ("Failed to list configs: " ++ e))
      | none =>
        if listLimit < kv.size then
          .error (.storageError "Config namespace list truncated; cannot auto-discover issuer config reliably")
        else
          match discover reads kv kv.keys with
          | some data => parse data
          | none =>
            .error (.storageError
              "Issuer configuration not found. Neither KV nor environment variables provide a valid config.") := by
    cases hread : readText reads.primary kv (configKey issuerId) with
    | error u => simp only [getIssuerConfig, hn, hi, hread]
    | ok found =>
      cases found with
      | none => simp only [getIssuerConfig, hn, hi, hread]
      | some data => exact absurd hread (hprimary data)
  rw [hscan]
  cases hlist : reads.listError with
  | some e => simp
  | none =>
    by_cases hsize : listLimit < kv.size
    · simp only [if_pos hsize, reduceCtorEq, true_and, false_iff]
      omega
    · simp only [if_neg hsize, ← discover_eq_some]
      cases discover reads kv kv.keys with
      | none => simp
      | some data => simp [parse_eq_ok, Nat.not_lt.mp hsize]

/-! ## What a rotation leaves alone -/

/-- The primary read is answered, or the scan yields nothing, or it yields what is stored under this
issuer's key, or no configuration is stored there and the rotation is refused. -/
def Undisturbed (env : Env) (r : Rotation) (kv : ConfigKv) : Prop :=
  ∀ issuerId, env.namespaceError = none → env.issuerId = some issuerId →
    (∃ data, r.reads.primary = .stored ∧ kv[configKey issuerId]? = some data) ∨ r.reads.listError ≠ none ∨ listLimit < kv.size ∨
    ∀ found, FirstAnswered r.reads kv kv.keys (.record found) →
      kv[configKey issuerId]? = some (.record found) ∨
        (∀ own, kv[configKey issuerId]? ≠ some (.record own)) ∧ ¬Promotes r found

theorem Undisturbed.stored (h : Undisturbed env r kv) (hi : env.issuerId = some issuerId)
    (hget : getIssuerConfig env r.reads kv = .ok config) :
    kv[configKey issuerId]? = some (.record config) ∨
      (∀ own, kv[configKey issuerId]? ≠ some (.record own)) ∧ ¬Promotes r config := by
  have hn := (getIssuerConfig_env hget).1
  by_cases hprimary : ∃ data, r.reads.primary = .stored ∧ kv[configKey issuerId]? = some data
  · obtain ⟨data, hdata⟩ := hprimary
    rw [getIssuerConfig_primary hn hi hdata, parse_eq_ok] at hget
    rw [hdata.2, hget]
    exact .inl rfl
  · obtain ⟨hlist, hsize, hfirst⟩ := (getIssuerConfig_scan hn hi fun data hdata => hprimary ⟨data, hdata⟩).mp hget
    cases h issuerId hn hi with
    | inl hdata => exact absurd hdata hprimary
    | inr h =>
      cases h with
      | inl hfails => exact absurd hlist hfails
      | inr h =>
        cases h with
        | inl hlong => omega
        | inr h => exact h config hfirst

end

/-! ## One failed read -/

def configOf (issuerId kid : String) : StoredIssuerConfig :=
  ⟨⟨issuerId, "provii.app", kid, none⟩, ⟨"provii:dob:v1", 36500, 1⟩⟩

/-- The read of borough's own key fails. -/
def failedRead : Rotation where
  newKid := "borough-2"
  reads := { Reads.all with primary := .failed }
  verifyingKeys _ _ := .ok (some ⟨"Issuer", List.replicate 32 9, 0, 0, true⟩)
  signingKeys _ _ := .ok (some ⟨List.replicate 60 9, true, .active⟩)
  putError := none

end ConfigStore

end Issuer
