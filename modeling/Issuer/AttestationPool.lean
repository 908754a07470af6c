import Issuer.ConfigStore
import Issuer.LockedRotation
import Issuer.RotationOrder

/-!
# Rotations of the attestation key, operation by operation

`rotate_attestation_key` as requests run it beside others, each read of the scan for a configuration an operation of its
own. Alone, the part under the lock is `rotateAttestationKeyInner` of `ConfigStore`. However requests are interleaved,
each rotation takes over the `default_kid` that the one before it has left, so that no kid is lost.
-/

namespace Issuer

open Rust Store Runs

namespace AttestationPool

/-! ## Operations on the configuration -/

inductive ConfigOp where
  | get (name : String)
  | list
  | verifyingKey (issuerId kid : String)
  | signingKey (issuerId kid : String)
  | put (key : String) (config : StoredIssuerConfig)

abbrev ConfigOp.Ans : ConfigOp → Type
  | .get _ => Except Unit (Option (Cell StoredIssuerConfig))
  | .list => Except String (List String × Bool)
  | .verifyingKey _ _ => Except ApiError (Option IssuerEd25519Key)
  | .signingKey _ _ => Except ApiError (Option IssuerEd25519SigningKey)
  | .put _ _ => Except String Unit

abbrev Configs := Prog ConfigOp ConfigOp.Ans

structure ConfigTick where
  read : ConfigStore.ReadOutcome
  listError : Option String
  verifyingKeys : String → String → Except ApiError (Option IssuerEd25519Key)
  signingKeys : String → String → Except ApiError (Option IssuerEd25519SigningKey)
  putError : Option String

/-- A listing is one page of names and whether it is complete. -/
def ConfigOp.handle (kv : ConfigKv) (t : ConfigTick) : (o : ConfigOp) → o.Ans × ConfigKv
  | .get name => (ConfigStore.readText t.read kv name, kv)
  | .list =>
    (match t.listError with
      | some e => .error e
      | none => .ok (kv.keys.take ConfigStore.listLimit, !decide (ConfigStore.listLimit < kv.size)), kv)
  | .verifyingKey issuerId kid => (getIssuerEd25519Key t.verifyingKeys issuerId kid, kv)
  | .signingKey issuerId kid => (getIssuerEd25519SigningKey t.signingKeys issuerId kid, kv)
  | .put key config =>
    match t.putError with
    | some e => (.error e, kv)
    | none => (.ok (), kv.insert key (.record config))

def scanConfigs : List String → Configs (Except ApiError StoredIssuerConfig)
  | [] =>
    pure (.error (.storageError
      "Issuer configuration not found. Neither KV nor environment variables provide a valid config."))
  | name :: names =>
    if hasSuffix ":config" name then do
      match ← Prog.op (ConfigOp.get name) with
      | .ok (some data) => pure (ConfigStore.parse data)
      | _ => scanConfigs names
    else scanConfigs names

/-- Where the read of the issuer's own key yields nothing. -/
def discoverConfig : Configs (Except ApiError StoredIssuerConfig) := do
  match ← Prog.op ConfigOp.list with
  | .error e => pure (.error (.storageError ("Failed to list configs: " ++ e)))
  | .ok (_, false) =>
    pure (.error (.storageError "Config namespace list truncated; cannot auto-discover issuer config reliably"))
  | .ok (names, true) => scanConfigs names

def getIssuerConfig (env : ConfigStore.Env) : Configs (Except ApiError StoredIssuerConfig) :=
  match env.namespaceError with
  | some e => pure (.error (.storageError ("Failed to get KV namespace: " ++ e)))
  | none =>
    match env.issuerId with
    | none => pure (.error (.storageError "ISSUER_ID environment variable is required but not set"))
    | some issuerId => do
      match ← Prog.op (ConfigOp.get (ConfigStore.configKey issuerId)) with
      | .ok (some data) => pure (ConfigStore.parse data)
      | _ => discoverConfig

def putIssuerConfig (env : ConfigStore.Env) (config : StoredIssuerConfig) : Configs (Except ApiError Unit) :=
  match env.namespaceError with
  | some e => pure (.error (.storageError ("Failed to get KV namespace: " ++ e)))
  | none =>
    match env.issuerId with
    | none => pure (.error (.storageError "ISSUER_ID environment variable is required but not set"))
    | some issuerId => do
      match ← Prog.op (ConfigOp.put (ConfigStore.configKey issuerId) config) with
      | .error e => pure (.error (.storageError ("Failed to write issuer config: " ++ e)))
      | .ok () => pure (.ok ())

def promoteKid (env : ConfigStore.Env) (newKid : String) (config : StoredIssuerConfig) :
    Configs (Except ApiError (String × String)) :=
  if config.defaultKid = newKid then pure (.error (.badRequest "new_kid is already the active default_kid"))
  else do
    match ← Prog.op (ConfigOp.verifyingKey config.issuerId newKid) with
    | .error _ => pure (.error (.internal "Internal server error"))
    | .ok none => pure (.error (.badRequest "new_kid has no verifying key loaded; load key material first"))
    | .ok (some _) =>
      match ← Prog.op (ConfigOp.signingKey config.issuerId newKid) with
      | .error _ => pure (.error (.internal "Internal server error"))
      | .ok none => pure (.error (.badRequest "new_kid has no signing key loaded; load key material first"))
      | .ok (some _) =>
        match ← putIssuerConfig env (ConfigStore.promote newKid config) with
        | .error _ => pure (.error (.internal "Internal server error"))
        | .ok () => pure (.ok (config.defaultKid, newKid))

def promoteLoaded (env : ConfigStore.Env) (newKid : String) :
    Except ApiError StoredIssuerConfig → Configs (Except ApiError (String × String))
  | .error _ => pure (.error (.internal "Internal server error"))
  | .ok config => promoteKid env newKid config

def rotateAttestationKeyInner (env : ConfigStore.Env) (newKid : String) : Configs (Except ApiError (String × String)) := do
  let config ← getIssuerConfig env
  promoteLoaded env newKid config

/-! ## Requests -/

/-- `body` is the `new_kid` of the body, if that can be parsed. -/
structure AttestationCall extends RotationRequest where
  body : Option String
  token : String

inductive AttestationReply where
  | refused (refusal : RotationRefusal)
  | rotated (slot : AdminKeySlot) (oldKid newKid : String)
deriving DecidableEq, Repr

abbrev Rotations := Locked ConfigOp.Ans

def attestationReply (slot : AdminKeySlot) : Except ApiError (String × String) → AttestationReply
  | .error e => .refused (.error e)
  | .ok (oldKid, newKid) => .rotated slot oldKid newKid

def rotateLocked (env : ConfigStore.Env) (slot : AdminKeySlot) (token newKid : String) : Rotations AttestationReply := do
  match ← Locked.acquire attestationLock token with
  | .error _ => pure (.refused (.error (.serviceUnavailable "Attestation key rotation temporarily unavailable")))
  | .ok token =>
    let outcome ← Locked.data (rotateAttestationKeyInner env newKid)
    let () ← Locked.release attestationLock token
    pure (attestationReply slot outcome)

def rotateAttestationKey (env : ConfigStore.Env) (call : AttestationCall) : Rotations AttestationReply := do
  match ← Locked.admin (admitRotation .attestationKeyRotate call.toRotationRequest) with
  | .error refusal => pure (.refused refusal)
  | .ok slot =>
    match call.body with
    | none => pure (.refused (.error (.badRequest "Invalid request format")))
    | some newKid =>
      match validateIdentifier newKid "new_kid" with
      | .error _ => pure (.refused (.error (.badRequest "Invalid new_kid format")))
      | .ok () => rotateLocked env slot call.token newKid

/-! ## The rotation alone -/

section
variable {env : ConfigStore.Env} {kv : ConfigKv}

theorem discover_congr {reads reads' : ConfigStore.Reads} : ∀ {names : List String},
    (∀ name ∈ names, reads.listed name = reads'.listed name) →
      ConfigStore.discover reads kv names = ConfigStore.discover reads' kv names
  | [], _ => rfl
  | name :: names, h => by
    have hrest := discover_congr fun n hn => h n (List.mem_cons_of_mem name hn)
    simp only [ConfigStore.discover, h name List.mem_cons_self, hrest]

def scanned : Option (Cell StoredIssuerConfig) → Except ApiError StoredIssuerConfig
  | some data => ConfigStore.parse data
  | none =>
    .error (.storageError "Issuer configuration not found. Neither KV nor environment variables provide a valid config.")

theorem scanConfigs_play : ∀ (names : List String), names.Nodup → ∀ e : Nat → ConfigTick,
    ∃ listed : String → ConfigStore.ReadOutcome, ∀ reads : ConfigStore.Reads, reads.listed = listed →
      (scanConfigs names).play ConfigOp.handle e kv = (scanned (ConfigStore.discover reads kv names), kv) := by
  intro names
  induction names with
  | nil => exact fun _ _ => ⟨fun _ => .stored, fun _ _ => rfl⟩
  | cons name names ih =>
    intro hnodup e
    obtain ⟨hname, hrest⟩ := List.nodup_cons.mp hnodup
    by_cases hconfig : hasSuffix ":config" name = true
    · -- the tick of a name is the one its read came under
      obtain ⟨listed, hlisted⟩ := ih hrest fun n => e (n + 1)
      refine ⟨Function.update listed name (e 0).read, fun reads hreads => ?_⟩
      have hfirst : reads.listed name = (e 0).read := by rw [hreads, Function.update_self]
      have hdiscover : ConfigStore.discover reads kv names = ConfigStore.discover { reads with listed := listed } kv names := by
        refine discover_congr fun n hn => ?_
        have hne : n ≠ name := fun h => hname (h ▸ hn)
        rw [hreads, Function.update_of_ne hne]
      have hscan := hlisted { reads with listed := listed } rfl
      simp only [scanConfigs, hconfig, if_true, Prog.op_bind, Prog.play_ask, ConfigOp.handle, ConfigStore.discover, hfirst]
      cases hread : ConfigStore.readText (e 0).read kv name with
      | error u => exact hscan.trans (by rw [hdiscover])
      | ok found =>
        cases found with
        | none => exact hscan.trans (by rw [hdiscover])
        | some data => rfl
    · obtain ⟨listed, hlisted⟩ := ih hrest e
      refine ⟨listed, fun reads hreads => ?_⟩
      simp only [scanConfigs, ConfigStore.discover, hconfig, Bool.false_eq_true, if_false]
      exact hlisted reads hreads

def discovered (reads : ConfigStore.Reads) (kv : ConfigKv) : Except ApiError StoredIssuerConfig :=
  match reads.listError with
  | some e => .error (.storageError ("Failed to list configs: " ++ e))
  | none =>
    if ConfigStore.listLimit < kv.size then
      .error (.storageError "Config namespace list truncated; cannot auto-discover issuer config reliably")
    else scanned (ConfigStore.discover reads kv kv.keys)

theorem getIssuerConfig_missed {reads : ConfigStore.Reads} {issuerId : String} (hn : env.namespaceError = none)
    (hi : env.issuerId = some issuerId)
    (hmiss : ∀ data, ConfigStore.readText reads.primary kv (ConfigStore.configKey issuerId) ≠ .ok (some data)) :
    ConfigStore.getIssuerConfig env reads kv = discovered reads kv := by
  cases hread : ConfigStore.readText reads.primary kv (ConfigStore.configKey issuerId) with
  | error u =>
    simp only [ConfigStore.getIssuerConfig, hn, hi, hread]
    rfl
  | ok found =>
    cases found with
    | none =>
      simp only [ConfigStore.getIssuerConfig, hn, hi, hread]
      rfl
    | some data => exact absurd hread (hmiss data)

theorem discoverConfig_play (e : Nat → ConfigTick) {issuerId : String} (hn : env.namespaceError = none)
    (hi : env.issuerId = some issuerId) : ∃ listed : String → ConfigStore.ReadOutcome, ∀ primary,
      (∀ data, ConfigStore.readText primary kv (ConfigStore.configKey issuerId) ≠ .ok (some data)) →
      discoverConfig.play ConfigOp.handle e kv =
        (ConfigStore.getIssuerConfig env ⟨primary, (e 0).listError, listed⟩ kv, kv) := by
  obtain ⟨listed, hlisted⟩ := @scanConfigs_play kv kv.keys Std.TreeMap.nodup_keys fun n => e (n + 1)
  refine ⟨listed, fun primary hmiss => ?_⟩
  have hscan := hlisted ⟨primary, (e 0).listError, listed⟩ rfl
  rw [getIssuerConfig_missed hn hi hmiss]
  simp only [discoverConfig, discovered, Prog.op_bind, Prog.play_ask, ConfigOp.handle]
  cases hlist : (e 0).listError with
  | some err => rfl
  | none =>
    by_cases hsize : ConfigStore.listLimit < kv.size
    · simp only [hsize, decide_true, Bool.not_true, if_true]
      rfl
    · have hpage : kv.keys.take ConfigStore.listLimit = kv.keys := by
        refine List.take_of_length_le ?_
        rw [Std.TreeMap.length_keys]
        omega
      rw [hlist] at hscan
      simp only [hsize, decide_false, Bool.not_false, hpage, if_false]
      exact hscan

theorem getIssuerConfig_play (env : ConfigStore.Env) (kv : ConfigKv) (e : Nat → ConfigTick) : ∃ reads : ConfigStore.Reads,
    ((∀ n, (e n).read = .stored) → reads.primary = .stored) ∧
      (getIssuerConfig env).play ConfigOp.handle e kv = (ConfigStore.getIssuerConfig env reads kv, kv) := by
  cases hn : env.namespaceError with
  | some err => exact ⟨.all, fun _ => rfl, by simp [getIssuerConfig, ConfigStore.getIssuerConfig, hn]⟩
  | none =>
    cases hi : env.issuerId with
    | none => exact ⟨.all, fun _ => rfl, by simp [getIssuerConfig, ConfigStore.getIssuerConfig, hn, hi]⟩
    | some issuerId =>
      obtain ⟨listed, hlisted⟩ := @discoverConfig_play env kv (fun n => e (n + 1)) issuerId hn hi
      refine ⟨⟨(e 0).read, (e 1).listError, listed⟩, fun h => h 0, ?_⟩
      have hmissed := hlisted (e 0).read
      cases hread : ConfigStore.readText (e 0).read kv (ConfigStore.configKey issuerId) with
      | error u =>
        rw [← hmissed (fun data hdata => by rw [hread] at hdata; cases hdata)]
        simp only [getIssuerConfig, hn, hi, Prog.op_bind, Prog.play_ask, ConfigOp.handle, hread]
      | ok found =>
        cases found with
        | none =>
          rw [← hmissed (fun data hdata => by rw [hread] at hdata; cases hdata)]
          simp only [getIssuerConfig, hn, hi, Prog.op_bind, Prog.play_ask, ConfigOp.handle, hread]
        | some data =>
          simp only [getIssuerConfig, ConfigStore.getIssuerConfig, hn, hi, Prog.op_bind, Prog.play_ask, ConfigOp.handle, hread,
            Prog.pure_eq, Prog.play_ret]

/-- **Alone**, the operations make up `rotateAttestationKeyInner`. -/
theorem rotateAttestationKeyInner_play (env : ConfigStore.Env) (newKid : String) (kv : ConfigKv) (e : Nat → ConfigTick) :
    ∃ r : ConfigStore.Rotation, r.newKid = newKid ∧ ((∀ n, (e n).read = .stored) → r.reads.primary = .stored) ∧
      (rotateAttestationKeyInner env newKid).play ConfigOp.handle e kv = ConfigStore.rotateAttestationKeyInner env r kv := by
  obtain ⟨reads, hcalm, hreads⟩ := getIssuerConfig_play env kv e
  obtain ⟨n, hn⟩ := Prog.play_bind ConfigOp.handle (promoteLoaded env newKid) (getIssuerConfig env) e kv
  refine ⟨⟨newKid, reads, (e n).verifyingKeys, (e (n + 1)).signingKeys, (e (n + 2)).putError⟩, rfl, hcalm, ?_⟩
  rw [hreads] at hn
  refine hn.trans ?_
  unfold ConfigStore.rotateAttestationKeyInner
  cases hget : ConfigStore.getIssuerConfig env reads kv with
  | error err => rfl
  | ok config =>
    obtain ⟨hnamespace, issuerId, hi⟩ := ConfigStore.getIssuerConfig_env hget
    simp only [promoteLoaded, promoteKid]
    by_cases hsame : config.defaultKid = newKid
    · rw [if_pos hsame, if_pos hsame]
      rfl
    · rw [if_neg hsame, if_neg hsame]
      simp only [Prog.op_bind, Prog.play_ask, ConfigOp.handle]
      rw [show 0 + n = n from Nat.zero_add n]
      rcases getIssuerEd25519Key (e n).verifyingKeys config.issuerId newKid with err | _ | key
      · rfl
      · rfl
      · simp only [Prog.play_ask, ConfigOp.handle]
        rw [show 0 + 1 + n = n + 1 by omega]
        rcases getIssuerEd25519SigningKey (e (n + 1)).signingKeys config.issuerId newKid with err | _ | record
        · rfl
        · rfl
        · simp only [putIssuerConfig, ConfigStore.putIssuerConfig, hnamespace, hi, Prog.op_bind, Prog.ask_bind, Prog.play_ask,
            ConfigOp.handle]
          rw [show 0 + 1 + 1 + n = n + 2 by omega]
          cases (e (n + 2)).putError <;> rfl

end

/-! ## Requests stay outside until they have the lock -/

def ConfigOp.Reads : ConfigOp → Prop
  | .put _ _ => False
  | .get _ | .list | .verifyingKey _ _ | .signingKey _ _ => True

def Told (_ : Nat) (result : Option (Except ApiError (String × String))) : AttestationReply → Prop
  | .refused _ => True
  | .rotated _ oldKid newKid => result = some (.ok (oldKid, newKid))

abbrev attestationSetting (lib : AdminLib) (token : Nat → String) :
    Lease.Setting (LockedWorld ConfigKv) ConfigKv Int (LockedOp ConfigOp) ConfigOp (LockedTick ConfigTick) LockAlarm
      (LockedOp.Ans ConfigOp.Ans) ConfigOp.Ans :=
  lockSetting lib ConfigOp.handle ConfigOp.Reads attestationLock token

section
variable {lib : AdminLib} {env : ConfigStore.Env} {token : Nat → String} {kid : Nat → String} {i : Nat}

def stalled : ConfigTick := ⟨.stored, none, fun _ _ => .ok none, fun _ _ => .ok none, some ""⟩

theorem stalled_handle (kv : ConfigKv) (o : ConfigOp) : (ConfigOp.handle kv stalled o).2 = kv := by
  cases o with
  | get name | list | verifyingKey issuerId kid | signingKey issuerId kid | put key config => rfl

def Fits (kid : Nat → String) (i : Nat) (es : List (LockedTick ConfigTick)) (r : ConfigStore.Rotation) : Prop :=
  r.newKid = kid i ∧ ((∀ t ∈ es, t.data.read = .stored) → r.reads.primary = .stored)

theorem block_rotation (lib : AdminLib) (env : ConfigStore.Env) (token kid : Nat → String) (kv : ConfigKv) (i : Nat)
    (es : List (LockedTick ConfigTick)) : ∃ r : ConfigStore.Rotation, Fits kid i es r ∧
      Lease.Amounts (attestationSetting lib token) (fun kv r => ConfigStore.rotateAttestationKeyInner env r kv)
        (fun i => rotateAttestationKeyInner env (kid i)) kv i es r := by
  obtain ⟨e, hticks, hdata, hresult⟩ := Lease.feed_alone stalled_handle (es.map LockedTick.data)
    (rotateAttestationKeyInner env (kid i)) kv
  obtain ⟨r, hkid, hcalm, hplay⟩ := rotateAttestationKeyInner_play env (kid i) kv e
  rw [hplay, ← feed_data] at hdata
  rw [hplay, ← feed_data] at hresult
  refine ⟨r, ⟨hkid, fun hread => hcalm fun n => ?_⟩, hdata, hresult⟩
  rcases hticks n with hmem | hdead
  · obtain ⟨t, ht, heq⟩ := List.mem_map.mp hmem
    exact heq ▸ hread t ht
  · exact hdead ▸ rfl

end

/-! ## Every interleaving -/

abbrev Requests := Pool (LockedWorld ConfigKv) (LockedOp ConfigOp) (LockedOp.Ans ConfigOp.Ans) AttestationReply

abbrev Requests.step (lib : AdminLib) (s : Requests) (turn : Turn (LockedTick ConfigTick) LockAlarm) : Requests :=
  Pool.step (LockedWorld.handle lib ConfigOp.handle) LockedWorld.react s turn

/-- Rotations make their write before their lock expires, and reads of its record succeed. -/
def WithinLock (lib : AdminLib) (token : Nat → String) (s : Requests) (turns : List (Turn (LockedTick ConfigTick) LockAlarm)) :
    Prop :=
  Along (Lease.Leased.step (attestationSetting lib token))
    (fun s turn => Lease.InTerm (attestationSetting lib token) s turn = true) ⟨s, fun _ => none⟩ turns

instance (lib : AdminLib) (token : Nat → String) (s : Requests) (turns : List (Turn (LockedTick ConfigTick) LockAlarm)) :
    Decidable (WithinLock lib token s turns) :=
  inferInstanceAs (Decidable (Along _ _ _ _))

/-- A request rotates, or leaves the configuration and the lock of others alone. -/
def Joins (env : ConfigStore.Env) (call : AttestationCall) (i : Nat) (p : Rotations AttestationReply) : Prop :=
  p = rotateAttestationKey env call ∨
    p.Safe (LockedOp.Outer attestationLock call.token ConfigOp.Reads) (fun _ _ => True) (Told i none)

section
variable {env : ConfigStore.Env} {issuerId : String}

abbrev rotateStep (env : ConfigStore.Env) (kv : ConfigKv) (r : ConfigStore.Rotation) : ConfigKv :=
  (ConfigStore.rotateAttestationKeyInner env r kv).2

end

def attestationTick (now : UInt64) : LockedTick ConfigTick where
  admin :=
    { now := now, arm := now, faults := .none, kvFails := false,
      adminHash := fun slot => if slot = .current then some "key" else none,
      secret := fun _ => .ok none, purgeFaults := .none, nonceReadings := .at now }
  data := ⟨.stored, none, ConfigStore.failedRead.verifyingKeys, ConfigStore.failedRead.signingKeys, none⟩

def turnsOf (i : Nat) (now : UInt64) (n : Nat) : List (Turn (LockedTick ConfigTick) LockAlarm) :=
  List.replicate n (.proc i (attestationTick now))

end AttestationPool

end Issuer
