import Issuer.LastUsed

/-!
# Which updates of the time of use a rotation survives

The tool follows a protocol for each record (`rotateKek_follows`): it reads the record once, and writes once what
it has made of what it read. With timely updates nothing comes between the two, and every later update has
read what the tool has written, so that `timely_updates_keep_rotation` holds along every run.
-/

namespace Issuer.Tool

open Rust Store Batch

/-! ## Updates -/

/-- The record that an update puts in the place of the one it has read. -/
inductive Touched : NamespaceId → Json → Cell Json → Prop
  | officer {j : Json} {officer : OfficerRegistration} (now : UInt64) : OfficerRegistration.ofJson j = some officer →
    Touched .officers j (.record { officer with lastUsed := some (nowEpochSecs now) }.toJson)
  | client {j : Json} {client : ClientRegistration} (now : UInt64) : ClientRegistration.ofJson j = some client →
    Touched .clients j (.record { client with lastUsed := some (nowEpochSecs now) }.toJson)

theorem update_cases (u : UseUpdate) : (∃ x, u.prog = .ret x) ∨ ∃ id key k, u.prog = .ask (.get id key) k ∧
    ∀ x, (∃ y, k x = .ret y) ∨ ∃ j value, x = some (.record j) ∧ Touched id j value ∧
      k x = .ask (.put id key value) fun _ => .ret (.ok ()) := by
  cases u with
  | officer issuerKid officerId now =>
    simp only [UseUpdate.prog, updateOfficerLastUsedById]
    cases validateIdentifier officerId "officer_id" with
    | error e => exact .inl ⟨_, rfl⟩
    | ok _ =>
      refine .inr ⟨_, _, _, rfl, fun x => ?_⟩
      cases x with
      | none => exact .inl ⟨_, rfl⟩
      | some cell =>
        cases cell with
        | garbled => exact .inl ⟨_, rfl⟩
        | record j =>
          cases hj : OfficerRegistration.ofJson j with
          | none => exact .inl ⟨.error .json, by simp only [hj]⟩
          | some officer => exact .inr ⟨j, _, rfl, .officer now hj, by simp only [hj]⟩
  | client clientId kvKey now =>
    simp only [UseUpdate.prog, updateClientLastUsedAt]
    cases validateIdentifier clientId "client_id" with
    | error e => exact .inl ⟨_, rfl⟩
    | ok _ =>
      cases kvKey with
      | none => exact .inl ⟨_, rfl⟩
      | some key =>
        refine .inr ⟨_, _, _, rfl, fun x => ?_⟩
        cases x with
        | none => exact .inl ⟨_, rfl⟩
        | some cell =>
          cases cell with
          | garbled => exact .inl ⟨_, rfl⟩
          | record j =>
            cases hj : ClientRegistration.ofJson j with
            | none => exact .inl ⟨.error .json, by simp only [hj]⟩
            | some client => exact .inr ⟨j, _, rfl, .client now hj, by simp only [hj]⟩

theorem flagged_obj {ns : EncryptedNamespace} (hns : ns ∈ [officersNs, clientsNs]) {j : Json} (h : ¬Skipped ns (.record j)) :
    ∃ members, j = .obj members ∧ encryptedFlag (Json.obj members).entries = true := by
  have hplain : ns.isSessionNs = false ∧ ns.requiresEncryptedFlag = true := by
    have hall : ∀ ns ∈ [officersNs, clientsNs], ns.isSessionNs = false ∧ ns.requiresEncryptedFlag = true := by decide
    exact hall ns hns
  have hflag : encryptedFlag j.entries = true := by
    by_contra hno
    exact h ⟨hplain.1, hplain.2, Bool.eq_false_iff.mpr hno⟩
  cases j with
  | obj members => exact ⟨members, rfl, hflag⟩
  | _ => simp [encryptedFlag, Json.entries] at hflag

/-- The encrypted members of a registration are those of the one it has replaced. -/
theorem touched_members {ns : EncryptedNamespace} (hns : ns ∈ [officersNs, clientsNs]) {j : Json} {value : Cell Json}
    (h : Touched ns.namespaceId j value) (hskip : ¬Skipped ns (.record j)) :
    ∃ j', value = .record j' ∧ encryptedFlag j'.entries = true ∧
      ∀ field ∈ ns.fields, fieldValue j'.entries[field.jsonKey]? = fieldValue j.entries[field.jsonKey]? ∧
        field.aad.bytes j'.entries = field.aad.bytes j.entries := by
  obtain ⟨members, rfl, hflag⟩ := flagged_obj hns hskip
  simp only [List.mem_cons, List.not_mem_nil, or_false] at hns
  rcases hns with rfl | rfl
  · generalize hid : officersNs.namespaceId = id at h
    cases h with
    | client => cases hid
    | officer now hj =>
      rename_i officer
      have hm := members_of_officer hj
      have hj' := officer_ofJson_toJson (officer_touched_inRange hj now)
      obtain ⟨members', hmembers'⟩ : ∃ members', { officer with lastUsed := some (nowEpochSecs now) }.toJson = .obj members' :=
        ⟨_, rfl⟩
      rw [hmembers'] at hj' ⊢
      have hm' := members_of_officer hj'
      refine ⟨_, rfl, ?_, fun field hfield => ?_⟩
      · exact (hm'.flag.trans hm.flag.symm).trans hflag
      · simp only [officersNs, hmacFields, List.mem_cons, List.not_mem_nil, or_false] at hfield
        rcases hfield with rfl | rfl
        · exact ⟨hm'.secret.trans hm.secret.symm, rfl⟩
        · exact ⟨hm'.previous.trans hm.previous.symm, rfl⟩
  · generalize hid : clientsNs.namespaceId = id at h
    cases h with
    | officer => cases hid
    | client now hj =>
      rename_i client
      obtain ⟨hm, hmhash⟩ := members_of_client hj
      have hj' := client_ofJson_toJson (client_touched_inRange hj now) (client_ofJson_iff.mp hj).kvKey
      obtain ⟨members', hmembers'⟩ : ∃ members', { client with lastUsed := some (nowEpochSecs now) }.toJson = .obj members' :=
        ⟨_, rfl⟩
      rw [hmembers'] at hj' ⊢
      obtain ⟨hm', hmhash'⟩ := members_of_client hj'
      refine ⟨_, rfl, ?_, fun field hfield => ?_⟩
      · exact (hm'.flag.trans hm.flag.symm).trans hflag
      · simp only [clientsNs, hmacFields, List.cons_append, List.nil_append, List.mem_cons, List.not_mem_nil, or_false] at hfield
        rcases hfield with rfl | rfl | rfl
        · exact ⟨hm'.secret.trans hm.secret.symm, rfl⟩
        · exact ⟨hm'.previous.trans hm.previous.symm, rfl⟩
        · exact ⟨hmhash'.trans hmhash.symm, rfl⟩

theorem registrations_listed {ns : EncryptedNamespace} (hns : ns ∈ [officersNs, clientsNs]) (includeSessions : Bool) :
    ns ∈ encryptedNamespaces includeSessions := by
  simp only [List.mem_cons, List.not_mem_nil, or_false] at hns
  rcases hns with rfl | rfl
  · simp [encryptedNamespaces]
  · simp [encryptedNamespaces]

section
variable {A : AesGcm} {r : RotateKek} {ns : EncryptedNamespace} (hns : ns ∈ [officersNs, clientsNs])

include hns

theorem touched_not_skipped {j : Json} {value : Cell Json} (h : Touched ns.namespaceId j value) (hskip : ¬Skipped ns (.record j)) :
    ¬Skipped ns value := by
  obtain ⟨j', rfl, hflag, -⟩ := touched_members hns h hskip
  rintro ⟨-, -, hplain⟩
  rw [hflag] at hplain
  cases hplain

theorem touched_decrypts {kek : Bytes} {j : Json} {value : Cell Json} (h : Touched ns.namespaceId j value)
    (hskip : ¬Skipped ns (.record j)) (hdec : Decrypts A kek ns (.record j)) : Decrypts A kek ns value := by
  obtain ⟨j', rfl, -, hsame⟩ := touched_members hns h hskip
  intro field hfield
  obtain ⟨hvalue, haad⟩ := hsame field hfield
  have hsealed := hdec field hfield
  unfold FieldSealed at hsealed ⊢
  rw [hvalue, haad]
  exact hsealed

theorem reencrypted_decrypts {cell cell' : Cell Json} (h : Reencrypted A r ns cell cell') : Decrypts A r.newKek ns cell' := by
  have hplain : ns.isSessionNs = false := by
    have hall : ∀ ns ∈ [officersNs, clientsNs], ns.isSessionNs = false := by decide
    exact hall ns hns
  cases cell with
  | garbled => exact h.elim
  | record j =>
    cases cell' with
    | garbled => exact h.elim
    | record j' =>
      simp only [Reencrypted, hplain, Bool.false_eq_true, if_false] at h
      intro field hfield
      rcases h.2.fields field hfield with ⟨hopt, habsent, hsame⟩ | ⟨form, data, data', _, hd', haad, plaintext, _, _, _, hopen⟩
      · exact .inl ⟨hopt, hsame ▸ habsent⟩
      · refine .inr ⟨form, data', hd', plaintext, ?_⟩
        rw [haad]
        exact hopen

end

/-! ## What the tool does to one record -/

inductive ToolPhase where
  | idle
  | read (cell : Cell Json)
  | written

section
variable (A : AesGcm) (r : RotateKek) (ns : EncryptedNamespace) (key : String) (present : Prop)

def toolNext : ToolPhase → (o : KvOp) → KvAns o → ToolPhase
  | phase, .list _, _ => phase
  | phase, .get id k, x => if id = ns.namespaceId ∧ k = key then x.elim phase .read else phase
  | phase, .put id k _, _ => if id = ns.namespaceId ∧ k = key then .written else phase

/-- The record is read once and then, as it was read, written once. -/
def ToolMay : ToolPhase → KvOp → Prop
  | _, .list _ => True
  | phase, .get id k => id = ns.namespaceId ∧ k = key → present ∧ phase = .idle
  | phase, .put id k value => id = ns.namespaceId ∧ k = key →
    ∃ cell, phase = .read cell ∧ Reencrypted A r ns cell value

def ToolTold : ToolPhase → (o : KvOp) → KvAns o → Prop
  | _, .list id, keys => keys.Nodup ∧ (id = ns.namespaceId → (key ∈ keys ↔ present))
  | _, .get id k, x => id = ns.namespaceId ∧ k = key → ∃ cell, x = some cell ∧ ¬Skipped ns cell
  | _, .put _ _ _, _ => True

variable {A r ns key present}

theorem stageValue_extends (ns : EncryptedNamespace) (k : String) (s : Staging) (x : Option (Cell Json)) :
    ((stageValue A r ns k s x).failedEntries = [] → s.failedEntries = []) ∧
      ∃ writes, (stageValue A r ns k s x).writes = s.writes ++ writes ∧ ∀ w ∈ writes, w.1 = k := by
  cases x with
  | none => exact ⟨id, [], by simp [stageValue], by simp⟩
  | some cell =>
    simp only [stageValue]
    cases stageEntry A r ns k cell with
    | skip => exact ⟨id, [], by simp [Staging.add], by simp⟩
    | fail => exact ⟨fun h => by simp [Staging.add] at h, [], by simp [Staging.add], by simp⟩
    | put value => exact ⟨id, [(k, value)], rfl, by simp⟩

theorem stageKeys_elsewhere {ns' : EncryptedNamespace} : ∀ (keys : List String) (s : Staging) (phase : ToolPhase),
    (ns'.namespaceId = ns.namespaceId → key ∉ keys) →
    (stageKeys A r ns' keys s).Follows (toolNext ns key) (ToolMay A r ns key present) (ToolTold ns key present)
      (fun phase' s' => phase' = phase ∧ (s'.failedEntries = [] → s.failedEntries = []) ∧
        ∃ writes, s'.writes = s.writes ++ writes ∧ ∀ w ∈ writes, w.1 ∈ keys) phase
  | [], s, phase, _ => ⟨rfl, id, [], by simp, by simp⟩
  | k :: keys, s, phase, h => by
    have hne : ¬(ns'.namespaceId = ns.namespaceId ∧ k = key) := by
      rintro ⟨hid, rfl⟩
      exact h hid (by simp)
    refine ⟨fun hk => absurd hk hne, fun x _ => ?_⟩
    have hnext : toolNext ns key phase (.get ns'.namespaceId k) x = phase := if_neg hne
    rw [hnext]
    refine Prog.follows_mono ?_ _ _ (stageKeys_elsewhere keys (stageValue A r ns' k s x) phase fun hid hmem =>
      h hid (List.mem_cons_of_mem _ hmem))
    rintro phase' s' ⟨hphase, hfailed, writes, hwrites, hkeys⟩
    obtain ⟨hfailed₀, writes₀, hwrites₀, hkeys₀⟩ := stageValue_extends (A := A) (r := r) ns' k s x
    refine ⟨hphase, fun hnil => hfailed₀ (hfailed hnil), writes₀ ++ writes, by rw [hwrites, hwrites₀, List.append_assoc], ?_⟩
    intro w hw
    rcases List.mem_append.mp hw with hw | hw
    · rw [hkeys₀ w hw]
      exact List.mem_cons_self
    · exact List.mem_cons_of_mem _ (hkeys w hw)

theorem stageKeys_append (ns : EncryptedNamespace) (keys' : List String) : ∀ (keys : List String) (s : Staging),
    stageKeys A r ns (keys ++ keys') s = stageKeys A r ns keys s >>= fun s' => stageKeys A r ns keys' s'
  | [], _ => rfl
  | _ :: keys, _ => congrArg (Prog.ask _) (funext fun _ => stageKeys_append ns keys' keys _)

theorem commitWrites_append (ns : EncryptedNamespace) (ws' : List (String × Cell Json)) : ∀ ws : List (String × Cell Json),
    commitWrites ns (ws ++ ws') = commitWrites ns ws >>= fun _ => commitWrites ns ws'
  | [] => rfl
  | _ :: ws => congrArg (Prog.ask _) (funext fun _ => commitWrites_append ns ws' ws)

theorem commitWrites_elsewhere {ns' : EncryptedNamespace} : ∀ (ws : List (String × Cell Json)) (phase : ToolPhase),
    (ns'.namespaceId = ns.namespaceId → ∀ w ∈ ws, w.1 ≠ key) →
    (commitWrites ns' ws).Follows (toolNext ns key) (ToolMay A r ns key present) (ToolTold ns key present)
      (fun phase' _ => phase' = phase) phase
  | [], _, _ => rfl
  | w :: ws, phase, h => by
    have hne : ¬(ns'.namespaceId = ns.namespaceId ∧ w.1 = key) := fun hw => h hw.1 w (by simp) hw.2
    refine ⟨fun hw => absurd hw hne, fun x _ => ?_⟩
    have hnext : toolNext ns key phase (.put ns'.namespaceId w.1 w.2) x = phase := if_neg hne
    rw [hnext]
    exact commitWrites_elsewhere ws phase fun hid w' hw' => h hid w' (List.mem_cons_of_mem _ hw')

def StagedOnce (A : AesGcm) (r : RotateKek) (ns : EncryptedNamespace) (key : String) (cell : Cell Json) (s : Staging) : Prop :=
  s.failedEntries ≠ [] ∨ ∃ before value after, s.writes = before ++ (key, value) :: after ∧
    Reencrypted A r ns cell value ∧ (∀ w ∈ before, w.1 ≠ key) ∧ ∀ w ∈ after, w.1 ≠ key

section
variable (hA : A.Lawful) (hrotate : r.verifyOnly = false) (hnew : r.newKek.length = 32) (hwf : ns.WellFormed)

include hA hrotate hnew hwf

theorem stageKeys_once {keys : List String} (hnd : keys.Nodup) (hkey : key ∈ keys) (hpresent : present) :
    (stageKeys A r ns keys ⟨[], []⟩).Follows (toolNext ns key) (ToolMay A r ns key present) (ToolTold ns key present)
      (fun phase s => ∃ cell, phase = .read cell ∧ StagedOnce A r ns key cell s) .idle := by
  obtain ⟨keys₁, keys₂, rfl⟩ := List.append_of_mem hkey
  rw [List.nodup_append, List.nodup_cons] at hnd
  obtain ⟨-, ⟨hafter, -⟩, hdisjoint⟩ := hnd
  have hbefore : key ∉ keys₁ := fun hmem => hdisjoint key hmem key (by simp) rfl
  rw [stageKeys_append]
  refine Prog.follows_bind ?_ _ _ (stageKeys_elsewhere keys₁ ⟨[], []⟩ .idle fun _ => hbefore)
  rintro phase s ⟨rfl, -, writes₁, hwrites₁, hkeys₁⟩
  refine ⟨fun _ => ⟨hpresent, rfl⟩, fun x hx => ?_⟩
  obtain ⟨cell, rfl, hskip⟩ := hx ⟨rfl, rfl⟩
  have hnext : toolNext ns key .idle (.get ns.namespaceId key) (some cell) = .read cell := if_pos ⟨rfl, rfl⟩
  rw [hnext]
  refine Prog.follows_mono ?_ _ _ (stageKeys_elsewhere keys₂ _ (.read cell) fun _ => hafter)
  rintro phase s' ⟨rfl, hfailed, writes₂, hwrites₂, hkeys₂⟩
  refine ⟨cell, rfl, ?_⟩
  rcases stageEntry_cases hA hnew hrotate hwf key cell with h | h | ⟨_, _, value, hput, hre⟩
  · exact absurd h.1 hskip
  · refine .inl fun hnil => ?_
    have hsome := hfailed hnil
    simp [stageValue, h.2.2, Staging.add] at hsome
  · refine .inr ⟨writes₁, value, writes₂, ?_, hre, fun w hw he => ?_, fun w hw he => ?_⟩
    · rw [hwrites₂]
      simp only [stageValue, hput, Staging.add, hwrites₁, List.nil_append, List.append_assoc, List.cons_append]
    · exact hbefore (he ▸ hkeys₁ w hw)
    · exact hafter (he ▸ hkeys₂ w hw)

end

theorem commitStaged_once (hrotate : r.verifyOnly = false) {cell : Cell Json} {s : Staging} (h : StagedOnce A r ns key cell s) :
    (commitStaged r ns s).Follows (toolNext ns key) (ToolMay A r ns key present) (ToolTold ns key present)
      (fun phase _ => s.failedEntries = [] → phase = .written) (.read cell) := by
  unfold commitStaged
  by_cases hnil : s.failedEntries = []
  · obtain ⟨before, value, after, hwrites, hput, hbefore, hafter⟩ := h.resolve_left (not_not.mpr hnil)
    simp only [hnil, List.isEmpty_nil, hrotate, Bool.not_false, Bool.and_self, if_true, hwrites, true_implies]
    rw [commitWrites_append]
    refine Prog.follows_bind ?_ _ _ (commitWrites_elsewhere before _ fun _ => hbefore)
    rintro phase _ rfl
    refine ⟨fun _ => ⟨cell, rfl, hput⟩, fun x _ => ?_⟩
    have hnext : toolNext ns key (.read cell) (.put ns.namespaceId key value) x = .written := if_pos ⟨rfl, rfl⟩
    rw [hnext]
    exact commitWrites_elsewhere after _ fun _ => hafter
  · have hempty : s.failedEntries.isEmpty = false := by simpa using hnil
    simp only [hempty, Bool.false_and, Bool.false_eq_true, if_false]
    exact fun h => absurd h hnil

theorem round_elsewhere {ns' : EncryptedNamespace} {keys : List String} {phase : ToolPhase} {Q : ToolPhase → Except String Unit → Prop}
    {rest : Staging → ToolProg (Except String Unit)} (hkeys : ns'.namespaceId = ns.namespaceId → key ∉ keys)
    (hrest : ∀ s, (rest s).Follows (toolNext ns key) (ToolMay A r ns key present) (ToolTold ns key present) Q phase) :
    (stageKeys A r ns' keys ⟨[], []⟩ >>= fun s => commitStaged r ns' s >>= fun _ => rest s).Follows (toolNext ns key)
      (ToolMay A r ns key present) (ToolTold ns key present) Q phase := by
  refine Prog.follows_bind ?_ _ _ (stageKeys_elsewhere keys ⟨[], []⟩ phase hkeys)
  intro phase' s hstaged
  obtain ⟨hphase, -, writes, hwrites, hmem⟩ := hstaged
  have hcommit : (commitStaged r ns' s).Follows (toolNext ns key) (ToolMay A r ns key present) (ToolTold ns key present)
      (fun phase'' _ => phase'' = phase) phase' := by
    rw [hphase]
    unfold commitStaged
    split
    · refine commitWrites_elsewhere _ _ fun hid w hw he => hkeys hid ?_
      rw [hwrites, List.nil_append] at hw
      exact he ▸ hmem w hw
    · rfl
  refine Prog.follows_bind ?_ _ _ hcommit
  intro phase'' _ hsame
  rw [hsame]
  exact hrest s

theorem rotateNamespaces_elsewhere : ∀ (nss : List EncryptedNamespace) (failedEntries : List String) (phase : ToolPhase),
    (∀ ns' ∈ nss, ns'.namespaceId ≠ ns.namespaceId) →
    (rotateNamespaces A r nss failedEntries).Follows (toolNext ns key) (ToolMay A r ns key present) (ToolTold ns key present)
      (fun phase' x => phase' = phase ∧ (x = .ok () → failedEntries = [])) phase
  | [], failedEntries, phase, _ => by
    refine ⟨rfl, fun h => ?_⟩
    split at h
    · rename_i hempty
      simpa using hempty
    · cases h
  | ns' :: nss, failedEntries, phase, h => by
    have hrest := fun failedEntries' => rotateNamespaces_elsewhere nss failedEntries' phase fun ns'' hmem =>
      h ns'' (List.mem_cons_of_mem _ hmem)
    cases hc : r.configured ns'.namespaceId with
    | false =>
      rw [rotateNamespaces_unconfigured A r ns' hc]
      exact hrest failedEntries
    | true =>
      simp only [rotateNamespaces, hc, Bool.not_true, Bool.false_eq_true, if_false]
      refine ⟨trivial, fun allKeys _ => round_elsewhere (fun hid => absurd hid (h ns' (by simp))) fun s => ?_⟩
      refine Prog.follows_mono ?_ _ _ (hrest (failedEntries ++ s.failedEntries))
      rintro phase' x ⟨hphase, hok⟩
      exact ⟨hphase, fun hx => (List.append_eq_nil_iff.mp (hok hx)).1⟩

section
variable (hA : A.Lawful) (hrotate : r.verifyOnly = false) (hwf : ns.WellFormed) (hc : r.configured ns.namespaceId = true)
  (hstarts : present → hasPrefix ns.keyPrefix key = true)

include hA hrotate hwf hc hstarts

theorem rotateNamespaces_follows (hnew : r.newKek.length = 32) : ∀ (nss : List EncryptedNamespace) (failedEntries : List String),
    (nss.map EncryptedNamespace.namespaceId).Nodup → ns ∈ nss →
    (rotateNamespaces A r nss failedEntries).Follows (toolNext ns key) (ToolMay A r ns key present) (ToolTold ns key present)
      (fun phase x => x = .ok () → present → phase = .written) .idle
  | [], _, _, h => absurd h List.not_mem_nil
  | ns' :: nss, failedEntries, hnd, h => by
    rw [List.map_cons, List.nodup_cons] at hnd
    rcases List.mem_cons.mp h with rfl | hmem
    · have helsewhere : ∀ ns' ∈ nss, ns'.namespaceId ≠ ns.namespaceId := fun ns' hns' he =>
        hnd.1 (he ▸ List.mem_map_of_mem hns')
      simp only [rotateNamespaces, hc, Bool.not_true, Bool.false_eq_true, if_false]
      refine ⟨trivial, fun allKeys hx => ?_⟩
      obtain ⟨hnodup, hlisted⟩ := hx
      by_cases hpresent : present
      · have hkey : key ∈ allKeys.filter (hasPrefix ns.keyPrefix) :=
          List.mem_filter.mpr ⟨(hlisted rfl).mpr hpresent, hstarts hpresent⟩
        refine Prog.follows_bind ?_ _ _ (stageKeys_once hA hrotate hnew hwf (hnodup.filter _) hkey hpresent)
        rintro _ s ⟨cell, rfl, honce⟩
        refine Prog.follows_bind ?_ _ _ (commitStaged_once hrotate honce)
        intro phase _ hphase
        refine Prog.follows_mono ?_ _ _ (rotateNamespaces_elsewhere nss (failedEntries ++ s.failedEntries) phase helsewhere)
        rintro _ x ⟨rfl, hok⟩ hx _
        exact hphase (List.append_eq_nil_iff.mp (hok hx)).2
      · refine round_elsewhere (fun _ hkey => hpresent ((hlisted rfl).mp (List.mem_of_mem_filter hkey))) fun s => ?_
        exact Prog.follows_mono (fun _ _ _ _ hp => absurd hp hpresent) _ _
          (rotateNamespaces_elsewhere nss (failedEntries ++ s.failedEntries) .idle helsewhere)
    · have hne : ns'.namespaceId ≠ ns.namespaceId := fun he => hnd.1 (he ▸ List.mem_map_of_mem hmem)
      cases hc' : r.configured ns'.namespaceId with
      | false =>
        rw [rotateNamespaces_unconfigured A r ns' hc']
        exact rotateNamespaces_follows hnew nss failedEntries hnd.2 hmem
      | true =>
        simp only [rotateNamespaces, hc', Bool.not_true, Bool.false_eq_true, if_false]
        exact ⟨trivial, fun allKeys _ => round_elsewhere (fun hid => absurd hid hne) fun s =>
          rotateNamespaces_follows hnew nss (failedEntries ++ s.failedEntries) hnd.2 hmem⟩

/-- **The tool and one record.** Whatever the others do, the tool reads a record that is present once, writes it at most
once, from what it read, and succeeds only when it has written it. -/
theorem rotateKek_follows (hns : ns ∈ encryptedNamespaces r.includeSessions) :
    (rotateKek A r).Follows (toolNext ns key) (ToolMay A r ns key present) (ToolTold ns key present)
      (fun phase x => x = .ok () → present → phase = .written) .idle := by
  unfold rotateKek
  split
  · exact fun h => by cases h
  · split
    · exact fun h => by cases h
    · rename_i hnew
      exact rotateNamespaces_follows hA hrotate hwf hc hstarts (not_not.mp hnew) _ [] (namespaceIds_nodup _) hns

end

end

/-! ## One record along an interleaving -/

theorem fresh_snoc {log : List (Nat × KvOp)} {e : Nat × KvOp} {i : Nat} {id : NamespaceId} {key : String}
    (he : e ≠ (i, .get id key)) (h : Fresh (log ++ [e]) i id key) : Fresh log i id key := by
  obtain ⟨before, after, hlog, hput⟩ := h
  rcases Pool.split_snoc hlog with ⟨-, hx, -⟩ | ⟨after', -, hlog'⟩
  · exact absurd hx.symm he
  · exact ⟨before, after', hlog', hput⟩

section
variable (A : AesGcm) (r : RotateKek) (ns : EncryptedNamespace) (key : String) (present : Prop)

/-- An update has not started, holds what it will put, or is over. -/
def UpdateState (log : List (Nat × KvOp)) (i : Nat) (p : ToolProg Outcome) : Prop :=
  (∃ u : UseUpdate, p = u.prog >>= fun x => .ret (.update x)) ∨
    (∃ id k value, p = .ask (.put id k value) (fun _ => .ret (.update (.ok ()))) ∧ (id = ns.namespaceId ∧ k = key →
      present ∧ ¬Skipped ns value ∧ (Fresh log (i + 1) ns.namespaceId key → Decrypts A r.newKek ns value))) ∨
    ∃ out, p = .ret out

def PhaseAgrees (s : Interleaving) : ToolPhase → Prop
  | .idle => (0, .get ns.namespaceId key) ∉ s.2 ∧ ∀ w, (0, .put ns.namespaceId key w) ∉ s.2
  | .read cell => (s.1.world ns.namespaceId)[key]? = some cell ∧ (0, .get ns.namespaceId key) ∈ s.2 ∧
    ∀ w, (0, .put ns.namespaceId key w) ∉ s.2
  | .written => (∀ cell, (s.1.world ns.namespaceId)[key]? = some cell → Decrypts A r.newKek ns cell) ∧
    (0, .get ns.namespaceId key) ∈ s.2

structure Watched (s : Interleaving) (phase : ToolPhase) : Prop where
  tool : (s.1.procs 0).Follows (toolNext ns key) (ToolMay A r ns key present) (ToolTold ns key present)
    (fun phase out => out = .tool (.ok ()) → present → phase = .written) phase
  updates : ∀ i, UpdateState A r ns key present s.2 i (s.1.procs (i + 1))
  absent : (s.1.world ns.namespaceId)[key]? = none ↔ ¬present
  flagged : ∀ cell, (s.1.world ns.namespaceId)[key]? = some cell → ¬Skipped ns cell
  agrees : PhaseAgrees A r ns key s phase
  kept : ∀ i value before after, s.2 = before ++ (i + 1, .put ns.namespaceId key value) :: after →
    (0, .get ns.namespaceId key) ∈ before → (∀ j w, (j + 1, .put ns.namespaceId key w) ∉ after) →
    phase = .written ∧ (s.1.world ns.namespaceId)[key]? = some value

variable {A r ns key present}

theorem updateState_snoc {log : List (Nat × KvOp)} {e : Nat × KvOp} {i : Nat} {p : ToolProg Outcome}
    (he : e ≠ (i + 1, .get ns.namespaceId key)) (h : UpdateState A r ns key present log i p) :
    UpdateState A r ns key present (log ++ [e]) i p := by
  rcases h with h | ⟨id, k, value, hp, hvalue⟩ | h
  · exact .inl h
  · refine .inr (.inl ⟨id, k, value, hp, fun haddr => ?_⟩)
    obtain ⟨hpresent, hskip, hfresh⟩ := hvalue haddr
    exact ⟨hpresent, hskip, fun hf => hfresh (fresh_snoc he hf)⟩
  · exact .inr (.inr h)

def Concerns (ns : EncryptedNamespace) (key : String) (e : Nat × KvOp) : Prop :=
  e = (0, .get ns.namespaceId key) ∨ ∃ i w, e = (i, .put ns.namespaceId key w)

theorem Watched.frame {s s' : Interleaving} {phase : ToolPhase} (h : Watched A r ns key present s phase) {e : Nat × KvOp}
    (hlog : s'.2 = s.2 ++ [e]) (he : ¬Concerns ns key e)
    (hstore : (s'.1.world ns.namespaceId)[key]? = (s.1.world ns.namespaceId)[key]?)
    (htool : (s'.1.procs 0).Follows (toolNext ns key) (ToolMay A r ns key present) (ToolTold ns key present)
      (fun phase out => out = .tool (.ok ()) → present → phase = .written) phase)
    (hupdates : ∀ i, UpdateState A r ns key present s'.2 i (s'.1.procs (i + 1))) : Watched A r ns key present s' phase := by
  have hmem : ∀ x, Concerns ns key x → (x ∈ s'.2 ↔ x ∈ s.2) := by
    intro x hx
    rw [hlog, List.mem_append, List.mem_singleton]
    exact or_iff_left fun hxe => he (hxe ▸ hx)
  have hget := hmem (0, .get ns.namespaceId key) (.inl rfl)
  have hput : ∀ w, (0, .put ns.namespaceId key w) ∈ s'.2 ↔ (0, .put ns.namespaceId key w) ∈ s.2 :=
    fun w => hmem _ (.inr ⟨0, w, rfl⟩)
  refine ⟨htool, hupdates, by rw [hstore]; exact h.absent, by rw [hstore]; exact h.flagged, ?_, ?_⟩
  · have hagrees := h.agrees
    cases phase with
    | idle => simpa only [PhaseAgrees, hget, hput] using hagrees
    | read cell => simpa only [PhaseAgrees, hget, hput, hstore] using hagrees
    | written => simpa only [PhaseAgrees, hget, hstore] using hagrees
  · intro i value before after hsplit hread hlast
    rw [hlog] at hsplit
    rcases Pool.split_snoc hsplit with ⟨-, hx, -⟩ | ⟨after', rfl, hsplit'⟩
    · exact absurd (.inr ⟨i + 1, value, hx.symm⟩) he
    · rw [hstore]
      exact h.kept i value before after' hsplit' hread fun j w hw => hlast j w (List.mem_append_left _ hw)

theorem Watched.wrote {s : Interleaving} {phase : ToolPhase} (h : Watched A r ns key present s phase) {w : Cell Json}
    (hw : (0, .put ns.namespaceId key w) ∈ s.2) : phase = .written := by
  have hagrees := h.agrees
  cases phase with
  | idle => exact absurd hw (hagrees.2 w)
  | read cell => exact absurd hw (hagrees.2.2 w)
  | written => rfl

section
variable (hns : ns ∈ [officersNs, clientsNs])

include hns

theorem watched_tool {s : Interleaving} {phase : ToolPhase} (h : Watched A r ns key present s phase) (e : Unit) :
    ∃ phase', Watched A r ns key present (kvTurn s (.proc 0 e)) phase' := by
  rcases Pool.stepLogged_cases (kvStep) (fun store (_ : Empty) => store) s 0 e with hsame | ⟨o, k, hask, hstep⟩
  · exact ⟨phase, by rw [kvTurn, hsame]; exact h⟩
  · have htool := h.tool
    rw [hask] at htool
    obtain ⟨hmay, hnext⟩ := htool
    rw [kvTurn, hstep]
    have hupdates : ∀ i, UpdateState A r ns key present (s.2 ++ [(0, o)]) i (s.1.procs (i + 1)) :=
      fun i => updateState_snoc (by simp) (h.updates i)
    cases o with
    | list id =>
      have htold : ToolTold ns key present phase (.list id) (s.1.world id).keys := by
        refine ⟨Std.TreeMap.nodup_keys, fun hid => ?_⟩
        rw [hid, mem_keys_iff, ← not_iff_not, ← h.absent, ← Option.isSome_iff_exists, Option.not_isSome_iff_eq_none]
      refine ⟨phase, h.frame rfl (by simp [Concerns]) rfl ?_ hupdates⟩
      simp only [Function.update_self]
      exact hnext _ htold
    | get id k' =>
      by_cases haddr : id = ns.namespaceId ∧ k' = key
      · obtain ⟨hpresent, rfl⟩ := hmay haddr
        obtain ⟨rfl, rfl⟩ := haddr
        obtain ⟨cell, hcell⟩ : ∃ cell, (s.1.world ns.namespaceId)[k']? = some cell := by
          rw [← Option.ne_none_iff_exists']
          exact fun hnone => h.absent.mp hnone hpresent
        have hnext' := hnext (some cell) fun _ => ⟨cell, rfl, h.flagged cell hcell⟩
        rw [toolNext, if_pos ⟨rfl, rfl⟩] at hnext'
        obtain ⟨hread, hwrite⟩ := h.agrees
        refine ⟨.read cell, ?_, hupdates, h.absent, h.flagged, ⟨hcell, by simp, by simpa using hwrite⟩, ?_⟩
        · simp only [Function.update_self, kvStep, hcell]
          exact hnext'
        · intro i value before after hsplit hmem _
          rcases Pool.split_snoc hsplit with ⟨-, hx, -⟩ | ⟨after', -, hsplit'⟩
          · cases hx
          · exact absurd (hsplit' ▸ List.mem_append_left _ hmem) hread
      · refine ⟨phase, h.frame rfl ?_ rfl ?_ hupdates⟩
        · rintro (he | ⟨_, _, he⟩)
          · cases he
            exact haddr ⟨rfl, rfl⟩
          · cases he
        · have hnext' := hnext (s.1.world id)[k']? fun hw => absurd hw haddr
          rw [toolNext, if_neg haddr] at hnext'
          simp only [Function.update_self]
          exact hnext'
    | put id k' value =>
      have hnext' := hnext () trivial
      by_cases haddr : id = ns.namespaceId ∧ k' = key
      · obtain ⟨cell, rfl, hre⟩ := hmay haddr
        rw [toolNext, if_pos haddr] at hnext'
        obtain ⟨rfl, rfl⟩ := haddr
        obtain ⟨hcell, hread, -⟩ := h.agrees
        have hpresent : present := by
          by_contra hno
          rw [h.absent.mpr hno] at hcell
          cases hcell
        have hget : (Batch.put s.1.world ns.namespaceId k' value ns.namespaceId)[k']? = some value := by
          rw [put_get, if_pos rfl]
        have hwf := wellFormed_of_mem (registrations_listed hns true)
        refine ⟨.written, ?_, hupdates, ?_, ?_, ⟨?_, by simpa using hread⟩, ?_⟩
        · simp only [Function.update_self]
          exact hnext'
        · simp only [kvStep, hget]
          exact iff_of_false (by simp) (not_not.mpr hpresent)
        · intro cell' hcell'
          simp only [kvStep, hget] at hcell'
          cases hcell'
          exact not_skipped_of_reencrypted hwf (h.flagged cell hcell) hre
        · intro cell' hcell'
          simp only [kvStep, hget] at hcell'
          cases hcell'
          exact reencrypted_decrypts hns hre
        · intro i w before after hsplit hmem hlast
          rcases Pool.split_snoc hsplit with ⟨-, hx, -⟩ | ⟨after', rfl, hsplit'⟩
          · cases hx
          · have hkept := h.kept i w before after' hsplit' hmem fun j w' hw' => hlast j w' (List.mem_append_left _ hw')
            cases hkept.1
      · refine ⟨phase, h.frame rfl ?_ ?_ ?_ hupdates⟩
        · rintro (he | ⟨_, _, he⟩)
          · cases he
          · cases he
            exact haddr ⟨rfl, rfl⟩
        · simp only [kvStep]
          rw [put_get, if_neg (by simpa using haddr)]
        · rw [toolNext, if_neg haddr] at hnext'
          simp only [Function.update_self]
          exact hnext'

omit hns in
theorem updateStates_turn {s : Interleaving} {i : Nat} {o : KvOp} {p : ToolProg Outcome}
    (h : ∀ j, UpdateState A r ns key present s.2 j (s.1.procs (j + 1)))
    (hi : UpdateState A r ns key present (s.2 ++ [(i + 1, o)]) i p) (j : Nat) :
    UpdateState A r ns key present (s.2 ++ [(i + 1, o)]) j (Function.update s.1.procs (i + 1) p (j + 1)) := by
  by_cases hj : j = i
  · subst hj
    rw [Function.update_self]
    exact hi
  · rw [Function.update_of_ne (by omega)]
    refine updateState_snoc ?_ (h j)
    simp only [ne_eq, Prod.mk.injEq, not_and]
    omega

omit hns in
/-- A timely update writes the record: the tool has not read it yet, or has written it before the update read it. -/
theorem Watched.put {s : Interleaving} {phase : ToolPhase} (h : Watched A r ns key present s phase) {i : Nat} {value : Cell Json}
    (hpresent : present) (hskip : ¬Skipped ns value)
    (hfresh : Fresh s.2 (i + 1) ns.namespaceId key → Decrypts A r.newKek ns value)
    (hearly : (0, .get ns.namespaceId key) ∉ s.2 ∨ Fresh s.2 (i + 1) ns.namespaceId key) :
    Watched A r ns key present (⟨Batch.put s.1.world ns.namespaceId key value,
      Function.update s.1.procs (i + 1) (.ret (.update (.ok ())))⟩, s.2 ++ [(i + 1, .put ns.namespaceId key value)]) phase := by
  have hget : (Batch.put s.1.world ns.namespaceId key value ns.namespaceId)[key]? = some value := by
    rw [put_get, if_pos rfl]
  have hcell : ∀ cell, (Batch.put s.1.world ns.namespaceId key value ns.namespaceId)[key]? = some cell → cell = value := by
    intro cell h
    rw [hget] at h
    exact (Option.some.inj h).symm
  have hwrote : (0, .get ns.namespaceId key) ∈ s.2 → phase = .written := by
    intro hread
    obtain ⟨before, after, hlog, w, hw⟩ := hearly.resolve_left (not_not.mpr hread)
    exact h.wrote (hlog ▸ List.mem_append_left _ hw)
  refine ⟨h.tool, updateStates_turn h.updates (.inr (.inr ⟨_, rfl⟩)), ?_, fun cell h => hcell cell h ▸ hskip, ?_, ?_⟩
  · rw [hget]
    exact iff_of_false (by simp) (not_not.mpr hpresent)
  · have hagrees := h.agrees
    cases phase with
    | idle => exact ⟨by simpa using hagrees.1, fun w => by simpa using hagrees.2 w⟩
    | read cell => cases hwrote hagrees.2.1
    | written =>
      have hdec := hfresh (hearly.resolve_left (not_not.mpr hagrees.2))
      exact ⟨fun cell h => hcell cell h ▸ hdec, by simpa using hagrees.2⟩
  · intro j w before after hsplit hmem hlast
    rcases Pool.split_snoc hsplit with ⟨hbefore, hx, -⟩ | ⟨after', rfl, -⟩
    · cases hx
      exact ⟨hwrote (hbefore ▸ hmem), hget⟩
    · exact absurd (by simp) (hlast i value)

theorem watched_update {s : Interleaving} {phase : ToolPhase} (h : Watched A r ns key present s phase) (i : Nat) (e : Unit)
    (htimely : Timely s (.proc (i + 1) e)) : Watched A r ns key present (kvTurn s (.proc (i + 1) e)) phase := by
  rcases Pool.stepLogged_cases (kvStep) (fun store (_ : Empty) => store) s (i + 1) e with hsame | ⟨o, k, hask, hstep⟩
  · rw [kvTurn, hsame]
    exact h
  · have hi := h.updates i
    rw [hask] at hi
    rw [kvTurn, hstep]
    rcases hi with ⟨u, hu⟩ | ⟨id, k', value, hp, hvalue⟩ | ⟨out, hout⟩
    · rcases update_cases u with ⟨x, hx⟩ | ⟨id, k', f, hf, hcases⟩
      · rw [hx] at hu
        cases hu
      · rw [hf] at hu
        cases hu
        refine h.frame rfl (by simp [Concerns]) rfl h.tool (updateStates_turn h.updates ?_)
        simp only [kvStep]
        rcases hcases (s.1.world id)[k']? with ⟨y, hy⟩ | ⟨j, value, hj, htouched, hput⟩
        · rw [hy]
          exact .inr (.inr ⟨_, rfl⟩)
        · rw [hput]
          refine .inr (.inl ⟨id, k', value, rfl, ?_⟩)
          rintro ⟨rfl, rfl⟩
          have hskip := h.flagged _ hj
          refine ⟨?_, touched_not_skipped hns htouched hskip, ?_⟩
          · by_contra hno
            rw [h.absent.mpr hno] at hj
            cases hj
          · rintro ⟨before, after, hlog, w, hw⟩
            -- the tool has written the record before this read
            have hwritten : (0, .put ns.namespaceId k' w) ∈ s.2 := by
              rcases Pool.split_snoc hlog with ⟨hbefore, -, -⟩ | ⟨after', -, hlog'⟩
              · exact hbefore ▸ hw
              · exact hlog' ▸ List.mem_append_left _ hw
            obtain rfl := h.wrote hwritten
            exact touched_decrypts hns htouched hskip (h.agrees.1 _ hj)
    · cases hp
      have hdone : UpdateState A r ns key present (s.2 ++ [(i + 1, .put id k' value)]) i (.ret (.update (.ok ()))) :=
        .inr (.inr ⟨_, rfl⟩)
      by_cases haddr : id = ns.namespaceId ∧ k' = key
      · obtain ⟨hpresent, hskip, hfresh⟩ := hvalue haddr
        obtain ⟨rfl, rfl⟩ := haddr
        exact h.put hpresent hskip hfresh (htimely ns.namespaceId k' value (by rw [hask]; rfl))
      · refine h.frame rfl ?_ ?_ h.tool (updateStates_turn h.updates hdone)
        · rintro (he | ⟨_, _, he⟩)
          · cases he
          · cases he
            exact haddr ⟨rfl, rfl⟩
        · simp only [kvStep]
          rw [put_get, if_neg (by simpa using haddr)]
    · cases hout

theorem watched_turn {s : Interleaving} (h : ∃ phase, Watched A r ns key present s phase) (turn : KvTurn) (htimely : Timely s turn) :
    ∃ phase, Watched A r ns key present (kvTurn s turn) phase := by
  obtain ⟨phase, h⟩ := h
  cases turn with
  | env x => cases x
  | proc i e =>
    cases i with
    | zero => exact watched_tool hns h e
    | succ i => exact ⟨phase, watched_update hns h i e htimely⟩

end

theorem watched_start (hA : A.Lawful) (hrotate : r.verifyOnly = false) (hns : ns ∈ [officersNs, clientsNs]) {store : KvStore}
    (hlisted : RegistrationsListed r store) (updates : Nat → UseUpdate) (key : String) :
    Watched A r ns key ((store ns.namespaceId)[key]? ≠ none) (interleaving A r store updates) .idle := by
  have hmem := registrations_listed hns r.includeSessions
  have hc : r.configured ns.namespaceId = true := by
    simp only [List.mem_cons, List.not_mem_nil, or_false] at hns
    rcases hns with rfl | rfl
    · exact hlisted.configured.1
    · exact hlisted.configured.2
  have hstarts : (store ns.namespaceId)[key]? ≠ none → hasPrefix ns.keyPrefix key = true := by
    intro hsome
    obtain ⟨cell, hcell⟩ := Option.ne_none_iff_exists'.mp hsome
    exact (hlisted.listed ns hns key cell hcell).1
  refine ⟨?_, fun i => .inl ⟨updates i, rfl⟩, not_not.symm, fun cell hcell => (hlisted.listed ns hns key cell hcell).2,
    ⟨List.not_mem_nil, fun _ => List.not_mem_nil⟩, fun _ _ _ _ hsplit => absurd hsplit (by simp [interleaving])⟩
  refine Prog.follows_bind ?_ _ _ (rotateKek_follows hA hrotate (wellFormed_of_mem hmem) hc hstarts hmem)
  intro phase x hx hout
  cases hout
  exact hx rfl

end

/-- **Updates during a rotation.** In every interleaving in which each update of the time of use is timely: when the
tool has succeeded every officer and client decrypts under the new key, and the last update of a record since the
tool has read it stands. -/
theorem timely_updates_keep_rotation {A : AesGcm} (hA : A.Lawful) {r : RotateKek} (hrotate : r.verifyOnly = false)
    {store : KvStore} (hlisted : RegistrationsListed r store) (updates : Nat → UseUpdate) (turns : List KvTurn)
    (htimely : Runs.Along kvTurn Timely (interleaving A r store updates) turns) :
    Preserved A r (Runs.exec kvTurn (interleaving A r store updates) turns) := by
  have hwatched : ∀ ns ∈ [officersNs, clientsNs], ∀ key, ∃ phase, Watched A r ns key ((store ns.namespaceId)[key]? ≠ none)
      (Runs.exec kvTurn (interleaving A r store updates) turns) phase := by
    intro ns hns key
    refine Runs.exec_invariant kvTurn (I := fun s => ∃ phase, Watched A r ns key ((store ns.namespaceId)[key]? ≠ none) s phase)
      (fun s turn h hok => watched_turn hns h turn hok) turns _ ?_ htimely
    exact ⟨.idle, watched_start hA hrotate hns hlisted updates key⟩
  refine ⟨fun hdone ns hns key cell hcell => ?_, fun ns hns key i value before after hsplit hmem hlast => ?_⟩
  · obtain ⟨phase, h⟩ := hwatched ns hns key
    have hpresent : (store ns.namespaceId)[key]? ≠ none := by
      intro hno
      rw [h.absent.mpr (not_not.mpr hno)] at hcell
      cases hcell
    have htool := h.tool
    rw [hdone] at htool
    have hagrees := h.agrees
    rw [htool rfl hpresent] at hagrees
    exact hagrees.1 cell hcell
  · obtain ⟨phase, h⟩ := hwatched ns hns key
    exact (h.kept i value before after hsplit hmem hlast).2

/-! ## An update that straddles the rotation -/

def usedOfficer : OfficerRegistration where
  officerId := "alice"
  hmacSecret := aesGcmEncrypt clearGcm (Vector.replicate 12 7) drillKek.oldKek (List.replicate 32 5) sessionAad
  createdAt := 0
  lastUsed := none
  active := true
  encrypted := true
  secretStatus := .active
  previousHmacSecret := none
  role := .issuer

def usedStore : KvStore
  | .officers => (∅ : Table String (Cell Json)).insert "issuer:acme:officer:alice" (.record usedOfficer.toJson)
  | _ => ∅

/-- Two updates of the officer; the others are of clients that are not there. -/
def officerUpdates : Nat → UseUpdate
  | 0 => .officer "acme" "alice" 5000
  | 1 => .officer "acme" "alice" 6000
  | _ => .client "bob" none 5000

theorem usedStore_listed : RegistrationsListed drillKek usedStore := by
  refine ⟨⟨rfl, rfl⟩, fun ns hns key cell hcell => ?_⟩
  simp only [List.mem_cons, List.not_mem_nil, or_false] at hns
  rcases hns with rfl | rfl
  · simp only [officersNs, usedStore, insert_get] at hcell
    split at hcell
    · rename_i hkey
      cases hcell
      have hflag : encryptedFlag usedOfficer.toJson.entries = true := by decide +kernel
      exact ⟨hkey ▸ by decide, fun hskip => by simp [Skipped, hflag] at hskip⟩
    · simp at hcell
  · simp [clientsNs, usedStore] at hcell

/-- What a request does, without the value: 0 is a listing, 1 a read, 2 a write. -/
def KvOp.label : KvOp → Nat × NamespaceId × String
  | .list ns => (0, ns, "")
  | .get ns key => (1, ns, key)
  | .put ns key _ => (2, ns, key)

theorem eq_get_of_label {o : KvOp} {ns : NamespaceId} {key : String} (h : o.label = (1, ns, key)) : o = .get ns key := by
  cases o <;> cases h
  rfl

theorem eq_put_of_label {o : KvOp} {ns : NamespaceId} {key : String} (h : o.label = (2, ns, key)) : ∃ value, o = .put ns key value := by
  cases o <;> cases h
  exact ⟨_, rfl⟩

/-- `Timely` for a write of program `i`, read off the labels of the log. -/
def timelyLabels (log : List (Nat × Nat × NamespaceId × String)) (i : Nat) (address : NamespaceId × String) : Bool :=
  !log.contains (0, 1, address) ||
    (List.range log.length).any fun k => log[k]? == some (i, 1, address) && (log.take k).contains (0, 2, address)

theorem timely_of_labels {s : Interleaving} {i : Nat} {e : Unit} {l : Nat × NamespaceId × String}
    (hnext : (s.1.procs (i + 1)).next.map KvOp.label = some l)
    (h : l.1 ≠ 2 ∨ timelyLabels (s.2.map (Prod.map id KvOp.label)) (i + 1) l.2 = true) : Timely s (.proc (i + 1) e) := by
  intro ns key value hput
  rw [hput, Option.map_some, Option.some.injEq] at hnext
  subst hnext
  have hlabels := h.resolve_left (not_not.mpr rfl)
  simp only [timelyLabels, Bool.or_eq_true, Bool.not_eq_true', List.any_eq_true, Bool.and_eq_true, beq_iff_eq, KvOp.label] at hlabels
  rcases hlabels with hunread | ⟨k, -, hread, hwritten⟩
  · refine .inl fun hmem => ?_
    have hlabel : (0, 1, ns, key) ∈ s.2.map (Prod.map id KvOp.label) := List.mem_map.mpr ⟨_, hmem, rfl⟩
    rw [← List.contains_iff_mem, hunread] at hlabel
    cases hlabel
  · rw [List.getElem?_map, Option.map_eq_some_iff] at hread
    obtain ⟨⟨j, o⟩, hat, hlabel⟩ := hread
    obtain ⟨rfl, ho⟩ := Prod.mk.inj hlabel
    cases eq_get_of_label ho
    rw [List.contains_iff_mem, ← List.map_take, List.mem_map] at hwritten
    obtain ⟨⟨j', o'⟩, hbefore, hlabel'⟩ := hwritten
    obtain ⟨rfl, ho'⟩ := Prod.mk.inj hlabel'
    obtain ⟨value', rfl⟩ := eq_put_of_label ho'
    obtain ⟨hk, hat⟩ := List.getElem?_eq_some_iff.mp hat
    refine .inr ⟨s.2.take k, s.2.drop (k + 1), ?_, value', hbefore⟩
    rw [← hat, List.getElem_cons_drop, List.take_append_drop]

/-- The first update reads before the tool lists its record and writes before the tool reads it; the second one
reads while the tool goes on to the next namespace. -/
def timelyTurns : List KvTurn :=
  [.proc 1 (), .proc 0 (), .proc 0 (), .proc 1 (), .proc 0 (), .proc 0 (), .proc 2 (), .proc 0 (), .proc 2 (), .proc 0 ()]

theorem two_updates_kept : Preserved clearGcm drillKek (Runs.exec kvTurn (interleaving clearGcm drillKek usedStore officerUpdates)
    timelyTurns) := by
  refine timely_updates_keep_rotation clearGcm_lawful rfl usedStore_listed officerUpdates timelyTurns ?_
  exact ⟨timely_of_labels (l := (1, .officers, "issuer:acme:officer:alice")) (by decide +kernel) (.inl (by decide)), trivial, trivial,
    timely_of_labels (l := (2, .officers, "issuer:acme:officer:alice")) (by decide +kernel) (.inr (by decide +kernel)), trivial, trivial,
    timely_of_labels (l := (1, .officers, "issuer:acme:officer:alice")) (by decide +kernel) (.inl (by decide)), trivial,
    timely_of_labels (l := (2, .officers, "issuer:acme:officer:alice")) (by decide +kernel) (.inr (by decide +kernel)), trivial, trivial⟩

def straddlingRun : Interleaving :=
  Runs.exec kvTurn (interleaving clearGcm drillKek usedStore officerUpdates)
    (.proc 1 () :: List.replicate 7 (.proc 0 ()) ++ [.proc 1 ()])

def storedHmac : Cell Json → Option Json
  | .record j => j.entries["hmac_secret"]?
  | .garbled => none

/-- The update has read before the tool and writes after it: the officer is back under the old key. -/
theorem straddling_update_undoes : ¬Preserved clearGcm drillKek straddlingRun := by
  intro h
  have hdone : (straddlingRun.1.procs 0).result = some (.tool (.ok ())) := by decide +kernel
  have hstale : (straddlingRun.1.world officersNs.namespaceId)["issuer:acme:officer:alice"]?.map (fun cell =>
      decide (fieldValue (storedHmac cell) = .bytes .array usedOfficer.hmacSecret)) = some true := by
    decide +kernel
  obtain ⟨cell, hcell, hfield⟩ := Option.map_eq_some_iff.mp hstale
  have hdec := h.decrypts (Prog.result_eq_some.mp hdone) officersNs (by simp) "issuer:acme:officer:alice" cell hcell
  cases cell with
  | garbled => exact hdec
  | record j =>
    rcases hdec ⟨"hmac_secret", .fixed sessionAad, false⟩ (by simp [officersNs, hmacFields]) with ⟨hopt, _⟩ | ⟨_, data, hdata, plaintext, hopen⟩
    · cases hopt
    · have hstored : fieldValue j.entries["hmac_secret"]? = .bytes .array usedOfficer.hmacSecret := of_decide_eq_true hfield
      rw [hstored] at hdata
      cases hdata
      have hfails : (decryptWithKek clearGcm drillKek.newKek usedOfficer.hmacSecret sessionAad).isOk = false := by decide +kernel
      simp only [AadSource.bytes] at hopen
      rw [hopen] at hfails
      cases hfails

end Issuer.Tool
