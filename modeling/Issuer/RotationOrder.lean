import Issuer.RotationPoolSound

/-!
# Rotations of the signing key are serial

However requests are interleaved, rotations work on the namespace one after the other as long as each makes its
writes within the thirty seconds of its lock: `InOrder`. No two of them hand out the same version, and none replaces the
key of another.
-/

namespace Issuer

open Rust Store Runs

namespace RotationPool

/-! ## Every interleaving -/

/-- A request: a rotation with a token of its own, or one that leaves the namespace and the lock of others alone. -/
inductive Joins (A : AesGcm) {J : RedJubjub} (token : Nat → String) (i : Nat) : Rotations J RotationReply → Prop
  | rotation (call : RotationCall) (h : call.token = token i) : Joins A token i (rotateSigningKey A call)
  | beside {p : Rotations J RotationReply} (h : p.Safe (LockedOp.Outer rotationLock (token i) KeyOp.Reads) (fun _ _ => True)
      (Told i none)) : Joins A token i p

abbrev Requests (J : RedJubjub) := Pool (LockedWorld KeyKv) (LockedOp KeyOp) (LockedOp.Ans (KeyOp.Ans J)) RotationReply

abbrev Requests.step {J : RedJubjub} (lib : AdminLib) (issuerKid : String) (s : Requests J)
    (turn : Turn (LockedTick (KeyTick J)) LockAlarm) : Requests J :=
  Pool.step (LockedWorld.handle lib (KeyOp.handle issuerKid)) LockedWorld.react s turn

/-- Rotations make their writes before their lock expires, and reads of its record succeed. -/
def WithinLock {J : RedJubjub} (lib : AdminLib) (issuerKid : String) (token : Nat → String) (s : Requests J)
    (turns : List (Turn (LockedTick (KeyTick J)) LockAlarm)) : Prop :=
  Along (Lease.Leased.step (rotationSetting J lib issuerKid token))
    (fun s turn => Lease.InTerm (rotationSetting J lib issuerKid token) s turn = true) ⟨s, fun _ => none⟩ turns

instance {J : RedJubjub} (lib : AdminLib) (issuerKid : String) (token : Nat → String) (s : Requests J)
    (turns : List (Turn (LockedTick (KeyTick J)) LockAlarm)) : Decidable (WithinLock lib issuerKid token s turns) :=
  inferInstanceAs (Decidable (Along _ _ _ _))

section
variable {A : AesGcm} {J : RedJubjub} {lib : AdminLib} {issuerKid : String} {token : Nat → String} {kekPair : KekPair}
  {s : Requests J} {turns : List (Turn (LockedTick (KeyTick J)) LockAlarm)} {t : Int}

theorem joins_enters {i : Nat} {p : Rotations J RotationReply} (h : Joins A token i p) :
    Lease.Enters (rotationSetting J lib issuerKid token) (fun _ => rotateSigningKeyInner A) Told i p := by
  cases h with
  | rotation call h => exact rotateSigningKey_enters h
  | beside h => exact Lease.enters_safe p h

theorem rotationSetting_lawful (htoken : Function.Injective token) : (rotationSetting J lib issuerKid token).Lawful :=
  lockSetting_lawful htoken fun _ _ _ ho => reads_handle ho

structure InOrder (A : AesGcm) (lib : AdminLib) (issuerKid : String) (s : Requests J)
    (turns : List (Turn (LockedTick (KeyTick J)) LockAlarm)) (order : List (Nat × Rotation J)) : Prop where
  once : (order.map Prod.fst).Nodup
  data : (exec (Requests.step lib issuerKid) s turns).world.data =
    exec (rotateStep A issuerKid) s.world.data (order.map Prod.snd)
  replies : ∀ i slot key, (exec (Requests.step lib issuerKid) s turns).procs i = .ret (.rotated slot key) →
    ∃ earlier r later, order = earlier ++ (i, r) :: later ∧
      (Issuer.rotateSigningKeyInner A r issuerKid (exec (rotateStep A issuerKid) s.world.data (earlier.map Prod.snd))).1 = .ok key
  realTime : ∀ sofar rest, turns = sofar ++ rest → ∀ i slot key,
    (exec (Requests.step lib issuerKid) s sofar).procs i = .ret (.rotated slot key) → ∀ j, (∀ e, Turn.proc j e ∉ sofar) →
    ∀ earlier r later, order = earlier ++ (j, r) :: later → i ∈ earlier.map Prod.fst

theorem rotations_inOrder [Inhabited (Keypair J)] (htoken : Function.Injective token) (kekPair : KekPair)
    (hjoins : ∀ i, Joins A token i (s.procs i)) (hclock : Ordered lockedStart lockedStop t turns)
    (hlock : WithinLock lib issuerKid token s turns) : ∃ order, InOrder A lib issuerKid s turns order ∧
      order.length ≤ turns.length ∧ ((∀ i e, Turn.proc i e ∈ turns → e.data.Calm kekPair) → ∀ r ∈ order, Smooth kekPair r.2) := by
  obtain ⟨order, horder, hlength, hfits⟩ := Lease.inOrder (@rotationSetting_lawful J lib issuerKid token htoken)
    (block_rotation A lib issuerKid token kekPair) (fun i => joins_enters (hjoins i)) hclock hlock
  refine ⟨order, ⟨horder.once, horder.data, ?replies, ?realTime⟩, hlength, ?smooth⟩
  case replies =>
    intro i slot key hi
    rcases horder.replies i _ hi with hnone | ⟨earlier, r, later, hsplit, hdone⟩
    · cases hnone
    · exact ⟨earlier, r, later, hsplit, Option.some.inj hdone⟩
  case realTime =>
    intro sofar rest hturns i slot key hi
    exact horder.realTime sofar rest hturns i _ hi nofun
  case smooth =>
    intro hcalm r hr
    obtain ⟨es, hes, hfits⟩ := hfits r hr
    refine hfits fun t ht => ?_
    obtain ⟨j, hj⟩ := hes t ht
    exact hcalm j t hj

end

/-! ## Linearizability -/

section
variable {A : AesGcm} {J : RedJubjub} {issuerKid : String} {kekPair : KekPair} {m : Nat} {kv : KeyKv}

theorem rotated_free (h : KeysSound A J issuerKid kekPair m kv) (hm : m < u32Max) {r : Rotation J} (hsmooth : Smooth kekPair r)
    {key : SigningKeyRecord} (hok : (Issuer.rotateSigningKeyInner A r issuerKid kv).1 = .ok key) :
    kv[keyName issuerKid key.version]? = none := by
  obtain ⟨hnew, -⟩ := rotate_home_ok hsmooth.reads hsmooth.home (Prod.ext hok rfl)
  obtain ⟨n, -, -, hnext, habove⟩ := nextVersion_above h hm
  have hversion : key.version = versionName n := by rw [hnew]; exact hnext
  rw [hversion]
  cases hget : kv[keyName issuerKid (versionName n)]? with
  | none => rfl
  | some c => exact absurd (habove n c hget) (lt_irrefl n)

theorem rotated_stored {r : Rotation J} (hsmooth : Smooth kekPair r) {key : SigningKeyRecord}
    (hok : (Issuer.rotateSigningKeyInner A r issuerKid kv).1 = .ok key) :
    ∃ record : SigningKeyRecord, (rotateStep A issuerKid kv r)[keyName issuerKid key.version]? = some (.record record.toJson) ∧
      record.publicKey = key.publicKey := by
  obtain ⟨-, record, hseal, hkv⟩ := rotate_home_ok hsmooth.reads hsmooth.home (Prod.ext hok rfl)
  obtain ⟨_, _, -, -, hrecord⟩ := sealKey_ok hseal
  have hversion : record.version = key.version := by rw [hrecord]
  have hstep : rotateStep A issuerKid kv r =
      saveKey issuerKid (deprecateAll issuerKid kv (activeKeys (storedKeys issuerKid kv))) record := hkv
  refine ⟨record, ?_, by rw [hrecord]⟩
  rw [hstep, saveKey_slot, if_pos hversion]

theorem rotated_kept (hA : A.Lawful) (h : KeysSound A J issuerKid kekPair m kv) {earlier later : List (Rotation J)}
    {r : Rotation J} (hm : m + (earlier ++ r :: later).length ≤ u32Max)
    (hsmooth : ∀ r' ∈ earlier ++ r :: later, Smooth kekPair r') {key : SigningKeyRecord}
    (hok : (Issuer.rotateSigningKeyInner A r issuerKid (exec (rotateStep A issuerKid) kv earlier)).1 = .ok key) :
    ∃ k : SigningKeyRecord,
      (exec (rotateStep A issuerKid) kv (earlier ++ r :: later))[keyName issuerKid key.version]? = some (.record k.toJson) ∧
        k.version = key.version ∧ k.publicKey = key.publicKey ∧ Sealed A J kekPair k := by
  have hend := (run_sound hA _ m kv h hm hsmooth).1
  simp only [List.length_append, List.length_cons] at hm
  have hbefore := (run_sound hA earlier m kv h (by omega) fun r' hr' => hsmooth r' (List.mem_append_left _ hr')).1
  have hafter := (rotate_sound hA hbefore (by omega) (hsmooth r (by simp))).1
  obtain ⟨record, hstored, hpublic⟩ := rotated_stored (hsmooth r (by simp)) hok
  have hkeeps := (run_sound hA later _ (rotateStep A issuerKid (exec (rotateStep A issuerKid) kv earlier) r) hafter (by omega)
    fun r' hr' => hsmooth r' (by simp [hr'])).2
  obtain ⟨c, hc, hmaterial⟩ := hkeeps _ _ hstored
  rw [exec_append, exec_cons] at hend ⊢
  obtain ⟨k, rfl, hversion, -, hsealed⟩ := hend.written _ c hc
  rw [keyMaterial_toJson, keyMaterial_toJson] at hmaterial
  simp only [Option.some.injEq, Prod.mk.injEq, Json.str.injEq] at hmaterial
  exact ⟨k, hc, hversion, hmaterial.2.2.trans hpublic, hsealed⟩

theorem rotated_versions_ne (hA : A.Lawful) (h : KeysSound A J issuerKid kekPair m kv) {earlier mid later : List (Rotation J)}
    {r r' : Rotation J} (hm : m + (earlier ++ r :: mid ++ r' :: later).length ≤ u32Max)
    (hsmooth : ∀ r'' ∈ earlier ++ r :: mid ++ r' :: later, Smooth kekPair r'') {key key' : SigningKeyRecord}
    (hok : (Issuer.rotateSigningKeyInner A r issuerKid (exec (rotateStep A issuerKid) kv earlier)).1 = .ok key)
    (hok' : (Issuer.rotateSigningKeyInner A r' issuerKid (exec (rotateStep A issuerKid) kv (earlier ++ r :: mid))).1 = .ok key') :
    key.version ≠ key'.version := by
  have hbefore : ∀ r'' ∈ earlier ++ r :: mid, Smooth kekPair r'' := fun r'' hr'' => hsmooth r'' (List.mem_append_left _ hr'')
  rw [List.length_append, List.length_cons] at hm
  obtain ⟨k, hstored, -⟩ := rotated_kept hA h (by omega) hbefore hok
  have hsound := (run_sound hA _ m kv h (by omega) hbefore).1
  have hfree := rotated_free hsound (by omega) (hsmooth r' (by simp)) hok'
  intro heq
  rw [← heq, hstored] at hfree
  cases hfree

end

theorem split_twice {α : Type} {l before after before' after' : List α} {x y : α} (h : l = before ++ x :: after)
    (h' : l = before' ++ y :: after') (hne : x ≠ y) :
    (∃ mid, before' = before ++ x :: mid) ∨ ∃ mid, before = before' ++ y :: mid := by
  rw [h] at h'
  rcases List.append_eq_append_iff.mp h' with ⟨mid, hbefore, hrest⟩ | ⟨mid, hbefore, hrest⟩
  · cases mid with
    | nil => exact absurd (List.cons.inj hrest).1 hne
    | cons z mid =>
      obtain ⟨rfl, -⟩ := List.cons.inj hrest
      exact .inl ⟨mid, hbefore⟩
  · cases mid with
    | nil => exact absurd (List.cons.inj hrest).1.symm hne
    | cons z mid =>
      obtain ⟨rfl, -⟩ := List.cons.inj hrest
      exact .inr ⟨mid, hbefore⟩

/-- What is seen of a namespace and of the replies that name its keys. -/
structure KeysApart (A : AesGcm) (issuerKid : String) (kekPair : KekPair) {J : RedJubjub} (m : Nat) (kv₀ : KeyKv)
    (s : Requests J) : Prop where
  sound : KeysSound A J issuerKid kekPair m s.world.data
  kept : Keeps issuerKid kv₀ s.world.data
  stored : ∀ i slot key, s.procs i = .ret (.rotated slot key) → ∃ k : SigningKeyRecord,
    s.world.data[keyName issuerKid key.version]? = some (.record k.toJson) ∧ k.version = key.version ∧
      k.publicKey = key.publicKey ∧ Sealed A J kekPair k
  apart : ∀ i j slot slot' key key', i ≠ j → s.procs i = .ret (.rotated slot key) → s.procs j = .ret (.rotated slot' key') →
    key.version ≠ key'.version

/-- Rotations that read what is stored, any write of which may fail, on a namespace that rotations have written. -/
theorem concurrent_rotations_apart {J : RedJubjub} [Inhabited (Keypair J)] (A : AesGcm) (hA : A.Lawful) (lib : AdminLib)
    (issuerKid : String) (kekPair : KekPair) (token : Nat → String) (htoken : Function.Injective token) (s : Requests J)
    (hjoins : ∀ i, Joins A token i (s.procs i)) (turns : List (Turn (LockedTick (KeyTick J)) LockAlarm)) (t : Int)
    (hclock : Ordered lockedStart lockedStop t turns) (hlock : WithinLock lib issuerKid token s turns) (m : Nat)
    (hsound : KeysSound A J issuerKid kekPair m s.world.data) (hcount : m + turns.length ≤ u32Max)
    (hcalm : ∀ i e, Turn.proc i e ∈ turns → e.data.Calm kekPair) :
    KeysApart A issuerKid kekPair (m + turns.length) s.world.data (exec (Requests.step lib issuerKid) s turns) := by
  obtain ⟨order, horder, hlength, hall⟩ := rotations_inOrder htoken kekPair hjoins hclock hlock
  have hsmooth : ∀ r ∈ order.map Prod.snd, Smooth kekPair r := by
    intro r hr
    obtain ⟨p, hp, rfl⟩ := List.mem_map.mp hr
    exact hall hcalm p hp
  have hle : m + (order.map Prod.snd).length ≤ u32Max := by
    rw [List.length_map]
    omega
  obtain ⟨hrun, hkeeps⟩ := run_sound hA _ m s.world.data hsound hle hsmooth
  refine ⟨?sound, ?kept, ?stored, ?apart⟩
  case sound =>
    rw [horder.data]
    exact hrun.mono (by rw [List.length_map]; omega)
  case kept =>
    rw [horder.data]
    exact hkeeps
  case stored =>
    intro i slot key hi
    obtain ⟨earlier, r, later, hsplit, hok⟩ := horder.replies i slot key hi
    rw [horder.data, hsplit, List.map_append, List.map_cons]
    rw [hsplit, List.map_append, List.map_cons] at hle hsmooth
    exact rotated_kept hA hsound hle hsmooth hok
  case apart =>
    intro i j slot slot' key key' hij hi hj
    obtain ⟨earlier, r, later, hsplit, hok⟩ := horder.replies i slot key hi
    obtain ⟨earlier', r', later', hsplit', hok'⟩ := horder.replies j slot' key' hj
    have hne : (i, r) ≠ (j, r') := fun h => hij (Prod.mk.inj h).1
    -- the one that comes second finds the slot of the first one taken
    rcases split_twice hsplit hsplit' hne with ⟨mid, rfl⟩ | ⟨mid, rfl⟩
    · rw [hsplit', List.map_append, List.map_cons, List.map_append, List.map_cons] at hle hsmooth
      rw [List.map_append, List.map_cons] at hok'
      exact rotated_versions_ne hA hsound hle hsmooth hok hok'
    · rw [hsplit, List.map_append, List.map_cons, List.map_append, List.map_cons] at hle hsmooth
      rw [List.map_append, List.map_cons] at hok
      exact (rotated_versions_ne hA hsound hle hsmooth hok' hok).symm

/-! ## Two rotations -/

instance : Inhabited (Keypair demoCurve) := ⟨demoKeypair 0⟩

def plainLib : AdminLib := ⟨fun provided hash => provided == hash, fun s => s.toUTF8.toList⟩

def rotationTick (b : UInt8) (now : UInt64) : LockedTick (KeyTick demoCurve) where
  admin :=
    { now := now, arm := now, faults := .none, kvFails := false,
      adminHash := fun slot => if slot = .current then some "key" else none,
      secret := fun _ => .ok none, purgeFaults := .none, nonceReadings := .at now }
  data := ⟨.own, false, demoKeypair b, .ok demoKek, Vector.replicate 12 b, now, none⟩

def rotationCall (i : Nat) : RotationCall where
  authorization := some "Bearer key"
  nonce := some (String.ofList (List.replicate 64 (if i = 0 then 'a' else 'b')))
  clientIp := "192.0.2.1"
  customerLimit := fun _ => 100
  failureToken := "f"
  requestToken := "r"
  token := versionName i

def rotationRequests : Requests demoCurve where
  world := ⟨⟨⟨fun _ => .empty, {}⟩, fun _ => .empty⟩, ∅, {}⟩
  procs := fun i => rotateSigningKey clearGcm (rotationCall i)

def turnsOf (i : Nat) (b : UInt8) (now : UInt64) (n : Nat) : List (Turn (LockedTick (KeyTick demoCurve)) LockAlarm) :=
  List.replicate n (.proc i (rotationTick b now))

/-- The second request is let in while the first one rotates. -/
def twoRotations : List (Turn (LockedTick (KeyTick demoCurve)) LockAlarm) :=
  turnsOf 0 1 1000 15 ++ turnsOf 1 2 2000 9 ++ turnsOf 0 1 3000 7 ++ turnsOf 1 2 4000 19

theorem rotationRequests_joins (i : Nat) : Joins clearGcm versionName i (rotationRequests.procs i) :=
  .rotation (rotationCall i) rfl

theorem versionName_inj : Function.Injective versionName := fun _ _ h => versionName_injective h

theorem two_rotations_apart :
    KeysApart clearGcm "k" demoKek 50 ∅ (exec (Requests.step plainLib "k") rotationRequests twoRotations) ∧ ∃ key key',
      ((exec (Requests.step plainLib "k") rotationRequests twoRotations).procs 0).result = some (.rotated .current key) ∧
      ((exec (Requests.step plainLib "k") rotationRequests twoRotations).procs 1).result = some (.rotated .current key') ∧
      key.version = "v1" ∧ key'.version = "v2" := by
  have happart := concurrent_rotations_apart clearGcm clearGcm_lawful plainLib "k" demoKek versionName versionName_inj
    rotationRequests rotationRequests_joins twoRotations 0 (by decide +kernel) (by decide +kernel) 0
    (empty_sound clearGcm demoCurve demoKek (by simp [rotationRequests])) (by decide) (by
      intro i e he
      simp only [twoRotations, turnsOf, List.mem_append, List.mem_replicate] at he
      rcases he with ((⟨-, he⟩ | ⟨-, he⟩) | ⟨-, he⟩) | ⟨-, he⟩ <;> cases he <;> exact ⟨rfl, rfl, rfl⟩)
  refine ⟨happart, newSigningKey (demoKeypair 1) 3000 "v1", newSigningKey (demoKeypair 2) 4000 "v2", ?_, ?_, rfl, rfl⟩
  · decide +kernel
  · decide +kernel

end RotationPool

end Issuer
