import Issuer.KekResume

/-!
# Updates of the time of use during a rotation

The worker writes an officer or a client back whenever it is used: it reads the whole record, sets
`last_used` and puts the record. The tool rewrites the same records, and lets a whole namespace pass
between its read and its write. Neither locks.

An interleaving is a pool of programs: the run of the tool and any number of updates, one request a turn.
The log of requests says which update is timely: one that writes before the tool reads, or reads after the
tool has written.
-/

namespace Issuer.Tool

open Rust Store Batch

/-! ## Interleavings -/

inductive UseUpdate where
  | officer (issuerKid officerId : String) (now : UInt64)
  | client (clientId : String) (kvKey : Option String) (now : UInt64)

def UseUpdate.prog : UseUpdate → ToolProg (Except ApiError Unit)
  | .officer issuerKid officerId now => updateOfficerLastUsedById issuerKid officerId now
  | .client clientId kvKey now => updateClientLastUsedAt clientId kvKey now

inductive Outcome where
  | tool (x : Except String Unit)
  | update (x : Except ApiError Unit)
deriving DecidableEq

abbrev Interleaving := Pool KvStore KvOp KvAns Outcome × List (Nat × KvOp)

abbrev KvTurn := Turn Unit Empty

def kvTurn : Interleaving → KvTurn → Interleaving := Pool.stepLogged kvStep fun store _ => store

section
variable (A : AesGcm) (r : RotateKek)

/-- Program 0 is the run of the tool. -/
def interleaving (store : KvStore) (updates : Nat → UseUpdate) : Interleaving :=
  (⟨store, fun
    | 0 => rotateKek A r >>= fun x => .ret (.tool x)
    | i + 1 => (updates i).prog >>= fun x => .ret (.update x)⟩, [])

def Fresh (log : List (Nat × KvOp)) (i : Nat) (ns : NamespaceId) (key : String) : Prop :=
  ∃ before after, log = before ++ (i, .get ns key) :: after ∧ ∃ value, (0, .put ns key value) ∈ before

/-- An update writes before the tool has read the record, or has read it after the tool has written it. -/
def Timely (s : Interleaving) : KvTurn → Prop
  | .proc (i + 1) _ => ∀ ns key value, (s.1.procs (i + 1)).next = some (.put ns key value) →
      (0, .get ns key) ∉ s.2 ∨ Fresh s.2 (i + 1) ns key
  | _ => True

def FieldSealed (kek : Bytes) (record : Table String Json) (field : EncryptedField) : Prop :=
  field.optional = true ∧ fieldValue record[field.jsonKey]? = .absent ∨
    ∃ form data, fieldValue record[field.jsonKey]? = .bytes form data ∧ Sealed A kek (field.aad.bytes record) data

def Decrypts (kek : Bytes) (ns : EncryptedNamespace) : Cell Json → Prop
  | .garbled => False
  | .record j => ∀ field ∈ ns.fields, FieldSealed A kek j.entries field

/-- Officers and clients are encrypted records under keys that the tool lists. -/
structure RegistrationsListed (store : KvStore) : Prop where
  configured : r.configured .officers = true ∧ r.configured .clients = true
  listed : ∀ ns ∈ [officersNs, clientsNs], ∀ (key : String) cell, (store ns.namespaceId)[key]? = some cell →
    hasPrefix ns.keyPrefix key = true ∧ ¬Skipped ns cell

/-- Once the tool has succeeded every officer and client decrypts under the new key, and what the last update of a
record has written since the tool read it is what is stored. -/
structure Preserved (s : Interleaving) : Prop where
  decrypts : s.1.procs 0 = .ret (.tool (.ok ())) → ∀ ns ∈ [officersNs, clientsNs], ∀ (key : String) cell,
    (s.1.world ns.namespaceId)[key]? = some cell → Decrypts A r.newKek ns cell
  kept : ∀ ns ∈ [officersNs, clientsNs], ∀ (key : String) i value before after,
    s.2 = before ++ (i + 1, .put ns.namespaceId key value) :: after → (0, .get ns.namespaceId key) ∈ before →
    (∀ j w, (j + 1, .put ns.namespaceId key w) ∉ after) → (s.1.world ns.namespaceId)[key]? = some value

end

end Issuer.Tool
