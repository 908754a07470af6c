import Issuer.Lib.Store

/-!
# Batches of writes to a family of tables

A judge decides on each listed entry: it skips it, refuses it, or says what to put in its place. A
batch is all or nothing: the entries are staged first and written only when none was refused.

The tables are a family over an index; `commit` makes writes one after another. Writes to different
addresses do not disturb each other, so that every staged entry ends up as staged.
-/

namespace Batch

open Store

inductive Decision (β : Type) where
  | skip
  | fail
  | put (v : β)
deriving DecidableEq, Repr

section
variable {ι κ β : Type} [DecidableEq ι] [Ord κ]

def put (s : ι → Table κ β) (i : ι) (k : κ) (v : β) : ι → Table κ β :=
  Function.update s i ((s i).insert k v)

def commit (s : ι → Table κ β) (ws : List (ι × κ × β)) : ι → Table κ β :=
  ws.foldl (fun s w => put s w.1 w.2.1 w.2.2) s

def address (w : ι × κ × β) : ι × κ := (w.1, w.2.1)

@[simp] theorem commit_nil (s : ι → Table κ β) : commit s [] = s := rfl

@[simp] theorem commit_cons (s : ι → Table κ β) (w : ι × κ × β) (ws : List (ι × κ × β)) :
    commit s (w :: ws) = commit (put s w.1 w.2.1 w.2.2) ws := rfl

theorem put_of_ne (s : ι → Table κ β) {i j : ι} (h : i ≠ j) (k : κ) (v : β) : put s i k v j = s j :=
  Function.update_of_ne (Ne.symm h) _ _

/-- A table without writes stays as it is. -/
theorem commit_of_not_mem (i : ι) : ∀ (ws : List (ι × κ × β)) (s : ι → Table κ β), (∀ w ∈ ws, w.1 ≠ i) →
    commit s ws i = s i
  | [], _, _ => rfl
  | w :: ws, s, h => by
    rw [commit_cons, commit_of_not_mem i ws _ fun w' hw' => h w' (List.mem_cons_of_mem w hw'),
      put_of_ne s (h w (by simp))]

variable [Std.TransOrd κ] [Std.LawfulEqOrd κ] [DecidableEq κ]

theorem put_get (s : ι → Table κ β) (i j : ι) (k a : κ) (v : β) :
    (put s i k v j)[a]? = if (i, k) = (j, a) then some v else (s j)[a]? := by
  by_cases hi : i = j
  · subst hi
    rw [put, Function.update_self, insert_get]
    simp
  · rw [put_of_ne s hi, if_neg (by simp [hi])]

theorem commit_get_of_not_mem {i : ι} {k : κ} : ∀ (ws : List (ι × κ × β)) (s : ι → Table κ β),
    (i, k) ∉ ws.map address → (commit s ws i)[k]? = (s i)[k]?
  | [], _, _ => rfl
  | w :: ws, s, h => by
    simp only [List.map_cons, List.mem_cons, not_or] at h
    rw [commit_cons, commit_get_of_not_mem ws _ h.2, put_get, if_neg (fun he => h.1 he.symm)]

/-- Of writes to different addresses each one stands. -/
theorem commit_get_of_mem {i : ι} {k : κ} {v : β} : ∀ (ws : List (ι × κ × β)) (s : ι → Table κ β),
    (ws.map address).Nodup → (i, k, v) ∈ ws → (commit s ws i)[k]? = some v
  | [], _, _, hm => absurd hm List.not_mem_nil
  | w :: ws, s, hnd, hm => by
    rw [List.map_cons, List.nodup_cons] at hnd
    rw [commit_cons]
    rcases List.mem_cons.mp hm with rfl | hm
    · rw [commit_get_of_not_mem ws _ hnd.1, put_get, if_pos rfl]
    · exact commit_get_of_mem ws _ hnd.2 hm

end

/-! ## Staging -/

section
variable {κ β : Type} [Ord κ] (judge : κ → β → Decision β) (m : Table κ β)

def decisionOf (k : κ) : Decision β :=
  match m[k]? with
  | some v => judge k v
  | none => .skip

def staged (ks : List κ) : List (κ × β) :=
  ks.filterMap fun k => match decisionOf judge m k with
    | .put w => some (k, w)
    | _ => none

def failed (ks : List κ) : List κ :=
  ks.filter fun k => match decisionOf judge m k with
    | .fail => true
    | _ => false

/-- All that is staged, or nothing. -/
def writes (ks : List κ) : List (κ × β) :=
  if failed judge m ks = [] then staged judge m ks else []

theorem mem_staged {ks : List κ} {k : κ} {w : β} :
    (k, w) ∈ staged judge m ks ↔ k ∈ ks ∧ decisionOf judge m k = .put w := by
  simp only [staged, List.mem_filterMap]
  constructor
  · rintro ⟨a, ha, h⟩
    split at h
    · rename_i w' hv
      cases h
      exact ⟨ha, hv⟩
    · cases h
  · rintro ⟨hk, hv⟩
    exact ⟨k, hk, by rw [hv]⟩

theorem mem_failed {ks : List κ} {k : κ} : k ∈ failed judge m ks ↔ k ∈ ks ∧ decisionOf judge m k = .fail := by
  simp only [failed, List.mem_filter]
  refine and_congr_right fun _ => ?_
  cases decisionOf judge m k <;> simp

theorem failed_eq_nil {ks : List κ} : failed judge m ks = [] ↔ ∀ k ∈ ks, decisionOf judge m k ≠ .fail := by
  rw [List.eq_nil_iff_forall_not_mem]
  simp only [mem_failed, not_and]

theorem staged_keys_sublist (ks : List κ) : ((staged judge m ks).map Prod.fst).Sublist ks := by
  induction ks with
  | nil => exact List.Sublist.refl _
  | cons k ks ih =>
    simp only [staged, List.filterMap_cons]
    split
    · exact ih.cons k
    · rename_i w h
      have hk : w.1 = k := by
        split at h
        · cases h; rfl
        · cases h
      rw [List.map_cons, hk]
      exact ih.cons_cons k

theorem writes_keys_sublist (ks : List κ) : ((writes judge m ks).map Prod.fst).Sublist ks := by
  unfold writes
  split
  · exact staged_keys_sublist judge m ks
  · exact List.nil_sublist ks

end

end Batch
