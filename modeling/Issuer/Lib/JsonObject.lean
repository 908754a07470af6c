import Issuer.Lib.Json
import Issuer.Lib.Store

/-!
# JSON objects as maps

`serde_json::Value` keeps an object as a sorted map, in which the last of several members of one
name counts, and prints the members in order. `entries` is that map (empty for other values) and
`ofEntries` the value that is printed.

A derived reader goes through the members of the text instead. Where no name is repeated both see
the same: `get_congr`.
-/

namespace Json

open Store

def entries : Json → Table String Json
  | .obj members => members.foldl (fun m member => m.insert member.1 member.2) ∅
  | _ => ∅

def ofEntries (m : Table String Json) : Json := .obj m.toList

/-- An object that names no member twice. -/
def Distinct : Json → Prop
  | .obj members => (members.map Prod.fst).Nodup
  | _ => False

theorem foldl_insert_get (n : String) : ∀ (members : List (String × Json)) (m : Table String Json),
    n ∉ members.map Prod.fst → (members.foldl (fun m member => m.insert member.1 member.2) m)[n]? = m[n]?
  | [], _, _ => rfl
  | member :: members, m, h => by
    have hne : member.1 ≠ n := fun he => h (by simp [he])
    have hrest : n ∉ members.map Prod.fst := fun hn => h (by simp only [List.map_cons, List.mem_cons]; exact .inr hn)
    rw [List.foldl_cons, foldl_insert_get n members _ hrest, insert_get_of_ne m hne]

theorem entries_get_none {members : List (String × Json)} {n : String} (h : n ∉ members.map Prod.fst) :
    (obj members).entries[n]? = none := by
  simp only [entries]
  rw [foldl_insert_get n members ∅ h]
  exact Std.TreeMap.getElem?_emptyc

theorem entries_get_isSome {n : String} : ∀ {members : List (String × Json)} (m : Table String Json),
    n ∈ members.map Prod.fst → ((members.foldl (fun m member => m.insert member.1 member.2) m)[n]?).isSome = true
  | member :: members, m, h => by
    rw [List.foldl_cons]
    by_cases hrest : n ∈ members.map Prod.fst
    · exact entries_get_isSome _ hrest
    · rcases List.mem_cons.mp h with rfl | hn
      · rw [foldl_insert_get _ members _ hrest, insert_get, if_pos rfl]
        rfl
      · exact absurd hn hrest

/-- The only member of its name is the entry. -/
theorem entries_get_of_split (before : List (String × Json)) (n : String) (v : Json) {after : List (String × Json)}
    (h : n ∉ after.map Prod.fst) : (obj (before ++ (n, v) :: after)).entries[n]? = some v := by
  simp only [entries, List.foldl_append, List.foldl_cons]
  rw [foldl_insert_get n after _ h, insert_get, if_pos rfl]

theorem mem_iff_entries {members : List (String × Json)} (h : (members.map Prod.fst).Nodup) (n : String) (v : Json) :
    (n, v) ∈ members ↔ (obj members).entries[n]? = some v := by
  constructor
  · intro hm
    obtain ⟨before, after, rfl⟩ := List.append_of_mem hm
    refine entries_get_of_split before n v ?_
    rw [List.map_append, List.map_cons, List.nodup_append] at h
    exact (List.nodup_cons.mp h.2.1).1
  · intro he
    by_cases hn : n ∈ members.map Prod.fst
    · obtain ⟨⟨n', w⟩, hm, rfl⟩ := List.mem_map.mp hn
      obtain ⟨before, after, rfl⟩ := List.append_of_mem hm
      rw [List.map_append, List.map_cons, List.nodup_append] at h
      rw [entries_get_of_split before n' w (List.nodup_cons.mp h.2.1).1] at he
      cases he
      exact hm
    · rw [entries_get_none hn] at he
      cases he

theorem distinct_ofEntries (m : Table String Json) : (ofEntries m).Distinct := by
  simp only [ofEntries, Distinct, Std.TreeMap.map_fst_toList_eq_keys]
  exact Std.TreeMap.nodup_keys

@[simp] theorem entries_ofEntries_get (m : Table String Json) (n : String) : (ofEntries m).entries[n]? = m[n]? := by
  have hmem : ∀ v, m[n]? = some v ↔ (ofEntries m).entries[n]? = some v := by
    intro v
    rw [← Std.TreeMap.mem_toList_iff_getElem?_eq_some]
    exact mem_iff_entries (distinct_ofEntries m) n v
  cases hv : m[n]? with
  | some v => exact (hmem v).mp hv
  | none =>
    cases he : (ofEntries m).entries[n]? with
    | none => rfl
    | some v => rw [(hmem v).mpr he] at hv; cases hv

/-! ## What a derived reader sees -/

theorem field_eq_none {members : List (String × Json)} {names : List String} (h : field members names = some none)
    {n : String} (hn : n ∈ names) : (obj members).entries[n]? = none := by
  refine entries_get_none fun hmem => ?_
  obtain ⟨member, hm, rfl⟩ := List.mem_map.mp hmem
  have hfilter : member ∈ members.filter fun m => names.contains m.1 := by simp [hm, hn]
  unfold field at h
  split at h
  · rename_i he
    rw [he] at hfilter
    cases hfilter
  · cases h
  · cases h

/-- A field that is read is the entry of one of its names, and the others have none. -/
theorem field_eq_some {members : List (String × Json)} {names : List String} {v : Json}
    (h : field members names = some (some v)) : ∃ n ∈ names, (obj members).entries[n]? = some v ∧
      ∀ n' ∈ names, n' ≠ n → (obj members).entries[n']? = none := by
  unfold field at h
  split at h
  · cases h
  · rename_i member hfilter
    have hm : member ∈ members.filter fun m => names.contains m.1 := by rw [hfilter]; simp
    obtain ⟨hmem, hname⟩ := List.mem_filter.mp hm
    obtain ⟨before, after, rfl⟩ := List.append_of_mem hmem
    cases h
    have hsplit : before.filter (fun m => names.contains m.1) = [] ∧ after.filter (fun m => names.contains m.1) = [] := by
      have hlen := congrArg List.length hfilter
      simp only [List.filter_append, List.filter_cons, hname, if_true, List.length_append, List.length_cons,
        List.length_nil] at hlen
      exact ⟨List.length_eq_zero_iff.mp (by omega), List.length_eq_zero_iff.mp (by omega)⟩
    have houtside : ∀ ms : List (String × Json), ms.filter (fun m => names.contains m.1) = [] → ∀ n ∈ names,
        n ∉ ms.map Prod.fst := by
      intro ms hnil n hn hmap
      obtain ⟨m', hm', rfl⟩ := List.mem_map.mp hmap
      have : m' ∈ ms.filter fun m => names.contains m.1 := by simp [hm', hn]
      rw [hnil] at this
      cases this
    have hn : member.1 ∈ names := by simpa using hname
    refine ⟨member.1, hn, entries_get_of_split before _ _ (houtside after hsplit.2 _ hn), fun n' hn' hne => ?_⟩
    refine entries_get_none ?_
    simp only [List.map_append, List.map_cons, List.mem_append, List.mem_cons, not_or]
    exact ⟨houtside before hsplit.1 n' hn', hne, houtside after hsplit.2 n' hn'⟩
  · cases h

/-- A struct that reads every member of an object by its name finds none of them twice. -/
theorem distinct_of_fields {members : List (String × Json)} {names : List String}
    (hnames : ∀ n ∈ members.map Prod.fst, n ∈ names) (hread : ∀ n ∈ names, field members [n] ≠ none) :
    (obj members).Distinct := by
  refine List.nodup_iff_count_le_one.mpr fun n => ?_
  by_cases hn : n ∈ members.map Prod.fst
  · have hfield := hread n (hnames n hn)
    have hcount : (members.map Prod.fst).count n = (members.filter fun m => [n].contains m.1).length := by
      rw [List.count, List.countP_map, List.countP_eq_length_filter]
      congr 1
      refine List.filter_congr fun m _ => ?_
      simp only [Function.comp_apply, List.contains_cons, List.contains_nil, Bool.or_false]
    rw [hcount]
    unfold field at hfield
    split at hfield
    · rename_i he
      rw [he, List.length_nil]
      omega
    · rename_i he
      rw [he, List.length_singleton]
    · exact absurd rfl hfield
  · rw [List.count_eq_zero.mpr hn]
    omega

theorem field_singleton {members : List (String × Json)} {n : String} {r : Option Json}
    (h : field members [n] = some r) : (obj members).entries[n]? = r := by
  cases r with
  | none => exact field_eq_none h (by simp)
  | some v =>
    obtain ⟨n', hn', hv, _⟩ := field_eq_some h
    rw [List.mem_singleton.mp hn'] at hv
    exact hv

/-- Objects that name no member twice read alike where their entries agree. -/
theorem field_congr {members members' : List (String × Json)} (h : (members.map Prod.fst).Nodup)
    (h' : (members'.map Prod.fst).Nodup) {names : List String}
    (hsame : ∀ n ∈ names, (obj members).entries[n]? = (obj members').entries[n]?) :
    field members names = field members' names := by
  have hperm : (members.filter fun m => names.contains m.1).Perm (members'.filter fun m => names.contains m.1) := by
    rw [List.perm_ext_iff_of_nodup ((List.Nodup.of_map _ h).filter _) ((List.Nodup.of_map _ h').filter _)]
    intro ⟨n, v⟩
    simp only [List.mem_filter, List.contains_iff_mem]
    refine and_congr_left fun hn => ?_
    rw [mem_iff_entries h, mem_iff_entries h', hsame n hn]
  unfold field
  generalize members.filter (fun m => names.contains m.1) = l at hperm
  generalize members'.filter (fun m => names.contains m.1) = l' at hperm
  cases l with
  | nil => rw [List.nil_perm.mp hperm]
  | cons m ms =>
    cases ms with
    | nil => rw [List.singleton_perm.mp hperm]
    | cons m₂ ms =>
      have hlen := hperm.length_eq
      cases l' with
      | nil => simp at hlen
      | cons m' ms' =>
        cases ms' with
        | nil => simp at hlen
        | cons m₂' ms' => rfl

theorem get_congr {j j' : Json} (h : j.Distinct) (h' : j'.Distinct) (i : Nat) {names : List String}
    (hsame : ∀ n ∈ names, j.entries[n]? = j'.entries[n]?) : j.get i names = j'.get i names := by
  cases j with
  | obj members =>
    cases j' with
    | obj members' => exact field_congr h h' hsame
    | _ => exact h'.elim
  | _ => exact h.elim

/-- A member of a distinct object is read where no other of the field's names is given. -/
theorem get_of_entries {j : Json} (h : j.Distinct) (i : Nat) {names : List String} {n : String} {v : Json} (hn : n ∈ names)
    (hv : j.entries[n]? = some v) (hothers : ∀ n' ∈ names, n' ≠ n → j.entries[n']? = none) :
    j.get i names = some (some v) := by
  have hsingle : (obj [(n, v)]).Distinct := by simp [Distinct]
  rw [get_congr h hsingle i fun n' hn' => ?_]
  · simp [get, field, hn]
  · by_cases he : n' = n
    · rw [he, hv]
      simp [entries]
    · rw [hothers n' hn' he, entries_get_none (by simpa using he)]

section
variable {α : Type} {j : Json} (h : j.Distinct) (decode : Json → Option α) (i : Nat) {n : String} {v : Json}
  (hv : j.entries[n]? = some v)

include h hv

theorem get_singleton : j.get i [n] = some (some v) :=
  get_of_entries h i (by simp) hv fun n' hn' hne => absurd (List.mem_singleton.mp hn') hne

theorem required_of_entries : j.required decode i [n] = decode v := by
  simp only [required, get_singleton h i hv, Option.bind_some]

theorem optional_of_entries : j.optional decode i [n] = nullable decode v := by
  simp only [optional, get_singleton h i hv, Option.bind_some]

end

section
variable {α : Type} {decode : Json → Option α} {members : List (String × Json)} {i : Nat} {n : String}

theorem required_some {α : Type} {decode : Json → Option α} {i : Nat} {names : List String} {j : Json} {a : α}
    (h : j.required decode i names = some a) : ∃ v, decode v = some a := by
  obtain ⟨_, _, hv⟩ := Option.bind_eq_some_iff.mp h
  obtain ⟨v, _, hdecode⟩ := Option.bind_eq_some_iff.mp hv
  exact ⟨v, hdecode⟩

theorem required_obj {a : α} (h : (obj members).required decode i [n] = some a) :
    ∃ v, (obj members).entries[n]? = some v ∧ decode v = some a := by
  obtain ⟨r, hr, ha⟩ := Option.bind_eq_some_iff.mp h
  obtain ⟨v, rfl, hv⟩ := Option.bind_eq_some_iff.mp ha
  exact ⟨v, field_singleton hr, hv⟩

theorem defaulted_obj {a dflt : α} (h : (obj members).defaulted decode i [n] dflt = some a) :
    (obj members).entries[n]? = none ∧ a = dflt ∨ ∃ v, (obj members).entries[n]? = some v ∧ decode v = some a := by
  obtain ⟨r, hr, ha⟩ := Option.bind_eq_some_iff.mp h
  cases r with
  | none =>
    cases ha
    exact .inl ⟨field_singleton hr, rfl⟩
  | some v => exact .inr ⟨v, field_singleton hr, ha⟩

theorem optional_obj {a : Option α} (h : (obj members).optional decode i [n] = some a) :
    (obj members).entries[n]? = none ∧ a = none ∨ ∃ v, (obj members).entries[n]? = some v ∧ nullable decode v = some a := by
  obtain ⟨r, hr, ha⟩ := Option.bind_eq_some_iff.mp h
  cases r with
  | none =>
    cases ha
    exact .inl ⟨field_singleton hr, rfl⟩
  | some v => exact .inr ⟨v, field_singleton hr, ha⟩

end

/-! ## Readers of two objects that agree on a field -/

section
variable {α : Type} {j j' : Json} (h : j.Distinct) (h' : j'.Distinct) (decode : Json → Option α) (i : Nat)
  {names : List String} (hsame : ∀ n ∈ names, j.entries[n]? = j'.entries[n]?)

include h h' hsame

theorem required_congr : j.required decode i names = j'.required decode i names := by
  simp only [required, get_congr h h' i hsame]

theorem defaulted_congr (dflt : α) : j.defaulted decode i names dflt = j'.defaulted decode i names dflt := by
  simp only [defaulted, get_congr h h' i hsame]

theorem optional_congr : j.optional decode i names = j'.optional decode i names := by
  cases j with
  | obj members =>
    cases j' with
    | obj members' => simp only [optional, get_congr h h' i hsame]
    | _ => exact h'.elim
  | _ => exact h.elim

end

end Json
