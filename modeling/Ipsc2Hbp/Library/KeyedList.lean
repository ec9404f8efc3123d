import Mathlib.Data.List.Nodup
import Mathlib.Data.Option.Basic

namespace KeyedList
variable {E K : Type*} (key : E → K)

/-- No two entries have the same key. -/
def Distinct (entries : List E) : Prop := (entries.map key).Nodup

variable {key}

/-- Fewer entries have distinct keys. -/
theorem Distinct.filter {entries : List E} (distinct : Distinct key entries) (keep : E → Bool) :
    Distinct key (entries.filter keep) :=
  (List.filter_sublist.map key).nodup distinct

/-- Changes that keep the keys keep them distinct. -/
theorem Distinct.of_keys {before after : List E} (distinct : Distinct key before)
    (same : after.map key = before.map key) : Distinct key after := by
  rw [Distinct, same]
  exact distinct

variable [DecidableEq K]

/-- The entry of a key. -/
def entryOf (key : E → K) (id : K) (entries : List E) : Option E :=
  entries.find? fun entry => key entry = id

/-- The entry of a key has that key. -/
theorem key_of_entryOf {id : K} {entries : List E} {entry : E}
    (found : entryOf key id entries = some entry) : key entry = id := by
  simpa using List.find?_some found

/-- A key without entry is the key of no entry. -/
theorem entryOf_eq_none {id : K} {entries : List E} :
    entryOf key id entries = none ↔ ∀ entry ∈ entries, key entry ≠ id := by
  simp [entryOf]

/-- With distinct keys the entries are those that the lookup finds. -/
theorem Distinct.mem_iff {entries : List E} (distinct : Distinct key entries) {entry : E} :
    entry ∈ entries ↔ entryOf key (key entry) entries = some entry := by
  refine ⟨fun member => ?_, List.mem_of_find?_eq_some⟩
  induction entries with
  | nil => cases member
  | cons first rest ih =>
      obtain ⟨fresh, others⟩ := List.nodup_cons.mp distinct
      rcases List.mem_cons.mp member with rfl | later
      · simp [entryOf]
      · have other : key first ≠ key entry := fun same =>
          fresh (same ▸ List.mem_map_of_mem later)
        rw [entryOf, List.find?_cons_of_neg (by simpa using other)]
        exact ih others later

/-- An appended entry is found under its key, if that is new. -/
theorem entryOf_append {entries : List E} {entry : E}
    (fresh : entryOf key (key entry) entries = none) (id : K) :
    entryOf key id (entries ++ [entry]) =
      if id = key entry then some entry else entryOf key id entries := by
  by_cases same : id = key entry
  · subst same
    rw [if_pos rfl, entryOf, List.find?_append]
    rw [entryOf] at fresh
    simp [fresh]
  · have other : ¬key entry = id := fun eq => same eq.symm
    rw [if_neg same, entryOf, List.find?_append]
    simp [entryOf, other]

/-- A change of all entries that keeps their keys is found under them. -/
theorem entryOf_map {change : E → E} (keeps : ∀ entry, key (change entry) = key entry)
    (entries : List E) (id : K) :
    entryOf key id (entries.map change) = (entryOf key id entries).map change := by
  have same : (fun entry => decide (key entry = id)) ∘ change = fun entry => decide (key entry = id) := by
    funext entry
    simp [keeps]
  rw [entryOf, List.find?_map, same, entryOf]

/-- What is read of an entry after changes that depend on the places of the entries. -/
theorem entryOf_mapIdx {V : Type*} {change : Nat → E → E}
    (keeps : ∀ idx entry, key (change idx entry) = key entry) (view : E → V) (viewed : E → V)
    (reads : ∀ idx entry, view (change idx entry) = viewed entry) (entries : List E) (id : K) :
    (entryOf key id (entries.mapIdx change)).map view = (entryOf key id entries).map viewed := by
  induction entries generalizing change with
  | nil => rfl
  | cons entry rest ih =>
      rw [List.mapIdx_cons, entryOf, entryOf, List.find?_cons, List.find?_cons, keeps]
      split
      · exact congrArg some (reads 0 entry)
      · exact ih (fun idx entry => keeps (idx + 1) entry) fun idx entry => reads (idx + 1) entry

/-- A change of one entry that keeps its key is found under that key. -/
theorem entryOf_update {change : E → E} (keeps : ∀ entry, key (change entry) = key entry)
    (entries : List E) (changed id : K) :
    entryOf key id (entries.map fun entry => if key entry = changed then change entry else entry) =
      if id = changed then (entryOf key id entries).map change else entryOf key id entries := by
  induction entries with
  | nil => simp [entryOf]
  | cons entry rest ih =>
      have first : key (if key entry = changed then change entry else entry) = key entry := by
        split
        · exact keeps entry
        · rfl
      simp only [entryOf] at ih ⊢
      by_cases here : key entry = id
      · subst here
        rw [List.map_cons, List.find?_cons_of_pos (by simpa using first),
          List.find?_cons_of_pos (by simp)]
        by_cases own : key entry = changed <;> simp [own]
      · rw [List.map_cons, List.find?_cons_of_neg (by simpa [first] using here), ih,
          List.find?_cons_of_neg (by simpa using here)]

/-- With distinct keys the lookup in the entries that are kept is the lookup of a kept entry. -/
theorem Distinct.entryOf_filter {entries : List E} (distinct : Distinct key entries)
    (keep : E → Bool) (id : K) :
    entryOf key id (entries.filter keep) = (entryOf key id entries).filter keep := by
  induction entries with
  | nil => rfl
  | cons entry rest ih =>
      obtain ⟨fresh, others⟩ := List.nodup_cons.mp distinct
      have later := ih others
      simp only [entryOf] at later ⊢
      by_cases here : key entry = id
      · have gone : rest.find? (fun other => decide (key other = id)) = none := by
          simp only [List.find?_eq_none, decide_eq_true_eq]
          intro other member same
          exact fresh (here.trans same.symm ▸ List.mem_map_of_mem member)
        rw [List.filter_cons, List.find?_cons_of_pos (by simpa using here)]
        cases kept : keep entry with
        | true => simp [here, kept, Option.filter]
        | false =>
            rw [gone] at later
            simpa [kept, Option.filter] using later
      · rw [List.filter_cons, List.find?_cons_of_neg (by simpa using here), ← later]
        cases keep entry with
        | true => simp [here]
        | false => rfl

/-- A new key stays apart. -/
theorem Distinct.append {entries : List E} (distinct : Distinct key entries) {entry : E}
    (fresh : entryOf key (key entry) entries = none) : Distinct key (entries ++ [entry]) := by
  rw [Distinct, List.map_append]
  refine List.Nodup.append distinct (List.nodup_singleton _) ?_
  intro id inside last
  obtain ⟨other, member, rfl⟩ := List.mem_map.mp inside
  exact entryOf_eq_none.mp fresh other member (List.mem_singleton.mp last)

end KeyedList
