import Mathlib.Data.List.Basic

namespace Precedence
variable {α : Type*} (needs : α → Prop) (serves : α → α → Prop)

/-- Every item in need comes after an item that serves it. -/
def Preceded (items : List α) : Prop :=
  ∀ before item after, items = before ++ item :: after → needs item →
    ∃ server ∈ before, serves server item

variable {needs serves} {first second items : List α} {item : α}

theorem Preceded.nil : Preceded needs serves ([] : List α) := by
  intro before item after split
  simp at split

/-- The first item is free of need. -/
theorem Preceded.head (preceded : Preceded needs serves (item :: items)) : ¬ needs item := by
  intro need
  obtain ⟨server, member, -⟩ := preceded [] item items rfl need
  simp at member

/-- An item in need has a server in the list. -/
theorem Preceded.served (preceded : Preceded needs serves items) (member : item ∈ items)
    (need : needs item) : ∃ server ∈ items, serves server item := by
  obtain ⟨before, after, rfl⟩ := List.append_of_mem member
  obtain ⟨server, inside, serving⟩ := preceded before item after rfl need
  exact ⟨server, List.mem_append_left _ inside, serving⟩

/-- An item at the end is free of need or served by an item before it. -/
theorem Preceded.snoc (preceded : Preceded needs serves items)
    (served : needs item → ∃ server ∈ items, serves server item) :
    Preceded needs serves (items ++ [item]) := by
  intro before other after split need
  rcases List.eq_nil_or_concat after with rfl | ⟨rest, last, rfl⟩
  · obtain ⟨rfl, rfl⟩ : items = before ∧ item = other := by simpa using split
    exact served need
  · have shorter : items ++ [item] = (before ++ other :: rest) ++ [last] := by simpa using split
    obtain ⟨inside, -⟩ := List.append_inj' shorter rfl
    exact preceded before other rest inside need

/-- The end of the list may be dropped. -/
theorem Preceded.of_append (preceded : Preceded needs serves (first ++ second)) :
    Preceded needs serves first := by
  intro before item after split
  apply preceded before item (after ++ second)
  rw [split, List.append_assoc, List.cons_append]

/-- An item may be removed when an earlier item or the next one serves in its place. -/
theorem Preceded.remove (preceded : Preceded needs serves (first ++ item :: second))
    (replaced : ∀ other, serves item other → (∃ server ∈ first, serves server other) ∨
      ∃ next rest, second = next :: rest ∧ ¬ needs next ∧ serves next other) :
    Preceded needs serves (first ++ second) := by
  intro before other after split need
  rcases List.append_eq_append_iff.mp split with ⟨middle, rfl, later⟩ | ⟨middle, rfl, later⟩
  · have whole : first ++ item :: second = (first ++ item :: middle) ++ other :: after := by
      rw [later, List.append_assoc, List.cons_append]
    obtain ⟨server, member, serving⟩ := preceded _ other after whole need
    have places : server ∈ first ++ middle ∨ server = item := by
      simp only [List.mem_append, List.mem_cons] at member ⊢
      tauto
    rcases places with kept | rfl
    · exact ⟨server, kept, serving⟩
    · rcases replaced other serving with ⟨earlier, inside, serves⟩ | ⟨next, rest, follows, free, serves⟩
      · exact ⟨earlier, List.mem_append_left _ inside, serves⟩
      · -- the item in need is not the next one, so the next one lies before it
        rw [follows] at later
        cases middle with
        | nil =>
            obtain ⟨rfl, -⟩ := List.cons.inj later
            exact absurd need free
        | cons head tail =>
            obtain ⟨rfl, -⟩ := List.cons.inj later
            exact ⟨next, List.mem_append_right _ List.mem_cons_self, serves⟩
  · cases middle with
    | nil =>
        rw [List.nil_append] at later
        have whole : (before ++ []) ++ item :: second = (before ++ [item]) ++ other :: after := by
          rw [← later, List.append_nil, List.append_assoc, List.singleton_append]
        obtain ⟨server, member, serving⟩ := preceded _ other after whole need
        rcases List.mem_append.mp member with kept | here
        · exact ⟨server, kept, serving⟩
        · rw [List.mem_singleton.mp here] at serving
          rcases replaced other serving with ⟨earlier, inside, serves⟩ | ⟨next, rest, follows, free, _⟩
          · exact ⟨earlier, by simpa using inside, serves⟩
          · rw [follows] at later
            obtain ⟨rfl, -⟩ := List.cons.inj later
            exact absurd need free
    | cons head tail =>
        obtain ⟨rfl, rfl⟩ := List.cons.inj later
        exact preceded before other (tail ++ item :: second) (by simp) need

end Precedence
