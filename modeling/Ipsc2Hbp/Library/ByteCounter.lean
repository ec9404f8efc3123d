import Mathlib.Data.List.Basic

namespace ByteCounter
variable {A : Type*} (number : A → UInt8)

/-- The items carry the values of the counter in order, from the next value on. -/
def Numbered : UInt8 → List A → Prop
  | _, [] => True
  | next, item :: rest => number item = next ∧ Numbered (next + 1) rest

/-- The counter after so many items. -/
def advance (next : UInt8) (count : Nat) : UInt8 := next + UInt8.ofNat count

@[simp] theorem advance_zero (next : UInt8) : advance next 0 = next := UInt8.add_zero next

theorem advance_add (next : UInt8) (first second : Nat) :
    advance (advance next first) second = advance next (first + second) := by
  simp only [advance, UInt8.ofNat_add, UInt8.add_assoc]

theorem advance_succ (next : UInt8) (count : Nat) : advance (next + 1) count = advance next (count + 1) := by
  have one : next + 1 = advance next 1 := rfl
  rw [one, advance_add, Nat.add_comm]

/-- The counter has wrapped around to the same value exactly after a multiple of 256 items. -/
theorem advance_eq_iff (next : UInt8) (first second : Nat) :
    advance next first = advance next second ↔ first % 256 = second % 256 := by
  rw [advance, advance, UInt8.add_right_inj, UInt8.ofNat_eq_iff_mod_eq_toNat, UInt8.toNat_ofNat']

/-- The items of two lists are numbered on. -/
theorem numbered_append (next : UInt8) (first second : List A) :
    Numbered number next (first ++ second) ↔
      Numbered number next first ∧ Numbered number (advance next first.length) second := by
  induction first generalizing next with
  | nil => simp [Numbered]
  | cons item rest ih =>
      simp only [List.cons_append, Numbered, ih, List.length_cons, advance_succ, and_assoc]

variable {number}

/-- Each number follows the one before. -/
theorem Numbered.isChain {next : UInt8} {items : List A} (numbered : Numbered number next items) :
    items.IsChain fun one two => number two = number one + 1 := by
  induction items generalizing next with
  | nil => exact .nil
  | cons item rest ih =>
      cases rest with
      | nil => exact .singleton item
      | cons second later =>
          obtain ⟨first, others⟩ := numbered
          have following : number second = number item + 1 := by rw [others.1, first]
          exact .cons_cons following (ih others)

/-- The numbers of two items are as far apart as their places. -/
theorem Numbered.apart {next : UInt8} {before between after : List A} {one two : A}
    (numbered : Numbered number next (before ++ one :: (between ++ two :: after))) :
    number two = advance (number one) (between.length + 1) := by
  obtain ⟨first, rest⟩ := ((numbered_append number next _ _).mp numbered).2
  obtain ⟨second, -⟩ := ((numbered_append number _ _ _).mp rest).2
  rw [second, first, advance_succ]

section Tags
variable {K : Type*} [DecidableEq K]

/-- The number of tags that were issued since the last one of a key. -/
def since (key : K) (issued : List K) : Nat := (issued.reverse.takeWhile (· ≠ key)).length

@[simp] theorem since_append_self (key : K) (issued : List K) : since key (issued ++ [key]) = 0 := by
  simp [since]

theorem since_append_of_ne {key other : K} (apart : other ≠ key) (issued : List K) :
    since key (issued ++ [other]) = since key issued + 1 := by
  simp [since, apart]

/-- Every holder has the tag that the counter gave its key last. -/
def Tagged (counter : UInt8) (issued : List K) (holds : K → Prop) (tag : K → UInt8) : Prop :=
  ∀ key, holds key → advance (tag key) (since key issued) = counter

variable {counter : UInt8} {issued : List K} {holds later : K → Prop} {tag next : K → UInt8}

/-- A key takes the next tag and the others keep theirs. -/
theorem Tagged.issue (tagged : Tagged counter issued holds tag) {key : K}
    (taken : next key = counter + 1)
    (kept : ∀ other, other ≠ key → later other → holds other ∧ next other = tag other) :
    Tagged (counter + 1) (issued ++ [key]) later next := by
  intro other holding
  by_cases own : other = key
  · subst own
    rw [since_append_self, advance_zero, taken]
  · obtain ⟨held, same⟩ := kept other own holding
    rw [since_append_of_ne (Ne.symm own), same, ← advance_add, tagged other held]
    rfl

/-- Without a new tag the holders keep theirs or give them up. -/
theorem Tagged.keep (tagged : Tagged counter issued holds tag)
    (kept : ∀ key, later key → holds key ∧ next key = tag key) : Tagged counter issued later next := by
  intro key holding
  obtain ⟨held, same⟩ := kept key holding
  rw [same]
  exact tagged key held

/-- Two holders have one tag exactly when the counter has wrapped around between them. -/
theorem Tagged.tag_eq_iff (tagged : Tagged counter issued holds tag) {one two : K} (first : holds one)
    (second : holds two) : tag one = tag two ↔ since one issued % 256 = since two issued % 256 := by
  have same : advance (tag one) (since one issued) = advance (tag two) (since two issued) :=
    (tagged one first).trans (tagged two second).symm
  constructor
  · intro alike
    rw [alike, advance_eq_iff] at same
    exact same
  · intro wrapped
    rw [(advance_eq_iff (tag one) _ _).mpr wrapped] at same
    exact (UInt8.add_left_inj _).mp same

end Tags
end ByteCounter
