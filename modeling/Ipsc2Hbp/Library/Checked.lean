import Mathlib.Data.List.Basic

/-- A value with the errors that were found on the way to it. -/
structure Checked (E A : Type) where
  value : A
  errors : List E

namespace Checked
variable {E A B : Type}

/-- Later checks read the values of the earlier ones and add their errors. -/
instance : Monad (Checked E) where
  pure value := ⟨value, []⟩
  bind first next := ⟨(next first.value).value, first.errors ++ (next first.value).errors⟩

instance : LawfulMonad (Checked E) := LawfulMonad.mk' _
  (fun checked => congrArg (Checked.mk checked.value) (List.append_nil checked.errors))
  (fun _ _ => rfl)
  (fun _ _ _ => by simp only [bind, List.append_assoc])

def report (error : E) : Checked E Unit := ⟨(), [error]⟩

def reportIf (wrong : Bool) (error : E) : Checked E Unit := if wrong then report error else pure ()

/-- The errors are raised, or the value is returned. -/
def result (checked : Checked E A) : Except (List E) A :=
  if checked.errors.isEmpty then .ok checked.value else .error checked.errors

/-- The checks have found no error. -/
def Accepts (checked : Checked E A) : Prop := checked.errors = []

instance decidableAccepts [DecidableEq E] (checked : Checked E A) : Decidable checked.Accepts :=
  inferInstanceAs (Decidable (checked.errors = []))

@[simp] theorem pure_value (value : A) : (pure value : Checked E A).value = value := rfl

@[simp] theorem bind_value (first : Checked E A) (next : A → Checked E B) :
    (first >>= next).value = (next first.value).value := rfl

/-- The errors of a check are among those of the checks that go on from it or lead to it. -/
theorem mem_bind_first {first : Checked E A} {next : A → Checked E B} {error : E}
    (found : error ∈ first.errors) : error ∈ (first >>= next).errors := List.mem_append_left _ found

theorem mem_bind_next {first : Checked E A} {next : A → Checked E B} {error : E}
    (found : error ∈ (next first.value).errors) : error ∈ (first >>= next).errors :=
  List.mem_append_right _ found

/-- A sequence of checks accepts when each of them does. -/
@[simp] theorem bind_accepts (first : Checked E A) (next : A → Checked E B) :
    (first >>= next).Accepts ↔ first.Accepts ∧ (next first.value).Accepts := List.append_eq_nil_iff

@[simp] theorem reportIf_accepts (wrong : Bool) (error : E) :
    (reportIf wrong error).Accepts ↔ wrong = false := by
  cases wrong <;> simp [reportIf, report, Accepts, pure]

theorem result_eq_ok_iff (checked : Checked E A) (value : A) :
    checked.result = .ok value ↔ checked.Accepts ∧ checked.value = value := by
  unfold result Accepts
  cases checked.errors <;> simp

theorem result_eq_error_iff (checked : Checked E A) (errors : List E) :
    checked.result = .error errors ↔ ¬ checked.Accepts ∧ checked.errors = errors := by
  unfold result Accepts
  cases checked.errors <;> simp

end Checked
