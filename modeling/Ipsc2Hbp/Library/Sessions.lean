import Mathlib.Data.List.Basic

namespace Sessions
variable {σ α : Type*} (current : σ → List α → Prop) (finished : List α → Prop)

/-- The items so far are finished sessions, followed by the items of the open session, if any. -/
def History (items : List α) : Option σ → Prop
  | none => ∃ sessions : List (List α), items = sessions.flatten ∧ ∀ session ∈ sessions, finished session
  | some state => ∃ (sessions : List (List α)) (last : List α), items = sessions.flatten ++ last ∧
      (∀ session ∈ sessions, finished session) ∧ current state last

variable {current finished} {items new : List α} {state next : σ}

/-- Nothing has been sent at the start. -/
theorem History.nil : History current finished [] none := ⟨[], rfl, by simp⟩

/-- A finished session joins those before it. -/
theorem finished_snoc {sessions : List (List α)} {last : List α}
    (all : ∀ session ∈ sessions, finished session) (done : finished last) :
    ∀ session ∈ sessions ++ [last], finished session := by
  intro session member
  rcases List.mem_append.mp member with before | here
  · exact all session before
  · rwa [List.mem_singleton.mp here]

/-- A session opens with its first items. -/
theorem History.opened (history : History current finished items none) (first : current state new) :
    History current finished (items ++ new) (some state) := by
  obtain ⟨sessions, rfl, all⟩ := history
  exact ⟨sessions, new, rfl, all, first⟩

/-- The open session takes more items. -/
theorem History.extended (history : History current finished items (some state))
    (more : ∀ last, current state last → current next (last ++ new)) :
    History current finished (items ++ new) (some next) := by
  obtain ⟨sessions, last, rfl, all, opened⟩ := history
  exact ⟨sessions, last ++ new, List.append_assoc .., all, more last opened⟩

/-- The open session ends with its last items. -/
theorem History.ended (history : History current finished items (some state))
    (close : ∀ last, current state last → finished (last ++ new)) :
    History current finished (items ++ new) none := by
  obtain ⟨sessions, last, rfl, all, opened⟩ := history
  refine ⟨sessions ++ [last ++ new], ?_, finished_snoc all (close last opened)⟩
  simp

/-- The open session may be given up at any time. -/
theorem History.abandoned {status : Option σ} (history : History current finished items status)
    (close : ∀ state last, current state last → finished last) :
    History current finished items none := by
  cases status with
  | none => exact history
  | some state =>
      have kept : History current finished (items ++ []) none := history.ended fun last opened => by
        simpa using close state last opened
      simpa using kept

/-- Whatever its status, a history splits into finished sessions. -/
theorem History.split {status : Option σ} (history : History current finished items status)
    (close : ∀ state last, current state last → finished last) :
    ∃ sessions : List (List α), items = sessions.flatten ∧ ∀ session ∈ sessions, finished session :=
  history.abandoned close

end Sessions
