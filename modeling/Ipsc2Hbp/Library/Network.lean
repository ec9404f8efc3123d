import Ipsc2Hbp.Library.Mealy

namespace Mealy
variable {S T E F O P M : Type*}

/-- Two machines side by side; each event is an event of one of them. -/
def beside (first : Mealy S E O) (second : Mealy T F P) : Mealy (S × T) (E ⊕ F) (O ⊕ P) where
  step state
    | .inl event =>
        (((first.step state.1 event).1, state.2), (first.step state.1 event).2.map Sum.inl)
    | .inr event =>
        ((state.1, (second.step state.2 event).1), (second.step state.2 event).2.map Sum.inr)

section Beside
variable (first : Mealy S E O) (second : Mealy T F P)

@[simp] theorem beside_inl (state : S × T) (event : E) :
    (first.beside second).step state (.inl event) =
      (((first.step state.1 event).1, state.2), (first.step state.1 event).2.map Sum.inl) := rfl

@[simp] theorem beside_inr (state : S × T) (event : F) :
    (first.beside second).step state (.inr event) =
      ((state.1, (second.step state.2 event).1), (second.step state.2 event).2.map Sum.inr) := rfl

theorem filterMap_getLeft (left : List O) :
    (left.map (Sum.inl : O → O ⊕ P)).filterMap Sum.getLeft? = left ∧
      (left.map (Sum.inl : O → O ⊕ P)).filterMap Sum.getRight? = [] := by
  constructor
  · rw [List.filterMap_map]
    exact List.filterMap_some
  · simp [List.filterMap_eq_nil_iff]

theorem filterMap_getRight (right : List P) :
    (right.map (Sum.inr : P → O ⊕ P)).filterMap Sum.getRight? = right ∧
      (right.map (Sum.inr : P → O ⊕ P)).filterMap Sum.getLeft? = [] := by
  constructor
  · rw [List.filterMap_map]
    exact List.filterMap_some
  · simp [List.filterMap_eq_nil_iff]

/-- In a run side by side each machine runs over its own events. -/
theorem beside_run (state : S × T) (events : List (E ⊕ F)) :
    let result := (first.beside second).run state events
    first.run state.1 (events.filterMap Sum.getLeft?) =
        (result.1.1, result.2.filterMap Sum.getLeft?) ∧
      second.run state.2 (events.filterMap Sum.getRight?) =
        (result.1.2, result.2.filterMap Sum.getRight?) := by
  induction events generalizing state with
  | nil => exact ⟨rfl, rfl⟩
  | cons event rest ih =>
      obtain ⟨left, right⟩ := ih ((first.beside second).step state event).1
      cases event with
      | inl event =>
          simp only [run_cons, beside_inl, List.filterMap_append, filterMap_getLeft,
            List.nil_append] at left right ⊢
          simp only [List.filterMap_cons, Sum.getLeft?_inl, Sum.getRight?_inl, run_cons, left]
          exact ⟨trivial, right⟩
      | inr event =>
          simp only [run_cons, beside_inr, List.filterMap_append, filterMap_getRight,
            List.nil_append] at left right ⊢
          simp only [List.filterMap_cons, Sum.getLeft?_inr, Sum.getRight?_inr, run_cons, right]
          exact ⟨left, trivial⟩

end Beside

section Network
variable (sent : O → Option M) (arrives : E → Option M)

/-- A message that arrives was sent before. The network may lose, repeat, delay and reorder. -/
def Carried (log : List O) (_ : S) (event : E) : Prop :=
  ∀ message ∈ arrives event, ∃ output ∈ log, sent output = some message

instance [DecidableEq M] (log : List O) (state : S) (event : E) :
    Decidable (Carried sent arrives log state event) :=
  inferInstanceAs (Decidable (∀ message ∈ arrives event, ∃ output ∈ log, sent output = some message))

end Network

/-- The events over a network that keeps each message until it is delivered or lost. A delivery comes
with what else its receiver reads. -/
inductive Transit (E C : Type*) where
  | own (event : E)
  | deliver (index : Nat) (chance : C)
  | lose (index : Nat)

/-- The condition on a machine's own events; the network is free. -/
def Transit.Own {C : Type*} (condition : E → Prop) : Transit E C → Prop
  | .own event => condition event
  | .deliver .. | .lose _ => True

instance {C : Type*} (condition : E → Prop) [DecidablePred condition] (event : Transit E C) :
    Decidable (event.Own condition) := by
  cases event <;> unfold Transit.Own <;> infer_instance

section Flight
variable {C : Type*} (machine : Mealy S E O) (sent : O → Option M) (receive : S → M → C → Option E)

/-- What the machine sends stays in flight until it is delivered, once and in any order, or lost.
A delivery is an event of the machine if somebody receives it. -/
def inFlight : Mealy (S × List M) (Transit E C) O where
  step state
    | .own event =>
        let result := machine.step state.1 event
        ((result.1, state.2 ++ result.2.filterMap sent), result.2)
    | .deliver index chance =>
        match state.2[index]?.bind (receive state.1 · chance) with
        | none => ((state.1, state.2.eraseIdx index), [])
        | some event =>
            let result := machine.step state.1 event
            ((result.1, state.2.eraseIdx index ++ result.2.filterMap sent), result.2)
    | .lose index => ((state.1, state.2.eraseIdx index), [])

/-- Outside of the list nothing is taken away; else one message is. -/
theorem eraseIdx_cases (flight : List M) (index : Nat) :
    (flight[index]? = none ∧ flight.eraseIdx index = flight) ∨
      ∃ before message after, flight = before ++ message :: after ∧
        flight[index]? = some message ∧ flight.eraseIdx index = before ++ after := by
  rcases Nat.lt_or_ge index flight.length with inside | outside
  · refine .inr ⟨flight.take index, flight[index], flight.drop (index + 1), ?_,
      List.getElem?_eq_getElem inside, List.eraseIdx_eq_take_drop_succ ..⟩
    rw [List.getElem_cons_drop, List.take_append_drop]
  · exact .inl ⟨List.getElem?_eq_none outside, List.eraseIdx_of_length_le outside⟩

/-- The newest message is delivered. -/
theorem inFlight_newest {state : S} {flight : List M} {message : M} {chance : C} {event : E}
    (received : receive state message chance = some event) :
    (machine.inFlight sent receive).step (state, flight ++ [message]) (.deliver flight.length chance) =
      (((machine.step state event).1, flight ++ (machine.step state event).2.filterMap sent),
        (machine.step state event).2) := by
  have erased : (flight ++ [message]).eraseIdx flight.length = flight := by
    rw [List.eraseIdx_append_of_length_le (Nat.le_refl _), Nat.sub_self, List.eraseIdx_zero, List.tail_cons,
      List.append_nil]
  simp [inFlight, received, erased]

/-- No message is delivered. -/
theorem inFlight_beyond (state : S) (flight : List M) (chance : C) :
    (machine.inFlight sent receive).step (state, flight) (.deliver flight.length chance) =
      ((state, flight), []) := by
  simp [inFlight, List.eraseIdx_of_length_le]

/-- A relation between the log, the state and the messages in flight holds after a run when the own
events, the deliveries and the losses keep it. -/
theorem inFlight_invariant (condition : E → Prop) (relation : List O → S → List M → Prop)
    (own : ∀ log state flight event, condition event → relation log state flight →
      relation (log ++ (machine.step state event).2) (machine.step state event).1
        (flight ++ (machine.step state event).2.filterMap sent))
    (delivered : ∀ log state before message after chance event,
      receive state message chance = some event →
      relation log state (before ++ message :: after) →
      relation (log ++ (machine.step state event).2) (machine.step state event).1
        (before ++ after ++ (machine.step state event).2.filterMap sent))
    (lost : ∀ log state before message after, relation log state (before ++ message :: after) →
      relation log state (before ++ after))
    (events : List (Transit E C)) (met : ∀ event ∈ events, event.Own condition)
    (log : List O) (state : S × List M) (start : relation log state.1 state.2) :
    relation (log ++ ((machine.inFlight sent receive).run state events).2)
      ((machine.inFlight sent receive).run state events).1.1
      ((machine.inFlight sent receive).run state events).1.2 := by
  induction events generalizing log state with
  | nil => simpa using start
  | cons event rest ih =>
      have others : ∀ event ∈ rest, event.Own condition :=
        fun event member => met event (List.mem_cons_of_mem _ member)
      have first := met event List.mem_cons_self
      have dropped (index : Nat) : relation log state.1 (state.2.eraseIdx index) := by
        rcases eraseIdx_cases state.2 index with ⟨-, same⟩ | ⟨before, message, after, split, -, rest⟩
        · rwa [same]
        · rw [rest]
          exact lost log state.1 before message after (split ▸ start)
      have next : relation (log ++ ((machine.inFlight sent receive).step state event).2)
          ((machine.inFlight sent receive).step state event).1.1
          ((machine.inFlight sent receive).step state event).1.2 := by
        cases event with
        | own event => exact own log state.1 state.2 event first start
        | lose index => simpa [inFlight] using dropped index
        | deliver index chance =>
            simp only [inFlight]
            cases received : state.2[index]?.bind (receive state.1 · chance) with
            | none => simpa using dropped index
            | some event =>
                obtain ⟨message, here, received⟩ := Option.bind_eq_some_iff.mp received
                rcases eraseIdx_cases state.2 index with ⟨absent, -⟩ |
                  ⟨before, other, after, split, present, rest⟩
                · rw [here] at absent
                  cases absent
                · obtain rfl : message = other := Option.some.inj (here.symm.trans present)
                  simp only [rest]
                  exact delivered log state.1 before message after chance event received
                    (split ▸ start)
      rw [run_cons, ← List.append_assoc]
      exact ih others _ _ next

end Flight
end Mealy
