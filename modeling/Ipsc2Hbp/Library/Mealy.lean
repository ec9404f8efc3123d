import Mathlib.Data.List.Basic

/-- A Mealy machine answers each event with a new state and its outputs. -/
structure Mealy (S E O : Type*) where
  step : S → E → S × List O

namespace Mealy
variable {S E O : Type*} (machine : Mealy S E O)

/-- A run feeds the events in order and joins their outputs. -/
def run : S → List E → S × List O
  | state, [] => (state, [])
  | state, event :: rest =>
      let first := machine.step state event
      let tail := run first.1 rest
      (tail.1, first.2 ++ tail.2)

@[simp] theorem run_nil (state : S) : machine.run state [] = (state, []) := rfl

@[simp] theorem run_cons (state : S) (event : E) (rest : List E) :
    machine.run state (event :: rest) =
      ((machine.run (machine.step state event).1 rest).1,
        (machine.step state event).2 ++ (machine.run (machine.step state event).1 rest).2) := rfl

/-- A run over two event lists continues from the first final state. -/
theorem run_append (state : S) (first second : List E) :
    machine.run state (first ++ second) =
      ((machine.run (machine.run state first).1 second).1,
        (machine.run state first).2 ++ (machine.run (machine.run state first).1 second).2) := by
  induction first generalizing state with
  | nil => rfl
  | cons event rest ih => simp only [List.cons_append, run_cons, ih, List.append_assoc]

/-- Every step of the run meets the condition, which reads the log so far, the state and the event. -/
def Meets (condition : List O → S → E → Prop) : List O → S → List E → Prop
  | _, _, [] => True
  | log, state, event :: rest =>
      condition log state event ∧
        Meets condition (log ++ (machine.step state event).2) (machine.step state event).1 rest

/-- The condition asks nothing of the empty run. -/
@[simp] theorem meets_nil (condition : List O → S → E → Prop) (log : List O) (state : S) :
    machine.Meets condition log state [] := trivial

@[simp] theorem meets_cons (condition : List O → S → E → Prop) (log : List O) (state : S) (event : E)
    (rest : List E) :
    machine.Meets condition log state (event :: rest) ↔
      condition log state event ∧ machine.Meets condition (log ++ (machine.step state event).2)
        (machine.step state event).1 rest := Iff.rfl

/-- A decidable condition is checked along a run. -/
instance decidableMeets (condition : List O → S → E → Prop)
    [∀ log state event, Decidable (condition log state event)] :
    ∀ (log : List O) (state : S) (events : List E),
      Decidable (machine.Meets condition log state events)
  | _, _, [] => isTrue trivial
  | log, state, event :: rest =>
      have := decidableMeets condition (log ++ (machine.step state event).2)
        (machine.step state event).1 rest
      inferInstanceAs (Decidable (condition log state event ∧ Meets machine condition
        (log ++ (machine.step state event).2) (machine.step state event).1 rest))

/-- A condition that always holds is met by every run. -/
theorem meets_of_forall (condition : List O → S → E → Prop)
    (always : ∀ log state event, condition log state event) (log : List O) (state : S)
    (events : List E) : machine.Meets condition log state events := by
  induction events generalizing log state with
  | nil => exact trivial
  | cons event rest ih => exact ⟨always log state event, ih _ _⟩

/-- A condition on a run over two event lists is a condition on both parts. -/
theorem meets_append (condition : List O → S → E → Prop) (log : List O) (state : S)
    (first second : List E) :
    machine.Meets condition log state (first ++ second) ↔
      machine.Meets condition log state first ∧
        machine.Meets condition (log ++ (machine.run state first).2) (machine.run state first).1
          second := by
  induction first generalizing log state with
  | nil => simp
  | cons event rest ih =>
      simp only [List.cons_append, meets_cons, ih, run_cons, List.append_assoc, and_assoc]

/-- Every step of a run meets the condition when none at a split of the events misses it. -/
theorem meets_of_split (condition : List O → S → E → Prop) (log : List O) (state : S)
    (events : List E)
    (each : ∀ earlier event later, events = earlier ++ event :: later →
      condition (log ++ (machine.run state earlier).2) (machine.run state earlier).1 event) :
    machine.Meets condition log state events := by
  induction events generalizing log state with
  | nil => exact trivial
  | cons event rest ih =>
      refine ⟨by simpa using each [] event rest rfl, ih _ _ ?_⟩
      intro earlier other later split
      have there := each (event :: earlier) other later (by rw [split]; rfl)
      simpa only [run_cons, List.append_assoc] using there

/-- A condition on single events may be checked along a run. -/
theorem Meets.and_events {machine : Mealy S E O} {condition : List O → S → E → Prop} {log : List O}
    {state : S} {events : List E} (met : machine.Meets condition log state events) {good : E → Prop}
    (all : ∀ event ∈ events, good event) :
    machine.Meets (fun log state event => condition log state event ∧ good event) log state events := by
  induction events generalizing log state with
  | nil => exact trivial
  | cons event rest ih =>
      have later : ∀ other ∈ rest, good other := fun other member =>
        all other (List.mem_cons_of_mem _ member)
      exact ⟨⟨met.1, all event List.mem_cons_self⟩, ih met.2 later⟩

/-- A condition may be weakened. -/
theorem Meets.imp {machine : Mealy S E O} {condition weaker : List O → S → E → Prop} {log : List O}
    {state : S} {events : List E} (met : machine.Meets condition log state events)
    (implies : ∀ log state event, condition log state event → weaker log state event) :
    machine.Meets weaker log state events := by
  induction events generalizing log state with
  | nil => exact trivial
  | cons event rest ih => exact ⟨implies _ _ _ met.1, ih met.2⟩

/-- A relation between the log and the state that every admitted step keeps holds after a run. -/
theorem run_log_invariant (condition : List O → S → E → Prop) (relation : List O → S → Prop)
    (kept : ∀ log state event, condition log state event → relation log state →
      relation (log ++ (machine.step state event).2) (machine.step state event).1)
    (log : List O) (state : S) (events : List E) (met : machine.Meets condition log state events)
    (start : relation log state) :
    relation (log ++ (machine.run state events).2) (machine.run state events).1 := by
  induction events generalizing log state with
  | nil => simpa using start
  | cons event rest ih =>
      have next := ih (log ++ (machine.step state event).2) (machine.step state event).1 met.2
        (kept log state event met.1 start)
      simpa only [run_cons, List.append_assoc] using next

/-- What an admitted step meets from a related log and state, every step of an admitted run meets. -/
theorem Meets.along {machine : Mealy S E O} {condition consequence : List O → S → E → Prop}
    (relation : List O → S → Prop)
    (kept : ∀ log state event, condition log state event → relation log state →
      relation (log ++ (machine.step state event).2) (machine.step state event).1)
    (follows : ∀ log state event, condition log state event → relation log state →
      consequence log state event)
    {log : List O} {state : S} {events : List E} (met : machine.Meets condition log state events)
    (start : relation log state) : machine.Meets consequence log state events := by
  induction events generalizing log state with
  | nil => exact trivial
  | cons event rest ih =>
      exact ⟨follows log state event met.1 start, ih met.2 (kept log state event met.1 start)⟩

/-- What packets at a steady pace renew, each before it runs out, lasts to the next of them. It is
known by the time of its last renewal and the last time that was read. -/
theorem Meets.renewed {T : Type*} [LE T] {machine : Mealy S E O} {condition : List O → S → E → Prop}
    {own reading : E → Option T} (steady : T → T → Prop) (lasts : T → T → S → Prop)
    (among : ∀ event, ∀ time ∈ own event, reading event = some time)
    (renews : ∀ log state event last now time, condition log state event → own event = some time →
      lasts last now state → now ≤ time → steady last time → lasts time time (machine.step state event).1)
    (passes : ∀ log state event last now, condition log state event → own event = none →
      lasts last now state → (∀ time ∈ reading event, now ≤ time) →
      lasts last ((reading event).getD now) (machine.step state event).1)
    {log : List O} {state : S} {events : List E} (met : machine.Meets condition log state events)
    {last now time : T} (ordered : List.Pairwise (· ≤ ·) (now :: (events.filterMap reading ++ [time])))
    (chain : List.IsChain steady (last :: (events.filterMap own ++ [time])))
    (start : lasts last now state) :
    ∃ last now, lasts last now (machine.run state events).1 ∧ now ≤ time ∧ steady last time := by
  induction events generalizing log state last now with
  | nil =>
      refine ⟨last, now, start, ?_, ?_⟩
      · exact List.rel_of_pairwise_cons ordered (List.mem_singleton_self time)
      · exact (List.isChain_cons_cons.mp chain).1
  | cons event rest ih =>
      rw [run_cons]
      cases named : own event with
      | some renewal =>
          have read := among event renewal named
          rw [List.filterMap_cons_some read, List.cons_append] at ordered
          rw [List.filterMap_cons_some named, List.cons_append] at chain
          obtain ⟨inTime, later⟩ := List.isChain_cons_cons.mp chain
          have after := List.rel_of_pairwise_cons ordered List.mem_cons_self
          exact ih met.2 ordered.of_cons later
            (renews _ _ _ _ _ _ met.1 named start after inTime)
      | none =>
          rw [List.filterMap_cons_none named] at chain
          have next := passes _ _ _ _ _ met.1 named start
          cases read : reading event with
          | none =>
              rw [List.filterMap_cons_none read] at ordered
              rw [read] at next
              exact ih met.2 ordered chain (next (by simp))
          | some moment =>
              rw [List.filterMap_cons_some read, List.cons_append] at ordered
              rw [read] at next
              refine ih met.2 ordered.of_cons chain (next ?_)
              rintro _ ⟨rfl⟩
              exact List.rel_of_pairwise_cons ordered List.mem_cons_self

/-- A predicate that every step keeps holds after a run. -/
theorem run_invariant (predicate : S → Prop)
    (kept : ∀ state event, predicate state → predicate (machine.step state event).1)
    (state : S) (events : List E) (start : predicate state) :
    predicate (machine.run state events).1 :=
  machine.run_log_invariant (fun _ _ _ => True) (fun _ state => predicate state)
    (fun _ state event _ => kept state event) [] state events
    (machine.meets_of_forall _ (fun _ _ _ => trivial) [] state events) start

/-- When a condition on a step from a good state is exactly what keeps the next state good, all states
of a run are good exactly when all its steps meet the condition. What is good may depend on the events
so far. -/
theorem always_iff_meets (good : List E → S → Prop) (condition : S → E → Prop)
    (exact : ∀ past state event, good past state →
      (good (past ++ [event]) (machine.step state event).1 ↔ condition state event))
    (past : List E) (log : List O) (state : S) (events : List E) (start : good past state) :
    (∀ earlier, earlier <+: events → good (past ++ earlier) (machine.run state earlier).1) ↔
      machine.Meets (fun _ => condition) log state events := by
  induction events generalizing past log state with
  | nil =>
      refine iff_of_true (fun earlier within => ?_) trivial
      rw [List.prefix_nil.mp within, List.append_nil]
      exact start
  | cons event rest ih =>
      rw [meets_cons]
      constructor
      · intro all
        have next : good (past ++ [event]) (machine.step state event).1 :=
          all [event] (List.cons_prefix_cons.mpr ⟨rfl, List.nil_prefix⟩)
        refine ⟨(exact past state event start).mp next, (ih _ _ _ next).mp fun earlier within => ?_⟩
        have later := all (event :: earlier) (List.cons_prefix_cons.mpr ⟨rfl, within⟩)
        rwa [List.append_cons] at later
      · rintro ⟨now, met⟩ earlier within
        have next := (exact past state event start).mpr now
        cases earlier with
        | nil =>
            rw [List.append_nil]
            exact start
        | cons first earlier =>
            obtain ⟨rfl, inside⟩ := List.cons_prefix_cons.mp within
            rw [List.append_cons]
            exact (ih _ _ _ next).mpr met earlier inside

/-- Some step of the run meets the condition, which reads the state and the event. -/
def Occurs (condition : S → E → Prop) : S → List E → Prop
  | _, [] => False
  | state, event :: rest => condition state event ∨ Occurs condition (machine.step state event).1 rest

@[simp] theorem occurs_nil (condition : S → E → Prop) (state : S) :
    ¬ machine.Occurs condition state [] := id

@[simp] theorem occurs_cons (condition : S → E → Prop) (state : S) (event : E) (rest : List E) :
    machine.Occurs condition state (event :: rest) ↔
      condition state event ∨ machine.Occurs condition (machine.step state event).1 rest := Iff.rfl

/-- What the watched steps of a run show, in order. -/
def shown {A : Type*} (watch : S → E → Option A) : S → List E → List A
  | _, [] => []
  | state, event :: rest =>
      (watch state event).toList ++ shown watch (machine.step state event).1 rest

/-- A relation between what is shown and the state that every step keeps holds after a run. -/
theorem run_shown {A : Type*} (watch : S → E → Option A) (relation : List A → S → Prop)
    (kept : ∀ seen state event, relation seen state →
      relation (seen ++ (watch state event).toList) (machine.step state event).1)
    (seen : List A) (state : S) (events : List E) (start : relation seen state) :
    relation (seen ++ machine.shown watch state events) (machine.run state events).1 := by
  induction events generalizing seen state with
  | nil => simpa [shown] using start
  | cons event rest ih =>
      have next := ih _ _ (kept seen state event start)
      simpa only [run_cons, shown, List.append_assoc] using next

/-- A relation that follows what has occurred and that every admitted step keeps holds after a run. -/
theorem run_occurs (condition : List O → S → E → Prop) (watched : S → E → Prop)
    (relation : Prop → S → Prop)
    (kept : ∀ log state event seen, condition log state event → relation seen state →
      relation (seen ∨ watched state event) (machine.step state event).1)
    (log : List O) (state : S) (events : List E) (met : machine.Meets condition log state events)
    (seen : Prop) (start : relation seen state) :
    relation (seen ∨ machine.Occurs watched state events) (machine.run state events).1 := by
  induction events generalizing log state seen with
  | nil => simpa using start
  | cons event rest ih =>
      have next := ih _ _ met.2 _ (kept log state event seen met.1 start)
      simpa only [run_cons, occurs_cons, or_assoc] using next

/-- Events that every good state answers with outputs known in advance are answered in order. The
view of a log is read piece by piece. -/
theorem run_answers {I V : Type*} {view : List O → List V} (silent : view [] = [])
    (append : ∀ first second, view (first ++ second) = view first ++ view second) (event : I → E)
    (answer : I → List V) (good : S → Prop) (items : List I)
    (each : ∀ item ∈ items, ∀ state, good state → good (machine.step state (event item)).1 ∧
      view (machine.step state (event item)).2 = answer item)
    (state : S) (start : good state) :
    good (machine.run state (items.map event)).1 ∧
      view (machine.run state (items.map event)).2 = items.flatMap answer := by
  induction items generalizing state with
  | nil => exact ⟨start, silent⟩
  | cons item rest ih =>
      obtain ⟨next, answered⟩ := each item List.mem_cons_self state start
      have tail := ih (fun other member => each other (List.mem_cons_of_mem _ member)) _ next
      rw [List.map_cons, run_cons, append, answered, tail.2, List.flatMap_cons]
      exact ⟨tail.1, rfl⟩

/-- A condition that does not read the log is met after any log. -/
theorem meets_log (condition : S → E → Prop) (log other : List O) (state : S) (events : List E) :
    machine.Meets (fun _ => condition) log state events ↔
      machine.Meets (fun _ => condition) other state events := by
  induction events generalizing log other state with
  | nil => exact Iff.rfl
  | cons event rest ih => exact and_congr_right fun _ => ih _ _ _

/-- A forward simulation: when every admitted step from a related state is an allowed run of the other
machine with the same view of its log, so is every admitted run. -/
theorem run_simulated {T F P : Type*} (other : Mealy T F P) {view : List O → List P}
    (silent : view [] = [])
    (append : ∀ first second, view (first ++ second) = view first ++ view second)
    (condition : List O → S → E → Prop) (allowed : T → F → Prop) (relates : S → T → Prop)
    (each : ∀ log state event image, condition log state event → relates state image →
      ∃ steps, other.Meets (fun _ => allowed) [] image steps ∧
        (other.run image steps).2 = view (machine.step state event).2 ∧
        relates (machine.step state event).1 (other.run image steps).1)
    (log : List O) (state : S) (events : List E) (met : machine.Meets condition log state events)
    (image : T) (start : relates state image) :
    ∃ steps, other.Meets (fun _ => allowed) [] image steps ∧
      (other.run image steps).2 = view (machine.run state events).2 ∧
      relates (machine.run state events).1 (other.run image steps).1 := by
  induction events generalizing log state image with
  | nil => exact ⟨[], trivial, silent.symm, start⟩
  | cons event rest ih =>
      obtain ⟨first, firstMet, firstLog, next⟩ := each log state event image met.1 start
      obtain ⟨later, laterMet, laterLog, last⟩ := ih _ _ met.2 _ next
      refine ⟨first ++ later, ?_, ?_, ?_⟩
      · rw [meets_append]
        exact ⟨firstMet, (other.meets_log allowed _ _ _ _).mp laterMet⟩
      · rw [run_append, run_cons, append, firstLog, laterLog]
      · rwa [run_append]

/-- A ghost variable follows the run without changing it. -/
def ghost {G : Type*} (update : G → S → E → G) : Mealy (S × G) E O where
  step state event :=
    (((machine.step state.1 event).1, update state.2 state.1 event), (machine.step state.1 event).2)

/-- The run under a ghost variable passes the states of the run itself. -/
theorem ghost_run {G : Type*} (update : G → S → E → G) (state : S × G) (events : List E) :
    ((machine.ghost update).run state events).1.1 = (machine.run state.1 events).1 := by
  induction events generalizing state with
  | nil => rfl
  | cons event rest ih => exact ih _

/-- A condition that does not read the ghost variable is met with and without it. -/
theorem ghost_meets {G : Type*} (update : G → S → E → G) (condition : List O → S → E → Prop)
    (log : List O) (state : S × G) (events : List E) :
    (machine.ghost update).Meets (fun log state event => condition log state.1 event) log state events ↔
      machine.Meets condition log state.1 events := by
  induction events generalizing log state with
  | nil => exact Iff.rfl
  | cons event rest ih => exact and_congr_right fun _ => ih _ _

/-- Two runs that agree on the kept events end in related states with equal views of their logs. -/
theorem run_unwinding {V : Type*} (keeps : E → Bool) (view : O → Option V) (related : S → S → Prop)
    (both : ∀ left right event, keeps event = true → related left right →
      related (machine.step left event).1 (machine.step right event).1 ∧
        (machine.step left event).2.filterMap view = (machine.step right event).2.filterMap view)
    (left : ∀ one two event, keeps event = false → related one two →
      related (machine.step one event).1 two ∧ (machine.step one event).2.filterMap view = [])
    (right : ∀ one two event, keeps event = false → related one two →
      related one (machine.step two event).1 ∧ (machine.step two event).2.filterMap view = [])
    (events others : List E) (agree : events.filter keeps = others.filter keeps)
    (one two : S) (start : related one two) :
    related (machine.run one events).1 (machine.run two others).1 ∧
      (machine.run one events).2.filterMap view = (machine.run two others).2.filterMap view := by
  induction events generalizing one two others with
  | nil =>
      induction others generalizing two with
      | nil => exact ⟨start, rfl⟩
      | cons event rest ih =>
          have skipped : keeps event = false := by
            cases kept : keeps event with
            | false => rfl
            | true => simp [kept] at agree
          have moved := right one two event skipped start
          have tail := ih (by simpa [skipped] using agree) _ moved.1
          refine ⟨tail.1, ?_⟩
          rw [run_cons, List.filterMap_append, moved.2, List.nil_append]
          exact tail.2
  | cons event rest ih =>
      by_cases kept : keeps event = true
      · induction others generalizing two with
        | nil => simp [kept] at agree
        | cons other others inner =>
            by_cases keptOther : keeps other = true
            · simp only [List.filter_cons_of_pos kept, List.filter_cons_of_pos keptOther,
                List.cons.injEq] at agree
              obtain ⟨rfl, agree⟩ := agree
              have moved := both one two event kept start
              have tail := ih others agree _ _ moved.1
              refine ⟨tail.1, ?_⟩
              simp only [run_cons, List.filterMap_append, moved.2, tail.2]
            · have skipped : keeps other = false := by simpa using keptOther
              have moved := right one two other skipped start
              have tail := inner (by simpa [skipped] using agree) _ moved.1
              refine ⟨tail.1, ?_⟩
              rw [run_cons _ two, List.filterMap_append, moved.2, List.nil_append]
              exact tail.2
      · have skipped : keeps event = false := by simpa using kept
        have moved := left one two event skipped start
        have tail := ih others (by simpa [skipped] using agree) _ _ moved.1
        refine ⟨tail.1, ?_⟩
        rw [run_cons, List.filterMap_append, moved.2, List.nil_append]
        exact tail.2

end Mealy
