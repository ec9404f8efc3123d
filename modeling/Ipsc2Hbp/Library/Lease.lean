import Ipsc2Hbp.Library.Mealy
import Mathlib.Data.List.Induction

namespace Lease

/-- What can happen to a lease: it is granted to a holder, renewed, given up, or checked. -/
inductive Move (H T : Type*) where
  | grant (holder : H) (time : T)
  | renew (time : T)
  | revoke
  | check (now : T)
  deriving DecidableEq

variable {H T : Type*}

/-- A move that leaves the holder of a fresh lease alone. -/
def Move.Mild : Move H T → Prop
  | .renew _ | .check _ => True
  | .grant .. | .revoke => False

/-- A lease is its holder with the time of its last renewal. A check ends one that has expired. -/
def step (expired : T → T → Bool) : Option (H × T) → Move H T → Option (H × T)
  | _, .grant holder time => some (holder, time)
  | lease, .renew time => lease.map fun held => (held.1, time)
  | _, .revoke => none
  | lease, .check now => lease.filter fun held => !expired now held.2

def run (expired : T → T → Bool) (moves : List (Move H T)) : Option (H × T) :=
  moves.foldl (step expired) none

/-- The time of the last renewal after a grant. -/
def renewed (start : T) (moves : List (Move H T)) : T :=
  moves.foldl (fun last move => match move with
    | .renew time => time
    | _ => last) start

/-- The lease was granted to the holder, none was granted and none given up since, and no check has
found more time than allowed since the last renewal. -/
def Held (expired : T → T → Bool) (moves : List (Move H T)) (holder : H) (time : T) : Prop :=
  ∃ before start after, moves = before ++ .grant holder start :: after ∧
    (∀ move ∈ after, move.Mild) ∧
    (∀ earlier now later, after = earlier ++ .check now :: later →
      expired now (renewed start earlier) = false) ∧
    time = renewed start after

section Snoc
variable {expired : T → T → Bool} {moves : List (Move H T)} {holder : H} {time : T}

theorem renewed_append (start : T) (first second : List (Move H T)) :
    renewed start (first ++ second) = renewed (renewed start first) second := List.foldl_append

/-- A grant starts a lease of its own. -/
theorem held_grant (other : H) (start : T) :
    Held expired (moves ++ [.grant other start]) holder time ↔ holder = other ∧ time = start := by
  constructor
  · rintro ⟨before, from', after, split, mild, -, rfl⟩
    rcases List.eq_nil_or_concat' after with rfl | ⟨front, last, rfl⟩
    · obtain ⟨-, same⟩ := List.append_inj' split rfl
      obtain ⟨rfl, rfl⟩ := Move.grant.inj (List.head_eq_of_cons_eq same)
      exact ⟨rfl, rfl⟩
    · rw [← List.cons_append, ← List.append_assoc] at split
      obtain ⟨-, same⟩ := List.append_inj' split rfl
      have last' := mild last (by simp)
      rw [← List.head_eq_of_cons_eq same] at last'
      exact last'.elim
  · rintro ⟨rfl, rfl⟩
    exact ⟨moves, _, [], rfl, by simp, fun earlier _ _ none => by simp at none, rfl⟩

/-- Nothing is held after a revocation. -/
theorem not_held_revoke : ¬ Held expired (moves ++ [.revoke]) holder time := by
  rintro ⟨before, start, after, split, mild, -, -⟩
  rcases List.eq_nil_or_concat' after with rfl | ⟨front, last, rfl⟩
  · obtain ⟨-, same⟩ := List.append_inj' split rfl
    cases List.head_eq_of_cons_eq same
  · rw [← List.cons_append, ← List.append_assoc] at split
    obtain ⟨-, same⟩ := List.append_inj' split rfl
    have last' := mild last (by simp)
    rw [← List.head_eq_of_cons_eq same] at last'
    exact last'.elim

/-- A mild move goes on with a lease that was held before. -/
theorem held_mild {move : Move H T} (mild : move.Mild) :
    Held expired (moves ++ [move]) holder time ↔
      ∃ last, Held expired moves holder last ∧ (∀ now, move = .check now → expired now last = false) ∧
        time = renewed last [move] := by
  constructor
  · rintro ⟨before, start, after, split, others, fresh, rfl⟩
    rcases List.eq_nil_or_concat' after with rfl | ⟨front, last, rfl⟩
    · obtain ⟨-, same⟩ := List.append_inj' split rfl
      rw [List.head_eq_of_cons_eq same] at mild
      exact mild.elim
    · rw [← List.cons_append, ← List.append_assoc] at split
      obtain ⟨rfl, same⟩ := List.append_inj' split rfl
      obtain rfl := List.head_eq_of_cons_eq same
      refine ⟨renewed start front, ⟨before, start, front, rfl,
        fun other member => others other (List.mem_append_left _ member), ?_, rfl⟩, ?_,
        renewed_append start front [move]⟩
      · rintro earlier now later rfl
        exact fresh earlier now (later ++ [move]) (by simp)
      · rintro now rfl
        exact fresh front now [] rfl
  · rintro ⟨last, ⟨before, start, after, rfl, others, fresh, rfl⟩, checked, rfl⟩
    refine ⟨before, start, after ++ [move], by simp, fun other member => ?_, ?_,
      (renewed_append start after [move]).symm⟩
    · rcases List.mem_append.mp member with old | new
      · exact others other old
      · exact List.mem_singleton.mp new ▸ mild
    · intro earlier now later split
      rcases List.eq_nil_or_concat' later with rfl | ⟨front, other, rfl⟩
      · obtain ⟨rfl, same⟩ := List.append_inj' split rfl
        exact checked now (List.head_eq_of_cons_eq same)
      · rw [← List.cons_append, ← List.append_assoc] at split
        obtain ⟨rfl, -⟩ := List.append_inj' split rfl
        exact fresh earlier now front rfl

end Snoc

/-- The abstract machine holds exactly the leases of its history. -/
theorem run_eq_some_iff (expired : T → T → Bool) (moves : List (Move H T)) (holder : H) (time : T) :
    run expired moves = some (holder, time) ↔ Held expired moves holder time := by
  induction moves using List.reverseRecOn generalizing time with
  | nil =>
      refine iff_of_false (by simp [run]) ?_
      rintro ⟨before, start, after, split, -⟩
      simp at split
  | append_singleton moves move ih =>
      have last : run expired (moves ++ [move]) = step expired (run expired moves) move :=
        List.foldl_concat ..
      rw [last]
      cases move with
      | grant other start =>
          rw [held_grant, step, Option.some.injEq, Prod.mk.injEq]
          exact ⟨fun same => ⟨same.1.symm, same.2.symm⟩, fun same => ⟨same.1.symm, same.2.symm⟩⟩
      | revoke => exact iff_of_false (by simp [step]) not_held_revoke
      | renew later =>
          have mild : (.renew later : Move H T).Mild := trivial
          rw [held_mild mild, step]
          constructor
          · intro same
            obtain ⟨⟨who, before⟩, held, same⟩ := Option.map_eq_some_iff.mp same
            obtain ⟨rfl, rfl⟩ := Prod.mk.inj same
            exact ⟨before, (ih before).mp held, nofun, rfl⟩
          · rintro ⟨before, held, -, rfl⟩
            rw [(ih before).mpr held]
            rfl
      | check now =>
          have mild : (.check now : Move H T).Mild := trivial
          rw [held_mild mild, step, Option.filter_eq_some_iff]
          constructor
          · rintro ⟨held, fresh⟩
            refine ⟨time, (ih time).mp held, fun other same => ?_, rfl⟩
            rw [← Move.check.inj same]
            simpa using fresh
          · rintro ⟨before, held, fresh, rfl⟩
            refine ⟨(ih _).mpr held, ?_⟩
            have fresh := fresh now rfl
            simpa using fresh

/-- A machine whose steps move a lease holds exactly the leases of its history. -/
theorem machine_held {S E O : Type*} (machine : Mealy S E O) (expired : T → T → Bool)
    (watch : S → E → Option (Move H T)) (lease : S → Option (H × T)) (good : S → Prop)
    (kept : ∀ state event, good state → good (machine.step state event).1)
    (moves : ∀ state event, good state → lease (machine.step state event).1 =
      (watch state event).toList.foldl (step expired) (lease state))
    {initial : S} (sound : good initial) (start : lease initial = none) (events : List E)
    (holder : H) (time : T) :
    lease (machine.run initial events).1 = some (holder, time) ↔
      Held expired (machine.shown watch initial events) holder time := by
  have followed := machine.run_shown watch
    (fun seen state => good state ∧ lease state = run expired seen)
    (fun seen state event law => by
      refine ⟨kept state event law.1, ?_⟩
      rw [moves state event law.1, law.2, run, run, List.foldl_append])
    [] initial events ⟨sound, start⟩
  rw [List.nil_append] at followed
  rw [followed.2, run_eq_some_iff]

end Lease
