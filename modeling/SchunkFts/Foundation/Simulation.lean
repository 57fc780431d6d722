import SchunkFts.Foundation.Fair
import SchunkFts.Foundation.Run

/-! Forward simulation. A step of the lower machine stands for so many events of the upper one, often
for none; what the upper machine does on all of them is what the lower one has done. -/

namespace SchunkFts.Foundation.Simulation
open Run Fair

variable {Low High Action Event : Type}

section
variable (step : Low → Action → Low) (events : Low → Action → List Event)

/-- The events of a run, in the order in which they come about. -/
def history (s : Low) : List Action → List Event
  | [] => []
  | action :: later => events s action ++ history (step s action) later

theorem history_append (s : Low) (first second : List Action) :
    history step events s (first ++ second) =
      history step events s first ++ history step events (run step s first) second := by
  induction first generalizing s with
  | nil => rfl
  | cons action later ih =>
    rw [List.cons_append, history, history, ih, List.append_assoc, run_cons]

variable (above : High → Event → High) (Stands : Low → High → Prop)

/-- The relation survives a step that meets the condition and its events. -/
def Simulates (Meets : Low → Action → Prop) : Prop :=
  ∀ s t action, Stands s t → Meets s action → Stands (step s action) (run above t (events s action))

theorem simulates_run (Meets : Low → Action → Prop)
    (simulates : Simulates step events above Stands Meets) (actions : List Action) (s : Low)
    (t : High) (initial : Stands s t) (all : AllMeet step Meets s actions) :
    Stands (run step s actions) (run above t (history step events s actions)) := by
  induction actions generalizing s t with
  | nil => exact initial
  | cons action later ih =>
    rw [run_cons, history, run_append]
    exact ih _ _ (simulates s t action initial all.1) all.2

/-- The same where every step is matched. -/
theorem simulates_always
    (simulates : ∀ s t action, Stands s t →
      Stands (step s action) (run above t (events s action)))
    (actions : List Action) (s : Low) (t : High) (initial : Stands s t) :
    Stands (run step s actions) (run above t (history step events s actions)) :=
  simulates_run step events above Stands (fun _ _ => True)
    (fun s t action stands _ => simulates s t action stands) actions s t initial
    (allMeet_of_forall step (fun _ => True) actions s (fun _ _ => trivial))

end

/-! ### Infinite runs -/

section
variable (step : Low → Action → Low) (events : Low → Action → List Event)
  (above : High → Event → High) (s : Low) (t : High) (schedule : Nat → Action)

/-- The upper machine beside the run of the lower one. -/
def beside : Nat → High
  | 0 => t
  | n + 1 => run above (beside n) (events (trace step s schedule n) (schedule n))

/-- What the upper machine does meanwhile; where the lower one has no event, something idle. -/
def matching (idle : High → Event) (n : Nat) : Event :=
  (events (trace step s schedule n) (schedule n)).head?.getD
    (idle (beside step events above s t schedule n))

/-- Where a step has one event at most, the upper machine runs by a schedule of its own. -/
theorem trace_matching (idle : High → Event) (still : ∀ t, above t (idle t) = t)
    (single : ∀ s action, (events s action).length ≤ 1) (n : Nat) :
    trace above t (matching step events above s t schedule idle) n =
      beside step events above s t schedule n := by
  induction n with
  | zero => rfl
  | succ n ih =>
    have few := single (trace step s schedule n) (schedule n)
    rw [trace, ih, beside, matching]
    cases found : events (trace step s schedule n) (schedule n) with
    | nil => exact still _
    | cons event rest =>
      rw [found] at few
      have last : rest = [] := by
        apply List.eq_nil_of_length_eq_zero
        rw [List.length_cons] at few
        omega
      rw [last]
      rfl

theorem stands_beside (Stands : Low → High → Prop) (Meets : Low → Action → Prop)
    (simulates : Simulates step events above Stands Meets) (initial : Stands s t)
    (meets : ∀ n, Meets (trace step s schedule n) (schedule n)) (n : Nat) :
    Stands (trace step s schedule n) (beside step events above s t schedule n) := by
  induction n with
  | zero => exact initial
  | succ n ih => exact simulates _ _ _ ih (meets n)

end
end SchunkFts.Foundation.Simulation
