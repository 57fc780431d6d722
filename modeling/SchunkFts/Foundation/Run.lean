import Mathlib.Tactic.Common

/-! Runs of a step function, and what holds along them when every step meets a condition on itself
and the state before it. -/

namespace SchunkFts.Foundation.Run
variable {State Action : Type}

def run (step : State → Action → State) (s : State) (actions : List Action) : State :=
  actions.foldl step s

/-- Every step of the run meets the condition in the state it is taken in. -/
def AllMeet (step : State → Action → State) (Meets : State → Action → Prop) (s : State) :
    List Action → Prop
  | [] => True
  | action :: later => Meets s action ∧ AllMeet step Meets (step s action) later

instance decidableAllMeet (step : State → Action → State) (Meets : State → Action → Prop)
    [∀ s action, Decidable (Meets s action)] :
    ∀ s actions, Decidable (AllMeet step Meets s actions)
  | _, [] => .isTrue trivial
  | s, action :: later =>
      @instDecidableAnd _ _ _ (decidableAllMeet step Meets (step s action) later)

@[simp] theorem run_nil (step : State → Action → State) (s : State) : run step s [] = s := rfl

@[simp] theorem run_cons (step : State → Action → State) (s : State) (action : Action)
    (later : List Action) : run step s (action :: later) = run step (step s action) later := rfl

/-- An invariant of the steps that meet the condition holds after every run of such steps. -/
theorem run_invariant (step : State → Action → State) (Meets : State → Action → Prop)
    (Holds : State → Prop)
    (keeps : ∀ s action, Holds s → Meets s action → Holds (step s action))
    (actions : List Action) (s : State) (initial : Holds s) (all : AllMeet step Meets s actions) :
    Holds (run step s actions) := by
  induction actions generalizing s with
  | nil => exact initial
  | cons action later ih => exact ih _ (keeps s action initial all.1) all.2

/-- The same for an invariant of every step. -/
theorem run_always (step : State → Action → State) (Holds : State → Prop)
    (keeps : ∀ s action, Holds s → Holds (step s action)) (actions : List Action) (s : State)
    (initial : Holds s) : Holds (run step s actions) := by
  induction actions generalizing s with
  | nil => exact initial
  | cons action later ih => exact ih _ (keeps s action initial)

/-- Where the steps that meet a condition keep an invariant, the run meets what both give. -/
theorem allMeet_under (step : State → Action → State) (First Second : State → Action → Prop)
    (Holds : State → Prop)
    (keeps : ∀ s action, Holds s → First s action → Holds (step s action))
    (gives : ∀ s action, Holds s → First s action → Second s action)
    (actions : List Action) (s : State) (initial : Holds s) (all : AllMeet step First s actions) :
    AllMeet step Second s actions := by
  induction actions generalizing s with
  | nil => trivial
  | cons action later ih =>
    exact ⟨gives s action initial all.1, ih _ (keeps s action initial all.1) all.2⟩

/-- Two conditions are met by the same runs if they agree wherever an invariant holds that steps
under the second one keep. -/
theorem allMeet_iff (step : State → Action → State) (First Second : State → Action → Prop)
    (Holds : State → Prop)
    (keeps : ∀ s action, Holds s → Second s action → Holds (step s action))
    (agree : ∀ s action, Holds s → (First s action ↔ Second s action))
    (actions : List Action) (s : State) (initial : Holds s) :
    AllMeet step First s actions ↔ AllMeet step Second s actions := by
  induction actions generalizing s with
  | nil => exact Iff.rfl
  | cons action later ih =>
    constructor
    · intro all
      have second := (agree s action initial).mp all.1
      exact ⟨second, (ih _ (keeps s action initial second)).mp all.2⟩
    · intro all
      exact ⟨(agree s action initial).mpr all.1, (ih _ (keeps s action initial all.1)).mpr all.2⟩

/-- A step against the condition leads into states that are never left again. -/
theorem run_violation (step : State → Action → State) (Meets : State → Action → Prop)
    (Holds Broken : State → Prop)
    (keeps : ∀ s action, Holds s → Holds (step s action))
    (stays : ∀ s action, Broken s → Broken (step s action))
    (breaks : ∀ s action, Holds s → ¬Meets s action → Broken (step s action))
    (actions : List Action) (s : State) (initial : Holds s)
    (violated : ¬AllMeet step Meets s actions) : Broken (run step s actions) := by
  induction actions generalizing s with
  | nil => exact absurd trivial violated
  | cons action later ih =>
    by_cases meets : Meets s action
    · apply ih _ (keeps s action initial)
      exact fun rest => violated ⟨meets, rest⟩
    · exact run_always step Broken stays later _ (breaks s action initial meets)

/-- What a run meets in a part of its states, which moves by itself. -/
theorem allMeet_map {Part : Type} (step : State → Action → State) (partStep : Part → Action → Part)
    (part : State → Part) (moves : ∀ s action, part (step s action) = partStep (part s) action)
    (Meets : Part → Action → Prop) (actions : List Action) (s : State) :
    AllMeet step (fun s action => Meets (part s) action) s actions ↔
      AllMeet partStep Meets (part s) actions := by
  induction actions generalizing s with
  | nil => exact Iff.rfl
  | cons action later ih => exact and_congr_right fun _ => moves s action ▸ ih (step s action)

/-- A condition on the actions alone. -/
theorem allMeet_of_forall (step : State → Action → State) (Allowed : Action → Prop)
    (actions : List Action) (s : State) (allowed : ∀ action ∈ actions, Allowed action) :
    AllMeet step (fun _ action => Allowed action) s actions := by
  induction actions generalizing s with
  | nil => trivial
  | cons action later ih =>
    refine ⟨allowed action List.mem_cons_self, ih _ ?_⟩
    exact fun other member => allowed other (List.mem_cons_of_mem _ member)

theorem run_append (step : State → Action → State) (s : State) (first second : List Action) :
    run step s (first ++ second) = run step (run step s first) second :=
  List.foldl_append

end SchunkFts.Foundation.Run
