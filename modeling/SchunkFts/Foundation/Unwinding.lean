import SchunkFts.Foundation.Run

/-! What an observer can tell of a run who does not see all of its actions. Where the unseen ones
leave his view alone, and the others act alike on states of one view, two runs that agree in the
actions he sees look the same to him. -/

namespace SchunkFts.Foundation.Unwinding
open Run
variable {State Action View Event : Type}

/-- What the steps of a run give out, one after the other. -/
def log (step : State → Action → State) (events : State → Action → List Event) (s : State) :
    List Action → List Event
  | [] => []
  | action :: later => events s action ++ log step events (step s action) later

/-- The unwinding conditions, in the states of an invariant. -/
structure Unwinds (step : State → Action → State) (view : State → View) (seen : Action → Bool)
    (Holds : State → Prop) : Prop where
  keeps : ∀ s action, Holds s → Holds (step s action)
  silent : ∀ s action, Holds s → seen action = false → view (step s action) = view s
  consistent : ∀ s t action, Holds s → Holds t → view s = view t →
    view (step s action) = view (step t action)

/-- What a step gives out is seen: the view determines it, and unseen actions give out nothing. -/
structure Shows (events : State → Action → List Event) (view : State → View)
    (seen : Action → Bool) (Holds : State → Prop) : Prop where
  silent : ∀ s action, Holds s → seen action = false → events s action = []
  consistent : ∀ s t action, Holds s → Holds t → view s = view t → events s action = events t action

/-- A view that is a state again needs to be compared with that state only. -/
theorem Unwinds.of_projection {step : State → Action → State} {view : State → State}
    {seen : Action → Bool} {Holds : State → Prop}
    (keeps : ∀ s action, Holds s → Holds (step s action))
    (silent : ∀ s action, Holds s → seen action = false → view (step s action) = view s)
    (projects : ∀ s action, Holds s → view (step (view s) action) = view (step s action)) :
    Unwinds step view seen Holds where
  keeps := keeps
  silent := silent
  consistent s t action first second same := by
    calc
      view (step s action) = view (step (view s) action) := (projects s action first).symm
      _ = view (step (view t) action) := by rw [same]
      _ = view (step t action) := projects t action second

theorem Shows.of_projection {events : State → Action → List Event} {view : State → State}
    {seen : Action → Bool} {Holds : State → Prop}
    (silent : ∀ s action, Holds s → seen action = false → events s action = [])
    (projects : ∀ s action, events (view s) action = events s action) :
    Shows events view seen Holds where
  silent := silent
  consistent s t action _ _ same := by
    rw [← projects s, ← projects t, same]

section
variable {step : State → Action → State} {view : State → View} {seen : Action → Bool}
  {Holds : State → Prop} (unwinds : Unwinds step view seen Holds)
include unwinds

/-- The view after every action that is seen. -/
theorem Unwinds.shows_views :
    Shows (fun s action => if seen action then [view (step s action)] else []) view seen Holds where
  silent s action _ unseen := by
    simp [unseen]
  consistent s t action first second same := by
    rw [unwinds.consistent s t action first second same]

/-- Without the unseen actions the run looks the same. -/
theorem Unwinds.run_filter (actions : List Action) (s t : State) (first : Holds s)
    (second : Holds t) (same : view s = view t) :
    view (run step s actions) = view (run step t (actions.filter seen)) := by
  induction actions generalizing s t with
  | nil => exact same
  | cons action later ih =>
    have kept := unwinds.keeps s action first
    by_cases visible : seen action = true
    · rw [List.filter_cons_of_pos visible]
      exact ih _ _ kept (unwinds.keeps t action second)
        (unwinds.consistent s t action first second same)
    · rw [List.filter_cons_of_neg visible]
      apply ih _ _ kept second
      exact (unwinds.silent s action first (Bool.eq_false_iff.mpr visible)).trans same

theorem Unwinds.log_filter {events : State → Action → List Event}
    (shows : Shows events view seen Holds) (actions : List Action) (s t : State)
    (first : Holds s) (second : Holds t) (same : view s = view t) :
    log step events s actions = log step events t (actions.filter seen) := by
  induction actions generalizing s t with
  | nil => rfl
  | cons action later ih =>
    have kept := unwinds.keeps s action first
    by_cases visible : seen action = true
    · rw [List.filter_cons_of_pos visible, log, log,
        shows.consistent s t action first second same]
      exact congrArg _ (ih _ _ kept (unwinds.keeps t action second)
        (unwinds.consistent s t action first second same))
    · have unseen := Bool.eq_false_iff.mpr visible
      rw [List.filter_cons_of_neg visible, log, shows.silent s action first unseen,
        List.nil_append]
      exact ih _ _ kept second ((unwinds.silent s action first unseen).trans same)

/-- Noninterference: what is not seen does not matter for what is. -/
theorem Unwinds.run_eq (s : State) (initial : Holds s) (one other : List Action)
    (agree : one.filter seen = other.filter seen) :
    view (run step s one) = view (run step s other) := by
  rw [unwinds.run_filter one s s initial initial rfl, agree,
    ← unwinds.run_filter other s s initial initial rfl]

theorem Unwinds.log_eq {events : State → Action → List Event}
    (shows : Shows events view seen Holds) (s : State) (initial : Holds s)
    (one other : List Action) (agree : one.filter seen = other.filter seen) :
    log step events s one = log step events s other := by
  rw [unwinds.log_filter shows one s s initial initial rfl, agree,
    ← unwinds.log_filter shows other s s initial initial rfl]

end
end SchunkFts.Foundation.Unwinding
