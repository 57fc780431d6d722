import Mathlib.Order.Basic

/-! Infinite runs of a step function, and what is reached when the actions that help recur. -/

namespace SchunkFts.Foundation.Fair
variable {State Action : Type}

/-- The state after so many actions of the schedule. -/
def trace (step : State → Action → State) (s : State) (schedule : Nat → Action) : Nat → State
  | 0 => s
  | n + 1 => step (trace step s schedule n) (schedule n)

/-- The goal is reached after `start`, and until then the condition holds. -/
def Reaches (states : Nat → State) (Holds Goal : State → Prop) (start : Nat) : Prop :=
  ∃ finish, start < finish ∧ Goal (states finish) ∧
    ∀ n, start ≤ n → n < finish → Holds (states n)

theorem Reaches.trans {states : Nat → State} {First Second Goal : State → Prop} {start : Nat}
    (Both : State → Prop) (first : Reaches states First Second start)
    (left : ∀ s, First s → Both s) (right : ∀ s, Second s → Both s)
    (rest : ∀ middle, Second (states middle) → Reaches states Second Goal middle) :
    Reaches states Both Goal start := by
  obtain ⟨middle, later, reached, before⟩ := first
  obtain ⟨finish, last, goal, between⟩ := rest middle reached
  refine ⟨finish, by omega, goal, ?_⟩
  intro n low high
  by_cases early : n < middle
  · exact left _ (before n low early)
  · exact right _ (between n (by omega) high)

/-- Actions up to the next helpful one reach the goal or keep the condition and the rank. -/
theorem carry (step : State → Action → State) (s : State) (schedule : Nat → Action)
    (Holds Goal : State → Prop) (rank : State → Nat)
    (keeps : ∀ t action, Holds t →
      Goal (step t action) ∨ (Holds (step t action) ∧ rank (step t action) ≤ rank t))
    (start : Nat) (initial : Holds (trace step s schedule start)) (count : Nat) :
    Reaches (trace step s schedule) Holds Goal start ∨
      ∀ n, start ≤ n → n ≤ start + count → Holds (trace step s schedule n) ∧
        rank (trace step s schedule n) ≤ rank (trace step s schedule start) := by
  induction count with
  | zero =>
    right
    intro n low high
    have here : n = start := by omega
    rw [here]
    exact ⟨initial, Nat.le_refl _⟩
  | succ count ih =>
    rcases ih with reached | so_far
    · exact .inl reached
    · obtain ⟨holds, small⟩ := so_far (start + count) (by omega) (Nat.le_refl _)
      rcases keeps _ (schedule (start + count)) holds with goal | ⟨again, smaller⟩
      · left
        refine ⟨start + count + 1, by omega, goal, ?_⟩
        exact fun n low high => (so_far n low (by omega)).1
      · right
        intro n low high
        by_cases last : n = start + (count + 1)
        · rw [last]
          exact ⟨again, Nat.le_trans smaller small⟩
        · exact so_far n low (by omega)

/-- If no action spoils the condition or raises the rank, and helpful actions recur and lower it, the
goal is reached. -/
theorem fair_reaches (step : State → Action → State) (s : State) (schedule : Nat → Action)
    (Holds Goal : State → Prop) (rank : State → Nat) (Helpful : Action → Prop)
    (recurs : ∀ n, ∃ m, n ≤ m ∧ Helpful (schedule m))
    (keeps : ∀ t action, Holds t →
      Goal (step t action) ∨ (Holds (step t action) ∧ rank (step t action) ≤ rank t))
    (falls : ∀ t action, Holds t → Helpful action →
      Goal (step t action) ∨ rank (step t action) < rank t)
    (start : Nat) (initial : Holds (trace step s schedule start)) :
    Reaches (trace step s schedule) Holds Goal start := by
  generalize bound : rank (trace step s schedule start) = value
  induction value using Nat.strongRecOn generalizing start with
  | _ value ih =>
    obtain ⟨next, later, helpful⟩ := recurs start
    rcases carry step s schedule Holds Goal rank keeps start initial (next - start) with
      reached | so_far
    · exact reached
    · obtain ⟨holds, small⟩ := so_far next later (by omega)
      have before : ∀ n, start ≤ n → n < next + 1 → Holds (trace step s schedule n) :=
        fun n low high => (so_far n low (by omega)).1
      rcases keeps _ (schedule next) holds with goal | ⟨again, _⟩
      · exact ⟨next + 1, by omega, goal, before⟩
      · rcases falls _ (schedule next) holds helpful with goal | smaller
        · exact ⟨next + 1, by omega, goal, before⟩
        · have less : rank (trace step s schedule (next + 1)) < value := by
            rw [← bound]
            exact Nat.lt_of_lt_of_le smaller small
          obtain ⟨finish, last, goal, between⟩ := ih _ less (next + 1) again rfl
          refine ⟨finish, by omega, goal, ?_⟩
          intro n low high
          by_cases early : n < next + 1
          · exact before n low early
          · exact between n (by omega) high

end SchunkFts.Foundation.Fair
