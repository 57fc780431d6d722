import Mathlib.Algebra.BigOperators.Group.Finset.Basic
import Mathlib.Data.Fintype.Basic

/-! Threads that share a state and keep another one each, and accounts over both. An amount may lie
in the shared state or be in the hands of a thread; a step moves some of it and may bring in more. -/

namespace SchunkFts.Foundation.Threads
open Finset

structure System (Thread Shared Own : Type) where
  shared : Shared
  own : Thread → Own

variable {Thread Shared Own Amount : Type} [DecidableEq Thread]

/-- A step of one thread. -/
def System.move (s : System Thread Shared Own) (thread : Thread) (shared : Shared) (own : Own) :
    System Thread Shared Own where
  shared := shared
  own := Function.update s.own thread own

@[simp] theorem System.move_shared (s : System Thread Shared Own) (thread : Thread)
    (shared : Shared) (own : Own) : (s.move thread shared own).shared = shared := rfl

@[simp] theorem System.move_own (s : System Thread Shared Own) (thread : Thread) (shared : Shared)
    (own : Own) : (s.move thread shared own).own thread = own := by
  simp only [move, Function.update_self]

theorem System.move_other (s : System Thread Shared Own) (thread : Thread) (shared : Shared)
    (own : Own) (other : Thread) (different : other ≠ thread) :
    (s.move thread shared own).own other = s.own other := by
  simp only [move, Function.update_of_ne different]

/-- Whatever holds of every thread's own state holds after a step if it holds of the new one. -/
theorem System.move_forall (s : System Thread Shared Own) (thread : Thread) (shared : Shared)
    (own : Own) (Holds : Thread → Own → Prop) (here : Holds thread own)
    (others : ∀ other, other ≠ thread → Holds other (s.own other)) (other : Thread) :
    Holds other ((s.move thread shared own).own other) := by
  by_cases same : other = thread
  · rw [same, move_own]
    exact here
  · rw [move_other _ _ _ _ _ same]
    exact others other same

section Accounts
variable [Fintype Thread] [AddCommMonoid Amount]

/-- What the shared state and the threads have between them. -/
def total (kept : Shared → Amount) (held : Own → Amount) (s : System Thread Shared Own) : Amount :=
  kept s.shared + ∑ thread, held (s.own thread)

theorem sum_move (held : Own → Amount) (s : System Thread Shared Own) (thread : Thread)
    (shared : Shared) (own : Own) :
    ∑ other, held ((s.move thread shared own).own other) =
      held own + ∑ other ∈ univ.erase thread, held (s.own other) := by
  rw [← add_sum_erase univ _ (mem_univ thread), System.move_own]
  congr 1
  apply sum_congr rfl
  intro other member
  rw [System.move_other _ _ _ _ _ (ne_of_mem_erase member)]

/-- The total grows by what the step brings in. -/
theorem total_move (kept : Shared → Amount) (held : Own → Amount) (s : System Thread Shared Own)
    (thread : Thread) (shared : Shared) (own : Own) (gain : Amount)
    (balance : kept shared + held own = kept s.shared + held (s.own thread) + gain) :
    total kept held (s.move thread shared own) = total kept held s + gain := by
  calc
    _ = kept shared + held own + ∑ other ∈ univ.erase thread, held (s.own other) := by
      rw [total, sum_move, System.move_shared, add_assoc]
    _ = kept s.shared + held (s.own thread) + gain +
        ∑ other ∈ univ.erase thread, held (s.own other) := by rw [balance]
    _ = kept s.shared + (held (s.own thread) +
        ∑ other ∈ univ.erase thread, held (s.own other)) + gain := by ac_rfl
    _ = _ := by rw [add_sum_erase univ (fun other => held (s.own other)) (mem_univ thread), total]

/-- What the books say in the shared state is what there is. -/
def Balanced (books kept : Shared → Amount) (held : Own → Amount) (s : System Thread Shared Own) :
    Prop :=
  books s.shared = total kept held s

theorem Balanced.move {books kept : Shared → Amount} {held : Own → Amount}
    {s : System Thread Shared Own} (balanced : Balanced books kept held s) (thread : Thread)
    (shared : Shared) (own : Own) (gain : Amount) (booked : books shared = books s.shared + gain)
    (balance : kept shared + held own = kept s.shared + held (s.own thread) + gain) :
    Balanced books kept held (s.move thread shared own) := by
  rw [Balanced, total_move kept held s thread shared own gain balance, System.move_shared, booked,
    balanced]

end Accounts
end SchunkFts.Foundation.Threads
