import Mathlib.Data.List.Basic

/-! A first-in first-out queue with a bound, as `queue.Queue` is one, and its history: the queue
holds what it has accepted, less what has been taken from its front. -/

namespace SchunkFts.Foundation.Queue

/-- A `maxsize` of 0 stands for no bound. -/
structure BoundedQueue (α : Type) where
  maxsize : Nat
  items : List α
  bounded : 0 < maxsize → items.length ≤ maxsize

namespace BoundedQueue
variable {α : Type}

def new (maxsize : Nat) : BoundedQueue α where
  maxsize := maxsize
  items := []
  bounded := fun _ => Nat.zero_le maxsize

def Full (queue : BoundedQueue α) : Prop := 0 < queue.maxsize ∧ queue.maxsize ≤ queue.items.length

instance (queue : BoundedQueue α) : Decidable queue.Full := inferInstanceAs (Decidable (_ ∧ _))

/-- `none` is the exception `Full`. -/
def putNowait (queue : BoundedQueue α) (item : α) : Option (BoundedQueue α) :=
  if full : queue.Full then none
  else some {
    maxsize := queue.maxsize
    items := queue.items ++ [item]
    bounded := by
      intro positive
      have room : ¬queue.maxsize ≤ queue.items.length := fun least => full ⟨positive, least⟩
      rw [List.length_append, List.length_singleton]
      omega }

/-- `none` is the exception `Empty`. -/
def getNowait (queue : BoundedQueue α) : Option (α × BoundedQueue α) :=
  match content : queue.items with
  | [] => none
  | item :: rest => some (item, {
      maxsize := queue.maxsize
      items := rest
      bounded := by
        intro positive
        have bound := queue.bounded positive
        rw [content, List.length_cons] at bound
        omega })

def clear (queue : BoundedQueue α) : BoundedQueue α where
  maxsize := queue.maxsize
  items := []
  bounded := fun _ => Nat.zero_le queue.maxsize

@[simp] theorem new_items (maxsize : Nat) : (new maxsize : BoundedQueue α).items = [] := rfl

@[simp] theorem new_maxsize (maxsize : Nat) : (new maxsize : BoundedQueue α).maxsize = maxsize := rfl

@[simp] theorem clear_items (queue : BoundedQueue α) : queue.clear.items = [] := rfl

@[simp] theorem clear_maxsize (queue : BoundedQueue α) : queue.clear.maxsize = queue.maxsize := rfl

theorem full_iff (queue : BoundedQueue α) (positive : 0 < queue.maxsize) :
    queue.Full ↔ queue.items.length = queue.maxsize := by
  have bound := queue.bounded positive
  unfold Full
  omega

theorem putNowait_full (queue : BoundedQueue α) (item : α) (full : queue.Full) :
    queue.putNowait item = none := dif_pos full

theorem putNowait_room (queue : BoundedQueue α) (item : α) (room : ¬queue.Full) :
    ∃ next, queue.putNowait item = some next ∧ next.items = queue.items ++ [item] ∧
      next.maxsize = queue.maxsize := by
  unfold putNowait
  rw [dif_neg room]
  exact ⟨_, rfl, rfl, rfl⟩

theorem getNowait_nil (queue : BoundedQueue α) (empty : queue.items = []) :
    queue.getNowait = none := by
  unfold getNowait
  split
  next => rfl
  next item rest content =>
    rw [empty] at content
    cases content

theorem getNowait_cons (queue : BoundedQueue α) (item : α) (rest : List α)
    (content : queue.items = item :: rest) :
    ∃ next, queue.getNowait = some (item, next) ∧ next.items = rest ∧
      next.maxsize = queue.maxsize := by
  unfold getNowait
  split
  next absent =>
    rw [content] at absent
    cases absent
  next first others found =>
    rw [content] at found
    cases found
    exact ⟨_, rfl, rfl, rfl⟩

/-- Of all items accepted since it was new, the queue holds those not yet taken. -/
structure History (queue : BoundedQueue α) (accepted : List α) (taken : Nat) : Prop where
  within : taken ≤ accepted.length
  items : queue.items = accepted.drop taken

theorem history_new (maxsize : Nat) : History (new maxsize : BoundedQueue α) [] 0 where
  within := Nat.le_refl 0
  items := rfl

theorem History.put {queue next : BoundedQueue α} {accepted : List α} {taken : Nat}
    (history : History queue accepted taken) (item : α)
    (grown : next.items = queue.items ++ [item]) : History next (accepted ++ [item]) taken where
  within := by
    have within := history.within
    rw [List.length_append]
    omega
  items := by rw [grown, history.items, List.drop_append_of_le_length history.within]

/-- The next item to be taken. -/
theorem History.front {queue : BoundedQueue α} {accepted : List α} {taken : Nat}
    (history : History queue accepted taken) (item : α) (rest : List α)
    (content : queue.items = item :: rest) : accepted[taken]? = some item := by
  have front : accepted.drop taken = item :: rest := by rw [← history.items, content]
  rw [← List.head?_drop, front, List.head?_cons]

theorem History.get {queue next : BoundedQueue α} {accepted : List α} {taken : Nat}
    (history : History queue accepted taken) (item : α) (rest : List α)
    (content : queue.items = item :: rest) (shrunk : next.items = rest) :
    History next accepted (taken + 1) := by
  obtain ⟨inside, value⟩ := List.getElem?_eq_some_iff.mp (history.front item rest content)
  have front : accepted.drop taken = item :: rest := by rw [← history.items, content]
  rw [List.drop_eq_getElem_cons inside] at front
  refine ⟨inside, ?_⟩
  rw [shrunk, (List.cons.inj front).2]

theorem History.empty_iff {queue : BoundedQueue α} {accepted : List α} {taken : Nat}
    (history : History queue accepted taken) : queue.items = [] ↔ accepted[taken]? = none := by
  rw [history.items, List.drop_eq_nil_iff, List.getElem?_eq_none_iff]

theorem History.clear {queue : BoundedQueue α} {accepted : List α} {taken : Nat}
    (_ : History queue accepted taken) : History queue.clear accepted accepted.length where
  within := Nat.le_refl _
  items := by rw [clear_items, List.drop_length]

end BoundedQueue
end SchunkFts.Foundation.Queue
