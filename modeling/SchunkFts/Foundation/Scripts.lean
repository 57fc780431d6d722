import Mathlib.Tactic.Common

/-! Programs that ask: a script performs one operation after another and goes on with what each is
answered. Who answers is left open, so that the same script can be run alone and be interleaved with
others. -/

namespace SchunkFts.Foundation.Scripts

inductive Script (Op : Type) (Answer : Op → Type) (α : Type) : Type where
  | done (result : α)
  | perform (op : Op) (next : Answer op → Script Op Answer α)

namespace Script
variable {Op : Type} {Answer : Op → Type} {α β γ : Type}

def bind : Script Op Answer α → (α → Script Op Answer β) → Script Op Answer β
  | .done result, later => later result
  | .perform op next, later => .perform op (fun answer => (next answer).bind later)

instance : Monad (Script Op Answer) where
  pure := .done
  bind := bind

/-- One operation, and its answer. -/
def ask (op : Op) : Script Op Answer (Answer op) := .perform op .done

@[simp] theorem pure_eq (result : α) : (pure result : Script Op Answer α) = .done result := rfl

@[simp] theorem done_bind (result : α) (later : α → Script Op Answer β) :
    (.done result : Script Op Answer α) >>= later = later result := rfl

@[simp] theorem ask_bind (op : Op) (later : Answer op → Script Op Answer β) :
    ask op >>= later = .perform op later := rfl

/-! ### Whatever is answered -/

/-- Every result is one that `Post` accepts, whatever the answers are; `track` notes what has been
asked and answered. -/
def Ensures (track : γ → (op : Op) → Answer op → γ) (Post : γ → α → Prop) :
    γ → Script Op Answer α → Prop
  | noted, .done result => Post noted result
  | noted, .perform op next => ∀ answer, (next answer).Ensures track Post (track noted op answer)

section
variable {track : γ → (op : Op) → Answer op → γ}

theorem Ensures.mono {First Second : γ → α → Prop} {script : Script Op Answer α} {noted : γ}
    (ensures : script.Ensures track First noted)
    (weaker : ∀ noted result, First noted result → Second noted result) :
    script.Ensures track Second noted := by
  induction script generalizing noted with
  | done result => exact weaker noted result ensures
  | perform op next ih => exact fun answer => ih answer (ensures answer)

/-- What the first script ensures is what the second one may start from. -/
theorem Ensures.bind {Middle : γ → α → Prop} {Post : γ → β → Prop} {script : Script Op Answer α}
    {later : α → Script Op Answer β} {noted : γ} (first : script.Ensures track Middle noted)
    (second : ∀ noted result, Middle noted result → (later result).Ensures track Post noted) :
    (script >>= later).Ensures track Post noted := by
  induction script generalizing noted with
  | done result => exact second noted result first
  | perform op next ih => exact fun answer => ih answer (first answer)

end

/-! ### Alone -/

/-- Every operation is carried out by the handler before the next is asked. -/
def runWith {State : Type} (handler : State → (op : Op) → State × Answer op) :
    State → Script Op Answer α → State × α
  | s, .done result => (s, result)
  | s, .perform op next => (next (handler s op).2).runWith handler (handler s op).1

@[simp] theorem runWith_done {State : Type} (handler : State → (op : Op) → State × Answer op)
    (s : State) (result : α) : (done result).runWith handler s = (s, result) := rfl

@[simp] theorem runWith_perform {State : Type} (handler : State → (op : Op) → State × Answer op)
    (s : State) (op : Op) (next : Answer op → Script Op Answer α) :
    (perform op next).runWith handler s =
      (next (handler s op).2).runWith handler (handler s op).1 := rfl

@[simp] theorem runWith_ask {State : Type} (handler : State → (op : Op) → State × Answer op)
    (s : State) (op : Op) : (ask op).runWith handler s = handler s op := rfl

@[simp] theorem runWith_bind {State : Type} (handler : State → (op : Op) → State × Answer op)
    (script : Script Op Answer α) (later : α → Script Op Answer β) (s : State) :
    (script >>= later).runWith handler s =
      (later (script.runWith handler s).2).runWith handler (script.runWith handler s).1 := by
  induction script generalizing s with
  | done result => rfl
  | perform op next ih => exact ih (handler s op).2 (handler s op).1

end Script
end SchunkFts.Foundation.Scripts
