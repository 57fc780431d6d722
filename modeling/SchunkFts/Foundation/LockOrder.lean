import Mathlib.Logic.Relation
import SchunkFts.Foundation.Run
import SchunkFts.Foundation.Threads

/-! Threads that wait for locks and for the end of other threads. Of a program only its waits are
kept; what depends on data may go either way. If every program takes its locks in descending order of
rank, and waits for a thread only with locks in its hands that rank above all the thread may take,
then whoever waits, waits for somebody who can go on. -/

namespace SchunkFts.Foundation.LockOrder
open Threads

inductive Program (Lock Kind : Type) where
  | skip
  | act
  | seq (first second : Program Lock Kind)
  | either (first second : Program Lock Kind)
  | loop (body : Program Lock Kind)
  | within (lock : Lock) (body : Program Lock Kind)
  | join (kind : Kind)

variable {Lock Kind Thread : Type}

/-- One program, and another unless the first has raised or returned. -/
def Program.andThen (first second : Program Lock Kind) : Program Lock Kind :=
  .seq first (.either .skip second)

/-- What a thread has left to do: a program, the release of a lock, or the wait for a thread. -/
inductive Frame (Lock Kind Thread : Type) where
  | run (program : Program Lock Kind)
  | release (lock : Lock)
  | await (thread : Thread)

/-- The ranks of the locks, and those of the threads by their kind. -/
structure Ranks (Lock Kind Thread : Type) where
  rank : Lock → Nat
  level : Kind → Nat
  kind : Thread → Kind

/-- Which thread holds a lock, and what each thread has left to do. -/
abbrev State (Lock Kind Thread : Type) : Type :=
  System Thread (Lock → Option Thread) (List (Frame Lock Kind Thread))

def start (Lock Kind Thread : Type) : State Lock Kind Thread where
  shared := fun _ => none
  own := fun _ => []

/-- `first` decides what data decide, and `target` is the thread that is joined. -/
inductive Action (Lock Kind Thread : Type) where
  | call (thread : Thread) (program : Program Lock Kind)
  | step (thread : Thread) (first : Bool) (target : Thread)

section Steps
variable (kind : Thread → Kind) [DecidableEq Lock] [DecidableEq Kind] [DecidableEq Thread]

/-- One step of a thread. A thread of another kind than the one to be joined stands for none. -/
def advance (s : State Lock Kind Thread) (thread : Thread) (first : Bool) (target : Thread) :
    List (Frame Lock Kind Thread) → State Lock Kind Thread
  | [] => s
  | .run .skip :: rest => s.move thread s.shared rest
  | .run .act :: rest => s.move thread s.shared rest
  | .run (.seq one other) :: rest => s.move thread s.shared (.run one :: .run other :: rest)
  | .run (.either one other) :: rest =>
      s.move thread s.shared (.run (if first then one else other) :: rest)
  | .run (.loop body) :: rest =>
      s.move thread s.shared (if first then .run body :: .run (.loop body) :: rest else rest)
  | .run (.within lock body) :: rest =>
      match s.shared lock with
      | none =>
          s.move thread (Function.update s.shared lock (some thread))
            (.run body :: .release lock :: rest)
      | some _ => s
  | .run (.join joined) :: rest =>
      s.move thread s.shared (if kind target = joined then .await target :: rest else rest)
  | .release lock :: rest => s.move thread (Function.update s.shared lock none) rest
  | .await other :: rest =>
      match s.own other with
      | [] => s.move thread s.shared rest
      | _ :: _ => s

/-- A thread begins a call once it has nothing left of the last one. -/
def step (s : State Lock Kind Thread) : Action Lock Kind Thread → State Lock Kind Thread
  | .call thread program =>
      match s.own thread with
      | [] => s.move thread s.shared [.run program]
      | _ :: _ => s
  | .step thread first target => advance kind s thread first target (s.own thread)

end Steps

/-! ### Waiting -/

def WaitsFor (s : State Lock Kind Thread) (thread other : Thread) : Prop :=
  match s.own thread with
  | .run (.within lock _) :: _ => s.shared lock = some other
  | .await joined :: _ => joined = other ∧ s.own other ≠ []
  | _ => False

def Running (s : State Lock Kind Thread) (thread : Thread) : Prop := s.own thread ≠ []

/-- Its next step, whichever way it goes, is not held up. -/
def CanGo (s : State Lock Kind Thread) (thread : Thread) : Prop :=
  Running s thread ∧ ∀ other, ¬WaitsFor s thread other

/-! ### The order -/

variable (ranks : Ranks Lock Kind Thread)

/-- The locks taken, and the threads waited for, rank below the bound. -/
def Ordered (bound : Nat) : Program Lock Kind → Prop
  | .skip => True
  | .act => True
  | .seq first second => Ordered bound first ∧ Ordered bound second
  | .either first second => Ordered bound first ∧ Ordered bound second
  | .loop body => Ordered bound body
  | .within lock body => ranks.rank lock < bound ∧ Ordered (ranks.rank lock) body
  | .join joined => ranks.level joined < bound

instance decidableOrdered : ∀ (bound : Nat) (program : Program Lock Kind),
    Decidable (Ordered ranks bound program)
  | _, .skip => .isTrue trivial
  | _, .act => .isTrue trivial
  | bound, .seq first second =>
      @instDecidableAnd _ _ (decidableOrdered bound first) (decidableOrdered bound second)
  | bound, .either first second =>
      @instDecidableAnd _ _ (decidableOrdered bound first) (decidableOrdered bound second)
  | bound, .loop body => decidableOrdered bound body
  | bound, .within lock body =>
      @instDecidableAnd _ _ (Nat.decLt (ranks.rank lock) bound)
        (decidableOrdered (ranks.rank lock) body)
  | bound, .join joined => Nat.decLt (ranks.level joined) bound

/-- The rank of the lock taken last, or the base. -/
def bound (base : Nat) : List (Frame Lock Kind Thread) → Nat
  | [] => base
  | .release lock :: _ => ranks.rank lock
  | .run _ :: rest => bound base rest
  | .await _ :: rest => bound base rest

def FrameFits (limit : Nat) : Frame Lock Kind Thread → Prop
  | .run program => Ordered ranks limit program
  | .release lock => ranks.rank lock < limit
  | .await thread => ranks.level (ranks.kind thread) < limit

def Fits (base : Nat) : List (Frame Lock Kind Thread) → Prop
  | [] => True
  | frame :: rest => FrameFits ranks (bound ranks base rest) frame ∧ Fits base rest

theorem bound_le_base (base : Nat) (frames : List (Frame Lock Kind Thread))
    (fits : Fits ranks base frames) : bound ranks base frames ≤ base := by
  induction frames with
  | nil => exact Nat.le_refl base
  | cons frame rest ih =>
    have below := ih fits.2
    cases frame with
    | run program => exact below
    | release lock => exact (Nat.le_of_lt fits.1).trans below
    | await thread => exact below

theorem bound_le_rank (base : Nat) (frames : List (Frame Lock Kind Thread)) (lock : Lock)
    (fits : Fits ranks base frames) (holds : .release lock ∈ frames) :
    bound ranks base frames ≤ ranks.rank lock := by
  induction frames with
  | nil => cases holds
  | cons frame rest ih =>
    cases frame with
    | run program => exact ih fits.2 ((List.mem_cons.mp holds).resolve_left (by simp))
    | await thread => exact ih fits.2 ((List.mem_cons.mp holds).resolve_left (by simp))
    | release other =>
      rcases List.mem_cons.mp holds with same | earlier
      · cases same
        exact Nat.le_refl _
      · exact (Nat.le_of_lt fits.1).trans (ih fits.2 earlier)

/-- Every thread keeps to the order, and holds the locks that it has to release. -/
structure Sound (s : State Lock Kind Thread) : Prop where
  fits : ∀ thread, Fits ranks (ranks.level (ranks.kind thread)) (s.own thread)
  holds : ∀ lock thread, s.shared lock = some thread ↔ .release lock ∈ s.own thread

theorem sound_start : Sound ranks (start Lock Kind Thread) where
  fits := fun _ => trivial
  holds := fun _ _ => by simp [start]

def Allowed : Action Lock Kind Thread → Prop
  | .call thread program => Ordered ranks (ranks.level (ranks.kind thread)) program
  | .step _ _ _ => True

section Invariant
variable [DecidableEq Thread]

/-- A step that takes and releases nothing. -/
theorem Sound.stay {s : State Lock Kind Thread} (sound : Sound ranks s) (thread : Thread)
    (frames : List (Frame Lock Kind Thread))
    (fits : Fits ranks (ranks.level (ranks.kind thread)) frames)
    (same : ∀ lock, .release lock ∈ frames ↔ .release lock ∈ s.own thread) :
    Sound ranks (s.move thread s.shared frames) where
  fits := s.move_forall thread s.shared frames
    (fun thread frames => Fits ranks (ranks.level (ranks.kind thread)) frames) fits
    (fun other _ => sound.fits other)
  holds := by
    intro lock
    refine s.move_forall thread s.shared frames
      (fun thread frames => s.shared lock = some thread ↔ .release lock ∈ frames) ?_ ?_
    · rw [same]
      exact sound.holds lock thread
    · exact fun other _ => sound.holds lock other

variable [DecidableEq Lock]

theorem Sound.take {s : State Lock Kind Thread} (sound : Sound ranks s) (thread : Thread)
    (lock : Lock) (body : Program Lock Kind) (rest : List (Frame Lock Kind Thread))
    (here : s.own thread = .run (.within lock body) :: rest) (free : s.shared lock = none) :
    Sound ranks (s.move thread (Function.update s.shared lock (some thread))
      (.run body :: .release lock :: rest)) := by
  have fits := sound.fits thread
  rw [here] at fits
  refine ⟨?_, ?_⟩
  · exact s.move_forall thread _ _
      (fun thread frames => Fits ranks (ranks.level (ranks.kind thread)) frames)
      ⟨fits.1.2, fits.1.1, fits.2⟩ (fun other _ => sound.fits other)
  · intro taken other
    rw [System.move_shared]
    by_cases same : taken = lock
    · rw [same, Function.update_self]
      by_cases mine : other = thread
      · rw [mine, System.move_own]
        simp
      · rw [System.move_other _ _ _ _ _ mine, ← sound.holds, free]
        simp [Ne.symm mine]
    · rw [Function.update_of_ne same, sound.holds]
      by_cases mine : other = thread
      · rw [mine, System.move_own, here]
        simp [same]
      · rw [System.move_other _ _ _ _ _ mine]

theorem Sound.release {s : State Lock Kind Thread} (sound : Sound ranks s) (thread : Thread)
    (lock : Lock) (rest : List (Frame Lock Kind Thread))
    (here : s.own thread = .release lock :: rest) :
    Sound ranks (s.move thread (Function.update s.shared lock none) rest) := by
  have fits := sound.fits thread
  rw [here] at fits
  have gone : .release lock ∉ rest := by
    intro still
    have below := bound_le_rank ranks _ rest lock fits.2 still
    have above : ranks.rank lock < bound ranks _ rest := fits.1
    omega
  have mine : s.shared lock = some thread := (sound.holds lock thread).mpr (by simp [here])
  refine ⟨?_, ?_⟩
  · exact s.move_forall thread _ _
      (fun thread frames => Fits ranks (ranks.level (ranks.kind thread)) frames) fits.2
      (fun other _ => sound.fits other)
  · intro held other
    rw [System.move_shared]
    by_cases same : held = lock
    · rw [same, Function.update_self]
      by_cases own : other = thread
      · rw [own, System.move_own]
        simp [gone]
      · rw [System.move_other _ _ _ _ _ own, ← sound.holds, mine]
        simp [Ne.symm own]
    · rw [Function.update_of_ne same, sound.holds]
      by_cases own : other = thread
      · rw [own, System.move_own, here]
        simp [same]
      · rw [System.move_other _ _ _ _ _ own]

theorem sound_step [DecidableEq Kind] (s : State Lock Kind Thread) (action : Action Lock Kind Thread)
    (sound : Sound ranks s) (allowed : Allowed ranks action) :
    Sound ranks (step ranks.kind s action) := by
  cases action with
  | call thread program =>
    simp only [step]
    split
    next idle => exact sound.stay ranks thread _ ⟨allowed, trivial⟩ (by simp [idle])
    next => exact sound
  | step thread first target =>
    have fits := sound.fits thread
    cases here : s.own thread with
    | nil =>
      simp only [step, here, advance]
      exact sound
    | cons frame rest =>
      rw [here] at fits
      cases frame with
      | release lock =>
        simp only [step, here, advance]
        exact sound.release ranks thread lock rest here
      | await other =>
        simp only [step, here, advance]
        split
        · exact sound.stay ranks thread rest fits.2 (by simp [here])
        · exact sound
      | run program =>
        cases program with
        | skip =>
          simp only [step, here, advance]
          exact sound.stay ranks thread rest fits.2 (by simp [here])
        | act =>
          simp only [step, here, advance]
          exact sound.stay ranks thread rest fits.2 (by simp [here])
        | seq one other =>
          simp only [step, here, advance]
          exact sound.stay ranks thread _ ⟨fits.1.1, fits.1.2, fits.2⟩ (by simp [here])
        | either one other =>
          simp only [step, here, advance]
          refine sound.stay ranks thread _ ⟨?_, fits.2⟩ (by simp [here])
          cases first with
          | true => exact fits.1.1
          | false => exact fits.1.2
        | loop body =>
          simp only [step, here, advance]
          cases first with
          | true => exact sound.stay ranks thread _ ⟨fits.1, fits.1, fits.2⟩ (by simp [here])
          | false => exact sound.stay ranks thread rest fits.2 (by simp [here])
        | within lock body =>
          simp only [step, here, advance]
          split
          next free => exact sound.take ranks thread lock body rest here free
          next => exact sound
        | join joined =>
          simp only [step, here, advance]
          split_ifs with alike
          · refine sound.stay ranks thread _ ⟨?_, fits.2⟩ (by simp [here])
            rw [FrameFits, alike]
            exact fits.1
          · exact sound.stay ranks thread rest fits.2 (by simp [here])

end Invariant

/-! ### Whom a thread waits for -/

/-- The rank of what a thread waits for. -/
def waitRank : List (Frame Lock Kind Thread) → Nat
  | .run (.within lock _) :: _ => ranks.rank lock
  | .await other :: _ => ranks.level (ranks.kind other)
  | _ => 0

/-- It ranks below all that the thread holds. -/
theorem waitRank_lt {s : State Lock Kind Thread} (sound : Sound ranks s) (thread other : Thread)
    (waits : WaitsFor s thread other) :
    waitRank ranks (s.own thread) <
      bound ranks (ranks.level (ranks.kind thread)) (s.own thread) := by
  have fits := sound.fits thread
  unfold WaitsFor at waits
  split at waits
  next lock body rest here =>
    rw [here] at fits ⊢
    exact fits.1.1
  next joined rest here =>
    rw [here] at fits ⊢
    exact fits.1
  next => exact waits.elim

/-- Whoever is waited for is at work, with less in its hands than what is waited for. -/
theorem bound_le_waitRank {s : State Lock Kind Thread} (sound : Sound ranks s)
    (thread other : Thread) (waits : WaitsFor s thread other) :
    Running s other ∧ bound ranks (ranks.level (ranks.kind other)) (s.own other) ≤
      waitRank ranks (s.own thread) := by
  have fits := sound.fits other
  unfold WaitsFor at waits
  split at waits
  next lock body rest here =>
    have holds := (sound.holds lock other).mp waits
    rw [here]
    refine ⟨?_, bound_le_rank ranks _ _ lock fits holds⟩
    intro idle
    rw [idle] at holds
    cases holds
  next joined rest here =>
    obtain ⟨rfl, running⟩ := waits
    rw [here]
    exact ⟨running, bound_le_base ranks _ _ fits⟩
  next => exact waits.elim

/-- From whom to whom one ever goes, waiting for the next, it ends at a thread that can go on. -/
theorem leads_on {s : State Lock Kind Thread} (sound : Sound ranks s) (thread : Thread)
    (running : Running s thread) :
    ∃ other, Relation.ReflTransGen (WaitsFor s) thread other ∧ CanGo s other := by
  induction same : waitRank ranks (s.own thread) using Nat.strong_induction_on
    generalizing thread with
  | _ rank ih =>
    by_cases waits : ∃ other, WaitsFor s thread other
    · obtain ⟨next, waits⟩ := waits
      obtain ⟨works, below⟩ := bound_le_waitRank ranks sound thread next waits
      by_cases further : ∃ other, WaitsFor s next other
      · obtain ⟨other, further⟩ := further
        have lower := waitRank_lt ranks sound next other further
        obtain ⟨last, path, goes⟩ := ih _ (by omega) next works rfl
        exact ⟨last, .head waits path, goes⟩
      · exact ⟨next, .single waits, works, not_exists.mp further⟩
    · exact ⟨thread, .refl, running, not_exists.mp waits⟩

/-- A thread that can go on does so in its next step. -/
theorem canGo_moves [DecidableEq Lock] [DecidableEq Kind] [DecidableEq Thread]
    (kind : Thread → Kind) (s : State Lock Kind Thread) (thread target : Thread)
    (goes : CanGo s thread) :
    (step kind s (.step thread false target)).own thread ≠ s.own thread := by
  obtain ⟨running, free⟩ := goes
  have rest_ne (frame : Frame Lock Kind Thread) (rest : List (Frame Lock Kind Thread)) :
      rest ≠ frame :: rest := fun same => by simpa using congrArg List.length same
  cases here : s.own thread with
  | nil => exact absurd here running
  | cons frame rest =>
    cases frame with
    | release lock =>
      simp only [step, here, advance, System.move_own]
      exact rest_ne _ _
    | await other =>
      cases done : s.own other with
      | nil =>
        simp only [step, here, advance, done, System.move_own]
        exact rest_ne _ _
      | cons more others =>
        apply absurd _ (free other)
        simp only [WaitsFor, here]
        exact ⟨trivial, by simp [done]⟩
    | run program =>
      cases program with
      | skip =>
        simp only [step, here, advance, System.move_own]
        exact rest_ne _ _
      | act =>
        simp only [step, here, advance, System.move_own]
        exact rest_ne _ _
      | seq one other =>
        simp only [step, here, advance, System.move_own]
        intro same
        simpa using congrArg List.length same
      | either one other =>
        simp only [step, here, advance, System.move_own]
        intro same
        have sizes := congrArg sizeOf same
        simp at sizes
      | loop body =>
        simp only [step, here, advance, System.move_own]
        exact rest_ne _ _
      | within lock body =>
        cases holder : s.shared lock with
        | none =>
          simp only [step, here, advance, holder, System.move_own]
          intro same
          simpa using congrArg List.length same
        | some other =>
          apply absurd _ (free other)
          simp only [WaitsFor, here]
          exact holder
      | join joined =>
        simp only [step, here, advance, System.move_own]
        split_ifs
        · simp
        · exact rest_ne _ _

end SchunkFts.Foundation.LockOrder
