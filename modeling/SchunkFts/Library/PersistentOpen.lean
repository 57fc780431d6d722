import Mathlib.Logic.Function.Basic
import SchunkFts.Library.Control

/-! Users of one connection: their `with` blocks and their calls of `open` and `close`, in any order.
A section under the lock is one step, and so is each statement of `open` behind it. No socket
fails. -/

namespace SchunkFts.Library.PersistentOpen
open SchunkFts.Foundation.Run Control

/-- Where a call of `open` is: behind `__enter__`, behind `if self.is_open`, or before its
`return True`. -/
inductive OpenCall where
  | idle
  | entered
  | found
  | marked
  deriving DecidableEq, Repr

/-- `blocks` counts the `with` blocks a user is in; `promised` is set when `open` returns `True`, and
cleared by the next `close`. -/
structure Shared (User : Type) where
  connection : Connection
  blocks : User → Nat
  call : User → OpenCall
  promised : Bool

inductive Action (User : Type) where
  | enter (user : User)
  | leave (user : User)
  | openUp (user : User)
  | proceed (user : User)
  | close (user : User)

variable {User : Type}

namespace Shared

def new : Shared User where
  connection := .new
  blocks := fun _ => 0
  call := fun _ => .idle
  promised := false

/-- A user has a block to leave, and is not in a call of `open`. -/
def CanLeave (s : Shared User) (user : User) : Prop := s.call user = .idle ∧ 0 < s.blocks user

instance (s : Shared User) (user : User) : Decidable (s.CanLeave user) :=
  inferInstanceAs (Decidable (_ ∧ _))

end Shared

/-- A connection that `open` has returned `True` for is open until the next `close`. -/
def Lasting (s : Shared User) : Prop := s.promised = true → s.connection.isOpen = true

/-- What the calls of `open` have seen and set is still so. -/
structure Relied (s : Shared User) : Prop where
  found : ∀ user, s.call user = .found → s.connection.isOpen = true
  marked : ∀ user, s.call user = .marked →
    s.connection.isOpen = true ∧ s.connection.persistent = true
  promised : s.promised = true → s.connection.isOpen = true ∧ s.connection.persistent = true

theorem Relied.new : Relied (Shared.new : Shared User) where
  found := by simp [Shared.new]
  marked := by simp [Shared.new]
  promised := by simp [Shared.new]

theorem Relied.lasting {s : Shared User} (relied : Relied s) : Lasting s :=
  fun promised => (relied.promised promised).1

/-- An open connection is entered without a change, and a closed one is relied on by nobody. -/
theorem Relied.enter {s : Shared User} (relied : Relied s) (opening : Opening)
    (blocks : User → Nat) :
    Relied { s with connection := s.connection.enter opening, blocks := blocks } where
  found user found := by
    have opened := relied.found user found
    simpa only [Connection.enter_open _ opening opened] using opened
  marked user marked := by
    have opened := relied.marked user marked
    simpa only [Connection.enter_open _ opening opened.1] using opened
  promised promised := by
    have opened := relied.promised promised
    simpa only [Connection.enter_open _ opening opened.1] using opened

variable [DecidableEq User]

namespace Shared

/-- The next statement of a call of `open`. -/
def proceed (s : Shared User) (user : User) : Shared User :=
  match s.call user with
  | .idle => s
  | .entered =>
      { s with
        call := Function.update s.call user (if s.connection.isOpen then .found else .idle) }
  | .found =>
      { s with
        connection := { s.connection with persistent := true }
        call := Function.update s.call user .marked }
  | .marked => { s with call := Function.update s.call user .idle, promised := true }

/-- An action that is not possible changes nothing. -/
def step (s : Shared User) : Action User → Shared User
  | .enter user =>
      if s.call user = .idle then
        { s with
          connection := s.connection.enter { accepted := true }
          blocks := Function.update s.blocks user (s.blocks user + 1) }
      else s
  | .leave user =>
      if s.CanLeave user then
        { s with
          connection := s.connection.exit
          blocks := Function.update s.blocks user (s.blocks user - 1) }
      else s
  | .openUp user =>
      if s.call user = .idle then
        { s with
          connection := s.connection.enter { accepted := true }
          call := Function.update s.call user .entered }
      else s
  | .proceed user => s.proceed user
  | .close user =>
      if s.call user = .idle then
        { s with connection := s.connection.close true, promised := false }
      else s

/-- If nothing comes between its statements, the call does what `Connection.openUp` does. -/
theorem openUp_alone (s : Shared User) (user : User) (idle : s.call user = .idle) :
    let after := run step s [.openUp user, .proceed user, .proceed user, .proceed user]
    let opened := s.connection.openUp { accepted := true }
    after.connection = opened.1 ∧ after.promised = (opened.2 || s.promised) ∧
      after.call user = .idle := by
  by_cases opened : (s.connection.enter { accepted := true }).isOpen = true
  · simp [run, step, proceed, Connection.openUp, idle, opened]
  · simp [run, step, proceed, Connection.openUp, idle, opened]

end Shared

/-- The action leaves a lasting connection, also once the calls of `open` go on. -/
def KeepsLasting (s : Shared User) (action : Action User) : Prop :=
  ∀ users, Lasting (run Shared.proceed (s.step action) users)

/-- While a call of `open` is between its `if` and its `return`, nothing closes the connection under
it: no `close`, and no end of a block before the connection is persistent. -/
def Undisturbed (s : Shared User) : Action User → Prop
  | .leave user =>
      s.CanLeave user → s.connection.persistent = false → ∀ other, s.call other ≠ .found
  | .close user =>
      s.call user = .idle → ∀ other, s.call other ≠ .found ∧ s.call other ≠ .marked
  | _ => True

/-- A call that is idle or has only entered relies on nothing. -/
theorem Relied.call {s : Shared User} (relied : Relied s) (user : User) (call : OpenCall)
    (unfound : call ≠ .found) (unmarked : call ≠ .marked) :
    Relied { s with call := Function.update s.call user call } where
  found other found := by
    rcases eq_or_ne other user with rfl | different
    · exact absurd ((Function.update_self other call s.call).symm.trans found) unfound
    · exact relied.found other ((Function.update_of_ne different call s.call).symm.trans found)
  marked other marked := by
    rcases eq_or_ne other user with rfl | different
    · exact absurd ((Function.update_self other call s.call).symm.trans marked) unmarked
    · exact relied.marked other ((Function.update_of_ne different call s.call).symm.trans marked)
  promised := relied.promised

/-- The statements of `open` keep what all calls rely on. -/
theorem Relied.proceed {s : Shared User} (relied : Relied s) (user : User) :
    Relied (s.proceed user) := by
  unfold Shared.proceed
  cases phase : s.call user with
  | idle => exact relied
  | entered =>
    by_cases opened : s.connection.isOpen = true
    · simp only [opened, if_true]
      constructor
      · exact fun _ _ => opened
      · intro other marked
        rcases eq_or_ne other user with rfl | different
        · simp at marked
        · exact relied.marked other (by simpa [different] using marked)
      · exact relied.promised
    · simp only [opened]
      exact relied.call user .idle (by decide) (by decide)
  | found =>
    have opened := relied.found user phase
    constructor
    · exact fun _ _ => opened
    · exact fun _ _ => ⟨opened, rfl⟩
    · exact fun _ => ⟨opened, rfl⟩
  | marked =>
    have idle := relied.call user .idle (by decide) (by decide)
    exact ⟨idle.found, idle.marked, fun _ => relied.marked user phase⟩

/-- The step: what the calls rely on is kept by every action that leaves them undisturbed. -/
theorem Relied.step {s : Shared User} (relied : Relied s) (action : Action User)
    (undisturbed : Undisturbed s action) : Relied (s.step action) := by
  cases action with
  | enter user =>
    simp only [Shared.step]
    split_ifs
    · exact relied.enter _ _
    · exact relied
  | leave user =>
    simp only [Shared.step]
    split_ifs with leaves
    · cases persistent : s.connection.persistent with
      | true =>
        have kept : s.connection.exit = s.connection := if_pos persistent
        rw [kept]
        exact ⟨relied.found, relied.marked, relied.promised⟩
      | false =>
        -- nobody relies on a connection that the end of a block may close
        constructor
        · exact fun other found => absurd found (undisturbed leaves persistent other)
        · intro other marked
          exact absurd ((relied.marked other marked).2.symm.trans persistent) (by decide)
        · intro promised
          exact absurd ((relied.promised promised).2.symm.trans persistent) (by decide)
    · exact relied
  | openUp user =>
    simp only [Shared.step]
    split_ifs
    · exact (relied.enter _ s.blocks).call user .entered (by decide) (by decide)
    · exact relied
  | proceed user => exact relied.proceed user
  | close user =>
    simp only [Shared.step]
    split_ifs with idle
    · constructor
      · exact fun other found => absurd found (undisturbed idle other).1
      · exact fun other marked => absurd marked (undisturbed idle other).2
      · exact fun promised => absurd promised Bool.false_ne_true
    · exact relied

/-- A call that is about to return `True` for a closed connection. -/
theorem marked_breaks (s : Shared User) (user : User) (marked : s.call user = .marked)
    (shut : s.connection.isOpen = false) : ¬Lasting (s.proceed user) := by
  simp [Lasting, Shared.proceed, marked, shut]

theorem found_breaks (s : Shared User) (user : User) (found : s.call user = .found)
    (shut : s.connection.isOpen = false) : ¬Lasting ((s.proceed user).proceed user) := by
  apply marked_breaks
  · simp [Shared.proceed, found]
  · simpa [Shared.proceed, found] using shut

/-- An action that disturbs a call of `open` lets it return `True` for a closed connection. -/
theorem disturbed_breaks (s : Shared User) (action : Action User)
    (keeps : KeepsLasting s action) : Undisturbed s action := by
  cases action with
  | enter user => trivial
  | leave user =>
    intro leaves persistent other found
    apply found_breaks (s.step (.leave user)) other _ _ (keeps [other, other])
    · simpa [Shared.step, leaves] using found
    · simp [Shared.step, leaves, persistent]
  | openUp user => trivial
  | proceed user => trivial
  | close user =>
    intro idle other
    have shut : (s.step (.close user)).connection.isOpen = false := by
      simp [Shared.step, idle, Connection.new]
    constructor
    · intro found
      apply found_breaks (s.step (.close user)) other _ shut (keeps [other, other])
      simpa [Shared.step, idle] using found
    · intro marked
      apply marked_breaks (s.step (.close user)) other _ shut (keeps [other])
      simpa [Shared.step, idle] using marked

/-- In every order of steps, a connection that `open` has returned `True` for stays open until the
next `close`, exactly if no call of `open` is disturbed between its `if` and its `return`. -/
theorem open_lasts_iff (actions : List (Action User)) :
    AllMeet Shared.step KeepsLasting .new actions ↔
      AllMeet Shared.step Undisturbed .new actions := by
  apply allMeet_iff Shared.step _ _ Relied
  · exact fun s action relied undisturbed => relied.step action undisturbed
  · intro s action relied
    constructor
    · exact disturbed_breaks s action
    · intro undisturbed users
      have after := relied.step action undisturbed
      exact (run_always Shared.proceed Relied (fun _ user held => held.proceed user)
        users _ after).lasting
  · exact .new

/-- A user leaves its block just before another user's `open` marks the connection persistent: `open`
returns `True` for a closed connection. -/
theorem block_closes_under_open :
    ¬∀ actions : List (Action Bool), Lasting (run Shared.step .new actions) := by
  intro all
  have lasting := all [.enter true, .openUp false, .proceed false, .leave true, .proceed false,
    .proceed false]
  exact absurd (lasting (by decide)) (by decide)

end SchunkFts.Library.PersistentOpen
