import Mathlib.Data.Finset.Card
import Mathlib.Order.Disjoint
import SchunkFts.Foundation.Run
import SchunkFts.Library.Streaming

/-! Users of one stream: who has entered its `with` block and found it open, who has entered although
the port could not be bound, and the count that decides when the socket is closed. -/

namespace SchunkFts.Library.StreamHolders
open SchunkFts.Foundation.Run DriverSettings Streaming

/-! ### What entering and leaving do to the count -/

@[simp] theorem leaveStream_openCount (driver : SensorDriver) :
    driver.leaveStream.openCount = driver.openCount - 1 := by
  unfold SensorDriver.leaveStream
  split_ifs with several
  · rfl
  · change 0 = driver.openCount - 1
    omega

@[simp] theorem leaveStream_port (driver : SensorDriver) :
    driver.leaveStream.port = driver.port := by
  unfold SensorDriver.leaveStream
  split_ifs <;> rfl

theorem leaveStream_isOpen (driver : SensorDriver) :
    driver.leaveStream.stream.isOpen = true ↔
      1 < driver.openCount ∧ driver.stream.isOpen = true := by
  unfold SensorDriver.leaveStream
  split_ifs with several
  · simp [several]
  · simp [several]

/-- A port that may be bound. -/
def ValidPort (port : Int) : Prop := 1024 ≤ port ∧ port ≤ 65535

theorem enterStream_opened (driver : SensorDriver) (bound : Bool) (valid : ValidPort driver.port)
    (opened : driver.stream.isOpen = true) :
    driver.enterStream bound = { driver with openCount := driver.openCount + 1 } := by
  unfold SensorDriver.enterStream ValidPort at *
  rw [if_neg (by omega), if_pos opened]

/-- Entering a closed stream binds a valid port, or changes nothing. -/
theorem enterStream_shut (driver : SensorDriver) (bound : Bool)
    (shut : driver.stream.isOpen = false) :
    driver.enterStream bound =
        { driver with stream := { driver.stream with isOpen := true }, openCount := 1 } ∧
        ValidPort driver.port ∨
      driver.enterStream bound = driver := by
  unfold SensorDriver.enterStream ValidPort
  by_cases invalid : driver.port < 1024 ∨ 65535 < driver.port
  · exact .inr (if_pos invalid)
  · cases bound with
    | false => simp [invalid, shut]
    | true =>
      left
      rw [if_neg invalid, if_neg (by simp [shut]), if_pos rfl]
      exact ⟨rfl, by omega⟩

/-! ### The users -/

/-- `holders` have entered and left the stream open, `failed` have entered in vain. -/
structure Shared (User : Type) where
  driver : SensorDriver
  holders : Finset User
  failed : Finset User

inductive Action (User : Type) where
  | enter (user : User) (bound : Bool)
  | leave (user : User)

variable {User : Type} [DecidableEq User]

namespace Shared

def leave (s : Shared User) (user : User) : Shared User :=
  if user ∈ s.holders ∪ s.failed then
    { driver := s.driver.leaveStream
      holders := s.holders.erase user
      failed := s.failed.erase user }
  else s

/-- A user enters and leaves in turn; what is out of turn changes nothing. -/
def step (s : Shared User) : Action User → Shared User
  | .enter user bound =>
      if user ∈ s.holders ∪ s.failed then s
      else
        let driver := s.driver.enterStream bound
        if driver.stream.isOpen then
          { s with driver := driver, holders := insert user s.holders }
        else { s with driver := driver, failed := insert user s.failed }
  | .leave user => s.leave user

end Shared

/-- The stream is open exactly while somebody holds it. -/
def Held (s : Shared User) : Prop := s.driver.stream.isOpen = true ↔ s.holders.Nonempty

/-- After the action the stream is held, and stays so while holders leave. -/
def KeepsHeld (s : Shared User) (action : Action User) : Prop :=
  ∀ users, (∀ user ∈ users, user ∈ (s.step action).holders) →
    Held (run Shared.leave (s.step action) users)

/-- Nobody whose own entry has failed leaves an open stream. -/
def FailedLeaveShut (s : Shared User) : Action User → Prop
  | .leave user => user ∈ s.failed → s.driver.stream.isOpen = false
  | .enter _ _ => True

/-- The count is the number of holders. -/
structure Counted (s : Shared User) : Prop where
  count : s.driver.openCount = s.holders.card
  held : Held s
  apart : Disjoint s.holders s.failed
  port : s.driver.stream.isOpen = true → ValidPort s.driver.port

theorem Counted.leave {s : Shared User} (counted : Counted s) (user : User)
    (holds : user ∈ s.failed → s.driver.stream.isOpen = false) : Counted (s.leave user) := by
  unfold Shared.leave
  split_ifs with inside
  · have apart : Disjoint (s.holders.erase user) (s.failed.erase user) :=
      (counted.apart.mono_left (Finset.erase_subset _ _)).mono_right (Finset.erase_subset _ _)
    have port (opened : s.driver.leaveStream.stream.isOpen = true) :
        ValidPort s.driver.leaveStream.port := by
      rw [leaveStream_port]
      exact counted.port ((leaveStream_isOpen _).mp opened).2
    have count : s.driver.leaveStream.openCount = (s.holders.erase user).card := by
      rw [leaveStream_openCount, counted.count]
      by_cases holder : user ∈ s.holders
      · exact (Finset.card_erase_of_mem holder).symm
      · -- a user that has failed leaves a stream that nobody holds
        have shut := holds ((Finset.mem_union.mp inside).resolve_left holder)
        have nobody : s.holders = ∅ := by
          apply Finset.not_nonempty_iff_eq_empty.mp
          intro some
          exact Bool.false_ne_true (shut.symm.trans (counted.held.mpr some))
        simp [nobody]
    refine ⟨count, ?_, apart, port⟩
    have several : 1 < s.driver.openCount ↔ (s.holders.erase user).Nonempty := by
      rw [← Finset.card_pos, ← count, leaveStream_openCount]
      omega
    have stillOpen : (s.holders.erase user).Nonempty → s.driver.stream.isOpen = true :=
      fun some => counted.held.mpr (some.mono (Finset.erase_subset _ _))
    change _ ↔ _
    rw [leaveStream_isOpen, several]
    exact and_iff_left_of_imp stillOpen
  · exact counted

/-- A user that comes in while the stream is open, or opens it, is one more holder. -/
theorem Counted.enter {s : Shared User} (counted : Counted s) (user : User) (bound : Bool) :
    Counted (s.step (.enter user bound)) := by
  simp only [Shared.step]
  split_ifs with inside after
  · exact counted
  · obtain ⟨fresh, unfailed⟩ := not_or.mp (mt Finset.mem_union.mpr inside)
    have apart : Disjoint (insert user s.holders) s.failed :=
      Finset.disjoint_insert_left.mpr ⟨unfailed, counted.apart⟩
    have oneMore : (insert user s.holders).card = s.holders.card + 1 :=
      Finset.card_insert_of_notMem fresh
    have held : Held ⟨s.driver.enterStream bound, insert user s.holders, s.failed⟩ :=
      iff_of_true after (Finset.insert_nonempty user s.holders)
    cases opened : s.driver.stream.isOpen with
    | true =>
      have entered := enterStream_opened s.driver bound (counted.port opened) opened
      refine ⟨?_, held, apart, ?_⟩
      · simp only [entered, counted.count, oneMore]
      · simpa only [entered] using counted.port
    | false =>
      have nobody : s.holders = ∅ := by
        apply Finset.not_nonempty_iff_eq_empty.mp
        intro some
        exact Bool.false_ne_true (opened.symm.trans (counted.held.mpr some))
      rcases enterStream_shut s.driver bound opened with ⟨entered, valid⟩ | unchanged
      · have first : (insert user s.holders).card = 1 := by
          rw [oneMore, nobody, Finset.card_empty]
        refine ⟨?_, held, apart, ?_⟩
        · simp only [entered, first]
        · intro _
          simpa only [entered] using valid
      · rw [unchanged, opened] at after
        exact absurd after Bool.false_ne_true
  · obtain ⟨fresh, _⟩ := not_or.mp (mt Finset.mem_union.mpr inside)
    have apart : Disjoint s.holders (insert user s.failed) :=
      Finset.disjoint_insert_right.mpr ⟨fresh, counted.apart⟩
    cases opened : s.driver.stream.isOpen with
    | true =>
      have entered := enterStream_opened s.driver bound (counted.port opened) opened
      rw [entered] at after
      exact absurd opened after
    | false =>
      rcases enterStream_shut s.driver bound opened with ⟨entered, _⟩ | unchanged
      · rw [entered] at after
        exact absurd rfl after
      · rw [unchanged]
        exact ⟨counted.count, counted.held, apart, counted.port⟩

theorem Counted.step {s : Shared User} (counted : Counted s) (action : Action User)
    (holds : FailedLeaveShut s action) : Counted (s.step action) := by
  cases action with
  | enter user bound => exact counted.enter user bound
  | leave user => exact counted.leave user holds

/-- Holders that leave one after another keep the count. -/
theorem Counted.leaves {s : Shared User} (counted : Counted s) (users : List User)
    (holders : ∀ user ∈ users, user ∉ s.failed) : Counted (run Shared.leave s users) := by
  induction users generalizing s with
  | nil => exact counted
  | cons user later ih =>
    have unfailed := holders user List.mem_cons_self
    apply ih (counted.leave user fun failed => absurd failed unfailed)
    intro other member
    have stays := holders other (List.mem_cons_of_mem user member)
    unfold Shared.leave
    split_ifs
    · exact fun failed => stays (Finset.mem_of_mem_erase failed)
    · exact stays

/-- If the count is short of the holders, the socket is closed under the last ones of them. -/
theorem short_breaks (count : Nat) (s : Shared User) (counts : s.driver.openCount = count)
    (short : count < s.holders.card) (positive : s.driver.stream.isOpen = true → 0 < count) :
    ∃ users, (∀ user ∈ users, user ∈ s.holders) ∧ ¬Held (run Shared.leave s users) := by
  have somebody : s.holders.Nonempty := Finset.card_pos.mp (Nat.zero_lt_of_lt short)
  induction count generalizing s with
  | zero =>
    refine ⟨[], by simp, fun held => ?_⟩
    exact absurd (positive (held.mpr somebody)) (lt_irrefl 0)
  | succ count ih =>
    obtain ⟨user, holder⟩ := somebody
    have left : s.leave user = ⟨s.driver.leaveStream, s.holders.erase user, s.failed.erase user⟩ :=
      if_pos (Finset.mem_union_left _ holder)
    have fewer : count < (s.leave user).holders.card := by
      rw [left]
      dsimp only
      rw [Finset.card_erase_of_mem holder]
      omega
    have counts' : (s.leave user).driver.openCount = count := by
      rw [left]
      dsimp only
      rw [leaveStream_openCount, counts]
      rfl
    have positive' (opened : (s.leave user).driver.stream.isOpen = true) : 0 < count := by
      rw [left] at opened
      have several := ((leaveStream_isOpen _).mp opened).1
      omega
    have somebody' := Finset.card_pos.mp (Nat.zero_lt_of_lt fewer)
    obtain ⟨users, members, breaks⟩ := ih (s.leave user) counts' fewer positive' somebody'
    refine ⟨user :: users, ?_, breaks⟩
    intro other member
    rcases List.mem_cons.mp member with rfl | later
    · exact holder
    · have still := members other later
      rw [left] at still
      exact Finset.mem_of_mem_erase still

/-- A failed user that leaves an open stream makes the count too short. -/
theorem failed_leave_breaks {s : Shared User} (counted : Counted s) (user : User)
    (failed : user ∈ s.failed) (opened : s.driver.stream.isOpen = true) :
    ¬KeepsHeld s (.leave user) := by
  intro keeps
  have outside : user ∉ s.holders := Finset.disjoint_right.mp counted.apart failed
  have left : s.leave user = ⟨s.driver.leaveStream, s.holders, s.failed.erase user⟩ := by
    unfold Shared.leave
    rw [if_pos (Finset.mem_union_right _ failed), Finset.erase_eq_of_notMem outside]
  have somebody := Finset.card_pos.mpr (counted.held.mp opened)
  have counts : (s.leave user).driver.openCount = s.holders.card - 1 := by
    rw [left]
    dsimp only
    rw [leaveStream_openCount, counted.count]
  have short : s.holders.card - 1 < (s.leave user).holders.card := by
    rw [left]
    dsimp only
    omega
  have positive (after : (s.leave user).driver.stream.isOpen = true) :
      0 < s.holders.card - 1 := by
    rw [left] at after
    have several := ((leaveStream_isOpen _).mp after).1
    rw [counted.count] at several
    omega
  obtain ⟨users, members, breaks⟩ := short_breaks _ _ counts short positive
  exact breaks (keeps users members)

/-- The step: the stream stays held exactly if no failed user leaves it open. -/
theorem keepsHeld_iff {s : Shared User} (counted : Counted s) (action : Action User) :
    KeepsHeld s action ↔ FailedLeaveShut s action := by
  constructor
  · intro keeps
    cases action with
    | enter user bound => trivial
    | leave user =>
      intro failed
      apply Bool.eq_false_iff.mpr
      intro opened
      exact failed_leave_breaks counted user failed opened keeps
  · intro holds users members
    have after := counted.step action holds
    have unfailed : ∀ user ∈ users, user ∉ (s.step action).failed := fun user member =>
      Finset.disjoint_left.mp after.apart (members user member)
    exact (after.leaves users unfailed).held

def start (driver : SensorDriver) : Shared User := ⟨driver, ∅, ∅⟩

/-- However users enter and leave, and whichever binds fail, the stream is open exactly while one of
its holders is inside, if and only if no user whose own entry has failed leaves while it is open. -/
theorem held_iff (streamingPort : Int) (sourceIp : Option String) (outputRate : OutputRate)
    (now : Int) (actions : List (Action User)) :
    AllMeet Shared.step KeepsHeld (start (.new streamingPort sourceIp outputRate now)) actions ↔
      AllMeet Shared.step FailedLeaveShut (start (.new streamingPort sourceIp outputRate now))
        actions := by
  apply allMeet_iff Shared.step _ _ Counted
  · exact fun s action counted holds => counted.step action holds
  · exact fun s action counted => keepsHeld_iff counted action
  · constructor
    · rfl
    · exact iff_of_false Bool.false_ne_true Finset.not_nonempty_empty
    · exact Finset.disjoint_empty_left ∅
    · exact fun opened => absurd opened Bool.false_ne_true

/-- A user whose bind has failed leaves, and closes the socket of the user that holds the stream. -/
theorem failed_user_closes :
    ¬∀ actions : List (Action Bool),
      Held (run Shared.step (start (.new 54843 none .hz1000 0)) actions) := by
  intro all
  have held := all [.enter true false, .enter false true, .leave true]
  exact absurd (held.mpr (by decide)) (by decide)

end SchunkFts.Library.StreamHolders
