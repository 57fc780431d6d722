import SchunkFts.Foundation.Fair
import SchunkFts.Library.SingleLoop

/-! A call of `streaming_off`, from any state of the driver: whether it returns, and what it has
stopped then. Everything after the stop command goes right; the command itself raises when its reply
cannot be decoded, and a reply that does not come is an empty one. -/

namespace SchunkFts.Library.StreamingOff
open SchunkFts.Foundation.Struct SchunkFts.Foundation.Fair
open Messages Requests ControlCalls Streaming LoopSteps SingleLoop

/-- Nothing is left of the streaming. -/
structure Stopped (s : System) : Prop where
  streaming : s.driver.isStreaming = false
  reconnects : s.driver.autoReconnect = false
  thread : s.threadAlive = false
  closed : s.driver.channel.connection.isOpen = false
  single : s.driver.channel.connection.persistent = false

/-- The caller and every loop are scheduled again and again. -/
structure Fair (s : System) (schedule : Nat → Action) : Prop where
  main : ∀ n, ∃ m, n ≤ m ∧ ∃ input, schedule m = .main input
  loops : ∀ index, index < s.loops.length → ∀ n, ∃ m, n ≤ m ∧ ∃ input, schedule m = .loop index input

/-- The call returns, and everything has stopped then. -/
def Returns (s : System) (schedule : Nat → Action) : Prop :=
  ∃ n, (trace System.step s schedule n).call = .returnedOff ∧
    Stopped (trace System.step s schedule n) ∧
    ∀ m, m < n → (trace System.step s schedule m).call.inProgress = true

/-! ### After the flags are cleared -/

/-- Both flags are off, and the loops are those there were when the call began. -/
structure Off (count : Nat) (s : System) : Prop where
  streaming : s.driver.isStreaming = false
  reconnects : s.driver.autoReconnect = false
  length : s.loops.length = count

/-- How many steps a loop still takes when the flags are off. -/
def remaining : LoopPhase → Nat
  | .entering => 2
  | .waiting => 1
  | .putting _ rest => rest.length + 2
  | .sleeping => 5
  | .reopening => 4
  | .restarting => 3
  | .stabilizing => 2
  | .finished => 0

/-- The steps of the last loop. -/
def left (s : System) : Nat :=
  match s.loops[s.loops.length - 1]? with
  | some loop => remaining loop.phase
  | none => 0

theorem remaining_afterPut (rest : List Bytes) : remaining (afterPut rest) = rest.length + 1 := by
  cases rest <;> rfl

theorem remaining_loopStep (driver : SensorDriver) (loop : Loop) (input : LoopInput)
    (streaming : driver.isStreaming = false) (reconnects : driver.autoReconnect = false)
    (alive : loop.isAlive = true) :
    remaining (loopStep driver loop input).2.phase < remaining loop.phase := by
  have off : ¬(driver.isStreaming = true ∨ driver.autoReconnect = true) := by
    simp [streaming, reconnects]
  cases loopStep_moves driver loop input with
  | enter here same phase lost => rw [here, phase]; decide
  | read packet rest here on packets same phase lost => exact absurd on off
  | wait here on same still => exact absurd on off
  | lose here before on closed phase lost => exact absurd (.inl on) off
  | miss here before on same phase lost => exact absurd on off
  | finish here streamingOff same phase lost => rw [here, phase]; decide
  | put packet rest here same phase lost =>
    rw [here, phase, remaining_afterPut, remaining]
    exact Nat.lt_succ_self _
  | close here closed phase lost => rw [here, phase]; decide
  | reopen opening here opened phase lost =>
    rw [here, phase]
    split_ifs <;> decide
  | restart attempt channel reconnected here settled restarted phase lost =>
    rw [here, phase]
    split_ifs <;> decide
  | restore here same phase lost => rw [here, phase]; decide
  | rest here same still => simp [Loop.isAlive, here] at alive

theorem Off.keep {count : Nat} {s after : System} (off : Off count s)
    (same : control after.driver = control s.driver) (loops : after.loops = s.loops) :
    Off count after where
  streaming := (congrArg Control.isStreaming same).trans off.streaming
  reconnects := (congrArg Control.autoReconnect same).trans off.reconnects
  length := loops ▸ off.length

theorem Off.loop {count : Nat} {s : System} (off : Off count s) (index : Nat)
    (input : LoopInput) : Off count (s.stepLoop index input) := by
  refine ⟨?_, ?_, (stepLoop_length s index input).trans off.length⟩
  · unfold System.stepLoop
    split
    next loop _ =>
      rcases (loopStep_flags s.driver loop input).2 with same | ⟨turned, _⟩
      · exact same.trans off.streaming
      · exact turned
    next => exact off.streaming
  · unfold System.stepLoop
    split
    next loop _ => exact (loopStep_flags s.driver loop input).1.trans off.reconnects
    next => exact off.reconnects

/-- What goes on while the caller waits: its phase stays, and no loop starts again. -/
theorem Off.other {count : Nat} {s : System} (off : Off count s) (action : Action)
    (busy : s.call.inProgress = true) (other : ∀ input, action ≠ .main input) :
    (s.step action).call = s.call ∧ Off count (s.step action) ∧
      ∀ index, Runs (s.step action) index → Runs s index := by
  cases action with
  | streamingOn floatTimeout autoReconnect =>
    rw [System.step, if_pos busy]
    exact ⟨rfl, off, fun _ => id⟩
  | streamingOff =>
    rw [System.step, if_pos busy]
    exact ⟨rfl, off, fun _ => id⟩
  | main input => exact absurd rfl (other input)
  | loop index input => exact ⟨stepLoop_call s index input, off.loop index input, runs_stepLoop s index input⟩
  | arrive datagram => exact ⟨rfl, off.keep (arrive_control s.driver datagram) rfl, fun _ => id⟩
  | command command outcome => exact ⟨rfl, ⟨off.streaming, off.reconnects, off.length⟩, fun _ => id⟩
  | sample now => exact ⟨rfl, off.keep (sample_control s.driver now) rfl, fun _ => id⟩
  | sampleBatch now => exact ⟨rfl, off.keep (sampleBatch_control s.driver now) rfl, fun _ => id⟩
  | clearSamples now => exact ⟨rfl, off.keep rfl rfl, fun _ => id⟩

/-- A step of a loop does not lengthen the wait for the last one; its own step shortens it. -/
theorem left_stepLoop {count : Nat} {s : System} (off : Off count s) (index : Nat)
    (input : LoopInput) :
    left (s.stepLoop index input) ≤ left s ∧
      (index = s.loops.length - 1 → s.threadAlive = true →
        left (s.stepLoop index input) < left s) := by
  have fewer (loop : Loop) (alive : loop.isAlive = true) :=
    remaining_loopStep s.driver loop input off.streaming off.reconnects alive
  unfold System.stepLoop
  split
  next loop here =>
    have inside := (List.getElem?_eq_some_iff.mp here).1
    simp only [left, List.length_set, List.getElem?_set]
    by_cases last : index = s.loops.length - 1
    · rw [if_pos last, if_pos inside, ← last, here]
      by_cases alive : loop.isAlive = true
      · exact ⟨Nat.le_of_lt (fewer loop alive), fun _ _ => fewer loop alive⟩
      · have stopped : loop.phase = .finished := by
          simpa only [Loop.isAlive, decide_eq_true_eq, not_not] using alive
        have same : (loopStep s.driver loop input).2 = loop := by rw [loopStep, stopped]
        refine ⟨Nat.le_of_eq (by rw [same]), fun _ running => ?_⟩
        obtain ⟨other, there, otherAlive⟩ := (threadAlive_iff s).mp running
        rw [← last, here] at there
        cases there
        exact absurd otherAlive alive
    · rw [if_neg last]
      exact ⟨Nat.le_refl _, fun wrong => absurd wrong last⟩
  next none =>
    refine ⟨Nat.le_refl _, fun last running => ?_⟩
    obtain ⟨other, there, _⟩ := (threadAlive_iff s).mp running
    rw [← last, none] at there
    cases there

theorem left_other {count : Nat} {s : System} (off : Off count s) (action : Action)
    (busy : s.call.inProgress = true) (other : ∀ input, action ≠ .main input) :
    left (s.step action) ≤ left s := by
  cases action with
  | loop index input => exact (left_stepLoop off index input).1
  | main input => exact absurd rfl (other input)
  | streamingOn floatTimeout autoReconnect =>
    rw [System.step, if_pos busy]
  | streamingOff => rw [System.step, if_pos busy]
  | _ => exact Nat.le_refl _

/-! ### The stages of the call -/

def Clearing (count : Nat) (s : System) : Prop := s.call = .clearing ∧ s.loops.length = count

def Joining (count : Nat) (s : System) : Prop := s.call = .joining ∧ Off count s

def Leaving (count : Nat) (s : System) : Prop :=
  (s.call = .joining ∨ s.call = .closing) ∧ Off count s ∧ s.threadAlive = false

def Done (s : System) : Prop := s.call = .returnedOff ∧ Stopped s

/-- While a call is in progress, only its own phases move it on. -/
theorem other_call (s : System) (action : Action) (busy : s.call.inProgress = true)
    (other : ∀ input, action ≠ .main input) :
    (s.step action).call = s.call ∧ (s.step action).loops.length = s.loops.length := by
  cases action with
  | streamingOn floatTimeout autoReconnect =>
    rw [System.step, if_pos busy]
    exact ⟨rfl, rfl⟩
  | streamingOff =>
    rw [System.step, if_pos busy]
    exact ⟨rfl, rfl⟩
  | main input => exact absurd rfl (other input)
  | loop index input => exact ⟨stepLoop_call s index input, stepLoop_length s index input⟩
  | _ => exact ⟨rfl, rfl⟩

theorem not_threadAlive {s after : System} (length : after.loops.length = s.loops.length)
    (fewer : ∀ index, Runs after index → Runs s index) (stopped : s.threadAlive = false) :
    after.threadAlive = false := by
  rw [Bool.eq_false_iff, ne_eq, threadAlive_iff, length]
  intro runs
  have alive := (threadAlive_iff s).mpr (fewer _ runs)
  rw [stopped] at alive
  cases alive

section Schedule
variable (s : System) (schedule : Nat → Action) (count : Nat)

/-- The caller's own steps recur. -/
def OwnStep (action : Action) : Prop := ∃ input, action = .main input

theorem clears (fair : ∀ n, ∃ m, n ≤ m ∧ OwnStep (schedule m)) (start : Nat)
    (clearing : Clearing count (trace System.step s schedule start)) :
    Reaches (trace System.step s schedule) (Clearing count) (Joining count) start := by
  have own (t : System) (input : MainInput) (holds : Clearing count t) :
      Joining count (t.step (.main input)) := by
    simp only [System.step, System.mainStep, holds.1]
    exact ⟨rfl, rfl, rfl, holds.2⟩
  refine fair_reaches System.step s schedule _ _ (fun _ => 0) OwnStep fair ?_ ?_ start clearing
  · intro t action holds
    by_cases mine : OwnStep action
    · obtain ⟨input, rfl⟩ := mine
      exact .inl (own t input holds)
    · have busy : t.call.inProgress = true := by rw [holds.1]; rfl
      obtain ⟨call, length⟩ := other_call t action busy (fun input same => mine ⟨input, same⟩)
      exact .inr ⟨⟨call.trans holds.1, length.trans holds.2⟩, Nat.le_refl _⟩
  · rintro t action holds ⟨input, rfl⟩
    exact .inl (own t input holds)

/-- The thread that `join` waits for comes to its end. -/
theorem joins (fair : ∀ n, ∃ m, n ≤ m ∧ ∃ input, schedule m = .loop (count - 1) input) (start : Nat)
    (joining : Joining count (trace System.step s schedule start))
    (alive : (trace System.step s schedule start).threadAlive = true) :
    Reaches (trace System.step s schedule) (Joining count) (Leaving count) start := by
  have stays (t : System) (action : Action) (holds : Joining count t) (running : t.threadAlive = true) :
      Joining count (t.step action) ∧ left (t.step action) ≤ left t := by
    have busy : t.call.inProgress = true := by rw [holds.1]; rfl
    by_cases mine : OwnStep action
    · obtain ⟨input, rfl⟩ := mine
      have same : t.step (.main input) = t := by
        simp only [System.step, System.mainStep, holds.1, running, if_true]
      rw [same]
      exact ⟨holds, Nat.le_refl _⟩
    · have other : ∀ input, action ≠ .main input := fun input same => mine ⟨input, same⟩
      obtain ⟨call, off, _⟩ := holds.2.other action busy other
      exact ⟨⟨call.trans holds.1, off⟩, left_other holds.2 action busy other⟩
  have settle (t : System) (holds : Joining count t) :
      Leaving count t ∨ (Joining count t ∧ t.threadAlive = true) := by
    cases running : t.threadAlive with
    | false => exact .inl ⟨.inl holds.1, holds.2, running⟩
    | true => exact .inr ⟨holds, rfl⟩
  have reached := fair_reaches System.step s schedule
    (fun t => Joining count t ∧ t.threadAlive = true) (Leaving count) left
    (fun action => ∃ input, action = .loop (count - 1) input) fair
    (fun t action holds => by
      obtain ⟨next, fewer⟩ := stays t action holds.1 holds.2
      exact (settle _ next).imp_right (fun both => ⟨both, fewer⟩))
    (fun t action holds helpful => by
      obtain ⟨input, rfl⟩ := helpful
      have last : count - 1 = t.loops.length - 1 := by rw [holds.1.2.length]
      exact .inr ((left_stepLoop holds.1.2 (count - 1) input).2 last holds.2))
    start ⟨joining, alive⟩
  obtain ⟨finish, later, goal, before⟩ := reached
  exact ⟨finish, later, goal, fun n low high => (before n low high).1⟩

theorem leaves (fair : ∀ n, ∃ m, n ≤ m ∧ OwnStep (schedule m)) (start : Nat)
    (leaving : Leaving count (trace System.step s schedule start)) :
    Reaches (trace System.step s schedule) (Leaving count) Done start := by
  have own (t : System) (input : MainInput) (holds : Leaving count t) :
      Done (t.step (.main input)) ∨
        (t.call = .joining ∧ Leaving count (t.step (.main input)) ∧
          (t.step (.main input)).call = .closing) := by
    obtain ⟨phase, off, stopped⟩ := holds
    rcases phase with joining | closing
    · have next : t.step (.main input) = { t with call := .closing } := by
        simp [System.step, System.mainStep, joining, stopped]
      rw [next]
      exact .inr ⟨joining, ⟨.inr rfl, off.keep rfl rfl, stopped⟩, rfl⟩
    · have next : t.step (.main input) =
          { t with
            driver := { t.driver with channel := t.driver.channel.close }, call := .returnedOff } := by
        simp only [System.step, System.mainStep, closing]
      rw [next]
      refine .inl ⟨rfl, off.streaming, off.reconnects, stopped, ?_, ?_⟩
      · exact congrArg Control.Connection.isOpen t.driver.channel.close_connection
      · exact congrArg Control.Connection.persistent t.driver.channel.close_connection
  refine fair_reaches System.step s schedule _ _ (fun t => if t.call = .joining then 1 else 0) OwnStep
    fair ?_ ?_ start leaving
  · intro t action holds
    by_cases mine : OwnStep action
    · obtain ⟨input, rfl⟩ := mine
      refine (own t input holds).imp_right ?_
      rintro ⟨joining, next, closing⟩
      simp [next, closing]
    · have busy : t.call.inProgress = true := by
        rcases holds.1 with joining | closing
        · rw [joining]; rfl
        · rw [closing]; rfl
      have other : ∀ input, action ≠ .main input := fun input same => mine ⟨input, same⟩
      obtain ⟨call, off, fewer⟩ := holds.2.1.other action busy other
      refine .inr ⟨⟨call.symm ▸ holds.1, off, ?_⟩, by rw [call]⟩
      exact not_threadAlive (off.length.trans holds.2.1.length.symm) fewer holds.2.2
  · rintro t action holds ⟨input, rfl⟩
    refine (own t input holds).imp_right ?_
    rintro ⟨joining, next, closing⟩
    simp [joining, closing]

end Schedule

theorem Joining.busy {count : Nat} {s : System} (joining : Joining count s) :
    s.call.inProgress = true := by
  rw [joining.1]
  rfl

theorem Leaving.busy {count : Nat} {s : System} (leaving : Leaving count s) :
    s.call.inProgress = true := by
  rcases leaving.1 with joining | closing
  · rw [joining]
    rfl
  · rw [closing]
    rfl

/-- With the flags off the rest of the call comes to its end. -/
theorem finishes (s : System) (schedule : Nat → Action) (fair : Fair s schedule) (start : Nat)
    (joining : Joining s.loops.length (trace System.step s schedule start)) :
    Reaches (trace System.step s schedule) (fun t => t.call.inProgress = true) Done start := by
  cases alive : (trace System.step s schedule start).threadAlive with
  | false =>
    obtain ⟨finish, later, done, before⟩ :=
      leaves s schedule s.loops.length fair.main start ⟨.inl joining.1, joining.2, alive⟩
    exact ⟨finish, later, done, fun n low high => (before n low high).busy⟩
  | true =>
    obtain ⟨loop, there, _⟩ := (threadAlive_iff _).mp alive
    have inside := (List.getElem?_eq_some_iff.mp there).1
    rw [joining.2.length] at inside
    have joined := joins s schedule s.loops.length (fair.loops _ inside) start joining alive
    exact joined.trans _ (fun _ => Joining.busy) (fun _ => Leaving.busy)
      (fun middle leaving => leaves s schedule s.loops.length fair.main middle leaving)

/-! ### The stop command -/

/-- The command is not sent at all, or its reply has a header. -/
def Answered (channel : Channel) (outcome : Outcome) : Prop :=
  channel.connection.isOpen = false ∨
    ∃ reply, outcome.received = some reply ∧ 6 ≤ reply.length

theorem stopUdpStream_iff (channel : Channel) (outcome : Outcome) :
    (∃ response, (channel.stopUdpStream outcome).2 = .ok response) ↔ Answered channel outcome := by
  have frame : commandFrame "41" = .ok [0xff, 0xff, 0, 0, 1, 0, 0x41] := by decide
  rw [Channel.stopUdpStream, Channel.runCommand, frame, Answered]
  cases opened : channel.connection.isOpen with
  | false =>
    rw [channel.commandCall_closed outcome _ opened]
    exact iff_of_true ⟨_, rfl⟩ (.inl rfl)
  | true =>
    rw [channel.commandCall_open outcome _ opened]
    constructor
    · rintro ⟨response, decoded⟩
      right
      cases received : outcome.received with
      | none =>
        rw [received] at decoded
        cases decoded
      | some reply =>
        rw [received] at decoded
        refine ⟨reply, rfl, ?_⟩
        by_contra short
        cases (commandResponse_of_lt reply (not_le.mp short)).symm.trans decoded
    · rintro (wrong | ⟨reply, received, long⟩)
      · cases wrong
      · obtain ⟨response, decoded, _⟩ := commandResponse_of_le reply long
        rw [received]
        exact ⟨response, decoded⟩

/-- From any state of the driver, under any fair schedule: the call returns with everything stopped
exactly if the stop command is answered with a header or not sent. -/
theorem streamingOff_stops_iff (s : System) (schedule : Nat → Action) (input : MainInput)
    (called : s.call = .stopping) (first : schedule 0 = .main input) (fair : Fair s schedule) :
    Returns s schedule ↔ Answered s.driver.channel input.outcome := by
  have next : trace System.step s schedule 1 = s.mainStep input := by
    rw [trace, trace, first]
    rfl
  rw [← stopUdpStream_iff]
  rcases stopped : s.driver.channel.stopUdpStream input.outcome with ⟨channel, error | response⟩
  · have raised : (trace System.step s schedule 1).call = .raisedOff error := by
      rw [next]
      simp only [System.mainStep, called, stopped]
    constructor
    · rintro ⟨n, returned, _, busy⟩
      rcases n with _ | _ | n
      · simp [trace, called] at returned
      · simp [raised] at returned
      · have wrong := busy 1 (by omega)
        simp [raised, CallPhase.inProgress] at wrong
    · rintro ⟨response, wrong⟩
      cases wrong
  · refine iff_of_true ?_ ⟨response, rfl⟩
    have clearing : Clearing s.loops.length (trace System.step s schedule 1) := by
      rw [next]
      simp only [System.mainStep, called, stopped]
      exact ⟨rfl, rfl⟩
    obtain ⟨cleared, _, joining, beforeJoin⟩ :=
      clears s schedule s.loops.length fair.main 1 clearing
    obtain ⟨finish, _, done, between⟩ := finishes s schedule fair cleared joining
    refine ⟨finish, done.1, done.2, ?_⟩
    intro m early
    rcases Nat.eq_zero_or_pos m with rfl | begun
    · rw [trace, called]
      rfl
    · by_cases before : m < cleared
      · rw [(beforeJoin m begun before).1]
        rfl
      · exact between m (not_lt.mp before) early

/-- A driver that streams, with its loop at the condition. -/
def streaming : System :=
  { System.new 54843 none .hz1000 0 with
    driver := { SensorDriver.new 54843 none .hz1000 0 with
      isStreaming := true, autoReconnect := true
      channel := { Channel.new with connection := ⟨.connected, true, true⟩ } }
    loops := [⟨.waiting, 0, false⟩]
    call := .stopping }

/-- The caller and the loop in turn; the stop command meets this outcome. -/
def inTurn (outcome : Outcome) (n : Nat) : Action :=
  if n % 2 = 0 then .main { outcome := outcome } else .loop 0 { now := 0 }

theorem inTurn_fair (outcome : Outcome) : Fair streaming (inTurn outcome) where
  main n := ⟨2 * n, by omega, { outcome := outcome }, by simp [inTurn]⟩
  loops index inside n := by
    have first : index = 0 := by simpa [streaming] using inside
    exact ⟨2 * n + 1, by omega, { now := 0 }, by simp [inTurn, first, Nat.add_mod]⟩

theorem acknowledged_stop_returns :
    Returns streaming (inTurn { received := some [0xff, 0xff, 0, 0, 2, 0, 0x41, 0] }) ↔
      Answered streaming.driver.channel { received := some [0xff, 0xff, 0, 0, 2, 0, 0x41, 0] } :=
  streamingOff_stops_iff streaming _ { outcome := { received := some [0xff, 0xff, 0, 0, 2, 0, 0x41, 0] } }
    rfl rfl (inTurn_fair _)

/-- No reply comes in time: the call raises, and the driver goes on streaming. -/
theorem unanswered_stop_raises :
    ((streaming.step (inTurn { received := none } 0)).call = .raisedOff .structError ∧
      (streaming.step (inTurn { received := none } 0)).driver.isStreaming = true ∧
      (streaming.step (inTurn { received := none } 0)).threadAlive = true) ∧
    ¬∀ s schedule, s.call = .stopping → (∃ input, schedule 0 = .main input) → Fair s schedule →
      Returns s schedule := by
  refine ⟨by decide, fun all => ?_⟩
  obtain ⟨n, returned, _, busy⟩ :=
    all streaming (inTurn { received := none }) rfl ⟨_, rfl⟩ (inTurn_fair _)
  have raised : (trace System.step streaming (inTurn { received := none }) 1).call =
      .raisedOff .structError := by decide
  rcases n with _ | _ | n
  · cases returned
  · simp [raised] at returned
  · have wrong := busy 1 (by omega)
    rw [raised] at wrong
    cases wrong

end SchunkFts.Library.StreamingOff
