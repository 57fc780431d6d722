import SchunkFts.Library.LoopSteps

/-! What `is_open` says of the socket, over whole runs of the driver. It tells the truth as long as no
request of a call goes without its reply; an attempt to reconnect closes what it has opened and cannot
use. -/

namespace SchunkFts.Library.OpenSocket
open SchunkFts.Foundation.Struct SchunkFts.Foundation.Run
open Control ControlCalls Reconnect Streaming LoopSteps

/-- The call's `recv` brings a reply, or the end of the stream. -/
def Replied (outcome : Outcome) : Prop := outcome.received ≠ none

section
variable {channel : Channel} (consistent : Consistent channel.connection)

include consistent

theorem openUp_consistent (opening : Opening) :
    Consistent (channel.openUp opening).1.connection :=
  (consistent_step_iff channel.connection (.openUp opening) consistent).mpr trivial

theorem parameterCall_consistent {α : Type} (outcome : Outcome) (replied : Replied outcome)
    (frame : Result Bytes) (fromBytes : Bytes → Result α) (empty : α) :
    Consistent (channel.parameterCall outcome frame fromBytes empty).1.connection := by
  have exits {c : Connection} (before : Consistent c) : Consistent c.exit :=
    (consistent_step_iff c .exit before).mpr trivial
  have entered : Consistent (channel.connection.enter outcome.opening) :=
    (consistent_step_iff channel.connection (.enter outcome.opening) consistent).mpr trivial
  cases frame with
  | error error => exact consistent
  | ok msg =>
    rw [channel.parameterCall_ok]
    split_ifs
    · obtain ⟨data, received⟩ := Option.ne_none_iff_exists'.mp replied
      rw [received]
      exact exits ((consistent_step_iff _ (.receive (some data)) entered).mpr trivial)
    · exact exits entered

theorem commandCall_consistent (outcome : Outcome) (replied : Replied outcome)
    (frame : Result Bytes) : Consistent (channel.commandCall outcome frame).1.connection := by
  cases frame with
  | error error => exact consistent
  | ok msg =>
    obtain ⟨data, received⟩ := Option.ne_none_iff_exists'.mp replied
    have after : Consistent (channel.connection.receive (some data)).1 :=
      (consistent_step_iff channel.connection (.receive (some data)) consistent).mpr trivial
    rw [← received] at after
    exact after

theorem getParameter_consistent (outcome : Outcome) (replied : Replied outcome)
    (index subindex : String) :
    Consistent (channel.getParameter outcome index subindex).1.connection :=
  @parameterCall_consistent { channel with locked := true } consistent _ outcome replied _ _ _

theorem configureOutputRate_consistent (outcome : Outcome) (replied : Replied outcome)
    (parameterValue : String) :
    Consistent (channel.configureOutputRate outcome parameterValue).1.connection :=
  parameterCall_consistent consistent outcome replied _ _ _

theorem perform_consistent (outcome : Outcome) (replied : Replied outcome) (command : Command) :
    Consistent (command.perform channel outcome).connection := by
  cases command with
  | getParameter index subindex =>
    exact getParameter_consistent consistent outcome replied index subindex
  | setParameter value index subindex =>
    exact parameterCall_consistent consistent outcome replied _ _ _
  | runCommand command => exact commandCall_consistent consistent outcome replied _
  | selectToolSetting toolIndex =>
    simp only [Command.perform, Channel.select]
    split_ifs
    · exact commandCall_consistent consistent outcome replied _
    · exact consistent
  | selectNoiseFilter filterNumber =>
    simp only [Command.perform, Channel.select]
    split_ifs
    · exact commandCall_consistent consistent outcome replied _
    · exact consistent

theorem startUdpStream_consistent (outcome : Outcome) (replied : Replied outcome) :
    Consistent (channel.startUdpStream outcome).1.connection :=
  commandCall_consistent consistent outcome replied _

theorem startStreaming_consistent (parameterValue : String) (attempt : Attempt)
    (configured : Replied attempt.configuring) (started : Replied attempt.starting) :
    Consistent (startStreaming channel parameterValue attempt).1.connection := by
  have first := configureOutputRate_consistent consistent attempt.configuring configured parameterValue
  unfold startStreaming
  rcases rate : channel.configureOutputRate attempt.configuring parameterValue with
    ⟨after, error | (_ | _)⟩
  · rw [rate] at first
    exact first
  · rw [after.close_connection]
    exact Consistent.new
  · rw [rate] at first
    have second := startUdpStream_consistent first attempt.starting started
    rcases start : after.startUdpStream attempt.starting with ⟨last, error | response⟩
    · rw [start] at second
      simpa only [start] using second
    · rw [start] at second
      simp only [start]
      split_ifs
      · rw [last.close_connection]
        exact Consistent.new
      · rw [last.close_connection]
        exact Consistent.new
      · exact second

/-- The part of an attempt under the lock succeeds with two replies only, and closes otherwise. -/
theorem restart_consistent (parameterValue : String) (attempt : Attempt) :
    Consistent (restart channel parameterValue attempt).1.connection := by
  obtain ⟨after, started, ended, settled⟩ := restart_settles channel parameterValue attempt
  cases started with
  | false =>
    rw [ended, settled.failure rfl]
    exact Consistent.new
  | true =>
    have replied {outcome : Outcome} (acknowledged : Acknowledged outcome) : Replied outcome := by
      obtain ⟨reply, received, _⟩ := acknowledged
      rw [Replied, received]
      exact Option.some_ne_none reply
    have success := settled.success rfl
    have locked := @startStreaming_consistent { channel with locked := true } consistent
      parameterValue attempt (replied success.configured) (replied success.started)
    rcases result : startStreaming { channel with locked := true } parameterValue attempt with
      ⟨last, error | other⟩
    · simp only [restart, Channel.withLock, result]
      rw [Channel.close_connection]
      exact Consistent.new
    · rw [result] at locked
      simp only [restart, Channel.withLock, result]
      exact locked

end

/-! ### Whole runs -/

/-- The phases of a call that receive. -/
def Receives : CallPhase → Prop
  | .readingName => True
  | .readingId => True
  | .configuring => True
  | .startingStream => True
  | .stopping => True
  | _ => False

def Meets (s : System) : Action → Prop
  | .main input => Receives s.call → Replied input.outcome
  | .command _ outcome => Replied outcome
  | _ => True

/-- A step that leaves the control channel as it is. -/
theorem consistent_same {driver after : SensorDriver}
    (consistent : Consistent driver.channel.connection) (same : control after = control driver) :
    Consistent after.channel.connection := by
  rw [(Control.mk.inj same).2.2]
  exact consistent

theorem loopStep_consistent (driver : SensorDriver) (loop : Loop) (input : LoopInput)
    (consistent : Consistent driver.channel.connection) :
    Consistent (loopStep driver loop input).1.channel.connection := by
  have closed : Consistent driver.channel.close.connection := by
    rw [driver.channel.close_connection]
    exact Consistent.new
  unfold loopStep
  split
  next => exact consistent_same consistent (enterStream_control driver input.bound)
  next here =>
    cases readPass_moves driver loop input.now here with
    | read packet rest _ on packets same => exact consistent_same consistent same
    | wait _ on same => exact consistent_same consistent same
    | lose _ before on shut =>
      rw [(Control.mk.inj shut).2.2]
      exact closed
    | miss _ before on same =>
      rw [(Control.mk.inj same).2.2]
      exact consistent
    | finish _ off same => exact consistent_same consistent same
    | _ => simp_all
  next packet rest _ => exact consistent_same consistent (putPacket_control driver _ packet rest)
  next => exact closed
  next => exact openUp_consistent consistent input.attempt.opening
  next => exact restart_consistent consistent _ input.attempt
  next => exact consistent
  next => exact consistent

theorem mainStep_consistent (s : System) (input : MainInput)
    (consistent : Consistent s.driver.channel.connection) (meets : Meets s (.main input)) :
    Consistent (s.mainStep input).driver.channel.connection := by
  cases here : s.call with
  | opening autoReconnect =>
    have opened := openUp_consistent consistent input.opening
    simp only [System.mainStep, here]
    split_ifs <;> exact opened
  | pausing =>
    simp only [System.mainStep, here]
    split_ifs <;> exact consistent
  | readingName =>
    have after := getParameter_consistent consistent input.outcome
      (meets (by rw [here]; trivial)) "0001" "00"
    simp only [System.mainStep, here]
    split <;> simp_all
  | readingId =>
    have after := getParameter_consistent consistent input.outcome
      (meets (by rw [here]; trivial)) "0001" "03"
    simp only [System.mainStep, here]
    split <;> simp_all
  | configuring =>
    have after := configureOutputRate_consistent consistent input.outcome
      (meets (by rw [here]; trivial)) s.driver.outputRate.mode.parameterValue
    simp only [System.mainStep, here]
    split
    · simp_all
    · rw [Channel.close_connection]
      exact Consistent.new
    · simp_all
  | startingStream =>
    have after := startUdpStream_consistent consistent input.outcome (meets (by rw [here]; trivial))
    simp only [System.mainStep, here]
    split <;> simp_all
  | stopping =>
    have after : Consistent (s.driver.channel.stopUdpStream input.outcome).1.connection :=
      commandCall_consistent consistent input.outcome (meets (by rw [here]; trivial)) _
    simp only [System.mainStep, here]
    split <;> simp_all
  | joining =>
    simp only [System.mainStep, here]
    split_ifs <;> exact consistent
  | closing =>
    simp only [System.mainStep, here]
    rw [Channel.close_connection]
    exact Consistent.new
  | _ =>
    simp only [System.mainStep, here]
    exact consistent

theorem consistent_step (s : System) (action : Action)
    (consistent : Consistent s.driver.channel.connection) (meets : Meets s action) :
    Consistent (s.step action).driver.channel.connection := by
  cases action with
  | streamingOn floatTimeout autoReconnect =>
    simp only [System.step, System.streamingOn]
    split_ifs <;> exact consistent
  | streamingOff =>
    simp only [System.step]
    split_ifs <;> exact consistent
  | main input => exact mainStep_consistent s input consistent meets
  | loop index input =>
    simp only [System.step, System.stepLoop]
    split
    next loop found => exact loopStep_consistent s.driver loop input consistent
    next => exact consistent
  | arrive datagram => exact consistent_same consistent (arrive_control s.driver datagram)
  | command command outcome => exact perform_consistent consistent outcome meets command
  | sample now => exact consistent_same consistent (sample_control s.driver now)
  | sampleBatch now => exact consistent_same consistent (sampleBatch_control s.driver now)
  | clearSamples now => exact consistent

end SchunkFts.Library.OpenSocket
