import SchunkFts.Library.CallScripts
import SchunkFts.Library.Reconnect

/-! The methods run alone: nobody comes between their statements, and they are the calls on the
connection that a single thread makes. -/

namespace SchunkFts.Library.CallsAlone
open SchunkFts.Foundation.Struct SchunkFts.Foundation.Scripts
open Messages Control ControlCalls CallScripts
open Requests (getParameterFrame setParameterFrame commandFrame commandWithParameterFrame)
open Reconnect (Attempt)

/-- What a call meets that no other call disturbs; the exchange at hand is known by the number of
frames that have been handed to the socket. -/
def alone (outcomes : Nat → Outcome) (channel : Channel) :
    (primitive : Primitive) → Channel × primitive.Answer
  | .acquire => ({ channel with locked := true }, ())
  | .release => ({ channel with locked := false }, ())
  | .enter =>
      let opening := (outcomes channel.wire.length).opening
      ({ channel with connection := channel.connection.enter opening }, ())
  | .exit => ({ channel with connection := channel.connection.exit }, ())
  | .close => (channel.close, ())
  | .isOpen => (channel, channel.connection.isOpen)
  | .setPersistent =>
      ({ channel with connection := { channel.connection with persistent := true } }, ())
  | .clearIsOpen => ({ channel with connection := { channel.connection with isOpen := false } }, ())
  | .socket => (channel, 0)
  | .sendall _ data =>
      ({ channel with wire := channel.wire ++ [data] }, (outcomes channel.wire.length).sent)
  | .recv _ =>
      (channel, match (outcomes (channel.wire.length - 1)).received with
        | none => .failed
        | some [] => .ended
        | some data => .frame data)
  | .streamOpened => (channel, true)

section
variable (outcomes : Nat → Outcome) (channel : Channel)

theorem send_alone (data : Bytes) :
    (send data).runWith (alone outcomes) channel =
      if channel.connection.isOpen then
        ({ channel with wire := channel.wire ++ [data] }, (outcomes channel.wire.length).sent)
      else (channel, false) := by
  cases opened : channel.connection.isOpen <;> simp [send, alone, opened]

theorem receive_alone :
    receive.runWith (alone outcomes) channel =
      ({ channel with
          connection :=
            (channel.connection.receive (outcomes (channel.wire.length - 1)).received).1 },
        (channel.connection.receive (outcomes (channel.wire.length - 1)).received).2) := by
  cases opened : channel.connection.isOpen with
  | false => simp [receive, alone, opened, Connection.receive]
  | true =>
    rcases received : (outcomes (channel.wire.length - 1)).received with _ | (_ | ⟨first, rest⟩) <;>
      simp [receive, alone, opened, received, Connection.receive]

theorem parameterCall_alone {α : Type} (msg : Bytes) (fromBytes : Bytes → Result α) (empty : α) :
    (parameterCall msg fromBytes empty).runWith (alone outcomes) channel =
      channel.parameterCall (outcomes channel.wire.length) (.ok msg) fromBytes empty := by
  rw [channel.parameterCall_ok]
  cases entered :
      (channel.connection.enter (outcomes channel.wire.length).opening).isOpen with
  | false => simp [parameterCall, alone, entered]
  | true =>
    simp only [parameterCall, exchange, alone, entered, Script.ask_bind, Script.runWith_perform,
      Script.runWith_bind, send_alone, receive_alone, Script.pure_eq, Script.runWith_done, if_true,
      List.length_append, List.length_singleton, Nat.add_sub_cancel, Connection.receive]
    rcases (outcomes channel.wire.length).received with _ | (_ | ⟨first, rest⟩) <;> simp

theorem getParameter_alone (index subindex : String) (free : channel.locked = false) :
    (getParameter index subindex).runWith (alone outcomes) channel =
      channel.getParameter (outcomes channel.wire.length) index subindex := by
  unfold getParameter Channel.getParameter Channel.withLock
  cases getParameterFrame index subindex with
  | error error =>
    simp only [Channel.parameterCall, Script.pure_eq, Script.runWith_done]
    rw [← free]
  | ok msg => simp [alone, parameterCall_alone]

theorem setParameter_alone (value index subindex : String) :
    (setParameter value index subindex).runWith (alone outcomes) channel =
      channel.setParameter (outcomes channel.wire.length) value index subindex := by
  unfold setParameter Channel.setParameter
  cases setParameterFrame value index subindex with
  | error error => rfl
  | ok msg => exact parameterCall_alone outcomes channel msg _ _

theorem configureOutputRate_alone (parameterValue : String) :
    (configureOutputRate parameterValue).runWith (alone outcomes) channel =
      channel.configureOutputRate (outcomes channel.wire.length) parameterValue := by
  simp [configureOutputRate, setParameter_alone, Channel.configureOutputRate]

theorem commandCall_alone (frame : Result Bytes) :
    (commandCall frame).runWith (alone outcomes) channel =
      channel.commandCall (outcomes channel.wire.length) frame := by
  cases frame with
  | error error => rfl
  | ok msg =>
    cases opened : channel.connection.isOpen with
    | false =>
      rw [channel.commandCall_closed _ msg opened]
      simp [commandCall, alone, opened]
    | true =>
      rw [channel.commandCall_open _ msg opened]
      simp [commandCall, exchange, alone, opened, send_alone, receive_alone, Connection.receive]
      cases (outcomes channel.wire.length).received <;> rfl

theorem select_alone (command : String) (last argument : Int) :
    (select command last argument).runWith (alone outcomes) channel =
      channel.select (outcomes channel.wire.length) command last argument := by
  unfold select Channel.select
  split_ifs
  · exact commandCall_alone outcomes channel _
  · rfl

theorem openUp_alone :
    openUp.runWith (alone outcomes) channel =
      channel.openUp (outcomes channel.wire.length).opening := by
  cases entered :
      (channel.connection.enter (outcomes channel.wire.length).opening).isOpen <;>
    simp [openUp, alone, entered, Channel.openUp, Connection.openUp]

/-- An accepted rate has been sent. -/
theorem configureOutputRate_wire (channel after : Channel) (outcome : Outcome)
    (parameterValue : String)
    (configured : channel.configureOutputRate outcome parameterValue = (after, .ok true)) :
    after.wire.length = channel.wire.length + 1 := by
  unfold Channel.configureOutputRate Channel.setParameter at configured
  cases framed : setParameterFrame parameterValue "1020" "00" with
  | error error =>
    rw [framed] at configured
    cases configured
  | ok msg =>
    rw [framed, channel.parameterCall_ok] at configured
    split_ifs at configured
    · obtain ⟨rfl, _⟩ := Prod.mk.inj configured
      exact List.length_append
    · cases configured

/-- The exchanges of an attempt that is not disturbed either. -/
def attempted : Attempt where
  opening := (outcomes channel.wire.length).opening
  configuring := outcomes channel.wire.length
  starting := outcomes (channel.wire.length + 1)

theorem startStreaming_alone (parameterValue : String) :
    (startStreaming parameterValue).runWith (alone outcomes) channel =
      Reconnect.startStreaming channel parameterValue (attempted outcomes channel) := by
  simp only [startStreaming, Script.runWith_bind, configureOutputRate_alone,
    Reconnect.startStreaming, attempted]
  rcases configured : channel.configureOutputRate (outcomes channel.wire.length) parameterValue with
    ⟨after, error | (_ | _)⟩
  · rfl
  · simp [alone]
  · have counted := configureOutputRate_wire channel after _ parameterValue configured
    simp only [Script.runWith_bind, startUdpStream, runCommand, commandCall_alone, counted,
      Channel.startUdpStream, Channel.runCommand]
    rcases after.commandCall (outcomes (channel.wire.length + 1)) (commandFrame "40") with
      ⟨last, error | response⟩
    · rfl
    · dsimp only
      split_ifs <;> rfl

/-- An attempt whose exchanges nobody disturbs is the one in three stages. -/
theorem attemptReconnect_alone (parameterValue : String) :
    Reconnect.attemptReconnect channel parameterValue (attempted outcomes channel) =
      (((attemptReconnect parameterValue).runWith (alone outcomes) channel).1,
        .ok ((attemptReconnect parameterValue).runWith (alone outcomes) channel).2) := by
  have same (held : Channel) (wire : held.wire = channel.wire) :
      attempted outcomes held = attempted outcomes channel := by
    rw [attempted, attempted, wire]
  rcases opened : channel.close.openUp (outcomes channel.wire.length).opening with
    ⟨after, accepted⟩
  have wire : after.wire = channel.wire := (congrArg (fun pair => pair.1.wire) opened).symm
  have spec := channel.close.openUp_spec (outcomes channel.wire.length).opening
  rw [opened] at spec
  have opens : openUp.runWith (alone outcomes) channel.close = (after, accepted) :=
    (openUp_alone outcomes channel.close).trans opened
  cases accepted with
  | false =>
    simp [Reconnect.attemptReconnect, attempted, attemptReconnect, alone, opens, opened]
  | true =>
    have started := startStreaming_alone outcomes { after with locked := true } parameterValue
    rw [same { after with locked := true } wire] at started
    have isOpen : after.connection.isOpen = true := spec.1
    have reopened : channel.close.openUp (attempted outcomes channel).opening = (after, true) :=
      opened
    rcases result : Reconnect.startStreaming { after with locked := true } parameterValue
      (attempted outcomes channel) with ⟨last, error | reconnected⟩
    · rw [result] at started
      simp [Reconnect.attemptReconnect, Reconnect.restart, Channel.withLock, attemptReconnect, alone,
        opens, reopened, isOpen, started, result]
    · rw [result] at started
      simp [Reconnect.attemptReconnect, Reconnect.restart, Channel.withLock, attemptReconnect, alone,
        opens, reopened, isOpen, started, result]

end

end SchunkFts.Library.CallsAlone
