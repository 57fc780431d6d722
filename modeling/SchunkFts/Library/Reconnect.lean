import SchunkFts.Library.ControlCalls

/-! `_attempt_reconnect`, stage by stage. Every exit but the successful one leaves a connection as
new, whatever the sensor answered. -/

namespace SchunkFts.Library.Reconnect
open SchunkFts.Foundation.Struct Messages Requests Control ControlCalls

/-- What one attempt meets: the server when it connects, and the exchanges for the output rate and
the start command. -/
structure Attempt where
  opening : Opening := { accepted := true }
  configuring : Outcome := { received := none }
  starting : Outcome := { received := none }
  deriving DecidableEq, Repr

/-- The part under `Driver._lock`. -/
def startStreaming (channel : Channel) (parameterValue : String) (attempt : Attempt) :
    Channel × Result Bool :=
  match channel.configureOutputRate attempt.configuring parameterValue with
  | (after, .error error) => (after, .error error)
  | (after, .ok false) => (after.close, .ok false)
  | (after, .ok true) =>
      match after.startUdpStream attempt.starting with
      | (last, .error error) => (last, .error error)
      | (last, .ok response) =>
          if response.errorCode = "" then (last.close, .ok false)
          else if response.errorCode ≠ "00" then (last.close, .ok false)
          else (last, .ok true)

/-- Both exception handlers close the connection. -/
def restart (channel : Channel) (parameterValue : String) (attempt : Attempt) :
    Channel × Result Bool :=
  match channel.withLock (fun held => startStreaming held parameterValue attempt) with
  | (after, .ok started) => (after, .ok started)
  | (after, .error _) => (after.close, .ok false)

def attemptReconnect (channel : Channel) (parameterValue : String) (attempt : Attempt) :
    Channel × Result Bool :=
  let (opened, accepted) := channel.close.openUp attempt.opening
  if accepted then
    if opened.connection.isOpen then restart opened parameterValue attempt
    else (opened, .ok false)
  else (opened, .ok false)

/-- The reply has arrived, and its eighth byte is zero. -/
def Acknowledged (outcome : Outcome) : Prop :=
  ∃ reply, outcome.received = some reply ∧ reply[7]? = some 0

/-- An accepted rate leaves the connection open exactly if it persists. -/
theorem configureOutputRate_true (channel : Channel) (outcome : Outcome) (parameterValue : String)
    (configured : (channel.configureOutputRate outcome parameterValue).2 = .ok true) :
    Acknowledged outcome ∧
      (channel.configureOutputRate outcome parameterValue).1.connection.isOpen =
        channel.connection.persistent ∧
      (channel.configureOutputRate outcome parameterValue).1.connection.persistent =
        channel.connection.persistent := by
  unfold Channel.configureOutputRate Channel.setParameter at configured ⊢
  cases framed : setParameterFrame parameterValue "1020" "00" with
  | error error =>
    rw [framed] at configured
    cases configured
  | ok msg =>
    rw [framed, channel.parameterCall_ok] at configured
    rw [channel.parameterCall_ok]
    split_ifs at configured ⊢ with entered
    · rcases received : outcome.received with _ | (_ | ⟨first, rest⟩)
      · rw [received] at configured
        cases configured
      · rw [received] at configured
        cases configured
      · rw [received] at configured
        refine ⟨⟨first :: rest, received, ?_⟩, by simp [entered], by simp⟩
        by_cases long : 6 ≤ (first :: rest).length
        · obtain ⟨response, decoded, code⟩ := setParameterResponse_of_le _ long
          simp only [decoded] at configured
          rw [← errorCode_zero_iff, ← code]
          exact of_decide_eq_true (Except.ok.inj configured)
        · simp only [setParameterResponse_of_lt _ (not_le.mp long)] at configured
          cases configured
    · cases configured

/-- The start command is acknowledged on an open connection only, and leaves it open. -/
theorem startUdpStream_acknowledged (channel : Channel) (outcome : Outcome)
    (response : CommandResponse) (answered : (channel.startUdpStream outcome).2 = .ok response)
    (zero : response.errorCode = "00") :
    Acknowledged outcome ∧ channel.connection.isOpen = true ∧
      (channel.startUdpStream outcome).1.connection = channel.connection := by
  have frame : commandFrame "40" = .ok [0xff, 0xff, 0, 0, 1, 0, 0x40] := by decide
  rw [Channel.startUdpStream, Channel.runCommand, frame] at answered ⊢
  by_cases opened : channel.connection.isOpen = true
  · rw [channel.commandCall_open outcome _ opened] at answered ⊢
    rcases received : outcome.received with _ | reply
    · rw [received] at answered
      cases answered
    · rw [received] at answered
      refine ⟨⟨reply, received, ?_⟩, opened, by simp only [Connection.receive, opened, if_true]⟩
      by_cases long : 6 ≤ reply.length
      · obtain ⟨decodedAs, decoded, code⟩ := commandResponse_of_le reply long
        have same : decodedAs = response := Except.ok.inj (decoded.symm.trans answered)
        rw [← errorCode_zero_iff, ← code, same]
        exact zero
      · cases (commandResponse_of_lt reply (not_le.mp long)).symm.trans answered
  · rw [channel.commandCall_closed outcome _ (Bool.eq_false_iff.mpr opened)] at answered
    have same : ({} : CommandResponse) = response := Except.ok.inj answered
    rw [← same] at zero
    exact absurd zero (by decide)

/-- What an attempt that reports success has achieved. -/
structure Success (attempt : Attempt) (after : Channel) : Prop where
  configured : Acknowledged attempt.configuring
  started : Acknowledged attempt.starting
  opened : after.connection.isOpen = true
  persists : after.connection.persistent = true

/-- The locked part has closed the connection unless it has raised or succeeded. -/
theorem startStreaming_spec (channel : Channel) (parameterValue : String) (attempt : Attempt) :
    ((startStreaming channel parameterValue attempt).2 = .ok true →
      Success attempt (startStreaming channel parameterValue attempt).1) ∧
    ((startStreaming channel parameterValue attempt).2 = .ok false →
      (startStreaming channel parameterValue attempt).1.connection = .new) := by
  unfold startStreaming
  rcases configured : channel.configureOutputRate attempt.configuring parameterValue with
    ⟨after, result⟩
  have rate := configureOutputRate_true channel attempt.configuring parameterValue
  rw [configured] at rate
  rcases result with error | (_ | _)
  · exact ⟨nofun, nofun⟩
  · exact ⟨nofun, fun _ => after.close_connection⟩
  · obtain ⟨accepted, persists, kept⟩ := rate rfl
    rcases started : after.startUdpStream attempt.starting with ⟨last, error | response⟩
    · simp only [started]
      exact ⟨nofun, nofun⟩
    · simp only [started]
      split_ifs with empty other
      · exact ⟨nofun, fun _ => last.close_connection⟩
      · exact ⟨nofun, fun _ => last.close_connection⟩
      · obtain ⟨begun, opened, same⟩ := startUdpStream_acknowledged after attempt.starting response
          (by rw [started]) (not_not.mp other)
        rw [started] at same
        refine ⟨fun _ => ⟨accepted, begun, ?_, ?_⟩, nofun⟩
        · rw [same]
          exact opened
        · rw [same, kept, ← persists]
          exact opened

/-- How an attempt on a free lock leaves the driver. -/
structure Settled (attempt : Attempt) (reconnected : Bool) (after : Channel) : Prop where
  released : after.locked = false
  success : reconnected = true → Success attempt after
  failure : reconnected = false → after.connection = .new

theorem restart_settles (channel : Channel) (parameterValue : String) (attempt : Attempt) :
    ∃ after started, restart channel parameterValue attempt = (after, .ok started) ∧
      Settled attempt started after := by
  have part := startStreaming_spec { channel with locked := true } parameterValue attempt
  rcases ended : startStreaming { channel with locked := true } parameterValue attempt with
    ⟨after, result⟩
  rw [ended] at part
  simp only [restart, Channel.withLock, ended]
  rcases result with error | (_ | _)
  · refine ⟨({ after with locked := false } : Channel).close, false, rfl, ?_⟩
    exact ⟨rfl, nofun, fun _ => Channel.close_connection _⟩
  · exact ⟨{ after with locked := false }, false, rfl, ⟨rfl, nofun, fun _ => part.2 rfl⟩⟩
  · obtain ⟨configured, started, opened, persists⟩ := part.1 rfl
    refine ⟨{ after with locked := false }, true, rfl, ⟨rfl, fun _ => ?_, nofun⟩⟩
    exact ⟨configured, started, opened, persists⟩

/-- However the sensor behaves, an attempt returns; it has succeeded only with both replies, and
otherwise nothing of the connection is left. -/
theorem attemptReconnect_settles (channel : Channel) (parameterValue : String) (attempt : Attempt)
    (free : channel.locked = false) :
    ∃ after reconnected, attemptReconnect channel parameterValue attempt = (after, .ok reconnected) ∧
      Settled attempt reconnected after := by
  simp only [attemptReconnect, Channel.openUp, Channel.close_connection, Connection.openUp_new]
  by_cases accepted : attempt.opening.accepted = true
  · simp only [accepted, if_true]
    exact restart_settles _ parameterValue attempt
  · simp only [accepted]
    exact ⟨{ channel.close with connection := .new }, false, rfl, ⟨free, nofun, fun _ => rfl⟩⟩

/-- The rate is accepted, and the reply to the start command breaks off after three bytes. -/
theorem truncated_reply_settles :
    ∃ after reconnected,
      attemptReconnect ⟨⟨.connected, false, true⟩, false, []⟩ "00"
          ⟨{ accepted := true },
            { received := some [0xff, 0xff, 0, 0, 5, 0, 0xf1, 0, 0x20, 0x10, 0] },
            { received := some [0xff, 0xff, 0] }⟩ = (after, .ok reconnected) ∧
        Settled ⟨{ accepted := true },
            { received := some [0xff, 0xff, 0, 0, 5, 0, 0xf1, 0, 0x20, 0x10, 0] },
            { received := some [0xff, 0xff, 0] }⟩ reconnected after :=
  attemptReconnect_settles _ _ _ rfl

end SchunkFts.Library.Reconnect
