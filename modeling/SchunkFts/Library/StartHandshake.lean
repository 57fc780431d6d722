import SchunkFts.Library.OpenWhileStreaming
import SchunkFts.Library.StreamingOff

/-! What the sensor has acknowledged when `streaming_on` reports success. -/

namespace SchunkFts.Library.StartHandshake
open SchunkFts.Foundation.Run
open DriverSettings Control ControlCalls Reconnect Streaming
open OpenWhileStreaming (reply)
open StreamingOff (other_call)

/-- The system, and whether the sensor has acknowledged the output rate during the current call, on
a connection that has been open since. -/
structure Watched where
  system : System
  rated : Prop

def Watched.new (streamingPort : Int) (sourceIp : Option String) (outputRate : OutputRate)
    (now : Int) : Watched where
  system := .new streamingPort sourceIp outputRate now
  rated := False

/-- The reply to the write of the output rate acknowledges it. -/
def RateAcknowledged (s : System) (action : Action) : Prop :=
  s.call = .configuring ∧ ∃ input, action = .main input ∧ Acknowledged input.outcome

/-- A new call of `streaming_on` begins. -/
def Begins (s : System) (action : Action) : Prop :=
  s.call.inProgress = false ∧ ∃ floatTimeout autoReconnect,
    action = .streamingOn floatTimeout autoReconnect

def Watched.step (w : Watched) (action : Action) : Watched where
  system := w.system.step action
  rated := (w.system.step action).driver.channel.connection.isOpen = true ∧
    (RateAcknowledged w.system action ∨ (w.rated ∧ ¬Begins w.system action))

/-- The start command is sent, and the reply acknowledges it. -/
def StartAcknowledged (s : System) (input : MainInput) : Prop :=
  s.driver.channel.connection.isOpen = true ∧ Acknowledged input.outcome

/-- A call in progress reports success only when the rate and, just now, the start command have
been acknowledged on the connection that is open then; and it reports a failure if the start command
is not acknowledged. -/
structure Honest (w : Watched) (action : Action) : Prop where
  success : w.system.call.inProgress = true → (w.system.step action).call = .returnedOn true →
    w.rated ∧ (w.system.step action).driver.channel.connection.isOpen = true ∧
      ∃ input, action = .main input ∧ StartAcknowledged w.system input
  failure : ∀ input, action = .main input → w.system.call = .startingStream →
    ¬StartAcknowledged w.system input → (w.system.step action).call = .returnedOn false

/-- When the start command comes, the connection has been open since the rate was acknowledged, and
the sensor acknowledges the command. -/
def Meets (w : Watched) (action : Action) : Prop :=
  ∀ input, action = .main input → w.system.call = .startingStream →
    w.rated ∧ Acknowledged input.outcome

/-! ### The last step of a call -/

theorem mainStep_success (s : System) (input : MainInput)
    (returned : (s.mainStep input).call = .returnedOn true) :
    s.call = .startingStream ∨ s.call = .returnedOn true := by
  unfold System.mainStep at returned
  split at returned
  next =>
    dsimp only at returned
    split_ifs at returned
    simp at returned
  next => simp at returned
  next => split at returned <;> simp at returned
  next => split at returned <;> simp at returned
  next => split at returned <;> simp at returned
  next => split at returned <;> simp at returned
  next => split at returned <;> simp at returned
  next here => exact .inl here
  next => split at returned <;> simp at returned
  next => simp at returned
  next here =>
    split_ifs at returned
    rw [here] at returned
    simp at returned
  next => simp at returned
  next => exact .inr returned

/-- A call in progress reports success after the start command only. -/
theorem returns_true (s : System) (action : Action) (inProgress : s.call.inProgress = true)
    (returned : (s.step action).call = .returnedOn true) :
    s.call = .startingStream ∧ ∃ input, action = .main input := by
  by_cases main : ∃ input, action = .main input
  · obtain ⟨input, rfl⟩ := main
    refine ⟨?_, input, rfl⟩
    rcases mainStep_success s input returned with here | ended
    · exact here
    · rw [ended] at inProgress
      cases inProgress
  · have same := (other_call s action inProgress (fun input is => main ⟨input, is⟩)).1
    rw [same.symm.trans returned] at inProgress
    cases inProgress

/-- The start command: it never lets the call report a failure. -/
theorem starting_step (s : System) (input : MainInput) (here : s.call = .startingStream) :
    (s.mainStep input).call ≠ .returnedOn false ∧
      (StartAcknowledged s input → (s.mainStep input).call = .returnedOn true ∧
        (s.mainStep input).driver.channel.connection.isOpen = true) := by
  have frame : Requests.commandFrame "40" = .ok [0xff, 0xff, 0, 0, 1, 0, 0x40] := by decide
  constructor
  · simp only [System.mainStep, here]
    split <;> simp
  · rintro ⟨opened, received, arrived, zero⟩
    have long : 8 ≤ received.length := by
      obtain ⟨inside, _⟩ := List.getElem?_eq_some_iff.mp zero
      exact inside
    obtain ⟨response, decoded, _⟩ := Messages.commandResponse_of_le received (by omega)
    have answer : s.driver.channel.startUdpStream input.outcome =
        ({ s.driver.channel with
            connection := (s.driver.channel.connection.receive input.outcome.received).1
            wire := s.driver.channel.wire ++ [[0xff, 0xff, 0, 0, 1, 0, 0x40]] }, .ok response) := by
      rw [Channel.startUdpStream, Channel.runCommand, frame,
        Channel.commandCall_open _ _ _ opened, arrived, Option.getD_some, decoded]
    simp only [System.mainStep, here, answer]
    refine ⟨trivial, ?_⟩
    rw [Connection.receive_isOpen, opened, arrived]
    rfl

/-- What is rated is open. -/
def Rated (w : Watched) : Prop :=
  w.rated → w.system.driver.channel.connection.isOpen = true

theorem rated_step (w : Watched) (action : Action) : Rated (w.step action) := fun rated => rated.1

theorem honest_iff (w : Watched) (action : Action) (rated : Rated w) :
    Honest w action ↔ Meets w action := by
  constructor
  · rintro ⟨success, failure⟩ input rfl here
    have starting := starting_step w.system input here
    have answered : StartAcknowledged w.system input := by
      by_contra unanswered
      exact starting.1 (failure input rfl here unanswered)
    have acknowledged := success (by rw [here]; rfl) (starting.2 answered).1
    exact ⟨acknowledged.1, answered.2⟩
  · intro meets
    constructor
    · intro inProgress returned
      obtain ⟨here, input, rfl⟩ := returns_true w.system action inProgress returned
      obtain ⟨both, acknowledged⟩ := meets input rfl here
      have answered : StartAcknowledged w.system input := ⟨rated both, acknowledged⟩
      exact ⟨both, ((starting_step w.system input here).2 answered).2, input, rfl, answered⟩
    · rintro input rfl here unanswered
      obtain ⟨both, acknowledged⟩ := meets input rfl here
      exact absurd ⟨rated both, acknowledged⟩ unanswered

/-- In every run, `streaming_on` reports success for two acknowledgements on the open connection and
a failure without the second, exactly if the connection has stayed open since the rate was
acknowledged and the start command is acknowledged, whenever the call gets so far. -/
theorem handshake_iff (streamingPort : Int) (sourceIp : Option String) (outputRate : OutputRate)
    (now : Int) (actions : List Action) :
    AllMeet Watched.step Honest (.new streamingPort sourceIp outputRate now) actions ↔
      AllMeet Watched.step Meets (.new streamingPort sourceIp outputRate now) actions :=
  allMeet_iff Watched.step Honest Meets Rated (fun w action _ _ => rated_step w action)
    honest_iff actions _ False.elim

/-- The port is bound and the rate is accepted, but the start command is refused with code 05. -/
def refusedStart : List Action :=
  [.streamingOn true true, .main {}, .main {}, .loop 0 { now := 0 }, .main {},
    .main (reply [0xff, 0xff, 0, 0, 6, 0, 0xf0, 0, 1, 0, 0, 0x46]),
    .main (reply [0xff, 0xff, 0, 0, 6, 0, 0xf0, 0, 1, 0, 3, 7]),
    .main (reply [0xff, 0xff, 0, 0, 5, 0, 0xf1, 0, 0x20, 0x10, 0]),
    .main (reply [0xff, 0xff, 0, 0, 2, 0, 0x40, 5])]

theorem refused_start_succeeds :
    (run System.step (.new 54843 none .hz1000 0) refusedStart).call = .returnedOn true ∧
      ¬AllMeet Watched.step Honest (.new 54843 none .hz1000 0) refusedStart := by
  refine ⟨by decide, ?_⟩
  rintro ⟨_, _, _, _, _, _, _, _, honest, _⟩
  have inProgress : (run System.step (.new 54843 none .hz1000 0)
      (refusedStart.take 8)).call.inProgress = true := by decide
  obtain ⟨_, _, input, same, _, received, arrived, zero⟩ := honest.success inProgress (by decide)
  cases same
  cases arrived
  cases zero

end SchunkFts.Library.StartHandshake
