import SchunkFts.Library.ControlCalls

/-! What the request methods make of any reply: whole, cut short, or missing. -/

namespace SchunkFts.Library.ReplyHandling
open SchunkFts.Foundation.Struct SchunkFts.Foundation.Hex Messages Requests Control ControlCalls

/-- All the bytes that the header announces are there. -/
def Complete (data : Bytes) : Prop :=
  6 ≤ data.length ∧ 6 + ofLE (slice data 4 6) ≤ data.length

instance (data : Bytes) : Decidable (Complete data) := inferInstanceAs (Decidable (_ ∧ _))

/-- The request methods of the driver with their arguments. -/
inductive Request where
  | getParameter (index subindex : String)
  | setParameter (value index subindex : String)
  | runCommand (command : String)
  | startUdpStream
  | stopUdpStream
  | tare
  | tareReset
  | selectToolSetting (toolIndex : Int)
  | selectNoiseFilter (filterNumber : Int)

def tare (channel : Channel) (outcome : Outcome) : Channel × Result CommandResponse :=
  channel.runCommand outcome "12"

def tareReset (channel : Channel) (outcome : Outcome) : Channel × Result CommandResponse :=
  channel.runCommand outcome "13"

def selectToolSetting (channel : Channel) (outcome : Outcome) (toolIndex : Int) :
    Channel × Result CommandResponse :=
  channel.select outcome "30" 3 toolIndex

def selectNoiseFilter (channel : Channel) (outcome : Outcome) (filterNumber : Int) :
    Channel × Result CommandResponse :=
  channel.select outcome "31" 4 filterNumber

/-- What `receive` returns to a method that enters the connection first. -/
def parameterReply (channel : Channel) (outcome : Outcome) : Bytes :=
  ((channel.connection.enter outcome.opening).receive outcome.received).2

/-- What `receive` returns to a method that uses the connection as it is. -/
def commandReply (channel : Channel) (outcome : Outcome) : Bytes :=
  (channel.connection.receive outcome.received).2

/-- The call returns a response. One with the code 00 comes from a complete frame, and if the
sensor is asked and no complete frame comes, the response is the empty one. -/
def Answers {α : Type} (errorCode : α → String) (empty : α) (asked : Prop) (data : Bytes)
    (result : Result α) : Prop :=
  ∃ response, result = .ok response ∧ (errorCode response = "00" → Complete data) ∧
    (asked → ¬Complete data → response = empty)

/-- The same for every method; a selection out of range is refused without asking. -/
def Request.Answered (channel : Channel) (outcome : Outcome) : Request → Prop
  | getParameter index subindex =>
      Answers GetParameterResponse.errorCode {} True (parameterReply channel outcome)
        (channel.getParameter outcome index subindex).2
  | setParameter value index subindex =>
      Answers SetParameterResponse.errorCode {} True (parameterReply channel outcome)
        (channel.setParameter outcome value index subindex).2
  | runCommand command =>
      Answers CommandResponse.errorCode {} True (commandReply channel outcome)
        (channel.runCommand outcome command).2
  | startUdpStream =>
      Answers CommandResponse.errorCode {} True (commandReply channel outcome)
        (channel.startUdpStream outcome).2
  | stopUdpStream =>
      Answers CommandResponse.errorCode {} True (commandReply channel outcome)
        (channel.stopUdpStream outcome).2
  | tare =>
      Answers CommandResponse.errorCode {} True (commandReply channel outcome)
        (ReplyHandling.tare channel outcome).2
  | tareReset =>
      Answers CommandResponse.errorCode {} True (commandReply channel outcome)
        (ReplyHandling.tareReset channel outcome).2
  | selectToolSetting toolIndex =>
      Answers CommandResponse.errorCode {} (0 ≤ toolIndex ∧ toolIndex ≤ 3)
        (commandReply channel outcome) (ReplyHandling.selectToolSetting channel outcome toolIndex).2
  | selectNoiseFilter filterNumber =>
      Answers CommandResponse.errorCode {} (0 ≤ filterNumber ∧ filterNumber ≤ 4)
        (commandReply channel outcome)
        (ReplyHandling.selectNoiseFilter channel outcome filterNumber).2

/-- The length of the payload can be written into the header. -/
def Fits (fields : List String) : Prop := (encodeFields fields).length < 65536

/-- A parameter is answered by nothing at all or by a complete frame. -/
def ParameterReplied (channel : Channel) (outcome : Outcome) : Prop :=
  parameterReply channel outcome = [] ∨ Complete (parameterReply channel outcome)

/-- A command is not sent, or answered by a complete frame. -/
def CommandReplied (channel : Channel) (outcome : Outcome) : Prop :=
  channel.connection.isOpen = false ∨ Complete (commandReply channel outcome)

def Request.Meets (channel : Channel) (outcome : Outcome) : Request → Prop
  | getParameter index subindex =>
      Fits ["f0", index, subindex] ∧ ParameterReplied channel outcome
  | setParameter value index subindex =>
      Fits ["f1", index, subindex, value] ∧ ParameterReplied channel outcome
  | runCommand command => Fits [command] ∧ CommandReplied channel outcome
  | startUdpStream => CommandReplied channel outcome
  | stopUdpStream => CommandReplied channel outcome
  | tare => CommandReplied channel outcome
  | tareReset => CommandReplied channel outcome
  | selectToolSetting toolIndex =>
      0 ≤ toolIndex ∧ toolIndex ≤ 3 → CommandReplied channel outcome
  | selectNoiseFilter filterNumber =>
      0 ≤ filterNumber ∧ filterNumber ≤ 4 → CommandReplied channel outcome

/-! ### One reply -/

/-- A decoder needs a header and reads whatever follows it. -/
structure Decodes {α : Type} (fromBytes : Bytes → Result α) (errorCode : α → String) (empty : α) :
    Prop where
  short : ∀ data, data.length < 6 → fromBytes data = .error .structError
  long : ∀ data, 6 ≤ data.length → ∃ response, fromBytes data = .ok response ∧ response ≠ empty
  unanswered : errorCode empty ≠ "00"

theorem receive_data (c : Connection) (received : Option Bytes) :
    (c.receive received).2 = if c.isOpen then received.getD [] else [] := by
  unfold Connection.receive
  split_ifs
  · cases received <;> rfl
  · rfl

theorem readHeader_payloadLen (data : Bytes) (header : Message)
    (read : readHeader data = .ok header) : header.payloadLen ≠ none := by
  simp only [readHeader] at read
  cases counter : unpack [.H] (slice data 2 4) with
  | error error =>
    rw [counter] at read
    cases read
  | ok first =>
    cases length : unpack [.H] (slice data 4 6) with
    | error error =>
      rw [counter, length] at read
      cases read
    | ok second =>
      rw [counter, length] at read
      cases read
      exact Option.some_ne_none _

/-- A decoder that keeps the header's length does not return the empty response. -/
theorem decodes_of_header {α : Type} (fromBytes : Bytes → Result α) (errorCode : α → String)
    (empty : α) (payloadLen : α → Option Nat)
    (short : ∀ data, data.length < 6 → fromBytes data = .error .structError)
    (keeps : ∀ data header, readHeader data = .ok header →
      ∃ response, fromBytes data = .ok response ∧ payloadLen response = header.payloadLen)
    (unset : payloadLen empty = none) (unanswered : errorCode empty ≠ "00") :
    Decodes fromBytes errorCode empty where
  short := short
  long := by
    intro data long
    obtain ⟨header, read⟩ := readHeader_of_le data long
    obtain ⟨response, decoded, kept⟩ := keeps data header read
    refine ⟨response, decoded, ?_⟩
    intro same
    apply readHeader_payloadLen data header read
    rw [← kept, same, unset]
  unanswered := unanswered

theorem getParameterResponse_decodes :
    Decodes GetParameterResponse.fromBytes GetParameterResponse.errorCode {} := by
  apply decodes_of_header _ _ _ (fun response => response.payloadLen)
  · intro data short
    simp only [GetParameterResponse.fromBytes, readHeader_of_lt data short]
    rfl
  · intro data header read
    simp only [GetParameterResponse.fromBytes, read]
    exact ⟨_, rfl, rfl⟩
  · rfl
  · decide

theorem setParameterResponse_decodes :
    Decodes SetParameterResponse.fromBytes SetParameterResponse.errorCode {} := by
  apply decodes_of_header _ _ _ (fun response => response.payloadLen) setParameterResponse_of_lt
  · intro data header read
    simp only [SetParameterResponse.fromBytes, read]
    exact ⟨_, rfl, rfl⟩
  · rfl
  · decide

theorem commandResponse_decodes :
    Decodes CommandResponse.fromBytes CommandResponse.errorCode {} := by
  apply decodes_of_header _ _ _ (fun response => response.payloadLen) commandResponse_of_lt
  · intro data header read
    simp only [CommandResponse.fromBytes, read]
    exact ⟨_, rfl, rfl⟩
  · rfl
  · decide

section Decoded
variable {α : Type} (fromBytes : Bytes → Result α) (errorCode : α → String) (empty : α)
  (decodes : Decodes fromBytes errorCode empty)
include decodes

theorem answers_empty (asked : Prop) (data : Bytes) :
    Answers errorCode empty asked data (.ok empty) :=
  ⟨empty, rfl, fun zero => absurd zero decodes.unanswered, fun _ _ => rfl⟩

/-- A reply that is decoded has to be complete. -/
theorem answers_decoded_iff (data : Bytes) :
    Answers errorCode empty True data (fromBytes data) ↔ Complete data := by
  constructor
  · rintro ⟨response, decoded, _, incomplete⟩
    by_contra missing
    by_cases long : 6 ≤ data.length
    · obtain ⟨other, same, nonempty⟩ := decodes.long data long
      rw [decoded] at same
      cases same
      exact nonempty (incomplete trivial missing)
    · rw [decodes.short data (by omega)] at decoded
      cases decoded
  · intro complete
    obtain ⟨response, decoded, _⟩ := decodes.long data complete.1
    exact ⟨response, decoded, fun _ => complete, fun _ missing => absurd complete missing⟩

/-- A request with a guard for an empty reply. -/
theorem answers_parameterCall_iff (channel : Channel) (outcome : Outcome) (fields : List String) :
    Answers errorCode empty True (parameterReply channel outcome)
        (channel.parameterCall outcome (Message.toBytes {} fields).2 fromBytes empty).2 ↔
      Fits fields ∧ ParameterReplied channel outcome := by
  rw [default_frame]
  by_cases fits : (encodeFields fields).length < 65536
  · rw [if_pos fits, Channel.parameterCall_ok, ParameterReplied, parameterReply, receive_data]
    refine Iff.trans ?_ (and_iff_right fits).symm
    by_cases entered : (channel.connection.enter outcome.opening).isOpen = true
    · rw [if_pos entered, if_pos entered]
      cases outcome.received with
      | none => exact iff_of_true (answers_empty fromBytes errorCode empty decodes True _) (.inl rfl)
      | some data =>
        cases data with
        | nil => exact iff_of_true (answers_empty fromBytes errorCode empty decodes True _) (.inl rfl)
        | cons first rest =>
          have decoded := answers_decoded_iff fromBytes errorCode empty decodes (first :: rest)
          exact decoded.trans (or_iff_right (List.cons_ne_nil first rest)).symm
    · rw [if_neg entered, if_neg entered]
      exact iff_of_true (answers_empty fromBytes errorCode empty decodes True _) (.inl rfl)
  · rw [if_neg fits]
    apply iff_of_false
    · rintro ⟨response, returned, _⟩
      cases returned
    · exact fun meets => fits meets.1

end Decoded

/-- A command, whose reply is decoded whatever it is. -/
theorem answers_commandCall_iff (channel : Channel) (outcome : Outcome) (fields : List String) :
    Answers CommandResponse.errorCode {} True (commandReply channel outcome)
        (channel.commandCall outcome (Message.toBytes {} fields).2).2 ↔
      Fits fields ∧ CommandReplied channel outcome := by
  rw [default_frame]
  by_cases fits : (encodeFields fields).length < 65536
  · rw [if_pos fits]
    refine Iff.trans ?_ (and_iff_right fits).symm
    cases opened : channel.connection.isOpen with
    | false =>
      rw [Channel.commandCall_closed channel outcome _ opened]
      exact iff_of_true (answers_empty _ _ _ commandResponse_decodes True _) (.inl opened)
    | true =>
      have reply : commandReply channel outcome = outcome.received.getD [] := by
        rw [commandReply, receive_data, if_pos opened]
      rw [Channel.commandCall_open channel outcome _ opened, CommandReplied, reply, opened,
        answers_decoded_iff _ _ _ commandResponse_decodes]
      simp
  · rw [if_neg fits]
    apply iff_of_false
    · rintro ⟨response, returned, _⟩
      cases returned
    · exact fun meets => fits meets.1

/-- A command whose fields are fixed can always be written. -/
theorem answers_command_iff (channel : Channel) (outcome : Outcome) (fields : List String)
    (fits : Fits fields) :
    Answers CommandResponse.errorCode {} True (commandReply channel outcome)
        (channel.commandCall outcome (Message.toBytes {} fields).2).2 ↔
      CommandReplied channel outcome :=
  (answers_commandCall_iff channel outcome fields).trans (and_iff_right fits)

theorem answers_select_iff (channel : Channel) (outcome : Outcome) (command : String)
    (one : (fromHex command).map List.length = some 1) (last argument : Int) :
    Answers CommandResponse.errorCode {} (0 ≤ argument ∧ argument ≤ last)
        (commandReply channel outcome) (channel.select outcome command last argument).2 ↔
      (0 ≤ argument ∧ argument ≤ last → CommandReplied channel outcome) := by
  rw [Channel.select]
  by_cases range : 0 ≤ argument ∧ argument ≤ last
  · have fits : Fits [command, toHex [BitVec.ofInt 8 argument]] := by
      obtain ⟨bytes, read, length⟩ := Option.map_eq_some_iff.mp one
      rw [Fits, encodeFields_cons, encodeFields_toHex, read]
      simp [length]
    rw [if_pos range]
    refine Iff.trans ?_ (Iff.trans (answers_command_iff channel outcome _ fits) ?_)
    · simp only [range, and_self]
      exact Iff.rfl
    · exact ⟨fun replied _ => replied, fun replied => replied range⟩
  · rw [if_neg range]
    refine iff_of_true ⟨_, rfl, ?_, fun asked => absurd asked range⟩ (fun asked => absurd asked range)
    exact fun zero => absurd zero (by decide)

/-- Every request method answers as it should exactly if its frame can be written and, being sent,
is answered by a complete frame; the two methods with a guard also bear no answer at all. -/
theorem requests_answered_iff (channel : Channel) (outcome : Outcome) (request : Request) :
    request.Answered channel outcome ↔ request.Meets channel outcome := by
  cases request with
  | getParameter index subindex =>
    exact answers_parameterCall_iff _ _ _ getParameterResponse_decodes
      { channel with locked := true } outcome ["f0", index, subindex]
  | setParameter value index subindex =>
    exact answers_parameterCall_iff _ _ _ setParameterResponse_decodes channel outcome
      ["f1", index, subindex, value]
  | runCommand command => exact answers_commandCall_iff channel outcome [command]
  | startUdpStream => exact answers_command_iff channel outcome ["40"] (by unfold Fits; decide)
  | stopUdpStream => exact answers_command_iff channel outcome ["41"] (by unfold Fits; decide)
  | tare => exact answers_command_iff channel outcome ["12"] (by unfold Fits; decide)
  | tareReset => exact answers_command_iff channel outcome ["13"] (by unfold Fits; decide)
  | selectToolSetting toolIndex => exact answers_select_iff channel outcome "30" (by decide) 3 toolIndex
  | selectNoiseFilter filterNumber =>
    exact answers_select_iff channel outcome "31" (by decide) 4 filterNumber

/-- On an open connection, a command whose reply does not come in time raises, and a reply cut
short after the error code is taken for an acknowledgement. -/
theorem missing_and_truncated_replies :
    let opened : Channel := { Channel.new with connection := ⟨.connected, true, true⟩ }
    let truncated : Bytes := [0xff, 0xff, 0, 0, 5, 0, 0xf1, 0]
    ¬Request.Answered opened { received := none } (.runCommand "12") ∧
      ¬Request.Answered opened { received := some truncated } (.setParameter "00" "1020" "00") ∧
      (opened.runCommand { received := none } "12").2 = .error .structError ∧
      (opened.setParameter { received := some truncated } "00" "1020" "00").2.map
        SetParameterResponse.errorCode = .ok "00" := by
  refine ⟨?_, ?_, by decide, by decide⟩
  · intro answered
    have meets := (answers_commandCall_iff _ _ ["12"]).mp answered
    exact absurd meets.2 (by unfold CommandReplied; decide)
  · intro answered
    have meets := (answers_parameterCall_iff _ _ _ setParameterResponse_decodes _ _
      ["f1", "1020", "00", "00"]).mp answered
    exact absurd meets.2 (by unfold ParameterReplied; decide)

end SchunkFts.Library.ReplyHandling
