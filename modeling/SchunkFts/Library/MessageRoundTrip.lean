import SchunkFts.Library.Messages

/-! Encoding a message and decoding the result into a fresh object of its class. The encoder
reverses every field; the decoders undo this for `param_index` but take `param_value` as it
stands, so the two classes with a value come back only when its bytes are a palindrome. -/

namespace SchunkFts.Library.MessageRoundTrip
open SchunkFts.Foundation.Struct SchunkFts.Foundation.Hex Messages

inductive AnyMessage where
  | getParameterRequest (m : GetParameterRequest)
  | getParameterResponse (m : GetParameterResponse)
  | setParameterRequest (m : SetParameterRequest)
  | setParameterResponse (m : SetParameterResponse)
  | commandRequest (m : CommandRequest)
  | commandResponse (m : CommandResponse)
  | commandWithParameterRequest (m : CommandWithParameterRequest)
  deriving DecidableEq, Repr

namespace AnyMessage

def message : AnyMessage → Message
  | getParameterRequest m => m.toMessage
  | getParameterResponse m => m.toMessage
  | setParameterRequest m => m.toMessage
  | setParameterResponse m => m.toMessage
  | commandRequest m => m.toMessage
  | commandResponse m => m.toMessage
  | commandWithParameterRequest m => m.toMessage

def withMessage : AnyMessage → Message → AnyMessage
  | getParameterRequest m, base => getParameterRequest { m with toMessage := base }
  | getParameterResponse m, base => getParameterResponse { m with toMessage := base }
  | setParameterRequest m, base => setParameterRequest { m with toMessage := base }
  | setParameterResponse m, base => setParameterResponse { m with toMessage := base }
  | commandRequest m, base => commandRequest { m with toMessage := base }
  | commandResponse m, base => commandResponse { m with toMessage := base }
  | commandWithParameterRequest m, base => commandWithParameterRequest { m with toMessage := base }

def fields : AnyMessage → List String
  | getParameterRequest m => m.fields
  | getParameterResponse m => m.fields
  | setParameterRequest m => m.fields
  | setParameterResponse m => m.fields
  | commandRequest m => m.fields
  | commandResponse m => m.fields
  | commandWithParameterRequest m => m.fields

/-- The object after `to_bytes`, which records `payload_len`, and the bytes. -/
def toBytes (m : AnyMessage) : AnyMessage × Result Bytes :=
  let (base, data) := m.message.toBytes m.fields
  (m.withMessage base, data)

/-- `from_bytes` on a fresh object of the same class. -/
def fromBytes : AnyMessage → Bytes → Result AnyMessage
  | getParameterRequest _, data => getParameterRequest <$> GetParameterRequest.fromBytes data
  | getParameterResponse _, data => getParameterResponse <$> GetParameterResponse.fromBytes data
  | setParameterRequest _, data => setParameterRequest <$> SetParameterRequest.fromBytes data
  | setParameterResponse _, data => setParameterResponse <$> SetParameterResponse.fromBytes data
  | commandRequest _, data => commandRequest <$> CommandRequest.fromBytes data
  | commandResponse _, data => commandResponse <$> CommandResponse.fromBytes data
  | commandWithParameterRequest _, data =>
      commandWithParameterRequest <$> CommandWithParameterRequest.fromBytes data

/-- Decoding the encoded bytes gives the encoded object back, `payload_len` included. -/
def RoundTrips (m : AnyMessage) : Prop :=
  ∃ sent data, m.toBytes = (sent, .ok data) ∧ m.fromBytes data = .ok sent

/-- Every field has the lower-case digits of its width; a value has any even number of them. -/
def FieldsWellFormed : AnyMessage → Prop
  | getParameterRequest m =>
      IsLowerHex 2 m.commandId ∧ IsLowerHex 4 m.paramIndex ∧ IsLowerHex 2 m.paramSubindex
  | getParameterResponse m =>
      IsLowerHex 2 m.commandId ∧ IsLowerHex 2 m.errorCode ∧ IsLowerHex 4 m.paramIndex ∧
        IsLowerHex 2 m.paramSubindex ∧ ∃ count, IsLowerHex (2 * count) m.paramValue
  | setParameterRequest m =>
      IsLowerHex 2 m.commandId ∧ IsLowerHex 4 m.paramIndex ∧ IsLowerHex 2 m.paramSubindex ∧
        ∃ count, IsLowerHex (2 * count) m.paramValue
  | setParameterResponse m =>
      IsLowerHex 2 m.commandId ∧ IsLowerHex 2 m.errorCode ∧ IsLowerHex 4 m.paramIndex ∧
        IsLowerHex 2 m.paramSubindex
  | commandRequest m => IsLowerHex 2 m.commandId
  | commandResponse m => IsLowerHex 2 m.commandId ∧ IsLowerHex 2 m.errorCode
  | commandWithParameterRequest m => IsLowerHex 2 m.commandId ∧ IsLowerHex 2 m.parameter

structure WellFormed (m : AnyMessage) : Prop where
  sync : IsLowerHex 4 m.message.sync
  counter : m.message.counter < 65536
  fields : m.FieldsWellFormed
  short : (encodeFields m.fields).length < 65536

/-- The bytes a value spells, read backwards, are the same bytes. -/
def IsPalindrome (value : String) : Prop :=
  (fromHex value).map List.reverse = fromHex value

instance (value : String) : Decidable (IsPalindrome value) :=
  inferInstanceAs (Decidable (_ = _))

def ValueReadsBothWays : AnyMessage → Prop
  | getParameterResponse m => IsPalindrome m.paramValue
  | setParameterRequest m => IsPalindrome m.paramValue
  | _ => True

end AnyMessage

open AnyMessage

theorem isPalindrome_toHex (bytes : Bytes) :
    IsPalindrome (toHex bytes) ↔ bytes.reverse = bytes := by
  rw [IsPalindrome, fromHex_toHex, Option.map_some, Option.some_inj]

theorem lowerHex_byte (text : String) (lower : IsLowerHex 2 text) :
    ∃ byte : Byte, text = toHex [byte] := by
  obtain ⟨data, size, rfl⟩ := lowerHex_bytes 1 text lower
  obtain ⟨byte, rfl⟩ := List.length_eq_one_iff.mp size
  exact ⟨byte, rfl⟩

theorem lowerHex_word (text : String) (lower : IsLowerHex 4 text) :
    ∃ high low : Byte, text = toHex [high, low] := by
  obtain ⟨data, size, rfl⟩ := lowerHex_bytes 2 text lower
  obtain ⟨high, low, rfl⟩ := List.length_eq_two.mp size
  exact ⟨high, low, rfl⟩

/-- The header of an encoded message. -/
def sentHeader (message : Message) (payload : Bytes) : Message :=
  { message with payloadLen := some payload.length }

/-- Of a well-formed message only the decoding of its frame is left to compare. -/
theorem roundTrips_iff_decoded (m : AnyMessage) (first second : Byte)
    (mark : m.message.sync = toHex [first, second]) (counter : m.message.counter < 65536)
    (short : (encodeFields m.fields).length < 65536) :
    m.RoundTrips ↔
      m.fromBytes (frame [first, second] m.message.counter (encodeFields m.fields).length
        (encodeFields m.fields)) =
          .ok (m.withMessage (sentHeader m.message (encodeFields m.fields))) := by
  have encoded := toBytes_ok m.message m.fields [first, second] mark counter short
  have whole : m.toBytes = (m.withMessage (sentHeader m.message (encodeFields m.fields)),
      .ok (frame [first, second] m.message.counter (encodeFields m.fields).length
        (encodeFields m.fields))) := by
    rw [AnyMessage.toBytes, encoded]
    rfl
  constructor
  · rintro ⟨sent, data, produced, decoded⟩
    rw [whole] at produced
    obtain ⟨rfl, same⟩ := Prod.mk.inj produced
    cases same
    exact decoded
  · intro decoded
    exact ⟨_, _, whole, decoded⟩

/-- The header a frame decodes to is the one that was sent. -/
theorem frame_sentHeader (message : Message) (first second : Byte) (payload : Bytes)
    (mark : message.sync = toHex [first, second]) (counter : message.counter < 65536)
    (short : payload.length < 65536) :
    readHeader (frame [first, second] message.counter payload.length payload) =
      .ok (sentHeader message payload) := by
  rw [frame_header _ rfl _ _ _ counter short, sentHeader, mark]

/-- The values two decoded objects differ in, all else being equal. -/
theorem value_iff {α : Type} (build : String → α) (injective : Function.Injective build)
    (bytes : Bytes) :
    (Except.ok (build (toHex bytes.reverse)) : Result α) = .ok (build (toHex bytes)) ↔
      IsPalindrome (toHex bytes) := by
  rw [isPalindrome_toHex, Except.ok.injEq, injective.eq_iff, toHex_inj]

/-- A well-formed message survives encoding and decoding exactly when its value, if its class has
one, spells the same bytes in both directions. -/
theorem roundTrips_iff (m : AnyMessage) (wellFormed : m.WellFormed) :
    m.RoundTrips ↔ m.ValueReadsBothWays := by
  obtain ⟨sync, counter, fields, short⟩ := wellFormed
  obtain ⟨first, second, mark⟩ := lowerHex_word _ sync
  rw [roundTrips_iff_decoded m first second mark counter short]
  have header := frame_sentHeader m.message first second (encodeFields m.fields) mark counter short
  cases m with
  | getParameterRequest m =>
    obtain ⟨message, commandId, paramIndex, paramSubindex⟩ := m
    obtain ⟨command, index, subindex⟩ := fields
    obtain ⟨c, rfl⟩ := lowerHex_byte _ command
    obtain ⟨high, low, rfl⟩ := lowerHex_word _ index
    obtain ⟨s, rfl⟩ := lowerHex_byte _ subindex
    simp only [AnyMessage.fields, GetParameterRequest.fields, encodeFields_toHex,
      encodeFields_nil] at header ⊢
    rw [AnyMessage.fromBytes, GetParameterRequest.fromBytes, header]
    exact iff_of_true rfl trivial
  | getParameterResponse m =>
    obtain ⟨message, commandId, errorCode, paramIndex, paramSubindex, paramValue⟩ := m
    obtain ⟨command, error, index, subindex, count, value⟩ := fields
    obtain ⟨c, rfl⟩ := lowerHex_byte _ command
    obtain ⟨e, rfl⟩ := lowerHex_byte _ error
    obtain ⟨high, low, rfl⟩ := lowerHex_word _ index
    obtain ⟨s, rfl⟩ := lowerHex_byte _ subindex
    obtain ⟨v, _, rfl⟩ := lowerHex_bytes count _ value
    simp only [AnyMessage.fields, GetParameterResponse.fields, encodeFields_toHex,
      encodeFields_nil, List.append_nil] at header ⊢
    rw [AnyMessage.fromBytes, GetParameterResponse.fromBytes, header]
    exact value_iff (fun text => getParameterResponse {
      toMessage := sentHeader message _, commandId := toHex [c], errorCode := toHex [e],
      paramIndex := toHex [high, low], paramSubindex := toHex [s], paramValue := text })
      (fun _ _ same => congrArg GetParameterResponse.paramValue (getParameterResponse.inj same)) v
  | setParameterRequest m =>
    obtain ⟨message, commandId, paramIndex, paramSubindex, paramValue⟩ := m
    obtain ⟨command, index, subindex, count, value⟩ := fields
    obtain ⟨c, rfl⟩ := lowerHex_byte _ command
    obtain ⟨high, low, rfl⟩ := lowerHex_word _ index
    obtain ⟨s, rfl⟩ := lowerHex_byte _ subindex
    obtain ⟨v, _, rfl⟩ := lowerHex_bytes count _ value
    simp only [AnyMessage.fields, SetParameterRequest.fields, encodeFields_toHex,
      encodeFields_nil, List.append_nil] at header ⊢
    rw [AnyMessage.fromBytes, SetParameterRequest.fromBytes, header]
    exact value_iff (fun text => setParameterRequest {
      toMessage := sentHeader message _, commandId := toHex [c], paramIndex := toHex [high, low],
      paramSubindex := toHex [s], paramValue := text })
      (fun _ _ same => congrArg SetParameterRequest.paramValue (setParameterRequest.inj same)) v
  | setParameterResponse m =>
    obtain ⟨message, commandId, errorCode, paramIndex, paramSubindex⟩ := m
    obtain ⟨command, error, index, subindex⟩ := fields
    obtain ⟨c, rfl⟩ := lowerHex_byte _ command
    obtain ⟨e, rfl⟩ := lowerHex_byte _ error
    obtain ⟨high, low, rfl⟩ := lowerHex_word _ index
    obtain ⟨s, rfl⟩ := lowerHex_byte _ subindex
    simp only [AnyMessage.fields, SetParameterResponse.fields, encodeFields_toHex,
      encodeFields_nil] at header ⊢
    rw [AnyMessage.fromBytes, SetParameterResponse.fromBytes, header]
    exact iff_of_true rfl trivial
  | commandRequest m =>
    obtain ⟨message, commandId⟩ := m
    obtain ⟨c, rfl⟩ := lowerHex_byte _ fields
    simp only [AnyMessage.fields, CommandRequest.fields, encodeFields_toHex,
      encodeFields_nil] at header ⊢
    rw [AnyMessage.fromBytes, CommandRequest.fromBytes, header]
    exact iff_of_true rfl trivial
  | commandResponse m =>
    obtain ⟨message, commandId, errorCode⟩ := m
    obtain ⟨command, error⟩ := fields
    obtain ⟨c, rfl⟩ := lowerHex_byte _ command
    obtain ⟨e, rfl⟩ := lowerHex_byte _ error
    simp only [AnyMessage.fields, CommandResponse.fields, encodeFields_toHex,
      encodeFields_nil] at header ⊢
    rw [AnyMessage.fromBytes, CommandResponse.fromBytes, header]
    exact iff_of_true rfl trivial
  | commandWithParameterRequest m =>
    obtain ⟨message, commandId, parameter⟩ := m
    obtain ⟨command, value⟩ := fields
    obtain ⟨c, rfl⟩ := lowerHex_byte _ command
    obtain ⟨p, rfl⟩ := lowerHex_byte _ value
    simp only [AnyMessage.fields, CommandWithParameterRequest.fields, encodeFields_toHex,
      encodeFields_nil] at header ⊢
    rw [AnyMessage.fromBytes, CommandWithParameterRequest.fromBytes, header]
    exact iff_of_true rfl trivial

/-- A request to set a two-byte value, as the client builds it. -/
def twoByteValue : AnyMessage :=
  setParameterRequest {
    commandId := "f1", paramIndex := "1234", paramSubindex := "02", paramValue := "0142" }

theorem twoByteValue_wellFormed : twoByteValue.WellFormed where
  sync := by decide
  counter := by decide
  fields := ⟨by decide, by decide, by decide, 2, by decide⟩
  short := by decide

theorem roundTrips_twoByteValue : twoByteValue.RoundTrips ↔ twoByteValue.ValueReadsBothWays :=
  roundTrips_iff twoByteValue twoByteValue_wellFormed

/-- The value comes back with its bytes swapped. -/
theorem twoByteValue_swapped :
    ¬ ∀ m : AnyMessage, m.WellFormed → m.RoundTrips := by
  intro all
  obtain ⟨sent, data, encoded, decoded⟩ := all twoByteValue twoByteValue_wellFormed
  have bytes : twoByteValue.toBytes = (setParameterRequest {
      payloadLen := some 6, commandId := "f1", paramIndex := "1234", paramSubindex := "02",
      paramValue := "0142" },
      .ok [0xff, 0xff, 0, 0, 6, 0, 0xf1, 0x34, 0x12, 0x02, 0x42, 0x01]) := by decide
  rw [bytes] at encoded
  cases encoded
  revert decoded
  decide

end SchunkFts.Library.MessageRoundTrip
