import SchunkFts.Foundation.Hex

/-! The request and response messages of the TCP channel. Every class lists its hexadecimal
fields; one encoder serves them all, while each class has its own decoder. The decoders read the
header with native byte order, here that of a little-endian host. -/

namespace SchunkFts.Library.Messages
open SchunkFts.Foundation.Struct SchunkFts.Foundation.Hex

/-- `payload_len` exists only once a message has been encoded or decoded. -/
structure Message where
  sync : String := "ffff"
  counter : Nat := 0
  payloadLen : Option Nat := none
  deriving DecidableEq, Repr

/-- `struct.pack("<H", value)` -/
def packH (value : Nat) : Result Bytes :=
  if value < 65536 then .ok (toLE 2 value) else .error .structError

/-- Each field's bytes in reverse; a field that `bytes.fromhex` refuses is passed over. -/
def encodeFields : List String → Bytes
  | [] => []
  | field :: rest =>
      match fromHex field with
      | some bytes => bytes.reverse ++ encodeFields rest
      | none => encodeFields rest

def Message.toBytes (message : Message) (fields : List String) : Message × Result Bytes :=
  let payload := encodeFields fields
  ({ message with payloadLen := some payload.length }, do
    let sync ← match fromHex message.sync with
      | some bytes => .ok bytes
      | none => .error .valueError
    let counter ← packH message.counter
    let payloadLen ← packH payload.length
    return sync ++ (counter ++ (payloadLen ++ payload)))

def readHeader (data : Bytes) : Result Message := do
  let (counter, _) ← unpack [.H] (slice data 2 4)
  let (payloadLen, _) ← unpack [.H] (slice data 4 6)
  return {
    sync := toHex (slice data 0 2), counter := counter.toNat,
    payloadLen := some payloadLen.toNat }

/-- `data[start:stop].hex()` -/
def hexField (data : Bytes) (start stop : Nat) : String := toHex (slice data start stop)

/-- `data[start:stop][::-1].hex()` -/
def hexFieldReversed (data : Bytes) (start stop : Nat) : String :=
  toHex (slice data start stop).reverse

/-- `data[start:].hex()` -/
def hexRest (data : Bytes) (start : Nat) : String := toHex (data.drop start)

structure GetParameterRequest extends Message where
  commandId : String := ""
  paramIndex : String := ""
  paramSubindex : String := ""
  deriving DecidableEq, Repr

def GetParameterRequest.fields (m : GetParameterRequest) : List String :=
  [m.commandId, m.paramIndex, m.paramSubindex]

def GetParameterRequest.fromBytes (data : Bytes) : Result GetParameterRequest := do
  let header ← readHeader data
  return {
    toMessage := header
    commandId := hexField data 6 7
    paramIndex := hexFieldReversed data 7 9
    paramSubindex := hexField data 9 10 }

structure GetParameterResponse extends Message where
  commandId : String := ""
  errorCode : String := ""
  paramIndex : String := ""
  paramSubindex : String := ""
  paramValue : String := ""
  deriving DecidableEq, Repr

def GetParameterResponse.fields (m : GetParameterResponse) : List String :=
  [m.commandId, m.errorCode, m.paramIndex, m.paramSubindex, m.paramValue]

def GetParameterResponse.fromBytes (data : Bytes) : Result GetParameterResponse := do
  let header ← readHeader data
  return {
    toMessage := header
    commandId := hexField data 6 7
    errorCode := hexField data 7 8
    paramIndex := hexFieldReversed data 8 10
    paramSubindex := hexField data 10 11
    paramValue := hexRest data 11 }

structure SetParameterRequest extends Message where
  commandId : String := ""
  paramIndex : String := ""
  paramSubindex : String := ""
  paramValue : String := ""
  deriving DecidableEq, Repr

def SetParameterRequest.fields (m : SetParameterRequest) : List String :=
  [m.commandId, m.paramIndex, m.paramSubindex, m.paramValue]

def SetParameterRequest.fromBytes (data : Bytes) : Result SetParameterRequest := do
  let header ← readHeader data
  return {
    toMessage := header
    commandId := hexField data 6 7
    paramIndex := hexFieldReversed data 7 9
    paramSubindex := hexField data 9 10
    paramValue := hexRest data 10 }

structure SetParameterResponse extends Message where
  commandId : String := ""
  errorCode : String := ""
  paramIndex : String := ""
  paramSubindex : String := ""
  deriving DecidableEq, Repr

def SetParameterResponse.fields (m : SetParameterResponse) : List String :=
  [m.commandId, m.errorCode, m.paramIndex, m.paramSubindex]

def SetParameterResponse.fromBytes (data : Bytes) : Result SetParameterResponse := do
  let header ← readHeader data
  return {
    toMessage := header
    commandId := hexField data 6 7
    errorCode := hexField data 7 8
    paramIndex := hexFieldReversed data 8 10
    paramSubindex := hexField data 10 11 }

structure CommandRequest extends Message where
  commandId : String := ""
  deriving DecidableEq, Repr

def CommandRequest.fields (m : CommandRequest) : List String := [m.commandId]

def CommandRequest.fromBytes (data : Bytes) : Result CommandRequest := do
  let header ← readHeader data
  return { toMessage := header, commandId := hexField data 6 7 }

structure CommandResponse extends Message where
  commandId : String := ""
  errorCode : String := ""
  deriving DecidableEq, Repr

def CommandResponse.fields (m : CommandResponse) : List String := [m.commandId, m.errorCode]

def CommandResponse.fromBytes (data : Bytes) : Result CommandResponse := do
  let header ← readHeader data
  return { toMessage := header, commandId := hexField data 6 7, errorCode := hexField data 7 8 }

/-- Command request with a single uint8 parameter byte. -/
structure CommandWithParameterRequest extends Message where
  commandId : String := ""
  parameter : String := ""
  deriving DecidableEq, Repr

def CommandWithParameterRequest.fields (m : CommandWithParameterRequest) : List String :=
  [m.commandId, m.parameter]

def CommandWithParameterRequest.fromBytes (data : Bytes) :
    Result CommandWithParameterRequest := do
  let header ← readHeader data
  return { toMessage := header, commandId := hexField data 6 7, parameter := hexField data 7 8 }

/-! ### Frames -/

/-- A sync mark, the counter, the payload length and the payload. -/
def frame (sync : Bytes) (counter payloadLen : Nat) (payload : Bytes) : Bytes :=
  sync ++ (toLE 2 counter ++ (toLE 2 payloadLen ++ payload))

theorem packH_of_lt (value : Nat) (small : value < 65536) : packH value = .ok (toLE 2 value) :=
  if_pos small

theorem packH_of_le (value : Nat) (large : 65536 ≤ value) : packH value = .error .structError :=
  if_neg (by omega)

@[simp] theorem encodeFields_nil : encodeFields [] = [] := rfl

@[simp] theorem encodeFields_toHex (bytes : Bytes) (rest : List String) :
    encodeFields (toHex bytes :: rest) = bytes.reverse ++ encodeFields rest := by
  simp only [encodeFields, fromHex_toHex]

/-- What a field adds to the payload. -/
theorem encodeFields_cons (field : String) (rest : List String) :
    encodeFields (field :: rest) = ((fromHex field).getD []).reverse ++ encodeFields rest := by
  rw [encodeFields]
  cases fromHex field <;> rfl

theorem toBytes_ok (message : Message) (fields : List String) (sync : Bytes)
    (mark : message.sync = toHex sync) (counter : message.counter < 65536)
    (short : (encodeFields fields).length < 65536) :
    message.toBytes fields =
      ({ message with payloadLen := some (encodeFields fields).length },
        .ok (frame sync message.counter (encodeFields fields).length (encodeFields fields))) := by
  simp only [Message.toBytes, mark, fromHex_toHex, packH_of_lt _ counter, packH_of_lt _ short,
    frame]
  rfl

theorem word_bytes (value : Nat) (small : value < 65536) :
    unpack [.H] (toLE 2 value) = .ok (BitVec.ofNat 16 value, ()) := by
  have back : (BitVec.ofNat 16 value).toNat = value := by
    rw [BitVec.toNat_ofNat, Nat.mod_eq_of_lt small]
  have packed : toLE 2 value = pack [.H] (BitVec.ofNat 16 value, ()) := by
    rw [pack, pack, List.append_nil, back]
  rw [packed, unpack_pack]
  rfl

theorem frame_header (sync : Bytes) (two : sync.length = 2) (counter payloadLen : Nat)
    (payload : Bytes) (counterSmall : counter < 65536) (lengthSmall : payloadLen < 65536) :
    readHeader (frame sync counter payloadLen payload) =
      .ok { sync := toHex sync, counter := counter, payloadLen := some payloadLen } := by
  obtain ⟨first, second, rfl⟩ := List.length_eq_two.mp two
  have counterBytes : slice (frame [first, second] counter payloadLen payload) 2 4 =
      toLE 2 counter := rfl
  have lengthBytes : slice (frame [first, second] counter payloadLen payload) 4 6 =
      toLE 2 payloadLen := rfl
  have mark : slice (frame [first, second] counter payloadLen payload) 0 2 = [first, second] := rfl
  have counterBack : counter % 2 ^ Code.H.bits = counter := Nat.mod_eq_of_lt counterSmall
  have lengthBack : payloadLen % 2 ^ Code.H.bits = payloadLen := Nat.mod_eq_of_lt lengthSmall
  rw [readHeader, counterBytes, lengthBytes, mark, word_bytes _ counterSmall,
    word_bytes _ lengthSmall]
  simp only [bind, Except.bind, pure, Except.pure, BitVec.toNat_ofNat, counterBack, lengthBack]

theorem frame_length (sync : Bytes) (two : sync.length = 2) (counter payloadLen : Nat)
    (payload : Bytes) :
    (frame sync counter payloadLen payload).length = 6 + payload.length := by
  simp only [frame, List.length_append, toLE_length, two]
  omega

/-! ### Which replies can be decoded -/

/-- A header takes six bytes. -/
theorem readHeader_of_le (data : Bytes) (long : 6 ≤ data.length) :
    ∃ header, readHeader data = .ok header := by
  have counter := unpack_of_length [.H] (slice data 2 4)
    (by rw [slice_length]; exact (by omega : min 4 data.length - 2 = 2))
  have payload := unpack_of_length [.H] (slice data 4 6)
    (by rw [slice_length]; exact (by omega : min 6 data.length - 4 = 2))
  simp only [readHeader, counter, payload]
  exact ⟨_, rfl⟩

theorem readHeader_of_lt (data : Bytes) (short : data.length < 6) :
    readHeader data = .error .structError := by
  have payload := unpack_of_length_ne [.H] (slice data 4 6)
    (by rw [slice_length]; exact (by omega : min 6 data.length - 4 ≠ 2))
  simp only [readHeader, payload]
  by_cases fits : (slice data 2 4).length = calcsize [.H]
  · rw [unpack_of_length _ _ fits]
    rfl
  · rw [unpack_of_length_ne _ _ fits]
    rfl

theorem getParameterResponse_of_le (data : Bytes) (long : 6 ≤ data.length) :
    ∃ response, GetParameterResponse.fromBytes data = .ok response ∧
      response.errorCode = hexField data 7 8 := by
  obtain ⟨header, read⟩ := readHeader_of_le data long
  simp only [GetParameterResponse.fromBytes, read]
  exact ⟨_, rfl, rfl⟩

theorem setParameterResponse_of_le (data : Bytes) (long : 6 ≤ data.length) :
    ∃ response, SetParameterResponse.fromBytes data = .ok response ∧
      response.errorCode = hexField data 7 8 := by
  obtain ⟨header, read⟩ := readHeader_of_le data long
  simp only [SetParameterResponse.fromBytes, read]
  exact ⟨_, rfl, rfl⟩

theorem setParameterResponse_of_lt (data : Bytes) (short : data.length < 6) :
    SetParameterResponse.fromBytes data = .error .structError := by
  simp only [SetParameterResponse.fromBytes, readHeader_of_lt data short]
  rfl

theorem commandResponse_of_le (data : Bytes) (long : 6 ≤ data.length) :
    ∃ response, CommandResponse.fromBytes data = .ok response ∧
      response.errorCode = hexField data 7 8 := by
  obtain ⟨header, read⟩ := readHeader_of_le data long
  simp only [CommandResponse.fromBytes, read]
  exact ⟨_, rfl, rfl⟩

theorem commandResponse_of_lt (data : Bytes) (short : data.length < 6) :
    CommandResponse.fromBytes data = .error .structError := by
  simp only [CommandResponse.fromBytes, readHeader_of_lt data short]
  rfl

/-- The error code is the eighth byte. -/
theorem errorCode_zero_iff (data : Bytes) : hexField data 7 8 = "00" ↔ data[7]? = some 0 := by
  have zero : "00" = toHex [0] := by decide
  have byte : slice data 7 8 = data[7]?.toList := by
    rw [slice, List.drop_take, List.take_one, List.head?_drop]
  rw [hexField, zero, toHex_inj, byte]
  cases data[7]? <;> simp

end SchunkFts.Library.Messages
