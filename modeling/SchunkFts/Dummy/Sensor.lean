import SchunkFts.Dummy.OutputRate

/-! The TCP side of the dummy sensor: how one message is answered, and the connections that share
one output rate while each counts its own replies. -/

namespace SchunkFts.Dummy.Sensor
open SchunkFts.Foundation.Struct OutputRate

def validCommands : List Byte := [0x10, 0x11, 0x12, 0x13, 0x20, 0x30, 0x31, 0x40, 0x41]

/-- `u16::from_le_bytes` -/
def wordFromLE (low high : Byte) : BitVec 16 := BitVec.ofNat 16 (ofLE [low, high])

/-- "KMS" -/
def placeholderValue : Bytes := [0x4b, 0x4d, 0x53]

/-- The payload answering `msg`; `none` is the panic of an index outside the message. -/
def process (rate : OutputRateState) (msg : Bytes) : Option (OutputRateState × Bytes) := do
  let commandId ← msg[6]?
  if commandId = 0xf0 then
    let low ← msg[7]?
    let high ← msg[8]?
    let paramSubindex ← msg[9]?
    let paramIndex := wordFromLE low high
    let paramValue :=
      if paramIndex = 0x1020 ∧ paramSubindex = 0x00 then [rate.get.enumValue]
      else placeholderValue
    return (rate, commandId :: 0x00 :: (toLE 2 paramIndex.toNat ++ paramSubindex :: paramValue))
  else if commandId = 0xf1 then
    let low ← msg[7]?
    let high ← msg[8]?
    let paramSubindex ← msg[9]?
    let paramIndex := wordFromLE low high
    let (rate, errorCode) ← show Option (OutputRateState × Byte) from
      if paramIndex = 0x1020 ∧ paramSubindex = 0x00 then
        if msg.length ≤ 10 then some (rate, 0x15)
        else do
          let value ← msg[10]?
          let (rate, accepted) := rate.setEnum value
          return (rate, if accepted then 0x00 else 0x16)
      else some (rate, 0x00)
    return (rate, commandId :: errorCode :: (toLE 2 paramIndex.toNat ++ [paramSubindex]))
  else if commandId ∈ validCommands then return (rate, [commandId, 0x00])
  else return (rate, [commandId, 0x01])

/-- One shared rate, and for every connection the counter of its next reply. -/
structure Server (Conn : Type) where
  rate : OutputRateState
  counter : Conn → BitVec 16

variable {Conn : Type} [DecidableEq Conn]

def Server.start : Server Conn where
  rate := .new
  counter := fun _ => 1

/-- One turn of a connection's loop on a message that arrives whole; `none` when its task ends,
on a message too short or by a panic. -/
def Server.handle (server : Server Conn) (conn : Conn) (arrived : Bytes) :
    Option (Server Conn × Bytes) :=
  let msg := arrived.take 1024
  if msg.length < 6 then none
  else do
    let (rate, payload) ← process server.rate msg
    let payloadLen : BitVec 16 := BitVec.ofNat 16 payload.length
    let response := [0xff, 0xff] ++
      (toLE 2 (server.counter conn).toNat ++ (toLE 2 payloadLen.toNat ++ payload))
    return ({
      rate := rate
      counter := Function.update server.counter conn (server.counter conn + 1) }, response)

theorem wordFromLE_bytes (low high : Byte) : toLE 2 (wordFromLE low high).toNat = [low, high] := by
  have lowBound := low.isLt
  have highBound := high.isLt
  have bound : ofLE [low, high] < 65536 := by
    simp only [ofLE]
    omega
  have back : (wordFromLE low high).toNat = ofLE [low, high] := by
    rw [wordFromLE, BitVec.toNat_ofNat]
    exact Nat.mod_eq_of_lt bound
  rw [back]
  exact toLE_ofLE [low, high]

theorem wordFromLE_eq (low high : Byte) : wordFromLE low high = 0x1020 ↔ [high, low] = [0x10, 0x20] := by
  constructor
  · intro same
    have bytes := wordFromLE_bytes low high
    rw [same] at bytes
    have ends : ([0x20, 0x10] : Bytes) = [low, high] := bytes
    cases ends
    rfl
  · intro same
    cases same
    rfl

/-- The value a parameter request is answered with. -/
def parameterValue (rate : OutputRateState) (high low subindex : Byte) : Bytes :=
  if [high, low] = [0x10, 0x20] ∧ subindex = 0x00 then [rate.get.enumValue] else placeholderValue

theorem parameterValue_length (rate : OutputRateState) (high low subindex : Byte) :
    (parameterValue rate high low subindex).length ≤ 3 := by
  unfold parameterValue
  split_ifs
  · exact Nat.le_of_ble_eq_true rfl
  · exact Nat.le_of_ble_eq_true rfl

theorem process_get (rate : OutputRateState) (a b c d e f low high subindex : Byte) :
    process rate [a, b, c, d, e, f, 0xf0, low, high, subindex] =
      some (rate, 0xf0 :: 0x00 :: low :: high :: subindex ::
        parameterValue rate high low subindex) := by
  have shape : process rate [a, b, c, d, e, f, 0xf0, low, high, subindex] =
      some (rate, 0xf0 :: 0x00 :: (toLE 2 (wordFromLE low high).toNat ++ subindex ::
        (if wordFromLE low high = 0x1020 ∧ subindex = 0x00 then [rate.get.enumValue]
          else placeholderValue))) := rfl
  rw [shape, wordFromLE_bytes, parameterValue]
  simp only [wordFromLE_eq, List.cons_append, List.nil_append]

/-- The rate after a set request with that value, and the error code it is answered with. -/
def setOutcome (rate : OutputRateState) (high low subindex value : Byte) : OutputRateState × Byte :=
  if [high, low] = [0x10, 0x20] ∧ subindex = 0x00 then
    ((rate.setEnum value).1, if (rate.setEnum value).2 then 0x00 else 0x16)
  else (rate, 0x00)

theorem process_set (rate : OutputRateState) (a b c d e f low high subindex value : Byte)
    (rest : Bytes) :
    process rate (a :: b :: c :: d :: e :: f :: 0xf1 :: low :: high :: subindex :: value :: rest) =
      some ((setOutcome rate high low subindex value).1,
        [0xf1, (setOutcome rate high low subindex value).2, low, high, subindex]) := by
  have long : ¬(a :: b :: c :: d :: e :: f :: 0xf1 :: low :: high :: subindex :: value ::
      rest).length ≤ 10 := by
    simp only [List.length_cons]
    omega
  unfold process setOutcome
  simp only [← wordFromLE_eq, List.getElem?_cons_succ, List.getElem?_cons_zero,
    Option.bind_eq_bind, Option.bind_some, if_neg long]
  rw [if_neg (by decide), if_pos trivial]
  by_cases outputRate : wordFromLE low high = 0x1020 ∧ subindex = 0x00
  · simp only [if_pos outputRate, wordFromLE_bytes]
    rfl
  · simp only [if_neg outputRate, wordFromLE_bytes]
    rfl

/-- The error code a plain command is answered with. -/
def commandCode (command : Byte) : Byte := if command ∈ validCommands then 0x00 else 0x01

theorem process_command (rate : OutputRateState) (a b c d e f command : Byte)
    (notGet : command ≠ 0xf0) (notSet : command ≠ 0xf1) :
    process rate [a, b, c, d, e, f, command] =
      some (rate, [command, commandCode command]) := by
  unfold process commandCode
  simp only [List.getElem?_cons_succ, List.getElem?_cons_zero, Option.bind_eq_bind,
    Option.bind_some, if_neg notGet, if_neg notSet]
  split_ifs <;> rfl

/-- A payload starts with the command it answers. -/
theorem process_commandId (rate next : OutputRateState) (msg payload : Bytes)
    (answered : process rate msg = some (next, payload)) :
    ∃ command rest, msg[6]? = some command ∧ payload = command :: rest := by
  unfold process at answered
  obtain ⟨command, found, answered⟩ := Option.bind_eq_some_iff.mp answered
  refine ⟨command, payload.tail, found, ?_⟩
  by_cases get : command = 0xf0
  · rw [if_pos get] at answered
    obtain ⟨low, _, answered⟩ := Option.bind_eq_some_iff.mp answered
    obtain ⟨high, _, answered⟩ := Option.bind_eq_some_iff.mp answered
    obtain ⟨subindex, _, answered⟩ := Option.bind_eq_some_iff.mp answered
    cases answered
    rfl
  · rw [if_neg get] at answered
    by_cases set : command = 0xf1
    · rw [if_pos set] at answered
      obtain ⟨low, _, answered⟩ := Option.bind_eq_some_iff.mp answered
      obtain ⟨high, _, answered⟩ := Option.bind_eq_some_iff.mp answered
      obtain ⟨subindex, _, answered⟩ := Option.bind_eq_some_iff.mp answered
      obtain ⟨outcome, _, answered⟩ := Option.bind_eq_some_iff.mp answered
      cases answered
      rfl
    · rw [if_neg set] at answered
      by_cases valid : command ∈ validCommands
      · rw [if_pos valid] at answered
        cases answered
        rfl
      · rw [if_neg valid] at answered
        cases answered
        rfl

/-- So does the payload in the reply of a connection. -/
theorem handle_commandId (server next : Server Conn) (conn : Conn) (msg reply : Bytes)
    (answered : server.handle conn msg = some (next, reply)) : reply[6]? = msg[6]? := by
  simp only [Server.handle] at answered
  split_ifs at answered
  obtain ⟨⟨rate, payload⟩, processed, answered⟩ := Option.bind_eq_some_iff.mp answered
  obtain ⟨command, rest, found, rfl⟩ := process_commandId _ _ _ _ processed
  rw [List.getElem?_take_of_lt (by decide)] at found
  cases answered
  rw [found]
  rfl

end SchunkFts.Dummy.Sensor
