import SchunkFts.Dummy.Sensor
import SchunkFts.Library.MessageRoundTrip
import SchunkFts.Library.Requests

/-! The Python client against the dummy sensor. Seen from the client the dummy is a counter for
each connection and one stored byte, the last output rate accepted on any of them. -/

namespace SchunkFts.Dummy.Session
open SchunkFts.Foundation.Struct SchunkFts.Foundation.Hex
open SchunkFts.Library.Messages SchunkFts.Library.MessageRoundTrip SchunkFts.Library.Requests
open OutputRate Sensor

inductive Request where
  | getParameter (index subindex : String)
  | setParameter (value index subindex : String)
  | command (id : String)

inductive Response where
  | getParameter (response : GetParameterResponse)
  | setParameter (response : SetParameterResponse)
  | command (response : CommandResponse)

def Request.frame : Request → Result Bytes
  | getParameter index subindex => getParameterFrame index subindex
  | setParameter value index subindex => setParameterFrame value index subindex
  | command id => commandFrame id

def Request.decode : Request → Bytes → Result Response
  | getParameter _ _, reply => .getParameter <$> GetParameterResponse.fromBytes reply
  | setParameter _ _ _, reply => .setParameter <$> SetParameterResponse.fromBytes reply
  | command _, reply => .command <$> CommandResponse.fromBytes reply

/-- Fields of their widths, a value that is not empty, and a frame that one read takes in. -/
def Request.WellFormed : Request → Prop
  | getParameter index subindex => IsLowerHex 4 index ∧ IsLowerHex 2 subindex
  | setParameter value index subindex =>
      IsLowerHex 4 index ∧ IsLowerHex 2 subindex ∧
        ∃ count, 0 < count ∧ 10 + count ≤ 1024 ∧ IsLowerHex (2 * count) value
  | command id => IsLowerHex 2 id ∧ id ≠ "f0" ∧ id ≠ "f1"

variable {Conn : Type} [DecidableEq Conn]

/-- One request, its reply and the reply's decoding. -/
def exchange (server : Server Conn) (conn : Conn) (request : Request) :
    Option (Server Conn × Response) := do
  let msg ← request.frame.toOption
  let (server, reply) ← server.handle conn msg
  let response ← (request.decode reply).toOption
  return (server, response)

def serverAfter (server : Server Conn) : List (Conn × Request) → Option (Server Conn)
  | [] => some server
  | (conn, request) :: later => do
      let (server, _) ← exchange server conn request
      serverAfter server later

/-! ### What the client may expect -/

/-- The first byte of the value on the wire, after the header, command, index and subindex. -/
def firstValueByte (value index subindex : String) : Option Byte :=
  match setParameterFrame value index subindex with
  | .ok msg => msg[10]?
  | .error _ => none

/-- The output rate a request sets, if it is one the sensor accepts. -/
def accepted : Request → Option Byte
  | .setParameter value index subindex =>
      if index = "1020" ∧ subindex = "00" then
        (firstValueByte value index subindex).filter enumValues.contains
      else none
  | _ => none

def lastAccepted (history : List (Conn × Request)) : Byte :=
  ((history.filterMap (fun step => accepted step.2)).getLast?).getD 0

def repliesOn (conn : Conn) (history : List (Conn × Request)) : Nat :=
  history.countP (fun step => step.1 = conn)

/-- The reply to a request on `conn` after `history`. -/
def Answers (history : List (Conn × Request)) (conn : Conn) : Request → Response → Prop
  | .getParameter index subindex, .getParameter response =>
      response.counter = (repliesOn conn history + 1) % 65536 ∧
      response.commandId = "f0" ∧ response.paramIndex = index ∧
      response.paramSubindex = subindex ∧ response.errorCode = "00" ∧
      (index = "1020" ∧ subindex = "00" → response.paramValue = toHex [lastAccepted history])
  | .setParameter value index subindex, .setParameter response =>
      response.counter = (repliesOn conn history + 1) % 65536 ∧
      response.commandId = "f1" ∧ response.paramIndex = index ∧
      response.paramSubindex = subindex ∧
      (index = "1020" ∧ subindex = "00" →
        response.errorCode =
          if (firstValueByte value index subindex).any enumValues.contains then "00" else "16")
  | .command id, .command response =>
      response.counter = (repliesOn conn history + 1) % 65536 ∧
      response.commandId = id ∧
      response.errorCode =
        if validCommands.any (fun byte => id = toHex [byte]) then "00" else "01"
  | _, _ => False

/-- The server holds what the history says. -/
def Holds (server : Server Conn) (history : List (Conn × Request)) : Prop :=
  server.rate.get.enumValue = lastAccepted history ∧
    ∀ conn, server.counter conn = BitVec.ofNat 16 (repliesOn conn history + 1)

theorem holds_start : Holds (Server.start : Server Conn) [] := ⟨rfl, fun _ => rfl⟩

omit [DecidableEq Conn] in
theorem lastAccepted_snoc (history : List (Conn × Request)) (conn : Conn) (request : Request) :
    lastAccepted (history ++ [(conn, request)]) =
      (accepted request).getD (lastAccepted history) := by
  rw [lastAccepted, List.filterMap_append]
  cases found : accepted request with
  | none => simp [found, lastAccepted]
  | some byte => simp [found]

theorem repliesOn_snoc (history : List (Conn × Request)) (conn other : Conn) (request : Request) :
    repliesOn other (history ++ [(conn, request)]) =
      repliesOn other history + if conn = other then 1 else 0 := by
  rw [repliesOn, List.countP_append, repliesOn]
  by_cases same : conn = other <;> simp [same]

/-- After an answer the reply counter of the connection has moved on and no other has. -/
theorem holds_next (server : Server Conn) (history : List (Conn × Request)) (conn : Conn)
    (request : Request) (rate : OutputRateState) (holds : Holds server history)
    (stored : rate.get.enumValue = (accepted request).getD (lastAccepted history)) :
    Holds { rate := rate, counter := Function.update server.counter conn (server.counter conn + 1) }
      (history ++ [(conn, request)]) := by
  refine ⟨stored.trans (lastAccepted_snoc history conn request).symm, ?_⟩
  intro other
  show Function.update server.counter conn (server.counter conn + 1) other = _
  rw [repliesOn_snoc]
  by_cases same : conn = other
  · subst same
    rw [Function.update_self, holds.2 conn, if_pos rfl]
    exact (BitVec.ofNat_add (repliesOn conn history + 1) 1).symm
  · rw [Function.update_of_ne (Ne.symm same), holds.2 other, if_neg same, Nat.add_zero]

theorem counter_toNat (server : Server Conn) (history : List (Conn × Request)) (conn : Conn)
    (holds : Holds server history) :
    (server.counter conn).toNat = (repliesOn conn history + 1) % 65536 := by
  rw [holds.2 conn]
  exact BitVec.toNat_ofNat _ _

/-- A message the sensor has a payload for is answered under the connection's counter. -/
theorem handle_reply (server : Server Conn) (conn : Conn) (msg : Bytes) (rate : OutputRateState)
    (payload : Bytes) (long : 6 ≤ msg.length) (fits : msg.length ≤ 1024)
    (short : payload.length < 65536) (answered : process server.rate msg = some (rate, payload)) :
    server.handle conn msg = some (
      { rate := rate, counter := Function.update server.counter conn (server.counter conn + 1) },
      frame [0xff, 0xff] (server.counter conn).toNat payload.length payload) := by
  have whole : msg.take 1024 = msg := List.take_of_length_le fits
  have length : (BitVec.ofNat 16 payload.length).toNat = payload.length := by
    rw [BitVec.toNat_ofNat]
    exact Nat.mod_eq_of_lt short
  rw [Server.handle, whole]
  simp only [if_neg (not_lt.mpr long), answered, Option.bind_eq_bind, Option.bind_some, length]
  rfl

theorem exchange_reply (server : Server Conn) (conn : Conn) (request : Request) (msg : Bytes)
    (rate : OutputRateState) (payload : Bytes) (response : Response)
    (sent : request.frame = .ok msg) (long : 6 ≤ msg.length) (fits : msg.length ≤ 1024)
    (short : payload.length < 65536) (answered : process server.rate msg = some (rate, payload))
    (decoded : request.decode (frame [0xff, 0xff] (server.counter conn).toNat payload.length
      payload) = .ok response) :
    exchange server conn request = some (
      { rate := rate, counter := Function.update server.counter conn (server.counter conn + 1) },
      response) := by
  have reply := handle_reply server conn msg rate payload long fits short answered
  simp only [exchange, sent, Except.toOption, Option.bind_eq_bind, Option.bind_some, reply, decoded]
  rfl

/-! ### The messages of the client -/

theorem getParameter_msg (high low s : Byte) :
    getParameterFrame (toHex [high, low]) (toHex [s]) =
      .ok [0xff, 0xff, 0, 0, 4, 0, 0xf0, low, high, s] := by
  have command : ("f0" : String) = toHex [0xf0] := by decide
  have payload : encodeFields ["f0", toHex [high, low], toHex [s]] = [0xf0, low, high, s] := by
    simp only [command, encodeFields_toHex, encodeFields_nil]
    rfl
  have length : ([0xf0, low, high, s] : Bytes).length = 4 := rfl
  apply (default_frame_iff ["f0", toHex [high, low], toHex [s]] _).mpr
  rw [payload, length]
  exact ⟨by decide, rfl⟩

theorem setParameter_msg (high low s : Byte) (v : Bytes) (fits : v.length ≤ 1014) :
    setParameterFrame (toHex v) (toHex [high, low]) (toHex [s]) =
      .ok (frame [0xff, 0xff] 0 (4 + v.length) (0xf1 :: low :: high :: s :: v.reverse)) := by
  have command : ("f1" : String) = toHex [0xf1] := by decide
  have payload : encodeFields ["f1", toHex [high, low], toHex [s], toHex v] =
      0xf1 :: low :: high :: s :: v.reverse := by
    simp only [command, encodeFields_toHex, encodeFields_nil, List.append_nil]
    rfl
  have length : (0xf1 :: low :: high :: s :: v.reverse).length = 4 + v.length := by
    simp only [List.length_cons, List.length_reverse]
    omega
  apply (default_frame_iff ["f1", toHex [high, low], toHex [s], toHex v] _).mpr
  rw [payload, length]
  exact ⟨by omega, rfl⟩

theorem command_msg (c : Byte) :
    commandFrame (toHex [c]) = .ok [0xff, 0xff, 0, 0, 1, 0, c] := by
  have payload : encodeFields [toHex [c]] = [c] := by
    rw [encodeFields_toHex, encodeFields_nil]
    rfl
  have length : ([c] : Bytes).length = 1 := rfl
  apply (default_frame_iff [toHex [c]] _).mpr
  rw [payload, length]
  exact ⟨by decide, rfl⟩

theorem outputRate_iff (high low s : Byte) :
    (toHex [high, low] = "1020" ∧ toHex [s] = "00") ↔ ([high, low] = [0x10, 0x20] ∧ s = 0x00) := by
  have index : ("1020" : String) = toHex [0x10, 0x20] := by decide
  have subindex : ("00" : String) = toHex [0x00] := by decide
  rw [index, subindex, toHex_inj, toHex_inj]
  simp

/-! ### One exchange -/

/-- What one exchange promises, in the state the history has led to. -/
def Serves (server : Server Conn) (history : List (Conn × Request)) (conn : Conn)
    (request : Request) : Prop :=
  ∃ next response, exchange server conn request = some (next, response) ∧
    Answers history conn request response ∧ Holds next (history ++ [(conn, request)]) ∧
    (accepted request = none → next.rate = server.rate)

theorem serves_get (server : Server Conn) (history : List (Conn × Request)) (conn : Conn)
    (holds : Holds server history) (high low s : Byte) :
    Serves server history conn (.getParameter (toHex [high, low]) (toHex [s])) := by
  let payload := 0xf0 :: 0x00 :: low :: high :: s :: parameterValue server.rate high low s
  have small : payload.length < 65536 := by
    have bound := parameterValue_length server.rate high low s
    simp only [payload, List.length_cons]
    omega
  have header := frame_header [0xff, 0xff] rfl (server.counter conn).toNat payload.length payload
    (server.counter conn).isLt small
  have answered := process_get server.rate 0xff 0xff 0 0 4 0 low high s
  refine ⟨_, .getParameter {
      sync := toHex [0xff, 0xff], counter := (server.counter conn).toNat,
      payloadLen := some payload.length, commandId := toHex [0xf0], errorCode := toHex [0x00],
      paramIndex := toHex [high, low], paramSubindex := toHex [s],
      paramValue := toHex (parameterValue server.rate high low s) },
    exchange_reply server conn _ _ server.rate payload _ (getParameter_msg high low s) (by simp)
      (by simp) small answered ?_, ?_, ?_, ?_⟩
  · rw [Request.decode, GetParameterResponse.fromBytes, header]
    rfl
  · refine ⟨counter_toNat server history conn holds, ?_, rfl, rfl, ?_, ?_⟩
    · show toHex [0xf0] = "f0"
      decide
    · show toHex [0x00] = "00"
      decide
    · intro outputRate
      show toHex (parameterValue server.rate high low s) = _
      rw [parameterValue, if_pos ((outputRate_iff high low s).mp outputRate), holds.1]
  · exact holds_next server history conn _ server.rate holds holds.1
  · exact fun _ => rfl

theorem serves_command (server : Server Conn) (history : List (Conn × Request)) (conn : Conn)
    (holds : Holds server history) (c : Byte) (notGet : c ≠ 0xf0) (notSet : c ≠ 0xf1) :
    Serves server history conn (.command (toHex [c])) := by
  have header := frame_header [0xff, 0xff] rfl (server.counter conn).toNat
    [c, commandCode c].length [c, commandCode c] (server.counter conn).isLt (by simp)
  have answered := process_command server.rate 0xff 0xff 0 0 1 0 c notGet notSet
  refine ⟨_, .command {
      sync := toHex [0xff, 0xff], counter := (server.counter conn).toNat, payloadLen := some 2,
      commandId := toHex [c], errorCode := toHex [commandCode c] },
    exchange_reply server conn _ _ server.rate _ _ (command_msg c) (by simp) (by simp) (by simp)
      answered ?_, ?_, ?_, ?_⟩
  · rw [Request.decode, CommandResponse.fromBytes, header]
    rfl
  · refine ⟨counter_toNat server history conn holds, rfl, ?_⟩
    show toHex [commandCode c] = _
    have listed : validCommands.any (fun byte => toHex [c] = toHex [byte]) = true ↔
        c ∈ validCommands := by
      simp [toHex_inj]
    simp only [listed, commandCode]
    split_ifs
    · decide
    · decide
  · exact holds_next server history conn _ server.rate holds holds.1
  · exact fun _ => rfl

theorem firstValueByte_sent (high low s value : Byte) (v rest : Bytes)
    (first : v.reverse = value :: rest) (fits : v.length ≤ 1014) :
    firstValueByte (toHex v) (toHex [high, low]) (toHex [s]) = some value := by
  rw [firstValueByte, setParameter_msg high low s v fits, first]
  rfl

/-- The sensor's rate and error code follow from what the request sets. -/
theorem setOutcome_accepted (rate : OutputRateState) (high low s value : Byte) (v rest : Bytes)
    (first : v.reverse = value :: rest) (fits : v.length ≤ 1014) :
    (setOutcome rate high low s value).1.get.enumValue =
        (accepted (.setParameter (toHex v) (toHex [high, low]) (toHex [s]))).getD
          rate.get.enumValue ∧
      (accepted (.setParameter (toHex v) (toHex [high, low]) (toHex [s])) = none →
        (setOutcome rate high low s value).1 = rate) ∧
      ([high, low] = [0x10, 0x20] ∧ s = 0x00 →
        (setOutcome rate high low s value).2 = if value ∈ enumValues then 0x00 else 0x16) := by
  have sent := firstValueByte_sent high low s value v rest first fits
  simp only [setOutcome, accepted, sent, outputRate_iff]
  by_cases outputRate : [high, low] = [0x10, 0x20] ∧ s = 0x00
  · by_cases known : value ∈ enumValues
    · have set := OutputRateState.setEnum_accepted rate value known
      have chosen : (some value).filter enumValues.contains = some value := by simp [known]
      simp only [if_pos outputRate, chosen, set, if_pos known]
      exact ⟨rfl, nofun, fun _ => rfl⟩
    · have set := OutputRateState.setEnum_rejected rate value known
      have chosen : (some value).filter enumValues.contains = none := by simp [known]
      simp only [if_pos outputRate, chosen, set, if_neg known]
      exact ⟨rfl, fun _ => trivial, fun _ => rfl⟩
  · simp only [if_neg outputRate]
    exact ⟨rfl, fun _ => trivial, fun isRate => absurd isRate outputRate⟩

theorem serves_set (server : Server Conn) (history : List (Conn × Request)) (conn : Conn)
    (holds : Holds server history) (high low s : Byte) (v : Bytes) (some_value : 0 < v.length)
    (fits : v.length ≤ 1014) :
    Serves server history conn (.setParameter (toHex v) (toHex [high, low]) (toHex [s])) := by
  obtain ⟨value, rest, first⟩ : ∃ value rest, v.reverse = value :: rest := by
    apply List.exists_cons_of_length_pos
    rw [List.length_reverse]
    exact some_value
  have outcome := setOutcome_accepted server.rate high low s value v rest first fits
  have sent := setParameter_msg high low s v fits
  rw [first] at sent
  have total : (frame [0xff, 0xff] 0 (4 + v.length)
      (0xf1 :: low :: high :: s :: value :: rest)).length = 10 + v.length := by
    have count := congrArg List.length first
    simp only [List.length_reverse, List.length_cons] at count
    simp only [frame, List.length_append, List.length_cons, List.length_nil, toLE_length, count]
    omega
  have header := frame_header [0xff, 0xff] rfl (server.counter conn).toNat 5
    [0xf1, (setOutcome server.rate high low s value).2, low, high, s] (server.counter conn).isLt
    (by decide)
  have answered := process_set server.rate 0xff 0xff 0 0 (BitVec.ofNat 8 (4 + v.length))
    (BitVec.ofNat 8 ((4 + v.length) / 256)) low high s value rest
  refine ⟨_, .setParameter {
      sync := toHex [0xff, 0xff], counter := (server.counter conn).toNat,
      payloadLen := some 5, commandId := toHex [0xf1],
      errorCode := toHex [(setOutcome server.rate high low s value).2],
      paramIndex := toHex [high, low], paramSubindex := toHex [s] },
    exchange_reply server conn _ _ _ _ _ sent (by omega) (by omega) (by simp) answered ?_,
    ?_, ?_, ?_⟩
  · rw [Request.decode, SetParameterResponse.fromBytes]
    simp only [List.length_cons, List.length_nil, header]
    rfl
  · refine ⟨counter_toNat server history conn holds, ?_, rfl, rfl, ?_⟩
    · show toHex [0xf1] = "f1"
      decide
    · intro outputRate
      show toHex [(setOutcome server.rate high low s value).2] = _
      rw [outcome.2.2 ((outputRate_iff high low s).mp outputRate),
        firstValueByte_sent high low s value v rest first fits]
      have listed : (some value).any enumValues.contains = true ↔ value ∈ enumValues := by simp
      simp only [listed]
      split_ifs
      · decide
      · decide
  · apply holds_next server history conn _ _ holds
    rw [outcome.1, holds.1]
  · exact outcome.2.1

/-- The step: every well-formed request is answered, and the server keeps to the history. -/
theorem request_serves (server : Server Conn) (history : List (Conn × Request)) (conn : Conn)
    (holds : Holds server history) (request : Request) (wellFormed : request.WellFormed) :
    Serves server history conn request := by
  cases request with
  | getParameter index subindex =>
    obtain ⟨high, low, rfl⟩ := lowerHex_word index wellFormed.1
    obtain ⟨s, rfl⟩ := lowerHex_byte subindex wellFormed.2
    exact serves_get server history conn holds high low s
  | setParameter value index subindex =>
    obtain ⟨high, low, rfl⟩ := lowerHex_word index wellFormed.1
    obtain ⟨s, rfl⟩ := lowerHex_byte subindex wellFormed.2.1
    obtain ⟨count, positive, fits, lower⟩ := wellFormed.2.2
    obtain ⟨v, length, rfl⟩ := lowerHex_bytes count value lower
    exact serves_set server history conn holds high low s v (by omega) (by omega)
  | command id =>
    obtain ⟨c, rfl⟩ := lowerHex_byte id wellFormed.1
    have get : ("f0" : String) = toHex [0xf0] := by decide
    have set : ("f1" : String) = toHex [0xf1] := by decide
    apply serves_command server history conn holds c
    · rintro rfl
      exact wellFormed.2.1 get.symm
    · rintro rfl
      exact wellFormed.2.2 set.symm

/-- The run: the server gets through every history of well-formed requests. -/
theorem run_holds (server : Server Conn) (past : List (Conn × Request)) (holds : Holds server past)
    (later : List (Conn × Request)) (wellFormed : ∀ step ∈ later, step.2.WellFormed) :
    ∃ final, serverAfter server later = some final ∧ Holds final (past ++ later) := by
  induction later generalizing server past with
  | nil => exact ⟨server, rfl, by rwa [List.append_nil]⟩
  | cons step later induction_hypothesis =>
    obtain ⟨conn, request⟩ := step
    obtain ⟨next, response, exchanged, -, kept, -⟩ := request_serves server past conn holds request
      (wellFormed (conn, request) List.mem_cons_self)
    obtain ⟨final, run, reached⟩ := induction_hypothesis next (past ++ [(conn, request)]) kept
      (fun step member => wellFormed step (List.mem_cons_of_mem _ member))
    refine ⟨final, ?_, by simpa using reached⟩
    rw [serverAfter, exchanged]
    exact run

/-- Whatever well-formed requests came before on whatever connections, the next one is answered as
the history says. -/
theorem session_answers (history : List (Conn × Request)) (conn : Conn) (request : Request)
    (wellFormed : ∀ step ∈ history ++ [(conn, request)], step.2.WellFormed) :
    ∃ server, serverAfter .start history = some server ∧ Serves server history conn request := by
  obtain ⟨server, run, holds⟩ := run_holds .start [] holds_start history
    (fun step member => wellFormed step (List.mem_append_left _ member))
  refine ⟨server, run, request_serves server history conn holds request ?_⟩
  exact wellFormed (conn, request) (List.mem_append_right _ List.mem_cons_self)

/-- One client sets the packaged rate, another asks for a rate that does not exist. -/
def twoClients : List (Nat × Request) :=
  [(0, .setParameter "0a" "1020" "00"), (1, .setParameter "07" "1020" "00")]

theorem twoClients_answered :
    ∃ server, serverAfter .start twoClients = some server ∧
      Serves server twoClients 1 (.getParameter "1020" "00") := by
  apply session_answers
  intro step member
  have byte (value : String) (lower : IsLowerHex 2 value) :
      ∃ count, 0 < count ∧ 10 + count ≤ 1024 ∧ IsLowerHex (2 * count) value :=
    ⟨1, by decide, by decide, lower⟩
  simp only [twoClients, List.cons_append, List.nil_append, List.mem_cons, List.not_mem_nil,
    or_false] at member
  rcases member with rfl | rfl | rfl
  · exact ⟨by decide, by decide, byte "0a" (by decide)⟩
  · exact ⟨by decide, by decide, byte "07" (by decide)⟩
  · exact ⟨by decide, by decide⟩

end SchunkFts.Dummy.Session
