import SchunkFts.Library.Messages

/-! The request methods of the library's `Driver`, each over one use of the connection, and which
frames they put on the wire. The encoder passes over a field that is no hexadecimal text and gives
no field a fixed width, so a bad argument moves the fields after it. -/

namespace SchunkFts.Library.Requests
open SchunkFts.Foundation.Struct SchunkFts.Foundation.Hex Messages

/-- What one call meets: the connection's truth value, how `send` ends and what `receive` returns. -/
structure Link where
  isOpen : Bool
  send : Result Bool := .ok true
  reply : Bytes := []

/-- The frames a call hands to `send`, and what it returns or raises. -/
structure Exchange (α : Type) where
  frames : List Bytes
  response : Result α

/-- `get_parameter` and `set_parameter` decode only a reply that is not empty. -/
def parameterExchange {α : Type} (link : Link) (frame : Result Bytes)
    (fromBytes : Bytes → Result α) (empty : α) : Exchange α :=
  match frame with
  | .error error => ⟨[], .error error⟩
  | .ok msg =>
      if link.isOpen then
        match link.send with
        | .error error => ⟨[msg], .error error⟩
        | .ok _ => ⟨[msg], if link.reply = [] then .ok empty else fromBytes link.reply⟩
      else ⟨[], .ok empty⟩

/-- The command methods swallow what `send` raises and decode every reply, an empty one too. -/
def commandExchange (link : Link) (frame : Result Bytes) : Exchange CommandResponse :=
  match frame with
  | .error error => ⟨[], .error error⟩
  | .ok msg =>
      if link.isOpen then
        match link.send with
        | .error _ => ⟨[msg], .ok {}⟩
        | .ok _ => ⟨[msg], CommandResponse.fromBytes link.reply⟩
      else ⟨[], .ok {}⟩

def getParameterFrame (index subindex : String) : Result Bytes :=
  let req : GetParameterRequest :=
    { commandId := "f0", paramIndex := index, paramSubindex := subindex }
  (req.toMessage.toBytes req.fields).2

def getParameter (link : Link) (index subindex : String) : Exchange GetParameterResponse :=
  parameterExchange link (getParameterFrame index subindex) GetParameterResponse.fromBytes {}

def setParameterFrame (value index subindex : String) : Result Bytes :=
  let req : SetParameterRequest :=
    { commandId := "f1", paramIndex := index, paramSubindex := subindex, paramValue := value }
  (req.toMessage.toBytes req.fields).2

def setParameter (link : Link) (value index subindex : String) : Exchange SetParameterResponse :=
  parameterExchange link (setParameterFrame value index subindex) SetParameterResponse.fromBytes {}

def commandFrame (command : String) : Result Bytes :=
  let req : CommandRequest := { commandId := command }
  (req.toMessage.toBytes req.fields).2

def runCommand (link : Link) (command : String) : Exchange CommandResponse :=
  commandExchange link (commandFrame command)

def startUdpStream (link : Link) : Exchange CommandResponse := runCommand link "40"

def stopUdpStream (link : Link) : Exchange CommandResponse := runCommand link "41"

def tare (link : Link) : Exchange CommandResponse := runCommand link "12"

def tareReset (link : Link) : Exchange CommandResponse := runCommand link "13"

def commandWithParameterFrame (command : String) (parameter : Int) : Result Bytes :=
  let req : CommandWithParameterRequest :=
    { commandId := command, parameter := toHex [BitVec.ofInt 8 parameter] }
  (req.toMessage.toBytes req.fields).2

/-- Both selections refuse an argument out of range with the code for an invalid command value. -/
def select (link : Link) (command : String) (last argument : Int) : Exchange CommandResponse :=
  if 0 ≤ argument ∧ argument ≤ last then
    commandExchange link (commandWithParameterFrame command argument)
  else ⟨[], .ok { errorCode := "03" }⟩

def selectToolSetting (link : Link) (toolIndex : Int) : Exchange CommandResponse :=
  select link "30" 3 toolIndex

def selectNoiseFilter (link : Link) (filterNumber : Int) : Exchange CommandResponse :=
  select link "31" 4 filterNumber

/-! ### Frames on the wire -/

theorem commandExchange_frames (link : Link) (frame : Result Bytes) (msg : Bytes) :
    msg ∈ (commandExchange link frame).frames ↔ link.isOpen = true ∧ frame = .ok msg := by
  unfold commandExchange
  cases frame with
  | error error => simp
  | ok sent =>
    by_cases usable : link.isOpen = true
    · cases link.send <;> simp [usable, eq_comm]
    · simp [usable]

/-- The two exchanges differ in the reply only. -/
theorem parameterExchange_frames {α : Type} (link : Link) (frame : Result Bytes)
    (fromBytes : Bytes → Result α) (empty : α) :
    (parameterExchange link frame fromBytes empty).frames = (commandExchange link frame).frames := by
  unfold parameterExchange commandExchange
  cases frame with
  | error error => rfl
  | ok msg =>
    by_cases usable : link.isOpen = true
    · cases link.send <;> simp [usable]
    · simp [usable]

/-- A frame of the client: the default header and the payload, if its length fits 16 bits. -/
theorem default_frame (fields : List String) :
    (Message.toBytes {} fields).2 =
      if (encodeFields fields).length < 65536 then
        .ok (frame [0xff, 0xff] 0 (encodeFields fields).length (encodeFields fields))
      else .error .structError := by
  split_ifs with short
  · rw [toBytes_ok {} fields [0xff, 0xff] (by decide) (by decide) short]
  · have long := packH_of_le _ (not_lt.mp short)
    simp only [Message.toBytes, long, show fromHex "ffff" = some [0xff, 0xff] by decide,
      packH_of_lt 0 (by decide)]
    rfl

theorem default_frame_iff (fields : List String) (msg : Bytes) :
    (Message.toBytes {} fields).2 = .ok msg ↔
      (encodeFields fields).length < 65536 ∧
        msg = frame [0xff, 0xff] 0 (encodeFields fields).length (encodeFields fields) := by
  rw [default_frame]
  split_ifs with short
  · rw [Except.ok.injEq, eq_comm]
    exact ⟨fun same => ⟨short, same⟩, fun both => both.2⟩
  · exact iff_of_false (fun wrong => by cases wrong) (fun both => short both.1)

/-! ### Which arguments reach the sensor as meant -/

/-- The bytes of an argument, none if it is no hexadecimal text. -/
def argumentBytes (argument : String) : Bytes := (fromHex argument).getD []

/-- Hexadecimal text of exactly `width` bytes. -/
def ValidHex (width : Nat) (argument : String) : Prop :=
  ∃ bytes, fromHex argument = some bytes ∧ bytes.length = width

/-- The number a hexadecimal text writes, most significant byte first. -/
def hexNumber (argument : String) : Option Nat :=
  (fromHex argument).map (fun bytes => ofLE bytes.reverse)

/-- The frame as the sensor reads it: command, little-endian index, subindex. -/
def SetsParameter (msg : Bytes) (index subindex : String) : Prop :=
  msg[6]? = some 0xf1 ∧ 10 ≤ msg.length ∧ some (ofLE (slice msg 7 9)) = hexNumber index ∧
    (msg[9]?).map BitVec.toNat = hexNumber subindex

/-- A frame goes out only for valid arguments, and then for these. -/
def SetParameterFaithful (link : Link) (value index subindex : String) : Prop :=
  ∀ msg ∈ (setParameter link value index subindex).frames,
    ValidHex 2 index ∧ ValidHex 1 subindex ∧ (fromHex value).isSome ∧
      SetsParameter msg index subindex

def RunCommandFaithful (link : Link) (command : String) : Prop :=
  ∀ msg ∈ (runCommand link command).frames,
    ValidHex 1 command ∧ msg.length = 7 ∧ (msg[6]?).map BitVec.toNat = hexNumber command

theorem setParameter_payload (value index subindex : String) :
    encodeFields ["f1", index, subindex, value] =
      0xf1 :: ((argumentBytes index).reverse ++ ((argumentBytes subindex).reverse ++
        (argumentBytes value).reverse)) := by
  simp only [encodeFields_cons, encodeFields_nil, List.append_nil,
    show fromHex "f1" = some [0xf1] by decide]
  rfl

/-- Valid arguments stand where the sensor looks for them. -/
theorem setParameter_frame_valid (value index subindex : String) (length : Nat)
    (indexValid : ValidHex 2 index) (subindexValid : ValidHex 1 subindex) :
    SetsParameter (frame [0xff, 0xff] 0 length (encodeFields ["f1", index, subindex, value]))
      index subindex := by
  obtain ⟨i, indexRead, two⟩ := indexValid
  obtain ⟨high, low, rfl⟩ := List.length_eq_two.mp two
  obtain ⟨j, subindexRead, one⟩ := subindexValid
  obtain ⟨s, rfl⟩ := List.length_eq_one_iff.mp one
  have payload : encodeFields ["f1", index, subindex, value] =
      0xf1 :: low :: high :: s :: (argumentBytes value).reverse := by
    rw [setParameter_payload, argumentBytes, argumentBytes, indexRead, subindexRead]
    rfl
  rw [payload, SetsParameter, hexNumber, hexNumber, indexRead, subindexRead]
  refine ⟨rfl, ?_, rfl, rfl⟩
  rw [frame_length _ rfl]
  simp only [List.length_cons]
  omega

/-- A request of these fields that means what it should if its arguments are valid, and is only to
be sent then. -/
theorem faithful_iff (link : Link) (fields : List String) (Valid : Prop) (Means : Bytes → Prop)
    (means : Valid →
      Means (frame [0xff, 0xff] 0 (encodeFields fields).length (encodeFields fields))) :
    (∀ msg ∈ (commandExchange link (Message.toBytes {} fields).2).frames, Valid ∧ Means msg) ↔
      link.isOpen = false ∨ Valid ∨ 65535 < (encodeFields fields).length := by
  have sent : ∀ msg, msg ∈ (commandExchange link (Message.toBytes {} fields).2).frames ↔
      link.isOpen = true ∧ (encodeFields fields).length < 65536 ∧
        msg = frame [0xff, 0xff] 0 (encodeFields fields).length (encodeFields fields) := by
    intro msg
    rw [commandExchange_frames]
    exact and_congr_right (fun _ => default_frame_iff fields msg)
  constructor
  · intro faithful
    by_cases usable : link.isOpen = true
    · by_cases short : (encodeFields fields).length < 65536
      · exact .inr (.inl (faithful _ ((sent _).mpr ⟨usable, short, rfl⟩)).1)
      · exact .inr (.inr (by omega))
    · exact .inl (Bool.eq_false_iff.mpr usable)
  · intro condition msg member
    obtain ⟨usable, short, rfl⟩ := (sent msg).mp member
    rcases condition with closed | valid | long
    · rw [closed] at usable
      cases usable
    · exact ⟨valid, means valid⟩
    · omega

theorem setParameterFaithful_iff (link : Link) (value index subindex : String) :
    SetParameterFaithful link value index subindex ↔
      link.isOpen = false ∨
      (ValidHex 2 index ∧ ValidHex 1 subindex ∧ (fromHex value).isSome) ∨
      65535 < 1 + (argumentBytes index).length + (argumentBytes subindex).length +
        (argumentBytes value).length := by
  have size : (encodeFields ["f1", index, subindex, value]).length =
      1 + (argumentBytes index).length + (argumentBytes subindex).length +
        (argumentBytes value).length := by
    rw [setParameter_payload]
    simp only [List.length_cons, List.length_append, List.length_reverse]
    omega
  rw [← size, SetParameterFaithful, setParameter, parameterExchange_frames]
  simp only [← and_assoc]
  apply faithful_iff link ["f1", index, subindex, value] _
    (fun msg => SetsParameter msg index subindex)
  rintro ⟨⟨indexValid, subindexValid⟩, _⟩
  exact setParameter_frame_valid value index subindex _ indexValid subindexValid

theorem runCommand_payload (command : String) :
    encodeFields [command] = (argumentBytes command).reverse := by
  rw [encodeFields_cons, encodeFields_nil, List.append_nil, argumentBytes]

theorem runCommandFaithful_iff (link : Link) (command : String) :
    RunCommandFaithful link command ↔
      link.isOpen = false ∨ ValidHex 1 command ∨ 65535 < (argumentBytes command).length := by
  have size : (encodeFields [command]).length = (argumentBytes command).length := by
    rw [runCommand_payload, List.length_reverse]
  rw [← size]
  apply faithful_iff link [command] (ValidHex 1 command)
    (fun msg => msg.length = 7 ∧ (msg[6]?).map BitVec.toNat = hexNumber command)
  rintro ⟨bytes, read, one⟩
  obtain ⟨c, rfl⟩ := List.length_eq_one_iff.mp one
  rw [runCommand_payload, argumentBytes, hexNumber, read]
  exact ⟨rfl, rfl⟩

/-- A request does what its arguments say exactly when they are hexadecimal text of their fields'
widths; otherwise it is harmless only if nothing can be sent at all. -/
theorem requests_faithful_iff (link : Link) :
    (∀ value index subindex, SetParameterFaithful link value index subindex ↔
      link.isOpen = false ∨
      (ValidHex 2 index ∧ ValidHex 1 subindex ∧ (fromHex value).isSome) ∨
      65535 < 1 + (argumentBytes index).length + (argumentBytes subindex).length +
        (argumentBytes value).length) ∧
    ∀ command, RunCommandFaithful link command ↔
      link.isOpen = false ∨ ValidHex 1 command ∨ 65535 < (argumentBytes command).length :=
  ⟨setParameterFaithful_iff link, runCommandFaithful_iff link⟩

/-- With a one-digit subindex the value moves into its place: the sensor is told to write nothing
to subindex 0a. -/
theorem short_subindex_shifts :
    (setParameter { isOpen := true } "0a" "1020" "0").frames =
        [[0xff, 0xff, 0, 0, 4, 0, 0xf1, 0x20, 0x10, 0x0a]] ∧
      ¬ ∀ link value index subindex, SetParameterFaithful link value index subindex := by
  have frames : (setParameter { isOpen := true } "0a" "1020" "0").frames =
      [[0xff, 0xff, 0, 0, 4, 0, 0xf1, 0x20, 0x10, 0x0a]] := by decide
  refine ⟨frames, ?_⟩
  intro faithful
  obtain ⟨_, ⟨bytes, read, _⟩, _⟩ :=
    faithful { isOpen := true } "0a" "1020" "0" _ (by rw [frames]; exact List.mem_singleton_self _)
  have refused : fromHex "0" = none := by decide
  rw [refused] at read
  cases read

end SchunkFts.Library.Requests
