import SchunkFts.Node.Lifecycle

/-! The callbacks of the six services. Each calls one method of the library's driver and turns what
the method returns or raises into a response. What a callback logs is left out. The methods are those
of the library on one use of the connection, with every exception that can end it. -/

namespace SchunkFts.Node.ServiceCallbacks
open SchunkFts.Foundation.Struct
open SchunkFts.Library.Messages SchunkFts.Library.Control SchunkFts.Library.ControlCalls
open SchunkFts.Library.Requests (Link Exchange setParameterFrame commandFrame
  commandWithParameterFrame commandExchange parameterExchange)
open Lifecycle

/-- What a method meets: the connection, the server while `__enter__` connects, how `send` ends, and
what `receive` returns. Each of the three can raise; an exception is known by its text. Leaving the
`with` block does not raise. -/
structure SensorExchange where
  connection : Connection
  opening : Except String Opening
  send : Except String Bool
  receive : Except String Bytes

/-- The truth value of what `__enter__` returns; an open connection asks nothing of the server. -/
def SensorExchange.entered (exchange : SensorExchange) : Except String Bool :=
  if exchange.connection.isOpen then .ok true
  else (fun opening => (exchange.connection.enter opening).isOpen) <$> exchange.opening

/-- What `receive` has returned to a method, if it came to that, and how the method ends. -/
structure Call (α : Type) where
  received : Option Bytes
  result : Except String α

def Call.map {α β : Type} (call : Call α) (f : α → β) : Call β :=
  ⟨call.received, f <$> call.result⟩

def Call.bind {α β : Type} (call : Call α) (later : α → Except String β) : Call β :=
  ⟨call.received, call.result >>= later⟩

/-! ### The methods of the library -/

section
variable (str : PyError → String)

/-- A method on a connection that can be used or not: if it hands a frame to `send`, it goes on to
receive. `sendRaised` is what it makes of an exception of `send`. -/
def SensorExchange.call {α : Type} (exchange : SensorExchange) (usable : Bool)
    (sendRaised : String → Except String α) (method : Link → Exchange α) : Call α :=
  if (method { isOpen := usable }).frames = [] then
    ⟨none, (method { isOpen := usable }).response.mapError str⟩
  else
    match exchange.send with
    | .error text => ⟨none, sendRaised text⟩
    | .ok sent =>
        match exchange.receive with
        | .error text => ⟨none, .error text⟩
        | .ok data => ⟨some data, (method ⟨usable, .ok sent, data⟩).response.mapError str⟩

/-- The command methods take the connection as it is, and swallow what `send` raises. -/
def SensorExchange.command (exchange : SensorExchange) (method : Link → Exchange CommandResponse) :
    Call CommandResponse :=
  exchange.call str exchange.connection.isOpen (fun _ => .ok {}) method

def setParameter (exchange : SensorExchange) (value index subindex : String) :
    Call SetParameterResponse :=
  match setParameterFrame value index subindex, exchange.entered with
  | .error error, _ => ⟨none, .error (str error)⟩
  | .ok _, .error text => ⟨none, .error text⟩
  | .ok _, .ok usable =>
      exchange.call str usable .error
        (fun link => Library.Requests.setParameter link value index subindex)

def runCommand (exchange : SensorExchange) (command : String) : Call CommandResponse :=
  exchange.command str (fun link => Library.Requests.runCommand link command)

def tare (exchange : SensorExchange) : Call CommandResponse :=
  exchange.command str Library.Requests.tare

def tareReset (exchange : SensorExchange) : Call CommandResponse :=
  exchange.command str Library.Requests.tareReset

def selectToolSetting (exchange : SensorExchange) (toolIndex : Int) : Call CommandResponse :=
  exchange.command str (fun link => Library.Requests.selectToolSetting link toolIndex)

def selectNoiseFilter (exchange : SensorExchange) (filterNumber : Int) : Call CommandResponse :=
  exchange.command str (fun link => Library.Requests.selectNoiseFilter link filterNumber)

end

/-! ### The callbacks -/

/-- `ERROR_CODE_MAP` -/
def errorCodeMap : List (String × String) :=
  [("00", "Success (No Error)"),
    ("01", "Unknown Command"),
    ("02", "Invalid Command Length"),
    ("03", "Invalid Command Value"),
    ("04", "Busy"),
    ("05", "Streaming Active"),
    ("06", "Storage Error"),
    ("07", "Internal Bus Error"),
    ("08", "Timeout"),
    ("10", "User Level not Sufficient"),
    ("11", "Is Read Only"),
    ("12", "Is Write Only"),
    ("13", "Index Does not Exist"),
    ("14", "Subindex Does not Exist"),
    ("15", "Invalid Parameter Value Length"),
    ("16", "Invalid Parameter Value"),
    ("17", "Login Failed"),
    ("18", "Login Blocked, Try Again Later"),
    ("19", "Parameters are locked"),
    ("30", "Update Verification Failed"),
    ("31", "Update State Error")]

def errorText (errorCode : String) : String :=
  (errorCodeMap.lookup errorCode).getD ("Unknown Error Code: " ++ errorCode)

/-- `Trigger` calls the text `message`. -/
structure Response where
  success : Bool
  errorMessage : String
  deriving DecidableEq, Repr

def report (errorCode : String) : Response :=
  if errorCode = "00" then ⟨true, ""⟩ else ⟨false, errorText errorCode⟩

/-- `except Exception as e` around the whole body of a callback. -/
def guarded (during : String) (body : Call Response) : Call Response where
  received := body.received
  result := body.result.tryCatch (fun text =>
    .ok ⟨false, "An exception occurred during " ++ during ++ ": " ++ text⟩)

/-- What five of the callbacks do with the error code. -/
def answer (during : String) (errorCode : Call String) : Call Response :=
  guarded during (errorCode.map report)

/-- `items[index]`, counted from the end for a negative index. -/
def itemAt (items : List Int) (index : Int) : Result Int :=
  let position := if index < 0 then index + items.length else index
  match if position < 0 then none else items[position.toNat]? with
  | some found => .ok found
  | none => .error .indexError

/-- The factor that is logged for a filter. -/
def filterFactor (filterNumber : Int) : Result Int :=
  let filterFactors := [1, 2, 4, 8, 16]
  if filterNumber < filterFactors.length then itemAt filterFactors filterNumber
  else .ok filterNumber

def reportFilter (str : PyError → String) (filterNumber : Int) (errorCode : String) :
    Except String Response :=
  if errorCode = "00" then
    match filterFactor filterNumber with
    | .error error => .error (str error)
    | .ok _ => .ok ⟨true, ""⟩
  else .ok ⟨false, errorText errorCode⟩

section
variable (str : PyError → String) (exchange : SensorExchange)

def sendCommandCallback (commandId : String) : Call Response :=
  answer "command execution"
    ((runCommand str exchange (withoutHexPrefix commandId)).map (·.errorCode))

def tareCallback : Call Response :=
  answer "tare" ((tare str exchange).map (·.errorCode))

def resetTareCallback : Call Response :=
  answer "command execution" ((tareReset str exchange).map (·.errorCode))

def setParameterCallback (paramValue paramIndex paramSubindex : String) : Call Response :=
  answer "parameter setting"
    ((setParameter str exchange paramValue paramIndex paramSubindex).map (·.errorCode))

def selectToolSettingCallback (toolIndex : Int) : Call Response :=
  answer "tool setting selection" ((selectToolSetting str exchange toolIndex).map (·.errorCode))

/-- The factor is looked up after the success has been noted, inside the same `try`. -/
def selectNoiseFilterCallback (filterNumber : Int) : Call Response :=
  guarded "noise filter selection"
    ((selectNoiseFilter str exchange filterNumber).bind (fun response =>
      reportFilter str filterNumber response.errorCode))

def callback : Request → Call Response
  | .sendCommand commandId => sendCommandCallback str exchange commandId
  | .setParameter paramValue paramIndex paramSubindex =>
      setParameterCallback str exchange paramValue paramIndex paramSubindex
  | .tare => tareCallback str exchange
  | .resetTare => resetTareCallback str exchange
  | .selectToolSetting toolIndex => selectToolSettingCallback str exchange toolIndex
  | .selectNoiseFilter filterNumber => selectNoiseFilterCallback str exchange filterNumber

end

/-- What each callback calls the work it is at, and the error code that the work comes to. -/
def during : Request → String
  | .sendCommand _ => "command execution"
  | .setParameter _ _ _ => "parameter setting"
  | .tare => "tare"
  | .resetTare => "command execution"
  | .selectToolSetting _ => "tool setting selection"
  | .selectNoiseFilter _ => "noise filter selection"

def requestCode (str : PyError → String) (exchange : SensorExchange) : Request → Call String
  | .sendCommand commandId =>
      (runCommand str exchange (withoutHexPrefix commandId)).map (·.errorCode)
  | .setParameter paramValue paramIndex paramSubindex =>
      (setParameter str exchange paramValue paramIndex paramSubindex).map (·.errorCode)
  | .tare => (tare str exchange).map (·.errorCode)
  | .resetTare => (tareReset str exchange).map (·.errorCode)
  | .selectToolSetting toolIndex => (selectToolSetting str exchange toolIndex).map (·.errorCode)
  | .selectNoiseFilter filterNumber =>
      (selectNoiseFilter str exchange filterNumber).map (·.errorCode)

/-! ### How far a call gets -/

/-- The message of a request. -/
def requestFrame : Request → Result Bytes
  | .sendCommand commandId => commandFrame (withoutHexPrefix commandId)
  | .setParameter paramValue paramIndex paramSubindex =>
      setParameterFrame paramValue paramIndex paramSubindex
  | .tare => commandFrame "12"
  | .resetTare => commandFrame "13"
  | .selectToolSetting toolIndex => commandWithParameterFrame "30" toolIndex
  | .selectNoiseFilter filterNumber => commandWithParameterFrame "31" filterNumber

/-- The selections take numbers in a range. -/
def InRange : Request → Prop
  | .selectToolSetting toolIndex => 0 ≤ toolIndex ∧ toolIndex ≤ 3
  | .selectNoiseFilter filterNumber => 0 ≤ filterNumber ∧ filterNumber ≤ 4
  | _ => True

/-- Only `set_parameter` opens a connection itself. -/
def Usable (exchange : SensorExchange) : Request → Prop
  | .setParameter _ _ _ => exchange.entered = .ok true
  | _ => exchange.connection.isOpen = true

/-- A call gets as far as receiving. -/
@[mk_iff]
structure GetsToReceive (exchange : SensorExchange) (request : Request) : Prop where
  inRange : InRange request
  encoded : ∃ msg, requestFrame request = .ok msg
  usable : Usable exchange request
  sent : ∃ sent, exchange.send = .ok sent

section
variable (str : PyError → String) (exchange : SensorExchange)

theorem call_received {α : Type} (usable : Bool) (sendRaised : String → Except String α)
    (method : Link → Exchange α) (data : Bytes) :
    (exchange.call str usable sendRaised method).received = some data ↔
      ((method { isOpen := usable }).frames ≠ [] ∧ ∃ sent, exchange.send = .ok sent) ∧
        exchange.receive = .ok data := by
  unfold SensorExchange.call
  split_ifs with silent
  · simp [silent]
  · cases exchange.send with
    | error text => simp
    | ok sent => cases exchange.receive <;> simp [silent]

/-- A frame is handed to `send` exactly if it can be encoded and the connection can be used. -/
theorem commandExchange_asks (usable : Bool) (frame : Result Bytes) :
    (commandExchange { isOpen := usable } frame).frames ≠ [] ↔
      (∃ msg, frame = .ok msg) ∧ usable = true := by
  cases frame with
  | error error => simp [commandExchange]
  | ok msg => cases usable <;> simp [commandExchange]

theorem parameterExchange_asks {α : Type} (usable : Bool) (frame : Result Bytes)
    (fromBytes : Bytes → Result α) (empty : α) :
    (parameterExchange { isOpen := usable } frame fromBytes empty).frames ≠ [] ↔
      (∃ msg, frame = .ok msg) ∧ usable = true := by
  rw [Library.Requests.parameterExchange_frames, commandExchange_asks]

theorem setParameter_received (value index subindex : String) (data : Bytes) :
    (setParameter str exchange value index subindex).received = some data ↔
      ((∃ msg, setParameterFrame value index subindex = .ok msg) ∧ exchange.entered = .ok true ∧
        ∃ sent, exchange.send = .ok sent) ∧ exchange.receive = .ok data := by
  unfold setParameter
  cases framed : setParameterFrame value index subindex with
  | error error => simp
  | ok msg =>
    cases exchange.entered with
    | error text => simp
    | ok usable =>
      dsimp only
      rw [call_received, Library.Requests.setParameter, parameterExchange_asks, framed]
      simp

theorem command_received (frame : Result Bytes) (data : Bytes) :
    (exchange.command str (fun link => commandExchange link frame)).received = some data ↔
      ((∃ msg, frame = .ok msg) ∧ exchange.connection.isOpen = true ∧
        ∃ sent, exchange.send = .ok sent) ∧ exchange.receive = .ok data := by
  rw [SensorExchange.command, call_received, commandExchange_asks]
  simp only [and_assoc]

theorem select_received (command : String) (last argument : Int) (data : Bytes) :
    (exchange.command str
        (fun link => Library.Requests.select link command last argument)).received = some data ↔
      (0 ≤ argument ∧ argument ≤ last) ∧
        ((∃ msg, commandWithParameterFrame command argument = .ok msg) ∧
          exchange.connection.isOpen = true ∧ ∃ sent, exchange.send = .ok sent) ∧
        exchange.receive = .ok data := by
  unfold Library.Requests.select
  split_ifs with inRange
  · rw [command_received]
    exact (and_iff_right inRange).symm
  · exact iff_of_false nofun (fun both => inRange both.1)

/-- What a request is answered with is what `receive` gives, once the call gets there. -/
theorem requestCode_received (request : Request) (data : Bytes) :
    (requestCode str exchange request).received = some data ↔
      GetsToReceive exchange request ∧ exchange.receive = .ok data := by
  rw [getsToReceive_iff]
  cases request with
  | sendCommand commandId =>
    simp only [InRange, true_and]
    exact command_received str exchange (commandFrame (withoutHexPrefix commandId)) data
  | setParameter paramValue paramIndex paramSubindex =>
    simp only [InRange, true_and]
    exact setParameter_received str exchange paramValue paramIndex paramSubindex data
  | tare =>
    simp only [InRange, true_and]
    exact command_received str exchange (commandFrame "12") data
  | resetTare =>
    simp only [InRange, true_and]
    exact command_received str exchange (commandFrame "13") data
  | selectToolSetting toolIndex =>
    rw [and_assoc]
    exact select_received str exchange "30" 3 toolIndex data
  | selectNoiseFilter filterNumber =>
    rw [and_assoc]
    exact select_received str exchange "31" 4 filterNumber data

/-! ### What a reply comes to -/

/-- At least eight bytes, and the eighth is zero. -/
def Acknowledged (data : Bytes) : Prop := 8 ≤ data.length ∧ data[7]? = some 0

theorem acknowledged_iff (data : Bytes) : Acknowledged data ↔ hexField data 7 8 = "00" := by
  rw [errorCode_zero_iff]
  refine and_iff_right_of_imp (fun zero => ?_)
  obtain ⟨inside, _⟩ := List.getElem?_eq_some_iff.mp zero
  omega

/-- The error code is "00" exactly if a reply has come that acknowledges the request. -/
def Truthful (errorCode : Call String) : Prop :=
  errorCode.result = .ok "00" ↔ ∃ data, errorCode.received = some data ∧ Acknowledged data

/-- Both decoders take the eighth byte, and fail without a whole header. -/
theorem decoded_zero {α : Type} (fromBytes : Bytes → Result α) (errorCode : α → String)
    (long : ∀ data : Bytes, 6 ≤ data.length →
      ∃ response, fromBytes data = .ok response ∧ errorCode response = hexField data 7 8)
    (short : ∀ data : Bytes, data.length < 6 → fromBytes data = .error .structError)
    (data : Bytes) :
    errorCode <$> (fromBytes data).mapError str = .ok "00" ↔ Acknowledged data := by
  by_cases header : data.length < 6
  · rw [short data header]
    refine iff_of_false nofun (fun acknowledged => ?_)
    have eight := acknowledged.1
    omega
  · obtain ⟨response, decoded, code⟩ := long data (by omega)
    rw [decoded, acknowledged_iff, ← code]
    change Except.ok (errorCode response) = Except.ok "00" ↔ _
    rw [Except.ok.injEq]

/-- What goes wrong before a reply has no code "00"; then a reply counts if it is decoded. -/
theorem call_truthful {α : Type} (errorCode : α → String) (usable : Bool)
    (sendRaised : String → Except String α) (method : Link → Exchange α)
    (raised : ∀ text, errorCode <$> sendRaised text ≠ .ok "00")
    (silent : (method { isOpen := usable }).frames = [] →
      errorCode <$> (method { isOpen := usable }).response.mapError str ≠ .ok "00")
    (decodes : (method { isOpen := usable }).frames ≠ [] → ∀ sent data,
      (errorCode <$> (method ⟨usable, .ok sent, data⟩).response.mapError str = .ok "00" ↔
        Acknowledged data)) :
    Truthful ((exchange.call str usable sendRaised method).map errorCode) := by
  unfold Truthful SensorExchange.call
  split_ifs with nothing
  · exact iff_of_false (silent nothing) (fun wrong => by simp [Call.map] at wrong)
  · cases exchange.send with
    | error text => exact iff_of_false (raised text) (fun wrong => by simp [Call.map] at wrong)
    | ok sent =>
      cases exchange.receive with
      | error text => simp [Call.map]
      | ok data => simpa [Call.map] using decodes nothing sent data

theorem command_truthful (frame : Result Bytes) :
    Truthful ((exchange.command str (fun link => commandExchange link frame)).map
      (·.errorCode)) := by
  apply call_truthful
  · exact fun _ => by decide
  · intro nothing
    cases frame with
    | error error => exact nofun
    | ok msg =>
      cases usable : exchange.connection.isOpen with
      | false => exact fun wrong => absurd (Except.ok.inj wrong) (by decide)
      | true =>
        rw [usable] at nothing
        cases nothing
  · intro asks sent data
    obtain ⟨⟨msg, rfl⟩, usable⟩ := (commandExchange_asks _ frame).mp asks
    rw [usable]
    exact decoded_zero str CommandResponse.fromBytes (·.errorCode) commandResponse_of_le
      commandResponse_of_lt data

theorem setParameter_truthful (value index subindex : String) :
    Truthful ((setParameter str exchange value index subindex).map (·.errorCode)) := by
  unfold setParameter
  cases framed : setParameterFrame value index subindex with
  | error error => simp [Truthful, Call.map]
  | ok msg =>
    cases exchange.entered with
    | error text => simp [Truthful, Call.map]
    | ok usable =>
      apply call_truthful
      · exact nofun
      · intro nothing
        rw [Library.Requests.setParameter, framed] at nothing ⊢
        cases usable with
        | false => exact fun wrong => absurd (Except.ok.inj wrong) (by decide)
        | true => cases nothing
      · intro asks sent data
        rw [Library.Requests.setParameter, parameterExchange_asks] at asks
        rw [asks.2, Library.Requests.setParameter, framed]
        simp only [parameterExchange, if_true]
        split_ifs with empty
        · exact iff_of_false (fun wrong => absurd (Except.ok.inj wrong) (by decide))
            (fun acknowledged => by simp [Acknowledged, empty] at acknowledged)
        · exact decoded_zero str SetParameterResponse.fromBytes (·.errorCode)
            setParameterResponse_of_le setParameterResponse_of_lt data

theorem select_truthful (command : String) (last argument : Int) :
    Truthful ((exchange.command str
      (fun link => Library.Requests.select link command last argument)).map (·.errorCode)) := by
  unfold Library.Requests.select
  split_ifs
  · exact command_truthful str exchange _
  · refine iff_of_false ?_ (fun wrong => ?_)
    · exact fun wrong => absurd (Except.ok.inj wrong) (by decide)
    · obtain ⟨_, received, _⟩ := wrong
      cases received

theorem requestCode_truthful (request : Request) : Truthful (requestCode str exchange request) := by
  cases request with
  | sendCommand commandId => exact command_truthful str exchange _
  | setParameter paramValue paramIndex paramSubindex =>
    exact setParameter_truthful str exchange paramValue paramIndex paramSubindex
  | tare => exact command_truthful str exchange _
  | resetTare => exact command_truthful str exchange _
  | selectToolSetting toolIndex => exact select_truthful str exchange "30" 3 toolIndex
  | selectNoiseFilter filterNumber => exact select_truthful str exchange "31" 4 filterNumber

/-! ### What is reported -/

theorem errorText_ne_empty (errorCode : String) : errorText errorCode ≠ "" := by
  unfold errorText
  cases found : errorCodeMap.lookup errorCode with
  | none =>
    intro empty
    exact absurd (congrArg String.length empty) (by simp [String.length_append])
  | some text =>
    have texts : ∀ entry ∈ errorCodeMap, entry.2 ≠ "" := by decide
    obtain ⟨before, after, here, _⟩ := List.lookup_eq_some_iff.mp found
    exact texts (errorCode, text) (here ▸ List.mem_append_right before List.mem_cons_self)

theorem report_success (errorCode : String) :
    (report errorCode).success = true ↔ errorCode = "00" := by
  unfold report
  split_ifs with zero <;> simp [zero]

theorem report_text (errorCode : String) :
    (report errorCode).errorMessage = "" ↔ (report errorCode).success = true := by
  rw [report_success]
  unfold report
  split_ifs with zero
  · exact iff_of_true rfl zero
  · exact iff_of_false (errorText_ne_empty errorCode) zero

/-- The response tells whether the reply acknowledges the request, and has a text exactly if not. -/
def Responds (call : Call Response) : Prop :=
  ∃ response, call.result = .ok response ∧
    (response.success = true ↔ ∃ data, call.received = some data ∧ Acknowledged data) ∧
    (response.errorMessage = "" ↔ response.success = true)

theorem answer_responds (during : String) (errorCode : Call String)
    (truthful : Truthful errorCode) : Responds (answer during errorCode) := by
  obtain ⟨received, ended⟩ := errorCode
  cases ended with
  | ok code =>
    refine ⟨report code, rfl, ?_, report_text code⟩
    rw [report_success, ← Except.ok.injEq]
    exact truthful
  | error text =>
    refine ⟨_, rfl, ?_, ?_⟩
    · refine iff_of_false nofun (fun acknowledged => ?_)
      cases truthful.mpr acknowledged
    · refine iff_of_false (fun empty => ?_) nofun
      exact absurd (congrArg String.length empty) (by simp [String.length_append])

theorem itemAt_of_lt (items : List Int) (index : Nat) (inside : index < items.length) :
    itemAt items index = .ok items[index] := by
  have position : ¬(index : Int) < 0 := by omega
  simp only [itemAt, if_neg position, Int.toNat_natCast, List.getElem?_eq_getElem inside]

theorem filterFactor_ok (filterNumber : Int) (inRange : 0 ≤ filterNumber) :
    ∃ factor, filterFactor filterNumber = .ok factor := by
  obtain ⟨index, rfl⟩ := Int.eq_ofNat_of_zero_le inRange
  unfold filterFactor
  dsimp only
  split_ifs with few
  · exact ⟨_, itemAt_of_lt [1, 2, 4, 8, 16] index (by exact_mod_cast few)⟩
  · exact ⟨index, rfl⟩

theorem reportFilter_eq (filterNumber : Int) (errorCode : String)
    (inRange : errorCode = "00" → 0 ≤ filterNumber) :
    reportFilter str filterNumber errorCode = .ok (report errorCode) := by
  unfold reportFilter report
  split_ifs with zero
  · obtain ⟨factor, found⟩ := filterFactor_ok filterNumber (inRange zero)
    rw [found]
  · rfl

/-- A filter that the sensor has acknowledged has a factor, so the look-up changes nothing. -/
theorem selectNoiseFilterCallback_eq (filterNumber : Int) :
    selectNoiseFilterCallback str exchange filterNumber =
      answer "noise filter selection"
        ((selectNoiseFilter str exchange filterNumber).map (·.errorCode)) := by
  unfold selectNoiseFilterCallback answer
  congr 1
  unfold selectNoiseFilter Library.Requests.selectNoiseFilter Library.Requests.select
  split_ifs with inRange
  · obtain ⟨received, ended⟩ := exchange.command str
      (fun link => commandExchange link (commandWithParameterFrame "31" filterNumber))
    cases ended with
    | error text => rfl
    | ok response =>
      exact congrArg (Call.mk received) (reportFilter_eq str filterNumber _ (fun _ => inRange.1))
  · exact congrArg (Call.mk none) (reportFilter_eq str filterNumber "03"
      (fun wrong => absurd wrong (by decide)))

/-- All callbacks are of one form. -/
theorem callback_eq (request : Request) :
    callback str exchange request = answer (during request) (requestCode str exchange request) := by
  cases request with
  | selectNoiseFilter filterNumber => exact selectNoiseFilterCallback_eq str exchange filterNumber
  | _ => rfl

/-- What the client of a request is told when the method returns this error code, or raises. -/
def told (request : Request) : Except String String → Response
  | .ok errorCode => report errorCode
  | .error text => ⟨false, "An exception occurred during " ++ during request ++ ": " ++ text⟩

theorem told_success (request : Request) (errorCode : Except String String) :
    (told request errorCode).success = true ↔ errorCode = .ok "00" := by
  cases errorCode with
  | ok code => rw [told, report_success, Except.ok.injEq]
  | error text => exact iff_of_false nofun nofun

theorem callback_told (request : Request) :
    (callback str exchange request).result =
      .ok (told request (requestCode str exchange request).result) := by
  rw [callback_eq, answer, guarded, Call.map]
  cases (requestCode str exchange request).result <;> rfl

/-- No callback raises, and each reports success exactly if it has received a reply of at least
eight bytes with a zero as the eighth; otherwise the response says what went wrong. -/
theorem callback_responds (request : Request) :
    (∃ response, (callback str exchange request).result = .ok response ∧
      (response.success = true ↔
        ∃ data, (callback str exchange request).received = some data ∧
          8 ≤ data.length ∧ data[7]? = some 0x00) ∧
      (response.errorMessage = "" ↔ response.success = true)) ∧
    ∀ data, (callback str exchange request).received = some data ↔
      GetsToReceive exchange request ∧ exchange.receive = .ok data := by
  rw [callback_eq]
  constructor
  · exact answer_responds _ _ (requestCode_truthful str exchange request)
  · exact requestCode_received str exchange request

end

example :
    (callback (fun _ => "")
      ⟨.new, .ok { accepted := true }, .ok true, .ok [0xff, 0xff, 0, 0, 2, 0, 0xf1, 0x11]⟩
      (.setParameter "00" "1020" "00")).result = .ok ⟨false, "Is Read Only"⟩ := by
  decide

end SchunkFts.Node.ServiceCallbacks
