import SchunkFts.Foundation.Scripts
import SchunkFts.Library.Requests

/-! The methods of the driver that use its TCP connection, statement by statement as far as other
threads can come between: `Driver._lock`, the entries of the `Connection` object, and the socket. What
`__enter__`, `__exit__` and `close` do under `Connection._lock` is one statement. A new socket can
always be had. -/

namespace SchunkFts.Library.CallScripts
open SchunkFts.Foundation.Struct SchunkFts.Foundation.Scripts
open Messages Requests

/-- How `recv` ends: with what has arrived, at the end of the stream, or by an `OSError`, a timeout
among them. -/
inductive Received where
  | frame (data : Bytes)
  | ended
  | failed
  deriving DecidableEq, Repr

/-- `socket` looks up `self.socket`; the socket object it finds is the one that is then sent on or
received from. `streamOpened` is what the wait of `streaming_on` for its port comes to. -/
inductive Primitive where
  | acquire
  | release
  | enter
  | exit
  | close
  | isOpen
  | setPersistent
  | clearIsOpen
  | socket
  | sendall (socket : Nat) (data : Bytes)
  | recv (socket : Nat)
  | streamOpened

@[reducible] def Primitive.Answer : Primitive → Type
  | isOpen => Bool
  | socket => Nat
  | sendall _ _ => Bool
  | recv _ => Received
  | streamOpened => Bool
  | _ => Unit

abbrev Method (α : Type) : Type := Script Primitive Primitive.Answer α

abbrev perform (primitive : Primitive) : Method primitive.Answer := Script.ask primitive

/-! ### `Connection` -/

def send (data : Bytes) : Method Bool := do
  if ← perform .isOpen then
    let socket ← perform .socket
    perform (.sendall socket data)
  else return false

def receive : Method Bytes := do
  if ← perform .isOpen then
    let socket ← perform .socket
    let received : Received ← perform (.recv socket)
    match received with
    | .frame data => return data
    | .ended => return []
    | .failed =>
      perform .clearIsOpen
      return []
  else return []

/-- A request and its reply; whether `send` succeeds makes no difference. -/
def exchange (msg : Bytes) : Method Bytes := do
  let _ ← send msg
  receive

/-- `open` -/
def openUp : Method Bool := do
  perform .enter
  if ← perform .isOpen then
    perform .setPersistent
    return true
  else return false

/-! ### `Driver` -/

/-- `with self.connection as sensor`, for one request and its reply. -/
def parameterCall {α : Type} (msg : Bytes) (fromBytes : Bytes → Result α) (empty : α) :
    Method (Result α) := do
  perform .enter
  let data ← if ← perform .isOpen then exchange msg else pure []
  perform .exit
  return if data = [] then .ok empty else fromBytes data

def getParameter (index subindex : String) : Method (Result GetParameterResponse) :=
  match getParameterFrame index subindex with
  | .error error => return .error error
  | .ok msg => do
    perform .acquire
    let response ← parameterCall msg GetParameterResponse.fromBytes {}
    perform .release
    return response

def setParameter (value index subindex : String) : Method (Result SetParameterResponse) :=
  match setParameterFrame value index subindex with
  | .error error => return .error error
  | .ok msg => parameterCall msg SetParameterResponse.fromBytes {}

/-- `_configure_output_rate` -/
def configureOutputRate (parameterValue : String) : Method (Result Bool) := do
  let response ← setParameter parameterValue "1020" "00"
  return (fun answer => answer.errorCode = "00") <$> response

/-- A command uses the connection only if it is open already. -/
def commandCall (frame : Result Bytes) : Method (Result CommandResponse) :=
  match frame with
  | .error error => return .error error
  | .ok msg => do
    if ← perform .isOpen then
      let data ← exchange msg
      return CommandResponse.fromBytes data
    else return .ok {}

def runCommand (command : String) : Method (Result CommandResponse) :=
  commandCall (commandFrame command)

def startUdpStream : Method (Result CommandResponse) := runCommand "40"

def stopUdpStream : Method (Result CommandResponse) := runCommand "41"

/-- `select_tool_setting` and `select_noise_filter` -/
def select (command : String) (last argument : Int) : Method (Result CommandResponse) :=
  if 0 ≤ argument ∧ argument ≤ last then
    commandCall (commandWithParameterFrame command argument)
  else return .ok { errorCode := "03" }

/-- The part of `_attempt_reconnect` under `Driver._lock`. -/
def startStreaming (parameterValue : String) : Method (Result Bool) := do
  match ← configureOutputRate parameterValue with
  | .error error => return .error error
  | .ok false =>
    perform .close
    return .ok false
  | .ok true =>
    match ← startUdpStream with
    | .error error => return .error error
    | .ok response =>
      if response.errorCode = "" then
        perform .close
        return .ok false
      else if response.errorCode ≠ "00" then
        perform .close
        return .ok false
      else return .ok true

def attemptReconnect (parameterValue : String) : Method Bool := do
  perform .close
  if ← openUp then
    if ← perform .isOpen then
      perform .acquire
      let started ← startStreaming parameterValue
      perform .release
      match started with
      | .ok started => return started
      | .error _ =>
        perform .close
        return false
    else return false
  else return false

/-- What `streaming_on` does with the connection. -/
def streamingOn (parameterValue : String) : Method (Result Bool) := do
  if ← openUp then
    if ← perform .streamOpened then
      match ← getParameter "0001" "00" with
      | .error error => return .error error
      | .ok _ =>
        match ← getParameter "0001" "03" with
        | .error error => return .error error
        | .ok _ =>
          match ← configureOutputRate parameterValue with
          | .error error => return .error error
          | .ok false =>
            perform .close
            return .ok false
          | .ok true =>
            match ← startUdpStream with
            | .error error => return .error error
            | .ok _ => return .ok true
    else return .ok false
  else return .ok false

/-- What `streaming_off` does with it. -/
def streamingOff : Method (Result Unit) := do
  match ← stopUdpStream with
  | .error error => return .error error
  | .ok _ =>
    perform .close
    return .ok ()

/-! ### Requests and calls -/

inductive Request where
  | getParameter (index subindex : String)
  | setParameter (value index subindex : String)
  | command (id : String)
  | commandWithParameter (id : String) (parameter : Int)
  deriving DecidableEq, Repr

inductive Response where
  | getParameter (response : GetParameterResponse)
  | setParameter (response : SetParameterResponse)
  | command (response : CommandResponse)
  deriving DecidableEq, Repr

def Request.commandId : Request → String
  | getParameter _ _ => "f0"
  | setParameter _ _ _ => "f1"
  | command id => id
  | commandWithParameter id _ => id

def Request.frame : Request → Result Bytes
  | getParameter index subindex => getParameterFrame index subindex
  | setParameter value index subindex => setParameterFrame value index subindex
  | command id => commandFrame id
  | commandWithParameter id parameter => commandWithParameterFrame id parameter

/-- What a call makes of what it has received. -/
def Request.respond : Request → Bytes → Result Response
  | getParameter _ _, data =>
      .getParameter <$> if data = [] then .ok {} else GetParameterResponse.fromBytes data
  | setParameter _ _ _, data =>
      .setParameter <$> if data = [] then .ok {} else SetParameterResponse.fromBytes data
  | command _, data => .command <$> CommandResponse.fromBytes data
  | commandWithParameter _ _, data => .command <$> CommandResponse.fromBytes data

/-- What a call returns that has found the connection closed. -/
def Request.unreached : Request → Response
  | getParameter _ _ => .getParameter {}
  | setParameter _ _ _ => .setParameter {}
  | command _ => .command {}
  | commandWithParameter _ _ => .command {}

def Response.commandId : Response → String
  | getParameter response => response.commandId
  | setParameter response => response.commandId
  | command response => response.commandId

def Response.errorCode : Response → String
  | getParameter response => response.errorCode
  | setParameter response => response.errorCode
  | command response => response.errorCode

/-- The calls a thread can make; the last is what the update loop does about a silence. -/
inductive Call where
  | getParameter (index subindex : String)
  | setParameter (value index subindex : String)
  | runCommand (command : String)
  | selectToolSetting (toolIndex : Int)
  | selectNoiseFilter (filterNumber : Int)
  | attemptReconnect (outputRateParameterValue : String)
  | streamingOn (outputRateParameterValue : String)
  | streamingOff
  | closeConnection
  deriving DecidableEq, Repr

inductive Value where
  | response (response : Response)
  | flag (result : Bool)
  | nothing
  deriving DecidableEq, Repr

def Call.script : Call → Method (Result Value)
  | getParameter index subindex =>
      (.response <$> .getParameter <$> ·) <$> CallScripts.getParameter index subindex
  | setParameter value index subindex =>
      (.response <$> .setParameter <$> ·) <$> CallScripts.setParameter value index subindex
  | runCommand command => (.response <$> .command <$> ·) <$> CallScripts.runCommand command
  | selectToolSetting toolIndex => (.response <$> .command <$> ·) <$> select "30" 3 toolIndex
  | selectNoiseFilter filterNumber => (.response <$> .command <$> ·) <$> select "31" 4 filterNumber
  | attemptReconnect value => (.ok <| .flag ·) <$> CallScripts.attemptReconnect value
  | streamingOn value => (.flag <$> ·) <$> CallScripts.streamingOn value
  | streamingOff => ((fun _ => .nothing) <$> ·) <$> CallScripts.streamingOff
  | closeConnection => (fun _ => .ok .nothing) <$> perform .close

/-- The request of a call that is made for one. -/
def Call.single : Call → Option Request
  | getParameter index subindex => some (.getParameter index subindex)
  | setParameter value index subindex => some (.setParameter value index subindex)
  | runCommand command => some (.command command)
  | selectToolSetting toolIndex =>
      if 0 ≤ toolIndex ∧ toolIndex ≤ 3 then some (.commandWithParameter "30" toolIndex) else none
  | selectNoiseFilter filterNumber =>
      if 0 ≤ filterNumber ∧ filterNumber ≤ 4 then some (.commandWithParameter "31" filterNumber)
      else none
  | _ => none

/-- The selections refuse a number out of range. -/
def Call.Refuses : Call → Prop
  | selectToolSetting toolIndex => ¬(0 ≤ toolIndex ∧ toolIndex ≤ 3)
  | selectNoiseFilter filterNumber => ¬(0 ≤ filterNumber ∧ filterNumber ≤ 4)
  | _ => False

/-- Everything that a call may ask of the sensor. -/
def Call.requests : Call → List Request
  | attemptReconnect value => [.setParameter value "1020" "00", .command "40"]
  | streamingOn value =>
      [.getParameter "0001" "00", .getParameter "0001" "03", .setParameter value "1020" "00",
        .command "40"]
  | streamingOff => [.command "41"]
  | call => call.single.toList

end SchunkFts.Library.CallScripts
