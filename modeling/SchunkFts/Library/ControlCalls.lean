import SchunkFts.Library.Control
import SchunkFts.Library.Requests

/-! The calls of the driver on its TCP connection: what each returns and in which state it leaves
the connection. A call runs from its first to its last step undisturbed; a new socket can always be
had. -/

namespace SchunkFts.Library.ControlCalls
open SchunkFts.Foundation.Struct SchunkFts.Foundation.Hex Messages Requests Control

/-- The connection, whether `Driver._lock` is held, and the frames handed to the open socket. -/
structure Channel where
  connection : Connection
  locked : Bool
  wire : List Bytes
  deriving DecidableEq, Repr

/-- What one exchange meets: the server while `__enter__` connects, how `sendall` ends, and what
`recv` returns, `none` for an `OSError`. -/
structure Outcome where
  opening : Opening := { accepted := true }
  sent : Bool := true
  received : Option Bytes
  deriving DecidableEq, Repr

namespace Channel

def new : Channel where
  connection := .new
  locked := false
  wire := []

def close (channel : Channel) : Channel :=
  { channel with connection := channel.connection.close true }

/-- `open` -/
def openUp (channel : Channel) (opening : Opening) : Channel × Bool :=
  let (connection, opened) := channel.connection.openUp opening
  ({ channel with connection := connection }, opened)

/-- `with self._lock`: an exception of the body releases it, too. -/
def withLock {α : Type} (channel : Channel) (body : Channel → Channel × Result α) :
    Channel × Result α :=
  let (after, result) := body { channel with locked := true }
  ({ after with locked := false }, result)

/-- `with self.connection as sensor`, for one request and its reply. -/
def parameterCall {α : Type} (channel : Channel) (outcome : Outcome) (frame : Result Bytes)
    (fromBytes : Bytes → Result α) (empty : α) : Channel × Result α :=
  match frame with
  | .error error => (channel, .error error)
  | .ok _ =>
      let entered := channel.connection.enter outcome.opening
      let (received, data) := entered.receive outcome.received
      let exchange :=
        parameterExchange ⟨entered.isOpen, .ok outcome.sent, data⟩ frame fromBytes empty
      ({ channel with connection := received.exit, wire := channel.wire ++ exchange.frames },
        exchange.response)

/-- A command uses the connection only if it is open already. -/
def commandCall (channel : Channel) (outcome : Outcome) (frame : Result Bytes) :
    Channel × Result CommandResponse :=
  match frame with
  | .error error => (channel, .error error)
  | .ok _ =>
      let (received, data) := channel.connection.receive outcome.received
      let exchange := commandExchange ⟨channel.connection.isOpen, .ok outcome.sent, data⟩ frame
      ({ channel with connection := received, wire := channel.wire ++ exchange.frames },
        exchange.response)

def getParameter (channel : Channel) (outcome : Outcome) (index subindex : String) :
    Channel × Result GetParameterResponse :=
  channel.withLock (fun held =>
    held.parameterCall outcome (getParameterFrame index subindex) GetParameterResponse.fromBytes {})

def setParameter (channel : Channel) (outcome : Outcome) (value index subindex : String) :
    Channel × Result SetParameterResponse :=
  channel.parameterCall outcome (setParameterFrame value index subindex)
    SetParameterResponse.fromBytes {}

/-- `_configure_output_rate` -/
def configureOutputRate (channel : Channel) (outcome : Outcome) (parameterValue : String) :
    Channel × Result Bool :=
  let (after, response) := channel.setParameter outcome parameterValue "1020" "00"
  (after, (fun answer => answer.errorCode = "00") <$> response)

def runCommand (channel : Channel) (outcome : Outcome) (command : String) :
    Channel × Result CommandResponse :=
  channel.commandCall outcome (commandFrame command)

def startUdpStream (channel : Channel) (outcome : Outcome) : Channel × Result CommandResponse :=
  channel.runCommand outcome "40"

def stopUdpStream (channel : Channel) (outcome : Outcome) : Channel × Result CommandResponse :=
  channel.runCommand outcome "41"

/-- `select_tool_setting` and `select_noise_filter` -/
def select (channel : Channel) (outcome : Outcome) (command : String) (last argument : Int) :
    Channel × Result CommandResponse :=
  if 0 ≤ argument ∧ argument ≤ last then
    channel.commandCall outcome (commandWithParameterFrame command argument)
  else (channel, .ok { errorCode := "03" })

/-! ### What a call leaves of the connection -/

@[simp] theorem close_connection (channel : Channel) : channel.close.connection = .new :=
  channel.connection.close_new

theorem openUp_spec (channel : Channel) (opening : Opening) :
    (channel.openUp opening).1.connection.isOpen = (channel.openUp opening).2 ∧
      (channel.openUp opening).1.connection.persistent =
        ((channel.openUp opening).2 || channel.connection.persistent) :=
  channel.connection.openUp_spec opening

theorem parameterCall_ok {α : Type} (channel : Channel) (outcome : Outcome) (msg : Bytes)
    (fromBytes : Bytes → Result α) (empty : α) :
    channel.parameterCall outcome (.ok msg) fromBytes empty =
      if (channel.connection.enter outcome.opening).isOpen then
        ({ channel with
            connection :=
              ((channel.connection.enter outcome.opening).receive outcome.received).1.exit
            wire := channel.wire ++ [msg] },
          match outcome.received with
          | none => .ok empty
          | some [] => .ok empty
          | some data => fromBytes data)
      else
        ({ channel with connection := (channel.connection.enter outcome.opening).exit },
          .ok empty) := by
  simp only [parameterCall, parameterExchange, Connection.receive]
  by_cases entered : (channel.connection.enter outcome.opening).isOpen = true
  · rcases outcome.received with _ | (_ | ⟨first, rest⟩) <;> simp [entered]
  · simp [entered]

/-- What persists is never changed by a request, and what does not is closed after it. -/
theorem parameterCall_connection {α : Type} (channel : Channel) (outcome : Outcome)
    (frame : Result Bytes) (fromBytes : Bytes → Result α) (empty : α)
    (kept : channel.connection.isOpen = true → channel.connection.persistent = true) :
    (channel.parameterCall outcome frame fromBytes empty).1.connection.persistent =
        channel.connection.persistent ∧
      ((channel.parameterCall outcome frame fromBytes empty).1.connection.isOpen = true →
        channel.connection.persistent = true) := by
  cases frame with
  | error error => exact ⟨rfl, kept⟩
  | ok msg =>
    rw [parameterCall_ok]
    split_ifs with entered
    · simp
    · simp

/-- A request on a connection that does not persist leaves it closed. -/
theorem parameterCall_closes {α : Type} (channel : Channel) (outcome : Outcome)
    (frame : Result Bytes) (fromBytes : Bytes → Result α) (empty : α)
    (shut : channel.connection.isOpen = false)
    (single : channel.connection.persistent = false) :
    (channel.parameterCall outcome frame fromBytes empty).1.connection.isOpen = false ∧
      (channel.parameterCall outcome frame fromBytes empty).1.connection.persistent = false := by
  obtain ⟨persistent, opened⟩ := channel.parameterCall_connection outcome frame fromBytes empty
    (fun wrong => by rw [shut] at wrong; cases wrong)
  refine ⟨Bool.eq_false_iff.mpr (fun wrong => ?_), persistent.trans single⟩
  rw [single] at opened
  cases opened wrong

theorem commandCall_open (channel : Channel) (outcome : Outcome) (msg : Bytes)
    (opened : channel.connection.isOpen = true) :
    channel.commandCall outcome (.ok msg) =
      ({ channel with
          connection := (channel.connection.receive outcome.received).1
          wire := channel.wire ++ [msg] },
        CommandResponse.fromBytes (outcome.received.getD [])) := by
  simp only [commandCall, commandExchange, Connection.receive, opened, if_true]
  cases outcome.received <;> rfl

theorem commandCall_closed (channel : Channel) (outcome : Outcome) (msg : Bytes)
    (shut : channel.connection.isOpen = false) :
    channel.commandCall outcome (.ok msg) = (channel, .ok {}) := by
  simp [commandCall, commandExchange, Connection.receive, shut]

end Channel
end SchunkFts.Library.ControlCalls
