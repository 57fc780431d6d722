import SchunkFts.Library.Streaming
import SchunkFts.Node.PublishLoop

/-! The ROS node in its lifecycle: the transition callbacks step by step, the publish thread and the
service callbacks, all at work on one library driver. rclpy runs a callback from its source state
only, and one at a time. -/

namespace SchunkFts.Node.Lifecycle
open SchunkFts.Foundation.Struct
open SchunkFts.Library.UpdateLoop (Datagram)
open SchunkFts.Library.DriverSettings SchunkFts.Library.ControlCalls SchunkFts.Library.Streaming
open PublishLoop

/-- The primary states, and where a callback is that has begun: `on_configure` waits for
`streaming_on` and then for the first sample, `on_deactivate` for its thread, `on_cleanup` for
`streaming_off`. An exception leads to error processing. -/
inductive Phase where
  | unconfigured
  | configuring
  | verifying
  | inactive
  | active
  | deactivating
  | cleaningUp
  | errorProcessing
  | finalized
  deriving DecidableEq, Repr

inductive Service where
  | sendCommand
  | setParameter
  | tare
  | resetTare
  | selectToolSetting
  | selectNoiseFilter
  deriving DecidableEq, Repr

inductive Request where
  | sendCommand (commandId : String)
  | setParameter (paramValue paramIndex paramSubindex : String)
  | tare
  | resetTare
  | selectToolSetting (toolIndex : Int)
  | selectNoiseFilter (filterNumber : Int)

def Request.service : Request → Service
  | sendCommand _ => .sendCommand
  | setParameter _ _ _ => .setParameter
  | tare => .tare
  | resetTare => .resetTare
  | selectToolSetting _ => .selectToolSetting
  | selectNoiseFilter _ => .selectNoiseFilter

/-- A command may be given as `0x12`. -/
def withoutHexPrefix (commandId : String) : String :=
  match commandId.toList with
  | '0' :: 'x' :: digits => .ofList digits
  | '0' :: 'X' :: digits => .ofList digits
  | _ => commandId

/-- What the callback asks of the sensor. -/
def Request.command : Request → Command
  | sendCommand commandId => .runCommand (withoutHexPrefix commandId)
  | setParameter paramValue paramIndex paramSubindex =>
      .setParameter paramValue paramIndex paramSubindex
  | tare => .runCommand "12"
  | resetTare => .runCommand "13"
  | selectToolSetting toolIndex => .selectToolSetting toolIndex
  | selectNoiseFilter filterNumber => .selectNoiseFilter filterNumber

/-- `thread` is the running publish thread with the variables it has set at its start, and
`requests` are those whose callbacks have begun. -/
structure Driver where
  name : String
  sensor : System
  phase : Phase
  state : NodeState
  gcEnabled : Bool
  stopEvent : Bool
  thread : Option Config
  services : List Service
  requests : List Request

/-- `_get_status_level` without data: the level of the sample it takes. -/
def sampleLevel (sensor : SensorDriver) (now : Int) : Result Level :=
  match (sensor.sample now).2 with
  | .ok (some data) => .ok (getStatusLevel sensor.isStreaming data.statusBits).1
  | .ok none => .ok (getStatusLevel false 0).1
  | .error error => .error error

namespace Driver

def new (name : String) (streamingPort : Int) (outputRate : OutputRate) (now : Int) : Driver where
  name := name
  sensor := .new streamingPort none outputRate now
  phase := .unconfigured
  state := {
    ftDataPublisher := false, ftStatePublisher := false, lastStateLevel := none
    baseStampRos := none, baseStampNs := 0, lastCounter := -1, baseCounter := -1
    isSensorOk := false, connectionLost := false, lastSkipWarningTime := 0 }
  gcEnabled := true
  stopEvent := false
  thread := none
  services := []
  requests := []

/-! ### The callbacks -/

/-- `on_configure` up to its wait for `streaming_on`. -/
def configure (driver : Driver) : Driver :=
  { driver with
    sensor := driver.sensor.step (.streamingOn true true), phase := .configuring }

/-- `on_activate` -/
def activate (driver : Driver) (now : Int) : Driver :=
  { driver with
    gcEnabled := false
    state := driver.state.activate
    services := [.sendCommand, .setParameter, .tare, .resetTare, .selectToolSetting,
      .selectNoiseFilter]
    stopEvent := false
    sensor := driver.sensor.step (.clearSamples now)
    thread := some {
      nodeName := driver.name, sensorName := driver.sensor.driver.name
      hardwareId := driver.sensor.driver.hardwareId, rate := driver.sensor.driver.outputRate }
    phase := .active }

/-- `on_deactivate` up to its wait for the thread. -/
def deactivate (driver : Driver) : Driver :=
  { driver with gcEnabled := true, stopEvent := true, phase := .deactivating }

/-- `on_cleanup` up to its wait for `streaming_off`. -/
def cleanup (driver : Driver) : Driver :=
  { driver with sensor := driver.sensor.step .streamingOff, phase := .cleaningUp }

/-- `on_shutdown` -/
def shutdown (driver : Driver) : Driver := { driver with phase := .finalized }

/-- The verdict of `on_configure`. -/
def verify (driver : Driver) (now : Int) : Driver :=
  let sampled := { driver with sensor := driver.sensor.step (.sample now) }
  match sampleLevel driver.sensor.driver now with
  | .error _ => { sampled with phase := .errorProcessing }
  | .ok level =>
      { sampled with
        state := { driver.state with isSensorOk := level = .ok }
        phase :=
          if sampled.sensor.driver.isStreaming = false ∨ level ≠ .ok then .unconfigured
          else .inactive }

/-- The rest of a callback, once what it waits for has come. -/
def callback (driver : Driver) (now : Int) : Driver :=
  match driver.phase, driver.sensor.call, driver.thread with
  | .configuring, .returnedOn _, _ => { driver with phase := .verifying }
  | .configuring, .raisedOn _, _ => { driver with phase := .errorProcessing }
  | .verifying, _, _ => driver.verify now
  | .deactivating, _, none =>
      { driver with
        state := { driver.state with ftDataPublisher := false, ftStatePublisher := false }
        services := [], phase := .inactive }
  | .cleaningUp, .returnedOff, _ => { driver with phase := .unconfigured }
  | .cleaningUp, .raisedOff _, _ => { driver with phase := .errorProcessing }
  | _, _, _ => driver

/-! ### What runs beside them -/

/-- One pass of `_publish_data`; what it publishes is not kept here. -/
def publish (driver : Driver) (clock : Clock) (now : Int) : Driver :=
  match driver.thread with
  | none => driver
  | some config =>
      if driver.stopEvent then { driver with thread := none }
      else
        let (_, outcome) := driver.sensor.driver.sampleBatch now
        let sampled := { driver with sensor := driver.sensor.step (.sampleBatch now) }
        match outcome with
        | .error _ => { sampled with thread := none }
        | .ok samples =>
            let pass :=
              publishPass config clock driver.sensor.driver.isStreaming driver.state samples
            { sampled with
              state := pass.node, thread := if pass.raised = none then some config else none }

/-- A request is only taken while its service exists. -/
def accept (driver : Driver) (request : Request) : Driver :=
  if request.service ∈ driver.services then
    { driver with requests := driver.requests ++ [request] }
  else driver

/-- The callback of a request calls the sensor. -/
def serve (driver : Driver) (index : Nat) (outcome : Outcome) : Driver :=
  match driver.requests[index]? with
  | some request =>
      { driver with
        sensor := driver.sensor.step (.command request.command outcome)
        requests := driver.requests.eraseIdx index }
  | none => driver

end Driver

/-- The transitions, and what runs beside them. `recover` ends the error processing, which is
rclpy's own. -/
inductive Action where
  | configure
  | activate (now : Int)
  | deactivate
  | cleanup
  | shutdown
  | recover (success : Bool)
  | callback (now : Int)
  | main (input : MainInput)
  | loop (index : Nat) (input : LoopInput)
  | arrive (datagram : Datagram)
  | publish (clock : Clock) (now : Int)
  | accept (request : Request)
  | serve (index : Nat) (outcome : Outcome)

def Driver.step (driver : Driver) : Action → Driver
  | .configure => if driver.phase = .unconfigured then driver.configure else driver
  | .activate now => if driver.phase = .inactive then driver.activate now else driver
  | .deactivate => if driver.phase = .active then driver.deactivate else driver
  | .cleanup => if driver.phase = .inactive then driver.cleanup else driver
  | .shutdown =>
      if driver.phase = .unconfigured ∨ driver.phase = .inactive ∨ driver.phase = .active then
        driver.shutdown
      else driver
  | .recover success =>
      if driver.phase = .errorProcessing then
        { driver with phase := if success then .unconfigured else .finalized }
      else driver
  | .callback now => driver.callback now
  | .main input => { driver with sensor := driver.sensor.step (.main input) }
  | .loop index input => { driver with sensor := driver.sensor.step (.loop index input) }
  | .arrive datagram => { driver with sensor := driver.sensor.step (.arrive datagram) }
  | .publish clock now => driver.publish clock now
  | .accept request => driver.accept request
  | .serve index outcome => driver.serve index outcome

end SchunkFts.Node.Lifecycle
