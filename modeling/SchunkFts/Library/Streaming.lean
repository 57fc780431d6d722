import SchunkFts.Library.DriverSettings
import SchunkFts.Library.Reconnect
import SchunkFts.Library.UpdateLoop

/-! The library driver while it is called: `streaming_on` and `streaming_off` phase by phase, the
update loops they have started, the datagrams that arrive, and the calls of other threads. One step
is a phase of a call, or what an update loop does between two waits. A new TCP socket can always be
had. -/

namespace SchunkFts.Library.Streaming
open SchunkFts.Foundation.Struct SchunkFts.Foundation.Hex
open Packet DataBuffer DriverSettings UpdateLoop Messages Requests Control ControlCalls Reconnect

/-- The fields of the update loop, the control channel, the entries of the stream's `with` block, and
the datagrams in the buffer of the bound socket. -/
structure SensorDriver extends UpdateLoop.Driver where
  port : Int
  openCount : Nat
  unread : List Datagram
  channel : Channel
  name : String
  hardwareId : String
  outputRate : OutputRate

namespace SensorDriver

def new (streamingPort : Int) (sourceIp : Option String) (outputRate : OutputRate) (now : Int) :
    SensorDriver where
  stream := ⟨sourceIp, false, 0, 0, []⟩
  ftData := .new 1000 now
  isStreaming := false
  autoReconnect := false
  receivedData := false
  timeout := 100000000
  producerPacketCount := 0
  lastProducerCounter := -1
  port := streamingPort
  openCount := 0
  unread := []
  channel := .new
  name := "SCHUNK FTS"
  hardwareId := "unknown"
  outputRate := outputRate

/-- `Stream.__enter__` -/
def enterStream (driver : SensorDriver) (bound : Bool) : SensorDriver :=
  if driver.port < 1024 ∨ 65535 < driver.port then driver
  else if driver.stream.isOpen then { driver with openCount := driver.openCount + 1 }
  else if bound then
    { driver with stream := { driver.stream with isOpen := true }, openCount := 1 }
  else driver

/-- `Stream.__exit__`; a closed socket loses what it has not handed out. -/
def leaveStream (driver : SensorDriver) : SensorDriver :=
  if 1 < driver.openCount then { driver with openCount := driver.openCount - 1 }
  else
    { driver with stream := { driver.stream with isOpen := false }, openCount := 0, unread := [] }

/-- A datagram is lost if no socket is bound. -/
def arrive (driver : SensorDriver) (datagram : Datagram) : SensorDriver :=
  if driver.stream.isOpen then { driver with unread := driver.unread ++ [datagram] } else driver

def sample (driver : SensorDriver) (now : Int) : SensorDriver × Result (Option FTData) :=
  if driver.isStreaming then
    let (ftData, sample) := driver.ftData.get now
    ({ driver with ftData := ftData }, sample)
  else (driver, .ok none)

def sampleBatch (driver : SensorDriver) (now : Int) :
    SensorDriver × Result (Option (List FTSample)) :=
  let (after, samples) := driver.toDriver.sampleBatch now
  ({ driver with toDriver := after }, samples)

/-- `get_status` without a status. -/
def getStatus (driver : SensorDriver) (now : Int) :
    SensorDriver × Result (Option SensorStatus) :=
  if driver.isStreaming then
    match driver.sample now with
    | (after, .ok none) => (after, .ok none)
    | (after, .ok (some status)) => (after, .ok (some (.fromBits status.statusBits)))
    | (after, .error error) => (after, .error error)
  else (driver, .ok none)

def clearSamples (driver : SensorDriver) (now : Int) : SensorDriver :=
  { driver with ftData := driver.ftData.clear now }

end SensorDriver

/-! ### The update loop -/

/-- Where an update loop is: before its `with` block, at its condition, before the put of a packet,
in the wait before an attempt to reconnect, or in one of the three waits of the attempt. -/
inductive LoopPhase where
  | entering
  | waiting
  | putting (packet : Bytes) (rest : List Bytes)
  | sleeping
  | reopening
  | restarting
  | stabilizing
  | finished
  deriving DecidableEq, Repr

structure Loop where
  phase : LoopPhase
  lastPacketTime : Int
  connectionLost : Bool
  deriving DecidableEq, Repr

/-- The thread, before it sets its variables. -/
def Loop.new : Loop where
  phase := .entering
  lastPacketTime := 0
  connectionLost := false

def Loop.isAlive (loop : Loop) : Bool := loop.phase ≠ .finished

/-- What a step of a loop meets: the clock, whether the port can be bound, and the sensor during an
attempt to reconnect. -/
structure LoopInput where
  now : Int
  bound : Bool := true
  attempt : Attempt := {}

/-- `unpack_from` raises nothing but `struct.error`, so no put ends a loop. -/
def LoopPhase.ofUpdate : Phase → LoopPhase
  | .waiting => waiting
  | .putting packet rest => putting packet rest
  | .finished => finished
  | .raised _ => finished

/-- A pass without packets, up to its end or to the wait before an attempt. -/
def missPass (driver : SensorDriver) (loop : Loop) (now : Int) : SensorDriver × Loop :=
  if driver.timeout < now - loop.lastPacketTime then
    let lost :=
      if loop.connectionLost then driver
      else { driver with receivedData := false, channel := driver.channel.close }
    if lost.autoReconnect then (lost, { loop with connectionLost := true, phase := .sleeping })
    else ({ lost with isStreaming := false }, { loop with connectionLost := true })
  else (driver, loop)

/-- From the loop's condition to the first put. -/
def readPass (driver : SensorDriver) (loop : Loop) (now : Int) : SensorDriver × Loop :=
  if driver.isStreaming ∨ (loop.connectionLost ∧ driver.autoReconnect) then
    let (stream, packets) := driver.stream.read driver.unread
    let unread := if driver.stream.isOpen then [] else driver.unread
    let read := { driver with stream := stream, unread := unread }
    match packets with
    | [] => missPass read loop now
    | packet :: rest =>
        ({ read with receivedData := true },
          { phase := .putting packet rest, lastPacketTime := now, connectionLost := false })
  else (driver.leaveStream, { loop with phase := .finished })

/-- An attempt is `attemptReconnect`, one stage a step. -/
def loopStep (driver : SensorDriver) (loop : Loop) (input : LoopInput) : SensorDriver × Loop :=
  match loop.phase with
  | .entering =>
      (driver.enterStream input.bound,
        { phase := .waiting, lastPacketTime := input.now, connectionLost := false })
  | .waiting => readPass driver loop input.now
  | .putting packet rest =>
      let (after, state) := putPacket driver.toDriver
        ⟨.putting packet rest, loop.lastPacketTime, loop.connectionLost⟩ packet rest
      ({ driver with toDriver := after }, { loop with phase := .ofUpdate state.phase })
  | .sleeping => ({ driver with channel := driver.channel.close }, { loop with phase := .reopening })
  | .reopening =>
      let (channel, opened) := driver.channel.openUp input.attempt.opening
      ({ driver with channel := channel },
        { loop with phase := if opened then .restarting else .waiting })
  | .restarting =>
      let (channel, reconnected) :=
        restart driver.channel driver.outputRate.mode.parameterValue input.attempt
      ({ driver with channel := channel },
        { loop with phase := if reconnected = .ok true then .stabilizing else .waiting })
  | .stabilizing =>
      ({ driver with receivedData := true },
        { phase := .waiting, lastPacketTime := input.now, connectionLost := false })
  | .finished => (driver, loop)

/-! ### The calls -/

/-- Where the caller that holds `_streaming_lock` is, or how the last call has ended. -/
inductive CallPhase where
  | idle
  | opening (autoReconnect : Bool)
  | spawning (autoReconnect : Bool)
  | awaitingStream
  | pausing
  | readingName
  | readingId
  | configuring
  | startingStream
  | returnedOn (result : Bool)
  | raisedOn (error : PyError)
  | stopping
  | clearing
  | joining
  | closing
  | returnedOff
  | raisedOff (error : PyError)
  deriving DecidableEq, Repr

def CallPhase.inProgress : CallPhase → Bool
  | idle => false
  | returnedOn _ => false
  | raisedOn _ => false
  | returnedOff => false
  | raisedOff _ => false
  | _ => true

/-- The driver, every update loop it has started, the last one at the end, and the current call. -/
structure System where
  driver : SensorDriver
  loops : List Loop
  call : CallPhase

/-- What a phase of a call meets: the server, the exchange, and whether the time is over. -/
structure MainInput where
  opening : Opening := { accepted := true }
  outcome : Outcome := { received := none }
  late : Bool := false

/-- The calls of other threads that use the connection. -/
inductive Command where
  | getParameter (index subindex : String)
  | setParameter (value index subindex : String)
  | runCommand (command : String)
  | selectToolSetting (toolIndex : Int)
  | selectNoiseFilter (filterNumber : Int)

def Command.perform (channel : Channel) (outcome : Outcome) : Command → Channel
  | getParameter index subindex => (channel.getParameter outcome index subindex).1
  | setParameter value index subindex => (channel.setParameter outcome value index subindex).1
  | runCommand command => (channel.runCommand outcome command).1
  | selectToolSetting toolIndex => (channel.select outcome "30" 3 toolIndex).1
  | selectNoiseFilter filterNumber => (channel.select outcome "31" 4 filterNumber).1

inductive Action where
  | streamingOn (floatTimeout autoReconnect : Bool)
  | streamingOff
  | main (input : MainInput)
  | loop (index : Nat) (input : LoopInput)
  | arrive (datagram : Datagram)
  | command (command : Command) (outcome : Outcome)
  | sample (now : Int)
  | sampleBatch (now : Int)
  | clearSamples (now : Int)

/-- Pairs of hexadecimal digits as characters, without the null characters at both ends. -/
def asciiName (text : String) : String :=
  let characters := ((fromHex text).getD []).map (fun byte => Char.ofNat byte.toNat)
  let isNull := fun c => c = Char.ofNat 0
  .ofList ((characters.dropWhile isNull).reverse.dropWhile isNull).reverse

namespace System

def new (streamingPort : Int) (sourceIp : Option String) (outputRate : OutputRate) (now : Int) :
    System where
  driver := .new streamingPort sourceIp outputRate now
  loops := []
  call := .idle

/-- `stream_update_thread.is_alive()` -/
def threadAlive (s : System) : Bool :=
  match s.loops.getLast? with
  | some loop => loop.isAlive
  | none => false

/-- A call of `streaming_on` up to its first use of the connection. -/
def streamingOn (s : System) (floatTimeout autoReconnect : Bool) : System :=
  if s.driver.isStreaming then { s with call := .returnedOn true }
  else if floatTimeout then { s with call := .opening autoReconnect }
  else { s with driver := { s.driver with isStreaming := false }, call := .returnedOn false }

def mainStep (s : System) (input : MainInput) : System :=
  match s.call with
  | .opening autoReconnect =>
      let (channel, opened) := s.driver.channel.openUp input.opening
      let tried := { s.driver with channel := channel }
      if opened then { s with driver := tried, call := .spawning autoReconnect }
      else { s with driver := { tried with isStreaming := false }, call := .returnedOn false }
  | .spawning autoReconnect =>
      { driver := { s.driver with isStreaming := true, autoReconnect := autoReconnect }
        loops := s.loops ++ [.new]
        call := .awaitingStream }
  | .awaitingStream =>
      { s with call := if s.driver.stream.isOpen then .readingName else .pausing }
  | .pausing =>
      if input.late then
        { s with driver := { s.driver with isStreaming := false }, call := .returnedOn false }
      else { s with call := .awaitingStream }
  | .readingName =>
      match s.driver.channel.getParameter input.outcome "0001" "00" with
      | (channel, .ok response) =>
          { s with
            driver := { s.driver with channel := channel, name := asciiName response.paramValue }
            call := .readingId }
      | (channel, .error error) =>
          { s with driver := { s.driver with channel := channel }, call := .raisedOn error }
  | .readingId =>
      match s.driver.channel.getParameter input.outcome "0001" "03" with
      | (channel, .ok response) =>
          { s with
            driver := { s.driver with channel := channel, hardwareId := response.paramValue }
            call := .configuring }
      | (channel, .error error) =>
          { s with driver := { s.driver with channel := channel }, call := .raisedOn error }
  | .configuring =>
      match s.driver.channel.configureOutputRate input.outcome
          s.driver.outputRate.mode.parameterValue with
      | (channel, .ok true) =>
          { s with driver := { s.driver with channel := channel }, call := .startingStream }
      | (channel, .ok false) =>
          { s with
            driver := { s.driver with
              channel := channel.close, isStreaming := false, autoReconnect := false }
            call := .returnedOn false }
      | (channel, .error error) =>
          { s with driver := { s.driver with channel := channel }, call := .raisedOn error }
  | .startingStream =>
      match s.driver.channel.startUdpStream input.outcome with
      | (channel, .ok _) =>
          { s with driver := { s.driver with channel := channel }, call := .returnedOn true }
      | (channel, .error error) =>
          { s with driver := { s.driver with channel := channel }, call := .raisedOn error }
  | .stopping =>
      match s.driver.channel.stopUdpStream input.outcome with
      | (channel, .ok _) =>
          { s with driver := { s.driver with channel := channel }, call := .clearing }
      | (channel, .error error) =>
          { s with driver := { s.driver with channel := channel }, call := .raisedOff error }
  | .clearing =>
      { s with
        driver := { s.driver with autoReconnect := false, isStreaming := false }, call := .joining }
  | .joining => if s.threadAlive then s else { s with call := .closing }
  | .closing =>
      { s with
        driver := { s.driver with channel := s.driver.channel.close }, call := .returnedOff }
  | _ => s

def stepLoop (s : System) (index : Nat) (input : LoopInput) : System :=
  match s.loops[index]? with
  | some loop =>
      let (driver, next) := loopStep s.driver loop input
      { s with driver := driver, loops := s.loops.set index next }
  | none => s

/-- `_streaming_lock` keeps a call out while another is in progress. -/
def step (s : System) : Action → System
  | .streamingOn floatTimeout autoReconnect =>
      if s.call.inProgress then s else s.streamingOn floatTimeout autoReconnect
  | .streamingOff => if s.call.inProgress then s else { s with call := .stopping }
  | .main input => s.mainStep input
  | .loop index input => s.stepLoop index input
  | .arrive datagram => { s with driver := s.driver.arrive datagram }
  | .command command outcome =>
      { s with driver := { s.driver with channel := command.perform s.driver.channel outcome } }
  | .sample now => { s with driver := (s.driver.sample now).1 }
  | .sampleBatch now => { s with driver := (s.driver.sampleBatch now).1 }
  | .clearSamples now => { s with driver := s.driver.clearSamples now }

end System
end SchunkFts.Library.Streaming
