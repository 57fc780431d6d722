import SchunkFts.Foundation.Simulation
import SchunkFts.Node.HeldResources
import SchunkFts.Whole.DataPath

/-! The active node in full, with its services and its attempts to reconnect, at the end of the
sensor's stream. What it does with the packets is what the two loops of the data path do. -/

namespace SchunkFts.Whole.ActiveNode
open SchunkFts.Foundation SchunkFts.Foundation.Struct
open SchunkFts.Library.Packet SchunkFts.Library.DataBuffer SchunkFts.Library.UpdateLoop
open SchunkFts.Library.Streaming SchunkFts.Library.LoopSteps
open SchunkFts.Dummy.OutputRate SchunkFts.Dummy.UdpStream
open SchunkFts.Node SchunkFts.Node.PublishLoop SchunkFts.Node.Conservation DataPath

/-- The sensor's stream, the network and the node, with all that the node has published. -/
structure Plant where
  address : String
  sensor : StreamState
  rate : OutputRateState
  sent : List Sent
  flight : List Nat
  lost : List Nat
  arrived : List Nat
  node : Lifecycle.Driver
  effects : List Effect

inductive Action where
  | request (value : Byte)
  | restart
  | emit (words : Nat → SampleWords)
  | lose (position : Nat)
  | arrive (position : Nat)
  | node (action : Lifecycle.Action)

/-- What a pass of `_publish_data` publishes. -/
def published (node : Lifecycle.Driver) : Lifecycle.Action → List Effect
  | .publish clock now =>
      match node.thread with
      | none => []
      | some config =>
          if node.stopEvent then []
          else
            match (node.sensor.driver.sampleBatch now).2 with
            | .error _ => []
            | .ok samples =>
                (publishPass config clock node.sensor.driver.isStreaming node.state samples).effects
  | _ => []

namespace Plant

def start (address : String) (sensor : StreamState) (rate : OutputRateState)
    (node : Lifecycle.Driver) : Plant where
  address := address
  sensor := sensor
  rate := rate
  sent := []
  flight := []
  lost := []
  arrived := []
  node := node
  effects := []

def data (s : Plant) (number : Nat) : Bytes := ((s.sent[number]?).map Sent.data).getD []

def datagram (s : Plant) (number : Nat) : Datagram := ⟨s.address, s.data number⟩

/-- A datagram is lost if no socket is bound. -/
def land (s : Plant) (number : Nat) : Plant :=
  if s.node.sensor.driver.stream.isOpen then
    { s with
      arrived := s.arrived ++ [number]
      node := s.node.step (.arrive (s.datagram number)) }
  else { s with lost := s.lost ++ [number] }

def step (s : Plant) : Action → Plant
  | .request value => { s with rate := (s.rate.setEnum value).1 }
  | .restart => { s with sensor := {}, rate := .new }
  | .emit words =>
      { s with
        sensor := s.sensor.next
        sent := s.sent ++ [⟨s.sensor, s.rate, words⟩]
        flight := s.flight ++ [s.sent.length] }
  | .lose position =>
      match s.flight[position]? with
      | some number =>
          { s with flight := s.flight.eraseIdx position, lost := s.lost ++ [number] }
      | none => s
  | .arrive position =>
      match s.flight[position]? with
      | some number => { s with flight := s.flight.eraseIdx position }.land number
      | none => s
  | .node action =>
      { s with node := s.node.step action, effects := s.effects ++ published s.node action }

end Plant

/-- The node stays active, and the sensor is the only one to send to the port. -/
def Stays : Action → Prop
  | .node .deactivate => False
  | .node .shutdown => False
  | .node (.arrive _) => False
  | _ => True

/-! ### The update loop -/

/-- The loop of the data path does not know the waits of an attempt to reconnect. -/
def shown : LoopPhase → Option Phase
  | .waiting => some .waiting
  | .putting packet rest => some (.putting packet rest)
  | .sleeping => some .waiting
  | .reopening => some .waiting
  | .restarting => some .waiting
  | .stabilizing => some .waiting
  | .entering => none
  | .finished => none

/-- The two drivers differ at most in the flag of a warning. -/
structure Same (low high : Driver) : Prop where
  stream : high.stream = low.stream
  ftData : high.ftData = low.ftData
  isStreaming : high.isStreaming = low.isStreaming
  autoReconnect : high.autoReconnect = low.autoReconnect
  timeout : high.timeout = low.timeout
  producerPacketCount : high.producerPacketCount = low.producerPacketCount
  lastProducerCounter : high.lastProducerCounter = low.lastProducerCounter

theorem shown_putRest (rest : List Bytes) :
    shown (.ofUpdate (.putRest rest)) = some (.putRest rest) := by
  cases rest <;> rfl

/-- A pass that finds nothing, in a driver that reconnects. -/
theorem missPass_same (driver : SensorDriver) (loop : Loop) (now : Int)
    (here : loop.phase = .waiting) (reconnects : driver.autoReconnect = true) :
    Same driver.toDriver (missPass driver loop now).1.toDriver ∧
      shown (missPass driver loop now).2.phase = some .waiting ∧
      (missPass driver loop now).1.unread = driver.unread := by
  simp only [missPass]
  split_ifs
  · exact ⟨⟨rfl, rfl, rfl, rfl, rfl, rfl, rfl⟩, rfl, rfl⟩
  · exact ⟨⟨rfl, rfl, rfl, rfl, rfl, rfl, rfl⟩, rfl, rfl⟩
  · exact ⟨⟨rfl, rfl, rfl, rfl, rfl, rfl, rfl⟩, by rw [here]; rfl, rfl⟩

theorem missPackets_same (high : Driver) (update : UpdateState) (input : PassInput)
    (reconnects : high.autoReconnect = true) :
    Same high (missPackets high update input).1 ∧
      (missPackets high update input).2.phase = update.phase := by
  simp only [missPackets]
  split_ifs
  · exact ⟨⟨rfl, rfl, rfl, rfl, rfl, rfl, rfl⟩, rfl⟩
  · exact ⟨⟨rfl, rfl, rfl, rfl, rfl, rfl, rfl⟩, rfl⟩
  · exact ⟨⟨rfl, rfl, rfl, rfl, rfl, rfl, rfl⟩, rfl⟩

theorem Same.symm {low high : Driver} (same : Same low high) : Same high low :=
  ⟨same.stream.symm, same.ftData.symm, same.isStreaming.symm, same.autoReconnect.symm,
    same.timeout.symm, same.producerPacketCount.symm, same.lastProducerCounter.symm⟩

theorem Same.trans {first second third : Driver} (same : Same first second)
    (other : Same second third) : Same first third :=
  ⟨other.stream.trans same.stream, other.ftData.trans same.ftData,
    other.isStreaming.trans same.isStreaming, other.autoReconnect.trans same.autoReconnect,
    other.timeout.trans same.timeout, other.producerPacketCount.trans same.producerPacketCount,
    other.lastProducerCounter.trans same.lastProducerCounter⟩

/-- What a step of the node's update loop leaves, against a step of the other one. -/
structure Matches (driver after : SensorDriver) (next : Loop) (high : Driver) (update : UpdateState)
    (Drains : Prop) : Prop where
  same : Same after.toDriver high
  inStep : shown next.phase = some update.phase
  drained : Drains → after.unread = []
  kept : ¬Drains → after.unread = driver.unread

/-- The read of both. -/
theorem readPass_matches (driver : SensorDriver) (loop : Loop) (now : Int)
    (here : loop.phase = .waiting) (streaming : driver.isStreaming = true)
    (reconnects : driver.autoReconnect = true) (high : Driver) (same : Same driver.toDriver high)
    (update : UpdateState) (waiting : update.phase = .waiting) :
    Matches driver (readPass driver loop now).1 (readPass driver loop now).2
      (readPackets high update ⟨driver.unread, now, false, 0⟩).1
      (readPackets high update ⟨driver.unread, now, false, 0⟩).2
      (driver.stream.isOpen = true) := by
  rcases reading : driver.stream.read driver.unread with ⟨stream, packets⟩
  have highReading : high.stream.read driver.unread = (stream, packets) := by
    rw [same.stream, reading]
  have lowOn : driver.isStreaming = true ∨
      (loop.connectionLost = true ∧ driver.autoReconnect = true) := .inl streaming
  have highOn : high.isStreaming = true ∨
      (update.connectionLost = true ∧ high.autoReconnect = true) :=
    .inl (same.isStreaming.trans streaming)
  have highAgain : high.autoReconnect = true := same.autoReconnect.trans reconnects
  simp only [readPass, readPackets, reading, highReading]
  rw [if_pos lowOn, if_pos highOn]
  have read : Same { driver.toDriver with stream := stream } { high with stream := stream } :=
    ⟨rfl, same.ftData, same.isStreaming, same.autoReconnect, same.timeout,
      same.producerPacketCount, same.lastProducerCounter⟩
  cases packets with
  | nil =>
    obtain ⟨low, phase, unread⟩ := missPass_same { driver with
      stream := stream, unread := if driver.stream.isOpen then [] else driver.unread }
      loop now here reconnects
    obtain ⟨up, still⟩ := missPackets_same { high with stream := stream } update
      ⟨driver.unread, now, false, 0⟩ highAgain
    dsimp only
    refine ⟨(low.symm.trans read).trans up, ?_, ?_, ?_⟩
    · rw [phase, still, waiting]
    · intro opened
      rw [unread, if_pos opened]
    · intro closed
      rw [unread, if_neg closed]
  | cons packet rest =>
    refine ⟨⟨rfl, same.ftData, same.isStreaming, same.autoReconnect, same.timeout,
      same.producerPacketCount, same.lastProducerCounter⟩, rfl, ?_, ?_⟩
    · exact fun opened => if_pos opened
    · exact fun closed => if_neg closed

theorem putPacket_same (low high : Driver) (same : Same low high) (loop update : UpdateState)
    (packet : Bytes) (rest : List Bytes) :
    Same (putPacket low loop packet rest).1 (putPacket high update packet rest).1 := by
  obtain ⟨stream, ftData, isStreaming, autoReconnect, timeout, count, last⟩ := same
  by_cases short : packet.length < 4
  · rw [putPacket_short low loop packet rest short, putPacket_short high update packet rest short]
    exact ⟨stream, ftData, isStreaming, autoReconnect, timeout, congrArg (· + 1) count, last⟩
  · rw [putPacket_long low loop packet rest (by omega),
      putPacket_long high update packet rest (by omega)]
    exact ⟨stream, congrArg (FTDataBuffer.put · packet) ftData, isStreaming, autoReconnect, timeout,
      congrArg (· + 1) count, rfl⟩

/-- At its condition and before a put the node's loop does what the other one does. -/
theorem loopStep_matches (driver : SensorDriver) (loop : Loop) (input : LoopInput)
    (streaming : driver.isStreaming = true) (reconnects : driver.autoReconnect = true)
    (high : Driver) (same : Same driver.toDriver high) (update : UpdateState)
    (here : loop.phase = .waiting ∨ ∃ packet rest, loop.phase = .putting packet rest)
    (inStep : shown loop.phase = some update.phase) :
    Matches driver (loopStep driver loop input).1 (loopStep driver loop input).2
      (updateStep high update ⟨driver.unread, input.now, false, 0⟩).1
      (updateStep high update ⟨driver.unread, input.now, false, 0⟩).2
      (loop.phase = .waiting ∧ driver.stream.isOpen = true) := by
  rcases here with here | ⟨packet, rest, here⟩
  · rw [here] at inStep
    have waiting : update.phase = .waiting := (Option.some.inj inStep).symm
    obtain ⟨read, phase, drained, kept⟩ := readPass_matches driver loop input.now here streaming
      reconnects high same update waiting
    simp only [loopStep, updateStep, here, waiting]
    exact ⟨read, phase, fun both => drained both.2,
      fun closed => kept (fun opened => closed ⟨trivial, opened⟩)⟩
  · rw [here] at inStep
    have putting : update.phase = .putting packet rest := (Option.some.inj inStep).symm
    have low := (putPacket_spec driver.toDriver
      ⟨.putting packet rest, loop.lastPacketTime, loop.connectionLost⟩ packet rest).2.2.2
    have up := (putPacket_spec high update packet rest).2.2.2
    simp only [loopStep, updateStep, here, putting]
    refine ⟨putPacket_same driver.toDriver high same _ update packet rest, ?_, ?_, fun _ => rfl⟩
    · rw [low, up]
      exact shown_putRest rest
    · intro both
      exact absurd both.1 (by simp)

/-- In the stages of an attempt it leaves the data alone. -/
theorem loopStep_attempt (driver : SensorDriver) (loop : Loop) (input : LoopInput)
    (here : loop.phase = .sleeping ∨ loop.phase = .reopening ∨ loop.phase = .restarting ∨
      loop.phase = .stabilizing) :
    Same driver.toDriver (loopStep driver loop input).1.toDriver ∧
      shown (loopStep driver loop input).2.phase = some .waiting ∧
      (loopStep driver loop input).1.unread = driver.unread := by
  have data : Same driver.toDriver driver.toDriver := ⟨rfl, rfl, rfl, rfl, rfl, rfl, rfl⟩
  rcases here with here | here | here | here
  · simp only [loopStep, here]
    exact ⟨data, rfl, trivial⟩
  · simp only [loopStep, here]
    refine ⟨data, ?_, trivial⟩
    split_ifs <;> rfl
  · simp only [loopStep, here]
    refine ⟨data, ?_, trivial⟩
    split_ifs <;> rfl
  · simp only [loopStep, here]
    exact ⟨⟨rfl, rfl, rfl, rfl, rfl, rfl, rfl⟩, rfl, trivial⟩

/-! ### The node -/

/-- One update loop runs, past its start, in a driver that reconnects; and the publish loop, unless an
exception has ended it. -/
structure Follows (config : Config) (node : Lifecycle.Driver) (receiver : Loops.System) : Prop where
  phase : node.phase = .active
  going : node.stopEvent = false
  quiet : node.sensor.call.inProgress = false
  streaming : node.sensor.driver.isStreaming = true
  reconnects : node.sensor.driver.autoReconnect = true
  same : Same node.sensor.driver.toDriver receiver.driver
  loop : ∃ (index : Nat) (loop : Loop), node.sensor.loops[index]? = some loop ∧
    shown loop.phase = some receiver.update.phase ∧
    ∀ (other : Nat) (old : Loop), node.sensor.loops[other]? = some old → other ≠ index →
      old.phase = .finished
  state : node.state = receiver.node
  thread : node.thread = if receiver.publishRaised = none then some config else none

/-- A step that leaves the stream, its data and the loops alone. -/
theorem Follows.beside {config : Config} {node : Lifecycle.Driver} {receiver : Loops.System}
    (follows : Follows config node receiver) (sensor : System) (driver : Driver)
    (requests : List Lifecycle.Request) (call : sensor.call = node.sensor.call)
    (loops : sensor.loops = node.sensor.loops)
    (streaming : sensor.driver.isStreaming = node.sensor.driver.isStreaming)
    (reconnects : sensor.driver.autoReconnect = node.sensor.driver.autoReconnect)
    (same : Same sensor.driver.toDriver driver) :
    Follows config { node with sensor := sensor, requests := requests }
      { receiver with driver := driver } where
  phase := follows.phase
  going := follows.going
  quiet := by rw [call, follows.quiet]
  streaming := by rw [streaming, follows.streaming]
  reconnects := by rw [reconnects, follows.reconnects]
  same := same
  loop := by
    rw [loops]
    exact follows.loop
  state := follows.state
  thread := follows.thread

theorem sampleBatch_same (low high : Driver) (same : Same low high) (now : Int) :
    Same (low.sampleBatch now).1 (high.sampleBatch now).1 ∧
      (high.sampleBatch now).2 = (low.sampleBatch now).2 := by
  obtain ⟨stream, ftData, isStreaming, autoReconnect, timeout, count, last⟩ := same
  unfold Driver.sampleBatch
  rw [isStreaming, ftData]
  split_ifs with streaming
  · exact ⟨⟨stream, rfl, rfl, autoReconnect, timeout, count, last⟩, rfl⟩
  · exact ⟨⟨stream, ftData, isStreaming, autoReconnect, timeout, count, last⟩, rfl⟩

theorem sampleBatch_flags (driver : Driver) (now : Int) :
    (driver.sampleBatch now).1.isStreaming = driver.isStreaming ∧
      (driver.sampleBatch now).1.autoReconnect = driver.autoReconnect := by
  unfold Driver.sampleBatch
  split_ifs <;> exact ⟨rfl, rfl⟩

/-- The passes of the publish loop are the same, and end it together. -/
theorem follows_pass {config : Config} {node : Lifecycle.Driver} {receiver : Loops.System}
    (follows : Follows config node receiver) (clock : Clock) (now : Int) :
    Follows config (node.step (.publish clock now)) (receiver.publish config clock now) ∧
      (receiver.publish config clock now).effects =
        receiver.effects ++ published node (.publish clock now) := by
  have thread := follows.thread
  cases raised : receiver.publishRaised with
  | some error =>
    rw [raised, if_neg (Option.some_ne_none error)] at thread
    have idle : node.step (.publish clock now) = node := by
      simp only [Lifecycle.Driver.step, Lifecycle.Driver.publish, thread]
    have nothing : published node (.publish clock now) = [] := by simp only [published, thread]
    have still := Loops.publish_raised config receiver clock now
      (by rw [raised]; exact Option.some_ne_none error)
    rw [idle, nothing, still, List.append_nil]
    exact ⟨follows, rfl⟩
  | none =>
    rw [raised, if_pos rfl] at thread
    obtain ⟨sampled, outcome⟩ := sampleBatch_same _ _ follows.same now
    obtain ⟨streaming, reconnects⟩ := sampleBatch_flags node.sensor.driver.toDriver now
    have streamingHigh := (sampleBatch_flags receiver.driver now).1
    rcases low : node.sensor.driver.toDriver.sampleBatch now with ⟨after, result⟩
    rcases up : receiver.driver.sampleBatch now with ⟨driver, other⟩
    rw [low, up] at sampled outcome
    rw [low] at streaming reconnects
    rw [up] at streamingHigh
    have stepped : node.sensor.step (.sampleBatch now) =
        { node.sensor with driver := { node.sensor.driver with toDriver := after } } := by
      simp only [System.step, SensorDriver.sampleBatch, low]
    have beside := follows.beside
      { node.sensor with driver := { node.sensor.driver with toDriver := after } } driver
      node.requests rfl rfl streaming reconnects sampled
    cases result with
    | error error =>
      have stops : node.step (.publish clock now) = { node with
          sensor := { node.sensor with driver := { node.sensor.driver with toDriver := after } }
          thread := none } := by
        simp only [Lifecycle.Driver.step, Lifecycle.Driver.publish, thread, follows.going,
          SensorDriver.sampleBatch, low, stepped, Bool.false_eq_true, if_false]
      have nothing : published node (.publish clock now) = [] := by
        simp only [published, thread, follows.going, SensorDriver.sampleBatch, low,
          Bool.false_eq_true, if_false]
      simp only [Loops.System.publish, raised, up, outcome]
      rw [stops, nothing, List.append_nil]
      exact ⟨{ beside with thread := rfl }, rfl⟩
    | ok samples =>
      have on : driver.isStreaming = node.sensor.driver.isStreaming :=
        streamingHigh.trans follows.same.isStreaming
      have passes : node.step (.publish clock now) = { node with
          sensor := { node.sensor with driver := { node.sensor.driver with toDriver := after } }
          state := (publishPass config clock driver.isStreaming receiver.node samples).node
          thread :=
            if (publishPass config clock driver.isStreaming receiver.node samples).raised = none then
              some config
            else none } := by
        simp only [Lifecycle.Driver.step, Lifecycle.Driver.publish, thread, follows.going,
          SensorDriver.sampleBatch, low, stepped, on, follows.state, Bool.false_eq_true, if_false]
      have messages : published node (.publish clock now) =
          (publishPass config clock driver.isStreaming receiver.node samples).effects := by
        simp only [published, thread, follows.going, SensorDriver.sampleBatch, low, on,
          follows.state, Bool.false_eq_true, if_false]
      simp only [Loops.System.publish, raised, up, outcome]
      rw [passes, messages]
      exact ⟨{ beside with state := rfl, thread := rfl }, rfl⟩

theorem pass_unread (node : Lifecycle.Driver) (clock : Clock) (now : Int) :
    (node.step (.publish clock now)).sensor.driver.unread = node.sensor.driver.unread := by
  simp only [Lifecycle.Driver.step, Lifecycle.Driver.publish]
  split
  · rfl
  · split_ifs
    · rfl
    · split <;> rfl

/-- The loop that runs takes a step, and stays the only one. -/
theorem Follows.moved {config : Config} {node : Lifecycle.Driver} {receiver : Loops.System}
    (follows : Follows config node receiver) (index : Nat) (input : LoopInput) (loop : Loop)
    (found : node.sensor.loops[index]? = some loop) (alive : loop.phase ≠ .finished)
    (high : Driver) (update : UpdateState)
    (same : Same (loopStep node.sensor.driver loop input).1.toDriver high)
    (inStep : shown (loopStep node.sensor.driver loop input).2.phase = some update.phase) :
    Follows config (node.step (.loop index input))
      { receiver with driver := high, update := update } := by
  obtain ⟨running, current, present, _, others⟩ := follows.loop
  have mine : index = running := by
    by_contra different
    exact alive (others index loop found different)
  subst mine
  obtain ⟨reconnects, streaming⟩ := loopStep_flags node.sensor.driver loop input
  have stays : (loopStep node.sensor.driver loop input).1.isStreaming = true := by
    rcases streaming with on | ⟨_, off⟩
    · exact on.trans follows.streaming
    · rw [follows.reconnects] at off
      cases off
  have inside := (List.getElem?_eq_some_iff.mp found).1
  simp only [Lifecycle.Driver.step, System.step, System.stepLoop, found]
  refine ⟨follows.phase, follows.going, follows.quiet, stays,
    reconnects.trans follows.reconnects, same,
    ⟨index, (loopStep node.sensor.driver loop input).2, ?_, inStep, ?_⟩, follows.state,
    follows.thread⟩
  · exact List.getElem?_set_self inside
  · intro other old member different
    rw [List.getElem?_set_ne different.symm] at member
    exact others other old member different

/-- A read or a put, and what it leaves unread. -/
theorem follows_loop {config : Config} {node : Lifecycle.Driver} {receiver : Loops.System}
    (follows : Follows config node receiver) (index : Nat) (input : LoopInput) (loop : Loop)
    (found : node.sensor.loops[index]? = some loop)
    (here : loop.phase = .waiting ∨ ∃ packet rest, loop.phase = .putting packet rest) :
    Follows config (node.step (.loop index input))
        (receiver.step config (.update ⟨node.sensor.driver.unread, input.now, false, 0⟩)) ∧
      (node.step (.loop index input)).sensor.driver.unread =
        if reads receiver then [] else node.sensor.driver.unread := by
  have alive : loop.phase ≠ .finished := by
    rcases here with here | ⟨packet, rest, here⟩ <;> rw [here] <;> simp
  have inStep : shown loop.phase = some receiver.update.phase := by
    obtain ⟨running, current, present, inStep, others⟩ := follows.loop
    by_cases mine : index = running
    · subst mine
      rw [Option.some.inj (found.symm.trans present)]
      exact inStep
    · exact absurd (others index loop found mine) alive
  obtain ⟨same, next, drained, kept⟩ := loopStep_matches node.sensor.driver loop input
    follows.streaming follows.reconnects receiver.driver follows.same receiver.update here inStep
  refine ⟨follows.moved index input loop found alive _ _ same next, ?_⟩
  have reading : reads receiver = true ↔
      loop.phase = .waiting ∧ node.sensor.driver.stream.isOpen = true := by
    rw [← follows.same.stream]
    rcases here with here | ⟨packet, rest, here⟩
    · rw [here] at inStep
      have waiting : receiver.update.phase = .waiting := (Option.some.inj inStep).symm
      simp [reads, waiting, here, follows.same.isStreaming, follows.streaming]
    · rw [here] at inStep
      have putting : receiver.update.phase = .putting packet rest := (Option.some.inj inStep).symm
      simp [reads, putting, here]
  simp only [Lifecycle.Driver.step, System.step, System.stepLoop, found]
  split_ifs with draining
  · exact drained (reading.mp draining)
  · exact kept (fun both => draining (reading.mpr both))

/-- A stage of an attempt to reconnect. -/
theorem follows_attempt {config : Config} {node : Lifecycle.Driver} {receiver : Loops.System}
    (follows : Follows config node receiver) (index : Nat) (input : LoopInput) (loop : Loop)
    (found : node.sensor.loops[index]? = some loop)
    (here : loop.phase = .sleeping ∨ loop.phase = .reopening ∨ loop.phase = .restarting ∨
      loop.phase = .stabilizing) :
    Follows config (node.step (.loop index input)) receiver ∧
      (node.step (.loop index input)).sensor.driver.unread = node.sensor.driver.unread := by
  obtain ⟨same, next, unread⟩ := loopStep_attempt node.sensor.driver loop input here
  have alive : loop.phase ≠ .finished := by
    rcases here with here | here | here | here <;> rw [here] <;> simp
  have waiting : receiver.update.phase = .waiting := by
    obtain ⟨running, current, present, inStep, others⟩ := follows.loop
    by_cases mine : index = running
    · subst mine
      rw [← Option.some.inj (found.symm.trans present)] at inStep
      rcases here with here | here | here | here <;> rw [here] at inStep <;>
        exact (Option.some.inj inStep).symm
    · exact absurd (others index loop found mine) alive
  refine ⟨follows.moved index input loop found alive receiver.driver receiver.update
    (same.symm.trans follows.same) (by rw [next, waiting]), ?_⟩
  simp only [Lifecycle.Driver.step, System.step, System.stepLoop, found]
  exact unread

theorem follows_arrive {config : Config} {node : Lifecycle.Driver} {receiver : Loops.System}
    (follows : Follows config node receiver) (datagram : Datagram)
    (opened : node.sensor.driver.stream.isOpen = true) :
    Follows config (node.step (.arrive datagram)) receiver ∧
      (node.step (.arrive datagram)).sensor.driver.unread =
        node.sensor.driver.unread ++ [datagram] := by
  have landed : node.step (.arrive datagram) = { node with
      sensor := { node.sensor with
        driver := { node.sensor.driver with
          unread := node.sensor.driver.unread ++ [datagram] } } } := by
    simp only [Lifecycle.Driver.step, System.step, SensorDriver.arrive, if_pos opened]
  rw [landed]
  exact ⟨follows.beside _ receiver.driver node.requests rfl rfl rfl rfl follows.same, rfl⟩

/-- Nothing else that the active node does concerns the data. -/
theorem follows_other {config : Config} {node : Lifecycle.Driver} {receiver : Loops.System}
    (follows : Follows config node receiver) (action : Lifecycle.Action)
    (stays : Stays (.node action)) (noLoop : ∀ index input, action ≠ .loop index input)
    (noPass : ∀ clock now, action ≠ .publish clock now) :
    Follows config (node.step action) receiver ∧
      (node.step action).sensor.driver.unread = node.sensor.driver.unread ∧
      published node action = [] := by
  have phase := follows.phase
  have kept := follows.beside node.sensor receiver.driver node.requests rfl rfl rfl rfl follows.same
  cases action with
  | configure =>
    simp only [Lifecycle.Driver.step, phase]
    exact ⟨kept, rfl, rfl⟩
  | activate now =>
    simp only [Lifecycle.Driver.step, phase]
    exact ⟨kept, rfl, rfl⟩
  | deactivate => exact stays.elim
  | cleanup =>
    simp only [Lifecycle.Driver.step, phase]
    exact ⟨kept, rfl, rfl⟩
  | shutdown => exact stays.elim
  | recover success =>
    simp only [Lifecycle.Driver.step, phase]
    exact ⟨kept, rfl, rfl⟩
  | callback now =>
    simp only [Lifecycle.Driver.step, Lifecycle.Driver.callback, phase]
    exact ⟨kept, trivial, rfl⟩
  | main input =>
    simp only [Lifecycle.Driver.step, System.step,
      HeldResources.mainStep_ended node.sensor input follows.quiet]
    exact ⟨kept, trivial, rfl⟩
  | loop index input => exact absurd rfl (noLoop index input)
  | arrive datagram => exact stays.elim
  | publish clock now => exact absurd rfl (noPass clock now)
  | accept request =>
    simp only [Lifecycle.Driver.step, Lifecycle.Driver.accept]
    split_ifs
    · exact ⟨follows.beside node.sensor receiver.driver _ rfl rfl rfl rfl follows.same, rfl, rfl⟩
    · exact ⟨kept, rfl, rfl⟩
  | serve index outcome =>
    simp only [Lifecycle.Driver.step, Lifecycle.Driver.serve]
    split
    · exact ⟨follows.beside _ receiver.driver _ rfl rfl rfl rfl follows.same, rfl, rfl⟩
    · exact ⟨kept, rfl, rfl⟩

/-! ### The simulation -/

/-- The steps of the data path behind a step of the plant. -/
def events (s : Plant) : Action → List DataPath.Action
  | .request value => [.request value]
  | .restart => [.restart]
  | .emit words => [.emit words]
  | .lose position => [.lose position]
  | .arrive position => [.arrive position]
  | .node (.loop index input) =>
      match s.node.sensor.loops[index]? with
      | some loop =>
          match loop.phase with
          | .waiting => [.update input.now false 0]
          | .putting _ _ => [.update input.now false 0]
          | _ => []
      | none => []
  | .node (.publish clock now) => [.publish clock now]
  | .node _ => []

/-- The plant, and the data path with the same packets in the same places. -/
structure Stands (config : Config) (s : Plant) (t : Pipeline) : Prop where
  address : t.address = s.address
  sensor : t.sensor = s.sensor
  rate : t.rate = s.rate
  sent : t.sent = s.sent
  flight : t.flight = s.flight
  lost : t.lost = s.lost
  arrived : t.arrived = s.arrived
  unread : s.node.sensor.driver.unread = t.unread.map s.datagram
  known : ∀ number ∈ t.unread ++ t.flight, number < s.sent.length
  follows : Follows config s.node t.receiver
  effects : t.receiver.effects = s.effects

theorem Stands.input {config : Config} {s : Plant} {t : Pipeline} (stands : Stands config s t)
    (now : Int) : t.input now false 0 = ⟨s.node.sensor.driver.unread, now, false, 0⟩ := by
  rw [Pipeline.input, stands.unread, stands.address]
  congr 2
  funext number
  rw [Plant.datagram, Plant.data, Pipeline.data, stands.sent]

/-- A step of the node alone. -/
theorem Stands.moved {config : Config} {s : Plant} {t : Pipeline} (stands : Stands config s t)
    (action : Lifecycle.Action)
    (follows : Follows config (s.node.step action) t.receiver)
    (unread : (s.node.step action).sensor.driver.unread = s.node.sensor.driver.unread)
    (nothing : published s.node action = []) :
    Stands config (s.step (.node action)) t := by
  refine { stands with unread := ?_, follows := follows, effects := ?_ }
  · exact unread.trans stands.unread
  · simp only [Plant.step, nothing, List.append_nil]
    exact stands.effects

theorem stands_loop (config : Config) (s : Plant) (t : Pipeline) (stands : Stands config s t)
    (index : Nat) (input : LoopInput) :
    Stands config (s.step (.node (.loop index input)))
      (Run.run (Pipeline.step config) t (events s (.node (.loop index input)))) := by
  cases found : s.node.sensor.loops[index]? with
  | none =>
    simp only [events, found, Run.run_nil]
    have idle : s.node.step (.loop index input) = s.node := by
      simp only [Lifecycle.Driver.step, System.step, System.stepLoop, found]
    exact stands.moved _ (by rw [idle]; exact stands.follows) (by rw [idle]) rfl
  | some loop =>
    have data (here : loop.phase = .waiting ∨ ∃ packet rest, loop.phase = .putting packet rest) :
        Stands config (s.step (.node (.loop index input)))
          (t.step config (.update input.now false 0)) := by
      obtain ⟨follows, unread⟩ := follows_loop stands.follows index input loop found here
      have effects : t.receiver.effects = s.effects ++ published s.node (.loop index input) := by
        rw [stands.effects]
        exact (List.append_nil _).symm
      refine { stands with unread := ?_, known := ?_, follows := ?_, effects := effects }
      · rw [Plant.step, unread, stands.unread]
        simp only [Pipeline.step]
        split_ifs <;> rfl
      · intro number member
        apply stands.known number
        simp only [Pipeline.step] at member
        split_ifs at member
        · exact List.mem_append_right _ member
        · exact member
      · rw [← stands.input] at follows
        exact follows
    have attempt (here : loop.phase = .sleeping ∨ loop.phase = .reopening ∨
        loop.phase = .restarting ∨ loop.phase = .stabilizing) :
        Stands config (s.step (.node (.loop index input))) t := by
      obtain ⟨follows, unread⟩ := follows_attempt stands.follows index input loop found here
      exact stands.moved _ follows unread rfl
    cases here : loop.phase with
    | waiting =>
      simp only [events, found, here, Run.run_cons, Run.run_nil]
      exact data (.inl here)
    | putting packet rest =>
      simp only [events, found, here, Run.run_cons, Run.run_nil]
      exact data (.inr ⟨packet, rest, here⟩)
    | sleeping =>
      simp only [events, found, here, Run.run_nil]
      exact attempt (.inl here)
    | reopening =>
      simp only [events, found, here, Run.run_nil]
      exact attempt (.inr (.inl here))
    | restarting =>
      simp only [events, found, here, Run.run_nil]
      exact attempt (.inr (.inr (.inl here)))
    | stabilizing =>
      simp only [events, found, here, Run.run_nil]
      exact attempt (.inr (.inr (.inr here)))
    | entering =>
      obtain ⟨running, current, present, inStep, others⟩ := stands.follows.loop
      by_cases mine : index = running
      · subst mine
        rw [← Option.some.inj (found.symm.trans present), here] at inStep
        cases inStep
      · have ended := others index loop found mine
        rw [here] at ended
        cases ended
    | finished =>
      simp only [events, found, here, Run.run_nil]
      have idle : s.node.step (.loop index input) = s.node := by
        have same : s.node.sensor.loops.set index loop = s.node.sensor.loops := by
          obtain ⟨inside, same⟩ := List.getElem?_eq_some_iff.mp found
          rw [← same, List.set_getElem_self]
        simp only [Lifecycle.Driver.step, System.step, System.stepLoop, found, loopStep, here, same]
      exact stands.moved _ (by rw [idle]; exact stands.follows) (by rw [idle]) rfl

/-- The socket is bound on both sides or on neither. -/
theorem stands_arrive (config : Config) (s : Plant) (t : Pipeline) (stands : Stands config s t)
    (position : Nat) :
    Stands config (s.step (.arrive position)) (t.step config (.arrive position)) := by
  cases found : s.flight[position]? with
  | none =>
    simp only [Plant.step, Pipeline.step, stands.flight, found]
    exact stands
  | some number =>
    have opened : t.receiver.driver.stream.isOpen = s.node.sensor.driver.stream.isOpen := by
      rw [stands.follows.same.stream]
    have flies : number ∈ t.unread ++ t.flight := by
      rw [stands.flight]
      exact List.mem_append_right _ (List.mem_of_getElem? found)
    simp only [Plant.step, Pipeline.step, stands.flight, found, Plant.land, Pipeline.land, opened]
    by_cases bound : s.node.sensor.driver.stream.isOpen = true
    · rw [if_pos bound, if_pos bound]
      obtain ⟨follows, unread⟩ :=
        follows_arrive stands.follows (s.datagram number) bound
      refine { stands with
        flight := rfl, arrived := ?_, unread := ?_, known := ?_, follows := follows }
      · rw [stands.arrived]
      · rw [List.map_append]
        exact unread.trans (congrArg (· ++ [s.datagram number]) stands.unread)
      · intro other member
        apply stands.known other
        rw [stands.flight]
        rcases List.mem_append.mp member with read | flying
        · rcases List.mem_append.mp read with old | new
          · exact List.mem_append_left _ old
          · rw [List.mem_singleton.mp new, ← stands.flight]
            exact flies
        · exact List.mem_append_right _ (List.mem_of_mem_eraseIdx flying)
    · rw [if_neg bound, if_neg bound]
      refine { stands with flight := rfl, lost := ?_, known := ?_ }
      · rw [stands.lost]
      · intro other member
        apply stands.known other
        rw [stands.flight]
        rcases List.mem_append.mp member with read | flying
        · exact List.mem_append_left _ read
        · exact List.mem_append_right _ (List.mem_of_mem_eraseIdx flying)

theorem stands_lose (config : Config) (s : Plant) (t : Pipeline) (stands : Stands config s t)
    (position : Nat) :
    Stands config (s.step (.lose position)) (t.step config (.lose position)) := by
  cases found : s.flight[position]? with
  | none =>
    simp only [Plant.step, Pipeline.step, stands.flight, found]
    exact stands
  | some number =>
    simp only [Plant.step, Pipeline.step, stands.flight, found]
    refine { stands with flight := rfl, lost := ?_, known := ?_ }
    · rw [stands.lost]
    · intro other member
      apply stands.known other
      rw [stands.flight]
      rcases List.mem_append.mp member with read | flying
      · exact List.mem_append_left _ read
      · exact List.mem_append_right _ (List.mem_of_mem_eraseIdx flying)

/-- What is unread keeps its bytes when a packet is sent. -/
theorem stands_emit (config : Config) (s : Plant) (t : Pipeline) (stands : Stands config s t)
    (words : Nat → SampleWords) :
    Stands config (s.step (.emit words)) (t.step config (.emit words)) := by
  refine { stands with sensor := ?_, sent := ?_, flight := ?_, unread := ?_, known := ?_ }
  · simp only [Plant.step, Pipeline.step, stands.sensor]
  · simp only [Plant.step, Pipeline.step, stands.sensor, stands.rate, stands.sent]
  · simp only [Plant.step, Pipeline.step, stands.flight, stands.sent]
  · rw [Plant.step, stands.unread]
    apply List.map_congr_left
    intro number member
    have old := stands.known number (List.mem_append_left _ member)
    simp only [Plant.datagram, Plant.data, List.getElem?_append_left old]
  · intro number member
    simp only [Plant.step, List.length_append, List.length_singleton]
    simp only [Pipeline.step, stands.sent, ← List.append_assoc] at member
    rcases List.mem_append.mp member with old | new
    · have inside := stands.known number old
      omega
    · rw [List.mem_singleton.mp new]
      omega

theorem stands_step (config : Config) (s : Plant) (t : Pipeline) (action : Action)
    (stands : Stands config s t) (stays : Stays action) :
    Stands config (s.step action) (Run.run (Pipeline.step config) t (events s action)) := by
  cases action with
  | request value =>
    refine { stands with rate := ?_ }
    simp only [Plant.step, events, Run.run_cons, Run.run_nil, Pipeline.step, stands.rate]
  | restart => exact { stands with sensor := rfl, rate := rfl }
  | emit words => exact stands_emit config s t stands words
  | lose position => exact stands_lose config s t stands position
  | arrive position => exact stands_arrive config s t stands position
  | node action =>
    cases action with
    | loop index input => exact stands_loop config s t stands index input
    | publish clock now =>
      obtain ⟨follows, effects⟩ := follows_pass stands.follows clock now
      refine { stands with unread := ?_, follows := follows, effects := ?_ }
      · exact (pass_unread s.node clock now).trans stands.unread
      · exact effects.trans (congrArg (· ++ published s.node (.publish clock now)) stands.effects)
    | _ =>
      obtain ⟨follows, unread, nothing⟩ := follows_other stands.follows _ stays
        (by simp) (by simp)
      exact stands.moved _ follows unread nothing

/-! ### Where every packet is -/

/-- The configuration that `on_activate` gives the publish loop. -/
def activeConfig (node : Lifecycle.Driver) : Config where
  nodeName := node.name
  sensorName := node.sensor.driver.name
  hardwareId := node.sensor.driver.hardwareId
  rate := node.sensor.driver.outputRate

/-- Configured, with one update loop at work and nothing on its way. -/
structure Ready (address : String) (node : Lifecycle.Driver) : Prop where
  phase : node.phase = .inactive
  quiet : node.sensor.call.inProgress = false
  streaming : node.sensor.driver.isStreaming = true
  reconnects : node.sensor.driver.autoReconnect = true
  accepts : node.sensor.driver.stream.acceptsSource address = true
  unread : node.sensor.driver.unread = []
  loop : ∃ (index : Nat) (loop : Loop), node.sensor.loops[index]? = some loop ∧
    shown loop.phase = some .waiting ∧
    ∀ (other : Nat) (old : Loop), node.sensor.loops[other]? = some old → other ≠ index →
      old.phase = .finished

/-- The two loops of the data path, at the start. -/
def receiverOf (node : Lifecycle.Driver) : Loops.System where
  driver := node.sensor.driver.toDriver
  update := { phase := .waiting, lastPacketTime := 0, connectionLost := false }
  node := node.state
  publishRaised := none
  effects := []

theorem stands_start (address : String) (sensor : StreamState) (rate : OutputRateState)
    (node : Lifecycle.Driver) (now : Int) (ready : Ready address node) :
    Stands (activeConfig node) (.start address sensor rate (node.step (.activate now)))
      (.start address sensor rate ((receiverOf node).activate now)) := by
  have active : node.step (.activate now) = node.activate now := if_pos ready.phase
  rw [active]
  refine ⟨rfl, rfl, rfl, rfl, rfl, rfl, rfl, ready.unread, by simp [Pipeline.start], ?_, rfl⟩
  exact ⟨rfl, rfl, ready.quiet, ready.streaming, ready.reconnects, ⟨rfl, rfl, rfl, rfl, rfl, rfl, rfl⟩,
    ready.loop, rfl, rfl⟩

/-- The packets that an update loop has read but not put yet. -/
def handOf : LoopPhase → List Bytes
  | .putting packet rest => packet :: rest
  | _ => []

theorem handOf_shown (phase : LoopPhase) (other : Phase) (inStep : shown phase = some other) :
    handOf phase = inHand other := by
  cases phase with
  | entering => cases inStep
  | finished => cases inStep
  | _ =>
    cases inStep
    rfl

namespace Plant

def messages (config : Config) (s : Plant) (number : Nat) : List Content :=
  ((s.sent[number]?).map (Sent.messages config)).getD []

end Plant

/-- Every packet sent is in exactly one place, the data topic has carried the words of the published
ones, in the order of their arrival, and nothing else, and the publish loop is alive. -/
structure Books (config : Config) (dropped : Nat) (s : Plant) (unread : List Nat)
    (places : Places) : Prop where
  once : (s.flight ++ s.lost ++ unread ++ places.held ++ places.refused ++ places.queued ++
    places.suppressed ++ places.published).Perm (List.range s.sent.length)
  order : places.published.Sublist s.arrived
  unread : s.node.sensor.driver.unread = unread.map s.datagram
  held : ∃ (index : Nat) (loop : Loop), s.node.sensor.loops[index]? = some loop ∧
    handOf loop.phase = places.held.map s.data
  queued : s.node.sensor.driver.ftData.queue.items = places.queued.map s.data
  dropped : s.node.sensor.driver.ftData.droppedPacketCount = dropped + places.refused.length
  good : ∀ number ∈ places.published, ∃ sent, s.sent[number]? = some sent ∧ sent.level = .ok
  bad : ∀ number ∈ places.suppressed, ∃ sent, s.sent[number]? = some sent ∧ sent.level ≠ .ok
  messages : s.effects.filterMap contentOf = places.published.flatMap (s.messages config)
  alive : s.node.thread = some config

theorem Stands.books {config : Config} {dropped : Nat} {s : Plant} {t : Pipeline}
    (stands : Stands config s t) (accounted : Accounted config dropped t) :
    Books config dropped s t.unread t.places := by
  have data : t.data = s.data := by
    funext number
    rw [Pipeline.data, Plant.data, stands.sent]
  have messages : t.messages config = s.messages config := by
    funext number
    rw [Pipeline.messages, Plant.messages, stands.sent]
  have buffer : t.receiver.buffer = s.node.sensor.driver.ftData := stands.follows.same.ftData
  refine ⟨?_, ?_, stands.unread, ?_, ?_, ?_, ?_, ?_, ?_, ?_⟩
  · rw [← stands.flight, ← stands.lost, ← stands.sent]
    exact accounted.once
  · rw [← stands.arrived]
    exact accounted.order
  · obtain ⟨index, loop, found, inStep, _⟩ := stands.follows.loop
    refine ⟨index, loop, found, ?_⟩
    rw [handOf_shown loop.phase _ inStep, accounted.held, data]
  · rw [← buffer, accounted.queued, data]
  · rw [← buffer, accounted.dropped]
  · rw [← stands.sent]
    exact accounted.good
  · rw [← stands.sent]
    exact accounted.bad
  · rw [← stands.effects, accounted.messages, messages]
  · rw [stands.follows.thread, if_pos accounted.alive]

/-- From its activation on and as long as it stays active, whatever its services, its clients, the
network and the sensor do, the node accounts for every packet of the sensor. -/
theorem active_node_accounts (address : String) (sensor : StreamState) (rate : OutputRateState)
    (node : Lifecycle.Driver) (now : Int) (ready : Ready address node) (actions : List Action)
    (stays : ∀ action ∈ actions, Stays action) :
    ∃ unread places, Books (activeConfig node) node.sensor.driver.ftData.droppedPacketCount
      (Run.run Plant.step (.start address sensor rate (node.step (.activate now))) actions)
      unread places := by
  have stands := Simulation.simulates_run Plant.step events (Pipeline.step (activeConfig node))
    (Stands (activeConfig node)) (fun _ action => Stays action)
    (fun s t action stands stays => stands_step (activeConfig node) s t action stands stays) actions
    _ _ (stands_start address sensor rate node now ready)
    (Run.allMeet_of_forall Plant.step Stays actions _ stays)
  refine ⟨_, _, stands.books (Sound.accounted ?_)⟩
  exact Run.run_always (Pipeline.step (activeConfig node))
    (Sound (activeConfig node) node.sensor.driver.ftData.droppedPacketCount)
    (fun t action => sound_step (activeConfig node) _ t action) _ _
    (sound_start (activeConfig node) address sensor rate (receiverOf node) now ready.accepts rfl)

/-- A node right after `on_configure`, whose sensor has answered every request. -/
def configured : Lifecycle.Driver :=
  Run.run Lifecycle.Driver.step (.new "driver" 54843 .hz1000 0) (HeldResources.answered ++ [
    .arrive ⟨"192.168.0.100", [0xff, 0xff, 0, 0, 29, 0, 0, 1, 0, 0, 0] ++ List.replicate 24 0⟩,
    .loop 0 { now := 0 }, .loop 0 { now := 0 }, .callback 0])

theorem configured_ready : Ready "192.168.0.100" configured := by
  refine ⟨by decide, by decide, by decide, by decide, by decide, by decide, 0,
    { phase := .waiting, lastPacketTime := 0, connectionLost := false }, by decide, rfl, ?_⟩
  intro other old found different
  have one : configured.sensor.loops.length = 1 := by decide
  obtain ⟨inside, _⟩ := List.getElem?_eq_some_iff.mp found
  omega

/-- A packet is published, the stream fails, and a second packet comes while the loop reconnects and a
service is called. -/
def outage : List Action :=
  [.emit (fun _ => { wrench := noForce }), .arrive 0, .node (.loop 0 { now := 0 }),
    .node (.loop 0 { now := 0 }), .node (.publish ⟨0, 0⟩ 0), .node (.loop 0 { now := 1000000000 }),
    .node (.accept .tare), .emit (fun _ => { wrench := noForce }), .node (.loop 0 { now := 0 }),
    .arrive 0, .node (.loop 0 { now := 0 }), .node (.serve 0 { received := none })]

theorem outage_accounted :
    ∃ unread places, Books (activeConfig configured)
      configured.sensor.driver.ftData.droppedPacketCount
      (Run.run Plant.step (.start "192.168.0.100" {} .new (configured.step (.activate 0))) outage)
      unread places := by
  apply active_node_accounts "192.168.0.100" {} .new configured 0 configured_ready
  simp [outage, Stays]

end SchunkFts.Whole.ActiveNode
