import SchunkFts.Foundation.Run
import SchunkFts.Library.UpdateLoop
import SchunkFts.Node.PublishLoop

/-! The update loop of the library and the publish loop of the node at work on one buffer. A step
is one put or one read of the former, or one pass of the latter. -/

namespace SchunkFts.Node.Loops
open SchunkFts.Foundation.Struct SchunkFts.Foundation.Queue SchunkFts.Foundation.Run
open SchunkFts.Library.Packet
open SchunkFts.Library.DataBuffer SchunkFts.Library.UpdateLoop PublishLoop

/-- `effects` is everything published since the activation. -/
structure System where
  driver : Driver
  update : UpdateState
  node : NodeState
  publishRaised : Option PyError
  effects : List Effect

abbrev System.buffer (s : System) : FTDataBuffer := s.driver.ftData

inductive Action where
  | update (input : PassInput)
  | publish (clock : Clock) (now : Int)

/-- `on_activate` -/
def System.activate (s : System) (now : Int) : System :=
  { s with
    driver := { s.driver with ftData := s.buffer.clear now }
    node := s.node.activate, publishRaised := none, effects := [] }

/-- One pass of the publish loop, unless it has ended. -/
def System.publish (config : Config) (s : System) (clock : Clock) (now : Int) : System :=
  match s.publishRaised with
  | some _ => s
  | none =>
      let (driver, outcome) := s.driver.sampleBatch now
      match outcome with
      | .error error => { s with driver := driver, publishRaised := some error }
      | .ok samples =>
          let pass := publishPass config clock driver.isStreaming s.node samples
          { s with
            driver := driver, node := pass.node, publishRaised := pass.raised
            effects := s.effects ++ pass.effects }

def System.step (config : Config) (s : System) : Action → System
  | .update input =>
      { s with
        driver := (updateStep s.driver s.update input).1
        update := (updateStep s.driver s.update input).2 }
  | .publish clock now => s.publish config clock now

def System.run (config : Config) (s : System) (actions : List Action) : System :=
  Foundation.Run.run (System.step config) s actions

/-! ### What a pass of the publish loop does to the system -/

/-- What the publish loop leaves alone. -/
structure Frame (s t : System) : Prop where
  update : t.update = s.update
  streaming : t.driver.isStreaming = s.driver.isStreaming
  reconnect : t.driver.autoReconnect = s.driver.autoReconnect
  dropped : t.buffer.droppedPacketCount = s.buffer.droppedPacketCount
  maxsize : t.buffer.queue.maxsize = s.buffer.queue.maxsize
  publisher : t.node.ftDataPublisher = s.node.ftDataPublisher

theorem publish_raised (config : Config) (s : System) (clock : Clock) (now : Int)
    (raised : s.publishRaised ≠ none) : s.publish config clock now = s := by
  obtain ⟨error, found⟩ := Option.ne_none_iff_exists'.mp raised
  rw [System.publish, found]

theorem publish_switches (config : Config) (s : System) (clock : Clock) (now : Int) :
    (s.publish config clock now).driver.isStreaming = s.driver.isStreaming ∧
      (s.publish config clock now).driver.autoReconnect = s.driver.autoReconnect := by
  have sampled : (s.driver.sampleBatch now).1.isStreaming = s.driver.isStreaming ∧
      (s.driver.sampleBatch now).1.autoReconnect = s.driver.autoReconnect := by
    unfold Driver.sampleBatch
    split_ifs
    · exact ⟨rfl, rfl⟩
    · exact ⟨rfl, rfl⟩
  unfold System.publish
  split
  next => exact ⟨rfl, rfl⟩
  next =>
    rcases outcome : s.driver.sampleBatch now with ⟨driver, error | samples⟩
    · rw [outcome] at sampled
      exact sampled
    · rw [outcome] at sampled
      exact sampled

theorem loseConnection_spec (config : Config) (node : NodeState) :
    (loseConnection config node).1.ftDataPublisher = node.ftDataPublisher ∧
      (loseConnection config node).2.filter Effect.isData = [] := by
  unfold loseConnection
  split_ifs
  · exact ⟨rfl, rfl⟩
  · exact ⟨rfl, rfl⟩
  · exact ⟨rfl, rfl⟩

/-- Neither `None` nor the placeholder puts anything on the data topic. -/
theorem publishPass_quiet (config : Config) (clock : Clock) (streaming : Bool) (node : NodeState)
    (samples : Option (List FTSample)) (quiet : samples = none ∨ samples = some [noSignalSample]) :
    ∃ next effects, publishPass config clock streaming node samples =
        { node := next, effects := effects } ∧
      next.ftDataPublisher = node.ftDataPublisher ∧ effects.filter Effect.isData = [] := by
  rcases quiet with rfl | rfl
  · exact ⟨_, _, rfl, loseConnection_spec config node⟩
  · have handled := handleSamples_spec config clock streaming node noSignalSample []
    rcases outcome : handleSamples config clock streaming node noSignalSample []
      with ⟨next, effects⟩
    rw [outcome] at handled
    have warns : statusLevelFromBits noSignalSample.statusBits ≠ .ok := by decide
    refine ⟨next, effects, ?_, handled.publisher, ?_⟩
    · simp only [publishPass, outcome]
    · rw [handled.data, if_neg]
      exact fun healthy => warns healthy.1

theorem sampleBatch_empty (driver : Driver) (now : Int)
    (idle : driver.isStreaming = false ∨ driver.ftData.queue.items = []) :
    ∃ printed samples, driver.sampleBatch now =
        ({ driver with ftData := { driver.ftData with noDataWarningPrinted := printed } },
          .ok samples) ∧
      (samples = none ∨ samples = some [noSignalSample]) := by
  unfold Driver.sampleBatch
  split_ifs with streaming
  · have empty : driver.ftData.queue.items = [] := by
      rcases idle with off | empty
      · rw [off] at streaming
        cases streaming
      · exact empty
    rw [driver.ftData.getSampleBatch_empty now empty]
    unfold FTDataBuffer.onEmpty
    split_ifs
    · exact ⟨_, _, rfl, .inr rfl⟩
    · exact ⟨driver.ftData.noDataWarningPrinted, _, rfl, .inl rfl⟩
  · exact ⟨driver.ftData.noDataWarningPrinted, _, rfl, .inl rfl⟩

/-- A pass that finds no packet changes neither the queue nor the data topic. -/
theorem publish_idle (config : Config) (s : System) (clock : Clock) (now : Int)
    (alive : s.publishRaised = none)
    (idle : s.driver.isStreaming = false ∨ s.buffer.queue.items = []) :
    Frame s (s.publish config clock now) ∧
      (s.publish config clock now).publishRaised = none ∧
      (s.publish config clock now).buffer.queue = s.buffer.queue ∧
      (s.publish config clock now).effects.filter Effect.isData =
        s.effects.filter Effect.isData := by
  obtain ⟨printed, samples, sampled, quiet⟩ := sampleBatch_empty s.driver now idle
  obtain ⟨next, effects, passed, publisher, nothing⟩ :=
    publishPass_quiet config clock s.driver.isStreaming s.node samples quiet
  simp only [System.publish, alive, sampled, passed]
  refine ⟨⟨rfl, rfl, rfl, rfl, rfl, publisher⟩, trivial, trivial, ?_⟩
  rw [List.filter_append, nothing, List.append_nil]

/-- A pass takes a decodable packet off the queue and hands its samples on. -/
theorem publish_accepted (config : Config) (s : System) (clock : Clock) (now : Int)
    (alive : s.publishRaised = none) (streaming : s.driver.isStreaming = true) (packet : Bytes)
    (rest : List Bytes) (content : s.buffer.queue.items = packet :: rest)
    (accepted : Accepts packet) :
    ∃ first others, decodeSampleBatch packet = .ok (first :: others) ∧
      Frame s (s.publish config clock now) ∧
      (s.publish config clock now).publishRaised = none ∧
      (s.publish config clock now).buffer.queue.items = rest ∧
      (s.publish config clock now).node =
        (handleSamples config clock true s.node first others).1 ∧
      (s.publish config clock now).effects =
        s.effects ++ (handleSamples config clock true s.node first others).2 := by
  obtain ⟨first, others, decoded, _, _⟩ := decodeSampleBatch_cons packet accepted
  obtain ⟨queue, items, maxsize, got⟩ := s.buffer.getSampleBatch_packet now packet rest content
  refine ⟨first, others, decoded, ?_⟩
  have handled := handleSamples_spec config clock true s.node first others
  rw [decoded] at got
  simp only [System.publish, alive, Driver.sampleBatch, streaming, if_true, got]
  exact ⟨⟨rfl, streaming.symm, rfl, rfl, maxsize, handled.publisher⟩, rfl, items, rfl, rfl⟩

/-- On an undecodable packet the loop ends. -/
theorem publish_rejected (config : Config) (s : System) (clock : Clock) (now : Int)
    (alive : s.publishRaised = none) (streaming : s.driver.isStreaming = true) (packet : Bytes)
    (rest : List Bytes) (content : s.buffer.queue.items = packet :: rest)
    (rejected : ¬Accepts packet) :
    (s.publish config clock now).publishRaised ≠ none := by
  obtain ⟨error, failed⟩ := decodeSampleBatch_error packet rejected
  obtain ⟨queue, items, maxsize, got⟩ := s.buffer.getSampleBatch_packet now packet rest content
  rw [failed] at got
  simp only [System.publish, alive, Driver.sampleBatch, streaming, if_true, got]
  exact Option.some_ne_none error

end SchunkFts.Node.Loops
