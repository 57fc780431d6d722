import SchunkFts.Library.Packet
import SchunkFts.Library.DriverSettings

/-! The publish loop of the ROS node: one pass over what `sample_batch` has returned, with the
messages it publishes. Stamps and clock readings are nanoseconds; publishing does not fail. -/

namespace SchunkFts.Node.PublishLoop
open SchunkFts.Foundation.Struct SchunkFts.Library.Packet SchunkFts.Library.DriverSettings

/-- The levels of a `DiagnosticStatus`. -/
inductive Level where
  | ok
  | warn
  | error
  deriving DecidableEq, Repr

def statusLevelFromBits (bits : BitVec 32) : Level :=
  if flag bits 3 then .error
  else if flag bits 1 || flag bits 2 || flag bits 4 || flag bits 5 || !flag bits 0 then .warn
  else .ok

/-- `_get_status_level`; without a stream there is no status. -/
def getStatusLevel (streaming : Bool) (bits : BitVec 32) : Level × String :=
  if streaming then
    let status := SensorStatus.fromBits bits
    let messages := status.summary
    if status.hardwareError then (.error, "; ".intercalate messages)
    else if status.temperatureOutOfRange || status.processDataInvalid then
      (.warn, "; ".intercalate messages)
    else if !status.ready then (.warn, "Not ready for operation")
    else if messages ≠ [] then (.warn, "; ".intercalate messages)
    else (.ok, "OK")
  else (.error, "No signal")

structure Stamp where
  sec : Int
  nanosec : Int
  deriving DecidableEq, Repr

/-- `_set_stamp_from_ns` -/
def Stamp.ofNs (stampNs : Int) : Stamp := ⟨stampNs / 1000000000, stampNs % 1000000000⟩

def Stamp.ns (stamp : Stamp) : Int := stamp.sec * 1000000000 + stamp.nanosec

structure WrenchStamped where
  frameId : String
  stamp : Stamp
  wrench : Wrench
  deriving DecidableEq, Repr

structure WrenchStampedBatch where
  frameId : String
  stamp : Stamp
  packetCounter : BitVec 16
  packetId : Byte
  samplesPerPacket : Nat
  samples : List WrenchStamped
  deriving DecidableEq, Repr

structure DiagnosticStatus where
  level : Level
  name : String
  hardwareId : String
  message : String
  deriving DecidableEq, Repr

/-- What a pass makes known: messages on the two topics, and the warning of skipped packets. -/
inductive Effect where
  | single (msg : WrenchStamped)
  | batch (msg : WrenchStampedBatch)
  | state (msg : DiagnosticStatus)
  | skipped (packets lastCounter newCounter : Int)
  deriving DecidableEq, Repr

/-- What does not change while the node is active. -/
structure Config where
  nodeName : String
  sensorName : String
  hardwareId : String
  rate : OutputRate

def Config.samplePeriodNs (config : Config) : Int := config.rate.mode.samplePeriodNs

def Config.publishSampleBatches (config : Config) : Bool := config.rate.mode.outputRate = "500_16"

/-- A counter of -1 stands for none. -/
structure NodeState where
  ftDataPublisher : Bool
  ftStatePublisher : Bool
  lastStateLevel : Option Level
  baseStampRos : Option Int
  baseStampNs : Int
  lastCounter : Int
  baseCounter : Int
  isSensorOk : Bool
  connectionLost : Bool
  lastSkipWarningTime : Int
  deriving DecidableEq, Repr

/-- The clocks as one pass reads them. -/
structure Clock where
  ros : Int
  monotonic : Int

/-- `on_activate`, as far as the publish loop depends on it. -/
def NodeState.activate (node : NodeState) : NodeState :=
  { node with
    ftDataPublisher := true, ftStatePublisher := true
    baseStampRos := none, lastCounter := -1, baseCounter := -1 }

/-! ### One pass -/

def packetGap (previousCounter counter : Int) : Int :=
  if previousCounter = -1 then 0 else (counter - previousCounter - 1 + 65536) % 65536

def fillWrenchStamped (sample : FTSample) (stampNs : Int) (frameId : String) : WrenchStamped where
  frameId := frameId
  stamp := Stamp.ofNs stampNs
  wrench := sample.wrench

/-- The stamp of a sample in its packet. -/
def sampleStampNs (config : Config) (packetStampNs : Int) (sample : FTSample) : Int :=
  packetStampNs + sample.sampleIndex * config.samplePeriodNs

def publishSamples (config : Config) (first : FTSample) (rest : List FTSample)
    (packetStampNs : Int) : List Effect :=
  let filled := (first :: rest).map (fun sample =>
    fillWrenchStamped sample (sampleStampNs config packetStampNs sample) config.nodeName)
  if config.publishSampleBatches then
    [.batch {
      frameId := config.nodeName
      stamp := Stamp.ofNs packetStampNs
      packetCounter := first.counter
      packetId := first.packetId
      samplesPerPacket := first.samplesPerPacket
      samples := filled }]
  else filled.map .single

def stateMsg (config : Config) (level : Level) (message : String) : Effect :=
  .state {
    level := level, name := config.sensorName, hardwareId := config.hardwareId,
    message := message }

/-- The branch of `samples is None`. -/
def loseConnection (config : Config) (node : NodeState) : NodeState × List Effect :=
  if !node.connectionLost && node.isSensorOk then
    ({ node with connectionLost := true },
      if node.ftStatePublisher then
        [stateMsg config .warn "Connection lost - attempting reconnection"]
      else [])
  else (node, [])

def restoreConnection (config : Config) (node : NodeState) : NodeState × List Effect :=
  if node.connectionLost then
    let reset := { node with
      connectionLost := false, baseStampRos := none, lastCounter := -1, baseCounter := -1 }
    if node.ftStatePublisher then
      ({ reset with lastStateLevel := some .ok }, [stateMsg config .ok "Connection restored"])
    else (reset, [])
  else (node, [])

/-- The `packets_skipped` before a new packet; none is computed for the packet before once more. -/
def skippedBefore (lastCounter counter : Int) : Option Int :=
  if lastCounter = -1 ∨ counter ≠ lastCounter then some (packetGap lastCounter counter) else none

def trackCounter (clock : Clock) (node : NodeState) (counter : Int) : NodeState × List Effect :=
  match skippedBefore node.lastCounter counter with
  | some packetsSkipped =>
      let next := { node with lastCounter := counter }
      if 0 < packetsSkipped ∧ 1000000000 ≤ clock.monotonic - node.lastSkipWarningTime then
        ({ next with lastSkipWarningTime := clock.monotonic },
          [.skipped packetsSkipped node.lastCounter counter])
      else (next, [])
  | none => (node, [])

/-- The stamps count from the first packet with a good status. -/
def anchorStamps (config : Config) (clock : Clock) (node : NodeState) (first : FTSample) : NodeState :=
  if node.isSensorOk ∧ node.baseStampRos = none then
    { node with
      baseStampRos := some clock.ros
      baseStampNs := clock.ros - first.sampleIndex * config.samplePeriodNs
      baseCounter := first.counter.toNat }
  else node

def packetStampNs (config : Config) (node : NodeState) (first : FTSample) : Int :=
  let packetPeriodNs := config.samplePeriodNs * first.samplesPerPacket
  let counterDelta := ((first.counter.toNat : Int) - node.baseCounter + 65536) % 65536
  node.baseStampNs + counterDelta * packetPeriodNs

def publishState (config : Config) (streaming : Bool) (node : NodeState) (level : Level)
    (bits : BitVec 32) : NodeState × List Effect :=
  if node.ftStatePublisher ∧ some level ≠ node.lastStateLevel then
    ({ node with lastStateLevel := some level },
      [stateMsg config level (getStatusLevel streaming bits).2])
  else (node, [])

/-- The part of the pass that a batch of samples goes through. -/
def handleSamples (config : Config) (clock : Clock) (streaming : Bool) (node : NodeState)
    (first : FTSample) (rest : List FTSample) : NodeState × List Effect :=
  let (restored, onRestore) := restoreConnection config node
  let (tracked, onSkip) := trackCounter clock restored first.counter.toNat
  let level := statusLevelFromBits first.statusBits
  let anchored := anchorStamps config clock { tracked with isSensorOk := level = .ok } first
  let data :=
    if anchored.isSensorOk ∧ anchored.ftDataPublisher then
      publishSamples config first rest (packetStampNs config anchored first)
    else []
  let (final, onState) := publishState config streaming anchored level first.statusBits
  (final, onRestore ++ onSkip ++ data ++ onState)

/-- How a pass ends; an exception ends the loop. -/
structure Pass where
  node : NodeState
  effects : List Effect
  raised : Option PyError := none

def publishPass (config : Config) (clock : Clock) (streaming : Bool) (node : NodeState)
    (samples : Option (List FTSample)) : Pass :=
  match samples with
  | none =>
      let (next, effects) := loseConnection config node
      { node := next, effects := effects }
  | some [] =>
      -- `samples[0]` of an empty batch
      let (next, effects) := restoreConnection config node
      { node := next, effects := effects, raised := some .indexError }
  | some (first :: rest) =>
      let (next, effects) := handleSamples config clock streaming node first rest
      { node := next, effects := effects }

/-- What one pass finds when it starts. -/
structure Turn where
  clock : Clock
  streaming : Bool
  samples : Option (List FTSample)

/-- The loop; an exception ends it. -/
def publishRun (config : Config) (node : NodeState) : List Turn → Pass
  | [] => { node := node, effects := [] }
  | turn :: later =>
      let pass := publishPass config turn.clock turn.streaming node turn.samples
      match pass.raised with
      | some _ => pass
      | none =>
          let final := publishRun config pass.node later
          { final with effects := pass.effects ++ final.effects }

theorem publishRun_cons (config : Config) (node next : NodeState) (turn : Turn)
    (later : List Turn) (effects : List Effect)
    (passed : publishPass config turn.clock turn.streaming node turn.samples =
      { node := next, effects := effects }) :
    (publishRun config node (turn :: later)).effects =
      effects ++ (publishRun config next later).effects := by
  rw [publishRun, passed]

/-! ### What a pass publishes -/

/-- The sample messages inside an effect. -/
def Effect.samples : Effect → List WrenchStamped
  | single msg => [msg]
  | batch msg => msg.samples
  | state _ => []
  | skipped _ _ _ => []

theorem ofNs_ns (stampNs : Int) : (Stamp.ofNs stampNs).ns = stampNs := by
  show stampNs / 1000000000 * 1000000000 + stampNs % 1000000000 = stampNs
  omega

theorem ofNs_nanosec (stampNs : Int) :
    0 ≤ (Stamp.ofNs stampNs).nanosec ∧ (Stamp.ofNs stampNs).nanosec < 1000000000 := by
  constructor
  · show 0 ≤ stampNs % 1000000000
    omega
  · show stampNs % 1000000000 < 1000000000
    omega

/-- Whether an effect is a message on the data topic. -/
def Effect.isData : Effect → Bool
  | single _ => true
  | batch _ => true
  | state _ => false
  | skipped _ _ _ => false

theorem restoreConnection_spec (config : Config) (node : NodeState) :
    (restoreConnection config node).1.connectionLost = false ∧
      (restoreConnection config node).1.ftDataPublisher = node.ftDataPublisher ∧
      (node.connectionLost = false → (restoreConnection config node).1 = node) ∧
      (node.baseStampRos = none → (restoreConnection config node).1.baseStampRos = none) ∧
      (restoreConnection config node).2.filter Effect.isData = [] := by
  unfold restoreConnection
  split_ifs with lost present
  · exact ⟨rfl, rfl, fun found => absurd lost (by rw [found]; decide), fun _ => rfl, rfl⟩
  · exact ⟨rfl, rfl, fun found => absurd lost (by rw [found]; decide), fun _ => rfl, rfl⟩
  · exact ⟨Bool.eq_false_iff.mpr lost, rfl, fun _ => rfl, id, rfl⟩

theorem trackCounter_spec (clock : Clock) (node : NodeState) (counter : Int) :
    (∃ time, (trackCounter clock node counter).1 =
      { node with lastCounter := counter, lastSkipWarningTime := time }) ∧
    (trackCounter clock node counter).2.filter Effect.isData = [] := by
  simp only [trackCounter, skippedBefore]
  split_ifs with fresh
  · dsimp only
    split_ifs
    · exact ⟨⟨clock.monotonic, rfl⟩, rfl⟩
    · exact ⟨⟨node.lastSkipWarningTime, rfl⟩, rfl⟩
  · simp only [not_or, not_not] at fresh
    exact ⟨⟨node.lastSkipWarningTime, by rw [fresh.2]⟩, rfl⟩

theorem publishState_spec (config : Config) (streaming : Bool) (node : NodeState) (level : Level)
    (bits : BitVec 32) :
    (∃ last, (publishState config streaming node level bits).1 =
      { node with lastStateLevel := last }) ∧
    (publishState config streaming node level bits).2.filter Effect.isData = [] := by
  unfold publishState
  split_ifs
  · exact ⟨⟨some level, rfl⟩, rfl⟩
  · exact ⟨⟨node.lastStateLevel, rfl⟩, rfl⟩

theorem publishSamples_isData (config : Config) (first : FTSample) (rest : List FTSample)
    (stampNs : Int) :
    (publishSamples config first rest stampNs).filter Effect.isData =
      publishSamples config first rest stampNs := by
  apply List.filter_eq_self.mpr
  intro effect member
  unfold publishSamples at member
  split_ifs at member
  · rw [List.mem_singleton.mp member]
    rfl
  · obtain ⟨msg, _, rfl⟩ := List.mem_map.mp member
    rfl

/-- Batched or not, the same sample messages are published. -/
theorem publishSamples_samples (config : Config) (first : FTSample) (rest : List FTSample)
    (stampNs : Int) :
    (publishSamples config first rest stampNs).flatMap Effect.samples =
      (first :: rest).map (fun sample =>
        fillWrenchStamped sample (sampleStampNs config stampNs sample) config.nodeName) := by
  unfold publishSamples
  split_ifs
  · rw [List.flatMap_singleton]
    rfl
  · rw [List.flatMap_map]
    exact List.flatMap_singleton' _

/-- The anchor of the stamps: the clock reading, the stamp and the counter they count from. -/
def NodeState.base (node : NodeState) : Option Int × Int × Int :=
  (node.baseStampRos, node.baseStampNs, node.baseCounter)

theorem anchorStamps_spec (config : Config) (clock : Clock) (node : NodeState) (first : FTSample) :
    ∃ ros ns counter, anchorStamps config clock node first =
        { node with baseStampRos := ros, baseStampNs := ns, baseCounter := counter } ∧
      (node.baseStampRos ≠ none → (ros, ns, counter) = node.base) ∧
      (node.isSensorOk ∧ node.baseStampRos = none →
        (ros, ns, counter) = (some clock.ros,
          clock.ros - first.sampleIndex * config.samplePeriodNs, (first.counter.toNat : Int))) := by
  unfold anchorStamps
  split_ifs with fresh
  · exact ⟨_, _, _, rfl, fun kept => absurd fresh.2 kept, fun _ => rfl⟩
  · exact ⟨_, _, _, rfl, fun _ => rfl, fun isFresh => absurd isFresh fresh⟩

/-- The state after a batch, and what the batch puts on the data topic. -/
structure Handled (config : Config) (clock : Clock) (node next : NodeState) (effects : List Effect)
    (first : FTSample) (rest : List FTSample) : Prop where
  connection : next.connectionLost = false
  publisher : next.ftDataPublisher = node.ftDataPublisher
  level : next.isSensorOk = decide (statusLevelFromBits first.statusBits = .ok)
  counter : next.lastCounter = first.counter.toNat
  kept : node.connectionLost = false → node.baseStampRos ≠ none → next.base = node.base
  anchored : statusLevelFromBits first.statusBits = .ok → node.baseStampRos = none →
    next.base = (some clock.ros, clock.ros - first.sampleIndex * config.samplePeriodNs,
      (first.counter.toNat : Int))
  data : effects.filter Effect.isData =
    if statusLevelFromBits first.statusBits = .ok ∧ node.ftDataPublisher then
      publishSamples config first rest (packetStampNs config next first)
    else []

theorem handleSamples_spec (config : Config) (clock : Clock) (streaming : Bool) (node : NodeState)
    (first : FTSample) (rest : List FTSample) :
    Handled config clock node (handleSamples config clock streaming node first rest).1
      (handleSamples config clock streaming node first rest).2 first rest := by
  have restoring := restoreConnection_spec config node
  rcases first_part : restoreConnection config node with ⟨restored, onRestore⟩
  rw [first_part] at restoring
  obtain ⟨connection, publisher, unlost, unset, restore_quiet⟩ := restoring
  have tracking := trackCounter_spec clock restored first.counter.toNat
  rcases second_part : trackCounter clock restored first.counter.toNat with ⟨tracked, onSkip⟩
  rw [second_part] at tracking
  obtain ⟨⟨time, rfl⟩, skip_quiet⟩ := tracking
  obtain ⟨ros, ns, base, anchored, keeps, sets⟩ := anchorStamps_spec config clock
    { restored with
      lastCounter := first.counter.toNat, lastSkipWarningTime := time
      isSensorOk := decide (statusLevelFromBits first.statusBits = .ok) } first
  have publishing := publishState_spec config streaming
    { restored with
      lastCounter := first.counter.toNat, lastSkipWarningTime := time
      isSensorOk := decide (statusLevelFromBits first.statusBits = .ok)
      baseStampRos := ros, baseStampNs := ns, baseCounter := base }
    (statusLevelFromBits first.statusBits) first.statusBits
  rcases last_part : publishState config streaming _ _ _ with ⟨final, onState⟩
  rw [last_part] at publishing
  obtain ⟨⟨last, rfl⟩, state_quiet⟩ := publishing
  simp only at connection publisher unlost unset restore_quiet skip_quiet state_quiet
  simp only [handleSamples, first_part, second_part, anchored, last_part]
  refine ⟨connection, publisher, rfl, rfl, ?_, ?_, ?_⟩
  · intro connected present
    rw [unlost connected] at keeps
    exact keeps present
  · intro healthy absent
    exact sets ⟨decide_eq_true healthy, unset absent⟩
  · simp only [List.filter_append, restore_quiet, skip_quiet, state_quiet, List.nil_append,
      List.append_nil, publisher, decide_eq_true_eq]
    split_ifs
    · exact publishSamples_isData _ _ _ _
    · rfl

/-- A batch after an outage is handled as it would be right after the reset. -/
theorem handleSamples_restored (config : Config) (clock : Clock) (streaming : Bool)
    (node : NodeState) (first : FTSample) (rest : List FTSample) :
    handleSamples config clock streaming node first rest =
      ((handleSamples config clock streaming (restoreConnection config node).1 first rest).1,
        (restoreConnection config node).2 ++
          (handleSamples config clock streaming (restoreConnection config node).1 first rest).2) := by
  obtain ⟨connected, _⟩ := restoreConnection_spec config node
  have again : restoreConnection config (restoreConnection config node).1 =
      ((restoreConnection config node).1, []) := by
    rw [restoreConnection, if_neg (by rw [connected]; decide)]
  simp only [handleSamples, again, List.nil_append, List.append_assoc]

/-- Whether the next good packet becomes the anchor. -/
def NodeState.Unanchored (node : NodeState) : Prop :=
  node.connectionLost = true ∨ node.baseStampRos = none

theorem restoreConnection_unanchored (config : Config) (node : NodeState) :
    (restoreConnection config node).1.baseStampRos = none ↔ node.Unanchored := by
  unfold restoreConnection NodeState.Unanchored
  cases lost : node.connectionLost with
  | false => simp
  | true =>
    simp only [if_true, true_or, iff_true]
    split_ifs <;> rfl

/-- The three ways in which a batch finds the anchor: set, or open to a good status or another. -/
theorem handleSamples_base (config : Config) (clock : Clock) (streaming : Bool) (node : NodeState)
    (first : FTSample) (rest : List FTSample) :
    (¬node.Unanchored →
      (handleSamples config clock streaming node first rest).1.base = node.base) ∧
    (node.Unanchored → statusLevelFromBits first.statusBits = .ok →
      (handleSamples config clock streaming node first rest).1.base =
        (some clock.ros, clock.ros - first.sampleIndex * config.samplePeriodNs,
          (first.counter.toNat : Int))) ∧
    (node.Unanchored → statusLevelFromBits first.statusBits ≠ .ok →
      (handleSamples config clock streaming node first rest).1.baseStampRos = none) := by
  refine ⟨?_, ?_, ?_⟩
  · intro anchored
    obtain ⟨connected, present⟩ := not_or.mp anchored
    exact (handleSamples_spec config clock streaming node first rest).kept
      (Bool.eq_false_iff.mpr connected) present
  · intro fresh healthy
    rw [handleSamples_restored]
    exact (handleSamples_spec config clock streaming (restoreConnection config node).1 first rest).anchored
      healthy ((restoreConnection_unanchored config node).mpr fresh)
  · intro fresh faulty
    have absent := (restoreConnection_unanchored config node).mpr fresh
    obtain ⟨⟨time, tracked⟩, _⟩ := trackCounter_spec clock (restoreConnection config node).1
      first.counter.toNat
    have unset : ∀ last, anchorStamps config clock { (restoreConnection config node).1 with
        lastCounter := first.counter.toNat, lastSkipWarningTime := last
        isSensorOk := decide (statusLevelFromBits first.statusBits = .ok) } first =
        { (restoreConnection config node).1 with
          lastCounter := first.counter.toNat, lastSkipWarningTime := last
          isSensorOk := decide (statusLevelFromBits first.statusBits = .ok) } := by
      intro last
      rw [anchorStamps, if_neg]
      exact fun both => faulty (of_decide_eq_true both.1)
    simp only [handleSamples, tracked, unset]
    obtain ⟨⟨last, same⟩, _⟩ := publishState_spec config streaming
      { (restoreConnection config node).1 with
        lastCounter := first.counter.toNat, lastSkipWarningTime := time
        isSensorOk := decide (statusLevelFromBits first.statusBits = .ok) }
      (statusLevelFromBits first.statusBits) first.statusBits
    rw [same]
    exact absent

theorem samples_filter (effects : List Effect) :
    (effects.filter Effect.isData).flatMap Effect.samples = effects.flatMap Effect.samples := by
  induction effects with
  | nil => rfl
  | cons effect rest ih =>
    simp only [List.filter_cons, List.flatMap_cons]
    cases effect with
    | single msg => simp only [Effect.isData, if_true, List.flatMap_cons, ih]
    | batch msg => simp only [Effect.isData, if_true, List.flatMap_cons, ih]
    | state msg => exact ih
    | skipped packets last new => exact ih

/-- The level of the loop and the one `_get_status_level` finds are the same. -/
theorem getStatusLevel_level (bits : BitVec 32) :
    (getStatusLevel true bits).1 = statusLevelFromBits bits := by
  simp only [getStatusLevel, if_true, ne_eq, summary_eq_nil, SensorStatus.fromBits,
    SensorStatus.mk.injEq, statusLevelFromBits]
  split_ifs <;> simp_all

end SchunkFts.Node.PublishLoop
