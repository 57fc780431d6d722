import SchunkFts.Foundation.Run
import SchunkFts.Node.StateTopic

/-! The stamps of all packets handled under one anchor, whatever was lost in between. -/

namespace SchunkFts.Node.SampleStamps
open SchunkFts.Foundation.Struct SchunkFts.Foundation.Run
open SchunkFts.Library.Packet StateTopic
open PublishLoop hiding Turn
open StampOrder (publishedStamps steadyConfig steadyNode steadyPacket steadyPacket_healthy
  steadyPacket_counter)

/-- `_calculate_sample_timestamp_ns`, which the loop itself does not call. -/
def calculateSampleTimestampNs (data : FTData) (baseCounter baseStampNs samplePeriodNs : Int) : Int :=
  let sampleIndex : Int := data.sampleIndex.getD 0
  let samplesPerPacket : Int := data.samplesPerPacket.getD 1
  let packetPeriodNs := samplePeriodNs * samplesPerPacket
  let counterDelta := ((data.counter.toNat : Int) - baseCounter + 65536) % 65536
  baseStampNs + counterDelta * packetPeriodNs + sampleIndex * samplePeriodNs

/-- The node after a pass. -/
def advance (config : Config) (node : NodeState) (turn : Turn) : NodeState :=
  (pass config node turn).node

/-- The pass anchors the stamps, at the sensor's packet `origin`. -/
def Anchors (node : NodeState) (turn : Turn) (origin : Nat) : Prop :=
  node.Unanchored ∧ ∃ packet accepted, turn.outcome = .received packet accepted ∧
    statusLevelFromBits (firstStatus packet) = .ok ∧ counterField packet = BitVec.ofNat 16 origin

/-- The pass does not reset the anchor. -/
def KeepsAnchor (node : NodeState) (turn : Turn) : Prop :=
  turn.outcome = .none ∨ node.connectionLost = false

/-- What a pass publishes about a packet `distance` packets after the anchor. -/
structure StampedAt (config : Config) (base baseCounter : Int) (distance : Nat) (packet : Bytes)
    (effects : List Effect) : Prop where
  samples : publishedStamps effects = (List.range (sampleCount packet)).map (fun index : Nat =>
    base + ((distance * sampleCount packet + index : Nat) : Int) * config.samplePeriodNs)
  batched : ∀ msg, .batch msg ∈ effects → msg.stamp.ns =
    base + ((distance * sampleCount packet : Nat) : Int) * config.samplePeriodNs ∧
      (msg.samples.map WrenchStamped.stamp).head? = some msg.stamp
  parts : ∀ stamp ∈ (effects.flatMap Effect.samples).map WrenchStamped.stamp,
    0 ≤ stamp.nanosec ∧ stamp.nanosec < 1000000000
  calculated : ∃ records, decodePacket packet = .ok records ∧
    publishedStamps effects = records.map (fun data =>
      calculateSampleTimestampNs data baseCounter base config.samplePeriodNs)

/-- A packet that is handled is stamped by its distance from the sensor's packet `origin` if it is
published, which it is with a good status as long as there is a publisher. -/
def Stamped (config : Config) (base baseCounter : Int) (origin : Nat) (node : NodeState)
    (turn : Turn) : Prop :=
  ∀ packet accepted number, turn.outcome = .received packet accepted →
    counterField packet = BitVec.ofNat 16 number → origin ≤ number → number < origin + 65536 →
    if statusLevelFromBits (firstStatus packet) = .ok ∧ node.ftDataPublisher = true then
      StampedAt config base baseCounter (number - origin) packet (pass config node turn).effects
    else (pass config node turn).effects.filter Effect.isData = []

/-! ### One packet -/

/-- The distance on the counter is the true one up to a whole turn of it. -/
theorem counter_distance (origin number : Nat) (after : origin ≤ number)
    (near : number < origin + 65536) :
    (((BitVec.ofNat 16 number).toNat : Int) - ((BitVec.ofNat 16 origin).toNat : Int) + 65536) %
      65536 = ((number - origin : Nat) : Int) := by
  rw [BitVec.toNat_ofNat, BitVec.toNat_ofNat]
  omega

/-- The helper for records computes the stamp that the loop gives the same sample. -/
theorem calculate_eq (config : Config) (node : NodeState) (packet : Bytes) (index : Nat)
    (inside : index < sampleCount packet) :
    calculateSampleTimestampNs (packetData packet index) node.baseCounter node.baseStampNs
        config.samplePeriodNs =
      sampleStampNs config (packetStampNs config node (packetData packet 0).toSample)
        (packetData packet index).toSample := by
  have here := toSample_place packet index inside
  have first := toSample_place packet 0 (sampleCount_pos packet)
  simp only [sampleStampNs, packetStampNs, here.1, first.2]
  have place : (packetData packet index).sampleIndex.getD 0 = index := here.1
  have count : (packetData packet index).samplesPerPacket.getD 1 = sampleCount packet := here.2
  simp only [calculateSampleTimestampNs, place, count]
  rfl

theorem received_pass (config : Config) (node : NodeState) (turn : Turn) (packet : Bytes)
    (accepted : Accepts packet) (found : turn.outcome = .received packet accepted) :
    ∃ first rest, first = (packetData packet 0).toSample ∧
      first :: rest = (List.range (sampleCount packet)).map
        (fun index => (packetData packet index).toSample) ∧
      pass config node turn = {
        node := (handleSamples config turn.clock true node first rest).1
        effects := (handleSamples config turn.clock true node first rest).2 } := by
  obtain ⟨first, rest, decoded, opening, batch⟩ := decodeSampleBatch_cons packet accepted
  refine ⟨first, rest, opening, batch, ?_⟩
  rw [StateTopic.pass, found, Outcome.samples, decoded]
  rfl

theorem publishedStamps_filter (effects : List Effect) :
    publishedStamps effects = publishedStamps (effects.filter Effect.isData) := by
  rw [publishedStamps, publishedStamps, samples_filter]

/-- The published stamps are those of the samples at their places in the packet. -/
theorem published_samples (config : Config) (stampNs : Int) (packet : Bytes) (first : FTSample)
    (rest : List FTSample)
    (batch : first :: rest = (List.range (sampleCount packet)).map
      (fun index => (packetData packet index).toSample)) :
    publishedStamps (publishSamples config first rest stampNs) =
      (List.range (sampleCount packet)).map (fun index =>
        sampleStampNs config stampNs (packetData packet index).toSample) := by
  rw [publishedStamps, publishSamples_samples, batch, List.map_map, List.map_map]
  apply List.map_congr_left
  intro index _
  exact ofNs_ns _

theorem batch_header (config : Config) (first : FTSample) (rest : List FTSample) (stampNs : Int)
    (place : first.sampleIndex = 0) (msg : WrenchStampedBatch)
    (member : .batch msg ∈ publishSamples config first rest stampNs) :
    msg.stamp = Stamp.ofNs stampNs ∧
      (msg.samples.map WrenchStamped.stamp).head? = some msg.stamp := by
  unfold publishSamples at member
  split_ifs at member
  · have same := Effect.batch.inj (List.mem_singleton.mp member)
    rw [same]
    refine ⟨rfl, ?_⟩
    simp [fillWrenchStamped, sampleStampNs, place]
  · obtain ⟨_, _, differs⟩ := List.mem_map.mp member
    cases differs

/-- The stamps of a packet whose anchor is known. -/
theorem stampedAt_of_anchor (config : Config) (node next : NodeState) (clock : Clock)
    (effects : List Effect) (packet : Bytes) (accepted : Accepts packet) (first : FTSample)
    (rest : List FTSample) (opening : first = (packetData packet 0).toSample)
    (batch : first :: rest = (List.range (sampleCount packet)).map
      (fun index => (packetData packet index).toSample))
    (handled : Handled config clock node next effects first rest)
    (published : statusLevelFromBits first.statusBits = .ok ∧ node.ftDataPublisher = true)
    (origin number : Nat) (anchored : next.baseCounter = (BitVec.ofNat 16 origin).toNat)
    (counter : counterField packet = BitVec.ofNat 16 number) (after : origin ≤ number)
    (near : number < origin + 65536) :
    StampedAt config next.baseStampNs next.baseCounter (number - origin) packet effects := by
  have data := handled.data
  rw [if_pos published] at data
  have place := toSample_place packet 0 (sampleCount_pos packet)
  rw [← opening] at place
  have firstCounter : first.counter = BitVec.ofNat 16 number := by
    rw [opening]
    exact counter
  have packetStamp : packetStampNs config next first = next.baseStampNs +
      (((number - origin) * sampleCount packet : Nat) : Int) * config.samplePeriodNs := by
    simp only [packetStampNs, anchored, firstCounter, counter_distance origin number after near,
      place.2]
    push_cast
    ring
  have stamps := published_samples config (packetStampNs config next first) packet first rest batch
  rw [← data, ← publishedStamps_filter] at stamps
  refine ⟨?_, ?_, ?_, ?_⟩
  · rw [stamps]
    apply List.map_congr_left
    intro index member
    have inside := toSample_place packet index (List.mem_range.mp member)
    rw [sampleStampNs, inside.1, packetStamp]
    push_cast
    ring
  · intro msg member
    have shown : .batch msg ∈ publishSamples config first rest (packetStampNs config next first) := by
      rw [← data]
      exact List.mem_filter.mpr ⟨member, rfl⟩
    obtain ⟨header, opens⟩ := batch_header config first rest _ place.1 msg shown
    refine ⟨?_, opens⟩
    rw [header, ofNs_ns, packetStamp]
  · rw [← samples_filter, data, publishSamples_samples, List.map_map]
    intro stamp member
    obtain ⟨sample, _, rfl⟩ := List.mem_map.mp member
    exact ofNs_nanosec _
  · refine ⟨_, decodePacket_ok packet accepted, ?_⟩
    rw [stamps, List.map_map]
    apply List.map_congr_left
    intro index member
    rw [opening]
    exact (calculate_eq config next packet index (List.mem_range.mp member)).symm

/-! ### All packets of an anchor -/

/-- The stamps count from `base`, at the sensor's packet `origin`. -/
structure CountsFrom (base : Int) (origin : Nat) (node : NodeState) : Prop where
  present : node.baseStampRos ≠ none
  stamp : node.baseStampNs = base
  counter : node.baseCounter = (BitVec.ofNat 16 origin).toNat

/-- A silence marks the connection as lost if the sensor was fine. -/
theorem advance_silence (config : Config) (node : NodeState) (turn : Turn)
    (absent : turn.outcome = .none) :
    advance config node turn =
      { node with connectionLost := node.connectionLost || node.isSensorOk } := by
  obtain ⟨_, _, _, _, _, _, _, fine, lost, _⟩ := node
  simp only [advance, StateTopic.pass, absent, Outcome.samples, publishPass, loseConnection]
  cases lost <;> cases fine <;> rfl

theorem countsFrom_of_base (base : Int) (origin : Nat) (node next : NodeState)
    (counts : CountsFrom base origin node) (same : next.base = node.base) :
    CountsFrom base origin next := by
  obtain ⟨ros, others⟩ := Prod.mk.inj same
  obtain ⟨stamp, counter⟩ := Prod.mk.inj others
  refine ⟨?_, stamp.trans counts.stamp, counter.trans counts.counter⟩
  rw [ros]
  exact counts.present

/-- The step: without a reset the anchor stays. -/
theorem advance_keeps (config : Config) (base : Int) (origin : Nat) (node : NodeState) (turn : Turn)
    (counts : CountsFrom base origin node) (keeps : KeepsAnchor node turn) :
    CountsFrom base origin (advance config node turn) := by
  apply countsFrom_of_base base origin node _ counts
  cases status : turn.outcome.statusBits with
  | none =>
    rw [advance_silence config node turn (samples_of_no_statusBits turn.outcome status)]
    rfl
  | some bits =>
    obtain ⟨first, rest, samples, _⟩ := samples_of_statusBits turn.outcome bits status
    have connected : node.connectionLost = false := by
      rcases keeps with absent | connected
      · rw [absent] at status
        cases status
      · exact connected
    simp only [advance, StateTopic.pass, samples, publishPass]
    apply (handleSamples_base config turn.clock true node first rest).1
    rintro (lost | absent)
    · rw [connected] at lost
      cases lost
    · exact counts.present absent

theorem advance_anchors (config : Config) (node : NodeState) (turn : Turn) (origin : Nat)
    (anchors : Anchors node turn origin) :
    CountsFrom (advance config node turn).baseStampNs origin (advance config node turn) := by
  obtain ⟨fresh, packet, accepted, found, healthy, counter⟩ := anchors
  obtain ⟨first, rest, opening, _, passed⟩ := received_pass config node turn packet accepted found
  have healthyFirst : statusLevelFromBits first.statusBits = .ok := by
    rw [opening]
    exact healthy
  have firstCounter : first.counter = BitVec.ofNat 16 origin := by
    rw [opening]
    exact counter
  have set := (handleSamples_base config turn.clock true node first rest).2.1 fresh healthyFirst
  rw [firstCounter] at set
  obtain ⟨ros, others⟩ := Prod.mk.inj set
  obtain ⟨_, base⟩ := Prod.mk.inj others
  simp only [advance, passed]
  refine ⟨?_, rfl, base⟩
  rw [ros]
  exact Option.some_ne_none _

theorem stamped_of_counts (config : Config) (base : Int) (origin : Nat) (node : NodeState)
    (turn : Turn) (after : CountsFrom base origin (advance config node turn)) :
    Stamped config base (BitVec.ofNat 16 origin).toNat origin node turn := by
  intro packet accepted number found counter later near
  obtain ⟨first, rest, opening, batch, passed⟩ := received_pass config node turn packet accepted found
  have handled := handleSamples_spec config turn.clock true node first rest
  have status : first.statusBits = firstStatus packet := by
    rw [opening]
    rfl
  simp only [advance, passed] at after
  rw [passed]
  by_cases published : statusLevelFromBits (firstStatus packet) = .ok ∧ node.ftDataPublisher = true
  · rw [if_pos published]
    have stamps := stampedAt_of_anchor config node _ turn.clock _ packet accepted first rest opening
      batch handled (by rw [status]; exact published) origin number after.counter counter later near
    rw [after.stamp, after.counter] at stamps
    exact stamps
  · rw [if_neg published, handled.data, status, if_neg published]

/-- From the pass that anchors the stamps on, for as long as nothing resets them, every packet up
to a whole turn of the counter away is stamped by its true distance from the anchor packet. -/
theorem anchored_stamps (config : Config) (node : NodeState) (anchor : Turn) (later : List Turn)
    (origin : Nat) (anchors : Anchors node anchor origin)
    (kept : AllMeet (advance config) KeepsAnchor (advance config node anchor) later) :
    AllMeet (advance config)
      (Stamped config (advance config node anchor).baseStampNs
        (advance config node anchor).baseCounter origin) node (anchor :: later) := by
  have start := advance_anchors config node anchor origin anchors
  rw [start.counter]
  refine ⟨stamped_of_counts config _ origin node anchor start, ?_⟩
  apply allMeet_under (advance config) KeepsAnchor _ (CountsFrom _ origin) _ _ later _ start kept
  · exact fun node turn counts keeps => advance_keeps config _ origin node turn counts keeps
  · intro node turn counts keeps
    exact stamped_of_counts config _ origin node turn
      (advance_keeps config _ origin node turn counts keeps)

/-! ### An anchor just before the counter wraps -/

/-- A single-sample packet of a sensor that is not ready. -/
def faultyPacket (number : Nat) : Bytes :=
  [0xff, 0xff] ++ (toLE 2 (number % 65536) ++ ([29, 0, BitVec.ofNat 8 number, 0, 0, 0, 0] ++
    List.replicate 24 0))

theorem faultyPacket_accepted (number : Nat) : Accepts (faultyPacket number) := by
  have payload : payloadField (faultyPacket number) = 29 := rfl
  refine .inl ⟨rfl, ?_⟩
  rw [payload]
  decide

/-- A good packet of the sensor. -/
def steadyTurn (time : Int) (number : Nat) : Turn :=
  ⟨⟨time, time⟩, .received (steadyPacket number) (steadyPacket_healthy number).accepted⟩

def faultyTurn (time : Int) (number : Nat) : Turn :=
  ⟨⟨time, time⟩, .received (faultyPacket number) (faultyPacket_accepted number)⟩

def lastBeforeWrap : Turn := steadyTurn 5 65535

/-- One packet of a sensor that is not ready and one good packet, others being lost. -/
def afterWrap : List Turn := [faultyTurn 6 65537, steadyTurn 7 65541]

theorem anchored_stamps_wrap :
    AllMeet (advance steadyConfig)
      (Stamped steadyConfig (advance steadyConfig steadyNode.activate lastBeforeWrap).baseStampNs
        (advance steadyConfig steadyNode.activate lastBeforeWrap).baseCounter 65535)
      steadyNode.activate (lastBeforeWrap :: afterWrap) :=
  anchored_stamps steadyConfig steadyNode.activate lastBeforeWrap afterWrap 65535
    ⟨.inr rfl, _, _, rfl, (steadyPacket_healthy 65535).level, steadyPacket_counter 65535⟩
    ⟨.inr rfl, .inr rfl, trivial⟩

end SchunkFts.Node.SampleStamps
