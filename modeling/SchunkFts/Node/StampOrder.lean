import SchunkFts.Foundation.WrappingCounter
import SchunkFts.Node.PublishLoop

/-! The order of the published stamps while packets arrive without a gap. -/

namespace SchunkFts.Node.StampOrder
open SchunkFts.Foundation.Struct SchunkFts.Foundation.WrappingCounter
open SchunkFts.Library.Packet SchunkFts.Library.DriverSettings PublishLoop

/-- A pass that finds a packet. -/
structure Arrival where
  clock : Clock
  streaming : Bool
  packet : Bytes

def Arrival.turn (arrival : Arrival) : Turn where
  clock := arrival.clock
  streaming := arrival.streaming
  samples := (decodeSampleBatch arrival.packet).toOption

def publishedStamps (effects : List Effect) : List Int :=
  (effects.flatMap Effect.samples).map (fun msg => msg.stamp.ns)

/-- A packet of `count` samples that will be published. -/
structure Healthy (count : Nat) (packet : Bytes) : Prop where
  accepted : Accepts packet
  size : sampleCount packet = count
  level : statusLevelFromBits (firstStatus packet) = .ok

/-- Packets of one format and a good status, each counted one on from the packet before. -/
structure SteadyRun (arrivals : List Arrival) : Prop where
  accepted : ∀ arrival ∈ arrivals, Accepts arrival.packet
  oneFormat : (∀ arrival ∈ arrivals, sampleCount arrival.packet = 1) ∨
    ∀ arrival ∈ arrivals, sampleCount arrival.packet = 16
  level : ∀ arrival ∈ arrivals, statusLevelFromBits (firstStatus arrival.packet) = .ok
  consecutive : arrivals.IsChain (fun earlier later =>
    counterField later.packet = counterField earlier.packet + 1)

/-- The stamps count from `base`, at the packet with the counter `origin`. -/
structure Anchored (node : NodeState) (base : Int) (origin : BitVec 16) : Prop where
  publisher : node.ftDataPublisher = true
  connected : node.connectionLost = false
  present : node.baseStampRos ≠ none
  stamp : node.baseStampNs = base
  counter : node.baseCounter = origin.toNat

/-- The stamps of the samples of the packet at `position` from the anchor. -/
def packetStamps (config : Config) (count : Nat) (base : Int) (position : Nat) : List Int :=
  (List.range count).map (fun index : Nat =>
    base + ((position % 65536 : Nat) * count + index : Int) * config.samplePeriodNs)

theorem delta_of_position (origin : BitVec 16) (position : Nat) :
    ((origin + BitVec.ofNat 16 position).toNat - origin.toNat + 65536 : Int) % 65536 =
      (position % 65536 : Nat) := by
  have here : ((origin + BitVec.ofNat 16 position).toNat : Int) =
      ((origin.toNat + position : Nat) : Int) % 65536 := by
    rw [BitVec.toNat_add, BitVec.toNat_ofNat]
    omega
  have there : (origin.toNat : Int) = (origin.toNat : Int) % 65536 := by
    have bound := origin.isLt
    omega
  have distance := delta_positions 65536 (origin.toNat + position : Nat) origin.toNat
  unfold delta at distance
  rw [← here, ← there] at distance
  rw [distance]
  push_cast
  congr 1
  ring

/-- The step: a packet is stamped by its distance from the anchor, which stays. -/
theorem pass_stamps (config : Config) (arrival : Arrival) (count : Nat) (node : NodeState)
    (healthy : Healthy count arrival.packet) (publisher : node.ftDataPublisher = true) :
    ∃ next effects,
      publishPass config arrival.clock arrival.streaming node arrival.turn.samples =
        { node := next, effects := effects } ∧
      next.connectionLost = false ∧ next.ftDataPublisher = true ∧
      (node.connectionLost = false → node.baseStampRos ≠ none → next.base = node.base) ∧
      (node.baseStampRos = none → next.base =
        (some arrival.clock.ros, arrival.clock.ros, ((counterField arrival.packet).toNat : Int))) ∧
      ∀ origin position, next.baseCounter = (origin : BitVec 16).toNat →
        counterField arrival.packet = origin + BitVec.ofNat 16 position →
        publishedStamps effects = packetStamps config count next.baseStampNs position := by
  obtain ⟨accepted, size, level⟩ := healthy
  obtain ⟨first, rest, decoded, opening, batch⟩ := decodeSampleBatch_cons arrival.packet accepted
  have place := toSample_place arrival.packet 0 (sampleCount_pos arrival.packet)
  have handled := handleSamples_spec config arrival.clock arrival.streaming node first rest
  rw [← opening] at place
  have status : first.statusBits = firstStatus arrival.packet := by
    rw [opening]
    rfl
  have counter : first.counter = counterField arrival.packet := by
    rw [opening]
    rfl
  rw [← status] at level
  rcases outcome : handleSamples config arrival.clock arrival.streaming node first rest
    with ⟨next, effects⟩
  rw [outcome] at handled
  refine ⟨next, effects, ?_, handled.connection, handled.publisher.trans publisher, handled.kept, ?_, ?_⟩
  · simp only [Arrival.turn, decoded, Except.toOption, publishPass, outcome]
  · intro absent
    rw [handled.anchored level absent, place.1, counter]
    simp
  · intro origin position base here
    rw [publishedStamps, ← samples_filter, handled.data, if_pos ⟨level, publisher⟩,
      publishSamples_samples, batch, size, packetStamps, List.map_map, List.map_map]
    apply List.map_congr_left
    intro index member
    have inside := toSample_place arrival.packet index (by rw [size]; exact List.mem_range.mp member)
    simp only [Function.comp_apply, fillWrenchStamped, ofNs_ns, sampleStampNs, packetStampNs,
      inside.1, place.2, size, counter, here, base, delta_of_position]
    ring

theorem publishedStamps_append (first second : List Effect) :
    publishedStamps (first ++ second) = publishedStamps first ++ publishedStamps second := by
  unfold publishedStamps
  rw [List.flatMap_append, List.map_append]

/-- The run: from an anchor on, the stamps are the rows of the packets. -/
theorem run_stamps (config : Config) (count : Nat) (base : Int) (origin : BitVec 16)
    (arrivals : List Arrival) (position : Nat) (node : NodeState)
    (anchored : Anchored node base origin)
    (healthy : ∀ arrival ∈ arrivals, Healthy count arrival.packet)
    (counters : ∀ i (inside : i < arrivals.length),
      counterField arrivals[i].packet = origin + BitVec.ofNat 16 (position + i)) :
    publishedStamps (publishRun config node (arrivals.map Arrival.turn)).effects =
      (List.range' position arrivals.length).flatMap (packetStamps config count base) := by
  induction arrivals generalizing position node with
  | nil => rfl
  | cons arrival later ih =>
    obtain ⟨publisher, connected, present, stamp, counter⟩ := anchored
    obtain ⟨next, effects, passed, lost, published, kept, _, stamps⟩ := pass_stamps config arrival
      count node (healthy arrival List.mem_cons_self) publisher
    obtain ⟨sameRos, sameBase⟩ := Prod.mk.inj (kept connected present)
    obtain ⟨sameNs, sameCounter⟩ := Prod.mk.inj sameBase
    have here : counterField arrival.packet = origin + BitVec.ofNat 16 position :=
      counters 0 (Nat.succ_pos _)
    have row := stamps origin position (sameCounter.trans counter) here
    rw [sameNs, stamp] at row
    have rest := ih (position + 1) next
      ⟨published, lost, by rwa [sameRos], sameNs.trans stamp, sameCounter.trans counter⟩
      (fun other member => healthy other (List.mem_cons_of_mem _ member)) (by
        intro i inside
        have following := counters (i + 1) (Nat.succ_lt_succ inside)
        rw [List.getElem_cons_succ] at following
        rw [following, Nat.add_right_comm]
        rfl)
    rw [List.map_cons, publishRun_cons config node next arrival.turn _ effects passed,
      publishedStamps_append, row, rest, List.length_cons, List.range'_succ, List.flatMap_cons]

theorem steady_counters (first : Arrival) (later : List Arrival)
    (consecutive : (first :: later).IsChain (fun earlier later =>
      counterField later.packet = counterField earlier.packet + 1))
    (i : Nat) (inside : i < (first :: later).length) :
    counterField (first :: later)[i].packet =
      counterField first.packet + BitVec.ofNat 16 i := by
  induction i with
  | zero => simp
  | succ i ih =>
    have step := List.isChain_iff_getElem.mp consecutive i inside
    rw [step, ih (Nat.lt_of_succ_lt inside), BitVec.add_assoc, BitVec.ofNat_add i 1]
    rfl

theorem SteadyRun.healthy {arrivals : List Arrival} (steady : SteadyRun arrivals) :
    ∃ count, 0 < count ∧ ∀ arrival ∈ arrivals, Healthy count arrival.packet := by
  rcases steady.oneFormat with single | packaged
  · refine ⟨1, by decide, ?_⟩
    intro arrival member
    exact ⟨steady.accepted arrival member, single arrival member, steady.level arrival member⟩
  · refine ⟨16, by decide, ?_⟩
    intro arrival member
    exact ⟨steady.accepted arrival member, packaged arrival member, steady.level arrival member⟩

/-- After an activation the stamps of a steady run are the rows of its packets, the first packet
giving the anchor. -/
theorem activated_stamps (config : Config) (node : NodeState) (arrivals : List Arrival)
    (steady : SteadyRun arrivals) :
    ∃ count base, 0 < count ∧ (∀ arrival ∈ arrivals, sampleCount arrival.packet = count) ∧
      publishedStamps (publishRun config node.activate (arrivals.map Arrival.turn)).effects =
        rows 65536 count base config.samplePeriodNs arrivals.length := by
  obtain ⟨count, positive, healthy⟩ := steady.healthy
  cases arrivals with
  | nil => exact ⟨count, 0, positive, fun _ member => absurd member List.not_mem_nil, rfl⟩
  | cons arrival later =>
    have counters := steady_counters arrival later steady.consecutive
    obtain ⟨next, effects, passed, lost, published, _, sets, stamps⟩ := pass_stamps config arrival
      count node.activate (healthy arrival List.mem_cons_self) rfl
    obtain ⟨sameRos, sameBase⟩ := Prod.mk.inj (sets rfl)
    obtain ⟨sameNs, sameCounter⟩ := Prod.mk.inj sameBase
    have row := stamps (counterField arrival.packet) 0 sameCounter (by simp)
    rw [sameNs] at row
    have rest := run_stamps config count arrival.clock.ros (counterField arrival.packet) later 1 next
      ⟨published, lost, by rw [sameRos]; exact Option.some_ne_none _, sameNs, sameCounter⟩
      (fun other member => healthy other (List.mem_cons_of_mem _ member)) (by
        intro i inside
        have following := counters (i + 1) (Nat.succ_lt_succ inside)
        rw [List.getElem_cons_succ] at following
        rw [following, Nat.add_comm 1 i])
    refine ⟨count, arrival.clock.ros, positive, fun other member => (healthy other member).size, ?_⟩
    rw [List.map_cons, publishRun_cons config node.activate next arrival.turn _ effects passed,
      publishedStamps_append, row, rest, List.length_cons]
    have whole : rows 65536 count arrival.clock.ros config.samplePeriodNs (later.length + 1) =
        (List.range (later.length + 1)).flatMap
          (packetStamps config count arrival.clock.ros) := rfl
    rw [whole, List.range_eq_range', List.range'_succ, List.flatMap_cons]

/-- All samples of a steady run are published, and their stamps increase exactly as long as the
counter has not come round to the anchor again. -/
theorem stamps_increase_iff (config : Config) (node : NodeState) (arrivals : List Arrival)
    (steady : SteadyRun arrivals) :
    (publishedStamps (publishRun config node.activate (arrivals.map Arrival.turn)).effects).length =
        (arrivals.map (fun arrival => sampleCount arrival.packet)).sum ∧
      ((publishedStamps
          (publishRun config node.activate (arrivals.map Arrival.turn)).effects).Pairwise (· < ·) ↔
        arrivals.length ≤ 65536) := by
  obtain ⟨count, base, positive, sizes, stamps⟩ := activated_stamps config node arrivals steady
  have period : 0 < config.samplePeriodNs := by
    unfold Config.samplePeriodNs
    exact_mod_cast samplePeriodNs_pos config.rate
  rw [stamps]
  constructor
  · rw [rows_length, List.map_congr_left sizes, List.map_const', List.sum_replicate_nat]
  · exact rows_increasing_iff 65536 count base config.samplePeriodNs arrivals.length positive
      (by decide) period

/-! ### A sensor that has been running for longer than its counter counts -/

/-- A single-sample packet with the ready bit set. -/
def steadyPacket (number : Nat) : Bytes :=
  [0xff, 0xff] ++ (toLE 2 (number % 65536) ++ ([29, 0, BitVec.ofNat 8 number, 1, 0, 0, 0] ++
    List.replicate 24 0))

def steadyArrivals (count : Nat) : List Arrival :=
  (List.range count).map (fun number => {
    clock := { ros := 0, monotonic := 0 }, streaming := true, packet := steadyPacket number })

theorem steadyPacket_counter (number : Nat) :
    counterField (steadyPacket number) = BitVec.ofNat 16 number := by
  have field : slice (steadyPacket number) 2 4 = toLE 2 (number % 65536) := rfl
  have small : number % 65536 < 256 ^ 2 := by omega
  rw [counterField, field, ofLE_toLE 2 _ small]
  apply BitVec.eq_of_toNat_eq
  simp only [BitVec.toNat_ofNat]
  exact Nat.mod_mod number 65536

theorem steadyPacket_healthy (number : Nat) : Healthy 1 (steadyPacket number) := by
  have payload : payloadField (steadyPacket number) = 29 := rfl
  have status : firstStatus (steadyPacket number) = 1 := rfl
  refine ⟨.inl ⟨rfl, ?_⟩, rfl, ?_⟩
  · rw [payload]
    decide
  · rw [status]
    decide

theorem steadyArrivals_steady (count : Nat) : SteadyRun (steadyArrivals count) := by
  have each : ∀ arrival ∈ steadyArrivals count, Healthy 1 arrival.packet := by
    intro arrival member
    obtain ⟨number, _, rfl⟩ := List.mem_map.mp member
    exact steadyPacket_healthy number
  refine ⟨fun arrival member => (each arrival member).accepted,
    .inl (fun arrival member => (each arrival member).size),
    fun arrival member => (each arrival member).level, ?_⟩
  apply List.isChain_iff_getElem.mpr
  intro i inside
  simp only [steadyArrivals, List.getElem_map, List.getElem_range, steadyPacket_counter]
  exact BitVec.ofNat_add i 1

def steadyConfig : Config where
  nodeName := "driver"
  sensorName := "SCHUNK FTS"
  hardwareId := "unknown"
  rate := .hz1000

def steadyNode : NodeState where
  ftDataPublisher := false
  ftStatePublisher := false
  lastStateLevel := none
  baseStampRos := none
  baseStampNs := 0
  lastCounter := -1
  baseCounter := -1
  isSensorOk := true
  connectionLost := false
  lastSkipWarningTime := 0

theorem two_steady_packets :
    (publishedStamps (publishRun steadyConfig steadyNode.activate
        ((steadyArrivals 2).map Arrival.turn)).effects).length =
      ((steadyArrivals 2).map (fun arrival => sampleCount arrival.packet)).sum ∧
    ((publishedStamps (publishRun steadyConfig steadyNode.activate
        ((steadyArrivals 2).map Arrival.turn)).effects).Pairwise (· < ·) ↔
      (steadyArrivals 2).length ≤ 65536) :=
  stamps_increase_iff steadyConfig steadyNode (steadyArrivals 2) (steadyArrivals_steady 2)

/-- At 1 kHz the stamps jump back after a little more than 65 seconds. -/
theorem stamps_jump_back :
    SteadyRun (steadyArrivals 65537) ∧
      ¬(publishedStamps (publishRun steadyConfig steadyNode.activate
        ((steadyArrivals 65537).map Arrival.turn)).effects).Pairwise (· < ·) := by
  have steady := steadyArrivals_steady 65537
  refine ⟨steady, ?_⟩
  obtain ⟨count, base, positive, _, stamps⟩ := activated_stamps steadyConfig steadyNode _ steady
  rw [stamps, steadyArrivals, List.length_map, List.length_range]
  exact rows_repeat 65536 count base _ 65537 positive (by decide) (by decide)

end SchunkFts.Node.StampOrder
