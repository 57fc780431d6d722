import SchunkFts.Foundation.Run
import SchunkFts.Library.DataBuffer
import SchunkFts.Node.PublishLoop
import SchunkFts.Node.StampOrder

/-! What the publish loop says on the latched state topic, through outages and activations. -/

namespace SchunkFts.Node.StateTopic
open SchunkFts.Foundation.Struct SchunkFts.Foundation.Run
open SchunkFts.Library.Packet SchunkFts.Library.DataBuffer PublishLoop
open StampOrder (steadyConfig steadyNode steadyPacket steadyPacket_healthy)

/-- What `sample_batch` gives the loop: nothing, the placeholder, or a decoded packet. -/
inductive Outcome where
  | none
  | noSignal
  | received (packet : Bytes) (accepted : Accepts packet)

def Outcome.samples : Outcome → Option (List FTSample)
  | none => Option.none
  | noSignal => some [noSignalSample]
  | received packet _ => (decodeSampleBatch packet).toOption

/-- The status bits of the first sample. -/
def Outcome.statusBits : Outcome → Option (BitVec 32)
  | none => Option.none
  | noSignal => some noSignalSample.statusBits
  | received packet _ => some (firstStatus packet)

/-- Decoded from a received packet whose first sample is fine. -/
def Outcome.Healthy : Outcome → Prop
  | none => False
  | noSignal => False
  | received packet _ => statusLevelFromBits (firstStatus packet) = .ok

instance (outcome : Outcome) : Decidable outcome.Healthy := by
  cases outcome with
  | none => exact instDecidableFalse
  | noSignal => exact instDecidableFalse
  | received packet accepted => exact inferInstanceAs (Decidable (_ = _))

/-- One pass of the loop with what it finds. -/
structure Turn where
  clock : Clock
  outcome : Outcome

/-- A pass of the loop while the library driver is streaming. -/
def pass (config : Config) (node : NodeState) (turn : Turn) : Pass :=
  publishPass config turn.clock true node turn.outcome.samples

/-- The messages on the state topic. -/
def Effect.status : Effect → Option DiagnosticStatus
  | .single _ => none
  | .batch _ => none
  | .state msg => some msg
  | .skipped _ _ _ => none

def statuses (effects : List Effect) : List DiagnosticStatus := effects.filterMap Effect.status

/-! ### The messages of one pass -/

theorem statuses_append (first second : List Effect) :
    statuses (first ++ second) = statuses first ++ statuses second := List.filterMap_append

theorem samples_of_statusBits (outcome : Outcome) (bits : BitVec 32)
    (status : outcome.statusBits = some bits) :
    ∃ first rest, outcome.samples = some (first :: rest) ∧ first.statusBits = bits := by
  cases outcome with
  | none => cases status
  | noSignal => exact ⟨noSignalSample, [], rfl, Option.some.inj status⟩
  | received packet accepted =>
    obtain ⟨first, rest, decoded, opening, _⟩ := decodeSampleBatch_cons packet accepted
    refine ⟨first, rest, ?_, ?_⟩
    · rw [Outcome.samples, decoded]
      rfl
    · rw [opening]
      exact Option.some.inj status

theorem samples_of_no_statusBits (outcome : Outcome) (status : outcome.statusBits = none) :
    outcome = .none := by
  cases outcome with
  | none => rfl
  | noSignal => cases status
  | received packet accepted => cases status

theorem publishSamples_statuses (config : Config) (first : FTSample) (rest : List FTSample)
    (stampNs : Int) : statuses (publishSamples config first rest stampNs) = [] := by
  apply List.filterMap_eq_nil_iff.mpr
  intro effect member
  unfold publishSamples at member
  split_ifs at member
  · rw [List.mem_singleton.mp member]
    rfl
  · obtain ⟨msg, _, rfl⟩ := List.mem_map.mp member
    rfl

theorem trackCounter_statuses (clock : Clock) (node : NodeState) (counter : Int) :
    statuses (trackCounter clock node counter).2 = [] := by
  simp only [trackCounter]
  split
  · split_ifs <;> rfl
  · rfl

/-- The levels said while a lost connection counts as restored. -/
def restored (node : NodeState) : List Level := if node.connectionLost then [.ok] else []

/-- The level that counts as the last one said once the connection is restored. -/
def saidBefore (node : NodeState) : Option Level :=
  if node.connectionLost then some .ok else node.lastStateLevel

/-- The levels said about a batch itself. -/
def changed (node : NodeState) (level : Level) : List Level :=
  if some level = saidBefore node then [] else [level]

theorem restoreConnection_said (config : Config) (node : NodeState)
    (publisher : node.ftStatePublisher = true) :
    (restoreConnection config node).1.connectionLost = false ∧
      (restoreConnection config node).1.ftStatePublisher = true ∧
      (restoreConnection config node).1.lastStateLevel = saidBefore node ∧
      (statuses (restoreConnection config node).2).map DiagnosticStatus.level = restored node := by
  unfold restoreConnection saidBefore restored
  cases lost : node.connectionLost with
  | false => exact ⟨lost, publisher, rfl, rfl⟩
  | true =>
    simp only [publisher, if_true]
    exact ⟨trivial, trivial, trivial, rfl⟩

theorem publishState_said (config : Config) (node : NodeState) (level : Level) (bits : BitVec 32)
    (publisher : node.ftStatePublisher = true) :
    (publishState config true node level bits).1 = { node with lastStateLevel := some level } ∧
      (statuses (publishState config true node level bits).2).map DiagnosticStatus.level =
        if some level = node.lastStateLevel then [] else [level] := by
  unfold publishState
  by_cases same : some level = node.lastStateLevel
  · rw [if_neg (fun both => both.2 same), if_pos same]
    exact ⟨by rw [same], rfl⟩
  · rw [if_pos ⟨publisher, same⟩, if_neg same]
    exact ⟨rfl, rfl⟩

/-- What is said about a batch, when there is a publisher, and what then counts as said. -/
structure Reported (node next : NodeState) (effects : List Effect) (level : Level) : Prop where
  connection : next.connectionLost = false
  publisher : next.ftStatePublisher = true
  last : next.lastStateLevel = some level
  said : (statuses effects).map DiagnosticStatus.level = restored node ++ changed node level

theorem handleSamples_reported (config : Config) (clock : Clock) (node : NodeState)
    (first : FTSample) (rest : List FTSample) (publisher : node.ftStatePublisher = true) :
    Reported node (handleSamples config clock true node first rest).1
      (handleSamples config clock true node first rest).2
      (statusLevelFromBits first.statusBits) := by
  obtain ⟨connected, present, last, said⟩ := restoreConnection_said config node publisher
  rcases restoring : restoreConnection config node with ⟨start, onRestore⟩
  rw [restoring] at connected present last said
  obtain ⟨⟨time, tracked⟩, _⟩ := trackCounter_spec clock start first.counter.toNat
  have silent := trackCounter_statuses clock start first.counter.toNat
  rcases tracking : trackCounter clock start first.counter.toNat with ⟨counted, onSkip⟩
  rw [tracking] at tracked silent
  obtain ⟨ros, ns, counter, anchored, _, _⟩ := anchorStamps_spec config clock
    { counted with isSensorOk := decide (statusLevelFromBits first.statusBits = .ok) } first
  simp only at tracked connected present last said silent
  obtain ⟨stated, level⟩ := publishState_said config
    (anchorStamps config clock
      { counted with isSensorOk := decide (statusLevelFromBits first.statusBits = .ok) } first)
    (statusLevelFromBits first.statusBits) first.statusBits (by rw [anchored, tracked]; exact present)
  simp only [handleSamples, restoring, tracking]
  refine ⟨?_, ?_, ?_, ?_⟩
  · rw [stated, anchored, tracked]
    exact connected
  · rw [stated, anchored, tracked]
    exact present
  · rw [stated]
  · have before : (anchorStamps config clock { counted with
        isSensorOk := decide (statusLevelFromBits first.statusBits = .ok) } first).lastStateLevel =
        saidBefore node := by
      rw [anchored, tracked]
      exact last
    have data : ∀ stampNs, statuses (if (anchorStamps config clock { counted with
          isSensorOk := decide (statusLevelFromBits first.statusBits = .ok) } first).isSensorOk ∧
        (anchorStamps config clock { counted with
          isSensorOk := decide (statusLevelFromBits first.statusBits = .ok) } first).ftDataPublisher
        then publishSamples config first rest stampNs else []) = [] := by
      intro stampNs
      split_ifs
      · exact publishSamples_statuses config first rest stampNs
      · rfl
    rw [before] at level
    simp only [statuses_append, silent, data, List.append_nil, List.map_append, said, level]
    rfl

/-! ### An outage that is over too soon -/

/-- If the pass says that all is well, it handles a packet that says so. -/
def Truthful (config : Config) (node : NodeState) (turn : Turn) : Prop :=
  (∃ msg ∈ statuses (pass config node turn).effects, msg.level = .ok) → turn.outcome.Healthy

/-- A lost connection is followed by nothing, or by a packet that is fine. -/
def Meets (node : NodeState) (turn : Turn) : Prop :=
  node.connectionLost = true → turn.outcome = .none ∨ turn.outcome.Healthy

theorem healthy_iff (outcome : Outcome) (bits : BitVec 32) (status : outcome.statusBits = some bits) :
    outcome.Healthy ↔ statusLevelFromBits bits = .ok := by
  cases outcome with
  | none => cases status
  | noSignal =>
    cases status
    exact iff_of_false id (by decide)
  | received packet accepted =>
    cases status
    exact Iff.rfl

theorem ok_mem_reported (node : NodeState) (level : Level) :
    .ok ∈ restored node ++ changed node level ↔
      node.connectionLost = true ∨ (level = .ok ∧ node.lastStateLevel ≠ some .ok) := by
  unfold restored changed saidBefore
  cases lost : node.connectionLost with
  | true => simp
  | false =>
    by_cases same : some level = node.lastStateLevel
    · simp only [Bool.false_eq_true, if_false, if_pos same, List.append_nil, List.not_mem_nil,
        false_or, false_iff, not_and, not_not]
      intro fine
      rw [← same, fine]
    · simp only [Bool.false_eq_true, if_false, if_neg same, List.nil_append, List.mem_singleton,
        false_or]
      constructor
      · intro fine
        refine ⟨fine.symm, ?_⟩
        intro last
        rw [last, fine] at same
        exact same rfl
      · exact fun both => both.1.symm

theorem lost_statuses (config : Config) (node : NodeState) :
    ∀ msg ∈ statuses (loseConnection config node).2, msg.level ≠ .ok := by
  unfold loseConnection
  split_ifs
  · intro msg member
    rw [List.mem_singleton.mp member]
    exact nofun
  · exact fun msg member => absurd member List.not_mem_nil
  · exact fun msg member => absurd member List.not_mem_nil

theorem pass_publisher (config : Config) (node : NodeState) (turn : Turn)
    (publisher : node.ftStatePublisher = true) :
    (pass config node turn).node.ftStatePublisher = true := by
  cases status : turn.outcome.statusBits with
  | none =>
    have absent := samples_of_no_statusBits turn.outcome status
    simp only [pass, absent, Outcome.samples, publishPass]
    unfold loseConnection
    split_ifs <;> exact publisher
  | some bits =>
    obtain ⟨first, rest, samples, _⟩ := samples_of_statusBits turn.outcome bits status
    simp only [pass, samples, publishPass]
    exact (handleSamples_reported config turn.clock node first rest publisher).publisher

theorem truthful_iff (config : Config) (node : NodeState) (turn : Turn)
    (publisher : node.ftStatePublisher = true) : Truthful config node turn ↔ Meets node turn := by
  cases status : turn.outcome.statusBits with
  | none =>
    have absent := samples_of_no_statusBits turn.outcome status
    refine iff_of_true ?_ (fun _ => .inl absent)
    rintro ⟨msg, member, fine⟩
    simp only [pass, absent, Outcome.samples, publishPass] at member
    exact absurd fine (lost_statuses config node msg member)
  | some bits =>
    obtain ⟨first, rest, samples, same⟩ := samples_of_statusBits turn.outcome bits status
    have said := (handleSamples_reported config turn.clock node first rest publisher).said
    have present : turn.outcome ≠ .none := by
      intro absent
      rw [absent] at status
      cases status
    have healthy := healthy_iff turn.outcome bits status
    have reports : (∃ msg ∈ statuses (pass config node turn).effects, msg.level = .ok) ↔
        node.connectionLost = true ∨
          (statusLevelFromBits bits = .ok ∧ node.lastStateLevel ≠ some .ok) := by
      rw [← ok_mem_reported, ← same, ← said, List.mem_map]
      simp only [pass, samples, publishPass]
    rw [Truthful, reports, Meets]
    simp only [present, false_or, healthy]
    constructor
    · exact fun truthful lost => truthful (.inl lost)
    · rintro meets (lost | ⟨fine, _⟩)
      · exact meets lost
      · exact fine

/-- From an activation on, no pass claims that all is well without a good packet, exactly if no
outage ends in a placeholder or in a packet that reports a fault. -/
theorem ok_reports_iff (config : Config) (node : NodeState) (turns : List Turn) :
    AllMeet (fun node turn => (pass config node turn).node) (Truthful config) node.activate turns ↔
      AllMeet (fun node turn => (pass config node turn).node) Meets node.activate turns :=
  allMeet_iff _ (Truthful config) Meets (fun node => node.ftStatePublisher = true)
    (fun node turn publisher _ => pass_publisher config node turn publisher)
    (fun node turn publisher => truthful_iff config node turn publisher) turns node.activate rfl

/-- A good packet, a silence, and the placeholder for it. -/
def silence : List Turn :=
  [⟨⟨0, 0⟩, .received (steadyPacket 1) (steadyPacket_healthy 1).accepted⟩, ⟨⟨1, 1⟩, .none⟩,
    ⟨⟨2, 2⟩, .noSignal⟩]

/-- The placeholder counts as a restored connection. -/
theorem silence_reported_ok :
    ¬AllMeet (fun node turn => (pass steadyConfig node turn).node) (Truthful steadyConfig)
      steadyNode.activate silence := by
  intro truthful
  have last := truthful.2.2.1
  apply last
  refine ⟨_, List.mem_cons_self, rfl⟩

/-! ### The latched message -/

/-- The fields of a new node, as far as the publish loop depends on them. -/
def NodeState.new : NodeState where
  ftDataPublisher := false
  ftStatePublisher := false
  lastStateLevel := none
  baseStampRos := none
  baseStampNs := 0
  lastCounter := -1
  baseCounter := -1
  isSensorOk := false
  connectionLost := false
  lastSkipWarningTime := 0

/-- The node, whether its publish loop is running, and all that was said on the state topic. -/
structure Life where
  node : NodeState
  active : Bool
  topic : List DiagnosticStatus

def Life.new : Life where
  node := NodeState.new
  active := false
  topic := []

inductive Action where
  | configure (sensorOk : Bool)
  | activate
  | deactivate
  | pass (turn : Turn)

/-- `on_configure` notes whether the sensor was fine; passes happen while the node is active. -/
def Life.step (config : Config) (life : Life) : Action → Life
  | .configure sensorOk =>
      if life.active then life else { life with node := { life.node with isSensorOk := sensorOk } }
  | .activate =>
      if life.active then life else { life with node := life.node.activate, active := true }
  | .deactivate =>
      if life.active then
        { life with
          node := { life.node with ftDataPublisher := false, ftStatePublisher := false }
          active := false }
      else life
  | .pass turn =>
      if life.active then
        { life with
          node := (pass config life.node turn).node
          topic := life.topic ++ statuses (pass config life.node turn).effects }
      else life

/-- The level a late subscriber is told. -/
def Life.latched (life : Life) : Option Level := life.topic.getLast?.map DiagnosticStatus.level

/-- Between outages the level the loop remembers is the one it has said last. -/
structure Current (life : Life) : Prop where
  publisher : life.active = true → life.node.ftStatePublisher = true
  said : life.node.connectionLost = false → life.latched = life.node.lastStateLevel

theorem latched_append (topic said : List DiagnosticStatus) :
    (topic ++ said).getLast?.map DiagnosticStatus.level =
      ((said.map DiagnosticStatus.level).getLast?).or
        (topic.getLast?.map DiagnosticStatus.level) := by
  rw [List.getLast?_append, List.getLast?_map]
  cases said.getLast? <;> rfl

/-- Whatever was said before an outage, the batch that ends it leaves its own level. -/
theorem latched_reported (node : NodeState) (level : Level) (before : Option Level)
    (said : node.connectionLost = false → before = node.lastStateLevel) :
    ((restored node ++ changed node level).getLast?).or before = some level := by
  unfold restored changed saidBefore
  cases lost : node.connectionLost with
  | true =>
    by_cases fine : level = .ok
    · simp [fine]
    · simp [fine]
  | false =>
    by_cases same : some level = node.lastStateLevel
    · simp [same, said lost]
    · simp [same]

/-- The step of the loop: a batch that is handled leaves its level on the topic. -/
theorem pass_latched (config : Config) (life : Life) (current : Current life)
    (active : life.active = true) (turn : Turn) (bits : BitVec 32)
    (handled : turn.outcome.statusBits = some bits) :
    (life.step config (.pass turn)).latched = some (statusLevelFromBits bits) ∧
      (life.step config (.pass turn)).node.lastStateLevel = some (statusLevelFromBits bits) ∧
      (life.step config (.pass turn)).node.ftStatePublisher = true := by
  obtain ⟨first, rest, samples, status⟩ := samples_of_statusBits turn.outcome bits handled
  have reported := handleSamples_reported config turn.clock life.node first rest
    (current.publisher active)
  rw [status] at reported
  have passed : pass config life.node turn = {
      node := (handleSamples config turn.clock true life.node first rest).1
      effects := (handleSamples config turn.clock true life.node first rest).2 } := by
    rw [pass, samples]
    rfl
  simp only [Life.step, active, if_true, Life.latched, passed]
  refine ⟨?_, reported.last, reported.publisher⟩
  rw [latched_append, reported.said]
  exact latched_reported life.node _ _ current.said

/-- A pass without a batch says nothing, or that the connection is lost. -/
theorem pass_none (config : Config) (life : Life) (turn : Turn) (absent : turn.outcome = .none) :
    (pass config life.node turn).node.ftStatePublisher = life.node.ftStatePublisher ∧
      ((pass config life.node turn).node.connectionLost = false →
        statuses (pass config life.node turn).effects = [] ∧
          (pass config life.node turn).node.lastStateLevel = life.node.lastStateLevel ∧
          life.node.connectionLost = false) := by
  simp only [pass, absent, Outcome.samples, publishPass]
  unfold loseConnection
  split_ifs
  · exact ⟨rfl, fun connected => by cases connected⟩
  · exact ⟨rfl, fun connected => by cases connected⟩
  · exact ⟨rfl, fun connected => ⟨rfl, rfl, connected⟩⟩

theorem current_step (config : Config) (life : Life) (action : Action) (current : Current life) :
    Current (life.step config action) := by
  cases action with
  | configure sensorOk =>
    unfold Life.step
    split_ifs
    · exact current
    · exact ⟨current.publisher, current.said⟩
  | activate =>
    unfold Life.step
    split_ifs
    · exact current
    · exact ⟨fun _ => rfl, current.said⟩
  | deactivate =>
    unfold Life.step
    split_ifs
    · exact ⟨nofun, current.said⟩
    · exact current
  | pass turn =>
    by_cases active : life.active = true
    · cases handled : turn.outcome.statusBits with
      | none =>
        have absent := samples_of_no_statusBits turn.outcome handled
        obtain ⟨publisher, quiet⟩ := pass_none config life turn absent
        simp only [Life.step, active, if_true]
        refine ⟨fun _ => publisher.trans (current.publisher active), ?_⟩
        intro connected
        obtain ⟨silent, same, before⟩ := quiet connected
        rw [Life.latched, silent, List.append_nil, same]
        exact current.said before
      | some bits =>
        obtain ⟨latched, last, publisher⟩ := pass_latched config life current active turn bits handled
        exact ⟨fun _ => publisher, fun _ => latched.trans last.symm⟩
    · simp only [Life.step, if_neg active]
      exact current

theorem current_new : Current Life.new where
  publisher := nofun
  said := fun _ => rfl

theorem statusBits_of_samples (outcome : Outcome) (first : FTSample) (rest : List FTSample)
    (samples : outcome.samples = some (first :: rest)) :
    outcome.statusBits = some first.statusBits := by
  cases status : outcome.statusBits with
  | none =>
    rw [samples_of_no_statusBits outcome status] at samples
    cases samples
  | some bits =>
    obtain ⟨first', rest', same, here⟩ := samples_of_statusBits outcome bits status
    rw [samples] at same
    cases same
    rw [here]

/-- Over any activations and outages, a pass that handles a batch leaves the level of its first
sample as the latched one, which is the level of the sensor status with these bits. -/
theorem latched_current (config : Config) (actions : List Action) (turn : Turn) (first : FTSample)
    (rest : List FTSample) (active : (run (Life.step config) Life.new actions).active = true)
    (handled : turn.outcome.samples = some (first :: rest)) :
    (run (Life.step config) Life.new (actions ++ [.pass turn])).latched =
        some (statusLevelFromBits first.statusBits) ∧
      (getStatusLevel true first.statusBits).1 = statusLevelFromBits first.statusBits := by
  have current := run_always (Life.step config) Current (current_step config) actions Life.new
    current_new
  have status := statusBits_of_samples turn.outcome first rest handled
  have latched := (pass_latched config _ current active turn first.statusBits status).1
  rw [run, List.foldl_append]
  exact ⟨latched, getStatusLevel_level first.statusBits⟩

/-- An outage in one activation that ends in the next, with no signal. -/
theorem latched_after_reactivation :
    let actions : List Action := [.configure true, .activate,
      .pass ⟨⟨0, 0⟩, .received (steadyPacket 1) (steadyPacket_healthy 1).accepted⟩,
      .pass ⟨⟨1, 1⟩, .none⟩, .deactivate, .activate]
    (run (Life.step steadyConfig) Life.new (actions ++ [.pass ⟨⟨2, 2⟩, .noSignal⟩])).latched =
        some (statusLevelFromBits noSignalSample.statusBits) ∧
      (getStatusLevel true noSignalSample.statusBits).1 =
        statusLevelFromBits noSignalSample.statusBits :=
  latched_current steadyConfig _ ⟨⟨2, 2⟩, .noSignal⟩ noSignalSample [] rfl rfl

end SchunkFts.Node.StateTopic
