import SchunkFts.Node.SampleStamps

/-! Whether the stamps get a new anchor after the sensor has been silent. -/

namespace SchunkFts.Node.Reanchoring
open SchunkFts.Foundation.Struct SchunkFts.Foundation.Run
open SchunkFts.Library.Packet StateTopic SampleStamps
open PublishLoop hiding Turn
open StampOrder (publishedStamps steadyConfig steadyNode steadyPacket steadyPacket_healthy)

/-- The pass puts something on the data topic. -/
def Publishes (config : Config) (node : NodeState) (turn : Turn) : Prop :=
  (pass config node turn).effects.filter Effect.isData ≠ []

/-- The anchor as a pass sets it from its packet and the clock. -/
def anchorFrom (config : Config) (clock : Clock) (packet : Bytes) : Option Int × Int × Int :=
  (some clock.ros,
    clock.ros - (packetData packet 0).toSample.sampleIndex * config.samplePeriodNs,
    ((counterField packet).toNat : Int))

/-- The anchor comes from a packet received in one of the passes. -/
def AnchoredIn (config : Config) (turns : List Turn) (node : NodeState) : Prop :=
  ∃ turn ∈ turns, ∃ packet accepted, turn.outcome = .received packet accepted ∧
    node.base = anchorFrom config turn.clock packet

/-- The samples of the pass are stamped from this anchor. -/
def StampedFrom (config : Config) (anchored : NodeState) (node : NodeState) (turn : Turn) : Prop :=
  ∃ packet accepted, turn.outcome = .received packet accepted ∧
    publishedStamps (pass config node turn).effects =
      (List.range (sampleCount packet)).map (fun index =>
        sampleStampNs config (packetStampNs config anchored (packetData packet 0).toSample)
          (packetData packet index).toSample)

/-- If the pass finds nothing, then whatever follows, the next sample that is published is stamped
from an anchor set since. -/
def ReanchorsAfter (config : Config) (node : NodeState) (turn : Turn) : Prop :=
  turn.outcome = .none → ∀ quiet publishing,
    AllMeet (advance config) (fun node turn => ¬Publishes config node turn)
      (advance config node turn) quiet →
    let before := run (advance config) (advance config node turn) quiet
    Publishes config before publishing →
    AnchoredIn config (quiet ++ [publishing]) (advance config before publishing) ∧
      StampedFrom config (advance config before publishing) before publishing

/-- A silence falls on a sensor that was fine, on a lost connection, or before any anchor. -/
def SilenceNoticed (node : NodeState) (turn : Turn) : Prop :=
  turn.outcome = .none →
    node.isSensorOk = true ∨ node.connectionLost = true ∨ node.baseStampRos = none

/-! ### Passes without an anchor -/

theorem advance_publisher (config : Config) (node : NodeState) (turn : Turn) :
    (advance config node turn).ftDataPublisher = node.ftDataPublisher := by
  cases status : turn.outcome.statusBits with
  | none =>
    rw [advance_silence config node turn (samples_of_no_statusBits turn.outcome status)]
  | some bits =>
    obtain ⟨first, rest, samples, _⟩ := samples_of_statusBits turn.outcome bits status
    simp only [advance, StateTopic.pass, samples, publishPass]
    exact (handleSamples_spec config turn.clock true node first rest).publisher

theorem none_silent (config : Config) (node : NodeState) (turn : Turn)
    (absent : turn.outcome = .none) : ¬Publishes config node turn := by
  rw [Publishes, not_not]
  simp only [StateTopic.pass, absent, Outcome.samples, publishPass, loseConnection]
  split_ifs <;> rfl

/-- With a publisher, a pass publishes what comes with a good status, and nothing else. -/
theorem publishes_iff (config : Config) (node : NodeState) (turn : Turn)
    (publisher : node.ftDataPublisher = true) :
    Publishes config node turn ↔ turn.outcome.Healthy := by
  cases status : turn.outcome.statusBits with
  | none =>
    have absent := samples_of_no_statusBits turn.outcome status
    apply iff_of_false (none_silent config node turn absent)
    rw [absent]
    exact id
  | some bits =>
    obtain ⟨first, rest, samples, same⟩ := samples_of_statusBits turn.outcome bits status
    have data := (handleSamples_spec config turn.clock true node first rest).data
    rw [healthy_iff turn.outcome bits status, Publishes, ← same]
    simp only [StateTopic.pass, samples, publishPass, data, publisher, and_true]
    by_cases healthy : statusLevelFromBits first.statusBits = .ok
    · rw [if_pos healthy]
      apply iff_of_true _ healthy
      unfold publishSamples
      split_ifs <;> simp
    · rw [if_neg healthy]
      exact iff_of_false (fun shown => shown rfl) healthy

theorem healthy_received (outcome : Outcome) (healthy : outcome.Healthy) :
    ∃ packet accepted, outcome = .received packet accepted ∧
      statusLevelFromBits (firstStatus packet) = .ok := by
  cases outcome with
  | none => exact healthy.elim
  | noSignal => exact healthy.elim
  | received packet accepted => exact ⟨packet, accepted, rfl, healthy⟩

/-- The step: without an anchor, one is set by what is published and by nothing else. -/
theorem advance_unanchored (config : Config) (node : NodeState) (turn : Turn)
    (fresh : node.Unanchored) (faulty : ¬turn.outcome.Healthy) :
    (advance config node turn).Unanchored := by
  cases status : turn.outcome.statusBits with
  | none =>
    rw [advance_silence config node turn (samples_of_no_statusBits turn.outcome status)]
    rcases fresh with lost | unset
    · left
      simp [lost]
    · exact .inr unset
  | some bits =>
    obtain ⟨first, rest, samples, same⟩ := samples_of_statusBits turn.outcome bits status
    rw [healthy_iff turn.outcome bits status, ← same] at faulty
    simp only [advance, StateTopic.pass, samples, publishPass]
    exact .inr ((handleSamples_base config turn.clock true node first rest).2.2 fresh faulty)

/-- The run: until something is published there is no anchor. -/
theorem run_unanchored (config : Config) (quiet : List Turn) (node : NodeState)
    (fresh : node.Unanchored) (publisher : node.ftDataPublisher = true)
    (unpublished : AllMeet (advance config) (fun node turn => ¬Publishes config node turn) node quiet) :
    (run (advance config) node quiet).Unanchored ∧
      (run (advance config) node quiet).ftDataPublisher = true := by
  apply run_invariant (advance config) (fun node turn => ¬Publishes config node turn)
    (fun node => node.Unanchored ∧ node.ftDataPublisher = true) _ quiet node ⟨fresh, publisher⟩
    unpublished
  rintro node turn ⟨fresh, publisher⟩ silent
  rw [publishes_iff config node turn publisher] at silent
  exact ⟨advance_unanchored config node turn fresh silent,
    (advance_publisher config node turn).trans publisher⟩

theorem advance_anchorFrom (config : Config) (node : NodeState) (turn : Turn) (packet : Bytes)
    (accepted : Accepts packet) (found : turn.outcome = .received packet accepted)
    (healthy : statusLevelFromBits (firstStatus packet) = .ok) (fresh : node.Unanchored) :
    (advance config node turn).base = anchorFrom config turn.clock packet := by
  obtain ⟨first, rest, opening, _, passed⟩ := received_pass config node turn packet accepted found
  have set := (handleSamples_base config turn.clock true node first rest).2.1 fresh
  rw [opening] at set
  simp only [advance, passed, opening]
  exact set healthy

/-- A pass stamps what it publishes from the anchor that it leaves. -/
theorem published_stampedFrom (config : Config) (node : NodeState) (turn : Turn) (packet : Bytes)
    (accepted : Accepts packet) (found : turn.outcome = .received packet accepted)
    (healthy : statusLevelFromBits (firstStatus packet) = .ok)
    (publisher : node.ftDataPublisher = true) :
    StampedFrom config (advance config node turn) node turn := by
  obtain ⟨first, rest, opening, batch, passed⟩ := received_pass config node turn packet accepted found
  have data := (handleSamples_spec config turn.clock true node first rest).data
  have good : statusLevelFromBits first.statusBits = .ok ∧ node.ftDataPublisher = true := by
    rw [opening]
    exact ⟨healthy, publisher⟩
  rw [if_pos good] at data
  refine ⟨packet, accepted, found, ?_⟩
  simp only [advance, passed]
  rw [publishedStamps_filter, data, ← opening]
  exact published_samples config _ packet first rest batch

/-! ### A silence that is not noticed -/

theorem silence_unanchored (config : Config) (node : NodeState) (turn : Turn)
    (absent : turn.outcome = .none) (noticed : SilenceNoticed node turn) :
    (advance config node turn).Unanchored := by
  rw [advance_silence config node turn absent]
  rcases noticed absent with fine | lost | unset
  · left
    simp [fine]
  · left
    simp [lost]
  · exact .inr unset

/-- A silence that is not noticed changes nothing. -/
theorem silence_ignored (config : Config) (node : NodeState) (turn : Turn)
    (absent : turn.outcome = .none) (unnoticed : ¬SilenceNoticed node turn) :
    advance config node turn = node ∧ ¬node.Unanchored := by
  rw [SilenceNoticed, Classical.not_imp] at unnoticed
  obtain ⟨faulty, others⟩ := not_or.mp unnoticed.2
  have same : (node.connectionLost || node.isSensorOk) = node.connectionLost := by
    simp [faulty]
  refine ⟨?_, others⟩
  rw [advance_silence config node turn absent, same]

/-- A silence that changes nothing lets the next good packet be stamped from the anchor before. -/
theorem ignored_silence_breaks (config : Config) (node : NodeState) (turn : Turn)
    (publisher : node.ftDataPublisher = true) (absent : turn.outcome = .none)
    (same : advance config node turn = node) (anchored : ¬node.Unanchored) :
    ¬ReanchorsAfter config node turn := by
  intro reanchors
  -- a good packet comes next, at a time other than that of the anchor
  let next : Turn := steadyTurn (node.baseStampRos.getD 0 + 1) 1
  have shown : Publishes config node next :=
    (publishes_iff config node next publisher).mpr (steadyPacket_healthy 1).level
  have claimed := reanchors absent [] next trivial (by rw [same]; exact shown)
  rw [same] at claimed
  obtain ⟨⟨found, member, packet, accepted, received, base⟩, _⟩ := claimed
  rw [List.mem_singleton.mp member] at base
  obtain ⟨first, rest, samples, _⟩ := samples_of_statusBits next.outcome _ rfl
  have kept : (advance config node next).base = node.base := by
    simp only [advance, StateTopic.pass, samples, publishPass]
    exact (handleSamples_base config next.clock true node first rest).1 anchored
  have clocks : node.baseStampRos = some (node.baseStampRos.getD 0 + 1) :=
    congrArg Prod.fst (kept.symm.trans base)
  cases ros : node.baseStampRos with
  | none => exact anchored (.inr ros)
  | some time =>
    rw [ros, Option.getD_some] at clocks
    have less := Option.some.inj clocks
    omega

theorem reanchorsAfter_iff (config : Config) (node : NodeState) (turn : Turn)
    (publisher : node.ftDataPublisher = true) :
    ReanchorsAfter config node turn ↔ SilenceNoticed node turn := by
  constructor
  · intro reanchors absent
    by_contra unnoticed
    have ignored : ¬SilenceNoticed node turn := fun noticed => unnoticed (noticed absent)
    obtain ⟨same, anchored⟩ := silence_ignored config node turn absent ignored
    exact ignored_silence_breaks config node turn publisher absent same anchored reanchors
  · intro noticed absent quiet publishing unpublished before shown
    have fresh := silence_unanchored config node turn absent noticed
    obtain ⟨waiting, present⟩ := run_unanchored config quiet _ fresh
      ((advance_publisher config node turn).trans publisher) unpublished
    have healthy := (publishes_iff config _ publishing present).mp shown
    obtain ⟨packet, accepted, received, good⟩ := healthy_received publishing.outcome healthy
    exact ⟨⟨publishing, List.mem_append_right _ List.mem_cons_self, packet, accepted, received,
        advance_anchorFrom config _ publishing packet accepted received good waiting⟩,
      published_stampedFrom config _ publishing packet accepted received good present⟩

/-- From an activation on, every silence is followed by a new anchor exactly if every silence falls
on a sensor that was fine, on a lost connection, or before any anchor. -/
theorem silences_reanchor_iff (config : Config) (node : NodeState) (turns : List Turn) :
    AllMeet (advance config) (ReanchorsAfter config) node.activate turns ↔
      AllMeet (advance config) SilenceNoticed node.activate turns :=
  allMeet_iff (advance config) (ReanchorsAfter config) SilenceNoticed
    (fun node => node.ftDataPublisher = true)
    (fun node turn publisher _ => (advance_publisher config node turn).trans publisher)
    (fun node turn publisher => reanchorsAfter_iff config node turn publisher) turns node.activate rfl

/-- A sensor reports a fault and then loses power. -/
def powerLoss : List Turn := [steadyTurn 0 100, faultyTurn 1 101, ⟨⟨2, 2⟩, .none⟩]

/-- It is back a moment later, its counter starting again. -/
def restart : Turn := steadyTurn 3 1

/-- The restarted sensor is stamped against the anchor from before, more than a minute ahead. -/
theorem restart_on_old_anchor :
    ¬AllMeet (advance steadyConfig) (ReanchorsAfter steadyConfig) steadyNode.activate powerLoss ∧
      publishedStamps (pass steadyConfig (run (advance steadyConfig) steadyNode.activate powerLoss)
        restart).effects = [65437000000] := by
  constructor
  · rintro ⟨_, _, reanchors, _⟩
    have noticed := (reanchorsAfter_iff steadyConfig _ _ rfl).mp reanchors rfl
    rcases noticed with fine | lost | unset
    · cases fine
    · cases lost
    · cases unset
  · rfl

end SchunkFts.Node.Reanchoring
