import SchunkFts.Node.StateTopic

/-! The status of every single sample against what is published about its packet. -/

namespace SchunkFts.Node.SampleStatus
open SchunkFts.Foundation.Struct SchunkFts.Foundation.Run
open SchunkFts.Library.Packet StateTopic
open PublishLoop hiding Turn
open StampOrder (steadyConfig)

/-- Bit 0 set and bits 1 to 5 clear. -/
def Fine (sample : FTSample) : Prop := statusLevelFromBits sample.statusBits = .ok

instance (sample : FTSample) : Decidable (Fine sample) := inferInstanceAs (Decidable (_ = _))

/-- The message about one sample of a batch, stamped as the node then stamps its packet. -/
def messageOf (config : Config) (node : NodeState) (first sample : FTSample) : WrenchStamped :=
  fillWrenchStamped sample (sampleStampNs config (packetStampNs config node first) sample)
    config.nodeName

/-- Every wrench that the pass publishes comes from a sample that is fine. -/
def OnlyFine (config : Config) (node : NodeState) (turn : Turn) : Prop :=
  ∀ msg ∈ (pass config node turn).effects.flatMap Effect.samples,
    ∃ first rest, turn.outcome.samples = some (first :: rest) ∧
      ∃ sample ∈ first :: rest, Fine sample ∧
        msg = messageOf config (pass config node turn).node first sample

/-- A pass publishes wrenches of samples that are fine only, and after a batch with any other
sample the latched level is not OK. -/
def FaultsHeeded (config : Config) (life : Life) (action : Action) : Prop :=
  ∀ turn, action = .pass turn → life.active = true →
    OnlyFine config life.node turn ∧
    ∀ samples, turn.outcome.samples = some samples → (∃ sample ∈ samples, ¬Fine sample) →
      (life.step config action).latched ≠ some .ok

/-- If the first sample of a batch is fine, all of them are. -/
def FirstTellsAll (life : Life) (action : Action) : Prop :=
  ∀ turn first rest, action = .pass turn → life.active = true →
    turn.outcome.samples = some (first :: rest) → Fine first → ∀ sample ∈ rest, Fine sample

/-! ### One batch -/

/-- What a batch publishes: the message of every sample if the first one is fine, and else nothing. -/
theorem handled_messages (config : Config) (node : NodeState) (turn : Turn) (first : FTSample)
    (rest : List FTSample) (found : turn.outcome.samples = some (first :: rest)) :
    (pass config node turn).effects.flatMap Effect.samples =
      if Fine first ∧ node.ftDataPublisher = true then
        (first :: rest).map (messageOf config (pass config node turn).node first)
      else [] := by
  have data : (handleSamples config turn.clock true node first rest).2.filter Effect.isData =
      if Fine first ∧ node.ftDataPublisher = true then
        publishSamples config first rest
          (packetStampNs config (handleSamples config turn.clock true node first rest).1 first)
      else [] :=
    (handleSamples_spec config turn.clock true node first rest).data
  simp only [StateTopic.pass, found, publishPass]
  rw [← samples_filter, data]
  by_cases published : Fine first ∧ node.ftDataPublisher = true
  · rw [if_pos published, if_pos published, publishSamples_samples]
    rfl
  · rw [if_neg published, if_neg published]
    rfl

theorem silent_messages (config : Config) (node : NodeState) (turn : Turn)
    (absent : turn.outcome = .none) :
    (pass config node turn).effects.flatMap Effect.samples = [] := by
  simp only [StateTopic.pass, absent, Outcome.samples, publishPass, loseConnection]
  split_ifs <;> rfl

theorem samples_cases (outcome : Outcome) :
    outcome = .none ∨ ∃ first rest, outcome.samples = some (first :: rest) := by
  cases status : outcome.statusBits with
  | none => exact .inl (samples_of_no_statusBits outcome status)
  | some bits =>
    obtain ⟨first, rest, samples, _⟩ := samples_of_statusBits outcome bits status
    exact .inr ⟨first, rest, samples⟩

theorem batch_latched (config : Config) (life : Life) (current : Current life)
    (active : life.active = true) (turn : Turn) (first : FTSample) (rest : List FTSample)
    (found : turn.outcome.samples = some (first :: rest)) :
    (life.step config (.pass turn)).latched = some (statusLevelFromBits first.statusBits) :=
  (pass_latched config life current active turn first.statusBits
    (statusBits_of_samples turn.outcome first rest found)).1

theorem onlyFine_of_first (config : Config) (node : NodeState) (turn : Turn) (first : FTSample)
    (rest : List FTSample) (found : turn.outcome.samples = some (first :: rest))
    (tells : Fine first → ∀ sample ∈ rest, Fine sample) : OnlyFine config node turn := by
  intro msg member
  rw [handled_messages config node turn first rest found] at member
  by_cases published : Fine first ∧ node.ftDataPublisher = true
  · rw [if_pos published] at member
    obtain ⟨sample, inside, rfl⟩ := List.mem_map.mp member
    have all := List.forall_mem_cons.mpr ⟨published.1, tells published.1⟩
    exact ⟨first, rest, found, sample, inside, all sample inside, rfl⟩
  · rw [if_neg published] at member
    exact absurd member List.not_mem_nil

theorem faultsHeeded_iff (config : Config) (life : Life) (action : Action) (current : Current life) :
    FaultsHeeded config life action ↔ FirstTellsAll life action := by
  constructor
  · rintro heeded turn first rest rfl active found fine sample member
    by_contra faulty
    apply (heeded turn rfl active).2 _ found ⟨sample, List.mem_cons_of_mem _ member, faulty⟩
    rw [batch_latched config life current active turn first rest found, fine]
  · rintro tells turn rfl active
    rcases samples_cases turn.outcome with absent | ⟨first, rest, found⟩
    · constructor
      · intro msg member
        rw [silent_messages config life.node turn absent] at member
        exact absurd member List.not_mem_nil
      · intro samples received
        rw [absent] at received
        cases received
    · have all := tells turn first rest rfl active found
      refine ⟨onlyFine_of_first config life.node turn first rest found all, ?_⟩
      rintro samples received ⟨sample, member, faulty⟩ latched
      cases found.symm.trans received
      rw [batch_latched config life current active turn first rest found] at latched
      have fine : Fine first := Option.some.inj latched
      exact faulty (List.forall_mem_cons.mpr ⟨fine, all fine⟩ sample member)

/-- Over any activations and outages, no sample with a fault is published and every one of them
shows on the state topic, exactly if the first sample of a batch always tells of the others. -/
theorem faults_heeded_iff (config : Config) (actions : List Action) :
    AllMeet (Life.step config) (FaultsHeeded config) Life.new actions ↔
      AllMeet (Life.step config) FirstTellsAll Life.new actions :=
  allMeet_iff (Life.step config) (FaultsHeeded config) FirstTellsAll Current
    (fun life action current _ => current_step config life action current)
    (fun life action current => faultsHeeded_iff config life action current) actions Life.new
    current_new

/-- A packaged packet whose first sample is fine and whose other samples have a hardware error. -/
def mixedPacket : Bytes :=
  [0xff, 0xff, 1, 0, 193, 1, 7, 1, 0, 0, 0] ++ (List.replicate 24 0 ++ List.replicate 420 8)

theorem mixedPacket_accepted : Accepts mixedPacket := by
  have payload : payloadField mixedPacket = 449 := rfl
  have length : mixedPacket.length = 455 := by
    rw [mixedPacket, List.length_append, List.length_append, List.length_replicate,
      List.length_replicate]
    rfl
  exact .inr ⟨payload, length.ge⟩

def mixedLife : List Action :=
  [.configure true, .activate, .pass ⟨⟨0, 0⟩, .received mixedPacket mixedPacket_accepted⟩]

/-- All sixteen wrenches are published, and the state topic says that all is well. -/
theorem mixed_packet_published :
    ¬AllMeet (Life.step steadyConfig) (FaultsHeeded steadyConfig) Life.new mixedLife := by
  rintro ⟨_, _, heeded, _⟩
  have current := run_always (Life.step steadyConfig) Current (current_step steadyConfig)
    [.configure true, .activate] Life.new current_new
  have tells := (faultsHeeded_iff steadyConfig _ _ current).mp heeded
  obtain ⟨first, rest, decoded, opening, batch⟩ := decodeSampleBatch_cons mixedPacket
    mixedPacket_accepted
  have fine : Fine first := by
    rw [opening]
    decide
  have all := tells _ first rest rfl rfl (by rw [Outcome.samples, decoded]; rfl) fine
  have second : (packetData mixedPacket 1).toSample ∈ rest := by
    have size : sampleCount mixedPacket = 16 := rfl
    rw [size, List.range_succ_eq_map, List.map_cons] at batch
    rw [(List.cons.inj batch).2]
    exact List.mem_map.mpr ⟨1, by decide, rfl⟩
  have faulty : ¬Fine (packetData mixedPacket 1).toSample := by decide
  exact faulty (all _ second)

end SchunkFts.Node.SampleStatus
