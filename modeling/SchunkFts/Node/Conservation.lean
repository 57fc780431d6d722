import SchunkFts.Node.Survival

/-! Where the datagrams go that are put while the publish loop is at work. The log keeps them in
the order of their arrival, with what `put` did, and counts those that have been consumed. -/

namespace SchunkFts.Node.Conservation
open SchunkFts.Foundation.Struct SchunkFts.Foundation.Queue SchunkFts.Library.Packet
open SchunkFts.Library.DataBuffer SchunkFts.Library.UpdateLoop PublishLoop Loops
open StampOrder (steadyConfig steadyPacket)
open Survival (freshSystem)

structure Log where
  arrivals : List (Bytes × Bool) := []
  taken : Nat := 0

namespace Log

def accepted (log : Log) : List Bytes := (log.arrivals.filter (fun arrival => arrival.2)).map Prod.fst

def refused (log : Log) : List Bytes := (log.arrivals.filter (fun arrival => !arrival.2)).map Prod.fst

def queued (log : Log) : List Bytes := log.accepted.drop log.taken

def consumed (log : Log) : List Bytes := log.accepted.take log.taken

/-- Consumed, with the first sample's level. -/
def published (log : Log) : List Bytes :=
  log.consumed.filter (fun packet => statusLevelFromBits (firstStatus packet) = .ok)

def suppressed (log : Log) : List Bytes :=
  log.consumed.filter (fun packet => ¬statusLevelFromBits (firstStatus packet) = .ok)

/-- The log before a step becomes the log after it. -/
def step (s : System) (log : Log) : Action → Log
  | .update _ =>
      match s.update.phase with
      | .putting packet _ =>
          if packet.length < 4 then log
          else { log with arrivals := log.arrivals ++ [(packet, !decide s.buffer.queue.Full)] }
      | _ => log
  | .publish _ _ =>
      if s.publishRaised = none ∧ s.driver.isStreaming = true ∧ s.buffer.queue.items ≠ [] then
        { log with taken := log.taken + 1 }
      else log

end Log

/-- A run with its log. -/
def trace (config : Config) (s : System) (actions : List Action) : System × Log :=
  actions.foldl (fun state action => (state.1.step config action, state.2.step state.1 action))
    (s, {})

/-- What a message on the data topic holds, its stamps and frame left out. -/
inductive Content where
  | single (wrench : Wrench)
  | batch (packetCounter : BitVec 16) (packetId : Byte) (samplesPerPacket : Nat)
      (wrenches : List Wrench)

def contentOf : Effect → Option Content
  | .single msg => some (.single msg.wrench)
  | .batch msg => some (.batch msg.packetCounter msg.packetId msg.samplesPerPacket
      (msg.samples.map WrenchStamped.wrench))
  | .state _ => none
  | .skipped _ _ _ => none

/-- The wrenches of the decoded samples. -/
def wrenchesOf (packet : Bytes) : List Wrench :=
  ((decodeSampleBatch packet).toOption.getD []).map FTSample.wrench

/-- One message for a packet, or one for each of its samples. -/
def messagesOf (config : Config) (packet : Bytes) : List Content :=
  if config.publishSampleBatches then
    [.batch (counterField packet) (packet.getD 6 0) (sampleCount packet) (wrenchesOf packet)]
  else (wrenchesOf packet).map .single

def Decodable : Action → Prop
  | .update input => ∀ datagram ∈ input.arrived, Accepts (datagram.data.take 8192)
  | .publish _ _ => True

def PhaseDecodable : Phase → Prop
  | .putting packet rest => ∀ next ∈ packet :: rest, Accepts next
  | _ => True

/-! ### Messages of a packet -/

theorem contents_filter (effects : List Effect) :
    (effects.filter Effect.isData).filterMap contentOf = effects.filterMap contentOf := by
  rw [List.filterMap_filter]
  apply List.filterMap_congr
  intro effect _
  cases effect <;> rfl

theorem publishSamples_contents (config : Config) (packet : Bytes) (first : FTSample)
    (rest : List FTSample) (stampNs : Int)
    (decoded : decodeSampleBatch packet = .ok (first :: rest))
    (opening : first = (packetData packet 0).toSample) :
    (publishSamples config first rest stampNs).filterMap contentOf = messagesOf config packet := by
  have place := toSample_place packet 0 (sampleCount_pos packet)
  rw [← opening] at place
  have counter : first.counter = counterField packet := by
    rw [opening]
    rfl
  have id : first.packetId = packet.getD 6 0 := by
    rw [opening]
    rfl
  have wrenches : wrenchesOf packet = (first :: rest).map FTSample.wrench := by
    rw [wrenchesOf, decoded]
    rfl
  simp only [publishSamples, messagesOf, wrenches]
  split_ifs
  · simp only [List.filterMap_cons, List.filterMap_nil, contentOf, List.map_map, counter, id, place.2]
    rfl
  · simp only [List.filterMap_map, List.map_map]
    rw [← List.filterMap_eq_map]
    rfl

theorem samples_contents (effects : List Effect) :
    (effects.flatMap Effect.samples).map WrenchStamped.wrench =
      (effects.filterMap contentOf).flatMap (fun content => match content with
        | .single wrench => [wrench]
        | .batch _ _ _ wrenches => wrenches) := by
  induction effects with
  | nil => rfl
  | cons effect rest ih =>
    rw [List.flatMap_cons, List.map_append, ih]
    cases effect <;> rfl

/-! ### The log under one step -/

theorem accepted_snoc (log : Log) (packet : Bytes) (stored : Bool) :
    Log.accepted { log with arrivals := log.arrivals ++ [(packet, stored)] } =
      log.accepted ++ if stored then [packet] else [] := by
  unfold Log.accepted
  rw [List.filter_append, List.map_append]
  cases stored <;> rfl

theorem refused_snoc (log : Log) (packet : Bytes) (stored : Bool) :
    Log.refused { log with arrivals := log.arrivals ++ [(packet, stored)] } =
      log.refused ++ if stored then [] else [packet] := by
  unfold Log.refused
  rw [List.filter_append, List.map_append]
  cases stored <;> rfl

/-- Storing a packet does not change what has been published. -/
theorem published_snoc (log : Log) (packet : Bytes) (stored : Bool)
    (within : log.taken ≤ log.accepted.length) :
    Log.published { log with arrivals := log.arrivals ++ [(packet, stored)] } = log.published := by
  unfold Log.published Log.consumed
  rw [accepted_snoc, List.take_append_of_le_length within]

theorem published_take (log : Log) (packet : Bytes)
    (front : log.accepted[log.taken]? = some packet) :
    Log.published { log with taken := log.taken + 1 } = log.published ++
      if statusLevelFromBits (firstStatus packet) = .ok then [packet] else [] := by
  have consumed : Log.consumed { log with taken := log.taken + 1 } = log.consumed ++ [packet] := by
    show log.accepted.take (log.taken + 1) = _
    rw [List.take_add_one, front]
    rfl
  unfold Log.published
  rw [consumed, List.filter_append]
  by_cases healthy : statusLevelFromBits (firstStatus packet) = .ok
  · rw [if_pos healthy, List.filter_cons_of_pos (by simpa using healthy), List.filter_nil]
  · rw [if_neg healthy, List.filter_cons_of_neg (by simpa using healthy), List.filter_nil]

/-- The invariant: the loops run, the log agrees with the queue and the drop count, and what has
been published is what the log says. -/
structure Agrees (config : Config) (dropped : Nat) (s : System) (log : Log) : Prop where
  alive : s.publishRaised = none
  publisher : s.node.ftDataPublisher = true
  phase : PhaseDecodable s.update.phase
  stored : s.buffer.queue.History log.accepted log.taken
  decodable : ∀ arrival ∈ log.arrivals, Accepts arrival.1
  dropped : s.buffer.droppedPacketCount = dropped + log.refused.length
  published : s.effects.filterMap contentOf = log.published.flatMap (messagesOf config)

theorem putRest_decodable (rest : List Bytes) (decodable : ∀ packet ∈ rest, Accepts packet) :
    PhaseDecodable (.putRest rest) := by
  cases rest with
  | nil => trivial
  | cons packet others => exact decodable

theorem agrees_put (config : Config) (dropped : Nat) (s : System) (log : Log)
    (agrees : Agrees config dropped s log) (input : PassInput) (packet : Bytes)
    (rest : List Bytes) (here : s.update.phase = .putting packet rest) :
    Agrees config dropped (s.step config (.update input)) (log.step s (.update input)) := by
  have decodable := agrees.phase
  rw [here] at decodable
  have accepted : Accepts packet := decodable packet List.mem_cons_self
  have long : ¬packet.length < 4 := by
    have least := accepted.length_le
    omega
  have put := putPacket_spec s.driver s.update packet rest
  rw [if_neg long] at put
  have buffer : (s.step config (.update input)).buffer = s.buffer.put packet := by
    simpa only [System.step, updateStep, here] using put.1
  have phase : PhaseDecodable (s.step config (.update input)).update.phase := by
    have next := put.2.2.2
    simp only [System.step, updateStep, here, next]
    exact putRest_decodable rest (fun other member => decodable other (List.mem_cons_of_mem _ member))
  have logged : log.step s (.update input) =
      { log with arrivals := log.arrivals ++ [(packet, !decide s.buffer.queue.Full)] } := by
    simp only [Log.step, here, if_neg long]
  have all_decodable : ∀ arrival ∈ log.arrivals ++ [(packet, !decide s.buffer.queue.Full)],
      Accepts arrival.1 := by
    intro arrival member
    rcases List.mem_append.mp member with earlier | last
    · exact agrees.decodable arrival earlier
    · rw [List.mem_singleton.mp last]
      exact accepted
  rw [logged]
  by_cases full : s.buffer.queue.Full
  · rw [s.buffer.put_full packet full] at buffer
    refine ⟨agrees.alive, agrees.publisher, phase, ?_, all_decodable, ?_, ?_⟩
    · rw [accepted_snoc, buffer]
      simpa [full] using agrees.stored
    · rw [refused_snoc, buffer]
      simp only [full, agrees.dropped, decide_true, Bool.not_true, Bool.false_eq_true, if_false,
        List.length_append, List.length_singleton]
      omega
    · rw [published_snoc _ _ _ agrees.stored.within]
      exact agrees.published
  · obtain ⟨queue, items, _, stored⟩ := s.buffer.put_room packet full
    rw [stored] at buffer
    refine ⟨agrees.alive, agrees.publisher, phase, ?_, all_decodable, ?_, ?_⟩
    · rw [accepted_snoc, buffer]
      simpa [full] using agrees.stored.put packet items
    · rw [refused_snoc, buffer]
      simpa [full] using agrees.dropped
    · rw [published_snoc _ _ _ agrees.stored.within]
      exact agrees.published

theorem read_decodable (driver : Driver) (loop : UpdateState) (input : PassInput)
    (decodable : Decodable (.update input)) (phase : PhaseDecodable loop.phase)
    (no_put : ∀ packet rest, loop.phase ≠ .putting packet rest) :
    PhaseDecodable (updateStep driver loop input).2.phase := by
  unfold updateStep
  split
  next waiting =>
    rcases readPackets_phase driver loop input with same | ended | ⟨packet, rest, begun, read⟩
    · rw [same]
      exact phase
    · rw [ended]
      trivial
    · rw [begun]
      intro next member
      rw [← read] at member
      obtain ⟨datagram, arrived, rfl⟩ := read_packets driver.stream input.arrived next member
      exact decodable datagram arrived
  next packet rest here => exact absurd here (no_put packet rest)
  next => exact phase
  next => exact phase

theorem agrees_read (config : Config) (dropped : Nat) (s : System) (log : Log)
    (agrees : Agrees config dropped s log) (input : PassInput)
    (decodable : Decodable (.update input))
    (no_put : ∀ packet rest, s.update.phase ≠ .putting packet rest) :
    Agrees config dropped (s.step config (.update input)) (log.step s (.update input)) := by
  have buffer : (s.step config (.update input)).buffer = s.buffer :=
    updateStep_read s.driver s.update input no_put
  have logged : log.step s (.update input) = log := by
    simp only [Log.step]
  rw [logged]
  refine ⟨agrees.alive, agrees.publisher, ?_, ?_, agrees.decodable, ?_, agrees.published⟩
  · exact read_decodable s.driver s.update input decodable agrees.phase no_put
  · rw [buffer]
    exact agrees.stored
  · rw [buffer]
    exact agrees.dropped

/-- A decoded packet is published if its first sample's status is good, and otherwise not. -/
theorem handled_contents (config : Config) (clock : Clock) (node : NodeState) (packet : Bytes)
    (first : FTSample) (others : List FTSample) (accepted : Accepts packet)
    (decoded : decodeSampleBatch packet = .ok (first :: others))
    (publisher : node.ftDataPublisher = true) :
    (handleSamples config clock true node first others).2.filterMap contentOf =
      if statusLevelFromBits (firstStatus packet) = .ok then messagesOf config packet else [] := by
  obtain ⟨first', others', decoded', opening, _⟩ := decodeSampleBatch_cons packet accepted
  rw [decoded] at decoded'
  obtain ⟨rfl, rfl⟩ := List.cons.inj (Except.ok.inj decoded')
  have handled := handleSamples_spec config clock true node first others
  have status : first.statusBits = firstStatus packet := by
    rw [opening]
    rfl
  rw [← contents_filter, handled.data, status]
  by_cases healthy : statusLevelFromBits (firstStatus packet) = .ok
  · rw [if_pos ⟨healthy, publisher⟩, if_pos healthy,
      publishSamples_contents config packet first others _ decoded opening]
  · rw [if_neg (fun both => healthy both.1), if_neg healthy, List.filterMap_nil]

theorem agrees_publish (config : Config) (dropped : Nat) (s : System) (log : Log)
    (agrees : Agrees config dropped s log) (clock : Clock) (now : Int) :
    Agrees config dropped (s.publish config clock now) (log.step s (.publish clock now)) := by
  have alive := agrees.alive
  by_cases busy : s.driver.isStreaming = true ∧ s.buffer.queue.items ≠ []
  · obtain ⟨streaming, some_packet⟩ := busy
    obtain ⟨packet, rest, content⟩ := List.exists_cons_of_ne_nil some_packet
    have logged : log.step s (.publish clock now) = { log with taken := log.taken + 1 } :=
      if_pos ⟨alive, streaming, some_packet⟩
    have front := agrees.stored.front packet rest content
    have accepted : Accepts packet := by
      obtain ⟨arrival, member, rfl⟩ := List.mem_map.mp (List.mem_of_getElem? front)
      exact agrees.decodable arrival (List.mem_of_mem_filter member)
    obtain ⟨first, others, decoded, frame, still, items, node, effects⟩ := publish_accepted config s
      clock now alive streaming packet rest content accepted
    have stored := agrees.stored.get packet rest content items
    rw [logged]
    refine ⟨still, frame.publisher.trans agrees.publisher, ?_, stored, agrees.decodable, ?_, ?_⟩
    · rw [frame.update]
      exact agrees.phase
    · rw [frame.dropped]
      exact agrees.dropped
    · rw [effects, List.filterMap_append, agrees.published, published_take log packet front,
        List.flatMap_append, handled_contents config clock s.node packet first others accepted
          decoded agrees.publisher]
      split_ifs
      · rw [List.flatMap_singleton]
      · rfl
  · have logged : log.step s (.publish clock now) = log := if_neg (fun all => busy all.2)
    have idle : s.driver.isStreaming = false ∨ s.buffer.queue.items = [] := by
      by_cases streaming : s.driver.isStreaming = true
      · right
        by_contra some_packet
        exact busy ⟨streaming, some_packet⟩
      · left
        exact Bool.eq_false_iff.mpr streaming
    obtain ⟨frame, still, queue, quiet⟩ := publish_idle config s clock now alive idle
    rw [logged]
    refine ⟨still, frame.publisher.trans agrees.publisher, ?_, ?_, agrees.decodable, ?_, ?_⟩
    · rw [frame.update]
      exact agrees.phase
    · rw [queue]
      exact agrees.stored
    · rw [frame.dropped]
      exact agrees.dropped
    · rw [← contents_filter, quiet, contents_filter]
      exact agrees.published

/-! ### Any interleaving -/

theorem agrees_step (config : Config) (dropped : Nat) (s : System) (log : Log)
    (agrees : Agrees config dropped s log) (action : Action) (decodable : Decodable action) :
    Agrees config dropped (s.step config action) (log.step s action) := by
  cases action with
  | publish clock now => exact agrees_publish config dropped s log agrees clock now
  | update input =>
    by_cases no_put : ∀ packet rest, s.update.phase ≠ .putting packet rest
    · exact agrees_read config dropped s log agrees input decodable no_put
    · push Not at no_put
      obtain ⟨packet, rest, here⟩ := no_put
      exact agrees_put config dropped s log agrees input packet rest here

theorem agrees_trace (config : Config) (dropped : Nat) (actions : List Action) (s : System)
    (log : Log) (agrees : Agrees config dropped s log)
    (decodable : ∀ action ∈ actions, Decodable action) :
    let final := actions.foldl
      (fun state action => (state.1.step config action, state.2.step state.1 action)) (s, log)
    final.1 = s.run config actions ∧ Agrees config dropped final.1 final.2 := by
  induction actions generalizing s log with
  | nil => exact ⟨rfl, agrees⟩
  | cons action later ih =>
    have next := agrees_step config dropped s log agrees action (decodable action List.mem_cons_self)
    exact ih _ _ next (fun other member => decodable other (List.mem_cons_of_mem _ member))

theorem agrees_activate (config : Config) (s : System) (now : Int)
    (phase : PhaseDecodable s.update.phase) :
    Agrees config s.buffer.droppedPacketCount (s.activate now) {} where
  alive := rfl
  publisher := rfl
  phase := phase
  stored := ⟨Nat.le_refl 0, rfl⟩
  decodable := fun _ member => absurd member List.not_mem_nil
  dropped := rfl
  published := rfl

/-- Every datagram that has been put is in one of the four places, and the data topic has carried
the samples of the published ones and nothing else. -/
structure Accounted (config : Config) (dropped : Nat) (s : System) (log : Log) : Prop where
  once : (log.arrivals.map Prod.fst).Perm
    (log.refused ++ log.queued ++ log.suppressed ++ log.published)
  dropped : s.buffer.droppedPacketCount = dropped + log.refused.length
  queued : s.buffer.queue.items = log.queued
  order : log.published.Sublist (log.arrivals.map Prod.fst)
  messages : s.effects.filterMap contentOf = log.published.flatMap (messagesOf config)
  wrenches : (s.effects.flatMap Effect.samples).map WrenchStamped.wrench =
    log.published.flatMap wrenchesOf
  alive : s.publishRaised = none

theorem arrivals_once (log : Log) :
    (log.arrivals.map Prod.fst).Perm
      (log.refused ++ log.queued ++ log.suppressed ++ log.published) := by
  have split : (log.accepted ++ log.refused).Perm (log.arrivals.map Prod.fst) := by
    unfold Log.accepted Log.refused
    rw [← List.map_append]
    exact (List.filter_append_perm _ _).map _
  have consumed : (log.published ++ log.suppressed).Perm log.consumed := by
    unfold Log.published Log.suppressed
    simpa using List.filter_append_perm
      (fun packet => decide (statusLevelFromBits (firstStatus packet) = .ok)) log.consumed
  have accepted : log.consumed ++ log.queued = log.accepted := List.take_append_drop _ _
  apply split.symm.trans
  rw [← accepted, List.append_assoc]
  apply (consumed.symm.append_right _).trans
  apply List.perm_iff_count.mpr
  intro packet
  simp only [List.count_append]
  omega

theorem messages_wrenches (config : Config) (packet : Bytes) :
    (messagesOf config packet).flatMap (fun content => match content with
      | .single wrench => [wrench]
      | .batch _ _ _ wrenches => wrenches) = wrenchesOf packet := by
  unfold messagesOf
  split_ifs
  · rw [List.flatMap_singleton]
  · rw [List.flatMap_map]
    exact List.flatMap_singleton' _

theorem Agrees.accounted {config : Config} {dropped : Nat} {s : System} {log : Log}
    (agrees : Agrees config dropped s log) : Accounted config dropped s log where
  once := arrivals_once log
  dropped := agrees.dropped
  queued := agrees.stored.items
  order := by
    have published : log.published.Sublist log.accepted :=
      List.filter_sublist.trans (List.take_sublist _ _)
    exact published.trans (List.filter_sublist.map _)
  messages := agrees.published
  wrenches := by
    rw [samples_contents, agrees.published, List.flatMap_assoc]
    simp only [messages_wrenches]
  alive := agrees.alive

/-- From an activation on, whatever the order of puts and passes, every datagram is accounted for
once and every sample of a published packet is published once, in the order of arrival. -/
theorem datagrams_accounted (config : Config) (s : System) (now : Int) (actions : List Action)
    (phase : PhaseDecodable s.update.phase)
    (decodable : ∀ action ∈ actions, Decodable action) :
    (trace config (s.activate now) actions).1 = (s.activate now).run config actions ∧
      Accounted config s.buffer.droppedPacketCount (trace config (s.activate now) actions).1
        (trace config (s.activate now) actions).2 := by
  obtain ⟨same, agrees⟩ := agrees_trace config s.buffer.droppedPacketCount actions (s.activate now)
    {} (agrees_activate config s now phase) decodable
  exact ⟨same, agrees.accounted⟩

/-- Two packets, of which the first cannot be published. -/
theorem two_datagrams_accounted :
    let input (arrived : List Datagram) : PassInput :=
      { arrived := arrived, now := 0, reconnected := false, reconnectedAt := 0 }
    let actions : List Action := [
      .update (input [⟨"192.168.0.100", List.replicate 35 0⟩, ⟨"192.168.0.100", steadyPacket 1⟩]),
      .update (input []), .publish { ros := 0, monotonic := 0 } 0, .update (input []),
      .publish { ros := 0, monotonic := 0 } 0]
    (trace steadyConfig (freshSystem.activate 0) actions).1 =
        (freshSystem.activate 0).run steadyConfig actions ∧
      Accounted steadyConfig freshSystem.buffer.droppedPacketCount
        (trace steadyConfig (freshSystem.activate 0) actions).1
        (trace steadyConfig (freshSystem.activate 0) actions).2 := by
  apply datagrams_accounted steadyConfig freshSystem 0
  · trivial
  · intro action member
    simp only [List.mem_cons, List.not_mem_nil, or_false] at member
    rcases member with rfl | rfl | rfl | rfl | rfl
    · intro datagram arrived
      simp only [List.mem_cons, List.not_mem_nil, or_false] at arrived
      rcases arrived with rfl | rfl
      · decide
      · decide
    · exact fun datagram arrived => absurd arrived List.not_mem_nil
    · trivial
    · exact fun datagram arrived => absurd arrived List.not_mem_nil
    · trivial

end SchunkFts.Node.Conservation
