import SchunkFts.Dummy.UdpStream
import SchunkFts.Node.Conservation

/-! From the dummy sensor's stream to the data topic. The network may lose datagrams or reorder them,
but neither doubles nor forges any; the sensor is the only one to send to the port. A packet is
named by its place in the list of all that has been sent. -/

namespace SchunkFts.Whole.DataPath
open SchunkFts.Foundation.Struct SchunkFts.Foundation.Queue SchunkFts.Library.Packet
open SchunkFts.Library.DataBuffer SchunkFts.Library.UpdateLoop
open SchunkFts.Dummy.OutputRate SchunkFts.Dummy.UdpStream
open SchunkFts.Node SchunkFts.Node.PublishLoop SchunkFts.Node.Loops SchunkFts.Node.Conservation

/-- A packet of the sensor: its counts, the rate in force, and the words of its samples. -/
structure Sent where
  state : StreamState
  rate : OutputRateState
  words : Nat → SampleWords

namespace Sent

def data (sent : Sent) : Bytes := datagram sent.state sent.rate.get sent.words

/-- The words as they are read: only a signalling NaN is another word then. -/
def wrenches (sent : Sent) : List Wrench :=
  (List.range sent.rate.get.samplesPerPacket).map (fun index => (sent.words index).wrench.asRead)

/-- What the node is to publish for the packet. -/
def messages (config : Config) (sent : Sent) : List Content :=
  if config.publishSampleBatches then
    [.batch sent.state.counter sent.state.packetId sent.rate.get.samplesPerPacket sent.wrenches]
  else sent.wrenches.map .single

def level (sent : Sent) : Level := statusLevelFromBits (sent.words 0).statusBits

/-! ### What a packet decodes to -/

def samples (sent : Sent) : List (Values sampleFormat) :=
  (List.range sent.rate.get.samplesPerPacket).map (fun index => (sent.words index).values)

theorem samples_length (sent : Sent) : sent.samples.length = sent.rate.get.samplesPerPacket := by
  rw [samples, List.length_map, List.length_range]

theorem data_layout (sent : Sent) :
    sent.data = layout [0xff, 0xff] sent.state.counter (payloadLen sent.rate.get)
      sent.state.packetId sent.samples :=
  datagram_layout sent.state sent.rate.get sent.words

theorem data_length (sent : Sent) :
    sent.data.length = 7 + 28 * sent.rate.get.samplesPerPacket := by
  rw [data_layout, layout_length _ rfl, samples_length]

theorem data_payload (sent : Sent) : payloadField sent.data = payloadLen sent.rate.get := by
  rw [data_layout, layout_payload _ rfl]

theorem sampleCount_data (sent : Sent) :
    sampleCount sent.data = sent.rate.get.samplesPerPacket := by
  have packaged := payloadLen_packaged sent.rate
  rw [sampleCount, data_payload]
  rcases sent.rate.samplesPerPacket with one | sixteen
  · have single : payloadLen sent.rate.get ≠ 449 := by
      intro same
      have count := packaged.mp same
      omega
    rw [if_neg single, one]
  · rw [if_pos (packaged.mpr sixteen), sixteen]

theorem accepted (sent : Sent) : Accepts sent.data := by
  have length := sent.data_length
  have packaged := payloadLen_packaged sent.rate
  rcases sent.rate.samplesPerPacket with one | sixteen
  · left
    refine ⟨by omega, ?_⟩
    rw [data_payload]
    intro same
    have count := packaged.mp same
    omega
  · right
    refine ⟨?_, by omega⟩
    rw [data_payload]
    exact packaged.mpr sixteen

theorem sampleAt_data (sent : Sent) (index : Nat)
    (inside : index < sent.rate.get.samplesPerPacket) :
    sampleAt sent.data index = (sent.words index).asRead.values := by
  rw [data_layout, layout_sample _ rfl _ _ _ sent.samples index (by rw [samples_length]; exact inside)]
  simp only [samples, List.getElem_map, List.getElem_range, values_asRead]

theorem samplesPerPacket_pos (sent : Sent) : 0 < sent.rate.get.samplesPerPacket := by
  rcases sent.rate.samplesPerPacket with one | sixteen <;> omega

theorem level_data (sent : Sent) : statusLevelFromBits (firstStatus sent.data) = sent.level := by
  rw [firstStatus, sampleAt_data sent 0 sent.samplesPerPacket_pos]
  rfl

theorem wrenchesOf_data (sent : Sent) : wrenchesOf sent.data = sent.wrenches := by
  rw [wrenchesOf, decodeSampleBatch_ok sent.data sent.accepted, sampleCount_data]
  simp only [Except.toOption, Option.getD_some, List.map_map]
  apply List.map_congr_left
  intro index inside
  change wrenchOf (sampleAt sent.data index) = _
  rw [sampleAt_data sent index (List.mem_range.mp inside)]
  rfl

theorem messagesOf_data (config : Config) (sent : Sent) :
    messagesOf config sent.data = sent.messages config := by
  have counter : counterField sent.data = sent.state.counter := by
    rw [data_layout, layout_counter _ rfl]
  have packetId : sent.data.getD 6 0 = sent.state.packetId := by
    rw [data_layout, layout_id _ rfl]
  rw [messagesOf, messages, counter, packetId, sampleCount_data, wrenchesOf_data]

/-- `recvfrom` cuts nothing off. -/
theorem data_received (sent : Sent) : sent.data.take 8192 = sent.data := by
  have length := sent.data_length
  apply List.take_of_length_le
  rcases sent.rate.samplesPerPacket with one | sixteen <;> omega

end Sent

/-- `sent` is everything the sensor has sent; the numbers of the packets under way, of those lost,
of those that have reached the socket in this order, and of those still to be read from it. -/
structure Pipeline where
  address : String
  sensor : StreamState
  rate : OutputRateState
  sent : List Sent
  flight : List Nat
  lost : List Nat
  arrived : List Nat
  unread : List Nat
  receiver : System
  log : Log

inductive Action where
  | request (value : Byte)
  | restart
  | emit (words : Nat → SampleWords)
  | lose (position : Nat)
  | arrive (position : Nat)
  | update (now : Int) (reconnected : Bool) (reconnectedAt : Int)
  | publish (clock : Clock) (now : Int)

/-- The next step of the update loop drains the socket. -/
def reads (receiver : System) : Bool :=
  match receiver.update.phase with
  | .waiting =>
      (receiver.driver.isStreaming ||
        (receiver.update.connectionLost && receiver.driver.autoReconnect)) &&
        receiver.driver.stream.isOpen
  | _ => false

/-- The packets that the update loop has read but not put yet. -/
def inHand : Phase → List Bytes
  | .putting packet rest => packet :: rest
  | _ => []

namespace Pipeline

def start (address : String) (sensor : StreamState) (rate : OutputRateState) (receiver : System) :
    Pipeline where
  address := address
  sensor := sensor
  rate := rate
  sent := []
  flight := []
  lost := []
  arrived := []
  unread := []
  receiver := receiver
  log := {}

/-- The bytes of the packet with that number. -/
def data (s : Pipeline) (number : Nat) : Bytes := ((s.sent[number]?).map Sent.data).getD []

def messages (config : Config) (s : Pipeline) (number : Nat) : List Content :=
  ((s.sent[number]?).map (Sent.messages config)).getD []

def input (s : Pipeline) (now : Int) (reconnected : Bool) (reconnectedAt : Int) : PassInput where
  arrived := s.unread.map (fun number => ⟨s.address, s.data number⟩)
  now := now
  reconnected := reconnected
  reconnectedAt := reconnectedAt

/-- A datagram is lost if no socket is bound. -/
def land (s : Pipeline) (number : Nat) : Pipeline :=
  if s.receiver.driver.stream.isOpen then
    { s with arrived := s.arrived ++ [number], unread := s.unread ++ [number] }
  else { s with lost := s.lost ++ [number] }

def step (config : Config) (s : Pipeline) : Action → Pipeline
  | .request value => { s with rate := (s.rate.setEnum value).1 }
  | .restart => { s with sensor := {}, rate := .new }
  | .emit words =>
      { s with
        sensor := s.sensor.next
        sent := s.sent ++ [⟨s.sensor, s.rate, words⟩]
        flight := s.flight ++ [s.sent.length] }
  | .lose position =>
      match s.flight[position]? with
      | some number =>
          { s with flight := s.flight.eraseIdx position, lost := s.lost ++ [number] }
      | none => s
  | .arrive position =>
      match s.flight[position]? with
      | some number => { s with flight := s.flight.eraseIdx position }.land number
      | none => s
  | .update now reconnected reconnectedAt =>
      let action := .update (s.input now reconnected reconnectedAt)
      { s with
        unread := if reads s.receiver then [] else s.unread
        receiver := s.receiver.step config action
        log := s.log.step s.receiver action }
  | .publish clock now =>
      { s with
        receiver := s.receiver.step config (.publish clock now)
        log := s.log.step s.receiver (.publish clock now) }

def run (config : Config) (s : Pipeline) (actions : List Action) : Pipeline :=
  Foundation.Run.run (step config) s actions

end Pipeline

/-! ### What the socket hands out -/

theorem readAll_sourceIp (stream : Stream) (arrived : List Datagram) :
    (stream.readAll arrived).1.sourceIp = stream.sourceIp ∧
      (stream.readAll arrived).1.isOpen = stream.isOpen := by
  induction arrived generalizing stream with
  | nil => exact ⟨rfl, rfl⟩
  | cons datagram later ih =>
    have same : (stream.receive datagram).1.sourceIp = stream.sourceIp ∧
        (stream.receive datagram).1.isOpen = stream.isOpen := by
      unfold Stream.receive
      split_ifs <;> exact ⟨rfl, rfl⟩
    obtain ⟨source, opened⟩ := ih (stream.receive datagram).1
    exact ⟨source.trans same.1, opened.trans same.2⟩

theorem acceptsSource_of_sourceIp (stream next : Stream) (address : String)
    (same : next.sourceIp = stream.sourceIp) :
    next.acceptsSource address = stream.acceptsSource address := by
  rw [Stream.acceptsSource, Stream.acceptsSource, same]

theorem readAll_accepted (stream : Stream) (address : String) (data : Nat → Bytes)
    (source : stream.acceptsSource address = true) (numbers : List Nat)
    (whole : ∀ number ∈ numbers, (data number).take 8192 = data number) :
    (stream.readAll (numbers.map (fun number => ⟨address, data number⟩))).2 = numbers.map data := by
  induction numbers generalizing stream with
  | nil => rfl
  | cons number later ih =>
    have received : stream.receive ⟨address, data number⟩ =
        ({ stream with
            sourceAddresses := stream.sourceAddresses.insert address
            acceptedPacketCount := stream.acceptedPacketCount + 1 }, [data number]) := by
      simp only [Stream.receive, source, if_true, whole number List.mem_cons_self]
    rw [List.map_cons, Stream.readAll, received, List.map_cons]
    refine congrArg (data number :: ·) (ih _ source ?_)
    exact fun other member => whole other (List.mem_cons_of_mem number member)

theorem inHand_putRest (rest : List Bytes) : inHand (.putRest rest) = rest := by
  cases rest <;> rfl

/-- The stream object changes only in its counts. -/
theorem updateStep_stream (driver : Driver) (loop : UpdateState) (input : PassInput) :
    (updateStep driver loop input).1.stream.sourceIp = driver.stream.sourceIp ∧
      (updateStep driver loop input).1.stream.isOpen = driver.stream.isOpen := by
  unfold updateStep
  split
  next =>
    have read : (driver.stream.read input.arrived).1.sourceIp = driver.stream.sourceIp ∧
        (driver.stream.read input.arrived).1.isOpen = driver.stream.isOpen := by
      unfold Stream.read
      split_ifs
      · exact readAll_sourceIp driver.stream input.arrived
      · exact ⟨rfl, rfl⟩
    rcases reading : driver.stream.read input.arrived with ⟨stream, packets⟩
    rw [reading] at read
    simp only [readPackets, reading]
    split_ifs
    · cases packets with
      | nil =>
        simp only [missPackets]
        split_ifs <;> exact read
      | cons packet rest => exact read
    · exact ⟨rfl, rfl⟩
  next packet rest _ =>
    by_cases short : packet.length < 4
    · rw [putPacket_short driver loop packet rest short]
      exact ⟨rfl, rfl⟩
    · rw [putPacket_long driver loop packet rest (by omega)]
      exact ⟨rfl, rfl⟩
  next => exact ⟨rfl, rfl⟩
  next => exact ⟨rfl, rfl⟩

/-- A read takes all that is in the socket, and any other step at the condition nothing. -/
theorem readPackets_inHand (receiver : System) (input : PassInput)
    (here : receiver.update.phase = .waiting) :
    inHand (readPackets receiver.driver receiver.update input).2.phase =
      if reads receiver then (receiver.driver.stream.readAll input.arrived).2 else [] := by
  have meaning : reads receiver = true ↔
      (receiver.driver.isStreaming = true ∨
        (receiver.update.connectionLost = true ∧ receiver.driver.autoReconnect = true)) ∧
      receiver.driver.stream.isOpen = true := by
    simp only [reads, here, Bool.and_eq_true, Bool.or_eq_true]
  rcases reading : receiver.driver.stream.read input.arrived with ⟨stream, packets⟩
  simp only [readPackets, reading]
  by_cases on : receiver.driver.isStreaming = true ∨
      (receiver.update.connectionLost = true ∧ receiver.driver.autoReconnect = true)
  · have found : packets =
        if reads receiver then (receiver.driver.stream.readAll input.arrived).2 else [] := by
      rw [Stream.read] at reading
      by_cases opened : receiver.driver.stream.isOpen = true
      · rw [if_pos opened] at reading
        rw [if_pos (meaning.mpr ⟨on, opened⟩), reading]
      · rw [if_neg opened] at reading
        rw [if_neg (fun both => opened (meaning.mp both).2)]
        exact (Prod.mk.inj reading).2.symm
    rw [if_pos on, ← found]
    cases packets with
    | nil =>
      simp only [missPackets]
      split_ifs <;> simp only [here, inHand]
    | cons packet rest => rfl
  · rw [if_neg on, if_neg (fun both => on (meaning.mp both).1)]
    rfl

/-! ### The packets on their way -/

theorem data_of_sent {s : Pipeline} {number : Nat} {sent : Sent}
    (present : s.sent[number]? = some sent) : s.data number = sent.data := by
  rw [Pipeline.data, present, Option.map_some, Option.getD_some]

/-- What has been sent keeps its bytes. -/
theorem data_append (s t : Pipeline) (later : List Sent) (grown : t.sent = s.sent ++ later)
    (number : Nat) (old : number < s.sent.length) : t.data number = s.data number := by
  rw [Pipeline.data, Pipeline.data, grown, List.getElem?_append_left old]

/-- Every packet sent is in the network, lost, or has arrived; those that have arrived have been
put, are in the hand of the update loop, or are unread, in this order. -/
structure Sound (config : Config) (dropped : Nat) (s : Pipeline) : Prop where
  agrees : Agrees config dropped s.receiver s.log
  source : s.receiver.driver.stream.acceptsSource s.address = true
  places : (s.flight ++ s.lost ++ s.arrived).Perm (List.range s.sent.length)
  handed : ∃ handed held, s.arrived = handed ++ held ++ s.unread ∧
    s.log.arrivals.map Prod.fst = handed.map s.data ∧
    inHand s.receiver.update.phase = held.map s.data

theorem Sound.sent {config : Config} {dropped : Nat} {s : Pipeline}
    (sound : Sound config dropped s) (number : Nat) (arrived : number ∈ s.arrived) :
    ∃ sent, s.sent[number]? = some sent := by
  have listed : number ∈ List.range s.sent.length :=
    sound.places.mem_iff.mp (List.mem_append_right _ arrived)
  exact ⟨_, List.getElem?_eq_getElem (List.mem_range.mp listed)⟩

theorem Sound.unread_arrived {config : Config} {dropped : Nat} {s : Pipeline}
    (sound : Sound config dropped s) (number : Nat) (unread : number ∈ s.unread) :
    number ∈ s.arrived := by
  obtain ⟨handed, held, arrived, _⟩ := sound.handed
  rw [arrived]
  exact List.mem_append_right _ unread

theorem Sound.map_data {config : Config} {dropped : Nat} {s t : Pipeline}
    (sound : Sound config dropped s) (later : List Sent) (grown : t.sent = s.sent ++ later)
    (numbers : List Nat) (arrived : ∀ number ∈ numbers, number ∈ s.arrived) :
    numbers.map t.data = numbers.map s.data := by
  apply List.map_congr_left
  intro number member
  obtain ⟨sent, present⟩ := sound.sent number (arrived number member)
  exact data_append s t later grown number (List.getElem?_eq_some_iff.mp present).1

theorem sound_emit (config : Config) (dropped : Nat) (s : Pipeline)
    (sound : Sound config dropped s) (words : Nat → SampleWords) :
    Sound config dropped (s.step config (.emit words)) := by
  refine ⟨sound.agrees, sound.source, ?_, ?_⟩
  · change ((s.flight ++ [s.sent.length]) ++ s.lost ++ s.arrived).Perm
      (List.range (s.sent ++ [_]).length)
    rw [List.length_append, List.length_singleton, List.range_succ]
    have places := List.perm_iff_count.mp sound.places
    apply List.perm_iff_count.mpr
    intro number
    have here := places number
    simp only [List.count_append] at here ⊢
    omega
  · obtain ⟨handed, held, arrived, logged, hand⟩ := sound.handed
    refine ⟨handed, held, arrived, ?_, ?_⟩
    · rw [sound.map_data [⟨s.sensor, s.rate, words⟩] rfl handed
        (fun number member => by simp [arrived, member])]
      exact logged
    · rw [sound.map_data [⟨s.sensor, s.rate, words⟩] rfl held
        (fun number member => by simp [arrived, member])]
      exact hand

theorem count_eraseIdx (flight : List Nat) (position number other : Nat)
    (found : flight[position]? = some number) :
    flight.count other = (flight.eraseIdx position).count other + [number].count other := by
  obtain ⟨inside, same⟩ := List.getElem?_eq_some_iff.mp found
  have moved := List.getElem_cons_eraseIdx_perm inside
  rw [same] at moved
  have counts := List.perm_iff_count.mp moved other
  rw [← List.singleton_append, List.count_append] at counts
  omega

/-- A packet that leaves the network is lost or has arrived. -/
theorem places_leave (flight lost arrived : List Nat) (total position number : Nat)
    (places : (flight ++ lost ++ arrived).Perm (List.range total))
    (found : flight[position]? = some number) :
    (flight.eraseIdx position ++ (lost ++ [number]) ++ arrived).Perm (List.range total) ∧
      (flight.eraseIdx position ++ lost ++ (arrived ++ [number])).Perm (List.range total) := by
  have counts := List.perm_iff_count.mp places
  constructor
  · apply List.perm_iff_count.mpr
    intro other
    have here := counts other
    have moved := count_eraseIdx flight position number other found
    simp only [List.count_append] at here ⊢
    omega
  · apply List.perm_iff_count.mpr
    intro other
    have here := counts other
    have moved := count_eraseIdx flight position number other found
    simp only [List.count_append] at here ⊢
    omega

theorem sound_lose (config : Config) (dropped : Nat) (s : Pipeline)
    (sound : Sound config dropped s) (position : Nat) :
    Sound config dropped (s.step config (.lose position)) := by
  cases found : s.flight[position]? with
  | none =>
    simp only [Pipeline.step, found]
    exact sound
  | some number =>
    simp only [Pipeline.step, found]
    have places := places_leave s.flight s.lost s.arrived _ position number sound.places found
    exact ⟨sound.agrees, sound.source, places.1, sound.handed⟩

theorem sound_arrive (config : Config) (dropped : Nat) (s : Pipeline)
    (sound : Sound config dropped s) (position : Nat) :
    Sound config dropped (s.step config (.arrive position)) := by
  cases found : s.flight[position]? with
  | none =>
    simp only [Pipeline.step, found]
    exact sound
  | some number =>
    have places := places_leave s.flight s.lost s.arrived _ position number sound.places found
    obtain ⟨handed, held, arrived, logged, hand⟩ := sound.handed
    simp only [Pipeline.step, found, Pipeline.land]
    split_ifs
    · refine ⟨sound.agrees, sound.source, places.2, handed, held, ?_, logged, hand⟩
      change s.arrived ++ [number] = _
      rw [arrived, List.append_assoc _ s.unread]
    · exact ⟨sound.agrees, sound.source, places.1, handed, held, arrived, logged, hand⟩

theorem input_decodable {config : Config} {dropped : Nat} {s : Pipeline}
    (sound : Sound config dropped s) (now : Int) (reconnected : Bool) (reconnectedAt : Int) :
    Decodable (.update (s.input now reconnected reconnectedAt)) := by
  intro datagram member
  obtain ⟨number, unread, rfl⟩ := List.mem_map.mp member
  obtain ⟨sent, present⟩ := sound.sent number (sound.unread_arrived number unread)
  rw [data_of_sent present, sent.data_received]
  exact sent.accepted

/-- What an update step moves along: the packets read, or the packet put. -/
theorem handed_update (config : Config) (dropped : Nat) (s : Pipeline)
    (sound : Sound config dropped s) (input : PassInput)
    (socket : input.arrived = s.unread.map (fun number => ⟨s.address, s.data number⟩)) :
    ∃ handed held, s.arrived = handed ++ held ++ (if reads s.receiver then [] else s.unread) ∧
      (s.log.step s.receiver (.update input)).arrivals.map Prod.fst = handed.map s.data ∧
      inHand (updateStep s.receiver.driver s.receiver.update input).2.phase =
        held.map s.data := by
  obtain ⟨handed, held, arrived, logged, hand⟩ := sound.handed
  cases here : s.receiver.update.phase with
  | waiting =>
    rw [here] at hand
    obtain rfl : held = [] := List.map_eq_nil_iff.mp hand.symm
    rw [List.append_nil] at arrived
    have whole : ∀ number ∈ s.unread, (s.data number).take 8192 = s.data number := by
      intro number unread
      obtain ⟨sent, present⟩ := sound.sent number (sound.unread_arrived number unread)
      rw [data_of_sent present]
      exact sent.data_received
    have taken := readPackets_inHand s.receiver input here
    rw [socket, readAll_accepted _ s.address s.data sound.source s.unread whole] at taken
    simp only [Log.step, updateStep, here, taken]
    by_cases reading : reads s.receiver = true
    · refine ⟨handed, s.unread, ?_, logged, by rw [if_pos reading]⟩
      rw [if_pos reading, List.append_nil]
      exact arrived
    · refine ⟨handed, [], ?_, logged, by rw [if_neg reading]; rfl⟩
      rw [if_neg reading, List.append_nil]
      exact arrived
  | putting packet rest =>
    rw [here] at hand
    have idle : reads s.receiver = false := by simp only [reads, here]
    cases held with
    | nil => cases hand
    | cons number later =>
      obtain ⟨first, others⟩ := List.cons.inj hand
      obtain ⟨sent, present⟩ := sound.sent number (by simp [arrived])
      have long : ¬packet.length < 4 := by
        have least := sent.accepted.length_le
        rw [← data_of_sent present, ← first] at least
        omega
      refine ⟨handed ++ [number], later, ?_, ?_, ?_⟩
      · simpa [idle] using arrived
      · simp only [Log.step, here, if_neg long, List.map_append, logged, List.map_cons,
          List.map_nil]
        rw [first]
      · simp only [updateStep, here]
        rw [(putPacket_spec s.receiver.driver s.receiver.update packet rest).2.2.2, inHand_putRest]
        exact others
  | finished =>
    rw [here] at hand
    refine ⟨handed, held, ?_, ?_, ?_⟩
    · simpa [reads, here] using arrived
    · simpa only [Log.step, here] using logged
    · simpa only [updateStep, here] using hand
  | raised error =>
    rw [here] at hand
    refine ⟨handed, held, ?_, ?_, ?_⟩
    · simpa [reads, here] using arrived
    · simpa only [Log.step, here] using logged
    · simpa only [updateStep, here] using hand

theorem sound_update (config : Config) (dropped : Nat) (s : Pipeline)
    (sound : Sound config dropped s) (now : Int) (reconnected : Bool) (reconnectedAt : Int) :
    Sound config dropped (s.step config (.update now reconnected reconnectedAt)) := by
  refine ⟨?_, ?_, sound.places, ?_⟩
  · exact agrees_step config dropped s.receiver s.log sound.agrees _
      (input_decodable sound now reconnected reconnectedAt)
  · have stream := updateStep_stream s.receiver.driver s.receiver.update
      (s.input now reconnected reconnectedAt)
    exact (acceptsSource_of_sourceIp _ _ s.address stream.1).trans sound.source
  · exact handed_update config dropped s sound (s.input now reconnected reconnectedAt) rfl

/-- A pass of the publish loop touches neither the stream nor what is on its way. -/
theorem publish_stream (config : Config) (receiver : System) (clock : Clock) (now : Int) :
    (receiver.publish config clock now).driver.stream = receiver.driver.stream ∧
      (receiver.publish config clock now).update = receiver.update := by
  have sampled : (receiver.driver.sampleBatch now).1.stream = receiver.driver.stream := by
    unfold Driver.sampleBatch
    split_ifs <;> rfl
  unfold System.publish
  split
  next => exact ⟨rfl, rfl⟩
  next =>
    rcases outcome : receiver.driver.sampleBatch now with ⟨driver, error | samples⟩
    · rw [outcome] at sampled
      exact ⟨sampled, rfl⟩
    · rw [outcome] at sampled
      exact ⟨sampled, rfl⟩

theorem sound_publish (config : Config) (dropped : Nat) (s : Pipeline)
    (sound : Sound config dropped s) (clock : Clock) (now : Int) :
    Sound config dropped (s.step config (.publish clock now)) := by
  obtain ⟨stream, update⟩ := publish_stream config s.receiver clock now
  obtain ⟨handed, held, arrived, logged, hand⟩ := sound.handed
  refine ⟨agrees_publish config dropped s.receiver s.log sound.agrees clock now, ?_, sound.places,
    handed, held, arrived, ?_, ?_⟩
  · exact (acceptsSource_of_sourceIp _ _ s.address (congrArg Stream.sourceIp stream)).trans
      sound.source
  · have kept : (s.log.step s.receiver (.publish clock now)).arrivals = s.log.arrivals := by
      simp only [Log.step]
      split_ifs <;> rfl
    exact (congrArg (List.map Prod.fst) kept).trans logged
  · exact (congrArg (fun loop : UpdateState => inHand loop.phase) update).trans hand

theorem sound_step (config : Config) (dropped : Nat) (s : Pipeline) (action : Action)
    (sound : Sound config dropped s) : Sound config dropped (s.step config action) := by
  cases action with
  | request value => exact ⟨sound.agrees, sound.source, sound.places, sound.handed⟩
  | restart => exact ⟨sound.agrees, sound.source, sound.places, sound.handed⟩
  | emit words => exact sound_emit config dropped s sound words
  | lose position => exact sound_lose config dropped s sound position
  | arrive position => exact sound_arrive config dropped s sound position
  | update now reconnected reconnectedAt =>
    exact sound_update config dropped s sound now reconnected reconnectedAt
  | publish clock now => exact sound_publish config dropped s sound clock now

/-! ### Where every packet is -/

/-- The packets that have come through the network and the socket, by number. -/
structure Places where
  held : List Nat
  refused : List Nat
  queued : List Nat
  suppressed : List Nat
  published : List Nat
  deriving DecidableEq, Repr

/-- Of the packets put, with whether each was stored, so many of the stored ones are consumed. -/
def placesOf (held : List Nat) (numbered : List (Nat × Bool)) (taken : Nat)
    (level : Nat → Level) : Places :=
  let accepted := (numbered.filter (fun arrival => arrival.2)).map Prod.fst
  { held := held
    refused := (numbered.filter (fun arrival => !arrival.2)).map Prod.fst
    queued := accepted.drop taken
    suppressed := (accepted.take taken).filter (fun number => ¬level number = .ok)
    published := (accepted.take taken).filter (fun number => level number = .ok) }

namespace Pipeline

def level (s : Pipeline) (number : Nat) : Level := statusLevelFromBits (firstStatus (s.data number))

/-- The packets that have been put, and whether the buffer stored them. -/
def numbered (s : Pipeline) : List (Nat × Bool) :=
  (s.arrived.take s.log.arrivals.length).zip (s.log.arrivals.map Prod.snd)

def held (s : Pipeline) : List Nat :=
  (s.arrived.drop s.log.arrivals.length).take (inHand s.receiver.update.phase).length

def places (s : Pipeline) : Places := placesOf s.held s.numbered s.log.taken s.level

end Pipeline

/-- Every packet sent is in exactly one place, and the data topic has carried the words of the
published ones, in the order of their arrival, and nothing else. -/
structure Accounted (config : Config) (dropped : Nat) (s : Pipeline) : Prop where
  once : (s.flight ++ s.lost ++ s.unread ++ s.places.held ++ s.places.refused ++ s.places.queued ++
    s.places.suppressed ++ s.places.published).Perm (List.range s.sent.length)
  order : s.places.published.Sublist s.arrived
  held : inHand s.receiver.update.phase = s.places.held.map s.data
  queued : s.receiver.buffer.queue.items = s.places.queued.map s.data
  dropped : s.receiver.buffer.droppedPacketCount = dropped + s.places.refused.length
  good : ∀ number ∈ s.places.published, ∃ sent, s.sent[number]? = some sent ∧ sent.level = .ok
  bad : ∀ number ∈ s.places.suppressed, ∃ sent, s.sent[number]? = some sent ∧ sent.level ≠ .ok
  messages : s.receiver.effects.filterMap contentOf =
    s.places.published.flatMap (s.messages config)
  alive : s.receiver.publishRaised = none

section Numbered
variable (data : Nat → Bytes) (numbered : List (Nat × Bool)) (held : List Nat) (taken : Nat)

/-- The log of the bytes of numbered packets. -/
def logOf : Log where
  arrivals := numbered.map (fun arrival => (data arrival.1, arrival.2))
  taken := taken

theorem logOf_accepted : (logOf data numbered taken).accepted =
    ((numbered.filter (fun arrival => arrival.2)).map Prod.fst).map data := by
  simp only [logOf, Log.accepted, List.filter_map, List.map_map]
  rfl

theorem logOf_refused (level : Nat → Level) : (logOf data numbered taken).refused =
    (placesOf held numbered taken level).refused.map data := by
  simp only [logOf, Log.refused, placesOf, List.filter_map, List.map_map]
  rfl

theorem logOf_queued (level : Nat → Level) : (logOf data numbered taken).queued =
    (placesOf held numbered taken level).queued.map data := by
  rw [Log.queued, logOf_accepted, placesOf, List.map_drop]
  rfl

theorem logOf_published : (logOf data numbered taken).published =
    (placesOf held numbered taken
      (fun number => statusLevelFromBits (firstStatus (data number)))).published.map data := by
  rw [Log.published, Log.consumed, logOf_accepted, placesOf, ← List.map_take, List.filter_map]
  rfl

theorem placesOf_once (level : Nat → Level) :
    ((placesOf held numbered taken level).refused ++ (placesOf held numbered taken level).queued ++
      (placesOf held numbered taken level).suppressed ++
      (placesOf held numbered taken level).published).Perm (numbered.map Prod.fst) := by
  obtain ⟨accepted, same⟩ :
    ∃ list, list = (numbered.filter (fun arrival => arrival.2)).map Prod.fst := ⟨_, rfl⟩
  have split : (accepted ++ (numbered.filter (fun arrival => !arrival.2)).map Prod.fst).Perm
      (numbered.map Prod.fst) := by
    rw [same, ← List.map_append]
    exact (List.filter_append_perm _ _).map _
  have consumed : ((accepted.take taken).filter (fun number => level number = .ok) ++
      (accepted.take taken).filter (fun number => ¬level number = .ok)).Perm
        (accepted.take taken) := by
    simpa using List.filter_append_perm (fun number => decide (level number = .ok))
      (accepted.take taken)
  have whole : accepted.take taken ++ accepted.drop taken = accepted := List.take_append_drop _ _
  apply List.perm_iff_count.mpr
  intro number
  have first := List.perm_iff_count.mp split number
  have second := List.perm_iff_count.mp consumed number
  have third := congrArg (List.count number) whole
  simp only [List.count_append] at first second third ⊢
  simp only [placesOf, ← same]
  omega

theorem placesOf_order (level : Nat → Level) :
    (placesOf held numbered taken level).published.Sublist (numbered.map Prod.fst) := by
  apply List.filter_sublist.trans
  apply (List.take_sublist _ _).trans
  exact List.filter_sublist.map _

end Numbered

/-- The log of a sound state is the log of its numbered packets. -/
theorem Sound.numbered {config : Config} {dropped : Nat} {s : Pipeline}
    (sound : Sound config dropped s) :
    s.arrived = s.numbered.map Prod.fst ++ s.held ++ s.unread ∧
      s.log = logOf s.data s.numbered s.log.taken ∧
      inHand s.receiver.update.phase = s.held.map s.data := by
  obtain ⟨handed, held, arrived, logged, hand⟩ := sound.handed
  have count : s.log.arrivals.length = handed.length := by
    have same := congrArg List.length logged
    rwa [List.length_map, List.length_map] at same
  have handed_same : s.arrived.take s.log.arrivals.length = handed := by
    rw [arrived, count, List.append_assoc, List.take_left' rfl]
  have held_same : s.held = held := by
    rw [Pipeline.held, arrived, count, hand, List.append_assoc, List.drop_left' rfl,
      List.take_left' (List.length_map _).symm]
  have first : s.numbered.map Prod.fst = handed := by
    rw [Pipeline.numbered, handed_same]
    apply List.map_fst_zip
    rw [List.length_map, count]
  have log : s.log.arrivals = s.numbered.map (fun arrival => (s.data arrival.1, arrival.2)) := by
    have zipped : s.log.arrivals =
        (s.log.arrivals.map Prod.fst).zip (s.log.arrivals.map Prod.snd) := List.zip_of_prod rfl rfl
    conv_lhs => rw [zipped, logged]
    rw [Pipeline.numbered, handed_same, List.zip_map_left]
    rfl
  refine ⟨?_, ?_, ?_⟩
  · rw [first, held_same]
    exact arrived
  · rw [logOf, ← log]
  · rw [held_same]
    exact hand

theorem Sound.known {config : Config} {dropped : Nat} {s : Pipeline}
    (sound : Sound config dropped s) (number : Nat) (arrived : number ∈ s.arrived) :
    ∃ sent, s.sent[number]? = some sent ∧ s.level number = sent.level := by
  obtain ⟨sent, present⟩ := sound.sent number arrived
  refine ⟨sent, present, ?_⟩
  rw [Pipeline.level, data_of_sent present, sent.level_data]

theorem Sound.accounted {config : Config} {dropped : Nat} {s : Pipeline}
    (sound : Sound config dropped s) : Accounted config dropped s := by
  obtain ⟨arrived, log, hand⟩ := sound.numbered
  have once : (s.places.refused ++ s.places.queued ++ s.places.suppressed ++
      s.places.published).Perm (s.numbered.map Prod.fst) :=
    placesOf_once s.numbered s.held s.log.taken s.level
  have order : s.places.published.Sublist (s.numbered.map Prod.fst) :=
    placesOf_order s.numbered s.held s.log.taken s.level
  have known : ∀ number ∈ s.numbered.map Prod.fst,
      ∃ sent, s.sent[number]? = some sent ∧ s.level number = sent.level := by
    intro number member
    exact sound.known number (by rw [arrived]; simp only [List.mem_append, member, true_or])
  have published : s.log.published = s.places.published.map s.data := by
    conv_lhs => rw [log]
    exact logOf_published s.data s.numbered s.held s.log.taken
  refine ⟨?_, ?_, hand, ?_, ?_, ?_, ?_, ?_, sound.agrees.alive⟩
  · apply List.Perm.trans ?_ sound.places
    rw [arrived]
    have counts := List.perm_iff_count.mp once
    apply List.perm_iff_count.mpr
    intro number
    have here := counts number
    have held : s.places.held = s.held := rfl
    simp only [List.count_append, held] at here ⊢
    omega
  · rw [arrived, List.append_assoc]
    exact order.trans (List.sublist_append_left _ _)
  · rw [sound.agrees.stored.items]
    change s.log.queued = _
    conv_lhs => rw [log]
    exact logOf_queued s.data s.numbered s.held s.log.taken s.level
  · have refused : s.log.refused = s.places.refused.map s.data := by
      conv_lhs => rw [log]
      exact logOf_refused s.data s.numbered s.held s.log.taken s.level
    rw [sound.agrees.dropped, refused, List.length_map]
  · intro number member
    obtain ⟨sent, present, same⟩ := known number (order.subset member)
    refine ⟨sent, present, ?_⟩
    rw [← same]
    exact of_decide_eq_true (List.mem_filter.mp member).2
  · intro number member
    have listed : number ∈ s.numbered.map Prod.fst := by
      apply once.subset
      simp only [List.mem_append, member, or_true, true_or]
    obtain ⟨sent, present, same⟩ := known number listed
    refine ⟨sent, present, ?_⟩
    rw [← same]
    exact of_decide_eq_true (List.mem_filter.mp member).2
  · rw [sound.agrees.published, published, List.flatMap_map]
    apply List.flatMap_congr
    intro number member
    obtain ⟨sent, present, _⟩ := known number (order.subset member)
    rw [data_of_sent present, sent.messagesOf_data, Pipeline.messages, present, Option.map_some,
      Option.getD_some]

theorem sound_start (config : Config) (address : String) (sensor : StreamState)
    (rate : OutputRateState) (receiver : System) (now : Int)
    (accepts : receiver.driver.stream.acceptsSource address = true)
    (idle : inHand receiver.update.phase = []) :
    Sound config receiver.buffer.droppedPacketCount
      (Pipeline.start address sensor rate (receiver.activate now)) where
  agrees := by
    apply agrees_activate config receiver now
    cases here : receiver.update.phase with
    | putting packet rest =>
      rw [here] at idle
      cases idle
    | _ => trivial
  source := accepts
  places := List.Perm.refl []
  handed := ⟨[], [], rfl, rfl, idle⟩

/-- From an activation on, whatever the network does and however the sensor, the update loop and the
publish loop take turns, every packet of the sensor is accounted for, down to the words it was
written from. -/
theorem packets_accounted (config : Config) (address : String) (sensor : StreamState)
    (rate : OutputRateState) (receiver : System) (now : Int)
    (accepts : receiver.driver.stream.acceptsSource address = true)
    (idle : inHand receiver.update.phase = []) (actions : List Action) :
    Accounted config receiver.buffer.droppedPacketCount
      ((Pipeline.start address sensor rate (receiver.activate now)).run config actions) := by
  apply Sound.accounted
  exact Foundation.Run.run_always (Pipeline.step config)
    (Sound config receiver.buffer.droppedPacketCount)
    (fun s action => sound_step config receiver.buffer.droppedPacketCount s action) actions _
    (sound_start config address sensor rate receiver now accepts idle)

/-- Three packets, the second of which overtakes the first while the third is lost. -/
def reordered : List Action :=
  let words : Nat → SampleWords := fun _ => { wrench := noForce }
  [.emit words, .emit words, .emit words, .arrive 1, .arrive 0, .lose 0, .update 0 false 0,
    .update 0 false 0, .update 0 false 0, .publish { ros := 0, monotonic := 0 } 0]

theorem reordered_packets_accounted :
    Accounted StampOrder.steadyConfig Survival.freshSystem.buffer.droppedPacketCount
      ((Pipeline.start "192.168.0.100" {} .new (Survival.freshSystem.activate 0)).run
        StampOrder.steadyConfig reordered) :=
  packets_accounted StampOrder.steadyConfig "192.168.0.100" {} .new Survival.freshSystem 0
    (by decide) rfl reordered

example :
    ((Pipeline.start "192.168.0.100" {} .new (Survival.freshSystem.activate 0)).run
      StampOrder.steadyConfig reordered).places = ⟨[], [], [0], [], [1]⟩ := by
  decide

end SchunkFts.Whole.DataPath
