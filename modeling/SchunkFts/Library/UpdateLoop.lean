import SchunkFts.Library.DataBuffer

/-! The update loop of the library driver: it reads the datagrams that have arrived and puts them
into the buffer one by one. Clock readings and times are nanoseconds. -/

namespace SchunkFts.Library.UpdateLoop
open SchunkFts.Foundation.Struct SchunkFts.Foundation.Queue Packet DataBuffer

structure Datagram where
  address : String
  data : Bytes

structure Stream where
  sourceIp : Option String
  isOpen : Bool
  acceptedPacketCount : Nat
  ignoredPacketCount : Nat
  sourceAddresses : List String

def Stream.acceptsSource (stream : Stream) (address : String) : Bool :=
  stream.sourceIp = none ∨ stream.sourceIp = some address

/-- One `recvfrom(8192)`, which cuts a longer datagram off. -/
def Stream.receive (stream : Stream) (datagram : Datagram) : Stream × List Bytes :=
  let seen := { stream with sourceAddresses := stream.sourceAddresses.insert datagram.address }
  if stream.acceptsSource datagram.address then
    ({ seen with acceptedPacketCount := seen.acceptedPacketCount + 1 }, [datagram.data.take 8192])
  else ({ seen with ignoredPacketCount := seen.ignoredPacketCount + 1 }, [])

def Stream.readAll (stream : Stream) : List Datagram → Stream × List Bytes
  | [] => (stream, [])
  | datagram :: later =>
      let (next, first) := stream.receive datagram
      let (final, packets) := next.readAll later
      (final, first ++ packets)

/-- Reads until nothing is left or an exception breaks off. -/
def Stream.read (stream : Stream) (arrived : List Datagram) : Stream × List Bytes :=
  if stream.isOpen then stream.readAll arrived else (stream, [])

structure Driver where
  stream : Stream
  ftData : FTDataBuffer
  isStreaming : Bool
  autoReconnect : Bool
  receivedData : Bool
  timeout : Int
  producerPacketCount : Nat
  lastProducerCounter : Int

/-- `none` before the stream is on. -/
def Driver.sampleBatch (driver : Driver) (now : Int) : Driver × Result (Option (List FTSample)) :=
  if driver.isStreaming then
    let (ftData, samples) := driver.ftData.getSampleBatch now
    ({ driver with ftData := ftData }, samples)
  else (driver, .ok none)

/-- Where the loop is: at its condition, before the put of a packet, or at its end. -/
inductive Phase where
  | waiting
  | putting (packet : Bytes) (rest : List Bytes)
  | finished
  | raised (error : PyError)

structure UpdateState where
  phase : Phase
  lastPacketTime : Int
  connectionLost : Bool

/-- What one pass meets: the datagrams that have arrived, the clock, and how an attempt to
reconnect would end. -/
structure PassInput where
  arrived : List Datagram
  now : Int
  reconnected : Bool
  reconnectedAt : Int

/-- The rest of a batch. -/
def Phase.putRest : List Bytes → Phase
  | [] => waiting
  | packet :: rest => putting packet rest

/-- The branch of a pass without packets. -/
def missPackets (driver : Driver) (loop : UpdateState) (input : PassInput) :
    Driver × UpdateState :=
  if driver.timeout < input.now - loop.lastPacketTime then
    let lost := { driver with
      receivedData := loop.connectionLost && driver.receivedData }
    if driver.autoReconnect then
      if input.reconnected then
        ({ lost with receivedData := true },
          { loop with connectionLost := false, lastPacketTime := input.reconnectedAt })
      else (lost, { loop with connectionLost := true })
    else ({ lost with isStreaming := false }, { loop with connectionLost := true })
  else (driver, loop)

/-- From the loop's condition to the first put. -/
def readPackets (driver : Driver) (loop : UpdateState) (input : PassInput) : Driver × UpdateState :=
  if driver.isStreaming ∨ (loop.connectionLost ∧ driver.autoReconnect) then
    let (stream, packets) := driver.stream.read input.arrived
    let read := { driver with stream := stream }
    match packets with
    | [] => missPackets read loop input
    | packet :: rest =>
        ({ read with receivedData := true },
          { phase := .putting packet rest, lastPacketTime := input.now, connectionLost := false })
  else (driver, { loop with phase := .finished })

/-- A packet too short for a counter is passed over. -/
def putPacket (driver : Driver) (loop : UpdateState) (packet : Bytes) (rest : List Bytes) :
    Driver × UpdateState :=
  let counted := { driver with producerPacketCount := driver.producerPacketCount + 1 }
  match unpackFrom [.H] packet 2 with
  | .error .structError => (counted, { loop with phase := .putRest rest })
  | .error .indexError => (counted, { loop with phase := .putRest rest })
  | .error error => (counted, { loop with phase := .raised error })
  | .ok (counter, _) =>
      ({ counted with
          lastProducerCounter := counter.toNat, ftData := counted.ftData.put packet },
        { loop with phase := .putRest rest })

def updateStep (driver : Driver) (loop : UpdateState) (input : PassInput) : Driver × UpdateState :=
  match loop.phase with
  | .waiting => readPackets driver loop input
  | .putting packet rest => putPacket driver loop packet rest
  | .finished => (driver, loop)
  | .raised _ => (driver, loop)

theorem putPacket_short (driver : Driver) (loop : UpdateState) (packet : Bytes) (rest : List Bytes)
    (short : packet.length < 4) :
    putPacket driver loop packet rest =
      ({ driver with producerPacketCount := driver.producerPacketCount + 1 },
        { loop with phase := .putRest rest }) := by
  have size : calcsize [.H] = 2 := rfl
  have failed := unpackFrom_of_lt [.H] packet 2 (by omega)
  simp only [putPacket, failed]

theorem putPacket_long (driver : Driver) (loop : UpdateState) (packet : Bytes) (rest : List Bytes)
    (long : 4 ≤ packet.length) :
    putPacket driver loop packet rest =
      ({ driver with
          producerPacketCount := driver.producerPacketCount + 1
          lastProducerCounter := (counterField packet).toNat
          ftData := driver.ftData.put packet },
        { loop with phase := .putRest rest }) := by
  have size : calcsize [.H] = 2 := rfl
  have found := unpackFrom_of_le [.H] packet 2 (by omega)
  have counter : (parse [.H] (packet.drop 2)).1 = counterField packet := by
    rw [counterField, ← take_drop_slice packet 2 2]
    rfl
  simp only [putPacket, found, counter]

/-- A pass up to the first put leaves the buffer alone, and while it reconnects the stream on. -/
theorem readPackets_spec (driver : Driver) (loop : UpdateState) (input : PassInput) :
    (readPackets driver loop input).1.ftData = driver.ftData ∧
      (readPackets driver loop input).1.autoReconnect = driver.autoReconnect ∧
      (driver.autoReconnect = true →
        (readPackets driver loop input).1.isStreaming = driver.isStreaming) := by
  rcases reading : driver.stream.read input.arrived with ⟨stream, packets⟩
  simp only [readPackets, reading]
  split_ifs
  · cases packets with
    | nil =>
      simp only [missPackets]
      split_ifs with late reconnects
      · exact ⟨rfl, rfl, fun _ => rfl⟩
      · exact ⟨rfl, rfl, fun _ => rfl⟩
      · exact ⟨rfl, rfl, fun on => absurd on reconnects⟩
      · exact ⟨rfl, rfl, fun _ => rfl⟩
    | cons packet rest => exact ⟨rfl, rfl, fun _ => rfl⟩
  · exact ⟨rfl, rfl, fun _ => rfl⟩

/-- The packets a pass goes on to put are those it has read. -/
theorem readPackets_phase (driver : Driver) (loop : UpdateState) (input : PassInput) :
    (readPackets driver loop input).2.phase = loop.phase ∨
      (readPackets driver loop input).2.phase = .finished ∨
      ∃ packet rest, (readPackets driver loop input).2.phase = .putting packet rest ∧
        (driver.stream.read input.arrived).2 = packet :: rest := by
  rcases reading : driver.stream.read input.arrived with ⟨stream, packets⟩
  simp only [readPackets, reading]
  split_ifs
  · cases packets with
    | nil =>
      left
      simp only [missPackets]
      split_ifs <;> rfl
    | cons packet rest => exact .inr (.inr ⟨packet, rest, rfl, rfl⟩)
  · exact .inr (.inl rfl)

theorem putPacket_spec (driver : Driver) (loop : UpdateState) (packet : Bytes)
    (rest : List Bytes) :
    (putPacket driver loop packet rest).1.ftData =
        (if packet.length < 4 then driver.ftData else driver.ftData.put packet) ∧
      (putPacket driver loop packet rest).1.autoReconnect = driver.autoReconnect ∧
      (putPacket driver loop packet rest).1.isStreaming = driver.isStreaming ∧
      (putPacket driver loop packet rest).2.phase = .putRest rest := by
  by_cases short : packet.length < 4
  · rw [putPacket_short driver loop packet rest short, if_pos short]
    exact ⟨rfl, rfl, rfl, rfl⟩
  · rw [putPacket_long driver loop packet rest (by omega), if_neg short]
    exact ⟨rfl, rfl, rfl, rfl⟩

/-- A step that is no put leaves the buffer alone. -/
theorem updateStep_read (driver : Driver) (loop : UpdateState) (input : PassInput)
    (no_put : ∀ packet rest, loop.phase ≠ .putting packet rest) :
    (updateStep driver loop input).1.ftData = driver.ftData := by
  unfold updateStep
  split
  next => exact (readPackets_spec driver loop input).1
  next packet rest here => exact absurd here (no_put packet rest)
  next => rfl
  next => rfl

/-- A driver that reconnects keeps streaming. -/
theorem updateStep_streaming (driver : Driver) (loop : UpdateState) (input : PassInput)
    (reconnects : driver.autoReconnect = true) :
    (updateStep driver loop input).1.autoReconnect = true ∧
      (updateStep driver loop input).1.isStreaming = driver.isStreaming := by
  unfold updateStep
  split
  next =>
    have read := readPackets_spec driver loop input
    exact ⟨read.2.1.trans reconnects, read.2.2 reconnects⟩
  next packet rest _ =>
    have put := putPacket_spec driver loop packet rest
    exact ⟨put.2.1.trans reconnects, put.2.2.1⟩
  next => exact ⟨reconnects, rfl⟩
  next => exact ⟨reconnects, rfl⟩

theorem putRest_not_raised (rest : List Bytes) (error : PyError) :
    Phase.putRest rest ≠ .raised error := by
  cases rest <;> exact nofun

theorem updateStep_not_raised (driver : Driver) (loop : UpdateState) (input : PassInput)
    (alive : ∀ error, loop.phase ≠ .raised error) (error : PyError) :
    (updateStep driver loop input).2.phase ≠ .raised error := by
  unfold updateStep
  split
  next =>
    rcases readPackets_phase driver loop input with same | ended | ⟨packet, rest, here, _⟩
    · rw [same]
      exact alive error
    · rw [ended]
      exact nofun
    · rw [here]
      exact nofun
  next packet rest _ =>
    rw [(putPacket_spec driver loop packet rest).2.2.2]
    exact putRest_not_raised rest error
  next => exact alive error
  next => exact alive error

theorem readAll_packets (stream : Stream) (arrived : List Datagram) (packet : Bytes)
    (read : packet ∈ (stream.readAll arrived).2) :
    ∃ datagram ∈ arrived, packet = datagram.data.take 8192 := by
  induction arrived generalizing stream with
  | nil => cases read
  | cons datagram later ih =>
    simp only [Stream.readAll, List.mem_append] at read
    rcases read with first | rest
    · refine ⟨datagram, List.mem_cons_self, ?_⟩
      unfold Stream.receive at first
      split_ifs at first
      · exact List.mem_singleton.mp first
      · cases first
    · obtain ⟨other, member, same⟩ := ih _ rest
      exact ⟨other, List.mem_cons_of_mem _ member, same⟩

/-- Every packet read is a datagram that has arrived. -/
theorem read_packets (stream : Stream) (arrived : List Datagram) (packet : Bytes)
    (read : packet ∈ (stream.read arrived).2) :
    ∃ datagram ∈ arrived, packet = datagram.data.take 8192 := by
  unfold Stream.read at read
  split_ifs at read
  · exact readAll_packets stream arrived packet read
  · cases read

end SchunkFts.Library.UpdateLoop
