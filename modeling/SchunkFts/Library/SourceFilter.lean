import SchunkFts.Foundation.Unwinding
import SchunkFts.Library.LoopSteps

/-! A driver with a source host takes packets from the address of that host only. Datagrams from
other addresses are counted and their addresses noted, and nothing else in the driver tells whether
they have come. -/

namespace SchunkFts.Library.SourceFilter
open SchunkFts.Foundation.Struct SchunkFts.Foundation.Run SchunkFts.Foundation.Unwinding
open DataBuffer DriverSettings UpdateLoop ControlCalls Reconnect Streaming LoopSteps

/-- `Stream._resolve_source_ip`; `gethostbyname` has no address for a host it cannot resolve. -/
def resolveSourceIp (gethostbyname : String → Option String) (sourceHost : Option String) :
    Option String :=
  match sourceHost with
  | none => none
  | some host => some ((gethostbyname host).getD host)

def own (ip : String) (datagram : Datagram) : Bool := datagram.address = ip

def foreign (ip : String) (datagram : Datagram) : Bool := !own ip datagram

/-- Everything but the arrival of a datagram from another address. -/
def fromSource (ip : String) : Action → Bool
  | .arrive datagram => own ip datagram
  | _ => true

/-- The driver without the traces of foreign datagrams. -/
def ownTraffic (ip : String) (driver : SensorDriver) : SensorDriver :=
  { driver with
    stream := { driver.stream with ignoredPacketCount := 0, sourceAddresses := [] }
    unread := driver.unread.filter (own ip) }

def view (ip : String) (s : System) : System := { s with driver := ownTraffic ip s.driver }

def Filters (ip : String) (driver : SensorDriver) : Prop := driver.stream.sourceIp = some ip

/-! ### A read -/

/-- The addresses of the datagrams, added one by one. -/
def addAddresses (addresses : List String) (arrived : List Datagram) : List String :=
  arrived.foldl (fun known datagram => known.insert datagram.address) addresses

theorem mem_addAddresses (arrived : List Datagram) (addresses : List String) (address : String) :
    address ∈ addAddresses addresses arrived ↔
      address ∈ addresses ∨ ∃ datagram ∈ arrived, datagram.address = address := by
  induction arrived generalizing addresses with
  | nil => simp [addAddresses]
  | cons datagram later ih =>
    have rest := ih (addresses.insert datagram.address)
    simp only [addAddresses, List.foldl_cons] at rest ⊢
    rw [rest, List.mem_insert_iff]
    simp only [List.mem_cons, exists_eq_or_imp]
    rw [or_assoc, or_left_comm, eq_comm]

/-- What a read does with a filter: the packets of the source are handed out, and both kinds are
counted. -/
theorem readAll_filtered (ip : String) (arrived : List Datagram) (stream : Stream)
    (filters : stream.sourceIp = some ip) :
    stream.readAll arrived =
      ({ stream with
          acceptedPacketCount := stream.acceptedPacketCount + arrived.countP (own ip)
          ignoredPacketCount := stream.ignoredPacketCount + arrived.countP (foreign ip)
          sourceAddresses := addAddresses stream.sourceAddresses arrived },
        (arrived.filter (own ip)).map (fun datagram => datagram.data.take 8192)) := by
  induction arrived generalizing stream with
  | nil => rfl
  | cons datagram later ih =>
    cases mine : own ip datagram with
    | true =>
      have same : datagram.address = ip := of_decide_eq_true mine
      have accepts : stream.acceptsSource datagram.address = true := by
        simp [Stream.acceptsSource, filters, same]
      have rest := ih { stream with
        acceptedPacketCount := stream.acceptedPacketCount + 1
        sourceAddresses := stream.sourceAddresses.insert datagram.address } filters
      simp only [Stream.readAll, Stream.receive, accepts, if_true, rest]
      simp [mine, foreign, addAddresses, Nat.add_assoc, Nat.add_comm 1]
    | false =>
      have different : datagram.address ≠ ip := of_decide_eq_false mine
      have refuses : stream.acceptsSource datagram.address = false := by
        simp [Stream.acceptsSource, filters, different.symm]
      have rest := ih { stream with
        ignoredPacketCount := stream.ignoredPacketCount + 1
        sourceAddresses := stream.sourceAddresses.insert datagram.address } filters
      simp only [Stream.readAll, Stream.receive, refuses, Bool.false_eq_true, if_false, rest]
      simp [mine, foreign, addAddresses, Nat.add_assoc, Nat.add_comm 1]

/-- The condition of the update loop. -/
def Continues (driver : SensorDriver) (loop : Loop) : Prop :=
  driver.isStreaming = true ∨ (loop.connectionLost = true ∧ driver.autoReconnect = true)

instance (driver : SensorDriver) (loop : Loop) : Decidable (Continues driver loop) :=
  inferInstanceAs (Decidable (_ ∨ _))

/-- The first half of a pass: what is read, and the packets in it. -/
def drain (driver : SensorDriver) : SensorDriver × List Bytes :=
  let (stream, packets) := driver.stream.read driver.unread
  ({ driver with
      stream := stream, unread := if driver.stream.isOpen then [] else driver.unread }, packets)

theorem readPass_eq (driver : SensorDriver) (loop : Loop) (now : Int) :
    readPass driver loop now =
      if Continues driver loop then
        match (drain driver).2 with
        | [] => missPass (drain driver).1 loop now
        | packet :: rest =>
            ({ (drain driver).1 with receivedData := true },
              { phase := .putting packet rest, lastPacketTime := now, connectionLost := false })
      else (driver.leaveStream, { loop with phase := .finished }) := rfl

/-- Everything a read does to the driver. -/
theorem drain_filtered (ip : String) (driver : SensorDriver) (filters : Filters ip driver)
    (opened : driver.stream.isOpen = true) :
    drain driver =
      ({ driver with
          stream := { driver.stream with
            acceptedPacketCount :=
              driver.stream.acceptedPacketCount + driver.unread.countP (own ip)
            ignoredPacketCount :=
              driver.stream.ignoredPacketCount + driver.unread.countP (foreign ip)
            sourceAddresses := addAddresses driver.stream.sourceAddresses driver.unread }
          unread := [] },
        (driver.unread.filter (own ip)).map (fun datagram => datagram.data.take 8192)) := by
  simp only [drain, Stream.read, opened, if_true, readAll_filtered ip driver.unread _ filters]

theorem drain_closed (driver : SensorDriver) (shut : driver.stream.isOpen = false) :
    drain driver = (driver, []) := by
  simp only [drain, Stream.read, shut, Bool.false_eq_true, if_false]

/-! ### The view of a step -/

section
variable (ip : String) (driver : SensorDriver) (loop : Loop)

@[simp] theorem ownTraffic_idem : ownTraffic ip (ownTraffic ip driver) = ownTraffic ip driver := by
  simp only [ownTraffic, List.filter_filter, Bool.and_self]

theorem drain_own (filters : Filters ip driver) :
    ownTraffic ip (drain (ownTraffic ip driver)).1 = ownTraffic ip (drain driver).1 ∧
      (drain (ownTraffic ip driver)).2 = (drain driver).2 := by
  by_cases opened : driver.stream.isOpen = true
  · rw [drain_filtered ip driver filters opened,
      drain_filtered ip (ownTraffic ip driver) filters opened]
    simp [ownTraffic, List.countP_filter]
  · have shut := Bool.eq_false_iff.mpr opened
    rw [drain_closed driver shut, drain_closed (ownTraffic ip driver) shut, ownTraffic_idem]
    exact ⟨rfl, rfl⟩

/-- Whether there is a miss is the same with and without foreign datagrams. -/
theorem missPass_own (now : Int) :
    missPass (ownTraffic ip driver) loop now =
      (ownTraffic ip (missPass driver loop now).1, (missPass driver loop now).2) := by
  by_cases late : driver.timeout < now - loop.lastPacketTime
  · cases lost : loop.connectionLost <;> cases auto : driver.autoReconnect <;>
      simp [missPass, ownTraffic, late, lost, auto]
  · simp [missPass, ownTraffic, late]

theorem leaveStream_own :
    (ownTraffic ip driver).leaveStream = ownTraffic ip driver.leaveStream := by
  unfold SensorDriver.leaveStream
  by_cases held : 1 < driver.openCount
  · simp [ownTraffic, held]
  · simp [ownTraffic, held]

theorem readPass_own (filters : Filters ip driver) (now : Int) :
    ownTraffic ip (readPass (ownTraffic ip driver) loop now).1 =
        ownTraffic ip (readPass driver loop now).1 ∧
      (readPass (ownTraffic ip driver) loop now).2 = (readPass driver loop now).2 := by
  have same : Continues (ownTraffic ip driver) loop ↔ Continues driver loop := Iff.rfl
  obtain ⟨read, packets⟩ := drain_own ip driver filters
  rw [readPass_eq, readPass_eq, packets]
  by_cases on : Continues driver loop
  · rw [if_pos (same.mpr on), if_pos on]
    cases (drain driver).2 with
    | nil =>
      have first := missPass_own ip (drain (ownTraffic ip driver)).1 loop now
      have second := missPass_own ip (drain driver).1 loop now
      rw [read, second] at first
      exact ⟨(Prod.ext_iff.mp first).1.symm, (Prod.ext_iff.mp first).2.symm⟩
    | cons packet rest =>
      refine ⟨?_, rfl⟩
      exact congrArg (fun found : SensorDriver => { found with receivedData := true }) read
  · rw [if_neg (mt same.mp on), if_neg on, leaveStream_own, ownTraffic_idem]
    exact ⟨rfl, rfl⟩

theorem enterStream_own (bound : Bool) :
    (ownTraffic ip driver).enterStream bound = ownTraffic ip (driver.enterStream bound) := by
  unfold SensorDriver.enterStream
  by_cases invalid : driver.port < 1024 ∨ 65535 < driver.port
  · simp [ownTraffic, invalid]
  · by_cases opened : driver.stream.isOpen = true
    · simp [ownTraffic, invalid, opened]
    · cases bound <;> simp [ownTraffic, invalid, opened]

theorem putPacket_own (packet : Bytes) (rest : List Bytes) (state : UpdateState) :
    { ownTraffic ip driver with
        toDriver := (putPacket (ownTraffic ip driver).toDriver state packet rest).1 } =
      ownTraffic ip { driver with
        toDriver := (putPacket driver.toDriver state packet rest).1 } := by
  by_cases short : packet.length < 4
  · simp only [putPacket_short _ _ _ _ short, ownTraffic]
  · simp only [putPacket_long _ _ _ _ (not_lt.mp short), ownTraffic]

/-- A loop goes the same way without the foreign datagrams. -/
theorem loopStep_own (filters : Filters ip driver) (input : LoopInput) :
    ownTraffic ip (loopStep (ownTraffic ip driver) loop input).1 =
        ownTraffic ip (loopStep driver loop input).1 ∧
      (loopStep (ownTraffic ip driver) loop input).2 = (loopStep driver loop input).2 := by
  obtain ⟨phase, lastPacketTime, connectionLost⟩ := loop
  cases phase with
  | entering =>
    simp only [loopStep, enterStream_own, ownTraffic_idem, and_self]
  | waiting => exact readPass_own ip driver _ filters input.now
  | putting packet rest =>
    simp only [loopStep]
    rw [putPacket_own, ownTraffic_idem]
    refine ⟨rfl, ?_⟩
    rw [(putPacket_spec _ _ packet rest).2.2.2, (putPacket_spec _ _ packet rest).2.2.2]
  | sleeping => exact ⟨ownTraffic_idem ip { driver with channel := driver.channel.close }, rfl⟩
  | reopening =>
    exact ⟨ownTraffic_idem ip { driver with
      channel := (driver.channel.openUp input.attempt.opening).1 }, rfl⟩
  | restarting =>
    exact ⟨ownTraffic_idem ip { driver with
      channel :=
        (restart driver.channel driver.outputRate.mode.parameterValue input.attempt).1 }, rfl⟩
  | stabilizing => exact ⟨ownTraffic_idem ip { driver with receivedData := true }, rfl⟩
  | finished => exact ⟨ownTraffic_idem ip driver, rfl⟩

end

/-- A call never looks at the datagrams. -/
theorem mainStep_view (ip : String) (s : System) (input : MainInput) :
    (view ip s).mainStep input = view ip (s.mainStep input) := by
  obtain ⟨driver, loops, call⟩ := s
  cases call with
  | opening autoReconnect =>
    rcases opened : driver.channel.openUp input.opening with ⟨channel, _ | _⟩ <;>
      simp [System.mainStep, view, ownTraffic, opened]
  | pausing => cases late : input.late <;> simp [System.mainStep, view, ownTraffic, late]
  | readingName =>
    rcases asked : driver.channel.getParameter input.outcome "0001" "00" with ⟨channel, _ | _⟩ <;>
      simp [System.mainStep, view, ownTraffic, asked]
  | readingId =>
    rcases asked : driver.channel.getParameter input.outcome "0001" "03" with ⟨channel, _ | _⟩ <;>
      simp [System.mainStep, view, ownTraffic, asked]
  | configuring =>
    rcases asked : driver.channel.configureOutputRate input.outcome
      driver.outputRate.mode.parameterValue with ⟨channel, _ | _ | _⟩ <;>
      simp [System.mainStep, view, ownTraffic, asked]
  | startingStream =>
    rcases asked : driver.channel.startUdpStream input.outcome with ⟨channel, _ | _⟩ <;>
      simp [System.mainStep, view, ownTraffic, asked]
  | stopping =>
    rcases asked : driver.channel.stopUdpStream input.outcome with ⟨channel, _ | _⟩ <;>
      simp [System.mainStep, view, ownTraffic, asked]
  | joining =>
    have same : (view ip ⟨driver, loops, .joining⟩).threadAlive =
      System.threadAlive ⟨driver, loops, .joining⟩ := rfl
    change (if System.threadAlive (view ip ⟨driver, loops, .joining⟩) then _ else _) =
      view ip (if System.threadAlive ⟨driver, loops, .joining⟩ then _ else _)
    rw [same]
    split_ifs <;> rfl
  | spawning autoReconnect => rfl
  | awaitingStream => rfl
  | clearing => rfl
  | closing => rfl
  | idle => rfl
  | returnedOn result => rfl
  | raisedOn error => rfl
  | returnedOff => rfl
  | raisedOff error => rfl

@[simp] theorem view_idem (ip : String) (s : System) : view ip (view ip s) = view ip s := by
  simp only [view, ownTraffic_idem]

theorem stepLoop_view (ip : String) (s : System) (filters : Filters ip s.driver) (index : Nat)
    (input : LoopInput) :
    view ip ((view ip s).stepLoop index input) = view ip (s.stepLoop index input) := by
  have loops : (view ip s).loops = s.loops := rfl
  unfold System.stepLoop
  rw [loops]
  cases s.loops[index]? with
  | none => exact view_idem ip s
  | some loop =>
    obtain ⟨driver, next⟩ := loopStep_own ip s.driver loop filters input
    simp only [view, driver, next]

theorem streamingOn_view (ip : String) (s : System) (floatTimeout autoReconnect : Bool) :
    (view ip s).streamingOn floatTimeout autoReconnect =
      view ip (s.streamingOn floatTimeout autoReconnect) := by
  by_cases on : s.driver.isStreaming = true
  · simp [System.streamingOn, view, ownTraffic, on]
  · cases floatTimeout <;> simp [System.streamingOn, view, ownTraffic, on]

theorem arrive_view (ip : String) (driver : SensorDriver) (datagram : Datagram) :
    ownTraffic ip ((ownTraffic ip driver).arrive datagram) =
      ownTraffic ip (driver.arrive datagram) := by
  by_cases opened : driver.stream.isOpen = true
  · simp [SensorDriver.arrive, ownTraffic, opened]
  · simp [SensorDriver.arrive, ownTraffic, opened]

/-- Only what is seen of a state decides what is seen of the next one. -/
theorem step_view (ip : String) (s : System) (filters : Filters ip s.driver) (action : Action) :
    view ip ((view ip s).step action) = view ip (s.step action) := by
  have calling : (view ip s).call = s.call := rfl
  cases action with
  | streamingOn floatTimeout autoReconnect =>
    simp only [System.step, calling, streamingOn_view]
    split_ifs <;> exact view_idem ip _
  | streamingOff =>
    simp only [System.step, calling]
    split_ifs
    · exact view_idem ip s
    · exact view_idem ip { s with call := .stopping }
  | main input =>
    simp only [System.step, mainStep_view, view_idem]
  | loop index input => exact stepLoop_view ip s filters index input
  | arrive datagram =>
    exact congrArg (System.mk · s.loops s.call) (arrive_view ip s.driver datagram)
  | command command outcome => exact view_idem ip (s.step (.command command outcome))
  | sample now =>
    by_cases on : s.driver.isStreaming = true
    · simp [System.step, SensorDriver.sample, view, ownTraffic, on]
    · simp [System.step, SensorDriver.sample, view, ownTraffic, on]
  | sampleBatch now =>
    by_cases on : s.driver.isStreaming = true
    · simp [System.step, SensorDriver.sampleBatch, Driver.sampleBatch, view, ownTraffic, on]
    · simp [System.step, SensorDriver.sampleBatch, Driver.sampleBatch, view, ownTraffic, on]
  | clearSamples now => exact view_idem ip (s.step (.clearSamples now))

/-- A foreign datagram is not seen when it arrives. -/
theorem arrive_foreign (ip : String) (driver : SensorDriver) (datagram : Datagram)
    (foreign : own ip datagram = false) :
    ownTraffic ip (driver.arrive datagram) = ownTraffic ip driver := by
  by_cases opened : driver.stream.isOpen = true
  · simp [SensorDriver.arrive, ownTraffic, opened, foreign]
  · simp [SensorDriver.arrive, ownTraffic, opened]

/-! ### What a step receives -/

/-- What a step of a loop gives out. -/
def ofLoop {Event : Type} (events : SensorDriver → Nat → Loop → List Event) (s : System) :
    Action → List Event
  | .loop index _ =>
      match s.loops[index]? with
      | some loop => events s.driver index loop
      | none => []
  | _ => []

theorem ofLoop_some {Event : Type} (events : SensorDriver → Nat → Loop → List Event) (s : System)
    (index : Nat) (input : LoopInput) (loop : Loop) (here : s.loops[index]? = some loop) :
    ofLoop events s (.loop index input) = events s.driver index loop := by
  simp only [ofLoop, here]

theorem ofLoop_none {Event : Type} (events : SensorDriver → Nat → Loop → List Event) (s : System)
    (index : Nat) (input : LoopInput) (nowhere : s.loops[index]? = none) :
    ofLoop events s (.loop index input) = [] := by
  simp only [ofLoop, nowhere]

/-- The datagrams that `Stream.read` takes from the socket. -/
def drainedBy (driver : SensorDriver) (loop : Loop) : List Datagram :=
  if loop.phase = .waiting ∧ Continues driver loop ∧ driver.stream.isOpen = true then driver.unread
  else []

/-- The datagrams that are lost when a loop ends and closes the socket. -/
def discardedBy (driver : SensorDriver) (loop : Loop) : List Datagram :=
  if loop.phase = .waiting ∧ ¬Continues driver loop ∧ driver.openCount ≤ 1 then driver.unread
  else []

def drained : System → Action → List Datagram := ofLoop (fun driver _ loop => drainedBy driver loop)

def discarded : System → Action → List Datagram :=
  ofLoop (fun driver _ loop => discardedBy driver loop)

/-- The datagrams that reach a bound socket. -/
def arrived (s : System) : Action → List Datagram
  | .arrive datagram => if s.driver.stream.isOpen then [datagram] else []
  | _ => []

/-- What changes of the socket and its counters. -/
structure Receives (ip : String) (before after : SensorDriver)
    (arrived drained discarded : List Datagram) : Prop where
  sourceIp : after.stream.sourceIp = before.stream.sourceIp
  ignored : after.stream.ignoredPacketCount =
    before.stream.ignoredPacketCount + drained.countP (foreign ip)
  addresses : after.stream.sourceAddresses = addAddresses before.stream.sourceAddresses drained
  socket : drained ++ discarded ++ after.unread = before.unread ++ arrived

/-- A step that leaves the socket alone, or only binds or closes it. -/
theorem Receives.of_same (ip : String) {before after : SensorDriver}
    (stream : { after.stream with isOpen := before.stream.isOpen } = before.stream)
    (unread : after.unread = before.unread) : Receives ip before after [] [] [] where
  sourceIp := by
    rw [← stream]
  ignored := by
    rw [← stream]
    rfl
  addresses := by
    rw [← stream]
    rfl
  socket := by
    rw [unread, List.append_nil, List.append_nil, List.nil_append]

/-- A pass that reads takes over what `drain` has done to the socket. -/
theorem readPass_socket (driver : SensorDriver) (loop : Loop) (now : Int)
    (on : Continues driver loop) :
    (readPass driver loop now).1.unread = (drain driver).1.unread ∧
      (readPass driver loop now).1.stream = (drain driver).1.stream := by
  rw [readPass_eq, if_pos on]
  cases (drain driver).2 with
  | nil => exact (missPass_data _ loop now).2
  | cons packet rest => exact ⟨rfl, rfl⟩

theorem readPass_receives (ip : String) (driver : SensorDriver) (loop : Loop) (now : Int)
    (filters : Filters ip driver) (here : loop.phase = .waiting) :
    Receives ip driver (readPass driver loop now).1 [] (drainedBy driver loop)
      (discardedBy driver loop) := by
  unfold drainedBy discardedBy
  by_cases on : Continues driver loop
  · obtain ⟨unread, stream⟩ := readPass_socket driver loop now on
    by_cases opened : driver.stream.isOpen = true
    · rw [drain_filtered ip driver filters opened] at stream unread
      simp only [here, on, opened, not_true, false_and, and_false, and_self, if_true, if_false]
      refine ⟨?_, ?_, ?_, ?_⟩
      · rw [stream]
      · rw [stream]
      · rw [stream]
      · rw [unread, List.append_nil]
    · have shut := Bool.eq_false_iff.mpr opened
      rw [drain_closed driver shut] at stream unread
      simp only [shut, on, Bool.false_eq_true, not_true, false_and, and_false, if_false]
      exact Receives.of_same ip (by rw [stream]) unread
  · rw [readPass_eq, if_neg on]
    by_cases held : driver.openCount ≤ 1
    · simp only [here, on, held, not_false_eq_true, false_and, and_false, and_self, if_true,
        if_false]
      have leaves : driver.leaveStream =
          { driver with
            stream := { driver.stream with isOpen := false }, openCount := 0, unread := [] } :=
        if_neg (not_lt.mpr held)
      rw [leaves]
      exact ⟨rfl, rfl, rfl, rfl⟩
    · simp only [on, held, false_and, and_false, if_false]
      have leaves : driver.leaveStream = { driver with openCount := driver.openCount - 1 } :=
        if_pos (not_le.mp held)
      rw [leaves]
      exact Receives.of_same ip rfl rfl

theorem loopStep_receives (ip : String) (driver : SensorDriver) (loop : Loop)
    (filters : Filters ip driver) (input : LoopInput) :
    Receives ip driver (loopStep driver loop input).1 [] (drainedBy driver loop)
      (discardedBy driver loop) := by
  have elsewhere (after : SensorDriver) (away : loop.phase ≠ .waiting)
      (same : Receives ip driver after [] [] []) :
      Receives ip driver after [] (drainedBy driver loop) (discardedBy driver loop) := by
    simpa only [drainedBy, discardedBy, away, false_and, if_false] using same
  cases here : loop.phase with
  | waiting =>
    simp only [loopStep, here]
    exact readPass_receives ip driver loop input.now filters here
  | entering =>
    simp only [loopStep, here]
    obtain ⟨_, unread, stream⟩ := enterStream_data driver input.bound
    exact elsewhere _ (by simp [here]) (Receives.of_same ip stream unread)
  | putting packet rest =>
    simp only [loopStep, here]
    refine elsewhere _ (by simp [here]) ?_
    by_cases short : packet.length < 4
    · rw [putPacket_short _ _ _ _ short]
      exact Receives.of_same ip rfl rfl
    · rw [putPacket_long _ _ _ _ (not_lt.mp short)]
      exact Receives.of_same ip rfl rfl
  | _ =>
    simp only [loopStep, here]
    exact elsewhere _ (by simp [here]) (Receives.of_same ip rfl rfl)

theorem stepLoop_receives (ip : String) (s : System) (filters : Filters ip s.driver) (index : Nat)
    (input : LoopInput) :
    Receives ip s.driver (s.stepLoop index input).driver [] (drained s (.loop index input))
      (discarded s (.loop index input)) := by
  unfold System.stepLoop drained discarded
  cases here : s.loops[index]? with
  | none =>
    rw [ofLoop_none _ s index input here, ofLoop_none _ s index input here]
    exact Receives.of_same ip rfl rfl
  | some loop =>
    rw [ofLoop_some _ s index input loop here, ofLoop_some _ s index input loop here]
    exact loopStep_receives ip s.driver loop filters input

/-- The step lemma for the socket. -/
theorem step_receives (ip : String) (s : System) (filters : Filters ip s.driver)
    (action : Action) :
    Receives ip s.driver (s.step action).driver (arrived s action) (drained s action)
      (discarded s action) := by
  cases action with
  | streamingOn floatTimeout autoReconnect =>
    simp only [System.step, System.streamingOn]
    split_ifs <;> exact Receives.of_same ip rfl rfl
  | streamingOff =>
    simp only [System.step]
    split_ifs <;> exact Receives.of_same ip rfl rfl
  | main input =>
    obtain ⟨_, unread, stream⟩ := mainStep_data s input
    exact Receives.of_same ip (by rw [← stream]; rfl) unread
  | loop index input => exact stepLoop_receives ip s filters index input
  | arrive datagram =>
    simp only [System.step, SensorDriver.arrive, arrived]
    split_ifs
    · exact ⟨rfl, rfl, rfl, rfl⟩
    · exact Receives.of_same ip rfl rfl
  | command command outcome => exact Receives.of_same ip rfl rfl
  | sample now =>
    simp only [System.step, SensorDriver.sample]
    split_ifs <;> exact Receives.of_same ip rfl rfl
  | sampleBatch now =>
    simp only [System.step, SensorDriver.sampleBatch, Driver.sampleBatch]
    split_ifs <;> exact Receives.of_same ip rfl rfl
  | clearSamples now => exact Receives.of_same ip rfl rfl

theorem filters_step (ip : String) (s : System) (action : Action) (filters : Filters ip s.driver) :
    Filters ip (s.step action).driver :=
  (step_receives ip s filters action).sourceIp.trans filters

/-! ### Runs -/

/-- The counters for foreign datagrams after a run, against what the socket has received in it. -/
structure Counts (ip : String) (s : System) (actions : List Action) : Prop where
  ignored : (run System.step s actions).driver.stream.ignoredPacketCount =
    s.driver.stream.ignoredPacketCount +
      (log System.step drained s actions).countP (foreign ip)
  addresses : ∀ address,
    address ∈ (run System.step s actions).driver.stream.sourceAddresses ↔
      address ∈ s.driver.stream.sourceAddresses ∨
        ∃ datagram ∈ log System.step drained s actions, datagram.address = address
  socket : ∀ kind : Datagram → Bool,
    (log System.step drained s actions).countP kind +
        (log System.step discarded s actions).countP kind +
        (run System.step s actions).driver.unread.countP kind =
      s.driver.unread.countP kind + (log System.step arrived s actions).countP kind

/-- The run lemma for the socket. -/
theorem run_counts (ip : String) (actions : List Action) (s : System)
    (filters : Filters ip s.driver) : Counts ip s actions := by
  induction actions generalizing s with
  | nil => exact ⟨rfl, by simp [log], by simp [log]⟩
  | cons action later ih =>
    have step := step_receives ip s filters action
    have rest := ih _ (filters_step ip s action filters)
    constructor
    · rw [run_cons, rest.ignored, step.ignored, log, List.countP_append, Nat.add_assoc]
    · intro address
      rw [run_cons, rest.addresses, step.addresses, mem_addAddresses, log, or_assoc]
      simp only [List.mem_append, or_and_right, exists_or]
    · intro kind
      have here := congrArg (List.countP kind) step.socket
      have there := rest.socket kind
      simp only [List.countP_append] at here
      simp only [run_cons, log, List.countP_append]
      omega

/-! ### Two histories -/

/-- The packets that a loop puts into the buffer: those that are long enough for a counter. -/
def puts : System → Action → List Bytes :=
  ofLoop (fun _ _ loop =>
    match loop.phase with
    | .putting packet _ => if packet.length < 4 then [] else [packet]
    | _ => [])

/-- The loops that begin an attempt to reconnect. -/
def attempts : System → Action → List Nat :=
  ofLoop (fun _ index loop => if loop.phase = .sleeping then [index] else [])

/-- The state after a step, without the traces of foreign datagrams. -/
def views (ip : String) (s : System) (action : Action) : List System :=
  if fromSource ip action then [view ip (s.step action)] else []

/-- The packets of `puts` are what a step of a loop adds to the buffer. -/
theorem puts_ftData (s : System) (index : Nat) (input : LoopInput) :
    (s.step (.loop index input)).driver.ftData =
      (puts s (.loop index input)).foldl FTDataBuffer.put s.driver.ftData := by
  simp only [System.step, System.stepLoop, puts]
  cases here : s.loops[index]? with
  | none =>
    rw [ofLoop_none _ _ _ _ here]
    rfl
  | some loop =>
    rw [ofLoop_some _ _ _ _ loop here]
    cases phase : loop.phase with
    | putting packet rest =>
      simp only [loopStep, phase, (putPacket_spec _ _ packet rest).1]
      split_ifs <;> rfl
    | _ =>
      refine (loopStep_data s.driver loop input).1.resolve_right ?_
      rintro ⟨packet, rest, putting, _⟩
      rw [phase] at putting
      cases putting

theorem unwinds (ip : String) :
    Unwinds System.step (view ip) (fromSource ip) (fun s => Filters ip s.driver) := by
  apply Unwinds.of_projection
  · exact fun s action filters => filters_step ip s action filters
  · intro s action filters unseen
    cases action with
    | arrive datagram =>
      exact congrArg (System.mk · s.loops s.call) (arrive_foreign ip s.driver datagram unseen)
    | _ => cases unseen
  · exact fun s action filters => step_view ip s filters action

theorem shows_ofLoop {Event : Type} (ip : String)
    (events : SensorDriver → Nat → Loop → List Event)
    (blind : ∀ driver index loop,
      events (ownTraffic ip driver) index loop = events driver index loop) :
    Shows (ofLoop events) (view ip) (fromSource ip) (fun s => Filters ip s.driver) := by
  apply Shows.of_projection
  · intro s action filters unseen
    cases action with
    | arrive datagram => rfl
    | _ => cases unseen
  · intro s action
    cases action with
    | loop index input =>
      have loops : (view ip s).loops = s.loops := rfl
      cases here : s.loops[index]? with
      | none =>
        rw [ofLoop_none _ _ _ _ (loops ▸ here), ofLoop_none _ _ _ _ here]
      | some loop =>
        rw [ofLoop_some _ _ _ _ loop (loops ▸ here), ofLoop_some _ _ _ _ loop here]
        exact blind s.driver index loop
    | _ => rfl

/-- The update loop has decided the same in both states, and they differ only in what foreign
datagrams may change. -/
structure Alike (ip : String) (first second : System) : Prop where
  droppedPacketCount :
    first.driver.ftData.droppedPacketCount = second.driver.ftData.droppedPacketCount
  producerPacketCount : first.driver.producerPacketCount = second.driver.producerPacketCount
  lastProducerCounter : first.driver.lastProducerCounter = second.driver.lastProducerCounter
  acceptedPacketCount :
    first.driver.stream.acceptedPacketCount = second.driver.stream.acceptedPacketCount
  connectionLost : first.loops.map (·.connectionLost) = second.loops.map (·.connectionLost)
  isStreaming : first.driver.isStreaming = second.driver.isStreaming
  others : view ip first = view ip second

theorem Alike.of_view {ip : String} {first second : System}
    (same : view ip first = view ip second) : Alike ip first second where
  droppedPacketCount := congrArg (·.driver.ftData.droppedPacketCount) same
  producerPacketCount := congrArg (·.driver.producerPacketCount) same
  lastProducerCounter := congrArg (·.driver.lastProducerCounter) same
  acceptedPacketCount := congrArg (·.driver.stream.acceptedPacketCount) same
  connectionLost := congrArg (·.loops.map (·.connectionLost)) same
  isStreaming := congrArg (·.driver.isStreaming) same
  others := same

/-- For a source host that resolves to an address, two histories that are equal without the
datagrams from other addresses lead to the same decisions: after every step, and in the packets put
and the attempts to reconnect. Foreign datagrams are counted, each one that is read, and their
addresses noted. -/
theorem foreign_unseen (gethostbyname : String → Option String) (host ip : String)
    (resolved : gethostbyname host = some ip) (streamingPort : Int) (outputRate : OutputRate)
    (now : Int) (one other : List Action)
    (agree : one.filter (fromSource ip) = other.filter (fromSource ip)) :
    let start := System.new streamingPort (resolveSourceIp gethostbyname (some host)) outputRate now
    log System.step (views ip) start one = log System.step (views ip) start other ∧
      log System.step puts start one = log System.step puts start other ∧
      log System.step attempts start one = log System.step attempts start other ∧
      Alike ip (run System.step start one) (run System.step start other) ∧
      Counts ip start one ∧ Counts ip start other := by
  intro start
  have filters : Filters ip start.driver := by
    simp only [start, Filters, System.new, SensorDriver.new, resolveSourceIp, resolved,
      Option.getD_some]
  have seen := unwinds ip
  refine ⟨?_, ?_, ?_, ?_, run_counts ip one start filters, run_counts ip other start filters⟩
  · exact seen.log_eq seen.shows_views start filters one other agree
  · exact seen.log_eq (shows_ofLoop ip _ (fun _ _ _ => rfl)) start filters one other agree
  · exact seen.log_eq (shows_ofLoop ip _ (fun _ _ _ => rfl)) start filters one other agree
  · exact Alike.of_view (seen.run_eq start filters one other agree)

def resolves (host : String) : Option String :=
  if host = "sensor" then some "192.168.0.100" else none

/-- The loop starts, finds what has arrived and puts the first packet. -/
def readOnce (arriving : List Datagram) : List Action :=
  [.streamingOn true true, .main {}, .main {}, .loop 0 { now := 0 }] ++ arriving.map .arrive ++
    [.loop 0 { now := 1 }, .loop 0 { now := 2 }]

def packetFrom (address : String) : Datagram := ⟨address, [0xff, 0xff, 1, 0]⟩

/-- One packet of the sensor between two of another host. -/
theorem foreign_unseen_between :
    let start := System.new 54843 (resolveSourceIp resolves (some "sensor")) .hz1000 0
    let mixed := readOnce
      [packetFrom "10.0.0.7", packetFrom "192.168.0.100", packetFrom "10.0.0.7"]
    let clean := readOnce [packetFrom "192.168.0.100"]
    log System.step puts start mixed = [[0xff, 0xff, 1, 0]] ∧
      (run System.step start mixed).driver.stream.ignoredPacketCount = 2 ∧
      log System.step puts start mixed = log System.step puts start clean ∧
      Alike "192.168.0.100" (run System.step start mixed) (run System.step start clean) := by
  intro start mixed clean
  obtain ⟨_, put, _, alike, _⟩ := foreign_unseen resolves "sensor" "192.168.0.100" (by decide)
    54843 .hz1000 0 mixed clean rfl
  exact ⟨by decide +kernel, by decide +kernel, put, alike⟩

end SchunkFts.Library.SourceFilter
