import SchunkFts.Library.Streaming

/-! Everything a step of an update loop can do to what the loops and the calls share: the two flags
and the control channel. And what it does to the data, which the calls leave alone. -/

namespace SchunkFts.Library.LoopSteps
open SchunkFts.Foundation.Struct UpdateLoop Control ControlCalls Reconnect Streaming

structure Control where
  isStreaming : Bool
  autoReconnect : Bool
  channel : Channel

def control (driver : SensorDriver) : Control :=
  ⟨driver.isStreaming, driver.autoReconnect, driver.channel⟩

/-- The packets that a pass would find now. -/
def found (driver : SensorDriver) : List Bytes := (driver.stream.read driver.unread).2

/-- The phase after a put. -/
def afterPut : List Bytes → LoopPhase
  | [] => .waiting
  | packet :: rest => .putting packet rest

/-- The phase after a pass that came too late, and the flag. -/
def afterMiss (autoReconnect : Bool) : LoopPhase := if autoReconnect then .sleeping else .waiting

/-- One constructor for every way a step can go. -/
inductive Moves (driver : SensorDriver) (loop : Loop) (after : SensorDriver) (next : Loop) : Prop
  | enter (here : loop.phase = .entering) (same : control after = control driver)
      (phase : next.phase = .waiting) (lost : next.connectionLost = false)
  | read (packet : Bytes) (rest : List Bytes) (here : loop.phase = .waiting)
      (on : driver.isStreaming = true ∨ driver.autoReconnect = true)
      (packets : found driver = packet :: rest) (same : control after = control driver)
      (phase : next.phase = .putting packet rest) (lost : next.connectionLost = false)
  | wait (here : loop.phase = .waiting)
      (on : driver.isStreaming = true ∨ driver.autoReconnect = true)
      (same : control after = control driver) (still : next = loop)
  | lose (here : loop.phase = .waiting) (before : loop.connectionLost = false)
      (on : driver.isStreaming = true)
      (closed : control after =
        ⟨driver.autoReconnect, driver.autoReconnect, driver.channel.close⟩)
      (phase : next.phase = afterMiss driver.autoReconnect) (lost : next.connectionLost = true)
  | miss (here : loop.phase = .waiting) (before : loop.connectionLost = true)
      (on : driver.isStreaming = true ∨ driver.autoReconnect = true)
      (same : control after =
        ⟨driver.isStreaming && driver.autoReconnect, driver.autoReconnect, driver.channel⟩)
      (phase : next.phase = afterMiss driver.autoReconnect) (lost : next.connectionLost = true)
  | finish (here : loop.phase = .waiting) (off : driver.isStreaming = false)
      (same : control after = control driver)
      (phase : next.phase = .finished) (lost : next.connectionLost = loop.connectionLost)
  | put (packet : Bytes) (rest : List Bytes) (here : loop.phase = .putting packet rest)
      (same : control after = control driver)
      (phase : next.phase = afterPut rest) (lost : next.connectionLost = loop.connectionLost)
  | close (here : loop.phase = .sleeping)
      (closed : control after =
        ⟨driver.isStreaming, driver.autoReconnect, driver.channel.close⟩)
      (phase : next.phase = .reopening) (lost : next.connectionLost = loop.connectionLost)
  | reopen (opening : Opening) (here : loop.phase = .reopening)
      (opened : control after =
        ⟨driver.isStreaming, driver.autoReconnect, (driver.channel.openUp opening).1⟩)
      (phase : next.phase =
        if (driver.channel.openUp opening).2 then .restarting else .waiting)
      (lost : next.connectionLost = loop.connectionLost)
  | restart (attempt : Attempt) (channel : Channel) (reconnected : Bool)
      (here : loop.phase = .restarting) (settled : Settled attempt reconnected channel)
      (restarted : control after = ⟨driver.isStreaming, driver.autoReconnect, channel⟩)
      (phase : next.phase = if reconnected then .stabilizing else .waiting)
      (lost : next.connectionLost = loop.connectionLost)
  | restore (here : loop.phase = .stabilizing) (same : control after = control driver)
      (phase : next.phase = .waiting) (lost : next.connectionLost = false)
  | rest (here : loop.phase = .finished) (same : after = driver) (still : next = loop)

theorem enterStream_control (driver : SensorDriver) (bound : Bool) :
    control (driver.enterStream bound) = control driver := by
  unfold SensorDriver.enterStream
  split_ifs <;> rfl

theorem leaveStream_control (driver : SensorDriver) :
    control driver.leaveStream = control driver := by
  unfold SensorDriver.leaveStream
  split_ifs <;> rfl

theorem arrive_control (driver : SensorDriver) (datagram : Datagram) :
    control (driver.arrive datagram) = control driver := by
  unfold SensorDriver.arrive
  split_ifs <;> rfl

theorem sample_control (driver : SensorDriver) (now : Int) :
    control (driver.sample now).1 = control driver := by
  unfold SensorDriver.sample
  split_ifs <;> rfl

theorem sampleBatch_control (driver : SensorDriver) (now : Int) :
    control (driver.sampleBatch now).1 = control driver := by
  unfold SensorDriver.sampleBatch UpdateLoop.Driver.sampleBatch
  split_ifs <;> rfl

/-- A pass that finds nothing. -/
theorem missPass_moves (driver read : SensorDriver) (loop : Loop) (now : Int)
    (here : loop.phase = .waiting) (same : control read = control driver)
    (on : driver.isStreaming = true ∨ (loop.connectionLost = true ∧ driver.autoReconnect = true)) :
    Moves driver loop (missPass read loop now).1 (missPass read loop now).2 := by
  obtain ⟨streaming, reconnects, channel⟩ := Control.mk.inj same
  by_cases late : read.timeout < now - loop.lastPacketTime
  · simp only [missPass, if_pos late]
    cases before : loop.connectionLost with
    | false =>
      rw [before] at on
      have streamingOn : driver.isStreaming = true := on.resolve_right (fun wrong => nomatch wrong.1)
      cases auto : read.autoReconnect with
      | false =>
        have off : driver.autoReconnect = false := reconnects.symm.trans auto
        refine .lose here before streamingOn ?_ ?_ ?_ <;>
          simp [control, afterMiss, off, channel, here]
      | true =>
        have reconnectsOn : driver.autoReconnect = true := reconnects.symm.trans auto
        refine .lose here before streamingOn ?_ ?_ ?_ <;>
          simp [control, afterMiss, reconnectsOn, channel, streaming, streamingOn]
    | true =>
      have alive := on.imp_right And.right
      cases auto : read.autoReconnect with
      | false =>
        have off : driver.autoReconnect = false := reconnects.symm.trans auto
        refine .miss here before alive ?_ ?_ ?_ <;>
          simp [control, afterMiss, auto, off, channel, here]
      | true =>
        have reconnectsOn : driver.autoReconnect = true := reconnects.symm.trans auto
        refine .miss here before alive ?_ ?_ ?_ <;>
          simp [control, afterMiss, auto, reconnectsOn, channel, streaming]
  · simp only [missPass, if_neg late]
    exact .wait here (on.imp_right And.right) same rfl

theorem readPass_moves (driver : SensorDriver) (loop : Loop) (now : Int)
    (here : loop.phase = .waiting) :
    Moves driver loop (readPass driver loop now).1 (readPass driver loop now).2 := by
  rcases reading : driver.stream.read driver.unread with ⟨stream, packets⟩
  have all : found driver = packets := by rw [found, reading]
  simp only [readPass, reading]
  by_cases on : driver.isStreaming = true ∨
      (loop.connectionLost = true ∧ driver.autoReconnect = true)
  · rw [if_pos on]
    cases packets with
    | nil => exact missPass_moves driver _ loop now here rfl on
    | cons packet rest =>
      exact .read packet rest here (on.imp_right And.right) all rfl rfl rfl
  · rw [if_neg on]
    have off := not_or.mp on
    exact .finish here (Bool.eq_false_iff.mpr off.1) (leaveStream_control driver) rfl rfl

theorem putPacket_control (driver : SensorDriver) (loop : UpdateState) (packet : Bytes)
    (rest : List Bytes) :
    control { driver with toDriver := (putPacket driver.toDriver loop packet rest).1 } =
      control driver := by
  obtain ⟨_, auto, streaming, _⟩ := putPacket_spec driver.toDriver loop packet rest
  simp only [control, auto, streaming]

theorem loopStep_moves (driver : SensorDriver) (loop : Loop) (input : LoopInput) :
    Moves driver loop (loopStep driver loop input).1 (loopStep driver loop input).2 := by
  unfold loopStep
  split
  next here => exact .enter here (enterStream_control driver input.bound) rfl rfl
  next here => exact readPass_moves driver loop input.now here
  next packet rest here =>
    refine .put packet rest here (putPacket_control driver _ packet rest) ?_ rfl
    simp only [(putPacket_spec driver.toDriver _ packet rest).2.2.2]
    cases rest <;> rfl
  next here => exact .close here rfl rfl rfl
  next here => exact .reopen input.attempt.opening here rfl rfl rfl
  next here =>
    obtain ⟨channel, reconnected, ended, settled⟩ :=
      restart_settles driver.channel driver.outputRate.mode.parameterValue input.attempt
    refine .restart input.attempt channel reconnected here settled ?_ ?_ ?_
    · simp only [ended, control]
    · simp only [ended, Except.ok.injEq]
    · rfl
  next here => exact .restore here rfl rfl rfl
  next here => exact .rest here rfl rfl

/-- A step never turns a flag on, and turns `is_streaming` off only if nothing is to reconnect. -/
theorem loopStep_flags (driver : SensorDriver) (loop : Loop) (input : LoopInput) :
    (loopStep driver loop input).1.autoReconnect = driver.autoReconnect ∧
      ((loopStep driver loop input).1.isStreaming = driver.isStreaming ∨
        ((loopStep driver loop input).1.isStreaming = false ∧ driver.autoReconnect = false)) := by
  have flags {after : SensorDriver} {streaming : Bool} {channel : Channel}
      (shared : control after = ⟨streaming, driver.autoReconnect, channel⟩)
      (turned : streaming = driver.isStreaming ∨
        (streaming = false ∧ driver.autoReconnect = false)) :
      after.autoReconnect = driver.autoReconnect ∧
        (after.isStreaming = driver.isStreaming ∨
          (after.isStreaming = false ∧ driver.autoReconnect = false)) := by
    obtain ⟨streamingAfter, reconnects, _⟩ := Control.mk.inj shared
    exact ⟨reconnects, streamingAfter ▸ turned⟩
  cases loopStep_moves driver loop input with
  | enter here same phase lost => exact flags same (.inl rfl)
  | read packet rest here on packets same phase lost => exact flags same (.inl rfl)
  | wait here on same still => exact flags same (.inl rfl)
  | lose here before on closed phase lost =>
    refine flags closed ?_
    cases driver.autoReconnect with
    | false => exact .inr ⟨rfl, rfl⟩
    | true => exact .inl on.symm
  | miss here before on same phase lost =>
    refine flags same ?_
    cases driver.autoReconnect with
    | false => exact .inr ⟨Bool.and_false _, rfl⟩
    | true => exact .inl (Bool.and_true _)
  | finish here off same phase lost => exact flags same (.inl rfl)
  | put packet rest here same phase lost => exact flags same (.inl rfl)
  | close here closed phase lost => exact flags closed (.inl rfl)
  | reopen opening here opened phase lost => exact flags opened (.inl rfl)
  | restart attempt channel reconnected here settled restarted phase lost =>
    exact flags restarted (.inl rfl)
  | restore here same phase lost => exact flags same (.inl rfl)
  | rest here same still =>
    rw [same]
    exact ⟨rfl, .inl rfl⟩

/-! ### The data -/

/-- Entering the stream changes nothing of it but whether it is open. -/
theorem enterStream_data (driver : SensorDriver) (bound : Bool) :
    (driver.enterStream bound).ftData = driver.ftData ∧
      (driver.enterStream bound).unread = driver.unread ∧
      { (driver.enterStream bound).stream with isOpen := driver.stream.isOpen } =
        driver.stream := by
  unfold SensorDriver.enterStream
  split_ifs <;> exact ⟨rfl, rfl, rfl⟩

theorem leaveStream_data (driver : SensorDriver) :
    driver.leaveStream.ftData = driver.ftData ∧
      (driver.leaveStream.unread = driver.unread ∨ driver.leaveStream.unread = []) := by
  unfold SensorDriver.leaveStream
  split_ifs
  · exact ⟨rfl, .inl rfl⟩
  · exact ⟨rfl, .inr rfl⟩

theorem missPass_data (driver : SensorDriver) (loop : Loop) (now : Int) :
    (missPass driver loop now).1.ftData = driver.ftData ∧
      (missPass driver loop now).1.unread = driver.unread ∧
      (missPass driver loop now).1.stream = driver.stream := by
  simp only [missPass]
  split_ifs <;> exact ⟨rfl, rfl, rfl⟩

theorem readPass_data (driver : SensorDriver) (loop : Loop) (now : Int) :
    (readPass driver loop now).1.ftData = driver.ftData ∧
      ((readPass driver loop now).1.unread = driver.unread ∨
        (readPass driver loop now).1.unread = []) := by
  rcases reading : driver.stream.read driver.unread with ⟨stream, packets⟩
  simp only [readPass, reading]
  by_cases on : driver.isStreaming = true ∨ (loop.connectionLost = true ∧ driver.autoReconnect = true)
  · rw [if_pos on]
    have emptied : (if driver.stream.isOpen = true then [] else driver.unread) = driver.unread ∨
        (if driver.stream.isOpen = true then [] else driver.unread) = [] := by
      split_ifs
      · exact .inr rfl
      · exact .inl rfl
    cases packets with
    | nil =>
      obtain ⟨ftData, unread, _⟩ := missPass_data { driver with
        stream := stream, unread := if driver.stream.isOpen then [] else driver.unread } loop now
      exact ⟨ftData, by rw [unread]; exact emptied⟩
    | cons packet rest => exact ⟨rfl, emptied⟩
  · rw [if_neg on]
    exact leaveStream_data driver

/-- A step of a loop puts the packet it holds, if anything, and unread datagrams are read or lost. -/
theorem loopStep_data (driver : SensorDriver) (loop : Loop) (input : LoopInput) :
    ((loopStep driver loop input).1.ftData = driver.ftData ∨
        ∃ packet rest, loop.phase = .putting packet rest ∧
          (loopStep driver loop input).1.ftData = driver.ftData.put packet) ∧
      ((loopStep driver loop input).1.unread = driver.unread ∨
        (loopStep driver loop input).1.unread = []) := by
  unfold loopStep
  split
  next =>
    obtain ⟨ftData, unread, _⟩ := enterStream_data driver input.bound
    exact ⟨.inl ftData, .inl unread⟩
  next =>
    obtain ⟨ftData, unread⟩ := readPass_data driver loop input.now
    exact ⟨.inl ftData, unread⟩
  next packet rest here =>
    refine ⟨?_, .inl rfl⟩
    dsimp only
    rw [(putPacket_spec driver.toDriver _ packet rest).1]
    split_ifs
    · exact .inl rfl
    · exact .inr ⟨packet, rest, here, rfl⟩
  next => exact ⟨.inl rfl, .inl rfl⟩
  next => exact ⟨.inl rfl, .inl rfl⟩
  next => exact ⟨.inl rfl, .inl rfl⟩
  next => exact ⟨.inl rfl, .inl rfl⟩
  next => exact ⟨.inl rfl, .inl rfl⟩

/-- A call touches neither the buffer nor the stream. -/
theorem mainStep_data (s : System) (input : MainInput) :
    (s.mainStep input).driver.ftData = s.driver.ftData ∧
      (s.mainStep input).driver.unread = s.driver.unread ∧
      (s.mainStep input).driver.stream = s.driver.stream := by
  unfold System.mainStep
  split
  next =>
    dsimp only
    split_ifs <;> exact ⟨rfl, rfl, rfl⟩
  next => exact ⟨rfl, rfl, rfl⟩
  next => exact ⟨rfl, rfl, rfl⟩
  next => split <;> exact ⟨rfl, rfl, rfl⟩
  next => split <;> exact ⟨rfl, rfl, rfl⟩
  next => split <;> exact ⟨rfl, rfl, rfl⟩
  next => split <;> exact ⟨rfl, rfl, rfl⟩
  next => split <;> exact ⟨rfl, rfl, rfl⟩
  next => split <;> exact ⟨rfl, rfl, rfl⟩
  next => exact ⟨rfl, rfl, rfl⟩
  next => split <;> exact ⟨rfl, rfl, rfl⟩
  next => exact ⟨rfl, rfl, rfl⟩
  next => exact ⟨rfl, rfl, rfl⟩

/-! ### An attempt to reconnect -/

/-- How many stages of an attempt to reconnect are left. -/
def stagesLeft : LoopPhase → Nat
  | .sleeping => 4
  | .reopening => 3
  | .restarting => 2
  | .stabilizing => 1
  | _ => 0

theorem stagesLeft_falls (driver : SensorDriver) (loop : Loop) (input : LoopInput)
    (attempting : 0 < stagesLeft loop.phase) :
    stagesLeft (loopStep driver loop input).2.phase < stagesLeft loop.phase := by
  unfold loopStep
  cases here : loop.phase with
  | sleeping => exact Nat.lt_succ_self 3
  | reopening =>
    dsimp only
    split_ifs <;> simp [stagesLeft]
  | restarting =>
    dsimp only
    split_ifs <;> simp [stagesLeft]
  | stabilizing => exact Nat.zero_lt_one
  | _ =>
    rw [here] at attempting
    cases attempting

end SchunkFts.Library.LoopSteps
