import SchunkFts.Library.SingleLoop

/-! Which packets the samples of a session come from. Neither `streaming_on` nor `streaming_off`
empties the buffer, so a session begins with what the last one has left; from a moment at which
nothing is left, every sample comes from a datagram that has arrived since. -/

namespace SchunkFts.Library.SessionSamples
open SchunkFts.Foundation.Struct SchunkFts.Foundation.Queue SchunkFts.Foundation.Run
open Packet DataBuffer DriverSettings UpdateLoop Streaming LoopSteps SingleLoop

def arrivals : List Action → List Datagram
  | [] => []
  | .arrive datagram :: later => datagram :: arrivals later
  | _ :: later => arrivals later

/-- What a call returns here was decoded from one of these datagrams, or tells of no signal because
the buffer is empty. -/
structure DecodedFrom (datagrams : List Datagram) (driver : SensorDriver) : Prop where
  sample : ∀ now sample, (driver.sample now).2 = .ok (some sample) →
    (sample = noSignal ∧ driver.ftData.len = 0) ∨
      ∃ datagram ∈ datagrams, ∃ samples,
        decodePacket (datagram.data.take 8192) = .ok samples ∧ sample ∈ samples
  sampleBatch : ∀ now samples, (driver.sampleBatch now).2 = .ok (some samples) →
    (samples = [noSignalSample] ∧ driver.ftData.queue.items = []) ∨
      ∃ datagram ∈ datagrams, decodeSampleBatch (datagram.data.take 8192) = .ok samples
  status : ∀ now status, (driver.getStatus now).2 = .ok (some status) →
    (status = .fromBits noSignal.statusBits ∧ driver.ftData.len = 0) ∨
      ∃ datagram ∈ datagrams, ∃ samples, decodePacket (datagram.data.take 8192) = .ok samples ∧
        ∃ sample ∈ samples, status = .fromBits sample.statusBits

/-- Nothing is left anywhere: not in the buffer, nor in the socket, nor in the hands of a loop. -/
structure Clean (s : System) : Prop where
  buffer : s.driver.ftData.len = 0
  socket : s.driver.unread = []
  loops : ∀ loop ∈ s.loops, ∀ packet rest, loop.phase ≠ .putting packet rest

/-- A packet as one of the datagrams. -/
def Received (datagrams : List Datagram) (packet : Bytes) : Prop :=
  ∃ datagram ∈ datagrams, packet = datagram.data.take 8192

/-! ### The buffer -/

/-- A buffer whose packets and samples all come from these datagrams. -/
structure Holds (datagrams : List Datagram) (buffer : FTDataBuffer) : Prop where
  queue : ∀ packet ∈ buffer.queue.items, Received datagrams packet
  pending : ∀ sample ∈ buffer.pendingSamples, ∃ packet samples,
    Received datagrams packet ∧ decodePacket packet = .ok samples ∧ sample ∈ samples

theorem holds_put {datagrams : List Datagram} {buffer : FTDataBuffer}
    (holds : Holds datagrams buffer) (packet : Bytes) (received : Received datagrams packet) :
    Holds datagrams (buffer.put packet) := by
  by_cases full : buffer.queue.Full
  · rw [buffer.put_full packet full]
    exact ⟨holds.queue, holds.pending⟩
  · obtain ⟨queue, items, _, stored⟩ := buffer.put_room packet full
    rw [stored]
    refine ⟨fun other member => ?_, holds.pending⟩
    rw [items, List.mem_append, List.mem_singleton] at member
    rcases member with old | rfl
    · exact holds.queue other old
    · exact received

theorem holds_clear (datagrams : List Datagram) (buffer : FTDataBuffer) (now : Int) :
    Holds datagrams (buffer.clear now) where
  queue packet member := by
    simp only [FTDataBuffer.clear, BoundedQueue.clear, List.not_mem_nil] at member
  pending sample member := by
    simp only [FTDataBuffer.clear, List.not_mem_nil] at member

/-- `get` keeps what it holds, and returns from it. -/
theorem holds_get {datagrams : List Datagram} {buffer : FTDataBuffer}
    (holds : Holds datagrams buffer) (now : Int) :
    Holds datagrams (buffer.get now).1 ∧
      ∀ sample, (buffer.get now).2 = .ok (some sample) →
        (sample = noSignal ∧ buffer.len = 0) ∨ ∃ packet samples,
          Received datagrams packet ∧ decodePacket packet = .ok samples ∧ sample ∈ samples := by
  cases held : buffer.pendingSamples with
  | cons first rest =>
    rw [buffer.get_pending now first rest held]
    refine ⟨⟨holds.queue, fun sample member => ?_⟩, fun sample returned => ?_⟩
    · exact holds.pending sample (by rw [held]; exact List.mem_cons_of_mem _ member)
    · have same : first = sample := by simpa using returned
      exact .inr (holds.pending sample (by rw [held, same]; exact List.mem_cons_self))
  | nil =>
    cases content : buffer.queue.items with
    | nil =>
      rw [buffer.get_empty now held content]
      obtain ⟨printed, state⟩ := buffer.onEmpty_state now noSignal
      refine ⟨by rw [state]; exact ⟨holds.queue, holds.pending⟩, fun sample returned => ?_⟩
      left
      unfold FTDataBuffer.onEmpty at returned
      split_ifs at returned
      · exact ⟨by simpa using returned.symm, by simp [FTDataBuffer.len, content, held]⟩
      · simp at returned
    | cons packet rest =>
      obtain ⟨queue, items, _, result⟩ := buffer.get_packet now packet rest held content
      have received : Received datagrams packet :=
        holds.queue packet (by rw [content]; exact List.mem_cons_self)
      have left_ : ∀ other ∈ queue.items, Received datagrams other := by
        intro other member
        rw [items] at member
        exact holds.queue other (by rw [content]; exact List.mem_cons_of_mem _ member)
      rw [result]
      rcases decoded : decodePacket packet with error | (_ | ⟨first, others⟩)
      · exact ⟨⟨left_, holds.pending⟩, nofun⟩
      · exact ⟨⟨left_, holds.pending⟩, nofun⟩
      · refine ⟨⟨left_, fun sample member => ?_⟩, fun sample returned => ?_⟩
        · exact ⟨packet, first :: others, received, decoded, List.mem_cons_of_mem _ member⟩
        · have same : first = sample := by simpa using returned
          exact .inr ⟨packet, first :: others, received, decoded, same ▸ List.mem_cons_self⟩

theorem holds_getSampleBatch {datagrams : List Datagram} {buffer : FTDataBuffer}
    (holds : Holds datagrams buffer) (now : Int) :
    Holds datagrams (buffer.getSampleBatch now).1 ∧
      ∀ samples, (buffer.getSampleBatch now).2 = .ok (some samples) →
        (samples = [noSignalSample] ∧ buffer.queue.items = []) ∨ ∃ packet,
          Received datagrams packet ∧ decodeSampleBatch packet = .ok samples := by
  cases content : buffer.queue.items with
  | nil =>
    rw [buffer.getSampleBatch_empty now content]
    obtain ⟨printed, state⟩ := buffer.onEmpty_state now [noSignalSample]
    refine ⟨by rw [state]; exact ⟨holds.queue, holds.pending⟩, fun samples returned => ?_⟩
    left
    unfold FTDataBuffer.onEmpty at returned
    split_ifs at returned
    · exact ⟨by simpa using returned.symm, rfl⟩
    · simp at returned
  | cons packet rest =>
    obtain ⟨queue, items, _, result⟩ := buffer.getSampleBatch_packet now packet rest content
    have received : Received datagrams packet :=
      holds.queue packet (by rw [content]; exact List.mem_cons_self)
    rw [result]
    refine ⟨⟨fun other member => ?_, holds.pending⟩, fun samples returned => ?_⟩
    · rw [items] at member
      exact holds.queue other (by rw [content]; exact List.mem_cons_of_mem _ member)
    · cases decoded : decodeSampleBatch packet with
      | error error =>
        rw [decoded] at returned
        cases returned
      | ok batch =>
        rw [decoded] at returned
        have same : batch = samples := by simpa using returned
        exact .inr ⟨packet, received, same ▸ decoded⟩

/-! ### The loops and the calls -/

/-- What a loop is about to put comes from these datagrams. -/
def Carries (datagrams : List Datagram) (loop : Loop) : Prop :=
  ∀ packet rest, loop.phase = .putting packet rest →
    ∀ held ∈ packet :: rest, Received datagrams held

/-- All there is comes from these datagrams. -/
structure From (datagrams : List Datagram) (s : System) : Prop where
  buffer : Holds datagrams s.driver.ftData
  socket : ∀ datagram ∈ s.driver.unread, datagram ∈ datagrams
  loops : ∀ loop ∈ s.loops, Carries datagrams loop

theorem Clean.from {s : System} (clean : Clean s) : From [] s := by
  have empty := clean.buffer
  unfold FTDataBuffer.len at empty
  have queue : s.driver.ftData.queue.items = [] := List.length_eq_zero_iff.mp (by omega)
  have pending : s.driver.ftData.pendingSamples = [] := List.length_eq_zero_iff.mp (by omega)
  refine ⟨⟨?_, ?_⟩, ?_, ?_⟩
  · rw [queue]
    exact nofun
  · rw [pending]
    exact nofun
  · rw [clean.socket]
    exact nofun
  · intro loop member packet rest here
    exact absurd here (clean.loops loop member packet rest)

/-- The packets a loop holds after a step are those it held, or those it has read. -/
theorem carries_loopStep {datagrams : List Datagram} {driver : SensorDriver} {loop : Loop}
    (carries : Carries datagrams loop)
    (socket : ∀ datagram ∈ driver.unread, datagram ∈ datagrams) (input : LoopInput) :
    Carries datagrams (loopStep driver loop input).2 := by
  have holding_nothing {next : Loop} (elsewhere : ∀ packet rest, next.phase ≠ .putting packet rest) :
      Carries datagrams next := fun packet rest here => absurd here (elsewhere packet rest)
  cases loopStep_moves driver loop input with
  | enter here same phase lost => exact holding_nothing (by simp [phase])
  | read packet rest here on packets same phase lost =>
    intro first others there held member
    rw [phase] at there
    cases there
    rw [← packets] at member
    obtain ⟨datagram, arrived, same⟩ := read_packets driver.stream driver.unread held member
    exact ⟨datagram, socket datagram arrived, same⟩
  | wait here on same still =>
    rw [still]
    exact carries
  | lose here before on closed phase lost =>
    exact holding_nothing (by cases auto : driver.autoReconnect <;> simp [phase, auto, afterMiss])
  | miss here before on same phase lost =>
    exact holding_nothing (by cases auto : driver.autoReconnect <;> simp [phase, auto, afterMiss])
  | finish here off same phase lost => exact holding_nothing (by simp [phase])
  | put packet rest here same phase lost =>
    intro first others there held member
    rw [phase] at there
    cases rest with
    | nil => cases there
    | cons second later =>
      cases there
      exact carries packet (first :: others) here held (List.mem_cons_of_mem _ member)
  | close here closed phase lost => exact holding_nothing (by simp [phase])
  | reopen opening here opened phase lost =>
    exact holding_nothing (by rw [phase]; split_ifs <;> simp)
  | restart attempt channel reconnected here settled restarted phase lost =>
    exact holding_nothing (by rw [phase]; split_ifs <;> simp)
  | restore here same phase lost => exact holding_nothing (by simp [phase])
  | rest here same still =>
    rw [still]
    exact carries

theorem from_stepLoop {datagrams : List Datagram} {s : System} (source : From datagrams s)
    (index : Nat) (input : LoopInput) : From datagrams (s.stepLoop index input) := by
  unfold System.stepLoop
  split
  next loop here =>
    have member := List.mem_of_getElem? here
    obtain ⟨buffer, socket⟩ := loopStep_data s.driver loop input
    refine ⟨?_, fun datagram unread => ?_, fun other there => ?_⟩
    · rcases buffer with same | ⟨packet, rest, putting, stored⟩
      · exact same ▸ source.buffer
      · have received := source.loops loop member packet rest putting packet List.mem_cons_self
        exact stored ▸ holds_put source.buffer packet received
    · rcases socket with same | emptied
      · exact source.socket datagram (same ▸ unread)
      · rw [emptied] at unread
        cases unread
    · rcases List.mem_or_eq_of_mem_set there with old | new
      · exact source.loops other old
      · exact new ▸ carries_loopStep (source.loops loop member) source.socket input
  next => exact source

/-- A call starts loops that hold nothing yet, and does not touch the data. -/
theorem from_main {datagrams : List Datagram} {s : System} (source : From datagrams s)
    (input : MainInput) : From datagrams (s.mainStep input) := by
  obtain ⟨ftData, unread, _⟩ := mainStep_data s input
  refine ⟨ftData ▸ source.buffer, unread ▸ source.socket, fun loop member => ?_⟩
  rcases mainStep_loops s input with same | ⟨autoReconnect, here, spawned, awaiting⟩
  · exact source.loops loop (same ▸ member)
  · rw [spawned, List.mem_append, List.mem_singleton] at member
    rcases member with old | rfl
    · exact source.loops loop old
    · exact nofun

/-! ### Runs -/

theorem From.more {datagrams : List Datagram} {s : System} (source : From datagrams s)
    (more : List Datagram) : From (datagrams ++ more) s := by
  have received {packet : Bytes} (was : Received datagrams packet) :
      Received (datagrams ++ more) packet := by
    obtain ⟨datagram, member, same⟩ := was
    exact ⟨datagram, List.mem_append_left more member, same⟩
  refine ⟨⟨fun packet member => received (source.buffer.queue packet member), ?_⟩, ?_, ?_⟩
  · intro sample member
    obtain ⟨packet, samples, was, decoded, inside⟩ := source.buffer.pending sample member
    exact ⟨packet, samples, received was, decoded, inside⟩
  · exact fun datagram member => List.mem_append_left more (source.socket datagram member)
  · intro loop member packet rest here held inside
    exact received (source.loops loop member packet rest here held inside)

theorem from_step {datagrams : List Datagram} {s : System} (source : From datagrams s)
    (action : Action) : From (datagrams ++ arrivals [action]) (s.step action) := by
  have bufferOnly (buffer : FTDataBuffer) (holds : Holds datagrams buffer) :
      From datagrams { s with driver := { s.driver with ftData := buffer } } :=
    ⟨holds, source.socket, source.loops⟩
  cases action with
  | arrive datagram =>
    have more := source.more [datagram]
    simp only [arrivals, System.step]
    unfold SensorDriver.arrive
    split_ifs
    · refine ⟨more.buffer, fun other member => ?_, more.loops⟩
      rcases List.mem_append.mp member with old | new
      · exact more.socket other old
      · exact List.mem_append_right datagrams new
    · exact more
  | streamingOn floatTimeout autoReconnect =>
    simp only [arrivals, List.append_nil, System.step]
    unfold System.streamingOn
    split_ifs <;> exact ⟨source.buffer, source.socket, source.loops⟩
  | streamingOff =>
    simp only [arrivals, List.append_nil, System.step]
    split_ifs <;> exact ⟨source.buffer, source.socket, source.loops⟩
  | main input =>
    simp only [arrivals, List.append_nil]
    exact from_main source input
  | loop index input =>
    simp only [arrivals, List.append_nil]
    exact from_stepLoop source index input
  | command command outcome =>
    simp only [arrivals, List.append_nil]
    exact ⟨source.buffer, source.socket, source.loops⟩
  | sample now =>
    simp only [arrivals, List.append_nil, System.step, SensorDriver.sample]
    split_ifs
    · exact bufferOnly _ (holds_get source.buffer now).1
    · exact source
  | sampleBatch now =>
    simp only [arrivals, List.append_nil, System.step, SensorDriver.sampleBatch,
      UpdateLoop.Driver.sampleBatch]
    split_ifs
    · exact bufferOnly _ (holds_getSampleBatch source.buffer now).1
    · exact source
  | clearSamples now =>
    simp only [arrivals, List.append_nil]
    exact bufferOnly _ (holds_clear datagrams s.driver.ftData now)

theorem arrivals_cons (action : Action) (later : List Action) :
    arrivals (action :: later) = arrivals [action] ++ arrivals later := by
  cases action <;> rfl

theorem arrivals_append (first second : List Action) :
    arrivals (first ++ second) = arrivals first ++ arrivals second := by
  induction first with
  | nil => rfl
  | cons action later ih =>
    rw [List.cons_append, arrivals_cons, ih, arrivals_cons action later, List.append_assoc]

theorem from_run {datagrams : List Datagram} {s : System} (source : From datagrams s)
    (actions : List Action) :
    From (datagrams ++ arrivals actions) (run System.step s actions) := by
  induction actions generalizing datagrams s with
  | nil =>
    rw [arrivals, List.append_nil]
    exact source
  | cons action later ih =>
    rw [arrivals_cons, ← List.append_assoc]
    exact ih (from_step source action)

theorem From.decoded {datagrams : List Datagram} {s : System} (source : From datagrams s) :
    DecodedFrom datagrams s.driver := by
  have samples : ∀ now sample, (s.driver.sample now).2 = .ok (some sample) →
      (sample = noSignal ∧ s.driver.ftData.len = 0) ∨
        ∃ datagram ∈ datagrams, ∃ samples,
          decodePacket (datagram.data.take 8192) = .ok samples ∧ sample ∈ samples := by
    intro now sample returned
    unfold SensorDriver.sample at returned
    split_ifs at returned
    · rcases (holds_get source.buffer now).2 sample returned with
        silent | ⟨_, samples, ⟨datagram, arrived, rfl⟩, decoded, inside⟩
      · exact .inl silent
      · exact .inr ⟨datagram, arrived, samples, decoded, inside⟩
    · cases returned
  refine ⟨samples, fun now batch returned => ?_, fun now status returned => ?_⟩
  · unfold SensorDriver.sampleBatch UpdateLoop.Driver.sampleBatch at returned
    split_ifs at returned
    · rcases (holds_getSampleBatch source.buffer now).2 batch returned with
        silent | ⟨_, ⟨datagram, arrived, rfl⟩, decoded⟩
      · exact .inl silent
      · exact .inr ⟨datagram, arrived, decoded⟩
    · cases returned
  · unfold SensorDriver.getStatus at returned
    split_ifs at returned
    · rcases sampled : s.driver.sample now with ⟨after, error | (_ | sample)⟩
      · simp [sampled] at returned
      · simp [sampled] at returned
      · have same : status = .fromBits sample.statusBits := by
          simpa [sampled, eq_comm] using returned
        rcases samples now sample (by rw [sampled]) with ⟨rfl, empty⟩ | decoded
        · exact .inl ⟨same, empty⟩
        · obtain ⟨datagram, arrived, all, decoded, inside⟩ := decoded
          exact .inr ⟨datagram, arrived, all, decoded, sample, inside, same⟩
    · cases returned

/-- Over every run of a new driver: if nothing is left at some moment after `streaming_on` is called,
then from there on every sample comes from a datagram that has arrived since the call. -/
theorem session_samples (streamingPort : Int) (sourceIp : Option String) (outputRate : OutputRate)
    (now : Int) (before opening session : List Action) (floatTimeout autoReconnect : Bool)
    (clean : Clean (run System.step (.new streamingPort sourceIp outputRate now)
      (before ++ .streamingOn floatTimeout autoReconnect :: opening))) :
    DecodedFrom (arrivals (opening ++ session))
      (run System.step (.new streamingPort sourceIp outputRate now)
        (before ++ .streamingOn floatTimeout autoReconnect :: opening ++ session)).driver := by
  have source := from_run (clean.from.more (arrivals opening)) session
  rw [List.nil_append, ← arrivals_append] at source
  rw [run, List.foldl_append]
  exact source.decoded

def answer (bytes : Bytes) : Action := .main { outcome := { received := some bytes } }

/-- `streaming_on()` after it has been called, with every request answered. -/
def answeredFor (index : Nat) : List Action :=
  [.main {}, .main {}, .loop index { now := 0 }, .main {},
    answer [0xff, 0xff, 0, 0, 6, 0, 0xf0, 0, 1, 0, 0, 0x46],
    answer [0xff, 0xff, 0, 0, 6, 0, 0xf0, 0, 1, 0, 3, 7],
    answer [0xff, 0xff, 0, 0, 5, 0, 0xf1, 0, 0x20, 0x10, 0],
    answer [0xff, 0xff, 0, 0, 2, 0, 0x40, 0]]

def arrivedPacket : Bytes := [0xff, 0xff, 0, 0, 29, 0, 0, 1, 0, 0, 0] ++ List.replicate 24 0

/-- One session: a packet is put into the buffer, and then `streaming_off` returns. -/
def unsampledSession : List Action :=
  .streamingOn true true :: answeredFor 0 ++
    [.arrive ⟨"192.168.0.100", arrivedPacket⟩, .loop 0 { now := 0 }, .loop 0 { now := 0 },
      .streamingOff, answer [0xff, 0xff, 0, 0, 2, 0, 0x41, 0], .main {}, .loop 0 { now := 0 },
      .main {}, .main {}]

theorem cleared_session_samples :
    DecodedFrom (arrivals ([.clearSamples 0] ++ answeredFor 1))
      (run System.step (.new 54843 none .hz1000 0)
        (unsampledSession ++ .streamingOn true true :: [.clearSamples 0] ++ answeredFor 1)).driver := by
  refine session_samples 54843 none .hz1000 0 unsampledSession [.clearSamples 0] (answeredFor 1)
    true true ⟨rfl, by decide, ?_⟩
  have loops : (run System.step (.new 54843 none .hz1000 0)
      (unsampledSession ++ .streamingOn true true :: [.clearSamples 0])).loops =
        [⟨.finished, 0, false⟩] := by decide
  rw [loops]
  simp

/-- The second session hands out the packet of the first one. -/
theorem leftover_packet_sampled :
    ¬∀ streamingPort sourceIp outputRate now before floatTimeout autoReconnect session,
      (run System.step (.new streamingPort sourceIp outputRate now)
        (before ++ .streamingOn floatTimeout autoReconnect :: session)).call = .returnedOn true →
          DecodedFrom (arrivals session) (run System.step
            (.new streamingPort sourceIp outputRate now)
            (before ++ .streamingOn floatTimeout autoReconnect :: session)).driver := by
  intro all
  have decoded := all 54843 none .hz1000 0 unsampledSession true true (answeredFor 1) (by decide)
  obtain ⟨sample, returned⟩ : ∃ sample, ((run System.step (.new 54843 none .hz1000 0)
      (unsampledSession ++ .streamingOn true true :: answeredFor 1)).driver.sample 0).2 =
        .ok (some sample) := ⟨_, rfl⟩
  rcases decoded.sample 0 sample returned with ⟨_, empty⟩ | ⟨datagram, arrived, _⟩
  · exact absurd empty (by decide)
  · simp [answeredFor, answer, arrivals] at arrived

end SchunkFts.Library.SessionSamples
