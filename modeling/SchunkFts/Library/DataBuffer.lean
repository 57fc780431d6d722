import SchunkFts.Foundation.Queue
import SchunkFts.Library.Packet

/-! `FTDataBuffer`: a bounded queue of packets, and the samples of a packaged packet that `get` has
begun to hand out. Clock readings are nanoseconds. -/

namespace SchunkFts.Library.DataBuffer
open SchunkFts.Foundation.Struct SchunkFts.Foundation.Queue Packet

structure FTDataBuffer where
  queue : BoundedQueue Bytes
  pendingSamples : List FTData
  lastPacketTime : Int
  noDataWarningPrinted : Bool
  droppedPacketCount : Nat

def noForce : Wrench := ⟨0, 0, 0, 0, 0, 0⟩

/-- The `FTData` that stands for no signal. -/
def noSignal : FTData where
  sync := []
  counter := 0
  payload := 0
  id := 0
  statusBits := 0
  wrench := noForce

def noSignalSample : FTSample where
  counter := 0
  packetId := 0
  sampleIndex := 0
  samplesPerPacket := 1
  statusBits := 0
  wrench := noForce

namespace FTDataBuffer

def new (maxsize : Nat) (now : Int) : FTDataBuffer where
  queue := .new maxsize
  pendingSamples := []
  lastPacketTime := now
  noDataWarningPrinted := false
  droppedPacketCount := 0

def len (buffer : FTDataBuffer) : Nat := buffer.queue.items.length + buffer.pendingSamples.length

def clear (buffer : FTDataBuffer) (now : Int) : FTDataBuffer :=
  { buffer with queue := buffer.queue.clear, pendingSamples := [], lastPacketTime := now }

def put (buffer : FTDataBuffer) (packet : Bytes) : FTDataBuffer :=
  match buffer.queue.putNowait packet with
  | some queue => { buffer with queue := queue, noDataWarningPrinted := false }
  | none => { buffer with droppedPacketCount := buffer.droppedPacketCount + 1 }

/-- Nothing has arrived for more than a second. -/
def Silent (buffer : FTDataBuffer) (now : Int) : Prop := 1000000000 < now - buffer.lastPacketTime

instance (buffer : FTDataBuffer) (now : Int) : Decidable (buffer.Silent now) :=
  inferInstanceAs (Decidable (_ < _))

/-- The answer of an empty queue, which both readers give with their own placeholder. -/
def onEmpty {α : Type} (buffer : FTDataBuffer) (now : Int) (placeholder : α) :
    FTDataBuffer × Result (Option α) :=
  if buffer.Silent now then ({ buffer with noDataWarningPrinted := true }, .ok (some placeholder))
  else (buffer, .ok none)

/-- What was changed before an exception stays changed. -/
def get (buffer : FTDataBuffer) (now : Int) : FTDataBuffer × Result (Option FTData) :=
  match buffer.pendingSamples with
  | sample :: rest =>
      ({ buffer with pendingSamples := rest, lastPacketTime := now }, .ok (some sample))
  | [] =>
      match buffer.queue.getNowait with
      | none => buffer.onEmpty now noSignal
      | some (packet, queue) =>
          let taken := { buffer with queue := queue, lastPacketTime := now }
          match decodePacket packet with
          | .error error => (taken, .error error)
          | .ok [] => (taken, .error .indexError)
          | .ok (first :: rest) => ({ taken with pendingSamples := rest }, .ok (some first))

def getSampleBatch (buffer : FTDataBuffer) (now : Int) :
    FTDataBuffer × Result (Option (List FTSample)) :=
  match buffer.queue.getNowait with
  | none => buffer.onEmpty now [noSignalSample]
  | some (packet, queue) =>
      let taken := { buffer with queue := queue, lastPacketTime := now }
      match decodeSampleBatch packet with
      | .error error => (taken, .error error)
      | .ok samples => (taken, .ok (some samples))

/-! ### One lemma for every way a call can go -/

theorem put_full (buffer : FTDataBuffer) (packet : Bytes) (full : buffer.queue.Full) :
    buffer.put packet = { buffer with droppedPacketCount := buffer.droppedPacketCount + 1 } := by
  rw [put, BoundedQueue.putNowait_full buffer.queue packet full]

theorem put_room (buffer : FTDataBuffer) (packet : Bytes) (room : ¬buffer.queue.Full) :
    ∃ queue : BoundedQueue Bytes, queue.items = buffer.queue.items ++ [packet] ∧
      queue.maxsize = buffer.queue.maxsize ∧
      buffer.put packet = { buffer with queue := queue, noDataWarningPrinted := false } := by
  obtain ⟨queue, stored, items, maxsize⟩ := buffer.queue.putNowait_room packet room
  refine ⟨queue, items, maxsize, ?_⟩
  rw [put, stored]

theorem onEmpty_state {α : Type} (buffer : FTDataBuffer) (now : Int) (placeholder : α) :
    ∃ printed, (buffer.onEmpty now placeholder).1 = { buffer with noDataWarningPrinted := printed } := by
  unfold onEmpty
  split_ifs
  · exact ⟨true, rfl⟩
  · exact ⟨buffer.noDataWarningPrinted, rfl⟩

theorem get_pending (buffer : FTDataBuffer) (now : Int) (sample : FTData) (rest : List FTData)
    (held : buffer.pendingSamples = sample :: rest) :
    buffer.get now =
      ({ buffer with pendingSamples := rest, lastPacketTime := now }, .ok (some sample)) := by
  rw [get, held]

theorem get_empty (buffer : FTDataBuffer) (now : Int) (none_held : buffer.pendingSamples = [])
    (empty : buffer.queue.items = []) : buffer.get now = buffer.onEmpty now noSignal := by
  rw [get, none_held, BoundedQueue.getNowait_nil _ empty]

theorem get_packet (buffer : FTDataBuffer) (now : Int) (packet : Bytes) (rest : List Bytes)
    (none_held : buffer.pendingSamples = []) (content : buffer.queue.items = packet :: rest) :
    ∃ queue : BoundedQueue Bytes, queue.items = rest ∧ queue.maxsize = buffer.queue.maxsize ∧
      buffer.get now =
        match decodePacket packet with
        | .error error =>
            ({ buffer with queue := queue, lastPacketTime := now }, .error error)
        | .ok [] => ({ buffer with queue := queue, lastPacketTime := now }, .error .indexError)
        | .ok (first :: others) =>
            ({ buffer with queue := queue, lastPacketTime := now, pendingSamples := others },
              .ok (some first)) := by
  obtain ⟨queue, taken, items, maxsize⟩ := buffer.queue.getNowait_cons packet rest content
  refine ⟨queue, items, maxsize, ?_⟩
  simp only [get, none_held, taken]

theorem getSampleBatch_empty (buffer : FTDataBuffer) (now : Int)
    (empty : buffer.queue.items = []) :
    buffer.getSampleBatch now = buffer.onEmpty now [noSignalSample] := by
  rw [getSampleBatch, BoundedQueue.getNowait_nil _ empty]

theorem getSampleBatch_packet (buffer : FTDataBuffer) (now : Int) (packet : Bytes)
    (rest : List Bytes) (content : buffer.queue.items = packet :: rest) :
    ∃ queue : BoundedQueue Bytes, queue.items = rest ∧ queue.maxsize = buffer.queue.maxsize ∧
      buffer.getSampleBatch now =
        ({ buffer with queue := queue, lastPacketTime := now }, some <$> decodeSampleBatch packet) := by
  obtain ⟨queue, taken, items, maxsize⟩ := buffer.queue.getNowait_cons packet rest content
  refine ⟨queue, items, maxsize, ?_⟩
  simp only [getSampleBatch, taken]
  cases decodeSampleBatch packet with
  | error error => rfl
  | ok samples => rfl

end FTDataBuffer
end SchunkFts.Library.DataBuffer
