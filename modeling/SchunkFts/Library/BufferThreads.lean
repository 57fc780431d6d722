import SchunkFts.Foundation.Run
import SchunkFts.Foundation.Threads
import SchunkFts.Library.DataBuffer

/-! `FTDataBuffer` in the hands of several threads. The queue locks itself, and a single operation
on the deque is atomic; between two statements of a method any other thread may do anything. -/

namespace SchunkFts.Library.BufferThreads
open SchunkFts.Foundation SchunkFts.Foundation.Struct SchunkFts.Foundation.Queue
open SchunkFts.Foundation.Threads Packet DataBuffer

/-- The two methods that take packets. -/
inductive Reader where
  | get
  | getSampleBatch
  deriving DecidableEq, Repr

inductive Method where
  | put (packet : Bytes)
  | read (reader : Reader)
  | clear

/-- How a call ends; `emptied` is the `IndexError` of `popleft`. -/
inductive Answer where
  | done
  | nothing
  | noSignal (reader : Reader)
  | sample (sample : FTData)
  | samples (samples : List FTSample)
  | raised (reader : Reader) (error : PyError)
  | emptied

/-- The statement that a thread comes to next. -/
inductive Phase where
  | idle
  | putting (packet : Bytes)
  | resetting
  | dropping
  | counting (count : Nat)
  | checking
  | stamping
  | popping
  | waiting (reader : Reader)
  | taken (reader : Reader) (packet : Bytes)
  | decoding (reader : Reader) (packet : Bytes)
  | quiet (reader : Reader)
  | warning (reader : Reader)
  | warned (reader : Reader)
  | clearing
  | emptying
  | restamping

/-- Who has removed a packet from the queue: a reader, or `clear`. -/
abbrev Removal : Type := Option Reader × Bytes

/-- The buffer, and what has happened to it: the puts begun, the packets the queue has taken and
those it has refused, the refusals counted, and what has been removed. -/
structure Shared (Thread : Type) where
  buffer : FTDataBuffer
  offered : Nat
  accepted : List Bytes
  refused : Nat
  counted : Nat
  removed : List Removal
  discarded : List FTData
  answers : List (Thread × Answer)

variable {Thread : Type}

def Shared.new (maxsize : Nat) (now : Int) : Shared Thread where
  buffer := .new maxsize now
  offered := 0
  accepted := []
  refused := 0
  counted := 0
  removed := []
  discarded := []
  answers := []

def Shared.record (s : Shared Thread) (thread : Thread) (answer : Option Answer) : Shared Thread :=
  { s with answers := s.answers ++ (answer.map (fun answer => (thread, answer))).toList }

def batchAnswer (packet : Bytes) : Answer :=
  match decodeSampleBatch packet with
  | .ok samples => .samples samples
  | .error error => .raised .getSampleBatch error

/-- One statement of a thread. The wait of a reader ends with a packet or, if it is late, without;
decoding is the thread's own business, so it is one step with what follows. -/
def advance (s : Shared Thread) (now : Int) (late : Bool) :
    Phase → Shared Thread × Phase × Option Answer
  | .idle => (s, .idle, none)
  | .putting packet =>
      match s.buffer.queue.putNowait packet with
      | some queue =>
          ({ s with
              buffer := { s.buffer with queue := queue }, accepted := s.accepted ++ [packet] },
            .resetting, none)
      | none => ({ s with refused := s.refused + 1 }, .dropping, none)
  | .resetting => ({ s with buffer := { s.buffer with noDataWarningPrinted := false } }, .idle, some .done)
  | .dropping => (s, .counting s.buffer.droppedPacketCount, none)
  | .counting count =>
      ({ s with
          buffer := { s.buffer with droppedPacketCount := count + 1 }, counted := s.counted + 1 },
        .idle, some .done)
  | .checking =>
      match s.buffer.pendingSamples with
      | [] => (s, .waiting .get, none)
      | _ :: _ => (s, .stamping, none)
  | .stamping => ({ s with buffer := { s.buffer with lastPacketTime := now } }, .popping, none)
  | .popping =>
      match s.buffer.pendingSamples with
      | [] => (s, .idle, some .emptied)
      | sample :: rest =>
          ({ s with buffer := { s.buffer with pendingSamples := rest } }, .idle, some (.sample sample))
  | .waiting reader =>
      match s.buffer.queue.getNowait with
      | some (packet, queue) =>
          ({ s with
              buffer := { s.buffer with queue := queue }
              removed := s.removed ++ [(some reader, packet)] },
            .taken reader packet, none)
      | none => (s, if late then .quiet reader else .waiting reader, none)
  | .taken reader packet =>
      ({ s with buffer := { s.buffer with lastPacketTime := now } }, .decoding reader packet, none)
  | .decoding .get packet =>
      match decodePacket packet with
      | .error error => (s, .idle, some (.raised .get error))
      | .ok [] => (s, .idle, some (.raised .get .indexError))
      | .ok (first :: rest) =>
          ({ s with
              buffer := { s.buffer with pendingSamples := s.buffer.pendingSamples ++ rest } },
            .idle, some (.sample first))
  | .decoding .getSampleBatch packet => (s, .idle, some (batchAnswer packet))
  | .quiet reader =>
      if s.buffer.Silent now then (s, .warning reader, none) else (s, .idle, some .nothing)
  | .warning reader =>
      if s.buffer.noDataWarningPrinted then (s, .idle, some (.noSignal reader))
      else (s, .warned reader, none)
  | .warned reader =>
      ({ s with buffer := { s.buffer with noDataWarningPrinted := true } }, .idle,
        some (.noSignal reader))
  | .clearing =>
      ({ s with
          buffer := { s.buffer with queue := s.buffer.queue.clear }
          removed := s.removed ++ s.buffer.queue.items.map (fun packet => (none, packet)) },
        .emptying, none)
  | .emptying =>
      ({ s with
          buffer := { s.buffer with pendingSamples := [] }
          discarded := s.discarded ++ s.buffer.pendingSamples },
        .restamping, none)
  | .restamping =>
      ({ s with buffer := { s.buffer with lastPacketTime := now } }, .idle, some .done)

/-- The first statement of a method. -/
def Method.begin : Method → Phase
  | put packet => .putting packet
  | read .get => .checking
  | read .getSampleBatch => .waiting .getSampleBatch
  | clear => .clearing

def Method.offers : Method → Nat
  | put _ => 1
  | _ => 0

inductive Action (Thread : Type) where
  | call (thread : Thread) (method : Method)
  | step (thread : Thread) (now : Int) (late : Bool)

abbrev State (Thread : Type) : Type := System Thread (Shared Thread) Phase

def start (Thread : Type) (maxsize : Nat) (now : Int) : State Thread where
  shared := .new maxsize now
  own := fun _ => .idle

/-- A thread is in one call at a time. -/
def step [DecidableEq Thread] (s : State Thread) : Action Thread → State Thread
  | .call thread method =>
      match s.own thread with
      | .idle =>
          s.move thread { s.shared with offered := s.shared.offered + method.offers } method.begin
      | _ => s
  | .step thread now late =>
      let (shared, phase, answer) := advance s.shared now late (s.own thread)
      s.move thread (shared.record thread answer) phase

/-! ### What a statement does -/

/-- The samples that `get` makes of a packet. -/
def samplesOf (packet : Bytes) : List FTData := (decodePacket packet).toOption.getD []

/-- A thread with nothing in its hands. -/
def Phase.Free : Phase → Prop
  | .putting _ => False
  | .dropping => False
  | .counting _ => False
  | .taken _ _ => False
  | .decoding _ _ => False
  | _ => True

/-- On whose behalf a statement is made: a `put`, one of the two readers, or `clear`. -/
inductive Role where
  | none
  | put
  | get
  | getSampleBatch
  | clear
  deriving DecidableEq

def Reader.role : Reader → Role
  | get => .get
  | getSampleBatch => .getSampleBatch

def Phase.role : Phase → Role
  | idle => .none
  | putting _ => .put
  | resetting => .put
  | dropping => .put
  | counting _ => .put
  | checking => .get
  | stamping => .get
  | popping => .get
  | waiting reader => reader.role
  | taken reader _ => reader.role
  | decoding reader _ => reader.role
  | quiet reader => reader.role
  | warning reader => reader.role
  | warned reader => reader.role
  | clearing => .clear
  | emptying => .clear
  | restamping => .clear

/-- An answer that hands nothing out. -/
def Answer.Empty : Answer → Prop
  | .sample _ => False
  | .samples _ => False
  | .raised _ _ => False
  | .emptied => False
  | _ => True

/-- At most the clock reading and the warning flag differ. -/
structure Alike (s after : Shared Thread) : Prop where
  offered : after.offered = s.offered
  accepted : after.accepted = s.accepted
  refused : after.refused = s.refused
  counted : after.counted = s.counted
  removed : after.removed = s.removed
  discarded : after.discarded = s.discarded
  answers : after.answers = s.answers
  queue : after.buffer.queue = s.buffer.queue
  pendingSamples : after.buffer.pendingSamples = s.buffer.pendingSamples
  droppedPacketCount : after.buffer.droppedPacketCount = s.buffer.droppedPacketCount

/-- From one free phase to another: a call that has looked at the deque pops from a filled one, or
waits for a packet with an empty one. -/
structure Leads (s : Shared Thread) (phase next : Phase) : Prop where
  free : phase.Free
  freeNext : next.Free
  role : next = .idle ∨ next.role = phase.role
  pops : next = .stamping ∨ next = .popping → phase = .stamping ∨ s.buffer.pendingSamples ≠ []
  waits : next = .waiting .get → phase = .waiting .get ∨ s.buffer.pendingSamples = []

/-- One constructor for every way a statement can go. -/
inductive Moves (s : Shared Thread) (phase : Phase) : Shared Thread → Phase → Option Answer → Prop
  | rest (after : Shared Thread) (next : Phase) (answer : Option Answer) (leads : Leads s phase next)
      (alike : Alike s after) (empty : ∀ given, answer = some given → given.Empty) :
      Moves s phase after next answer
  | accept (packet : Bytes) (queue : BoundedQueue Bytes) (here : phase = .putting packet)
      (items : queue.items = s.buffer.queue.items ++ [packet]) :
      Moves s phase
        { s with buffer := { s.buffer with queue := queue }, accepted := s.accepted ++ [packet] }
        .resetting none
  | refuse (packet : Bytes) (here : phase = .putting packet) :
      Moves s phase { s with refused := s.refused + 1 } .dropping none
  | load (here : phase = .dropping) : Moves s phase s (.counting s.buffer.droppedPacketCount) none
  | count (value : Nat) (here : phase = .counting value) :
      Moves s phase
        { s with
          buffer := { s.buffer with droppedPacketCount := value + 1 }, counted := s.counted + 1 }
        .idle (some .done)
  | pop (sample : FTData) (rest : List FTData) (here : phase = .popping)
      (content : s.buffer.pendingSamples = sample :: rest) :
      Moves s phase { s with buffer := { s.buffer with pendingSamples := rest } } .idle
        (some (.sample sample))
  | miss (here : phase = .popping) (content : s.buffer.pendingSamples = []) :
      Moves s phase s .idle (some .emptied)
  | take (reader : Reader) (packet : Bytes) (queue : BoundedQueue Bytes)
      (here : phase = .waiting reader) (items : s.buffer.queue.items = packet :: queue.items) :
      Moves s phase
        { s with
          buffer := { s.buffer with queue := queue }
          removed := s.removed ++ [(some reader, packet)] }
        (.taken reader packet) none
  | stamp (after : Shared Thread) (reader : Reader) (packet : Bytes)
      (here : phase = .taken reader packet) (alike : Alike s after) :
      Moves s phase after (.decoding reader packet) none
  | give (packet : Bytes) (first : FTData) (rest : List FTData)
      (here : phase = .decoding .get packet) (samples : samplesOf packet = first :: rest) :
      Moves s phase
        { s with buffer := { s.buffer with pendingSamples := s.buffer.pendingSamples ++ rest } }
        .idle (some (.sample first))
  | fail (packet : Bytes) (error : PyError) (here : phase = .decoding .get packet)
      (samples : samplesOf packet = []) : Moves s phase s .idle (some (.raised .get error))
  | batch (packet : Bytes) (here : phase = .decoding .getSampleBatch packet) :
      Moves s phase s .idle (some (batchAnswer packet))
  | clear (here : phase = .clearing) :
      Moves s phase
        { s with
          buffer := { s.buffer with queue := s.buffer.queue.clear }
          removed := s.removed ++ s.buffer.queue.items.map (fun packet => (none, packet)) }
        .emptying none
  | empty (here : phase = .emptying) :
      Moves s phase
        { s with
          buffer := { s.buffer with pendingSamples := [] }
          discarded := s.discarded ++ s.buffer.pendingSamples }
        .restamping none

theorem Alike.refl (s : Shared Thread) : Alike s s := ⟨rfl, rfl, rfl, rfl, rfl, rfl, rfl, rfl, rfl, rfl⟩

theorem advance_moves (s : Shared Thread) (now : Int) (late : Bool) (phase : Phase) :
    Moves s phase (advance s now late phase).1 (advance s now late phase).2.1
      (advance s now late phase).2.2 := by
  have alike (time : Int) (printed : Bool) : Alike s
      { s with buffer := { s.buffer with lastPacketTime := time, noDataWarningPrinted := printed } } :=
    ⟨rfl, rfl, rfl, rfl, rfl, rfl, rfl, rfl, rfl, rfl⟩
  cases phase with
  | idle => exact .rest _ _ _ ⟨trivial, trivial, .inl rfl, nofun, nofun⟩ (.refl s) nofun
  | putting packet =>
    by_cases full : s.buffer.queue.Full
    · simp only [advance, BoundedQueue.putNowait_full _ packet full]
      exact .refuse packet rfl
    · obtain ⟨queue, stored, items, _⟩ := s.buffer.queue.putNowait_room packet full
      simp only [advance, stored]
      exact .accept packet queue rfl items
  | resetting =>
    exact .rest _ _ _ ⟨trivial, trivial, .inl rfl, nofun, nofun⟩ (alike _ false)
      (by simp [advance, Answer.Empty])
  | dropping => exact .load rfl
  | counting count => exact .count count rfl
  | checking =>
    cases content : s.buffer.pendingSamples with
    | nil =>
      simp only [advance, content]
      exact .rest _ _ _ ⟨trivial, trivial, .inr rfl, nofun, fun _ => .inr content⟩ (.refl s) nofun
    | cons sample rest =>
      simp only [advance, content]
      exact .rest _ _ _ ⟨trivial, trivial, .inr rfl, fun _ => .inr (by simp [content]), nofun⟩
        (.refl s) nofun
  | stamping =>
    exact .rest _ _ _ ⟨trivial, trivial, .inr rfl, fun _ => .inl rfl, nofun⟩ (alike now _) nofun
  | popping =>
    cases content : s.buffer.pendingSamples with
    | nil =>
      simp only [advance, content]
      exact .miss rfl content
    | cons sample rest =>
      simp only [advance, content]
      exact .pop sample rest rfl content
  | waiting reader =>
    cases content : s.buffer.queue.items with
    | nil =>
      simp only [advance, BoundedQueue.getNowait_nil _ content]
      split_ifs
      · exact .rest _ _ _ ⟨trivial, trivial, .inr rfl, nofun, nofun⟩ (.refl s) nofun
      · exact .rest _ _ _ ⟨trivial, trivial, .inr rfl, nofun, .inl⟩ (.refl s) nofun
    | cons packet rest =>
      obtain ⟨queue, got, items, _⟩ := s.buffer.queue.getNowait_cons packet rest content
      simp only [advance, got]
      exact .take reader packet queue rfl (by rw [content, items])
  | taken reader packet => exact .stamp _ reader packet rfl (alike now _)
  | decoding reader packet =>
    cases reader with
    | get =>
      cases decoded : decodePacket packet with
      | error error =>
        simp only [advance, decoded]
        exact .fail packet error rfl (by rw [samplesOf, decoded]; rfl)
      | ok samples =>
        cases samples with
        | nil =>
          simp only [advance, decoded]
          exact .fail packet .indexError rfl (by rw [samplesOf, decoded]; rfl)
        | cons first rest =>
          simp only [advance, decoded]
          exact .give packet first rest rfl (by rw [samplesOf, decoded]; rfl)
    | getSampleBatch => exact .batch packet rfl
  | quiet reader =>
    simp only [advance]
    split_ifs
    · exact .rest _ _ _ ⟨trivial, trivial, .inr rfl, nofun, nofun⟩ (.refl s) nofun
    · exact .rest _ _ _ ⟨trivial, trivial, .inl rfl, nofun, nofun⟩ (.refl s) (by simp [Answer.Empty])
  | warning reader =>
    simp only [advance]
    split_ifs
    · exact .rest _ _ _ ⟨trivial, trivial, .inl rfl, nofun, nofun⟩ (.refl s) (by simp [Answer.Empty])
    · exact .rest _ _ _ ⟨trivial, trivial, .inr rfl, nofun, nofun⟩ (.refl s) nofun
  | warned reader =>
    exact .rest _ _ _ ⟨trivial, trivial, .inl rfl, nofun, nofun⟩ (alike _ true)
      (by simp [advance, Answer.Empty])
  | clearing => exact .clear rfl
  | emptying => exact .empty rfl
  | restamping =>
    exact .rest _ _ _ ⟨trivial, trivial, .inl rfl, nofun, nofun⟩ (alike now _)
      (by simp [advance, Answer.Empty])

/-- A thread begins a call, or makes a move in the one it is in. -/
theorem step_cases [DecidableEq Thread] (s : State Thread) (action : Action Thread) :
    step s action = s ∨
      (∃ thread method, action = .call thread method ∧ s.own thread = .idle ∧
        step s action = s.move thread
          { s.shared with offered := s.shared.offered + method.offers } method.begin) ∨
      ∃ thread after next answer, Moves s.shared (s.own thread) after next answer ∧
        step s action = s.move thread (after.record thread answer) next := by
  cases action with
  | call thread method =>
    simp only [step]
    split
    next idle => exact .inr (.inl ⟨thread, method, rfl, idle, rfl⟩)
    next => exact .inl rfl
  | step thread now late =>
    exact .inr (.inr ⟨thread, _, _, _, advance_moves s.shared now late (s.own thread), rfl⟩)

/-! ### A call that nobody interrupts -/

section Undisturbed
variable [DecidableEq Thread]

/-- The thread makes so many statements on end; a reader does not wait for a packet. -/
def onEnd (s : State Thread) (thread : Thread) (method : Method) (now : Int) (count : Nat) :
    State Thread :=
  Run.run step s (.call thread method :: List.replicate count (.step thread now true))

/-- The call is over, with the buffer and the answer so, and nothing of the other threads differs. -/
structure Ended (s after : State Thread) (thread : Thread) (buffer : FTDataBuffer)
    (answer : Answer) : Prop where
  buffer : after.shared.buffer = buffer
  answers : after.shared.answers = s.shared.answers ++ [(thread, answer)]
  own : after.own = s.own

/-- What a call of `get` returns or raises. -/
def Answer.ofGet : Answer → Result (Option FTData)
  | .sample one => .ok (some one)
  | .noSignal _ => .ok (some DataBuffer.noSignal)
  | .raised _ error => .error error
  | .emptied => .error .indexError
  | _ => .ok none

/-- What a call of `get_sample_batch` returns or raises. -/
def Answer.ofGetSampleBatch : Answer → Result (Option (List FTSample))
  | .samples all => .ok (some all)
  | .noSignal _ => .ok (some [noSignalSample])
  | .raised _ error => .error error
  | _ => .ok none

/-- What a statement does to the buffer, whatever the rest. -/
def Does (Thread : Type) (buffer : FTDataBuffer) (now : Int) (phase : Phase) (after : FTDataBuffer)
    (next : Phase) (answer : Option Answer) : Prop :=
  ∀ shared : Shared Thread, shared.buffer = buffer →
    (advance shared now true phase).1.buffer = after ∧
      (advance shared now true phase).1.answers = shared.answers ∧
      (advance shared now true phase).2.1 = next ∧ (advance shared now true phase).2.2 = answer

/-- The call so far, with so many statements made. -/
structure During (s : State Thread) (thread : Thread) (method : Method) (now : Int) (count : Nat)
    (buffer : FTDataBuffer) (phase : Phase) : Prop where
  buffer : (onEnd s thread method now count).shared.buffer = buffer
  answers : (onEnd s thread method now count).shared.answers = s.shared.answers
  own : (onEnd s thread method now count).own = Function.update s.own thread phase

theorem onEnd_succ (s : State Thread) (thread : Thread) (method : Method) (now : Int)
    (count : Nat) :
    onEnd s thread method now (count + 1) =
      step (onEnd s thread method now count) (.step thread now true) := by
  rw [onEnd, List.replicate_succ', ← List.cons_append, Run.run_append]
  rfl

theorem during_begin (s : State Thread) (thread : Thread) (method : Method) (now : Int)
    (idle : s.own thread = .idle) :
    During s thread method now 0 s.shared.buffer method.begin := by
  have begun : onEnd s thread method now 0 = s.move thread
      { s.shared with offered := s.shared.offered + method.offers } method.begin := by
    simp only [onEnd, List.replicate_zero, Run.run_cons, Run.run_nil, step, idle]
  exact ⟨by rw [begun]; rfl, by rw [begun]; rfl, by rw [begun]; rfl⟩

theorem During.next {s : State Thread} {thread : Thread} {method : Method} {now : Int} {count : Nat}
    {buffer : FTDataBuffer} {phase : Phase}
    (during : During s thread method now count buffer phase) (after : FTDataBuffer) (next : Phase)
    (does : Does Thread buffer now phase after next none) :
    During s thread method now (count + 1) after next := by
  have here : (onEnd s thread method now count).own thread = phase := by
    rw [during.own, Function.update_self]
  obtain ⟨changed, answers, moved, silent⟩ := does _ during.buffer
  refine ⟨?_, ?_, ?_⟩
  · simp only [onEnd_succ, step, here]
    exact changed
  · simp only [onEnd_succ, step, here, silent, Threads.System.move_shared, Shared.record,
      Option.map_none, Option.toList_none, List.append_nil, answers, during.answers]
  · simp only [onEnd_succ, step, here, moved, Threads.System.move, during.own,
      Function.update_idem]

theorem During.finish {s : State Thread} {thread : Thread} {method : Method} {now : Int}
    {count : Nat} {buffer : FTDataBuffer} {phase : Phase}
    (during : During s thread method now count buffer phase) (idle : s.own thread = .idle)
    (after : FTDataBuffer) (answer : Answer)
    (does : Does Thread buffer now phase after .idle (some answer)) :
    Ended s (onEnd s thread method now (count + 1)) thread after answer := by
  have here : (onEnd s thread method now count).own thread = phase := by
    rw [during.own, Function.update_self]
  obtain ⟨changed, answers, moved, answered⟩ := does _ during.buffer
  refine ⟨?_, ?_, ?_⟩
  · simp only [onEnd_succ, step, here]
    exact changed
  · simp only [onEnd_succ, step, here, answered, Threads.System.move_shared, Shared.record,
      Option.map_some, Option.toList_some, answers, during.answers]
  · simp only [onEnd_succ, step, here, moved, Threads.System.move, during.own,
      Function.update_idem]
    rw [← idle]
    exact Function.update_eq_self thread s.own

/-- The four methods, undisturbed, are what they are as single steps. -/
theorem put_undisturbed (s : State Thread) (thread : Thread) (packet : Bytes) (now : Int)
    (idle : s.own thread = .idle) :
    ∃ count, Ended s (onEnd s thread (.put packet) now count) thread
      (s.shared.buffer.put packet) .done := by
  have begun := during_begin s thread (.put packet) now idle
  by_cases full : s.shared.buffer.queue.Full
  · have refused := BoundedQueue.putNowait_full s.shared.buffer.queue packet full
    have read := (begun.next s.shared.buffer .dropping
      (fun shared same => by simp [Method.begin, advance, same, refused])).next s.shared.buffer
      (.counting s.shared.buffer.droppedPacketCount) (fun shared same => by simp [advance, same])
    rw [FTDataBuffer.put_full _ packet full]
    exact ⟨3, read.finish idle _ .done (fun shared same => by simp [advance, same])⟩
  · obtain ⟨queue, stored, _, _⟩ := s.shared.buffer.queue.putNowait_room packet full
    have accepted := begun.next { s.shared.buffer with queue := queue } .resetting
      (fun shared same => by simp [Method.begin, advance, same, stored])
    rw [FTDataBuffer.put, stored]
    exact ⟨2, accepted.finish idle _ .done (fun shared same => by simp [advance, same])⟩

theorem clear_undisturbed (s : State Thread) (thread : Thread) (now : Int)
    (idle : s.own thread = .idle) :
    ∃ count, Ended s (onEnd s thread .clear now count) thread (s.shared.buffer.clear now) .done := by
  have begun := during_begin s thread .clear now idle
  have emptied := (begun.next { s.shared.buffer with queue := s.shared.buffer.queue.clear } .emptying
    (fun shared same => by simp [Method.begin, advance, same])).next
    { s.shared.buffer with queue := s.shared.buffer.queue.clear, pendingSamples := [] } .restamping
    (fun shared same => by simp [advance, same])
  exact ⟨3, emptied.finish idle _ .done
    (fun shared same => by simp [advance, same, FTDataBuffer.clear])⟩

/-- A reader that finds no packet in time. -/
theorem empty_undisturbed {s : State Thread} {thread : Thread} {method : Method} {now : Int}
    {count : Nat} {α : Type} (reader : Reader) (placeholder : α)
    (during : During s thread method now count s.shared.buffer (.waiting reader))
    (idle : s.own thread = .idle) (empty : s.shared.buffer.queue.items = []) :
    ∃ total answer, Ended s (onEnd s thread method now total) thread
        (s.shared.buffer.onEmpty now placeholder).1 answer ∧
      ((answer = .nothing ∧ (s.shared.buffer.onEmpty now placeholder).2 = .ok none) ∨
        (answer = .noSignal reader ∧
          (s.shared.buffer.onEmpty now placeholder).2 = .ok (some placeholder))) := by
  have nothing := BoundedQueue.getNowait_nil s.shared.buffer.queue empty
  have late := during.next s.shared.buffer (.quiet reader)
    (fun shared same => by simp [advance, same, nothing])
  unfold FTDataBuffer.onEmpty
  by_cases silent : s.shared.buffer.Silent now
  · rw [if_pos silent]
    have warns := late.next s.shared.buffer (.warning reader)
      (fun shared same => by simp [advance, same, silent])
    cases printed : s.shared.buffer.noDataWarningPrinted with
    | true =>
      have same : { s.shared.buffer with noDataWarningPrinted := true } = s.shared.buffer := by
        rw [← printed]
      have ended := warns.finish idle s.shared.buffer (.noSignal reader)
        (fun shared same => by simp [advance, same, printed])
      exact ⟨count + 3, .noSignal reader, same ▸ ended, .inr ⟨rfl, rfl⟩⟩
    | false =>
      have marks := warns.next s.shared.buffer (.warned reader)
        (fun shared same => by simp [advance, same, printed])
      exact ⟨count + 4, .noSignal reader,
        marks.finish idle _ _ (fun shared same => by simp [advance, same]), .inr ⟨rfl, rfl⟩⟩
  · rw [if_neg silent]
    exact ⟨count + 2, .nothing,
      late.finish idle _ _ (fun shared same => by simp [advance, same, silent]), .inl ⟨rfl, rfl⟩⟩

theorem getSampleBatch_undisturbed (s : State Thread) (thread : Thread) (now : Int)
    (idle : s.own thread = .idle) :
    ∃ count answer, Ended s (onEnd s thread (.read .getSampleBatch) now count) thread
        (s.shared.buffer.getSampleBatch now).1 answer ∧
      answer.ofGetSampleBatch = (s.shared.buffer.getSampleBatch now).2 := by
  have begun := during_begin s thread (.read .getSampleBatch) now idle
  cases content : s.shared.buffer.queue.items with
  | nil =>
    rw [FTDataBuffer.getSampleBatch_empty _ now content]
    obtain ⟨count, answer, ended, ⟨rfl, same⟩ | ⟨rfl, same⟩⟩ :=
      empty_undisturbed .getSampleBatch [noSignalSample] begun idle content
    · exact ⟨count, _, ended, same.symm⟩
    · exact ⟨count, _, ended, same.symm⟩
  | cons packet rest =>
    obtain ⟨queue, got, _, _⟩ := s.shared.buffer.queue.getNowait_cons packet rest content
    have taken := (begun.next { s.shared.buffer with queue := queue } (.taken .getSampleBatch packet)
      (fun shared same => by simp [Method.begin, advance, same, got])).next
      { s.shared.buffer with queue := queue, lastPacketTime := now }
      (.decoding .getSampleBatch packet) (fun shared same => by simp [advance, same])
    have ended := taken.finish idle
      { s.shared.buffer with queue := queue, lastPacketTime := now } (batchAnswer packet)
      (fun shared same => by simp [advance, same])
    refine ⟨3, batchAnswer packet, ?_, ?_⟩
    · simp only [FTDataBuffer.getSampleBatch, got]
      split <;> exact ended
    · simp only [FTDataBuffer.getSampleBatch, got, batchAnswer]
      cases decodeSampleBatch packet <;> rfl

theorem get_undisturbed (s : State Thread) (thread : Thread) (now : Int)
    (idle : s.own thread = .idle) :
    ∃ count answer, Ended s (onEnd s thread (.read .get) now count) thread
        (s.shared.buffer.get now).1 answer ∧
      answer.ofGet = (s.shared.buffer.get now).2 := by
  have begun := during_begin s thread (.read .get) now idle
  cases pending : s.shared.buffer.pendingSamples with
  | cons sample rest =>
    have stamped := (begun.next s.shared.buffer .stamping
      (fun shared same => by simp [Method.begin, advance, same, pending])).next
      { s.shared.buffer with lastPacketTime := now } .popping
      (fun shared same => by simp [advance, same])
    rw [FTDataBuffer.get_pending _ now sample rest pending]
    exact ⟨3, .sample sample,
      stamped.finish idle _ _ (fun shared same => by simp [advance, same, pending]), rfl⟩
  | nil =>
    have waits := begun.next s.shared.buffer (.waiting .get)
      (fun shared same => by simp [Method.begin, advance, same, pending])
    cases content : s.shared.buffer.queue.items with
    | nil =>
      rw [FTDataBuffer.get_empty _ now pending content]
      obtain ⟨count, answer, ended, ⟨rfl, same⟩ | ⟨rfl, same⟩⟩ :=
        empty_undisturbed .get DataBuffer.noSignal waits idle content
      · exact ⟨count, _, ended, same.symm⟩
      · exact ⟨count, _, ended, same.symm⟩
    | cons packet rest =>
      obtain ⟨queue, got, _, _⟩ := s.shared.buffer.queue.getNowait_cons packet rest content
      have taken := (waits.next { s.shared.buffer with queue := queue } (.taken .get packet)
        (fun shared same => by simp [advance, same, got])).next
        { s.shared.buffer with queue := queue, lastPacketTime := now } (.decoding .get packet)
        (fun shared same => by simp [advance, same])
      simp only [FTDataBuffer.get, pending, got]
      cases decoded : decodePacket packet with
      | error error =>
        exact ⟨4, .raised .get error,
          taken.finish idle _ _ (fun shared same => by simp [advance, same, decoded, pending]), rfl⟩
      | ok samples =>
        cases samples with
        | nil =>
          exact ⟨4, .raised .get .indexError,
            taken.finish idle _ _ (fun shared same => by simp [advance, same, decoded, pending]), rfl⟩
        | cons first others =>
          exact ⟨4, .sample first,
            taken.finish idle _ _ (fun shared same => by
              simp [advance, same, decoded, pending]), rfl⟩

end Undisturbed

end SchunkFts.Library.BufferThreads
