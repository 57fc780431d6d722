import SchunkFts.Library.BufferThreads

/-! Where the packets and the samples are, whatever the threads do with the buffer: each thread's
share and that of the buffer add up. -/

namespace SchunkFts.Library.BufferThreads
open SchunkFts.Foundation SchunkFts.Foundation.Struct SchunkFts.Foundation.Queue
open SchunkFts.Foundation.Threads Packet DataBuffer

variable {Thread : Type}

section Accounts
variable {Amount : Type} [AddCommMonoid Amount]

/-- Every statement of every method enters in the books what it brings in. -/
structure Keeps (Thread : Type) (books kept : Shared Thread → Amount) (held : Phase → Amount) :
    Prop where
  statement : ∀ (s after : Shared Thread) (phase next : Phase) (answer : Option Answer)
    (thread : Thread), Moves s phase after next answer → ∃ gain,
      books (after.record thread answer) = books s + gain ∧
        kept (after.record thread answer) + held next = kept s + held phase + gain
  begins : ∀ (s : Shared Thread) (method : Method), ∃ gain,
    books { s with offered := s.offered + method.offers } = books s + gain ∧
      kept { s with offered := s.offered + method.offers } + held method.begin =
        kept s + held .idle + gain

theorem Keeps.step [DecidableEq Thread] [Fintype Thread] {books kept : Shared Thread → Amount}
    {held : Phase → Amount} (keeps : Keeps Thread books kept held) (s : State Thread)
    (action : Action Thread) (balanced : Balanced books kept held s) :
    Balanced books kept held (step s action) := by
  rcases step_cases s action with same | ⟨thread, method, rfl, idle, begun⟩ |
    ⟨thread, after, next, answer, moves, moved⟩
  · rw [same]
    exact balanced
  · obtain ⟨gain, booked, balance⟩ := keeps.begins s.shared method
    rw [begun]
    exact balanced.move thread _ _ gain booked (by rw [idle]; exact balance)
  · obtain ⟨gain, booked, balance⟩ := keeps.statement s.shared after _ next answer thread moves
    rw [moved]
    exact balanced.move thread _ _ gain booked balance

/-- From the start on, where no thread has anything in its hands. -/
theorem Keeps.run [DecidableEq Thread] [Fintype Thread] {books kept : Shared Thread → Amount}
    {held : Phase → Amount} (keeps : Keeps Thread books kept held) (nothing : held .idle = 0)
    (maxsize : Nat) (now : Int)
    (same : books (start Thread maxsize now).shared = kept (start Thread maxsize now).shared)
    (actions : List (Action Thread)) :
    Balanced books kept held
      (Run.run BufferThreads.step (start Thread maxsize now) actions) := by
  apply Run.run_always BufferThreads.step _ keeps.step
  have idle : ∑ thread : Thread, held ((start Thread maxsize now).own thread) = 0 := by
    simp [start, nothing]
  rw [Threads.Balanced, total, idle, add_zero, same]

end Accounts

/-- A put that the queue has not yet decided on. -/
def Phase.puts : Phase → Nat
  | putting _ => 1
  | _ => 0

/-- A refusal that is not yet counted. -/
def Phase.drops : Phase → Nat
  | dropping => 1
  | counting _ => 1
  | _ => 0

/-- The samples of a packet that `get` has taken and not yet handed on. -/
def Phase.inHand : Phase → List FTData
  | taken .get packet => samplesOf packet
  | decoding .get packet => samplesOf packet
  | _ => []

def Phase.samples (phase : Phase) : Multiset FTData := phase.inHand

/-- What `get_sample_batch` is going to answer. -/
def Phase.batches : Phase → Multiset Answer
  | taken .getSampleBatch packet => {batchAnswer packet}
  | decoding .getSampleBatch packet => {batchAnswer packet}
  | _ => 0

theorem Phase.Free.nothing {phase : Phase} (free : phase.Free) :
    phase.puts = 0 ∧ phase.drops = 0 ∧ phase.samples = 0 ∧ phase.batches = 0 := by
  cases phase with
  | putting packet => exact free.elim
  | dropping => exact free.elim
  | counting count => exact free.elim
  | taken reader packet => exact free.elim
  | decoding reader packet => exact free.elim
  | _ => exact ⟨rfl, rfl, rfl, rfl⟩

theorem Method.begin_nothing (method : Method) :
    method.begin.puts = method.offers ∧ method.begin.drops = 0 ∧ method.begin.samples = 0 ∧
      method.begin.batches = 0 := by
  cases method with
  | read reader => cases reader <;> exact ⟨rfl, rfl, rfl, rfl⟩
  | _ => exact ⟨rfl, rfl, rfl, rfl⟩

def Answer.given : Answer → Option FTData
  | .sample one => some one
  | _ => none

/-- An answer of `get_sample_batch` to a packet. -/
def Answer.batch : Answer → Option Answer
  | .samples all => some (.samples all)
  | .raised .getSampleBatch error => some (.raised .getSampleBatch error)
  | _ => none

namespace Shared

/-- The samples that calls of `get` have returned. -/
def given (s : Shared Thread) : List FTData := s.answers.filterMap (fun answer => answer.2.given)

/-- The answers of `get_sample_batch` to the packets it has taken. -/
def batched (s : Shared Thread) : List Answer := s.answers.filterMap (fun answer => answer.2.batch)

/-- The packets that a reader has taken. -/
def takenBy (s : Shared Thread) (reader : Reader) : List Bytes :=
  (s.removed.filter (fun removal => removal.1 = some reader)).map Prod.snd

/-- What `clear` removes is taken by no reader. -/
theorem takenBy_clear (s : Shared Thread) (queue : BoundedQueue Bytes) (reader : Reader) :
    ({ s with
        buffer := { s.buffer with queue := queue }
        removed := s.removed ++ s.buffer.queue.items.map (fun packet => (none, packet)) } :
        Shared Thread).takenBy reader = s.takenBy reader := by
  have nobody : (s.buffer.queue.items.map (fun packet => ((none, packet) : Removal))).filter
      (fun removal => removal.1 = some reader) = [] := by
    apply List.filter_eq_nil_iff.mpr
    intro removal member
    obtain ⟨packet, _, rfl⟩ := List.mem_map.mp member
    simp
  rw [takenBy, takenBy, List.filter_append, nobody, List.append_nil]

theorem given_record (s : Shared Thread) (thread : Thread) (answer : Option Answer) :
    (s.record thread answer).given = s.given ++ (answer.bind Answer.given).toList := by
  cases answer with
  | none => simp [given, record]
  | some answer => cases here : answer.given <;> simp [given, record, here]

theorem batched_record (s : Shared Thread) (thread : Thread) (answer : Option Answer) :
    (s.record thread answer).batched = s.batched ++ (answer.bind Answer.batch).toList := by
  cases answer with
  | none => simp [batched, record]
  | some answer => cases here : answer.batch <;> simp [batched, record, here]

end Shared

theorem empty_given (answer : Option Answer) (empty : ∀ given, answer = some given → given.Empty) :
    answer.bind Answer.given = none ∧ answer.bind Answer.batch = none := by
  cases answer with
  | none => exact ⟨rfl, rfl⟩
  | some answer =>
    have here := empty answer rfl
    cases answer with
    | sample sample => exact here.elim
    | samples samples => exact here.elim
    | raised reader error => exact here.elim
    | emptied => exact here.elim
    | _ => exact ⟨rfl, rfl⟩

theorem batchAnswer_given (packet : Bytes) :
    (batchAnswer packet).given = none ∧ (batchAnswer packet).batch = some (batchAnswer packet) := by
  unfold batchAnswer
  split <;> exact ⟨rfl, rfl⟩

/-- Every put that has come to the queue has been accepted or refused. -/
theorem puts_kept :
    Keeps Thread Shared.offered (fun s => s.accepted.length + s.refused) Phase.puts where
  statement s after phase next answer thread moves := by
    refine ⟨0, ?_⟩
    cases moves with
    | rest after next answer leads alike empty =>
      simp [Shared.record, alike.offered, alike.accepted, alike.refused, leads.free.nothing.1,
        leads.freeNext.nothing.1]
    | accept packet queue here items => simp [Shared.record, here, Phase.puts]; omega
    | refuse packet here => simp [Shared.record, here, Phase.puts]; omega
    | load here => simp [Shared.record, here, Phase.puts]
    | count value here => simp [Shared.record, here, Phase.puts]
    | pop sample rest here content => simp [Shared.record, here, Phase.puts]
    | miss here content => simp [Shared.record, here, Phase.puts]
    | take reader packet queue here items => simp [Shared.record, here, Phase.puts]
    | stamp after reader packet here alike =>
      simp [Shared.record, here, Phase.puts, alike.offered, alike.accepted, alike.refused]
    | give packet first rest here samples => simp [Shared.record, here, Phase.puts]
    | fail packet error here samples => simp [Shared.record, here, Phase.puts]
    | batch packet here => simp [Shared.record, here, Phase.puts]
    | clear here => simp [Shared.record, here, Phase.puts]
    | empty here => simp [Shared.record, here, Phase.puts]
  begins s method := ⟨method.offers, rfl, by
    rw [method.begin_nothing.1]
    rfl⟩

/-- Every refusal is counted or in the hands of the thread that counts it. -/
theorem drops_kept : Keeps Thread Shared.refused Shared.counted Phase.drops where
  statement s after phase next answer thread moves := by
    cases moves with
    | rest after next answer leads alike empty =>
      exact ⟨0, by simp [Shared.record, alike.refused, alike.counted, leads.free.nothing.2.1,
        leads.freeNext.nothing.2.1]⟩
    | accept packet queue here items => exact ⟨0, by simp [Shared.record, here, Phase.drops]⟩
    | refuse packet here => exact ⟨1, by simp [Shared.record, here, Phase.drops]⟩
    | load here => exact ⟨0, by simp [Shared.record, here, Phase.drops]⟩
    | count value here => exact ⟨0, by simp [Shared.record, here, Phase.drops]⟩
    | pop sample rest here content => exact ⟨0, by simp [Shared.record, here, Phase.drops]⟩
    | miss here content => exact ⟨0, by simp [Shared.record, here, Phase.drops]⟩
    | take reader packet queue here items => exact ⟨0, by simp [Shared.record, here, Phase.drops]⟩
    | stamp after reader packet here alike =>
      exact ⟨0, by simp [Shared.record, here, Phase.drops, alike.refused, alike.counted]⟩
    | give packet first rest here samples => exact ⟨0, by simp [Shared.record, here, Phase.drops]⟩
    | fail packet error here samples => exact ⟨0, by simp [Shared.record, here, Phase.drops]⟩
    | batch packet here => exact ⟨0, by simp [Shared.record, here, Phase.drops]⟩
    | clear here => exact ⟨0, by simp [Shared.record, here, Phase.drops]⟩
    | empty here => exact ⟨0, by simp [Shared.record, here, Phase.drops]⟩
  begins s method := ⟨0, rfl, by
    rw [method.begin_nothing.2.1]
    rfl⟩

/-- The samples of the packets that `get` has taken. -/
def samplesTaken (s : Shared Thread) : Multiset FTData := ↑((s.takenBy .get).flatMap samplesOf)

/-- The samples that have been handed out, are still to be, or have been cleared away. -/
def samplesKept (s : Shared Thread) : Multiset FTData :=
  ↑s.given + ↑s.buffer.pendingSamples + ↑s.discarded

theorem takenBy_alike {s after : Shared Thread} (alike : Alike s after) (reader : Reader) :
    after.takenBy reader = s.takenBy reader := by
  rw [Shared.takenBy, alike.removed, Shared.takenBy]

theorem samplesKept_record (s : Shared Thread) (thread : Thread) (answer : Option Answer) :
    samplesKept (s.record thread answer) =
      samplesKept s + ↑((answer.bind Answer.given).toList) := by
  rw [samplesKept, Shared.given_record, ← Multiset.coe_add, samplesKept]
  simp only [Shared.record]
  ac_rfl

theorem samplesTaken_record (s : Shared Thread) (thread : Thread) (answer : Option Answer) :
    samplesTaken (s.record thread answer) = samplesTaken s := rfl

/-- Every sample of a packet that `get` has taken has been handed out, waits, is in the hands of a
thread, or has been cleared away. -/
theorem samples_kept : Keeps Thread samplesTaken samplesKept Phase.samples where
  statement s after phase next answer thread moves := by
    simp only [samplesTaken_record, samplesKept_record]
    cases moves with
    | rest after next answer leads alike empty =>
      refine ⟨0, ?_⟩
      simp only [samplesTaken, takenBy_alike alike, samplesKept, Shared.given, alike.answers,
        alike.pendingSamples, alike.discarded, leads.free.nothing.2.2.1, leads.freeNext.nothing.2.2.1,
        (empty_given answer empty).1]
      simp
    | accept packet queue here items =>
      exact ⟨0, (add_zero _).symm, by rw [here]; rfl⟩
    | refuse packet here =>
      exact ⟨0, (add_zero _).symm, by rw [here]; rfl⟩
    | load here => exact ⟨0, (add_zero _).symm, by rw [here]; rfl⟩
    | count value here =>
      exact ⟨0, (add_zero _).symm, by rw [here]; rfl⟩
    | pop sample rest here content =>
      refine ⟨0, (add_zero _).symm, ?_⟩
      simp only [samplesKept, Shared.given, content, here, Phase.samples, Phase.inHand, add_zero,
        Option.bind_some, Answer.given, Option.toList_some, ← Multiset.cons_coe,
        ← Multiset.singleton_add, Multiset.coe_nil]
      ac_rfl
    | miss here content =>
      exact ⟨0, (add_zero _).symm, by rw [here]; rfl⟩
    | take reader packet queue here items =>
      cases reader with
      | get =>
        refine ⟨samplesOf packet, ?_, ?_⟩
        · simp [samplesTaken, Shared.takenBy]
        · simp [samplesKept, Shared.given, here, Phase.samples, Phase.inHand]
      | getSampleBatch =>
        refine ⟨0, ?_, ?_⟩
        · simp [samplesTaken, Shared.takenBy]
        · simp [samplesKept, Shared.given, here, Phase.samples, Phase.inHand]
    | stamp after reader packet here alike =>
      refine ⟨0, ?_, ?_⟩
      · simp [samplesTaken, takenBy_alike alike]
      · cases reader <;> simp [samplesKept, Shared.given, alike.answers, alike.pendingSamples,
          alike.discarded, here, Phase.samples, Phase.inHand]
    | give packet first rest here samples =>
      refine ⟨0, (add_zero _).symm, ?_⟩
      simp only [samplesKept, Shared.given, here, Phase.samples, Phase.inHand, samples, add_zero,
        Option.bind_some, Answer.given, Option.toList_some, ← Multiset.cons_coe,
        ← Multiset.singleton_add, ← Multiset.coe_add, Multiset.coe_nil]
      ac_rfl
    | fail packet error here samples =>
      refine ⟨0, (add_zero _).symm, ?_⟩
      simp [here, Phase.samples, Phase.inHand, samples, Answer.given]
    | batch packet here =>
      refine ⟨0, (add_zero _).symm, ?_⟩
      simp [here, Phase.samples, Phase.inHand, batchAnswer_given]
    | clear here =>
      refine ⟨0, ?_, ?_⟩
      · rw [samplesTaken, Shared.takenBy_clear, samplesTaken, add_zero]
      · simp [samplesKept, Shared.given, here, Phase.samples, Phase.inHand]
    | empty here =>
      refine ⟨0, (add_zero _).symm, ?_⟩
      simp only [samplesKept, Shared.given, here, Phase.samples, Phase.inHand, add_zero, Option.bind_none,
        Option.toList_none, ← Multiset.coe_add, Multiset.coe_nil]
      ac_rfl
  begins s method := ⟨0, by
    rw [method.begin_nothing.2.2.1]
    exact ⟨(add_zero _).symm, (add_zero _).symm⟩⟩

/-- What `get_sample_batch` makes of the packets that it has taken. -/
def batchesTaken (s : Shared Thread) : Multiset Answer :=
  ↑((s.takenBy .getSampleBatch).map batchAnswer)

/-- Every packet that `get_sample_batch` has taken is answered, or in the hands of a thread. -/
theorem batches_kept : Keeps Thread batchesTaken (fun s => (s.batched : Multiset Answer)) Phase.batches where
  statement s after phase next answer thread moves := by
    have still : batchesTaken (after.record thread answer) = batchesTaken after := rfl
    simp only [still, Shared.batched_record, ← Multiset.coe_add]
    cases moves with
    | rest after next answer leads alike empty =>
      refine ⟨0, ?_⟩
      simp only [batchesTaken, takenBy_alike alike, Shared.batched, alike.answers,
        leads.free.nothing.2.2.2, leads.freeNext.nothing.2.2.2, (empty_given answer empty).2]
      simp
    | accept packet queue here items => exact ⟨0, (add_zero _).symm, by rw [here]; rfl⟩
    | refuse packet here => exact ⟨0, (add_zero _).symm, by rw [here]; rfl⟩
    | load here => exact ⟨0, (add_zero _).symm, by rw [here]; rfl⟩
    | count value here => exact ⟨0, (add_zero _).symm, by rw [here]; rfl⟩
    | pop sample rest here content => exact ⟨0, (add_zero _).symm, by rw [here]; rfl⟩
    | miss here content => exact ⟨0, (add_zero _).symm, by rw [here]; rfl⟩
    | take reader packet queue here items =>
      cases reader with
      | get =>
        refine ⟨0, ?_, ?_⟩
        · simp [batchesTaken, Shared.takenBy]
        · simp [Shared.batched, here, Phase.batches]
      | getSampleBatch =>
        refine ⟨{batchAnswer packet}, ?_, ?_⟩
        · simp only [batchesTaken, Shared.takenBy, List.filter_append, List.map_append]
          rfl
        · simp [Shared.batched, here, Phase.batches]
    | stamp after reader packet here alike =>
      refine ⟨0, ?_, ?_⟩
      · simp [batchesTaken, takenBy_alike alike]
      · cases reader <;> simp [Shared.batched, alike.answers, here, Phase.batches]
    | give packet first rest here samples => exact ⟨0, (add_zero _).symm, by rw [here]; rfl⟩
    | fail packet error here samples => exact ⟨0, (add_zero _).symm, by rw [here]; rfl⟩
    | batch packet here =>
      refine ⟨0, (add_zero _).symm, ?_⟩
      simp [here, Phase.batches, batchAnswer_given]
    | clear here =>
      refine ⟨0, ?_, by rw [here]; rfl⟩
      rw [batchesTaken, Shared.takenBy_clear, batchesTaken, add_zero]
    | empty here => exact ⟨0, (add_zero _).symm, by rw [here]; rfl⟩
  begins s method := ⟨0, by
    rw [method.begin_nothing.2.2.2]
    exact ⟨(add_zero _).symm, (add_zero _).symm⟩⟩

/-- The packets leave the queue in the order they have been accepted in. -/
def InOrder (s : Shared Thread) : Prop :=
  s.accepted = s.removed.map Prod.snd ++ s.buffer.queue.items

theorem inOrder_moves (s after : Shared Thread) (phase next : Phase) (answer : Option Answer)
    (thread : Thread) (moves : Moves s phase after next answer) (ordered : InOrder s) :
    InOrder (after.record thread answer) := by
  unfold InOrder at *
  cases moves with
  | rest after next answer leads alike empty =>
    simpa only [Shared.record, alike.accepted, alike.removed, alike.queue] using ordered
  | accept packet queue here items =>
    simp only [Shared.record]
    rw [ordered, items, List.append_assoc]
  | take reader packet queue here items =>
    simp only [Shared.record]
    rw [ordered, items, List.map_append, List.append_assoc]
    rfl
  | stamp after reader packet here alike =>
    simpa only [Shared.record, alike.accepted, alike.removed, alike.queue] using ordered
  | clear here =>
    simp [Shared.record, ordered, Function.comp_def]
  | _ => exact ordered

theorem inOrder_step [DecidableEq Thread] (s : State Thread) (action : Action Thread)
    (ordered : InOrder s.shared) : InOrder (step s action).shared := by
  rcases step_cases s action with same | ⟨thread, method, rfl, _, begun⟩ |
    ⟨thread, after, next, answer, moves, moved⟩
  · rw [same]
    exact ordered
  · rw [begun]
    exact ordered
  · rw [moved]
    exact inOrder_moves _ _ _ _ _ thread moves ordered

/-- The counter of dropped packets, and what the threads have read of it. -/
structure Counter (s : State Thread) : Prop where
  counter : s.shared.buffer.droppedPacketCount ≤ s.shared.counted
  read : ∀ thread count, s.own thread = .counting count → count ≤ s.shared.counted

/-- What a statement does to the counter. -/
theorem counter_moves (s after : Shared Thread) (phase next : Phase) (answer : Option Answer)
    (moves : Moves s phase after next answer)
    (counter : s.buffer.droppedPacketCount ≤ s.counted)
    (read : ∀ count, phase = .counting count → count ≤ s.counted) :
    s.counted ≤ after.counted ∧ after.buffer.droppedPacketCount ≤ after.counted ∧
      ∀ count, next = .counting count → count ≤ after.counted := by
  cases moves with
  | rest after next answer leads alike empty =>
    refine ⟨alike.counted.ge, ?_, ?_⟩
    · rw [alike.droppedPacketCount, alike.counted]
      exact counter
    · rintro count rfl
      exact leads.freeNext.elim
  | load here =>
    refine ⟨Nat.le_refl _, counter, ?_⟩
    rintro count ⟨⟩
    exact counter
  | count value here =>
    refine ⟨Nat.le_succ _, Nat.succ_le_succ (read value here), ?_⟩
    rintro count ⟨⟩
  | stamp after reader packet here alike =>
    refine ⟨alike.counted.ge, ?_, ?_⟩
    · rw [alike.droppedPacketCount, alike.counted]
      exact counter
    · rintro count ⟨⟩
  | accept packet queue here items => exact ⟨Nat.le_refl _, counter, by simp⟩
  | refuse packet here => exact ⟨Nat.le_refl _, counter, by simp⟩
  | pop sample rest here content => exact ⟨Nat.le_refl _, counter, by simp⟩
  | miss here content => exact ⟨Nat.le_refl _, counter, by simp⟩
  | take reader packet queue here items => exact ⟨Nat.le_refl _, counter, by simp⟩
  | give packet first rest here samples => exact ⟨Nat.le_refl _, counter, by simp⟩
  | fail packet error here samples => exact ⟨Nat.le_refl _, counter, by simp⟩
  | batch packet here => exact ⟨Nat.le_refl _, counter, by simp⟩
  | clear here => exact ⟨Nat.le_refl _, counter, by simp⟩
  | empty here => exact ⟨Nat.le_refl _, counter, by simp⟩

theorem begin_counting (method : Method) (count : Nat) : method.begin ≠ .counting count := by
  cases method with
  | read reader => cases reader <;> simp [Method.begin]
  | _ => simp [Method.begin]

theorem counter_step [DecidableEq Thread] (s : State Thread) (action : Action Thread)
    (counter : Counter s) : Counter (step s action) := by
  have after (thread : Thread) (shared : Shared Thread) (phase : Phase)
      (more : s.shared.counted ≤ shared.counted)
      (bound : shared.buffer.droppedPacketCount ≤ shared.counted)
      (here : ∀ count, phase = .counting count → count ≤ shared.counted) :
      Counter (s.move thread shared phase) := by
    refine ⟨bound, fun other count => ?_⟩
    apply s.move_forall thread shared phase
      (fun _ phase => phase = .counting count → count ≤ shared.counted) (here count)
    exact fun other _ there => Nat.le_trans (counter.read other count there) more
  rcases step_cases s action with same | ⟨thread, method, rfl, idle, begun⟩ |
    ⟨thread, next, phase, answer, moves, moved⟩
  · rw [same]
    exact counter
  · rw [begun]
    exact after thread _ _ (Nat.le_refl _) counter.counter
      (fun count wrong => absurd wrong (begin_counting method count))
  · obtain ⟨more, bound, read⟩ :=
      counter_moves _ _ _ _ _ moves counter.counter (counter.read thread)
    rw [moved]
    exact after thread _ _ more bound read

/-- The accounts of the buffer. -/
structure Accounted [Fintype Thread] (s : State Thread) : Prop where
  order : InOrder s.shared
  puts : Balanced Shared.offered (fun s => s.accepted.length + s.refused) Phase.puts s
  drops : Balanced Shared.refused Shared.counted Phase.drops s
  samples : Balanced samplesTaken samplesKept Phase.samples s
  batches : Balanced batchesTaken (fun s => (s.batched : Multiset Answer)) Phase.batches s
  counter : s.shared.buffer.droppedPacketCount ≤ s.shared.counted

/-- Whatever the threads do, in whichever order: packets are accepted or refused and leave the queue
in order, each to one call or to `clear`; every sample of a packet that `get` has taken is given out
by one call, waits, is in one thread's hands, or has been cleared away; and no more refusals are
counted than there are. -/
theorem shared_accounted [DecidableEq Thread] [Fintype Thread] (maxsize : Nat) (now : Int)
    (actions : List (Action Thread)) : Accounted (Run.run step (start Thread maxsize now) actions) := by
  have ordered := Run.run_always step (fun s : State Thread => InOrder s.shared) inOrder_step
    actions (start Thread maxsize now) rfl
  have counter := Run.run_always step Counter counter_step actions (start Thread maxsize now)
    ⟨Nat.le_refl 0, by simp [start]⟩
  exact {
    order := ordered
    puts := puts_kept.run rfl maxsize now rfl actions
    drops := drops_kept.run rfl maxsize now rfl actions
    samples := samples_kept.run rfl maxsize now rfl actions
    batches := batches_kept.run rfl maxsize now rfl actions
    counter := counter.counter }

end SchunkFts.Library.BufferThreads
