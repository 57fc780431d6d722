import SchunkFts.Library.BufferAccounts

/-! The buffer with one thread that puts, and one that gets and clears, as the driver means it to be
used: its update thread puts, and one other thread takes the samples. -/

namespace SchunkFts.Library.BufferThreads
open SchunkFts.Foundation SchunkFts.Foundation.Struct SchunkFts.Foundation.Queue
open SchunkFts.Foundation.Threads Packet DataBuffer

variable {Thread : Type}

/-- The roles of a thread, if one puts and one gets and clears; anyone may call `get_sample_batch`. -/
def Role.Fits (producer consumer thread : Thread) : Role → Prop
  | .put => thread = producer
  | .get => thread = consumer
  | .clear => thread = consumer
  | _ => True

def Sole (producer consumer : Thread) : Action Thread → Prop
  | .call thread method => method.begin.role.Fits producer consumer thread
  | .step _ _ _ => True

/-- A call keeps its role to its end. -/
theorem moves_role (s after : Shared Thread) (phase next : Phase) (answer : Option Answer)
    (moves : Moves s phase after next answer) : next = .idle ∨ next.role = phase.role := by
  cases moves with
  | rest after next answer leads alike empty => exact leads.role
  | accept packet queue here items => exact .inr (by rw [here]; rfl)
  | refuse packet here => exact .inr (by rw [here]; rfl)
  | load here => exact .inr (by rw [here]; rfl)
  | take reader packet queue here items => exact .inr (by rw [here]; rfl)
  | stamp after reader packet here alike => exact .inr (by rw [here]; rfl)
  | clear here => exact .inr (by rw [here]; rfl)
  | empty here => exact .inr (by rw [here]; rfl)
  | _ => exact .inl rfl

/-- The roles are kept to. -/
def Assigned (producer consumer : Thread) (s : State Thread) : Prop :=
  ∀ thread, (s.own thread).role.Fits producer consumer thread

theorem assigned_step [DecidableEq Thread] (producer consumer : Thread) (s : State Thread)
    (action : Action Thread) (assigned : Assigned producer consumer s)
    (sole : Sole producer consumer action) : Assigned producer consumer (step s action) := by
  have moved (thread : Thread) (shared : Shared Thread) (phase : Phase)
      (fits : phase.role.Fits producer consumer thread) :
      Assigned producer consumer (s.move thread shared phase) :=
    s.move_forall thread shared phase (fun other phase => phase.role.Fits producer consumer other)
      fits (fun other _ => assigned other)
  rcases step_cases s action with same | ⟨thread, method, rfl, _, begun⟩ |
    ⟨thread, after, next, answer, moves, next_is⟩
  · rw [same]
    exact assigned
  · rw [begun]
    exact moved thread _ _ sole
  · rw [next_is]
    refine moved thread _ _ ?_
    rcases moves_role _ _ _ _ _ moves with ended | same
    · rw [ended]
      trivial
    · rw [same]
      exact assigned thread

/-- A call of `get` that has taken, or is about to take, a packet. -/
@[simp] def Phase.Fetching : Phase → Prop
  | waiting .get => True
  | taken .get _ => True
  | decoding .get _ => True
  | _ => False

/-- What the thread that gets relies on, at its phase: it pops from a filled deque, and fetches a
packet with an empty one; and the samples come out in the order of the packets. -/
structure Ready (s : Shared Thread) (phase : Phase) : Prop where
  pops : phase = .stamping ∨ phase = .popping → s.buffer.pendingSamples ≠ []
  fetches : phase.Fetching → s.buffer.pendingSamples = []
  sublist : (s.given ++ s.buffer.pendingSamples ++ phase.inHand).Sublist
    ((s.takenBy .get).flatMap samplesOf)
  whole : s.discarded = [] → s.given ++ s.buffer.pendingSamples ++ phase.inHand =
    (s.takenBy .get).flatMap samplesOf

/-- The deque, what has been given out of it and what has been put into it are the same. -/
structure Untouched (s after : Shared Thread) : Prop where
  pendingSamples : after.buffer.pendingSamples = s.buffer.pendingSamples
  given : after.given = s.given
  discarded : after.discarded = s.discarded
  taken : after.takenBy .get = s.takenBy .get

theorem Ready.keep {s after : Shared Thread} {phase next : Phase} (ready : Ready s phase)
    (untouched : Untouched s after) (inHand : next.inHand = phase.inHand)
    (pops : next = .stamping ∨ next = .popping → s.buffer.pendingSamples ≠ [])
    (fetches : next.Fetching → s.buffer.pendingSamples = []) : Ready after next := by
  obtain ⟨pending, given, discarded, taken⟩ := untouched
  refine ⟨?_, ?_, ?_, ?_⟩
  · rw [pending]
    exact pops
  · rw [pending]
    exact fetches
  · rw [pending, given, taken, inHand]
    exact ready.sublist
  · rw [pending, given, taken, inHand, discarded]
    exact ready.whole

theorem Phase.Free.inHand {phase : Phase} (free : phase.Free) : phase.inHand = [] := by
  cases phase with
  | taken reader packet => exact free.elim
  | decoding reader packet => exact free.elim
  | _ => rfl

theorem Phase.Free.fetching {phase : Phase} (free : phase.Free) (fetching : phase.Fetching) :
    phase = .waiting .get := by
  cases phase with
  | waiting reader =>
    cases reader with
    | get => rfl
    | getSampleBatch => exact fetching.elim
  | taken reader packet => exact free.elim
  | decoding reader packet => exact free.elim
  | _ => exact fetching.elim

/-- A move that gives no sample out and leaves the deque alone. -/
theorem Untouched.of {s after : Shared Thread} (thread : Thread) (answer : Option Answer)
    (nothing : answer.bind Answer.given = none) (answers : after.answers = s.answers)
    (pendingSamples : after.buffer.pendingSamples = s.buffer.pendingSamples)
    (discarded : after.discarded = s.discarded) (taken : after.takenBy .get = s.takenBy .get) :
    Untouched s (after.record thread answer) where
  pendingSamples := pendingSamples
  given := by
    rw [Shared.given_record, nothing, Shared.given, answers]
    exact List.append_nil _
  discarded := discarded
  taken := taken

/-- The thread that gets stays ready through its own moves, and never pops from an empty deque. -/
theorem ready_moves (s after : Shared Thread) (phase next : Phase) (answer : Option Answer)
    (thread : Thread) (moves : Moves s phase after next answer) (ready : Ready s phase) :
    Ready (after.record thread answer) next ∧ answer ≠ some .emptied := by
  cases moves with
  | rest after next answer leads alike empty =>
    have nothing := (empty_given answer empty).1
    refine ⟨ready.keep (.of thread answer nothing alike.answers alike.pendingSamples
      alike.discarded (takenBy_alike alike .get)) ?_ ?_ ?_, ?_⟩
    · rw [leads.freeNext.inHand, leads.free.inHand]
    · intro pops
      rcases leads.pops pops with here | filled
      · exact ready.pops (.inl here)
      · exact filled
    · intro fetching
      rcases leads.waits (leads.freeNext.fetching fetching) with here | empty
      · exact ready.fetches (by rw [here]; trivial)
      · exact empty
    · rintro rfl
      exact empty _ rfl
  | accept packet queue here items =>
    exact ⟨ready.keep (.of thread none rfl rfl rfl rfl rfl) (by rw [here]; rfl) (by simp) (by simp), (by simp)⟩
  | refuse packet here =>
    exact ⟨ready.keep (.of thread none rfl rfl rfl rfl rfl) (by rw [here]; rfl) (by simp) (by simp), (by simp)⟩
  | load here =>
    exact ⟨ready.keep (.of thread none rfl rfl rfl rfl rfl) (by rw [here]; rfl) (by simp) (by simp), (by simp)⟩
  | count value here =>
    exact ⟨ready.keep (.of thread _ rfl rfl rfl rfl rfl) (by rw [here]; rfl) (by simp) (by simp), (by simp)⟩
  | pop sample rest here content =>
    have given := Shared.given_record
      { s with buffer := { s.buffer with pendingSamples := rest } } thread (some (.sample sample))
    have hand : phase.inHand = [] := by rw [here]; rfl
    have same : s.given ++ [sample] ++ rest ++ [] = s.given ++ s.buffer.pendingSamples ++ phase.inHand := by
      rw [content, hand]
      simp
    refine ⟨⟨(by simp), (by simp), ?_, ?_⟩, (by simp)⟩
    · rw [given]
      exact same ▸ ready.sublist
    · rw [given]
      exact fun none_discarded => same.trans (ready.whole none_discarded)
  | miss here content => exact absurd content (ready.pops (.inr here))
  | take reader packet queue here items =>
    cases reader with
    | get =>
      have empty : s.buffer.pendingSamples = [] := ready.fetches (by rw [here]; trivial)
      have hand : phase.inHand = [] := by rw [here]; rfl
      have taken : ((s.removed ++ [(some Reader.get, packet)]).filter
          (fun removal => removal.1 = some Reader.get)).map Prod.snd = s.takenBy .get ++ [packet] := by
        simp [Shared.takenBy]
      have before := ready.sublist
      have whole := ready.whole
      rw [empty, hand, List.append_nil, List.append_nil] at before whole
      have given := Shared.given_record { s with
        buffer := { s.buffer with queue := queue }
        removed := s.removed ++ [(some .get, packet)] } thread none
      rw [Option.bind_none, Option.toList_none, List.append_nil] at given
      refine ⟨⟨(by simp), fun _ => empty, ?_, ?_⟩, (by simp)⟩
      · simp only [Shared.takenBy, Shared.record, taken, List.flatMap_append, List.flatMap_singleton]
        simp only [Shared.record] at given
        rw [given, empty, List.append_nil]
        exact before.append (List.Sublist.refl _)
      · intro kept
        simp only [Shared.takenBy, Shared.record, taken, List.flatMap_append, List.flatMap_singleton]
        simp only [Shared.record] at given
        rw [given, empty, List.append_nil]
        exact congrArg (· ++ samplesOf packet) (whole kept)
    | getSampleBatch =>
      refine ⟨ready.keep (.of thread none rfl rfl rfl rfl ?_) (by rw [here]; rfl) (by simp) (by simp), (by simp)⟩
      simp [Shared.takenBy]
  | stamp after reader packet here alike =>
    refine ⟨ready.keep (.of thread none rfl alike.answers alike.pendingSamples alike.discarded
      (takenBy_alike alike .get)) ?_ (by simp) ?_, (by simp)⟩
    · cases reader <;> rw [here] <;> rfl
    · cases reader with
      | get => exact fun _ => ready.fetches (by rw [here]; trivial)
      | getSampleBatch => exact False.elim
  | give packet first rest here samples =>
    have empty : s.buffer.pendingSamples = [] := ready.fetches (by rw [here]; trivial)
    have given := Shared.given_record
      { s with buffer := { s.buffer with pendingSamples := s.buffer.pendingSamples ++ rest } }
      thread (some (.sample first))
    have hand : phase.inHand = first :: rest := by rw [here]; exact samples
    have same : s.given ++ [first] ++ (s.buffer.pendingSamples ++ rest) ++ [] =
        s.given ++ s.buffer.pendingSamples ++ phase.inHand := by
      rw [empty, hand]
      simp
    refine ⟨⟨(by simp), (by simp), ?_, ?_⟩, (by simp)⟩
    · rw [given]
      exact same ▸ ready.sublist
    · rw [given]
      exact fun none_discarded => same.trans (ready.whole none_discarded)
  | fail packet error here samples =>
    exact ⟨ready.keep (.of thread _ rfl rfl rfl rfl rfl) (by rw [here]; exact samples.symm) (by simp) (by simp),
      (by simp)⟩
  | batch packet here =>
    refine ⟨ready.keep (.of thread _ ?_ rfl rfl rfl rfl) (by rw [here]; rfl) (by simp) (by simp), ?_⟩
    · rw [Option.bind_some, (batchAnswer_given packet).1]
    · unfold batchAnswer
      split <;> simp
  | clear here =>
    exact ⟨ready.keep (.of thread none rfl rfl rfl rfl (Shared.takenBy_clear s s.buffer.queue.clear .get))
      (by rw [here]; rfl) (by simp) (by simp), (by simp)⟩
  | empty here =>
    have given := Shared.given_record { s with
      buffer := { s.buffer with pendingSamples := [] }
      discarded := s.discarded ++ s.buffer.pendingSamples } thread none
    rw [Option.bind_none, Option.toList_none, List.append_nil] at given
    refine ⟨⟨(by simp), fun _ => rfl, ?_, ?_⟩, (by simp)⟩
    · have shorter : (s.given ++ [] ++ []).Sublist
          (s.given ++ s.buffer.pendingSamples ++ phase.inHand) :=
        ((List.Sublist.refl _).append (List.nil_sublist _)).append (List.nil_sublist _)
      rw [given]
      exact shorter.trans ready.sublist
    · intro nothing
      obtain ⟨before, pending⟩ := List.append_eq_nil_iff.mp nothing
      have whole := ready.whole before
      have hand : phase.inHand = [] := by rw [here]; rfl
      rw [pending, hand] at whole
      rw [given]
      exact whole

/-- What is no business of `get` and `clear`. -/
theorem others_moves (s after : Shared Thread) (phase next : Phase) (answer : Option Answer)
    (thread : Thread) (moves : Moves s phase after next answer) (get : phase.role ≠ .get)
    (clear : phase.role ≠ .clear) :
    Untouched s (after.record thread answer) ∧ answer ≠ some .emptied := by
  cases moves with
  | rest after next answer leads alike empty =>
    refine ⟨.of thread answer (empty_given answer empty).1 alike.answers alike.pendingSamples
      alike.discarded (takenBy_alike alike .get), ?_⟩
    rintro rfl
    exact empty _ rfl
  | accept packet queue here items => exact ⟨.of thread none rfl rfl rfl rfl rfl, (by simp)⟩
  | refuse packet here => exact ⟨.of thread none rfl rfl rfl rfl rfl, (by simp)⟩
  | load here => exact ⟨.of thread none rfl rfl rfl rfl rfl, (by simp)⟩
  | count value here => exact ⟨.of thread _ rfl rfl rfl rfl rfl, (by simp)⟩
  | pop sample rest here content => exact absurd (by rw [here]; rfl) get
  | miss here content => exact absurd (by rw [here]; rfl) get
  | take reader packet queue here items =>
    cases reader with
    | get => exact absurd (by rw [here]; rfl) get
    | getSampleBatch =>
      refine ⟨.of thread none rfl rfl rfl rfl ?_, (by simp)⟩
      simp [Shared.takenBy]
  | stamp after reader packet here alike =>
    exact ⟨.of thread none rfl alike.answers alike.pendingSamples alike.discarded
      (takenBy_alike alike .get), (by simp)⟩
  | give packet first rest here samples => exact absurd (by rw [here]; rfl) get
  | fail packet error here samples => exact absurd (by rw [here]; rfl) get
  | batch packet here =>
    refine ⟨.of thread _ ?_ rfl rfl rfl rfl, ?_⟩
    · rw [Option.bind_some, (batchAnswer_given packet).1]
    · unfold batchAnswer
      split <;> simp
  | clear here => exact absurd (by rw [here]; rfl) clear
  | empty here => exact absurd (by rw [here]; rfl) clear

/-- The thread that gets is ready, and so far no call has popped from an empty deque. -/
structure Orderly (consumer : Thread) (s : State Thread) : Prop where
  ready : Ready s.shared (s.own consumer)
  never : ∀ answer ∈ s.shared.answers, answer.2 ≠ .emptied

theorem orderly_step [DecidableEq Thread] (producer consumer : Thread) (s : State Thread)
    (action : Action Thread) (assigned : Assigned producer consumer s)
    (orderly : Orderly consumer s) : Orderly consumer (step s action) := by
  rcases step_cases s action with same | ⟨thread, method, rfl, idle, begun⟩ |
    ⟨thread, after, next, answer, moves, moved⟩
  · rw [same]
    exact orderly
  · rw [begun]
    refine ⟨?_, orderly.never⟩
    by_cases mine : consumer = thread
    · rw [mine, Threads.System.move_own]
      have hand : method.begin.inHand = (s.own consumer).inHand := by
        rw [mine, idle]
        cases method with
        | read reader => cases reader <;> rfl
        | _ => rfl
      refine orderly.ready.keep ⟨rfl, rfl, rfl, rfl⟩ hand ?_ ?_
      all_goals
        cases method with
        | read reader => cases reader <;> simp [Method.begin, Phase.Fetching]
        | _ => simp [Method.begin, Phase.Fetching]
    · rw [Threads.System.move_other _ _ _ _ _ mine]
      exact orderly.ready.keep ⟨rfl, rfl, rfl, rfl⟩ rfl orderly.ready.pops orderly.ready.fetches
  · have record (fine : answer ≠ some .emptied) (same : after.answers = s.shared.answers) :
        ∀ given ∈ (after.record thread answer).answers, given.2 ≠ .emptied := by
      intro given member
      rcases List.mem_append.mp member with old | new
      · exact orderly.never given (same ▸ old)
      · cases answer with
        | none => cases new
        | some answer =>
          rw [List.mem_singleton.mp new]
          exact fun wrong => fine (congrArg some wrong)
    have answers : after.answers = s.shared.answers := by
      cases moves with
      | rest after next answer leads alike empty => exact alike.answers
      | stamp after reader packet here alike => exact alike.answers
      | _ => rfl
    rw [moved]
    by_cases mine : consumer = thread
    · obtain ⟨ready, fine⟩ := ready_moves _ _ _ _ _ thread moves (mine ▸ orderly.ready)
      refine ⟨?_, record fine answers⟩
      rw [mine, Threads.System.move_own]
      exact ready
    · have role := assigned thread
      have get : (s.own thread).role ≠ .get := by
        intro wrong
        rw [wrong] at role
        exact mine role.symm
      have clear : (s.own thread).role ≠ .clear := by
        intro wrong
        rw [wrong] at role
        exact mine role.symm
      obtain ⟨untouched, fine⟩ := others_moves _ _ _ _ _ thread moves get clear
      refine ⟨?_, record fine answers⟩
      rw [Threads.System.move_other _ _ _ _ _ mine]
      exact orderly.ready.keep untouched rfl orderly.ready.pops orderly.ready.fetches

/-- With one thread that counts, no count gets lost. -/
structure Exact (s : Shared Thread) (phase : Phase) : Prop where
  counter : s.buffer.droppedPacketCount = s.counted
  read : ∀ count, phase = .counting count → count = s.buffer.droppedPacketCount

theorem exact_moves (s after : Shared Thread) (phase next : Phase) (answer : Option Answer)
    (moves : Moves s phase after next answer) (exactly : Exact s phase) : Exact after next := by
  cases moves with
  | rest after next answer leads alike empty =>
    refine ⟨?_, ?_⟩
    · rw [alike.droppedPacketCount, alike.counted]
      exact exactly.counter
    · rintro count rfl
      exact leads.freeNext.elim
  | load here =>
    refine ⟨exactly.counter, ?_⟩
    rintro count ⟨⟩
    rfl
  | count value here =>
    have latest := (exactly.read value here).trans exactly.counter
    exact ⟨congrArg (· + 1) latest, nofun⟩
  | stamp after reader packet here alike =>
    refine ⟨?_, nofun⟩
    rw [alike.droppedPacketCount, alike.counted]
    exact exactly.counter
  | _ => exact ⟨exactly.counter, nofun⟩

/-- The counter is the business of `put` alone. -/
theorem counted_moves (s after : Shared Thread) (phase next : Phase) (answer : Option Answer)
    (moves : Moves s phase after next answer) (role : phase.role ≠ .put) :
    after.buffer.droppedPacketCount = s.buffer.droppedPacketCount ∧ after.counted = s.counted := by
  cases moves with
  | rest after next answer leads alike empty => exact ⟨alike.droppedPacketCount, alike.counted⟩
  | count value here => exact absurd (by rw [here]; rfl) role
  | stamp after reader packet here alike => exact ⟨alike.droppedPacketCount, alike.counted⟩
  | _ => exact ⟨rfl, rfl⟩

theorem exact_step [DecidableEq Thread] (producer consumer : Thread) (s : State Thread)
    (action : Action Thread) (assigned : Assigned producer consumer s)
    (exactly : Exact s.shared (s.own producer)) :
    Exact (step s action).shared ((step s action).own producer) := by
  rcases step_cases s action with same | ⟨thread, method, rfl, idle, begun⟩ |
    ⟨thread, after, next, answer, moves, moved⟩
  · rw [same]
    exact exactly
  · rw [begun]
    refine ⟨exactly.counter, ?_⟩
    by_cases mine : producer = thread
    · rw [mine, Threads.System.move_own]
      exact fun count wrong => absurd wrong (begin_counting method count)
    · rw [Threads.System.move_other _ _ _ _ _ mine]
      exact exactly.read
  · rw [moved]
    by_cases mine : producer = thread
    · rw [mine, Threads.System.move_own]
      obtain ⟨counter, read⟩ := exact_moves _ _ _ _ _ moves (mine ▸ exactly)
      exact ⟨counter, read⟩
    · have role : (s.own thread).role ≠ .put := by
        intro wrong
        have fits := assigned thread
        rw [wrong] at fits
        exact mine fits.symm
      obtain ⟨dropped, counted⟩ := counted_moves _ _ _ _ _ moves role
      rw [Threads.System.move_other _ _ _ _ _ mine]
      refine ⟨dropped.trans (exactly.counter.trans counted.symm), fun count here => ?_⟩
      exact (exactly.read count here).trans dropped.symm

theorem drops_role {phase : Phase} (role : phase.role ≠ .put) : phase.drops = 0 := by
  cases phase with
  | dropping => exact absurd rfl role
  | counting count => exact absurd rfl role
  | _ => rfl

/-- Only the thread that gets has samples in its hands. -/
theorem inHand_role {phase : Phase} (role : phase.role ≠ .get) : phase.samples = 0 := by
  cases phase with
  | taken reader packet =>
    cases reader with
    | get => exact absurd rfl role
    | getSampleBatch => rfl
  | decoding reader packet =>
    cases reader with
    | get => exact absurd rfl role
    | getSampleBatch => rfl
  | _ => rfl

/-- Where one thread puts, and one gets and clears, `popleft` never fails; samples are given out in
the order of the packets; those taken and not given out wait, are in the hands of the thread that
gets, or have been cleared away; and between two puts every refused packet has been counted. -/
theorem one_user_each [DecidableEq Thread] [Fintype Thread] (producer consumer : Thread)
    (maxsize : Nat) (now : Int) (actions : List (Action Thread))
    (sole : ∀ action ∈ actions, Sole producer consumer action) :
    let s := Run.run step (start Thread maxsize now) actions
    (∀ answer ∈ s.shared.answers, answer.2 ≠ .emptied) ∧
      s.shared.given.Sublist ((s.shared.takenBy .get).flatMap samplesOf) ∧
      (s.shared.discarded = [] →
        s.shared.given ++ s.shared.buffer.pendingSamples ++ (s.own consumer).inHand =
          (s.shared.takenBy .get).flatMap samplesOf) ∧
      samplesTaken s.shared = samplesKept s.shared + (s.own consumer).samples ∧
      ((s.own producer).role ≠ .put →
        s.shared.buffer.droppedPacketCount = s.shared.refused) := by
  have allMet := Run.allMeet_of_forall step (Sole producer consumer) actions
    (start Thread maxsize now) sole
  have all := Run.run_invariant step (fun _ action => Sole producer consumer action)
    (fun s => Assigned producer consumer s ∧ Orderly consumer s ∧ Exact s.shared (s.own producer))
    (fun s action holds meets => ⟨assigned_step producer consumer s action holds.1 meets,
      orderly_step producer consumer s action holds.1 holds.2.1,
      exact_step producer consumer s action holds.1 holds.2.2⟩) actions
    (start Thread maxsize now) ⟨fun _ => trivial, ⟨⟨nofun, nofun, List.Sublist.refl _, fun _ => rfl⟩,
      nofun⟩, ⟨rfl, nofun⟩⟩ allMet
  obtain ⟨assigned, orderly, exactly⟩ := all
  have samples := samples_kept.run rfl maxsize now rfl actions
  have drops := drops_kept.run rfl maxsize now rfl actions
  generalize Run.run step (start Thread maxsize now) actions = s
    at assigned orderly exactly samples drops
  have front : s.shared.given.Sublist
      (s.shared.given ++ s.shared.buffer.pendingSamples ++ (s.own consumer).inHand) :=
    (List.sublist_append_left _ _).trans (List.sublist_append_left _ _)
  have hands : ∑ thread, (s.own thread).samples = (s.own consumer).samples := by
    apply Finset.sum_eq_single consumer
    · intro thread _ other
      apply inHand_role
      intro role
      have fits := assigned thread
      rw [role] at fits
      exact other fits
    · exact fun absent => absurd (Finset.mem_univ consumer) absent
  have taken : samplesTaken s.shared =
      samplesKept s.shared + ∑ thread, (s.own thread).samples := samples
  refine ⟨orderly.never, front.trans orderly.ready.sublist, orderly.ready.whole,
    hands ▸ taken, fun between => ?_⟩
  have others : ∑ thread, (s.own thread).drops = 0 := by
    apply Finset.sum_eq_zero
    intro thread _
    apply drops_role
    intro role
    have fits := assigned thread
    rw [role] at fits
    have here : thread = producer := fits
    exact between (here ▸ role)
  have books : s.shared.refused = s.shared.counted + ∑ thread, (s.own thread).drops := drops
  rw [books, others, Nat.add_zero]
  exact exactly.counter

/-- Three threads at once: one puts, one gets, and one takes a batch between its two looks. -/
def threeAtOnce : List (Action (Fin 3)) :=
  [.call 0 (.put (List.replicate 35 0)), .call 1 (.read .get), .step 1 0 false,
    .call 2 (.read .getSampleBatch), .step 0 0 false, .step 2 0 false, .step 0 0 false,
    .call 0 (.put (List.replicate 35 1)), .step 0 0 false, .step 1 5 false, .step 2 5 false,
    .step 1 5 false, .step 1 6 false, .step 2 6 false]

theorem three_at_once_orderly :
    let s := Run.run step (start (Fin 3) 1000 0) threeAtOnce
    (∀ answer ∈ s.shared.answers, answer.2 ≠ .emptied) ∧
      s.shared.given.Sublist ((s.shared.takenBy .get).flatMap samplesOf) ∧
      (s.shared.discarded = [] →
        s.shared.given ++ s.shared.buffer.pendingSamples ++ (s.own 1).inHand =
          (s.shared.takenBy .get).flatMap samplesOf) ∧
      samplesTaken s.shared = samplesKept s.shared + (s.own 1).samples ∧
      ((s.own 0).role ≠ .put → s.shared.buffer.droppedPacketCount = s.shared.refused) :=
  one_user_each 0 1 1000 0 threeAtOnce (by simp [threeAtOnce, Sole, Method.begin, Phase.role,
    Reader.role, Role.Fits])

/-- Two threads that put into a full queue: both read the counter before either writes it. -/
example :
    let s := Run.run step (start (Fin 2) 1 0)
      [.call 0 (.put []), .step 0 0 false, .step 0 0 false, .call 0 (.put []), .call 1 (.put []),
        .step 0 0 false, .step 1 0 false, .step 0 0 false, .step 1 0 false, .step 0 0 false,
        .step 1 0 false]
    (s.shared.refused, s.shared.buffer.droppedPacketCount) = (2, 1) := by
  decide

end SchunkFts.Library.BufferThreads
