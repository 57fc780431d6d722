import SchunkFts.Foundation.Run
import SchunkFts.Library.BufferLedger

/-! The order in which an `FTDataBuffer` returns its samples when both readers are used. -/

namespace SchunkFts.Library.ArrivalOrder
open SchunkFts.Foundation.Struct SchunkFts.Foundation.Queue SchunkFts.Foundation.Run
open Packet DataBuffer BufferLedger

/-- A sample that has arrived before another: in an earlier packet, or earlier in the same one. -/
def Before (first second : Token) : Prop :=
  first.packet < second.packet ∨
    (first.packet = second.packet ∧
      first.data.toSample.sampleIndex < second.data.toSample.sampleIndex)

/-- The calls of the receiving thread and of the two readers, every packet being decodable. -/
inductive Use where
  | put (packet : Bytes) (accepted : Accepts packet)
  | get (now : Int)
  | getSampleBatch (now : Int)

def Use.call : Use → Call
  | put packet _ => .put packet
  | get now => .get now
  | getSampleBatch now => .getSampleBatch now

/-- What the ledger takes for the bound of the queue; a `maxsize` of 0 is none. -/
def bound (maxsize : Nat) (ledger : Ledger) : Nat :=
  if maxsize = 0 then ledger.accepted.length + 1 else maxsize

def next (maxsize : Nat) (ledger : Ledger) (use : Use) : Ledger :=
  ledger.step (bound maxsize ledger) use.call

/-- The samples that a call returns. -/
def returns (maxsize : Nat) (ledger : Ledger) (use : Use) : List Token :=
  (ledger.serve (bound maxsize ledger) use.call).2.tokens

/-- A buffer with its outcomes, beside its ledger. -/
structure Traced extends Recorded where
  ledger : Ledger

def Traced.new (maxsize : Nat) (now : Int) : Traced where
  buffer := .new maxsize now
  outcomes := []
  ledger := {}

def Traced.step (maxsize : Nat) (traced : Traced) (use : Use) : Traced where
  toRecorded := traced.toRecorded.step use.call
  ledger := next maxsize traced.ledger use

/-- The samples that the calls return. -/
def served (maxsize : Nat) (ledger : Ledger) : List Use → List Token
  | [] => []
  | use :: later => returns maxsize ledger use ++ served maxsize (next maxsize ledger use) later

/-- The call returns its samples in order, and nothing that is returned later has arrived before. -/
def KeepsOrder (maxsize : Nat) (traced : Traced) (use : Use) : Prop :=
  (returns maxsize traced.ledger use).Pairwise Before ∧
    ∀ later, ∀ token ∈ returns maxsize traced.ledger use,
      ∀ other ∈ served maxsize (next maxsize traced.ledger use) later, Before token other

/-- A packet is taken as a batch only when no samples are left from one taken before. -/
def NothingPending (traced : Traced) (use : Use) : Prop :=
  ∀ now, use = .getSampleBatch now →
    traced.buffer.queue.items = [] ∨ traced.buffer.pendingSamples = []

/-! ### What is still to come -/

/-- The samples that can still be returned. -/
def ToCome (ledger : Ledger) (token : Token) : Prop :=
  token ∈ ledger.pending ∨ ledger.taken ≤ token.packet

/-- The pending samples are in order, and their packet has been taken. -/
structure Ordered (ledger : Ledger) : Prop where
  decodable : ∀ packet ∈ ledger.accepted, Accepts packet
  pending : ledger.pending.Pairwise Before
  taken : ∀ token ∈ ledger.pending, token.packet < ledger.taken

theorem samplesOf_ordered (entry : Bytes × Nat) : (samplesOf entry).Pairwise Before := by
  obtain ⟨packet, number⟩ := entry
  by_cases accepted : Accepts packet
  · rw [samplesOf_accepted packet number accepted, List.pairwise_map]
    apply List.pairwise_lt_range.imp_of_mem
    intro first second inFirst inSecond less
    right
    refine ⟨rfl, ?_⟩
    have here := toSample_place packet first (List.mem_range.mp inFirst)
    have there := toSample_place packet second (List.mem_range.mp inSecond)
    simp only [here.1, there.1]
    exact less
  · rw [samplesOf_rejected packet number accepted]
    exact .nil

/-- The ways a call can go: the samples it returns, those left pending, and the packets taken. -/
inductive Goes (ledger : Ledger) : List Token → List Token → Nat → Prop where
  | nothing : Goes ledger [] ledger.pending ledger.taken
  | pending (token : Token) (rest : List Token) (held : ledger.pending = token :: rest) :
      Goes ledger [token] rest ledger.taken
  | first (packet : Bytes) (token : Token) (rest : List Token) (none_held : ledger.pending = [])
      (samples : samplesOf (packet, ledger.taken) = token :: rest) :
      Goes ledger [token] rest (ledger.taken + 1)
  | batch (packet : Bytes) (some_samples : samplesOf (packet, ledger.taken) ≠ []) :
      Goes ledger (samplesOf (packet, ledger.taken)) ledger.pending (ledger.taken + 1)

theorem front_samples (ledger : Ledger) (ordered : Ordered ledger) (packet : Bytes)
    (front : ledger.accepted[ledger.taken]? = some packet) :
    samplesOf (packet, ledger.taken) ≠ [] := by
  intro none
  exact (samplesOf_eq_nil packet ledger.taken).mp none
    (ordered.decodable packet (List.mem_of_getElem? front))

theorem step_goes (maxsize : Nat) (ledger : Ledger) (ordered : Ordered ledger) (use : Use) :
    Goes ledger (ledger.serve maxsize use.call).2.tokens (ledger.step maxsize use.call).pending
      (ledger.step maxsize use.call).taken := by
  cases use with
  | put packet accepted =>
    simp only [Use.call, Ledger.step, Ledger.serve]
    split_ifs <;> exact .nothing
  | get now =>
    simp only [Use.call, Ledger.step, Ledger.serve]
    cases held : ledger.pending with
    | cons token rest =>
      simp only
      exact .pending token rest held
    | nil =>
      cases front : ledger.accepted[ledger.taken]? with
      | none =>
        simp only
        exact .nothing
      | some packet =>
        cases samples : samplesOf (packet, ledger.taken) with
        | nil => exact absurd samples (front_samples ledger ordered packet front)
        | cons token rest =>
        simp only [samples]
        exact .first packet token rest held samples
  | getSampleBatch now =>
    simp only [Use.call, Ledger.step, Ledger.serve]
    cases front : ledger.accepted[ledger.taken]? with
    | none =>
      simp only
      exact .nothing
    | some packet =>
      have some_samples := front_samples ledger ordered packet front
      cases samples : samplesOf (packet, ledger.taken) with
      | nil => exact absurd samples some_samples
      | cons token rest =>
        have whole := Goes.batch packet some_samples
        rw [samples] at whole
        simp only [samples]
        exact whole

theorem step_accepted (maxsize : Nat) (ledger : Ledger) (use : Use)
    (decodable : ∀ packet ∈ ledger.accepted, Accepts packet) :
    ∀ packet ∈ (ledger.step maxsize use.call).accepted, Accepts packet := by
  cases use with
  | put packet accepted =>
    simp only [Use.call, Ledger.step, Ledger.serve]
    split_ifs
    · exact decodable
    · intro other member
      rcases List.mem_append.mp member with before | new
      · exact decodable other before
      · rw [List.mem_singleton.mp new]
        exact accepted
  | get now =>
    simp only [Use.call, Ledger.step, Ledger.serve]
    split
    · exact decodable
    · split
      · exact decodable
      · split <;> exact decodable
  | getSampleBatch now =>
    simp only [Use.call, Ledger.step, Ledger.serve]
    split
    · exact decodable
    · split <;> exact decodable

section Going
variable (ledger : Ledger) (tokens pending : List Token) (taken : Nat)
  (goes : Goes ledger tokens pending taken)
include goes

/-- A call returns samples that were to come. -/
theorem goes_tokens : ∀ token ∈ tokens, ToCome ledger token := by
  cases goes with
  | nothing => exact fun token member => absurd member List.not_mem_nil
  | pending token rest held =>
    intro other member
    rw [List.mem_singleton.mp member, ToCome, held]
    exact .inl List.mem_cons_self
  | first packet token rest none_held samples =>
    intro other member
    have inside : other ∈ samplesOf (packet, ledger.taken) := by
      rw [samples, List.mem_singleton.mp member]
      exact List.mem_cons_self
    exact .inr (samplesOf_number _ other inside).ge
  | batch packet some_samples =>
    intro other member
    exact .inr (samplesOf_number _ other member).ge

/-- What is to come after a call was to come before it. -/
theorem goes_toCome (token : Token) (later : token ∈ pending ∨ taken ≤ token.packet) :
    ToCome ledger token := by
  cases goes with
  | nothing => exact later
  | pending first rest held =>
    rw [ToCome, held]
    exact later.imp_left (List.mem_cons_of_mem _)
  | first packet first rest none_held samples =>
    right
    rcases later with member | unread
    · have inside : token ∈ samplesOf (packet, ledger.taken) := by
        rw [samples]
        exact List.mem_cons_of_mem _ member
      exact (samplesOf_number _ token inside).ge
    · omega
  | batch packet some_samples => exact later.imp_right (fun unread => by omega)

theorem goes_pending (ordered : Ordered ledger) :
    pending.Pairwise Before ∧ ∀ token ∈ pending, token.packet < taken := by
  cases goes with
  | nothing => exact ⟨ordered.pending, ordered.taken⟩
  | pending first rest held =>
    have order := ordered.pending
    rw [held] at order
    refine ⟨(List.pairwise_cons.mp order).2, ?_⟩
    intro token member
    exact ordered.taken token (by rw [held]; exact List.mem_cons_of_mem _ member)
  | first packet first rest none_held samples =>
    have order := samplesOf_ordered (packet, ledger.taken)
    rw [samples] at order
    refine ⟨(List.pairwise_cons.mp order).2, ?_⟩
    intro token member
    have inside : token ∈ samplesOf (packet, ledger.taken) := by
      rw [samples]
      exact List.mem_cons_of_mem _ member
    rw [samplesOf_number _ token inside]
    exact Nat.lt_succ_self _
  | batch packet some_samples =>
    exact ⟨ordered.pending, fun token member => Nat.lt_succ_of_lt (ordered.taken token member)⟩

theorem goes_ordered : tokens.Pairwise Before := by
  cases goes with
  | nothing => exact .nil
  | pending first rest held => exact List.pairwise_singleton _ _
  | first packet first rest none_held samples => exact List.pairwise_singleton _ _
  | batch packet some_samples => exact samplesOf_ordered _

/-- A call that takes a packet while nothing is pending returns what comes before all the rest. -/
theorem goes_before (ordered : Ordered ledger)
    (alone : taken ≠ ledger.taken → ledger.pending = []) :
    ∀ token ∈ tokens, ∀ next, next ∈ pending ∨ taken ≤ next.packet → Before token next := by
  cases goes with
  | nothing => exact fun token member => absurd member List.not_mem_nil
  | pending first rest held =>
    intro token member next later
    rw [List.mem_singleton.mp member]
    have order := ordered.pending
    have number := ordered.taken first (by rw [held]; exact List.mem_cons_self)
    rw [held] at order
    rcases later with still | unread
    · exact (List.pairwise_cons.mp order).1 next still
    · exact .inl (by omega)
  | first packet first rest none_held samples =>
    intro token member next later
    rw [List.mem_singleton.mp member]
    have order := samplesOf_ordered (packet, ledger.taken)
    have number := samplesOf_number (packet, ledger.taken) first (by
      rw [samples]
      exact List.mem_cons_self)
    rw [samples] at order
    rcases later with still | unread
    · exact (List.pairwise_cons.mp order).1 next still
    · exact .inl (by simp only at number; omega)
  | batch packet some_samples =>
    intro token member next later
    have number := samplesOf_number _ token member
    rw [alone (Nat.succ_ne_self _)] at later
    rcases later with still | unread
    · exact absurd still List.not_mem_nil
    · exact .inl (by simp only at number; omega)

/-- A call that takes a packet past pending samples returns what has arrived after them. -/
theorem goes_past (ordered : Ordered ledger) (takes : taken ≠ ledger.taken) (left : Token)
    (waiting : left ∈ ledger.pending) : pending = ledger.pending ∧ ∃ token ∈ tokens, ¬Before token left := by
  cases goes with
  | nothing => exact absurd rfl takes
  | pending first rest held => exact absurd rfl takes
  | first packet first rest none_held samples =>
    rw [none_held] at waiting
    exact absurd waiting List.not_mem_nil
  | batch packet some_samples =>
    refine ⟨rfl, ?_⟩
    obtain ⟨token, rest, samples⟩ := List.exists_cons_of_ne_nil some_samples
    have member : token ∈ samplesOf (packet, ledger.taken) := by
      rw [samples]
      exact List.mem_cons_self
    have number := samplesOf_number _ token member
    have earlier := ordered.taken left waiting
    simp only at number
    refine ⟨token, member, ?_⟩
    rintro (less | ⟨same, _⟩) <;> omega

end Going

theorem ordered_step (maxsize : Nat) (ledger : Ledger) (ordered : Ordered ledger) (use : Use) :
    Ordered (ledger.step maxsize use.call) := by
  have left := goes_pending ledger _ _ _ (step_goes maxsize ledger ordered use) ordered
  exact ⟨step_accepted maxsize ledger use ordered.decodable, left.1, left.2⟩

/-- Everything that is returned later was to come. -/
theorem served_toCome (maxsize : Nat) (later : List Use) (ledger : Ledger) (ordered : Ordered ledger) :
    ∀ token ∈ served maxsize ledger later, ToCome ledger token := by
  induction later generalizing ledger with
  | nil => exact fun token member => absurd member List.not_mem_nil
  | cons use later ih =>
    intro token member
    have goes := step_goes (bound maxsize ledger) ledger ordered use
    rcases List.mem_append.mp member with now | after
    · exact goes_tokens ledger _ _ _ goes token now
    · exact goes_toCome ledger _ _ _ goes token
        (ih _ (ordered_step (bound maxsize ledger) ledger ordered use) token after)

/-! ### A batch past pending samples -/

theorem served_get (maxsize : Nat) (ledger : Ledger) (left : Token) (rest : List Token)
    (held : ledger.pending = left :: rest) : served maxsize ledger [.get 0] = [left] := by
  simp only [served, returns, Use.call, Ledger.serve, held, Answer.tokens, List.append_nil]

theorem keepsOrder_iff_alone (maxsize : Nat) (traced : Traced) (use : Use)
    (ordered : Ordered traced.ledger) :
    KeepsOrder maxsize traced use ↔
      ((next maxsize traced.ledger use).taken ≠ traced.ledger.taken →
        traced.ledger.pending = []) := by
  have goes := step_goes (bound maxsize traced.ledger) traced.ledger ordered use
  constructor
  · rintro ⟨_, before⟩ takes
    by_contra some_pending
    obtain ⟨left, rest, held⟩ := List.exists_cons_of_ne_nil some_pending
    obtain ⟨same, token, member, after⟩ := goes_past _ _ _ _ goes ordered takes left (by
      rw [held]
      exact List.mem_cons_self)
    -- the next `get` returns what is still pending
    have shown := served_get maxsize (next maxsize traced.ledger use) left rest (same.trans held)
    exact after (before [.get 0] token member left (by rw [shown]; exact List.mem_cons_self))
  · intro alone
    refine ⟨goes_ordered _ _ _ _ goes, ?_⟩
    intro later token member other after
    exact goes_before _ _ _ _ goes ordered alone token member other
      (served_toCome maxsize later _ (ordered_step _ _ ordered use) other after)

/-- The condition in the terms of the ledger. -/
theorem nothingPending_iff_alone (maxsize : Nat) (traced : Traced) (use : Use)
    (refines : Refines maxsize traced.buffer traced.ledger) :
    NothingPending traced use ↔
      ((next maxsize traced.ledger use).taken ≠ traced.ledger.taken →
        traced.ledger.pending = []) := by
  have none_left : traced.buffer.pendingSamples = [] ↔ traced.ledger.pending = [] := by
    rw [refines.pending, List.map_eq_nil_iff]
  have empty := refines.stored.empty_iff
  cases use with
  | put packet accepted =>
    apply iff_of_true (fun now same => by cases same)
    intro takes
    simp only [next, Use.call, Ledger.step, Ledger.serve] at takes
    split_ifs at takes
    · exact absurd rfl takes
    · exact absurd rfl takes
  | get now =>
    apply iff_of_true (fun now same => by cases same)
    intro takes
    cases held : traced.ledger.pending with
    | nil => rfl
    | cons token rest =>
      simp only [next, Use.call, Ledger.step, Ledger.serve, held] at takes
      exact absurd rfl takes
  | getSampleBatch now =>
    have condition : NothingPending traced (.getSampleBatch now) ↔
        traced.buffer.queue.items = [] ∨ traced.buffer.pendingSamples = [] :=
      ⟨fun alone => alone now rfl, fun alone _ _ => alone⟩
    have takes_iff : (next maxsize traced.ledger (.getSampleBatch now)).taken ≠
        traced.ledger.taken ↔ traced.buffer.queue.items ≠ [] := by
      rw [ne_eq, ne_eq, not_iff_not, empty]
      simp only [next, Use.call, Ledger.step, Ledger.serve]
      cases front : traced.ledger.accepted[traced.ledger.taken]? with
      | none => simp
      | some packet =>
        simp only
        split <;> simp [Ledger.take]
    rw [condition, none_left, takes_iff]
    tauto

/-! ### Any mix of the calls -/

/-- With a bound or without one, a call does what the ledger says. -/
theorem refines_next (maxsize : Nat) (buffer : FTDataBuffer) (ledger : Ledger)
    (refines : Refines maxsize buffer ledger) (use : Use) :
    Refines maxsize (BufferLedger.call buffer use.call).1
        (ledger.serve (bound maxsize ledger) use.call).1 ∧
      Shows (ledger.serve (bound maxsize ledger) use.call).2
        (BufferLedger.call buffer use.call).2 := by
  rcases Nat.eq_zero_or_pos maxsize with unbounded | positive
  · cases use with
    | put packet accepted =>
      have room : ¬buffer.queue.Full := by
        rintro ⟨positive, _⟩
        rw [refines.sized] at positive
        omega
      have never : ¬ledger.accepted.length - ledger.taken = bound maxsize ledger := by
        rw [bound, if_pos unbounded]
        omega
      obtain ⟨queue, items, sized, put⟩ := buffer.put_room packet room
      simp only [Use.call, BufferLedger.call, Ledger.serve, if_neg never, put]
      exact ⟨⟨sized.trans refines.sized, refines.stored.put packet items, refines.pending,
        refines.dropped⟩, trivial⟩
    | get now => exact refines_get maxsize buffer ledger refines now
    | getSampleBatch now => exact refines_getSampleBatch maxsize buffer ledger refines now
  · have bounded : bound maxsize ledger = maxsize := if_neg positive.ne'
    rw [bounded]
    exact refines_call maxsize positive buffer ledger refines use.call

/-- The buffer does what its ledger says, and the ledger is in order. -/
structure Kept (maxsize : Nat) (traced : Traced) : Prop where
  refines : Refines maxsize traced.buffer traced.ledger
  shown : List.Forall₂ Shows traced.ledger.answers traced.outcomes
  ordered : Ordered traced.ledger

theorem kept_new (maxsize : Nat) (now : Int) : Kept maxsize (.new maxsize now) where
  refines := ⟨rfl, BoundedQueue.history_new maxsize, rfl, rfl⟩
  shown := .nil
  ordered := ⟨fun _ member => absurd member List.not_mem_nil, .nil,
    fun _ member => absurd member List.not_mem_nil⟩

theorem kept_step (maxsize : Nat) (traced : Traced) (use : Use) (kept : Kept maxsize traced) :
    Kept maxsize (traced.step maxsize use) := by
  obtain ⟨refines, shown⟩ := refines_next maxsize traced.buffer traced.ledger kept.refines use
  constructor
  · exact ⟨refines.sized, refines.stored, refines.pending, refines.dropped⟩
  · exact List.rel_append kept.shown (.cons shown .nil)
  · exact ordered_step _ traced.ledger kept.ordered use

theorem kept_run (maxsize : Nat) (now : Int) (uses : List Use) :
    Kept maxsize (run (Traced.step maxsize) (.new maxsize now) uses) :=
  run_always (Traced.step maxsize) (Kept maxsize) (kept_step maxsize) uses _ (kept_new maxsize now)

theorem keepsOrder_iff (maxsize : Nat) (traced : Traced) (use : Use) (kept : Kept maxsize traced) :
    KeepsOrder maxsize traced use ↔ NothingPending traced use := by
  rw [keepsOrder_iff_alone maxsize traced use kept.ordered,
    nothingPending_iff_alone maxsize traced use kept.refines]

theorem returned_served (maxsize : Nat) (uses : List Use) (traced : Traced) :
    (run (Traced.step maxsize) traced uses).ledger.returned =
      traced.ledger.returned ++ served maxsize traced.ledger uses := by
  induction uses generalizing traced with
  | nil => exact (List.append_nil _).symm
  | cons use later ih =>
    have first : (traced.step maxsize use).ledger.returned =
        traced.ledger.returned ++ returns maxsize traced.ledger use := by
      simp only [Traced.step, next, returns, Ledger.returned, Ledger.step, List.flatMap_append,
        List.flatMap_singleton]
    rw [run_cons, ih, first, List.append_assoc]
    rfl

/-- If every call keeps the order, all that is returned is in order. -/
theorem served_ordered (maxsize : Nat) (uses : List Use) (traced : Traced)
    (all : AllMeet (Traced.step maxsize) (KeepsOrder maxsize) traced uses) :
    (served maxsize traced.ledger uses).Pairwise Before := by
  induction uses generalizing traced with
  | nil => exact .nil
  | cons use later ih =>
    obtain ⟨⟨inside, across⟩, rest⟩ := all
    apply List.pairwise_append.mpr
    exact ⟨inside, ih _ rest, across later⟩

/-- However the readers are mixed, every call keeps the order of arrival exactly if no packet is
taken as a batch past pending samples, and then all samples returned are in that order. -/
theorem arrival_order_iff (maxsize : Nat) (now : Int) (uses : List Use) :
    let last := run (Traced.step maxsize) (.new maxsize now) uses
    List.Forall₂ Shows last.ledger.answers last.outcomes ∧
      (AllMeet (Traced.step maxsize) (KeepsOrder maxsize) (.new maxsize now) uses ↔
        AllMeet (Traced.step maxsize) NothingPending (.new maxsize now) uses) ∧
      (AllMeet (Traced.step maxsize) NothingPending (.new maxsize now) uses →
        last.ledger.returned.Pairwise Before) := by
  have iff : AllMeet (Traced.step maxsize) (KeepsOrder maxsize) (.new maxsize now) uses ↔
      AllMeet (Traced.step maxsize) NothingPending (.new maxsize now) uses :=
    allMeet_iff (Traced.step maxsize) (KeepsOrder maxsize) NothingPending (Kept maxsize)
      (fun traced use kept _ => kept_step maxsize traced use kept)
      (fun traced use kept => keepsOrder_iff maxsize traced use kept) uses _ (kept_new maxsize now)
  refine ⟨(kept_run maxsize now uses).shown, iff, ?_⟩
  intro alone
  rw [returned_served]
  exact served_ordered maxsize uses _ (iff.mpr alone)

def packagedPacket : Bytes := [0xff, 0xff, 1, 0, 193, 1, 7] ++ List.replicate 448 0

def singlePacket : Bytes := [0xff, 0xff, 2, 0, 29, 0, 8] ++ List.replicate 28 0

theorem packagedPacket_accepted : Accepts packagedPacket := by
  have payload : payloadField packagedPacket = 449 := rfl
  have length : packagedPacket.length = 455 := by
    rw [packagedPacket, List.length_append, List.length_replicate]
    rfl
  exact .inr ⟨payload, length.ge⟩

theorem singlePacket_accepted : Accepts singlePacket := by
  have payload : payloadField singlePacket = 29 := rfl
  refine .inl ⟨rfl, ?_⟩
  rw [payload]
  decide

/-- A reader of single samples stops inside a packaged packet and the other reader goes on. -/
def overtaking : List Use :=
  [.put packagedPacket packagedPacket_accepted, .put singlePacket singlePacket_accepted, .get 0,
    .getSampleBatch 0, .get 0]

theorem batch_overtakes :
    let last := run (Traced.step 1000) (.new 1000 0) overtaking
    List.Forall₂ Shows last.ledger.answers last.outcomes ∧ ¬last.ledger.returned.Pairwise Before := by
  refine ⟨(kept_run 1000 0 overtaking).shown, ?_⟩
  intro ordered
  have numbers : (run (Traced.step 1000) (.new 1000 0) overtaking).ledger.returned.map Token.packet =
      [0, 1, 0] := by decide +kernel
  have increasing : ([0, 1, 0] : List Nat).Pairwise (· ≤ ·) := by
    rw [← numbers, List.pairwise_map]
    apply ordered.imp
    rintro first second (less | ⟨same, _⟩)
    · exact less.le
    · exact same.le
  exact absurd increasing (by decide)

end SchunkFts.Library.ArrivalOrder
