import Mathlib.Order.Interval.Finset.Nat
import SchunkFts.Node.SampleStamps

/-! The count of skipped packets against the packets that were really lost. -/

namespace SchunkFts.Node.SkipCount
open SchunkFts.Foundation.Struct SchunkFts.Foundation.Run
open SchunkFts.Library.Packet SchunkFts.Library.DataBuffer StateTopic SampleStamps
open PublishLoop hiding Turn
open StampOrder (steadyConfig steadyNode steadyPacket steadyPacket_healthy steadyPacket_counter)

/-- What a pass over a batch with the given counter counts as skipped. -/
def packetsSkipped (config : Config) (node : NodeState) (counter : BitVec 16) : Int :=
  (skippedBefore (restoreConnection config node).1.lastCounter counter.toNat).getD 0

/-- A pass, with the number of the sensor's packet if one was received. -/
structure Reading where
  turn : Turn
  number : Nat
  counts : ∀ packet accepted, turn.outcome = .received packet accepted →
    counterField packet = BitVec.ofNat 16 number

/-- The packets between two that were received one after the other. -/
def between : Option Nat → Nat → Finset Nat
  | none, _ => ∅
  | some earlier, number => Finset.Ioo earlier number

/-- The node, the packet it has received last since the activation and since the last loss of the
connection that it noticed, the sum of its counts, and how many packets were lost. -/
structure Tally where
  node : NodeState
  previous : Option Nat
  counted : Int
  lost : Nat

def Tally.start (node : NodeState) : Tally where
  node := node.activate
  previous := none
  counted := 0
  lost := 0

def Tally.step (config : Config) (tally : Tally) (reading : Reading) : Tally :=
  let next := advance config tally.node reading.turn
  match reading.turn.outcome with
  | .none =>
      { tally with
        node := next, previous := if next.connectionLost then none else tally.previous }
  | .noSignal =>
      { tally with
        node := next
        counted := tally.counted + packetsSkipped config tally.node noSignalSample.counter }
  | .received packet _ => {
      node := next
      previous := some reading.number
      counted := tally.counted + packetsSkipped config tally.node (counterField packet)
      lost := tally.lost + (between tally.previous reading.number).card }

/-- Packets arrive in order, and fewer than 65535 are missing in a row. -/
def InOrder (tally : Tally) (reading : Reading) : Prop :=
  ∀ packet accepted, reading.turn.outcome = .received packet accepted →
    ∀ earlier, tally.previous = some earlier →
      earlier < reading.number ∧ (between tally.previous reading.number).card < 65535

/-- A received packet is counted against the one before, and the placeholder counts for nothing,
neither itself nor in what is counted for the next packet. -/
def Exact (config : Config) (tally : Tally) (reading : Reading) : Prop :=
  (∀ packet accepted, reading.turn.outcome = .received packet accepted → InOrder tally reading →
    packetsSkipped config tally.node (counterField packet) =
      ((between tally.previous reading.number).card : Int)) ∧
  (reading.turn.outcome = .noSignal →
    packetsSkipped config tally.node noSignalSample.counter = 0 ∧
    ∀ counter, packetsSkipped config (advance config tally.node reading.turn) counter =
      packetsSkipped config tally.node counter)

/-- The placeholder comes on a connection that is not lost, when the last counter is its own. -/
def PlaceholderHarmless (tally : Tally) (reading : Reading) : Prop :=
  reading.turn.outcome = .noSignal →
    tally.node.connectionLost = false ∧ tally.node.lastCounter = 0

/-! ### The count of one pass -/

/-- The warning of a pass tells the count. -/
theorem skipped_effect (config : Config) (clock : Clock) (node : NodeState) (counter : BitVec 16)
    (packets last new : Int)
    (warned : .skipped packets last new ∈
      (trackCounter clock (restoreConnection config node).1 counter.toNat).2) :
    packets = packetsSkipped config node counter := by
  unfold packetsSkipped
  simp only [trackCounter] at warned
  split at warned
  next count computed =>
    rw [computed]
    split_ifs at warned
    · exact (Effect.skipped.inj (List.mem_singleton.mp warned)).1
    · exact absurd warned List.not_mem_nil
  next => exact absurd warned List.not_mem_nil

/-- The counter that a pass compares with. -/
theorem restored_counter (config : Config) (node : NodeState) :
    (restoreConnection config node).1.lastCounter =
      if node.connectionLost then -1 else node.lastCounter := by
  unfold restoreConnection
  cases node.connectionLost with
  | false => rfl
  | true =>
    simp only [if_true]
    split_ifs <;> rfl

theorem gap_exact (earlier later : Nat) (order : earlier < later)
    (near : (Finset.Ioo earlier later).card < 65535) :
    ((BitVec.ofNat 16 later).toNat : Int) ≠ ((BitVec.ofNat 16 earlier).toNat : Int) ∧
      packetGap (BitVec.ofNat 16 earlier).toNat (BitVec.ofNat 16 later).toNat =
        ((Finset.Ioo earlier later).card : Int) := by
  rw [Nat.card_Ioo] at near ⊢
  rw [BitVec.toNat_ofNat, BitVec.toNat_ofNat, packetGap, if_neg (by omega)]
  constructor <;> omega

theorem advance_batch (config : Config) (node : NodeState) (turn : Turn) (first : FTSample)
    (rest : List FTSample) (found : turn.outcome.samples = some (first :: rest)) :
    (advance config node turn).connectionLost = false ∧
      (advance config node turn).lastCounter = first.counter.toNat := by
  have handled := handleSamples_spec config turn.clock true node first rest
  simp only [advance, StateTopic.pass, found, publishPass]
  exact ⟨handled.connection, handled.counter⟩

theorem advance_received (config : Config) (node : NodeState) (turn : Turn) (packet : Bytes)
    (accepted : Accepts packet) (found : turn.outcome = .received packet accepted) :
    (advance config node turn).connectionLost = false ∧
      (advance config node turn).lastCounter = (counterField packet).toNat := by
  obtain ⟨first, rest, decoded, opening, _⟩ := decodeSampleBatch_cons packet accepted
  have handled := advance_batch config node turn first rest (by
    rw [found, Outcome.samples, decoded]
    rfl)
  rw [opening] at handled
  exact handled

/-- Without a loss the last counter is that of the packet received last. -/
structure Coupled (tally : Tally) : Prop where
  unknown : tally.node.connectionLost = true → tally.previous = none
  counter : tally.node.connectionLost = false → tally.node.lastCounter =
    tally.previous.elim (-1) (fun number => ((BitVec.ofNat 16 number).toNat : Int))

theorem coupled_of_connected (tally : Tally) (connected : tally.node.connectionLost = false)
    (counter : tally.node.lastCounter =
      tally.previous.elim (-1) (fun number => ((BitVec.ofNat 16 number).toNat : Int))) :
    Coupled tally where
  unknown lost := absurd (connected.symm.trans lost) Bool.false_ne_true
  counter _ := counter

theorem coupled_restored (config : Config) (tally : Tally) (coupled : Coupled tally) :
    (restoreConnection config tally.node).1.lastCounter =
      tally.previous.elim (-1) (fun number => ((BitVec.ofNat 16 number).toNat : Int)) := by
  rw [restored_counter]
  cases lost : tally.node.connectionLost with
  | false => exact coupled.counter lost
  | true =>
    rw [coupled.unknown lost]
    rfl

theorem received_exact (config : Config) (tally : Tally) (reading : Reading) (packet : Bytes)
    (accepted : Accepts packet) (found : reading.turn.outcome = .received packet accepted)
    (coupled : Coupled tally) (order : InOrder tally reading) :
    packetsSkipped config tally.node (counterField packet) =
      ((between tally.previous reading.number).card : Int) := by
  have last := coupled_restored config tally coupled
  rw [packetsSkipped, last, reading.counts packet accepted found]
  cases known : tally.previous with
  | none => rfl
  | some earlier =>
    obtain ⟨less, near⟩ := order packet accepted found earlier known
    rw [known] at near
    obtain ⟨fresh, gap⟩ := gap_exact earlier reading.number less near
    have new : ((BitVec.ofNat 16 earlier).toNat : Int) = -1 ∨
        ((BitVec.ofNat 16 reading.number).toNat : Int) ≠ (BitVec.ofNat 16 earlier).toNat := .inr fresh
    simp only [Option.elim_some, between, skippedBefore, if_pos new, Option.getD_some, gap]

/-- The step: as long as the placeholder does no harm, the last counter is the right one. -/
theorem coupled_step (config : Config) (tally : Tally) (reading : Reading) (coupled : Coupled tally)
    (harmless : PlaceholderHarmless tally reading) : Coupled (tally.step config reading) := by
  cases found : reading.turn.outcome with
  | none =>
    simp only [Tally.step, found, advance_silence config tally.node reading.turn found]
    constructor
    · intro lost
      rw [if_pos lost]
    · intro connected
      rw [if_neg (Bool.eq_false_iff.mp connected)]
      exact coupled.counter (Bool.or_eq_false_iff.mp connected).1
  | noSignal =>
    obtain ⟨connected, zero⟩ := harmless found
    obtain ⟨after, counter⟩ := advance_batch config tally.node reading.turn noSignalSample []
      (by rw [found]; rfl)
    simp only [Tally.step, found]
    apply coupled_of_connected _ after
    rw [counter, ← coupled.counter connected, zero]
    rfl
  | received packet accepted =>
    obtain ⟨after, counter⟩ := advance_received config tally.node reading.turn packet accepted found
    simp only [Tally.step, found]
    apply coupled_of_connected _ after
    rw [counter, reading.counts packet accepted found]
    rfl

theorem packetsSkipped_first (config : Config) (node : NodeState) (counter : BitVec 16)
    (last : (restoreConnection config node).1.lastCounter = -1) :
    packetsSkipped config node counter = 0 := by
  rw [packetsSkipped, last]
  rfl

theorem packetsSkipped_after (config : Config) (node : NodeState) (counter last : BitVec 16)
    (known : (restoreConnection config node).1.lastCounter = (last.toNat : Int)) :
    packetsSkipped config node counter =
      if counter = last then 0 else ((counter.toNat : Int) - last.toNat - 1 + 65536) % 65536 := by
  have valid : (last.toNat : Int) ≠ -1 := by omega
  rw [packetsSkipped, known]
  by_cases same : counter = last
  · rw [if_pos same, same]
    simp [skippedBefore, valid]
  · have differ : (counter.toNat : Int) ≠ last.toNat := by
      intro equal
      exact same (BitVec.eq_of_toNat_eq (by exact_mod_cast equal))
    simp only [skippedBefore, packetGap, if_neg same, if_neg valid, differ, ne_eq, not_false_eq_true,
      or_true, if_true, Option.getD_some]

/-- If a placeholder counts for nothing, and a packet that repeats the last counter still does, the
last counter was that of the placeholder. -/
theorem last_is_placeholder (config : Config) (node next : NodeState) (last : BitVec 16)
    (known : (restoreConnection config node).1.lastCounter = (last.toNat : Int))
    (after : (restoreConnection config next).1.lastCounter = ((0 : BitVec 16).toNat : Int))
    (zero : packetsSkipped config node noSignalSample.counter = 0)
    (repeated : packetsSkipped config next last = packetsSkipped config node last) : last = 0 := by
  rw [packetsSkipped_after config next last 0 after,
    packetsSkipped_after config node last last known, if_pos rfl] at repeated
  rw [packetsSkipped_after config node _ last known] at zero
  by_contra other
  rw [if_neg other] at repeated
  rw [if_neg (fun same => other same.symm)] at zero
  have bound := last.isLt
  have here : (0 : BitVec 16).toNat = 0 := rfl
  have there : noSignalSample.counter.toNat = 0 := rfl
  omega

/-- The placeholder counts for nothing exactly if the last counter is already its own. -/
theorem placeholder_exact_iff (config : Config) (tally : Tally) (turn : Turn)
    (found : turn.outcome = .noSignal) (coupled : Coupled tally) :
    (packetsSkipped config tally.node noSignalSample.counter = 0 ∧
      ∀ counter, packetsSkipped config (advance config tally.node turn) counter =
        packetsSkipped config tally.node counter) ↔
      tally.node.connectionLost = false ∧ tally.node.lastCounter = 0 := by
  obtain ⟨after, counter⟩ := advance_batch config tally.node turn noSignalSample []
    (by rw [found]; rfl)
  have known : (restoreConnection config (advance config tally.node turn)).1.lastCounter =
      ((0 : BitVec 16).toNat : Int) := by
    rw [restored_counter, after, counter]
    rfl
  have last := coupled_restored config tally coupled
  constructor
  · rintro ⟨zero, unchanged⟩
    cases previous : tally.previous with
    | none =>
      -- the next packet would count for nothing, but does after a placeholder
      rw [previous] at last
      have next := unchanged 2
      rw [packetsSkipped_first config tally.node 2 last, packetsSkipped_after config _ 2 0 known] at next
      exact absurd next (by decide)
    | some earlier =>
      rw [previous] at last
      have own : BitVec.ofNat 16 earlier = 0 :=
        last_is_placeholder config tally.node _ _ last known zero (unchanged _)
      have connected : tally.node.connectionLost = false := by
        rw [← Bool.not_eq_true]
        intro lost
        rw [coupled.unknown lost] at previous
        cases previous
      refine ⟨connected, ?_⟩
      rw [coupled.counter connected, previous, Option.elim_some, own]
      rfl
  · rintro ⟨connected, zero⟩
    have before : (restoreConnection config tally.node).1.lastCounter =
        ((0 : BitVec 16).toNat : Int) := by
      rw [restored_counter, connected, zero]
      rfl
    constructor
    · rw [packetsSkipped_after config tally.node _ 0 before]
      rfl
    · intro counter
      rw [packetsSkipped_after config _ counter 0 known,
        packetsSkipped_after config tally.node counter 0 before]

theorem exact_iff (config : Config) (tally : Tally) (reading : Reading) (coupled : Coupled tally) :
    Exact config tally reading ↔ PlaceholderHarmless tally reading := by
  constructor
  · intro exact found
    exact (placeholder_exact_iff config tally reading.turn found coupled).mp (exact.2 found)
  · intro harmless
    constructor
    · intro packet accepted found order
      exact received_exact config tally reading packet accepted found coupled order
    · intro found
      exact (placeholder_exact_iff config tally reading.turn found coupled).mpr (harmless found)

/-! ### The sum of the counts -/

/-- What the steps up to here have kept: the last counter and the sum. -/
structure Balanced (tally : Tally) : Prop where
  coupled : Coupled tally
  sum : tally.counted = tally.lost

theorem balanced_start (node : NodeState) : Balanced (Tally.start node) where
  coupled := ⟨fun _ => rfl, fun _ => rfl⟩
  sum := rfl

theorem balanced_step (config : Config) (tally : Tally) (reading : Reading)
    (balanced : Balanced tally)
    (meets : PlaceholderHarmless tally reading ∧ InOrder tally reading) :
    Balanced (tally.step config reading) := by
  obtain ⟨harmless, order⟩ := meets
  obtain ⟨counted, silent⟩ := (exact_iff config tally reading balanced.coupled).mpr harmless
  refine ⟨coupled_step config tally reading balanced.coupled harmless, ?_⟩
  cases found : reading.turn.outcome with
  | none =>
    simp only [Tally.step, found]
    exact balanced.sum
  | noSignal =>
    simp only [Tally.step, found, (silent found).1, Int.add_zero]
    exact balanced.sum
  | received packet accepted =>
    simp only [Tally.step, found, counted packet accepted found order, balanced.sum]
    exact (Nat.cast_add _ _).symm

/-- The counts since the activation are exact exactly if no placeholder is handled but on a counter
of 0, and then they sum up to the packets lost. -/
theorem skips_exact_iff (config : Config) (node : NodeState) (readings : List Reading) :
    (AllMeet (Tally.step config) (Exact config) (Tally.start node) readings ↔
      AllMeet (Tally.step config) PlaceholderHarmless (Tally.start node) readings) ∧
    (AllMeet (Tally.step config) (fun tally reading =>
        PlaceholderHarmless tally reading ∧ InOrder tally reading) (Tally.start node) readings →
      (run (Tally.step config) (Tally.start node) readings).counted =
        (run (Tally.step config) (Tally.start node) readings).lost) := by
  constructor
  · exact allMeet_iff (Tally.step config) (Exact config) PlaceholderHarmless Coupled
      (fun tally reading coupled harmless => coupled_step config tally reading coupled harmless)
      (fun tally reading coupled => exact_iff config tally reading coupled) readings _
      (balanced_start node).coupled
  · intro meets
    exact (run_invariant (Tally.step config) _ Balanced (balanced_step config) readings _
      (balanced_start node) meets).sum

def steadyReading (time : Int) (number : Nat) : Reading where
  turn := steadyTurn time number
  number := number
  counts := by
    rintro packet accepted ⟨⟩
    exact steadyPacket_counter number

def silentReading (time : Int) : Reading where
  turn := ⟨⟨time, time⟩, .none⟩
  number := 0
  counts := by
    rintro packet accepted ⟨⟩

def noSignalReading (time : Int) : Reading where
  turn := ⟨⟨time, time⟩, .noSignal⟩
  number := 0
  counts := by
    rintro packet accepted ⟨⟩

/-- Two packets are lost where the counter wraps. -/
theorem skips_exact_wrap :
    (run (Tally.step steadyConfig) (Tally.start steadyNode)
        [steadyReading 0 65534, steadyReading 1 65537]).counted =
      (run (Tally.step steadyConfig) (Tally.start steadyNode)
        [steadyReading 0 65534, steadyReading 1 65537]).lost := by
  apply (skips_exact_iff steadyConfig steadyNode [steadyReading 0 65534, steadyReading 1 65537]).2
  refine ⟨⟨?_, ?_⟩, ⟨?_, ?_⟩, trivial⟩
  · rintro ⟨⟩
  · rintro packet accepted _ earlier ⟨⟩
  · rintro ⟨⟩
  · rintro packet accepted _ earlier ⟨⟩
    exact ⟨by decide, by decide⟩

/-- The first packet after an outage of more than a second. -/
def outage : List Reading :=
  [steadyReading 0 5, silentReading 1, noSignalReading 2, steadyReading 3 9]

/-- Its counter is taken for a gap that began at the placeholder. -/
theorem outage_miscounted :
    ¬AllMeet (Tally.step steadyConfig) (Exact steadyConfig) (Tally.start steadyNode) outage ∧
      (run (Tally.step steadyConfig) (Tally.start steadyNode) outage).counted = 8 := by
  constructor
  · rintro ⟨_, _, exact, _⟩
    have unchanged := (exact.2 rfl).2 9
    exact absurd unchanged (by decide)
  · rfl

end SchunkFts.Node.SkipCount
