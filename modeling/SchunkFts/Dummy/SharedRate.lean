import SchunkFts.Dummy.RequestLength
import SchunkFts.Dummy.Tasks

/-! The tasks of the dummy sensor against the sensor that does one thing after another: there is an
order of the requests and the packets that explains every reply and every datagram. -/

namespace SchunkFts.Dummy.SharedRate
open SchunkFts.Foundation SchunkFts.Foundation.Struct SchunkFts.Foundation.Simulation
open OutputRate Sensor UdpStream DriverRequests Tasks

/-- A message that cannot be answered stores nothing. -/
theorem rateWrite_incomplete (msg : Bytes) (incomplete : ¬RequestLength.Complete msg) :
    rateWrite msg = [] := by
  apply if_neg
  rintro ⟨command, low, high, subindex⟩
  obtain ⟨long, _⟩ := List.getElem?_eq_some_iff.mp subindex
  exact incomplete ⟨by omega, fun _ => long⟩

variable {Conn : Type} [DecidableEq Conn]

theorem request_rate (a : Whole Conn) (conn : Conn) (msg : Bytes) :
    (a.step (.request conn msg)).server.rate = setAll a.server.rate (rateWrite msg) := by
  cases handled : a.server.handle conn msg with
  | none =>
    have incomplete : ¬RequestLength.Complete msg := by
      rw [← RequestLength.handle_isSome_iff a.server conn msg, handled]
      exact Bool.false_ne_true
    simp only [Whole.step, handled]
    rw [rateWrite_incomplete msg incomplete]
    rfl
  | some answered =>
    simp only [Whole.step, handled, Whole.answer]
    exact (handle_effect a.server answered.1 conn msg answered.2 handled).1

theorem request_stream (a : Whole Conn) (conn : Conn) (msg : Bytes) :
    (a.step (.request conn msg)).stream = a.stream ∧
      (a.step (.request conn msg)).packets = a.packets := by
  simp only [Whole.step]
  split <;> exact ⟨rfl, rfl⟩

/-- The values stored before each packet and after the one before. -/
def rateRequests (pending : List Byte) : List (Event Conn) → List (List Byte)
  | [] => []
  | .request _ msg :: later => rateRequests (pending ++ rateWrite msg) later
  | .packet :: later => pending :: rateRequests [] later

/-- The packets of an order are those of the stream between whose packets the values are stored. -/
theorem stream_of_order (order : List (Event Conn)) (a : Whole Conn) (rate : OutputRateState)
    (pending : List Byte) (words : List (Nat → SampleWords))
    (current : a.server.rate = setAll rate pending) :
    ∃ packets, (Run.run Whole.step a order).packets = a.packets ++ packets ∧
      packets.length = (rateRequests pending order).length ∧
      streamFtData a.stream rate (List.zipWith Tick.mk (rateRequests pending order) words) =
        List.zipWith Packet.emitted packets words := by
  induction order generalizing a rate pending words with
  | nil => exact ⟨[], (List.append_nil _).symm, rfl, rfl⟩
  | cons event later ih =>
    cases event with
    | request conn msg =>
      have next : (a.step (.request conn msg)).server.rate =
          setAll rate (pending ++ rateWrite msg) := by
        rw [request_rate, current, setAll, setAll, setAll, List.foldl_append]
      obtain ⟨stream, packets⟩ := request_stream a conn msg
      have rest := ih (a.step (.request conn msg)) rate (pending ++ rateWrite msg) words next
      rwa [stream, packets] at rest
    | packet =>
      obtain ⟨packets, all, counted, streamed⟩ :=
        ih (a.step .packet) a.server.rate [] words.tail rfl
      refine ⟨⟨a.stream, a.server.rate.get⟩ :: packets, ?_, ?_, ?_⟩
      · rw [Run.run_cons, all]
        exact List.append_assoc _ _ _
      · rw [List.length_cons, counted]
        rfl
      · cases words with
        | nil => rfl
        | cons first others =>
          have mode : setAll rate pending = a.server.rate := current.symm
          simp only [rateRequests, List.zipWith_cons_cons, streamFtData, mode]
          exact congrArg (Packet.emitted ⟨a.stream, a.server.rate.get⟩ first :: ·) streamed

/-- What the connections and the stream have come to is what the sensor makes of the requests and the
packets in this order, except that the last request of a connection may not be in it yet, and that
the last reply of a connection and the last packet may not be out yet. -/
structure Follows (order : List (Event Conn)) (s : State Conn) : Prop where
  rate : s.shared.rate = (Run.run Whole.step (.start Conn) order).server.rate
  received : ∀ conn,
    (Run.run Whole.step (.start Conn) order).requestsOn conn <+: (s.own conn).received ∧
      (s.own conn).received.length ≤
        ((Run.run Whole.step (.start Conn) order).requestsOn conn).length + 1
  replied : ∀ conn,
    (s.own conn).replied <+: (Run.run Whole.step (.start Conn) order).repliesOn conn ∧
      ((Run.run Whole.step (.start Conn) order).repliesOn conn).length ≤
        (s.own conn).replied.length + 1
  sent : s.shared.sent = streamFtData {} .new
    (List.zipWith Tick.mk (rateRequests [] order) (s.shared.sent.map Emitted.words))
  counted : s.shared.sent.length ≤ (rateRequests [] order).length ∧
    (rateRequests [] order).length ≤ s.shared.sent.length + 1

theorem begun_length (shared : Shared) : shared.begun.length ≤ 1 := by
  cases taken : shared.taken <;> simp [Shared.begun, taken]

theorem follows_of_stands (order : List (Event Conn)) (s : State Conn)
    (stands : Stands s (Run.run Whole.step (.start Conn) order)) : Follows order s := by
  obtain ⟨packets, all, length, streamed⟩ := stream_of_order order (.start Conn) .new []
    (s.shared.sent.map Emitted.words) rfl
  obtain ⟨done, split, counted, sent⟩ := stands.packets
  have begun := begun_length s.shared
  have whole : packets = done ++ s.shared.begun := by
    rw [← split, all]
    rfl
  have total := congrArg List.length whole
  rw [List.length_append] at total
  refine ⟨stands.rate.symm, fun conn => (stands.linked conn).within.1,
    fun conn => (stands.linked conn).within.2, ?_, by omega⟩
  calc
    s.shared.sent = List.zipWith Packet.emitted done (s.shared.sent.map Emitted.words) := sent
    _ = List.zipWith Packet.emitted packets (s.shared.sent.map Emitted.words) := by
      conv_rhs => rw [whole, ← List.append_nil (s.shared.sent.map Emitted.words)]
      rw [List.zipWith_append (by rw [counted, List.length_map]), List.zipWith_nil_right,
        List.append_nil]
    _ = _ := streamed.symm

/-- However the tasks are interleaved, there is one order of the requests and the packets that explains
all that the sensor has sent, and what comes later is only added to it. So a request that has been
answered before another one arrives comes first. -/
theorem tasks_in_order (actions later : List (Action Conn)) :
    Follows (history step events (start Conn) actions) (Run.run step (start Conn) actions) ∧
      history step events (start Conn) actions <+:
        history step events (start Conn) (actions ++ later) := by
  constructor
  · apply follows_of_stands
    exact simulates_always step events Whole.step Stands stands_step actions _ _ stands_start
  · rw [history_append]
    exact List.prefix_append _ _

/-! ### How old the rate of a packet can be -/

/-- The mode has been in force at some moment of the run. -/
def InForceDuring (s : State Conn) (actions : List (Action Conn)) (mode : OutputRateMode) : Prop :=
  ∃ first, first <+: actions ∧ (Run.run step s first).shared.rate.get = mode

theorem InForceDuring.snoc {s : State Conn} {actions : List (Action Conn)} {mode : OutputRateMode}
    (during : InForceDuring s actions mode) (last : Action Conn) :
    InForceDuring s (actions ++ [last]) mode := by
  obtain ⟨first, inside, force⟩ := during
  exact ⟨first, inside.trans (List.prefix_append _ _), force⟩

/-- The packets that have gone out since, and the one for which the rate has been read. -/
structure Fresh (s : State Conn) (actions : List (Action Conn)) (packets : List Emitted) : Prop where
  sent : (Run.run step s actions).shared.sent = s.shared.sent ++ packets
  modes : ∀ packet ∈ packets.tail, InForceDuring s actions packet.mode
  taken : ∀ rate, (Run.run step s actions).shared.taken = some rate →
    packets = [] ∨ InForceDuring s actions rate.get

/-- The stream reads the rate, sends a packet with the rate it has read, or does neither. -/
theorem step_stream (s : State Conn) (action : Action Conn) :
    ((step s action).shared.sent = s.shared.sent ∧
        ((step s action).shared.taken = s.shared.taken ∨
          (step s action).shared.taken = some s.shared.rate)) ∨
      ∃ rate packet, s.shared.taken = some rate ∧ (step s action).shared.taken = none ∧
        (step s action).shared.sent = s.shared.sent ++ [packet] ∧ packet.mode = rate.get := by
  cases action with
  | takeRate =>
    left
    simp only [step]
    split
    · exact ⟨rfl, .inr rfl⟩
    · exact ⟨rfl, .inl rfl⟩
  | send words =>
    simp only [step]
    split
    next rate here => exact .inr ⟨rate, _, here, rfl, rfl, rfl⟩
    next => exact .inl ⟨rfl, .inl rfl⟩
  | _ =>
    left
    simp only [step]
    split <;> exact ⟨rfl, .inl rfl⟩

theorem fresh_step (s : State Conn) (actions : List (Action Conn)) (last : Action Conn)
    (packets : List Emitted) (fresh : Fresh s actions packets) :
    ∃ packets, Fresh s (actions ++ [last]) packets := by
  have now : InForceDuring s (actions ++ [last]) (Run.run step s actions).shared.rate.get :=
    ⟨actions, List.prefix_append _ _, rfl⟩
  have next : Run.run step s (actions ++ [last]) = step (Run.run step s actions) last :=
    Run.run_append step s actions [last]
  rcases step_stream (Run.run step s actions) last with
    ⟨same, kept | read⟩ | ⟨rate, packet, here, emptied, sent, mode⟩
  · refine ⟨packets, by rw [next, same, fresh.sent], ?_, ?_⟩
    · exact fun packet member => (fresh.modes packet member).snoc last
    · intro rate taken
      rw [next, kept] at taken
      exact (fresh.taken rate taken).imp_right (·.snoc last)
  · refine ⟨packets, by rw [next, same, fresh.sent], ?_, ?_⟩
    · exact fun packet member => (fresh.modes packet member).snoc last
    · intro rate taken
      rw [next, read] at taken
      cases taken
      exact .inr now
  · refine ⟨packets ++ [packet], by rw [next, sent, fresh.sent, List.append_assoc], ?_, ?_⟩
    · intro other member
      cases packets with
      | nil => cases member
      | cons first rest =>
        rcases List.mem_append.mp member with old | new
        · exact (fresh.modes other old).snoc last
        · -- the rate of the new packet was read after the first one had gone
          rw [List.mem_singleton.mp new, mode]
          rcases fresh.taken rate here with none | force
          · cases none
          · exact force.snoc last
    · intro rate taken
      rw [next, emptied] at taken
      cases taken

/-- Of the packets that go out from any moment on, all but the first have a mode that has been in
force since then. -/
theorem packets_fresh (s : State Conn) (actions : List (Action Conn)) :
    ∃ packets, (Run.run step s actions).shared.sent = s.shared.sent ++ packets ∧
      ∀ packet ∈ packets.tail, InForceDuring s actions packet.mode := by
  have fresh : ∃ packets, Fresh s actions packets := by
    induction actions using List.reverseRecOn with
    | nil => exact ⟨[], (List.append_nil _).symm, by simp, fun _ _ => .inl rfl⟩
    | append_singleton earlier last ih =>
      obtain ⟨packets, fresh⟩ := ih
      exact fresh_step s earlier last packets fresh
  obtain ⟨packets, fresh⟩ := fresh
  exact ⟨packets, fresh.sent, fresh.modes⟩

end SchunkFts.Dummy.SharedRate
