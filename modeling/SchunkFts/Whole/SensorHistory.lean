import SchunkFts.Dummy.DriverRequests
import SchunkFts.Library.SharedConnection

/-! What the dummy sensor goes through while the threads of the driver call it. A rate that a call has
set was stored for a request of this very call, and it stays until another one is stored or something
else happens to the sensor. -/

namespace SchunkFts.Whole.SensorHistory
open SchunkFts.Foundation.Struct SchunkFts.Foundation.Run
open SchunkFts.Library SchunkFts.Library.Messages SchunkFts.Library.CallScripts
open SchunkFts.Library.CallAccounts SchunkFts.Library.SharedConnection
open SchunkFts.Library.DriverSettings (OutputRate)
open SchunkFts.Dummy.OutputRate (enumValues)
open SchunkFts.Dummy.Sensor (Server)
open SchunkFts.Dummy.UdpStream (setAll)
open SchunkFts.Dummy.DriverRequests

variable {Thread Sensor : Type}

section
variable (serve : Sensor → Nat → Bytes → Option (Sensor × Bytes))

/-- The history leads from the first state of the sensor to the last. -/
def Follows : Sensor → List (Event Thread Sensor) → Sensor → Prop
  | first, [], last => first = last
  | first, .answered sent reply after :: later, last =>
      serve first sent.socket sent.msg = some (after, reply) ∧ Follows after later last
  | _, .changed after :: later, last => Follows after later last

theorem follows_append (first last : Sensor) (earlier later : List (Event Thread Sensor)) :
    Follows serve first (earlier ++ later) last ↔
      ∃ middle, Follows serve first earlier middle ∧ Follows serve middle later last := by
  induction earlier generalizing first with
  | nil => simp [Follows]
  | cons event earlier ih =>
    cases event with
    | answered sent reply after =>
      simp only [List.cons_append, Follows, ih]
      exact ⟨fun ⟨served, middle, both⟩ => ⟨middle, ⟨served, both.1⟩, both.2⟩,
        fun ⟨middle, ⟨served, before⟩, rest⟩ => ⟨served, middle, before, rest⟩⟩
    | changed after => simp only [List.cons_append, Follows, ih]

variable [DecidableEq Thread]

theorem follows_step (first : Sensor) (s : State Thread Sensor) (action : Action Thread Sensor)
    (follows : Follows serve first s.shared.history s.shared.sensor) :
    Follows serve first (step serve s action).shared.history (step serve s action).shared.sensor := by
  cases action with
  | call thread call =>
    simp only [step]
    split
    · exact follows
    · exact follows
  | go thread input =>
    rcases step_go serve s thread input with same | ⟨task, result, _, _, ended⟩ |
      ⟨task, primitive, next, after, own, answer, _, _, carried, moved⟩
    · rwa [same]
    · rwa [ended]
    · rw [moved]
      cases carryOut_carried s.shared thread task.number task.own input primitive after own answer
        carried with
      | quiet quiet _ =>
        rw [quiet.history, quiet.sensor]
        exact follows
      | sent socket data => exact follows
      | took socket answered reply later _ _ => exact follows
  | answer socket =>
    simp only [step, Shared.answer]
    split_ifs
    · exact follows
    · split
      · exact follows
      next sent later content =>
        split
        next sensor reply answered =>
          exact (follows_append serve first sensor _ _).mpr ⟨_, follows, answered, rfl⟩
        · exact follows
  | change sensor => exact (follows_append serve first sensor _ _).mpr ⟨_, follows, rfl⟩

theorem follows_run (first : Sensor) (actions : List (Action Thread Sensor)) :
    let last := run (step serve) (State.start first) actions
    Follows serve first last.shared.history last.shared.sensor :=
  run_always (step serve) (fun s => Follows serve first s.shared.history s.shared.sensor)
    (follows_step serve first) actions (State.start first) rfl

end

/-! ### The rate -/

/-- A write of the rate is stored, or something else happens to the sensor. -/
def Disturbs : Event Thread (Server Nat) → Prop
  | .answered sent _ _ => ∃ value ∈ rateWrite sent.msg, value ∈ enumValues
  | .changed _ => True

theorem rate_lasts (first last : Server Nat) (history : List (Event Thread (Server Nat)))
    (follows : Follows dummyServe first history last)
    (undisturbed : ∀ event ∈ history, ¬Disturbs event) : last.rate = first.rate := by
  induction history generalizing first with
  | nil => rw [show first = last from follows]
  | cons event later ih =>
    have here := undisturbed event List.mem_cons_self
    have rest : ∀ event ∈ later, ¬Disturbs event := fun other member =>
      undisturbed other (List.mem_cons_of_mem _ member)
    cases event with
    | answered sent reply after =>
      obtain ⟨served, follows⟩ := follows
      have unknown : ∀ value ∈ rateWrite sent.msg, value ∉ enumValues := fun value written known =>
        here ⟨value, written, known⟩
      calc last.rate
          = after.rate := ih after follows rest
        _ = setAll first.rate (rateWrite sent.msg) :=
            (handle_effect first after sent.socket sent.msg reply served).1
        _ = first.rate := setAll_rejected first.rate _ unknown
    | changed after => exact absurd trivial here

/-- The sensor has stored what it has acknowledged, and nothing else, and has it still if nothing has
come after it. -/
structure CarriedOut (msg : Bytes) (before after last : Server Nat)
    (later : List (Event Thread (Server Nat))) : Prop where
  stored : codeOf msg = 0x00 → ∀ value ∈ rateWrite msg, after.rate.get.enumValue = value
  kept : codeOf msg ≠ 0x00 ∨ rateWrite msg = [] → after.rate = before.rate
  lasts : (∀ event ∈ later, ¬Disturbs event) → last.rate = after.rate

/-- The sensor has answered a request of the call, and has carried it out. -/
def Served (first : Server Nat) (s : State Thread (Server Nat)) (call : Nat) (msg reply : Bytes) :
    Prop :=
  ∃ earlier sent before after later,
    s.shared.history = earlier ++ .answered sent reply after :: later ∧
      sent.call = call ∧ sent.msg = msg ∧ Follows dummyServe first earlier before ∧
      reply[7]? = some (codeOf msg) ∧ CarriedOut msg before after s.shared.sensor later

theorem answers_served (first : Server Nat) (s : State Thread (Server Nat))
    (follows : Follows dummyServe first s.shared.history s.shared.sensor) (sent : Sent Thread)
    (reply : Bytes) (answers : Answers dummyServe s.shared.history sent reply) :
    Served first s sent.call sent.msg reply := by
  obtain ⟨_, after, _, member⟩ := answers
  obtain ⟨earlier, later, history⟩ := List.append_of_mem member
  rw [history] at follows
  obtain ⟨before, led, served, leads⟩ := (follows_append dummyServe first _ _ _).mp follows
  obtain ⟨rate, code⟩ := handle_effect before after sent.socket sent.msg reply served
  refine ⟨earlier, sent, before, after, later, history, rfl, rfl, led, code, ?_, ?_, ?_⟩
  · intro zero value written
    have write : IsRateWrite sent.msg := by
      by_contra other
      rw [rateWrite, if_neg other] at written
      cases written
    obtain ⟨stored, _, only, now⟩ := accepted_stored before.rate sent.msg write zero
    rw [only] at written
    rw [rate, now, List.mem_singleton.mp written]
  · intro undone
    rw [rate]
    rcases undone with refused | unwritten
    · exact setAll_rejected before.rate _ (refused_unstored sent.msg refused)
    · rw [unwritten]
      rfl
  · exact rate_lasts after s.shared.sensor later leads

variable [DecidableEq Thread]

/-- Every reply that a call has taken answers a request of this call that has been carried out. -/
theorem taken_served (first : Server Nat) (actions : List (Action Thread (Server Nat)))
    (inTurn : AllMeet (step dummyServe) Meets (State.start first) actions) :
    let last := run (step dummyServe) (State.start first) actions
    ∀ finished ∈ last.finished, Accounts finished.call finished.taken finished.result ∧
      ∀ exchange ∈ finished.taken, ∃ msg, exchange.1 = some msg ∧
        Served first last finished.number msg exchange.2 := by
  intro last finished member
  obtain ⟨answers, accounts, _⟩ := truthful_run first actions inTurn finished member
  refine ⟨accounts, fun exchange took => ?_⟩
  obtain ⟨_, _, sent, mine, _, waits, answer⟩ := answers exchange took
  refine ⟨sent.msg, waits, ?_⟩
  rw [← mine]
  exact answers_served first last (follows_run dummyServe first actions) sent exchange.2 answer

/-- A call that starts the stream. -/
def Starts (rate : OutputRate) (call : Call) : Prop :=
  call = .attemptReconnect rate.mode.parameterValue ∨ call = .streamingOn rate.mode.parameterValue

/-- Another thread has set another rate before. -/
def rateReplaced : List (Action Nat (Server Nat)) :=
  .call 1 (.setParameter "02" "1020" "00") :: .call 0 (.streamingOn "01") :: advance 1 7 ++
    [.answer 0] ++ advance 1 3 ++ (List.replicate 4 (advance 0 15 ++ [.answer 0])).flatten ++
    advance 0 4

end SchunkFts.Whole.SensorHistory
