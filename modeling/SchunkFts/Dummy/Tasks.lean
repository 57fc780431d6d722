import SchunkFts.Dummy.DriverRequests
import SchunkFts.Dummy.UdpStream
import SchunkFts.Foundation.Simulation
import SchunkFts.Foundation.Threads

/-! The tasks of the dummy sensor: one for each connection that has been accepted, and the one that
streams. They share the output rate, whose mutex is held for one read or one write at a time; between
two waits of a task the others may do anything. -/

namespace SchunkFts.Dummy.Tasks
open SchunkFts.Foundation SchunkFts.Foundation.Struct SchunkFts.Foundation.Threads
open OutputRate Sensor UdpStream

/-- Where the task of a connection is; before it is accepted there is none. -/
inductive TaskPhase where
  | absent
  | reading
  | processing (msg : Bytes)
  | writing (payload : Bytes)
  | ended
  deriving DecidableEq

/-- The task of a connection, with what it has read and what it has written so far. -/
structure Task where
  phase : TaskPhase
  counter : BitVec 16
  received : List Bytes
  replied : List Bytes

def Task.new : Task where
  phase := .absent
  counter := 1
  received := []
  replied := []

/-- `taken` is the rate that the stream has read for the packet it is about to send. -/
structure Shared where
  rate : OutputRateState
  stream : StreamState
  taken : Option OutputRateState
  sent : List Emitted

variable {Conn : Type} [DecidableEq Conn]

abbrev State (Conn : Type) : Type := System Conn Shared Task

def start (Conn : Type) : State Conn where
  shared := { rate := .new, stream := {}, taken := none, sent := [] }
  own := fun _ => .new

/-- A read without bytes is the end of the connection; `write` says whether the reply went out. -/
inductive Action (Conn : Type) where
  | accept (conn : Conn)
  | read (conn : Conn) (arrived : Bytes)
  | readFails (conn : Conn)
  | process (conn : Conn)
  | write (conn : Conn) (written : Bool)
  | takeRate
  | send (words : Nat → SampleWords)

/-- The reply to a request, as the connection's loop puts it together. -/
def response (counter : BitVec 16) (payload : Bytes) : Bytes :=
  let payloadLen : BitVec 16 := BitVec.ofNat 16 payload.length
  [0xff, 0xff] ++ (toLE 2 counter.toNat ++ (toLE 2 payloadLen.toNat ++ payload))

/-- `Sensor.read`, and the check of the length. -/
def Task.read (task : Task) (arrived : Bytes) : Task :=
  let msg := arrived.take 1024
  let seen := { task with received := task.received ++ [msg] }
  if msg.length < 6 then { seen with phase := .ended } else { seen with phase := .processing msg }

/-- A panic of `Sensor.process` ends the task, and holds no lock. -/
def Task.process (task : Task) (rate : OutputRateState) (msg : Bytes) : OutputRateState × Task :=
  match Sensor.process rate msg with
  | some (rate, payload) => (rate, { task with phase := .writing payload })
  | none => (rate, { task with phase := .ended })

def Task.write (task : Task) (payload : Bytes) (written : Bool) : Task :=
  if written then
    { task with
      phase := .reading
      counter := task.counter + 1
      replied := task.replied ++ [response task.counter payload] }
  else { task with phase := .ended }

def step (s : State Conn) : Action Conn → State Conn
  | .accept conn =>
      match (s.own conn).phase with
      | .absent => s.move conn s.shared { s.own conn with phase := .reading }
      | _ => s
  | .read conn arrived =>
      match (s.own conn).phase with
      | .reading => s.move conn s.shared ((s.own conn).read arrived)
      | _ => s
  | .readFails conn =>
      match (s.own conn).phase with
      | .reading => s.move conn s.shared { s.own conn with phase := .ended }
      | _ => s
  | .process conn =>
      match (s.own conn).phase with
      | .processing msg =>
          let (rate, task) := (s.own conn).process s.shared.rate msg
          s.move conn { s.shared with rate := rate } task
      | _ => s
  | .write conn written =>
      match (s.own conn).phase with
      | .writing payload => s.move conn s.shared ((s.own conn).write payload written)
      | _ => s
  | .takeRate =>
      match s.shared.taken with
      | none => { s with shared := { s.shared with taken := some s.shared.rate } }
      | some _ => s
  | .send words =>
      match s.shared.taken with
      | some rate =>
          { s with
            shared := { s.shared with
              stream := s.shared.stream.next
              taken := none
              sent := s.shared.sent ++
                [⟨rate.get, words, datagram s.shared.stream rate.get words⟩] } }
      | none => s

/-! ### The sensor as its clients see it -/

/-- A request is answered, or the rate of a packet is fixed, in one go. -/
inductive Event (Conn : Type) where
  | request (conn : Conn) (msg : Bytes)
  | packet

structure Exchange (Conn : Type) where
  conn : Conn
  msg : Bytes
  reply : Bytes

/-- A packet of the stream: its counts and its mode. -/
structure Packet where
  state : StreamState
  mode : OutputRateMode

structure Whole (Conn : Type) where
  server : Server Conn
  stream : StreamState
  exchanges : List (Exchange Conn)
  packets : List Packet

namespace Whole

def start (Conn : Type) [DecidableEq Conn] : Whole Conn where
  server := .start
  stream := {}
  exchanges := []
  packets := []

def answer (a : Whole Conn) (server : Server Conn) (exchange : Exchange Conn) : Whole Conn :=
  { a with server := server, exchanges := a.exchanges ++ [exchange] }

def step (a : Whole Conn) : Event Conn → Whole Conn
  | .request conn msg =>
      match a.server.handle conn msg with
      | some (server, reply) => a.answer server ⟨conn, msg, reply⟩
      | none => a
  | .packet =>
      { a with
        stream := a.stream.next
        packets := a.packets ++ [⟨a.stream, a.server.rate.get⟩] }

def exchangesOn (a : Whole Conn) (conn : Conn) : List (Exchange Conn) :=
  a.exchanges.filter (fun exchange => exchange.conn = conn)

def requestsOn (a : Whole Conn) (conn : Conn) : List Bytes :=
  (a.exchangesOn conn).map Exchange.msg

def repliesOn (a : Whole Conn) (conn : Conn) : List Bytes :=
  (a.exchangesOn conn).map Exchange.reply

theorem answer_own (a : Whole Conn) (server : Server Conn) (conn : Conn) (msg reply : Bytes) :
    (a.answer server ⟨conn, msg, reply⟩).requestsOn conn = a.requestsOn conn ++ [msg] ∧
      (a.answer server ⟨conn, msg, reply⟩).repliesOn conn = a.repliesOn conn ++ [reply] := by
  simp [answer, requestsOn, repliesOn, exchangesOn]

theorem answer_other (a : Whole Conn) (server : Server Conn) (conn other : Conn)
    (msg reply : Bytes) (different : other ≠ conn) :
    (a.answer server ⟨conn, msg, reply⟩).requestsOn other = a.requestsOn other ∧
      (a.answer server ⟨conn, msg, reply⟩).repliesOn other = a.repliesOn other := by
  simp [answer, requestsOn, repliesOn, exchangesOn, different.symm]

end Whole

/-- A request takes effect when its task gets at the rate, and so does a packet. -/
def events (s : State Conn) : Action Conn → List (Event Conn)
  | .process conn =>
      match (s.own conn).phase with
      | .processing msg =>
          match Sensor.process s.shared.rate msg with
          | some _ => [.request conn msg]
          | none => []
      | _ => []
  | .takeRate =>
      match s.shared.taken with
      | none => [.packet]
      | some _ => []
  | _ => []

/-! ### The simulation -/

/-- What a task has in hand of the exchanges on its connection: a request that has not taken effect
yet, or a reply that has not been written yet. -/
def Linked (task : Task) (counter : BitVec 16) (requests replies : List Bytes) : Prop :=
  match task.phase with
  | .absent => counter = task.counter ∧ requests = task.received ∧ replies = task.replied
  | .reading => counter = task.counter ∧ requests = task.received ∧ replies = task.replied
  | .processing msg =>
      (counter = task.counter ∧ requests ++ [msg] = task.received ∧ replies = task.replied) ∧
        6 ≤ msg.length ∧ msg.length ≤ 1024
  | .writing payload =>
      counter = task.counter + 1 ∧ requests = task.received ∧
        replies = task.replied ++ [response task.counter payload]
  | .ended =>
      (requests <+: task.received ∧ task.received.length ≤ requests.length + 1) ∧
        task.replied <+: replies ∧ replies.length ≤ task.replied.length + 1

/-- Whatever the task is at, it lacks at most one of either. -/
theorem Linked.within {task : Task} {counter : BitVec 16} {requests replies : List Bytes}
    (linked : Linked task counter requests replies) :
    (requests <+: task.received ∧ task.received.length ≤ requests.length + 1) ∧
      task.replied <+: replies ∧ replies.length ≤ task.replied.length + 1 := by
  unfold Linked at linked
  split at linked
  · obtain ⟨_, rfl, rfl⟩ := linked
    exact ⟨⟨List.prefix_rfl, by omega⟩, List.prefix_rfl, by omega⟩
  · obtain ⟨_, rfl, rfl⟩ := linked
    exact ⟨⟨List.prefix_rfl, by omega⟩, List.prefix_rfl, by omega⟩
  · obtain ⟨⟨_, received, rfl⟩, _⟩ := linked
    rw [← received, List.length_append]
    exact ⟨⟨List.prefix_append _ _, by simp⟩, List.prefix_rfl, by omega⟩
  · obtain ⟨_, rfl, rfl⟩ := linked
    exact ⟨⟨List.prefix_rfl, by omega⟩, List.prefix_append _ _, by simp⟩
  · exact linked

/-- The bytes of a packet once its words are known. -/
def Packet.emitted (packet : Packet) (words : Nat → SampleWords) : Emitted where
  mode := packet.mode
  words := words
  data := datagram packet.state packet.mode words

/-- The packet that has got its rate and has not been sent yet. -/
def Shared.begun (shared : Shared) : List Packet :=
  (shared.taken.map (fun rate => ⟨shared.stream, rate.get⟩)).toList

/-- The tasks, and the sensor that has done everything that has taken effect. -/
structure Stands (s : State Conn) (a : Whole Conn) : Prop where
  rate : a.server.rate = s.shared.rate
  linked : ∀ conn,
    Linked (s.own conn) (a.server.counter conn) (a.requestsOn conn) (a.repliesOn conn)
  stream : a.stream = if s.shared.taken.isSome then s.shared.stream.next else s.shared.stream
  packets : ∃ done, a.packets = done ++ s.shared.begun ∧ done.length = s.shared.sent.length ∧
    s.shared.sent = done.zipWith Packet.emitted (s.shared.sent.map Emitted.words)

theorem stands_start : Stands (start Conn) (Whole.start Conn) where
  rate := rfl
  linked := fun _ => ⟨rfl, rfl, rfl⟩
  stream := rfl
  packets := ⟨[], by simp [Whole.start, start, Shared.begun], rfl, rfl⟩

/-- The task of a connection moves, and nothing takes effect. -/
theorem Stands.moved {s : State Conn} {a : Whole Conn} (stands : Stands s a) (conn : Conn)
    (task : Task)
    (linked : Linked task (a.server.counter conn) (a.requestsOn conn) (a.repliesOn conn)) :
    Stands (s.move conn s.shared task) a where
  rate := stands.rate
  linked := s.move_forall conn s.shared task
    (fun conn task => Linked task (a.server.counter conn) (a.requestsOn conn) (a.repliesOn conn))
    linked (fun other _ => stands.linked other)
  stream := stands.stream
  packets := stands.packets

theorem Linked.read {task : Task} {counter : BitVec 16} {requests replies : List Bytes}
    (linked : Linked task counter requests replies) (reading : task.phase = .reading)
    (arrived : Bytes) : Linked (task.read arrived) counter requests replies := by
  simp only [Linked, reading] at linked
  obtain ⟨same, rfl, rfl⟩ := linked
  unfold Task.read
  by_cases short : (arrived.take 1024).length < 6
  · simp only [if_pos short, Linked]
    exact ⟨⟨List.prefix_append _ _, by simp⟩, List.prefix_rfl, by omega⟩
  · have cut : (arrived.take 1024).length ≤ 1024 := by
      rw [List.length_take]
      exact Nat.min_le_left _ _
    rw [if_neg short]
    exact ⟨⟨same, rfl, rfl⟩, by omega, cut⟩

theorem Linked.write {task : Task} {counter : BitVec 16} {requests replies : List Bytes}
    {payload : Bytes} (linked : Linked task counter requests replies)
    (writing : task.phase = .writing payload) (written : Bool) :
    Linked (task.write payload written) counter requests replies := by
  have within := linked.within
  simp only [Linked, writing] at linked
  obtain ⟨same, rfl, rfl⟩ := linked
  cases written with
  | true => exact ⟨same, rfl, rfl⟩
  | false => exact within

/-- A request takes effect. -/
theorem Stands.processed {s : State Conn} {a : Whole Conn} (stands : Stands s a) (conn : Conn)
    (msg payload : Bytes) (rate : OutputRateState) (here : (s.own conn).phase = .processing msg)
    (answered : Sensor.process s.shared.rate msg = some (rate, payload)) :
    Stands (s.move conn { s.shared with rate := rate }
        { s.own conn with phase := .writing payload })
      (a.step (.request conn msg)) := by
  have linked := stands.linked conn
  simp only [Linked, here] at linked
  obtain ⟨⟨counter, received, replied⟩, long, fits⟩ := linked
  have handled : a.server.handle conn msg = some ({
      rate := rate
      counter := Function.update a.server.counter conn (a.server.counter conn + 1) },
      response (a.server.counter conn) payload) := by
    rw [Server.handle, List.take_of_length_le fits]
    simp only [if_neg (not_lt.mpr long), stands.rate, answered]
    rfl
  simp only [Whole.step, handled]
  obtain ⟨requests, replies⟩ := a.answer_own
    { rate := rate, counter := Function.update a.server.counter conn (a.server.counter conn + 1) }
    conn msg (response (a.server.counter conn) payload)
  refine ⟨rfl, ?_, stands.stream, stands.packets⟩
  intro other
  by_cases mine : other = conn
  · rw [mine, System.move_own, requests, replies]
    refine ⟨?_, received, ?_⟩
    · simp only [Whole.answer, Function.update_self, counter]
    · rw [replied, counter]
  · obtain ⟨requests, replies⟩ := a.answer_other
      { rate := rate, counter := Function.update a.server.counter conn (a.server.counter conn + 1) }
      conn other msg (response (a.server.counter conn) payload) mine
    rw [System.move_other _ _ _ _ _ mine, requests, replies]
    simp only [Whole.answer, Function.update_of_ne mine]
    exact stands.linked other

/-- The stream reads the rate. -/
theorem Stands.taken {s : State Conn} {a : Whole Conn} (stands : Stands s a)
    (none : s.shared.taken = none) :
    Stands { s with shared := { s.shared with taken := some s.shared.rate } } (a.step .packet) := by
  obtain ⟨done, packets, counted, sent⟩ := stands.packets
  have stream := stands.stream
  simp only [none, Option.isSome_none, Bool.false_eq_true, if_false] at stream
  simp only [Shared.begun, none, Option.map_none, Option.toList_none, List.append_nil] at packets
  refine ⟨stands.rate, stands.linked, ?_, done, ?_, counted, sent⟩
  · simp only [Whole.step, stream, Option.isSome_some, if_true]
  · simp only [Whole.step, Shared.begun, packets, stream, stands.rate, Option.map_some,
      Option.toList_some]

/-- The packet goes out with the rate that was read. -/
theorem Stands.sent {s : State Conn} {a : Whole Conn} (stands : Stands s a)
    (rate : OutputRateState) (words : Nat → SampleWords) (some : s.shared.taken = some rate) :
    Stands { s with
      shared := { s.shared with
        stream := s.shared.stream.next
        taken := none
        sent := s.shared.sent ++
          [⟨rate.get, words, datagram s.shared.stream rate.get words⟩] } } a := by
  obtain ⟨done, packets, counted, sent⟩ := stands.packets
  have stream := stands.stream
  simp only [some, Option.isSome_some, if_true] at stream
  simp only [Shared.begun, some, Option.map_some, Option.toList_some] at packets
  refine ⟨stands.rate, stands.linked, stream, done ++ [⟨s.shared.stream, rate.get⟩], ?_, ?_, ?_⟩
  · rw [packets]
    exact (List.append_nil _).symm
  · rw [List.length_append, List.length_append, counted]
    rfl
  · rw [List.map_append, List.zipWith_append (by rw [counted, List.length_map]), ← sent]
    rfl

theorem stands_step (s : State Conn) (a : Whole Conn) (action : Action Conn)
    (stands : Stands s a) : Stands (step s action) (Run.run Whole.step a (events s action)) := by
  cases action with
  | accept conn =>
    simp only [step, events, Run.run_nil]
    split
    next here =>
      have linked := stands.linked conn
      simp only [Linked, here] at linked
      exact stands.moved conn _ linked
    next => exact stands
  | read conn arrived =>
    simp only [step, events, Run.run_nil]
    split
    next here => exact stands.moved conn _ ((stands.linked conn).read here arrived)
    next => exact stands
  | readFails conn =>
    simp only [step, events, Run.run_nil]
    split
    next => exact stands.moved conn _ (stands.linked conn).within
    next => exact stands
  | process conn =>
    cases here : (s.own conn).phase with
    | processing msg =>
      cases answered : Sensor.process s.shared.rate msg with
      | none =>
        simp only [step, events, here, Task.process, answered, Run.run_nil]
        exact stands.moved conn _ (stands.linked conn).within
      | some next =>
        simp only [step, events, here, Task.process, answered, Run.run_cons, Run.run_nil]
        exact stands.processed conn msg next.2 next.1 here answered
    | _ =>
      simp only [step, events, here, Run.run_nil]
      exact stands
  | write conn written =>
    simp only [step, events, Run.run_nil]
    split
    next payload here => exact stands.moved conn _ ((stands.linked conn).write here written)
    next => exact stands
  | takeRate =>
    cases here : s.shared.taken with
    | none =>
      simp only [step, events, here, Run.run_cons, Run.run_nil]
      exact stands.taken here
    | some rate =>
      simp only [step, events, here, Run.run_nil]
      exact stands
  | send words =>
    cases here : s.shared.taken with
    | none =>
      simp only [step, events, here, Run.run_nil]
      exact stands
    | some rate =>
      simp only [step, events, here, Run.run_nil]
      exact stands.sent rate words here

end SchunkFts.Dummy.Tasks
