import SchunkFts.Dummy.Sensor
import SchunkFts.Foundation.Run
import SchunkFts.Library.CallAccounts
import SchunkFts.Library.Control

/-! Any number of threads that call one driver, interleaved between the statements of their calls.
Replies carry no mark of their request: `recv` takes the next frame of the stream, whosever it is, and
a request that has been given up leaves its reply to the next call that receives on the same TCP
connection. Requests are numbered in the order in which they are sent, and calls in the order in which
they begin; the numbers are not on the wire. -/

namespace SchunkFts.Library.SharedConnection
open SchunkFts.Foundation.Struct SchunkFts.Foundation.Hex SchunkFts.Foundation.Run
open SchunkFts.Foundation.Scripts
open Messages Control CallScripts CallAccounts

/-- A frame that was sent: by whom, for which call, as which, and on which socket. -/
structure Sent (Thread : Type) where
  thread : Thread
  call : Nat
  number : Nat
  socket : Nat
  msg : Bytes
  deriving DecidableEq

/-- A socket: what the sensor has not read of it yet, and the replies that nobody has received, each
with the request it answers. -/
structure Line (Thread : Type) where
  connected : Bool := false
  hungUp : Bool := false
  requests : List (Sent Thread) := []
  replies : List (Sent Thread × Bytes) := []

/-- A reply that a call has taken, the request it has taken it for, and the one it answers. -/
structure Returned (Thread : Type) where
  own : Option (Sent Thread)
  answered : Sent Thread
  reply : Bytes

/-- What happens to the sensor: it answers a request, or something else. -/
inductive Event (Thread Sensor : Type) where
  | answered (sent : Sent Thread) (reply : Bytes) (after : Sensor)
  | changed (after : Sensor)

/-- What the threads share: `Driver._lock`, the `Connection` object, and the sockets by the order in
which they were made, the current one among them. `pending` are the requests of calls that have not
had a reply: they wait, or have given up. -/
structure Shared (Thread Sensor : Type) where
  lock : Option Thread
  connection : Connection
  current : Nat
  lines : Nat → Line Thread
  sensor : Sensor
  history : List (Event Thread Sensor)
  sent : Nat
  pending : List (Sent Thread)
  returned : List (Returned Thread)

/-- A call in progress: what is left of it, and the request it waits to have answered. -/
structure Task (Thread : Type) where
  number : Nat
  call : Call
  script : Method (Result Value)
  own : Option (Sent Thread)
  noted : Noted

structure Finished (Thread : Type) where
  thread : Thread
  number : Nat
  call : Call
  taken : Taken
  result : Result Value
  deriving DecidableEq

structure State (Thread Sensor : Type) where
  shared : Shared Thread Sensor
  calls : Nat
  tasks : Thread → Option (Task Thread)
  finished : List (Finished Thread)

inductive Arrival where
  | frame
  | ended
  | failed
  deriving DecidableEq

/-- How the operating system answers a statement. A frame can only come if there is one; the stream
may end and `recv` may fail at any time. -/
structure Input where
  opening : Opening := { accepted := true }
  sent : Bool := true
  received : Arrival := .frame
  streamOpened : Bool := true

variable {Thread Sensor : Type} [DecidableEq Thread]

namespace Shared

/-- An open and persistent connection. -/
def start (sensor : Sensor) : Shared Thread Sensor where
  lock := none
  connection := ⟨.connected, true, true⟩
  current := 0
  lines := Function.update (fun _ => {}) 0 { connected := true }
  sensor := sensor
  history := []
  sent := 0
  pending := []
  returned := []

/-- `__enter__`: a socket that has been closed is replaced first. -/
def enter (s : Shared Thread Sensor) (opening : Opening) : Shared Thread Sensor :=
  let entered := s.connection.enter opening
  let replaced := !s.connection.isOpen && s.connection.socket = .closed && opening.created
  let current := if replaced then s.current + 1 else s.current
  { s with
    connection := entered
    current := current
    lines :=
      if entered.isOpen then
        Function.update s.lines current { s.lines current with connected := true }
      else s.lines }

def close (s : Shared Thread Sensor) : Shared Thread Sensor :=
  { s with connection := s.connection.close true, current := s.current + 1 }

def send (s : Shared Thread Sensor) (sent : Sent Thread) : Shared Thread Sensor :=
  let line := s.lines sent.socket
  { s with
    lines := Function.update s.lines sent.socket { line with requests := line.requests ++ [sent] }
    sent := s.sent + 1
    pending := s.pending ++ [sent] }

def take (s : Shared Thread Sensor) (socket : Nat) (returned : Returned Thread)
    (later : List (Sent Thread × Bytes)) : Shared Thread Sensor :=
  { s with
    lines := Function.update s.lines socket { s.lines socket with replies := later }
    pending := s.pending.filter (fun sent => some sent ≠ returned.own)
    returned := s.returned ++ [returned] }

/-- One statement of a thread, with what it waits for afterwards; `none` is a statement that has to
wait. -/
def carryOut (s : Shared Thread Sensor) (thread : Thread) (call : Nat) (own : Option (Sent Thread))
    (input : Input) :
    (primitive : Primitive) →
      Option (Shared Thread Sensor × Option (Sent Thread) × primitive.Answer)
  | .acquire => if s.lock.isNone then some ({ s with lock := some thread }, own, ()) else none
  | .release => some ({ s with lock := none }, own, ())
  | .enter => some (s.enter input.opening, own, ())
  | .exit => some ({ s with connection := s.connection.exit }, own, ())
  | .close => some (s.close, own, ())
  | .isOpen =>
      some (s, if s.connection.isOpen then own else none, s.connection.isOpen)
  | .setPersistent =>
      some ({ s with connection := { s.connection with persistent := true } }, own, ())
  | .clearIsOpen => some ({ s with connection := { s.connection with isOpen := false } }, own, ())
  | .socket => some (s, own, s.current)
  | .sendall socket data =>
      if (s.lines socket).connected && input.sent then
        let sent := ⟨thread, call, s.sent, socket, data⟩
        some (s.send sent, some sent, true)
      else some (s, none, false)
  | .recv socket =>
      match input.received, (s.lines socket).replies with
      | .frame, [] => none
      | .frame, (answered, reply) :: later =>
          some (s.take socket ⟨own, answered, reply⟩ later, none, .frame reply)
      | .ended, _ => some (s, none, .ended)
      | .failed, _ => some (s, none, .failed)
  | .streamOpened => some (s, own, input.streamOpened)

/-- The sensor reads the next request of a connection, and answers it or hangs up. -/
def answer (serve : Sensor → Nat → Bytes → Option (Sensor × Bytes)) (s : Shared Thread Sensor)
    (socket : Nat) : Shared Thread Sensor :=
  let line := s.lines socket
  if line.hungUp then s
  else
    match line.requests with
    | [] => s
    | sent :: later =>
        match serve s.sensor sent.socket sent.msg with
        | some (sensor, reply) =>
            { s with
              sensor := sensor
              history := s.history ++ [.answered sent reply sensor]
              lines := Function.update s.lines socket
                { line with requests := later, replies := line.replies ++ [(sent, reply)] } }
        | none => { s with lines := Function.update s.lines socket { line with hungUp := true } }

end Shared

def State.start (sensor : Sensor) : State Thread Sensor where
  shared := .start sensor
  calls := 0
  tasks := fun _ => none
  finished := []

/-- `change` is whatever else happens to the sensor. -/
inductive Action (Thread Sensor : Type) where
  | call (thread : Thread) (call : Call)
  | go (thread : Thread) (input : Input)
  | answer (socket : Nat)
  | change (sensor : Sensor)

/-- A thread that is in no call begins one, or goes on with its call by one statement. -/
def step (serve : Sensor → Nat → Bytes → Option (Sensor × Bytes)) (s : State Thread Sensor) :
    Action Thread Sensor → State Thread Sensor
  | .call thread call =>
      match s.tasks thread with
      | none =>
          { s with
            calls := s.calls + 1
            tasks := Function.update s.tasks thread
              (some ⟨s.calls, call, call.script, none, ⟨none, []⟩⟩) }
      | some _ => s
  | .go thread input =>
      match s.tasks thread with
      | none => s
      | some task =>
          match task.script with
          | .done result =>
              { s with
                tasks := Function.update s.tasks thread none
                finished :=
                  s.finished ++ [⟨thread, task.number, task.call, task.noted.taken, result⟩] }
          | .perform primitive next =>
              match s.shared.carryOut thread task.number task.own input primitive with
              | none => s
              | some (shared, own, answer) =>
                  { s with
                    shared := shared
                    tasks := Function.update s.tasks thread
                      (some ⟨task.number, task.call, next answer, own,
                        note task.noted primitive answer⟩) }
  | .answer socket => { s with shared := s.shared.answer serve socket }
  | .change sensor =>
      { s with
        shared := { s.shared with
          sensor := sensor
          history := s.shared.history ++ [.changed sensor] } }

/-! ### What a statement can do -/

/-- Nothing is sent or taken. -/
structure Quiet (s after : Shared Thread Sensor) : Prop where
  requests : ∀ socket, (after.lines socket).requests = (s.lines socket).requests
  replies : ∀ socket, (after.lines socket).replies = (s.lines socket).replies
  sensor : after.sensor = s.sensor
  history : after.history = s.history
  sent : after.sent = s.sent
  pending : after.pending = s.pending
  returned : after.returned = s.returned

section
variable (s : Shared Thread Sensor)

omit [DecidableEq Thread] in
theorem Quiet.refl : Quiet s s :=
  ⟨fun _ => rfl, fun _ => rfl, rfl, rfl, rfl, rfl, rfl⟩

omit [DecidableEq Thread] in
theorem enter_quiet (opening : Opening) : Quiet s (s.enter opening) := by
  have connects (socket current : Nat) (entered : Bool) :
      ((if entered then Function.update s.lines current { s.lines current with connected := true }
          else s.lines) socket).requests = (s.lines socket).requests ∧
        ((if entered then Function.update s.lines current { s.lines current with connected := true }
          else s.lines) socket).replies = (s.lines socket).replies := by
    cases entered with
    | false => exact ⟨rfl, rfl⟩
    | true =>
      simp only [if_true, Function.update_apply]
      split_ifs with here
      · rw [here]
        exact ⟨rfl, rfl⟩
      · exact ⟨rfl, rfl⟩
  exact ⟨fun socket => (connects socket _ _).1, fun socket => (connects socket _ _).2, rfl, rfl, rfl,
    rfl, rfl⟩

end

/-- A statement is quiet, or it sends a frame, or it takes a reply. -/
inductive Carried (s : Shared Thread Sensor) (thread : Thread) (call : Nat)
    (own : Option (Sent Thread)) (input : Input) :
    Primitive → Shared Thread Sensor → Option (Sent Thread) → Prop
  | quiet {primitive after own'} (quiet : Quiet s after) (gave : own' = own ∨ own' = none) :
      Carried s thread call own input primitive after own'
  | sent (socket : Nat) (data : Bytes) :
      Carried s thread call own input (.sendall socket data)
        (s.send ⟨thread, call, s.sent, socket, data⟩) (some ⟨thread, call, s.sent, socket, data⟩)
  | took (socket : Nat) (answered : Sent Thread) (reply : Bytes)
      (later : List (Sent Thread × Bytes)) (frame : input.received = .frame)
      (content : (s.lines socket).replies = (answered, reply) :: later) :
      Carried s thread call own input (.recv socket) (s.take socket ⟨own, answered, reply⟩ later)
        none

theorem carryOut_carried (s : Shared Thread Sensor) (thread : Thread) (call : Nat)
    (own : Option (Sent Thread)) (input : Input) (primitive : Primitive)
    (after : Shared Thread Sensor) (own' : Option (Sent Thread)) (answer : primitive.Answer)
    (carried : s.carryOut thread call own input primitive = some (after, own', answer)) :
    Carried s thread call own input primitive after own' := by
  have quiet {after' : Shared Thread Sensor} {waits : Option (Sent Thread)} {answer' : primitive.Answer}
      (same : some (after', waits, answer') = some (after, own', answer)) (keeps : Quiet s after')
      (gave : waits = own ∨ waits = none) : Carried s thread call own input primitive after own' := by
    cases same
    exact .quiet keeps gave
  have unmoved : Quiet s s := Quiet.refl s
  cases primitive with
  | acquire =>
    simp only [Shared.carryOut] at carried
    split_ifs at carried
    exact quiet carried ⟨fun _ => rfl, fun _ => rfl, rfl, rfl, rfl, rfl, rfl⟩ (.inl rfl)
  | enter => exact quiet carried (enter_quiet s input.opening) (.inl rfl)
  | isOpen =>
    refine quiet carried unmoved ?_
    split_ifs
    · exact .inl rfl
    · exact .inr rfl
  | sendall socket data =>
    simp only [Shared.carryOut] at carried
    split_ifs at carried
    · cases carried
      exact .sent socket data
    · exact quiet carried unmoved (.inr rfl)
  | recv socket =>
    simp only [Shared.carryOut] at carried
    split at carried
    · cases carried
    next answered reply later frame content =>
      cases carried
      exact .took socket answered reply later frame content
    · exact quiet carried unmoved (.inr rfl)
    · exact quiet carried unmoved (.inr rfl)
  | _ => exact quiet carried ⟨fun _ => rfl, fun _ => rfl, rfl, rfl, rfl, rfl, rfl⟩ (.inl rfl)

/-- A thread goes on by nothing, by the return of its call, or by one statement. -/
theorem step_go (serve : Sensor → Nat → Bytes → Option (Sensor × Bytes)) (s : State Thread Sensor)
    (thread : Thread) (input : Input) :
    step serve s (.go thread input) = s ∨
      (∃ task result, s.tasks thread = some task ∧ task.script = .done result ∧
        step serve s (.go thread input) =
          { s with
            tasks := Function.update s.tasks thread none
            finished :=
              s.finished ++ [⟨thread, task.number, task.call, task.noted.taken, result⟩] }) ∨
      ∃ task primitive next after own answer, s.tasks thread = some task ∧
        task.script = .perform primitive next ∧
        s.shared.carryOut thread task.number task.own input primitive = some (after, own, answer) ∧
        step serve s (.go thread input) =
          { s with
            shared := after
            tasks := Function.update s.tasks thread
              (some ⟨task.number, task.call, next answer, own,
                note task.noted primitive answer⟩) } := by
  simp only [step]
  split
  next => exact .inl rfl
  next task here =>
    split
    next result done => exact .inr (.inl ⟨task, result, here, done, rfl⟩)
    next primitive next performs =>
      split
      next => exact .inl rfl
      next after own answer carried =>
        exact .inr (.inr ⟨task, primitive, next, after, own, answer, here, performs, carried, rfl⟩)

/-! ### Replies in the order of the requests -/

/-- The call has sent its request on this socket, and before every other request on it whose call has
not had a reply. -/
def InTurn (s : Shared Thread Sensor) (socket : Nat) : Option (Sent Thread) → Prop
  | some own => own.socket = socket ∧
      ∀ other ∈ s.pending, other.socket = socket → own.number ≤ other.number
  | none => False

instance (s : Shared Thread Sensor) (socket : Nat) :
    ∀ own, Decidable (InTurn s socket own)
  | some own => inferInstanceAs (Decidable (own.socket = socket ∧
      ∀ other ∈ s.pending, other.socket = socket → own.number ≤ other.number))
  | none => .isFalse id

/-- The socket that a thread is receiving on, and the request it waits to have answered. -/
def State.receiving (s : State Thread Sensor) (thread : Thread) :
    Option (Nat × Option (Sent Thread)) :=
  match s.tasks thread with
  | some ⟨_, _, .perform (.recv socket) _, own, _⟩ => some (socket, own)
  | _ => none

/-- A reply is taken by the call whose turn it is. -/
def Meets (s : State Thread Sensor) : Action Thread Sensor → Prop
  | .go thread input => ∀ waits ∈ s.receiving thread, input.received = .frame →
      (s.shared.lines waits.1).replies ≠ [] → InTurn s.shared waits.1 waits.2
  | _ => True

instance (s : State Thread Sensor) : ∀ action, Decidable (Meets s action)
  | .go thread input => inferInstanceAs (Decidable (∀ waits ∈ s.receiving thread,
      input.received = .frame → (s.shared.lines waits.1).replies ≠ [] →
        InTurn s.shared waits.1 waits.2))
  | .call _ _ => .isTrue trivial
  | .answer _ => .isTrue trivial
  | .change _ => .isTrue trivial

/-- The sensor has answered the request. -/
def Answers (serve : Sensor → Nat → Bytes → Option (Sensor × Bytes))
    (history : List (Event Thread Sensor)) (sent : Sent Thread) (reply : Bytes) : Prop :=
  ∃ before after, serve before sent.socket sent.msg = some (after, reply) ∧
    .answered sent reply after ∈ history

omit [DecidableEq Thread] in
theorem Answers.mono {serve : Sensor → Nat → Bytes → Option (Sensor × Bytes)}
    {history more : List (Event Thread Sensor)} {sent : Sent Thread} {reply : Bytes}
    (answers : Answers serve history sent reply) (grows : history ⊆ more) :
    Answers serve more sent reply := by
  obtain ⟨before, after, served, event⟩ := answers
  exact ⟨before, after, served, grows event⟩

/-- The reply that a call has taken is the sensor's answer to the request of this very call. -/
structure OwnAnswer (serve : Sensor → Nat → Bytes → Option (Sensor × Bytes))
    (history : List (Event Thread Sensor)) (returned : Returned Thread) : Prop where
  own : returned.own = some returned.answered
  answer : Answers serve history returned.answered returned.reply

omit [DecidableEq Thread] in
theorem OwnAnswer.mono {serve : Sensor → Nat → Bytes → Option (Sensor × Bytes)}
    {history more : List (Event Thread Sensor)} {returned : Returned Thread}
    (own : OwnAnswer serve history returned) (grows : history ⊆ more) :
    OwnAnswer serve more returned := ⟨own.own, own.answer.mono grows⟩

def Line.outstanding (line : Line Thread) : List (Sent Thread) :=
  line.replies.map Prod.fst ++ line.requests

/-- Every call waits for a request of its own thread that is still pending. -/
def Owned (pending : List (Sent Thread)) (tasks : Thread → Option (Task Thread)) : Prop :=
  ∀ thread task sent, tasks thread = some task → task.own = some sent →
    sent ∈ pending ∧ sent.thread = thread

/-- What is outstanding on a socket is what the calls have not been answered, in order. -/
structure Sound (serve : Sensor → Nat → Bytes → Option (Sensor × Bytes)) (s : State Thread Sensor) :
    Prop where
  lines : ∀ socket, (s.shared.lines socket).outstanding =
    s.shared.pending.filter (fun sent => sent.socket = socket)
  increasing : s.shared.pending.Pairwise (fun earlier later => earlier.number < later.number)
  fresh : ∀ sent ∈ s.shared.pending, sent.number < s.shared.sent
  owned : Owned s.shared.pending s.tasks
  answers : ∀ socket, ∀ reply ∈ (s.shared.lines socket).replies,
    Answers serve s.shared.history reply.1 reply.2
  returned : ∀ returned ∈ s.shared.returned, OwnAnswer serve s.shared.history returned

variable {serve : Sensor → Nat → Bytes → Option (Sensor × Bytes)}

omit [DecidableEq Thread] in
theorem start_lines (sensor : Sensor) (socket : Nat) :
    ((State.start sensor : State Thread Sensor).shared.lines socket).requests = [] ∧
      ((State.start sensor : State Thread Sensor).shared.lines socket).replies = [] := by
  simp only [State.start, Shared.start, Function.update_apply]
  split_ifs <;> exact ⟨rfl, rfl⟩

omit [DecidableEq Thread] in
theorem sound_start (sensor : Sensor) :
    Sound serve (State.start sensor : State Thread Sensor) where
  lines socket := by
    obtain ⟨requests, replies⟩ :
        ((State.start sensor : State Thread Sensor).shared.lines socket).requests = [] ∧
          ((State.start sensor : State Thread Sensor).shared.lines socket).replies = [] :=
      start_lines sensor socket
    rw [Line.outstanding, requests, replies]
    rfl
  increasing := .nil
  fresh := fun _ member => absurd member List.not_mem_nil
  owned := nofun
  answers socket reply member := by
    rw [show ((State.start sensor : State Thread Sensor).shared.lines socket).replies = [] from
      (start_lines sensor socket).2] at member
    exact absurd member List.not_mem_nil
  returned := fun _ member => absurd member List.not_mem_nil

/-- Of all threads one goes on. -/
theorem Owned.update {pending : List (Sent Thread)} {tasks : Thread → Option (Task Thread)}
    (owned : Owned pending tasks) (thread : Thread) (next : Option (Task Thread))
    (new : ∀ task sent, next = some task → task.own = some sent →
      sent ∈ pending ∧ sent.thread = thread) : Owned pending (Function.update tasks thread next) := by
  intro other task sent here waits
  rw [Function.update_apply] at here
  split_ifs at here with same
  · exact same ▸ new task sent here waits
  · exact owned other task sent here waits

/-- Nothing is sent or taken, and a call may give up. -/
theorem Sound.quiet {s : State Thread Sensor} (sound : Sound serve s)
    {after : Shared Thread Sensor} (quiet : Quiet s.shared after) (calls : Nat) (thread : Thread)
    (next : Option (Task Thread)) (finished : List (Finished Thread))
    (gave : ∀ task sent, next = some task → task.own = some sent →
      sent ∈ s.shared.pending ∧ sent.thread = thread) :
    Sound serve ⟨after, calls, Function.update s.tasks thread next, finished⟩ where
  lines socket := by
    rw [Line.outstanding, quiet.replies, quiet.requests, quiet.pending]
    exact sound.lines socket
  increasing := quiet.pending ▸ sound.increasing
  fresh := by
    rw [quiet.pending, quiet.sent]
    exact sound.fresh
  owned := quiet.pending ▸ sound.owned.update thread next gave
  answers socket := by
    rw [quiet.replies, quiet.history]
    exact sound.answers socket
  returned := by
    rw [quiet.returned, quiet.history]
    exact sound.returned

theorem sound_send {s : State Thread Sensor} (sound : Sound serve s) (thread : Thread) (call : Nat)
    (socket : Nat) (data : Bytes) (task : Task Thread)
    (own : task.own = some ⟨thread, call, s.shared.sent, socket, data⟩) :
    Sound serve
      { s with
        shared := s.shared.send ⟨thread, call, s.shared.sent, socket, data⟩
        tasks := Function.update s.tasks thread (some task) } where
  lines other := by
    simp only [Shared.send, Function.update_apply, List.filter_append]
    split_ifs with here
    · rw [here, Line.outstanding, ← List.append_assoc]
      simp only [← sound.lines socket, Line.outstanding, decide_true, List.filter_cons_of_pos,
        List.filter_nil]
    · rw [sound.lines other, List.filter_cons_of_neg (by simpa using Ne.symm here), List.filter_nil,
        List.append_nil]
  increasing := by
    simp only [Shared.send]
    rw [List.pairwise_append]
    refine ⟨sound.increasing, List.pairwise_singleton _ _, fun earlier member later last => ?_⟩
    rw [List.mem_singleton.mp last]
    exact sound.fresh earlier member
  fresh := by
    intro sent member
    rcases List.mem_append.mp member with old | new
    · exact Nat.lt_succ_of_lt (sound.fresh sent old)
    · rw [List.mem_singleton.mp new]
      exact Nat.lt_succ_self _
  owned := by
    have kept : Owned (s.shared.send ⟨thread, call, s.shared.sent, socket, data⟩).pending s.tasks :=
      fun other task' sent here waits =>
        (sound.owned other task' sent here waits).imp_left (List.mem_append_left _)
    refine kept.update thread (some task) fun task' sent same waits => ?_
    cases same
    rw [own] at waits
    cases waits
    exact ⟨List.mem_append_right _ (List.mem_singleton_self _), rfl⟩
  answers other := by
    simp only [Shared.send, Function.update_apply]
    split_ifs
    · exact sound.answers socket
    · exact sound.answers other
  returned := sound.returned

omit [DecidableEq Thread] in
/-- The next reply of a socket answers the first of what is pending on it. -/
theorem Sound.first {s : State Thread Sensor} (sound : Sound serve s) (socket : Nat)
    (answered : Sent Thread) (reply : Bytes) (later : List (Sent Thread × Bytes))
    (content : (s.shared.lines socket).replies = (answered, reply) :: later) :
    s.shared.pending.filter (fun sent => sent.socket = socket) =
      answered :: (later.map Prod.fst ++ (s.shared.lines socket).requests) := by
  rw [← sound.lines socket, Line.outstanding, content]
  rfl

/-- It is a call's turn exactly if the next reply is the answer to its request. -/
theorem inTurn_iff {s : State Thread Sensor} (sound : Sound serve s) (thread : Thread)
    (task : Task Thread) (here : s.tasks thread = some task) (socket : Nat)
    (answered : Sent Thread) (reply : Bytes) (later : List (Sent Thread × Bytes))
    (content : (s.shared.lines socket).replies = (answered, reply) :: later) :
    InTurn s.shared socket task.own ↔ task.own = some answered := by
  have first := sound.first socket answered reply later content
  have ordered := sound.increasing.filter (fun sent => sent.socket = socket)
  rw [first] at ordered
  have pending (sent : Sent Thread) : sent ∈ s.shared.pending ∧ sent.socket = socket ↔
      sent = answered ∨ sent ∈ later.map Prod.fst ++ (s.shared.lines socket).requests := by
    rw [← List.mem_cons, ← first, List.mem_filter, decide_eq_true_eq]
  have next := (pending answered).mpr (.inl rfl)
  constructor
  · intro turn
    cases waits : task.own with
    | none =>
      rw [waits] at turn
      exact turn.elim
    | some own =>
      rw [waits] at turn
      have mine := (sound.owned thread task own here waits).1
      have least := turn.2 answered next.1 next.2
      rcases (pending own).mp ⟨mine, turn.1⟩ with same | behind
      · rw [same]
      · have before := (List.pairwise_cons.mp ordered).1 own behind
        omega
  · intro waits
    rw [waits]
    refine ⟨next.2, fun other member same => ?_⟩
    rcases (pending other).mp ⟨member, same⟩ with rfl | behind
    · exact le_rfl
    · exact ((List.pairwise_cons.mp ordered).1 other behind).le

theorem sound_take {s : State Thread Sensor} (sound : Sound serve s) (thread : Thread)
    (task : Task Thread) (here : s.tasks thread = some task) (socket : Nat)
    (answered : Sent Thread) (reply : Bytes) (later : List (Sent Thread × Bytes))
    (content : (s.shared.lines socket).replies = (answered, reply) :: later)
    (waits : task.own = some answered) (next : Task Thread) (idle : next.own = none) :
    Sound serve
      { s with
        shared := s.shared.take socket ⟨task.own, answered, reply⟩ later
        tasks := Function.update s.tasks thread (some next) } := by
  have first := sound.first socket answered reply later content
  have ordered := sound.increasing.filter (fun sent => sent.socket = socket)
  rw [first, List.pairwise_cons] at ordered
  have onSocket : answered.socket = socket := by
    have member : answered ∈ s.shared.pending.filter (fun sent => sent.socket = socket) :=
      first ▸ List.mem_cons_self
    exact of_decide_eq_true (List.mem_filter.mp member).2
  have left : (s.shared.take socket ⟨task.own, answered, reply⟩ later).pending =
      s.shared.pending.filter (fun sent => sent ≠ answered) := by
    simp only [Shared.take, waits, ne_eq, Option.some.injEq]
  have onlyOnce (sent : Sent Thread)
      (behind : sent ∈ later.map Prod.fst ++ (s.shared.lines socket).requests) : sent ≠ answered := by
    rintro rfl
    exact absurd (ordered.1 sent behind) (lt_irrefl _)
  obtain ⟨mine, byMe⟩ := sound.owned thread task answered here waits
  refine ⟨fun other => ?_, ?_, ?_, ?_, fun other => ?_, ?_⟩
  · rw [left, List.filter_comm]
    simp only [Shared.take, Function.update_apply]
    split_ifs with same
    · rw [same, first, List.filter_cons_of_neg (by simp)]
      exact (List.filter_eq_self.mpr fun sent behind => decide_eq_true (onlyOnce sent behind)).symm
    · rw [sound.lines other]
      refine (List.filter_eq_self.mpr fun sent member => decide_eq_true ?_).symm
      rintro rfl
      exact same ((of_decide_eq_true (List.mem_filter.mp member).2).symm.trans onSocket)
  · rw [left]
    exact sound.increasing.filter _
  · rw [left]
    exact fun sent member => sound.fresh sent (List.mem_filter.mp member).1
  · rw [left]
    intro other task' sent here' waits'
    dsimp only at here'
    rw [Function.update_apply] at here'
    split_ifs at here' with same
    · cases here'
      rw [idle] at waits'
      cases waits'
    · obtain ⟨member, theirs⟩ := sound.owned other task' sent here' waits'
      refine ⟨List.mem_filter.mpr ⟨member, decide_eq_true ?_⟩, theirs⟩
      rintro rfl
      exact same (theirs.symm.trans byMe)
  · simp only [Shared.take, Function.update_apply]
    split_ifs with same
    · intro taken member
      exact sound.answers socket taken (content ▸ List.mem_cons_of_mem _ member)
    · exact sound.answers other
  · intro returned member
    rcases List.mem_append.mp member with old | new
    · exact sound.returned returned old
    · rw [List.mem_singleton.mp new]
      refine ⟨waits, ?_⟩
      exact sound.answers socket (answered, reply) (content ▸ List.mem_cons_self)

omit [DecidableEq Thread] in
/-- A request moves on to its reply. -/
theorem sound_answer {s : State Thread Sensor} (sound : Sound serve s) (socket : Nat) :
    Sound serve { s with shared := s.shared.answer serve socket } := by
  unfold Shared.answer
  dsimp only
  split_ifs
  · exact sound
  · split
    next => exact sound
    next sent later content =>
      have lines := sound.lines socket
      rw [Line.outstanding, content] at lines
      split
      next sensor reply answered =>
        have grows : s.shared.history ⊆ s.shared.history ++ [.answered sent reply sensor] :=
          List.subset_append_left _ _
        refine ⟨fun other => ?_, sound.increasing, sound.fresh, sound.owned, fun other => ?_,
          fun returned member => (sound.returned returned member).mono grows⟩
        · simp only [Function.update_apply]
          split_ifs with same
          · rw [same, ← lines]
            simp [Line.outstanding]
          · exact sound.lines other
        · simp only [Function.update_apply]
          split_ifs with same
          · intro waiting member
            rcases List.mem_append.mp member with old | new
            · exact (sound.answers socket waiting old).mono grows
            · rw [List.mem_singleton.mp new]
              exact ⟨_, _, answered, List.mem_append_right _ (List.mem_singleton_self _)⟩
          · exact fun waiting member => (sound.answers other waiting member).mono grows
      next =>
        refine ⟨fun other => ?_, sound.increasing, sound.fresh, sound.owned, fun other => ?_,
          sound.returned⟩
        · simp only [Function.update_apply]
          split_ifs with same
          · exact same ▸ sound.lines socket
          · exact sound.lines other
        · simp only [Function.update_apply]
          split_ifs with same
          · exact same ▸ sound.answers socket
          · exact sound.answers other

theorem sound_step (s : State Thread Sensor) (action : Action Thread Sensor) (sound : Sound serve s)
    (meets : Meets s action) : Sound serve (step serve s action) := by
  cases action with
  | call thread call =>
    simp only [step]
    split
    next =>
      refine sound.quiet (Quiet.refl s.shared) _ thread _ s.finished fun task sent same waits => ?_
      cases same
      cases waits
    next => exact sound
  | go thread input =>
    rcases step_go serve s thread input with same | ⟨task, result, here, _, ended⟩ |
      ⟨task, primitive, next, after, own, answer, here, performs, carried, moved⟩
    · rwa [same]
    · rw [ended]
      exact sound.quiet (Quiet.refl s.shared) _ thread none _ nofun
    · rw [moved]
      have statement := carryOut_carried s.shared thread task.number task.own input primitive after
        own answer carried
      cases statement with
      | quiet quiet gave =>
        refine sound.quiet quiet _ thread _ s.finished fun task' sent same waits => ?_
        cases same
        rcases gave with rfl | rfl
        · exact sound.owned thread task sent here waits
        · cases waits
      | sent socket data => exact sound_send sound thread task.number socket data _ rfl
      | took socket answered reply later frame content =>
        have receiving : s.receiving thread = some (socket, task.own) := by
          obtain ⟨number, call, script, own, noted⟩ := task
          cases performs
          simp only [State.receiving, here]
        have turn := meets (socket, task.own) receiving frame
          (by rw [content]; exact List.cons_ne_nil _ _)
        have waits := (inTurn_iff sound thread task here socket answered reply later content).mp turn
        exact sound_take sound thread task here socket answered reply later content waits _ rfl
  | answer socket => exact sound_answer sound socket
  | change sensor =>
    have grows : s.shared.history ⊆ s.shared.history ++ [.changed sensor] :=
      List.subset_append_left _ _
    exact ⟨sound.lines, sound.increasing, sound.fresh, sound.owned,
      fun socket reply member => (sound.answers socket reply member).mono grows,
      fun returned member => (sound.returned returned member).mono grows⟩

/-- A reply is taken in turn exactly if it answers the call's own request. -/
theorem ownAnswer_step_iff (s : State Thread Sensor) (action : Action Thread Sensor)
    (sound : Sound serve s) :
    (∀ returned ∈ (step serve s action).shared.returned,
        OwnAnswer serve (step serve s action).shared.history returned) ↔
      Meets s action := by
  refine ⟨fun owned => ?_, fun meets => (sound_step s action sound meets).returned⟩
  cases action with
  | go thread input =>
    intro waits receiving frame some_reply
    simp only [State.receiving] at receiving
    split at receiving
    next number call socket next own noted here =>
      cases receiving
      obtain ⟨⟨answered, reply⟩, later, content⟩ := List.exists_cons_of_ne_nil some_reply
      apply (inTurn_iff sound thread _ here socket answered reply later content).mpr
      have took : (step serve s (.go thread input)).shared.returned =
          s.shared.returned ++ [⟨own, answered, reply⟩] := by
        simp only [step, here, Shared.carryOut, frame, content, Shared.take]
      have mine := owned ⟨own, answered, reply⟩
        (took ▸ List.mem_append_right _ (List.mem_singleton_self _))
      exact mine.own
    next => cases receiving
  | _ => trivial

/-! ### What the calls return -/

/-- Every reply that a call has noted is one of those that have been taken, for a request of this
call. -/
def Known (returned : List (Returned Thread)) (number : Nat) (taken : Taken) : Prop :=
  ∀ exchange ∈ taken, ∃ reply ∈ returned, exchange = (reply.own.map Sent.msg, reply.reply) ∧
    ∀ sent, reply.own = some sent → sent.call = number

omit [DecidableEq Thread] in
theorem Known.mono {returned more : List (Returned Thread)} {number : Nat} {taken : Taken}
    (known : Known returned number taken) (grows : returned ⊆ more) : Known more number taken := by
  intro exchange member
  obtain ⟨reply, there, same⟩ := known exchange member
  exact ⟨reply, grows there, same⟩

/-- The notes of a call are true, and it keeps to what it is to return. -/
structure Task.Notes (Post : Call → Taken → Result Value → Prop) (returned : List (Returned Thread))
    (task : Task Thread) : Prop where
  own : task.noted.own = task.own.map Sent.msg
  mine : ∀ sent, task.own = some sent → sent.call = task.number
  known : Known returned task.number task.noted.taken
  ensures : task.script.Ensures note (fun after => Post task.call after.taken) task.noted

structure Noting (Post : Call → Taken → Result Value → Prop) (s : State Thread Sensor) : Prop where
  tasks : ∀ thread task, s.tasks thread = some task → task.Notes Post s.shared.returned
  finished : ∀ finished ∈ s.finished, Known s.shared.returned finished.number finished.taken ∧
    Post finished.call finished.taken finished.result

variable {Post : Call → Taken → Result Value → Prop}

/-- Of all threads one goes on, and no reply is forgotten. -/
theorem Noting.update {s : State Thread Sensor} (noting : Noting Post s)
    (after : Shared Thread Sensor) (grows : s.shared.returned ⊆ after.returned) (calls : Nat)
    (thread : Thread) (next : Option (Task Thread))
    (notes : ∀ task, next = some task → task.Notes Post after.returned) :
    Noting Post ⟨after, calls, Function.update s.tasks thread next, s.finished⟩ where
  tasks other task here := by
    dsimp only at here
    rw [Function.update_apply] at here
    split_ifs at here
    · exact notes task here
    · obtain ⟨own, mine, known, ensures⟩ := noting.tasks other task here
      exact ⟨own, mine, known.mono grows, ensures⟩
  finished finished member :=
    (noting.finished finished member).imp_left (fun known => known.mono grows)

/-- What is noted of a statement is what it has done. -/
theorem carryOut_noted (s : Shared Thread Sensor) (thread : Thread) (call : Nat)
    (own : Option (Sent Thread)) (input : Input) (primitive : Primitive)
    (after : Shared Thread Sensor) (own' : Option (Sent Thread)) (answer : primitive.Answer)
    (noted : Noted)
    (carried : s.carryOut thread call own input primitive = some (after, own', answer))
    (waits : noted.own = own.map Sent.msg) (mine : ∀ sent, own = some sent → sent.call = call)
    (known : Known s.returned call noted.taken) :
    ((note noted primitive answer).own = own'.map Sent.msg ∧
      ∀ sent, own' = some sent → sent.call = call) ∧
      Known after.returned call (note noted primitive answer).taken ∧
      s.returned ⊆ after.returned := by
  have all : s.returned ⊆ s.returned := fun _ member => member
  cases primitive with
  | acquire =>
    simp only [Shared.carryOut] at carried
    split_ifs at carried
    cases carried
    exact ⟨⟨waits, mine⟩, known, all⟩
  | isOpen =>
    cases carried
    simp only [note]
    split_ifs
    · exact ⟨⟨waits, mine⟩, known, all⟩
    · exact ⟨⟨rfl, fun _ wrong => by cases wrong⟩, known, all⟩
  | sendall socket data =>
    simp only [Shared.carryOut] at carried
    split_ifs at carried
    · cases carried
      refine ⟨⟨rfl, fun sent same => ?_⟩, known, all⟩
      cases same
      rfl
    · cases carried
      exact ⟨⟨rfl, fun _ wrong => by cases wrong⟩, known, all⟩
  | recv socket =>
    simp only [Shared.carryOut] at carried
    split at carried
    · cases carried
    next answered reply later _ content =>
      cases carried
      have grows : s.returned ⊆ s.returned ++ [⟨own, answered, reply⟩] :=
        List.subset_append_left _ _
      refine ⟨⟨rfl, fun _ wrong => by cases wrong⟩, ?_, grows⟩
      intro exchange member
      rcases List.mem_append.mp member with old | new
      · exact known.mono grows exchange old
      · refine ⟨⟨own, answered, reply⟩, List.mem_append_right _ (List.mem_singleton_self _), ?_, mine⟩
        rw [List.mem_singleton.mp new, waits]
    · cases carried
      exact ⟨⟨rfl, fun _ wrong => by cases wrong⟩, known, all⟩
    · cases carried
      exact ⟨⟨rfl, fun _ wrong => by cases wrong⟩, known, all⟩
  | _ =>
    cases carried
    exact ⟨⟨waits, mine⟩, known, all⟩

section
variable (begins : ∀ call : Call,
  call.script.Ensures note (fun after => Post call after.taken) ⟨none, []⟩)

include begins

theorem noting_step (s : State Thread Sensor) (action : Action Thread Sensor)
    (noting : Noting Post s) : Noting Post (step serve s action) := by
  have all : s.shared.returned ⊆ s.shared.returned := fun _ member => member
  cases action with
  | call thread call =>
    simp only [step]
    split
    next =>
      refine noting.update s.shared all _ thread _ fun task same => ?_
      cases same
      have unasked : ∀ sent : Sent Thread, none = some sent → sent.call = s.calls := by
        intro sent wrong
        cases wrong
      exact ⟨rfl, unasked, fun _ none => absurd none List.not_mem_nil, begins call⟩
    next => exact noting
  | go thread input =>
    rcases step_go serve s thread input with same | ⟨task, result, here, done, ended⟩ |
      ⟨task, primitive, next, after, own, answer, here, performs, carried, moved⟩
    · rwa [same]
    · rw [ended]
      obtain ⟨_, _, known, ensures⟩ := noting.tasks thread task here
      rw [done] at ensures
      have idle := noting.update s.shared all s.calls thread none nofun
      refine ⟨idle.tasks, fun finished member => ?_⟩
      rcases List.mem_append.mp member with old | new
      · exact noting.finished finished old
      · rw [List.mem_singleton.mp new]
        exact ⟨known, ensures⟩
    · rw [moved]
      obtain ⟨waits, mine, known, ensures⟩ := noting.tasks thread task here
      rw [performs] at ensures
      obtain ⟨noted, knows, grows⟩ := carryOut_noted s.shared thread task.number task.own input
        primitive after own answer task.noted carried waits mine known
      refine noting.update after grows _ thread _ fun task' same => ?_
      cases same
      exact ⟨noted.1, noted.2, knows, ensures answer⟩
  | answer socket =>
    have same : (s.shared.answer serve socket).returned = s.shared.returned := by
      unfold Shared.answer
      dsimp only
      split_ifs
      · rfl
      · split
        · rfl
        · split <;> rfl
    refine ⟨fun thread task here => ?_, fun finished member => ?_⟩
    · exact same ▸ noting.tasks thread task here
    · exact same ▸ noting.finished finished member
  | change sensor => exact ⟨noting.tasks, noting.finished⟩

theorem noting_run (sensor : Sensor) (actions : List (Action Thread Sensor)) :
    Noting Post (run (step serve) (State.start sensor) actions) :=
  run_always (step serve) (Noting Post) (noting_step begins) actions (State.start sensor)
    ⟨nofun, nofun⟩

end

/-! ### The command id of a reply -/

/-- The sensor names in its reply the command it answers. -/
def Echoes (serve : Sensor → Nat → Bytes → Option (Sensor × Bytes)) : Prop :=
  ∀ sensor socket msg next reply, serve sensor socket msg = some (next, reply) → reply[6]? = msg[6]?

theorem respond_commandId (request : Request) (reply : Bytes) (response : Response)
    (some_reply : reply ≠ []) (responded : request.respond reply = .ok response) :
    response.commandId = hexField reply 6 7 := by
  cases header : readHeader reply with
  | error error =>
    cases request <;> simp [Request.respond, some_reply, GetParameterResponse.fromBytes,
      SetParameterResponse.fromBytes, CommandResponse.fromBytes, header] at responded
  | ok message =>
    cases request with
    | getParameter index subindex =>
      simp only [Request.respond, if_neg some_reply, GetParameterResponse.fromBytes, header]
        at responded
      cases responded
      rfl
    | setParameter value index subindex =>
      simp only [Request.respond, if_neg some_reply, SetParameterResponse.fromBytes, header]
        at responded
      cases responded
      rfl
    | command id =>
      simp only [Request.respond, CommandResponse.fromBytes, header] at responded
      cases responded
      rfl
    | commandWithParameter id parameter =>
      simp only [Request.respond, CommandResponse.fromBytes, header] at responded
      cases responded
      rfl

/-- The first byte of the payload is the command. -/
theorem frame_command (request : Request) (msg : Bytes) (byte : Byte)
    (id : request.commandId = toHex [byte]) (framed : request.frame = .ok msg) :
    msg[6]? = some byte := by
  have first (fields : List String)
      (sent : (Message.toBytes {} (request.commandId :: fields)).2 = .ok msg) :
      msg[6]? = some byte := by
    rw [Requests.default_frame_iff, id, encodeFields_toHex] at sent
    rw [sent.2]
    rfl
  cases request with
  | getParameter index subindex => exact first _ framed
  | setParameter value index subindex => exact first _ framed
  | command id => exact first _ framed
  | commandWithParameter id parameter => exact first _ framed

/-- An answer to the request's own frame carries the request's command id. -/
theorem answer_commandId (echoes : Echoes serve) (request : Request) (msg reply : Bytes)
    (framed : request.frame = .ok msg)
    (answer : ∃ sensor socket next, serve sensor socket msg = some (next, reply))
    (hexId : IsLowerHex 2 request.commandId) (response : Response)
    (responded : request.respond reply = .ok response) :
    response.commandId = request.commandId := by
  obtain ⟨data, one, id⟩ := lowerHex_bytes 1 _ hexId
  obtain ⟨byte, rfl⟩ := List.length_eq_one_iff.mp one
  obtain ⟨sensor, socket, next, served⟩ := answer
  have sent := frame_command request msg byte id framed
  have echoed : reply[6]? = some byte := (echoes _ _ _ _ _ served).trans sent
  have some_reply : reply ≠ [] := by
    rintro rfl
    cases echoed
  rw [respond_commandId _ _ _ some_reply responded, id, hexField]
  congr 1
  obtain ⟨inside, value⟩ := List.getElem?_eq_some_iff.mp echoed
  rw [slice, List.drop_take, List.drop_eq_getElem_cons inside, value]
  rfl

/-- So does the response that a call makes of such an answer. -/
theorem answered_commandId (echoes : Echoes serve) (request : Request)
    (hexId : IsLowerHex 2 request.commandId) {taken : Taken} {result : Result Response}
    (answered : Answered request.frame request.respond request.unreached [] taken result)
    (some_reply : taken ≠ [])
    (answers : ∀ exchange ∈ taken, ∃ msg, exchange.1 = some msg ∧
      ∃ sensor socket next, serve sensor socket msg = some (next, exchange.2))
    {response : Response} (responded : result = .ok response) :
    response.commandId = request.commandId := by
  cases answered with
  | taken msg framed own reply mine =>
    obtain ⟨other, waits, answer⟩ := answers (own, reply) (List.mem_singleton_self _)
    rw [mine other waits] at answer
    exact answer_commandId echoes request msg reply framed answer hexId response responded
  | _ => exact absurd rfl some_reply

/-! ### Any calls -/

/-- Every reply that the call has taken is the sensor's answer to a request of this very call; what it
returns is what it makes of these replies, and a response to a single request carries its command
id. -/
structure Truthful (serve : Sensor → Nat → Bytes → Option (Sensor × Bytes))
    (history : List (Event Thread Sensor)) (finished : Finished Thread) : Prop where
  answers : ∀ exchange ∈ finished.taken, ∃ request ∈ finished.call.requests, ∃ sent : Sent Thread,
    sent.call = finished.number ∧ request.frame = .ok sent.msg ∧ exchange.1 = some sent.msg ∧
      Answers serve history sent exchange.2
  accounts : Accounts finished.call finished.taken finished.result
  commandId : Echoes serve → ∀ request, finished.call.single = some request →
    IsLowerHex 2 request.commandId → finished.taken ≠ [] →
      ∀ response, finished.result = .ok (.response response) →
        response.commandId = request.commandId

omit [DecidableEq Thread] in
theorem Noting.truthful {s : State Thread Sensor} (noting : Noting Accounts s) (sound : Sound serve s)
    (finished : Finished Thread) (member : finished ∈ s.finished) :
    Truthful serve s.shared.history finished := by
  obtain ⟨known, accounts⟩ := noting.finished finished member
  have answers : ∀ exchange ∈ finished.taken, ∃ request ∈ finished.call.requests,
      ∃ sent : Sent Thread, sent.call = finished.number ∧ request.frame = .ok sent.msg ∧
        exchange.1 = some sent.msg ∧ Answers serve s.shared.history sent exchange.2 := by
    intro exchange took
    obtain ⟨returned, there, rfl, mine⟩ := known exchange took
    obtain ⟨own, answer⟩ := sound.returned returned there
    have msg : returned.own.map Sent.msg = some returned.answered.msg := by
      rw [own]
      rfl
    obtain ⟨request, asked, framed⟩ := accounts.belongs _ took returned.answered.msg msg
    exact ⟨request, asked, returned.answered, mine _ own, framed, msg, answer⟩
  refine ⟨answers, accounts, ?_⟩
  intro echoes request single hexId some_reply response result
  obtain ⟨responded, same, answered⟩ := accounts.single request single
  have responds : responded = .ok response := by
    rw [result] at same
    cases responded with
    | error error => cases same
    | ok made =>
      cases same
      rfl
  refine answered_commandId echoes request hexId answered some_reply (fun exchange took => ?_) responds
  obtain ⟨_, _, sent, _, _, waits, before, after, served, _⟩ := answers exchange took
  exact ⟨sent.msg, waits, before, sent.socket, after, served⟩

/-- After a run in which every reply is taken in turn. -/
theorem truthful_run (sensor : Sensor) (actions : List (Action Thread Sensor))
    (meets : AllMeet (step serve) Meets (State.start sensor) actions) :
    let final := run (step serve) (State.start sensor) actions
    ∀ finished ∈ final.finished, Truthful serve final.shared.history finished := by
  have sound := run_invariant (step serve) Meets (Sound serve) sound_step actions _
    (sound_start sensor) meets
  exact (noting_run call_accounts sensor actions).truthful sound

/-- In every run the replies are taken for the requests they answer exactly if each is taken in turn;
and then every call returns what the sensor has answered to its own requests. -/
theorem own_answers_iff (serve : Sensor → Nat → Bytes → Option (Sensor × Bytes)) (sensor : Sensor)
    (actions : List (Action Thread Sensor)) :
    (AllMeet (step serve)
        (fun s action => ∀ returned ∈ (step serve s action).shared.returned,
          OwnAnswer serve (step serve s action).shared.history returned)
        (State.start sensor) actions ↔
      AllMeet (step serve) Meets (State.start sensor) actions) ∧
    (AllMeet (step serve) Meets (State.start sensor) actions →
      let final := run (step serve) (State.start sensor) actions
      ∀ finished ∈ final.finished, Truthful serve final.shared.history finished) := by
  constructor
  · exact allMeet_iff (step serve) _ Meets (Sound serve) sound_step ownAnswer_step_iff actions _
      (sound_start sensor)
  · exact truthful_run sensor actions

/-! ### The dummy sensor -/

/-- Every socket of the driver is a connection of the dummy. -/
def dummyServe (server : Dummy.Sensor.Server Nat) (socket : Nat) (msg : Bytes) :
    Option (Dummy.Sensor.Server Nat × Bytes) := server.handle socket msg

theorem dummyServe_echoes : Echoes dummyServe := fun server socket msg next reply served =>
  Dummy.Sensor.handle_commandId server next socket msg reply served

/-- A thread goes on by several statements. -/
def advance (thread : Nat) (statements : Nat) : List (Action Nat (Dummy.Sensor.Server Nat)) :=
  List.replicate statements (.go thread {})

/-- The answer to `tare` comes too late; the loop reconnects, and a parameter is read under the lock
that the attempt holds first. -/
def reconnected : List (Action Nat (Dummy.Sensor.Server Nat)) :=
  .call 0 (.runCommand "12") :: advance 0 6 ++ [.go 0 { received := .failed }] ++ advance 0 2 ++
    [.call 1 (.attemptReconnect "00")] ++ advance 1 11 ++ [.answer 0, .answer 1] ++
    [.call 0 (.getParameter "0001" "00")] ++ advance 0 1 ++ advance 1 8 ++ [.answer 1] ++
    advance 1 5 ++ advance 0 6 ++ [.answer 1] ++ advance 0 6

theorem reconnected_own_answers :
    let final := run (step dummyServe) (State.start .start) reconnected
    final.finished.length = 3 ∧
      ∀ finished ∈ final.finished, Truthful dummyServe final.shared.history finished :=
  ⟨by decide +kernel, (own_answers_iff dummyServe .start reconnected).2 (by decide +kernel)⟩

/-- Two commands in flight, of which the second is first to receive. -/
def overtaking : List (Action Nat (Dummy.Sensor.Server Nat)) :=
  .call 0 (.runCommand "12") :: .call 1 (.runCommand "40") ::
    (advance 0 4 ++ advance 1 4 ++ [.answer 0, .answer 0] ++ advance 1 4 ++ advance 0 4)

theorem overtaking_swaps_answers :
    let final := run (step dummyServe) (State.start .start) overtaking
    Echoes dummyServe ∧
      ¬∀ finished ∈ final.finished, Truthful dummyServe final.shared.history finished := by
  refine ⟨dummyServe_echoes, fun all => ?_⟩
  have swapped := all ⟨1, 1, .runCommand "40", [(some [0xff, 0xff, 0, 0, 1, 0, 0x40],
      [0xff, 0xff, 1, 0, 2, 0, 0x12, 0])],
    .ok (.response (.command ⟨⟨"ffff", 1, some 2⟩, "12", "00"⟩))⟩ (by decide +kernel)
  have id := swapped.commandId dummyServe_echoes (.command "40") rfl (by decide)
    (List.cons_ne_nil _ _) _ rfl
  exact absurd id (by decide)

/-- One thread is enough: a write of the rate is answered too late, the next one connects the same
socket again and takes that answer for its own. -/
example :
    let late := .call 0 (.setParameter "02" "1020" "00") :: advance 0 7 ++
      [.go 0 { received := .failed }] ++ advance 0 3 ++ [.answer 0] ++
      [.call 0 (.setParameter "ff" "1020" "00"), .go 0 { opening := ⟨true, true, true⟩ }] ++
      advance 0 4 ++ [.answer 0] ++ advance 0 5
    (run (step dummyServe) (State.start .start) late).finished.map (·.result) =
      [.ok (.response (.setParameter {})),
        .ok (.response (.setParameter ⟨⟨"ffff", 1, some 5⟩, "f1", "00", "1020", "00"⟩))] := by
  decide +kernel

end SchunkFts.Library.SharedConnection
