import SchunkFts.Foundation.LockOrder

/-! What the methods of the library and of the node wait for: locks, and the two threads that are
joined. Waits that end by themselves are left out: the sleeps, and the socket and the queue with
their timeouts. An exception leaves a `with` block as a return does. -/

namespace SchunkFts.Whole.Waiting
open SchunkFts.Foundation SchunkFts.Foundation.LockOrder

/-- `_streaming_lock` and `_lock` of the driver, the locks of its connection and its stream, the mutex
of its queue, the node's `publisher_lock`, and the locks inside the two events. -/
inductive Lock where
  | streaming
  | driver
  | connection
  | stream
  | queue
  | publisher
  | persistent
  | stopEvent
  deriving DecidableEq

/-- The update loops of the library, the publish loops of the node, and all other threads. -/
inductive Kind where
  | caller
  | update
  | publish
  deriving DecidableEq

structure Thread where
  kind : Kind
  number : Nat
  deriving DecidableEq

abbrev Code : Type := Program Lock Kind

/-! ### The library -/

namespace Connection

/-- `__enter__` -/
def enter : Code := .within .connection .act

/-- `_close_socket`, under the lock -/
def closeSocket : Code := .either .skip (.seq .act (.within .persistent .act))

/-- `__exit__` -/
def exit : Code := .within .connection (.either .skip closeSocket)

/-- `open` -/
def openUp : Code := enter.andThen (.either .skip (.within .persistent .act))

def close : Code := .within .connection (.seq (.within .persistent .act) (.seq closeSocket .act))

/-- The `with` block of a request. -/
def exchange : Code := enter.andThen (.seq .act exit)

end Connection

namespace Stream

/-- `__enter__` -/
def enter : Code := .within .stream .act

/-- `__exit__` -/
def exit : Code := .within .stream .act

def isOpen : Code := .within .stream .act

def read : Code := .seq isOpen (.either .skip .act)

end Stream

namespace FTDataBuffer

def put : Code := .seq (.within .queue .act) .act

def clear : Code := .seq (.within .queue .act) .act

/-- `Queue.get` gives the mutex up while it waits for a packet. -/
def takePacket : Code := .loop (.within .queue .act)

def get : Code := .either .act (takePacket.andThen .act)

def getSampleBatch : Code := takePacket.andThen .act

end FTDataBuffer

namespace Driver

def getParameter : Code := .within .driver Connection.exchange

def setParameter : Code := Connection.exchange

def configureOutputRate : Code := setParameter

/-- The commands, and the two selections, take no lock. -/
def runCommand : Code := .act

def sample : Code := .either .skip FTDataBuffer.get

def sampleBatch : Code := .either .skip FTDataBuffer.getSampleBatch

def clearSamples : Code := FTDataBuffer.clear

def getStatus : Code := .either .skip (sample.andThen .act)

/-- After the start of the thread. -/
def handshake : Code :=
  .seq (.loop Stream.isOpen) (.either .skip (getParameter.andThen (getParameter.andThen
    (configureOutputRate.andThen (.either Connection.close runCommand)))))

def streamingOn : Code :=
  .within .streaming (.either .skip (Connection.openUp.andThen (.seq .act handshake)))

def streamingOff : Code :=
  .within .streaming (runCommand.andThen
    (.seq .act (.seq (.either .skip (.join .update)) Connection.close)))

/-- The part of an attempt that holds `_lock`. -/
def restart : Code :=
  .within .driver (configureOutputRate.andThen
    (.either Connection.close (runCommand.andThen (.either .skip Connection.close))))

/-- A failure closes the connection, inside or outside of the inner block. -/
def attemptReconnect : Code :=
  .seq Connection.close (.seq
    (Connection.openUp.andThen (.seq restart (.either .skip Connection.close)))
    (.either .skip Connection.close))

/-- A pass without packets. -/
def missPass : Code :=
  .either .skip (.seq (.either .skip Connection.close) (.either .skip attemptReconnect))

/-- `_update` -/
def update : Code :=
  .seq Stream.enter (.seq
    (.loop (.seq Stream.read (.either missPass (.loop FTDataBuffer.put))))
    Stream.exit)

end Driver

/-! ### The node -/

namespace Node

def getStatusLevel : Code := Driver.getStatus

def onConfigure : Code := Driver.streamingOn.andThen getStatusLevel

def onActivate : Code := .seq (.within .stopEvent .act) (.seq Driver.clearSamples .act)

def onDeactivate : Code :=
  .seq (.within .stopEvent .act) (.seq (.either .skip (.join .publish)) (.within .publisher .act))

def onCleanup : Code := Driver.streamingOff

/-- `_publish_data`; a raised exception ends it as a set event does. -/
def publishData : Code :=
  .loop (.seq Driver.sampleBatch (.either .act (.seq (.within .publisher .act) .act)))

/-- The callbacks of the services wait for what the methods they call wait for. -/
def callbacks : List Code := [Driver.runCommand, Driver.setParameter]

end Node

/-- What a thread may call that is no loop. -/
def calls : List Code :=
  [Driver.streamingOn, Driver.streamingOff, Driver.sample, Driver.sampleBatch, Driver.clearSamples,
    Driver.getParameter, Driver.setParameter, Driver.runCommand, Driver.getStatus,
    Node.onConfigure, Node.onActivate, Node.onDeactivate, Node.onCleanup] ++ Node.callbacks

/-- What the threads run. -/
def Meant : Action Lock Kind Thread → Prop
  | .call thread program =>
      match thread.kind with
      | .caller => program ∈ calls
      | .update => program = Driver.update
      | .publish => program = Node.publishData
  | .step _ _ _ => True

/-- `streaming_off` joins the update loop under `_streaming_lock`; all that the loop takes ranks below
both. `on_deactivate` joins the publish loop with no lock in its hands. -/
def ranks : Ranks Lock Kind Thread where
  rank
    | .streaming => 5
    | .driver => 3
    | .connection => 2
    | _ => 1
  level
    | .caller => 7
    | .publish => 6
    | .update => 4
  kind := Thread.kind

theorem calls_ordered : ∀ program ∈ calls, Ordered ranks 7 program := by
  intro program member
  simp only [calls, Node.callbacks, List.mem_append, List.mem_cons, List.not_mem_nil, or_false] at member
  rcases member with (rfl | rfl | rfl | rfl | rfl | rfl | rfl | rfl | rfl | rfl | rfl | rfl | rfl) |
    rfl | rfl
  all_goals decide

theorem update_ordered : Ordered ranks 4 Driver.update := by decide

theorem publishData_ordered : Ordered ranks 6 Node.publishData := by decide

theorem meant_allowed (action : Action Lock Kind Thread) (meant : Meant action) :
    Allowed ranks action := by
  cases action with
  | step thread first target => trivial
  | call thread program =>
    rcases thread with ⟨kind, number⟩
    cases kind with
    | caller => exact calls_ordered program meant
    | update => exact meant ▸ update_ordered
    | publish => exact meant ▸ publishData_ordered

/-- Whatever the threads call and however they are interleaved, a thread that has to wait waits, over
others if need be, for one that can go on, and does so in its next step. -/
theorem waits_lead_on (actions : List (Action Lock Kind Thread))
    (meant : ∀ action ∈ actions, Meant action) (thread : Thread)
    (running : Running (Run.run (step Thread.kind) (start Lock Kind Thread) actions) thread) :
    let s := Run.run (step Thread.kind) (start Lock Kind Thread) actions
    ∃ other, Relation.ReflTransGen (WaitsFor s) thread other ∧ CanGo s other ∧
      ∀ target, (step Thread.kind s (.step other false target)).own other ≠ s.own other := by
  intro s
  have sound : Sound ranks s :=
    Run.run_invariant (step Thread.kind) (fun _ action => Meant action) (Sound ranks)
      (fun s action sound meant => sound_step ranks s action sound (meant_allowed action meant))
      actions _ (sound_start ranks) (Run.allMeet_of_forall _ Meant actions _ meant)
  obtain ⟨other, path, goes⟩ := leads_on ranks sound thread running
  exact ⟨other, path, goes, fun target => canGo_moves Thread.kind s other target goes⟩

/-- An update loop is at work, `streaming_off` waits for its end, and `streaming_on` for both. -/
def restarted : List (Action Lock Kind Thread) :=
  [.call ⟨.update, 0⟩ Driver.update, .call ⟨.caller, 0⟩ Driver.streamingOff] ++
    List.replicate 9 (.step ⟨.caller, 0⟩ false ⟨.update, 0⟩) ++
    [.call ⟨.caller, 1⟩ Driver.streamingOn]

theorem restarted_leads_on :
    let s := Run.run (step Thread.kind) (start Lock Kind Thread) restarted
    ∃ other, Relation.ReflTransGen (WaitsFor s) ⟨.caller, 1⟩ other ∧ CanGo s other ∧
      ∀ target, (step Thread.kind s (.step other false target)).own other ≠ s.own other := by
  apply waits_lead_on restarted
  · intro action member
    simp only [restarted, List.mem_append, List.mem_cons, List.not_mem_nil, or_false,
      List.mem_replicate] at member
    rcases member with ((rfl | rfl) | ⟨_, rfl⟩) | rfl
    · rfl
    · simp [Meant, calls]
    · trivial
    · simp [Meant, calls]
  · exact List.cons_ne_nil _ _

example : WaitsFor (Run.run (step Thread.kind) (start Lock Kind Thread) restarted) ⟨.caller, 1⟩
    ⟨.caller, 0⟩ ∧
    WaitsFor (Run.run (step Thread.kind) (start Lock Kind Thread) restarted) ⟨.caller, 0⟩
      ⟨.update, 0⟩ := by
  refine ⟨rfl, rfl, ?_⟩
  decide

end SchunkFts.Whole.Waiting
