import SchunkFts.Whole.ActiveNode
import SchunkFts.Whole.Delivery

/-! What becomes, in the active node, of a packet that has reached the socket. The update loop may
lose the connection and try to reconnect again and again, with success or without. -/

namespace SchunkFts.Whole.ActiveDelivery
open SchunkFts.Foundation SchunkFts.Foundation.Fair SchunkFts.Foundation.Simulation
open SchunkFts.Library.DataBuffer SchunkFts.Library.UpdateLoop SchunkFts.Library.Streaming
open SchunkFts.Library.LoopSteps (stagesLeft stagesLeft_falls)
open SchunkFts.Dummy.OutputRate SchunkFts.Dummy.UdpStream
open SchunkFts.Node SchunkFts.Node.PublishLoop DataPath ActiveNode

/-- A step of the update loop with that index. -/
def OwnStep (index : Nat) : ActiveNode.Action → Prop
  | .node (.loop other _) => other = index
  | _ => False

def IsPass : ActiveNode.Action → Prop
  | .node (.publish _ _) => True
  | _ => False

/-- There is no datagram at this position. -/
def idle (t : Pipeline) : DataPath.Action := .lose t.flight.length

theorem idle_still (config : Config) (t : Pipeline) : t.step config (idle t) = t := by
  have beyond : t.flight[t.flight.length]? = none := List.getElem?_eq_none (Nat.le_refl _)
  simp only [idle, Pipeline.step, beyond]

theorem events_single (s : Plant) (action : ActiveNode.Action) : (events s action).length ≤ 1 := by
  cases action with
  | node action =>
    cases action with
    | loop index input =>
      simp only [events]
      split
      · split <;> simp
      · simp
    | _ => simp [events]
  | _ => simp [events]

/-! ### The update loop at work -/

/-- The loops change in their own steps only. -/
theorem loops_node {config : Config} {node : Lifecycle.Driver} {receiver : Loops.System}
    (follows : Follows config node receiver) (index : Nat) (action : Lifecycle.Action)
    (stays : Stays (.node action)) (other : ¬OwnStep index (.node action)) :
    (node.step action).sensor.loops[index]? = node.sensor.loops[index]? := by
  have phase := follows.phase
  cases action with
  | configure => simp [Lifecycle.Driver.step, phase]
  | activate now => simp [Lifecycle.Driver.step, phase]
  | deactivate => exact stays.elim
  | cleanup => simp [Lifecycle.Driver.step, phase]
  | shutdown => exact stays.elim
  | recover success => simp [Lifecycle.Driver.step, phase]
  | callback now => simp [Lifecycle.Driver.step, Lifecycle.Driver.callback, phase]
  | main input =>
    simp [Lifecycle.Driver.step, System.step,
      HeldResources.mainStep_ended node.sensor input follows.quiet]
  | loop stepping input =>
    simp only [Lifecycle.Driver.step, System.step, System.stepLoop]
    split
    · exact List.getElem?_set_ne other
    · rfl
  | arrive datagram => exact stays.elim
  | publish clock now =>
    simp only [Lifecycle.Driver.step, Lifecycle.Driver.publish]
    split
    · rfl
    · split_ifs
      · rfl
      · split <;> rfl
  | accept request =>
    simp only [Lifecycle.Driver.step, Lifecycle.Driver.accept]
    split_ifs <;> rfl
  | serve position outcome =>
    simp only [Lifecycle.Driver.step, Lifecycle.Driver.serve]
    split <;> rfl

theorem loops_kept {config : Config} {s : Plant} {t : Pipeline} (stands : Stands config s t)
    (index : Nat) (action : ActiveNode.Action) (stays : Stays action)
    (other : ¬OwnStep index action) :
    (s.step action).node.sensor.loops[index]? = s.node.sensor.loops[index]? := by
  cases action with
  | node action => exact loops_node stands.follows index action stays other
  | lose position =>
    simp only [Plant.step]
    split <;> rfl
  | arrive position =>
    simp only [Plant.step, Plant.land]
    split
    · split_ifs <;> rfl
    · rfl
  | _ => rfl

/-- The loop with that index is the one that runs. -/
structure AtWork (config : Config) (index : Nat) (s : Plant) (t : Pipeline) : Prop
    extends Stands config s t where
  alive : ∃ loop, s.node.sensor.loops[index]? = some loop ∧ loop.phase ≠ .finished

theorem AtWork.shown {config : Config} {index : Nat} {s : Plant} {t : Pipeline}
    (atWork : AtWork config index s t) (loop : Loop)
    (found : s.node.sensor.loops[index]? = some loop) :
    shown loop.phase = some t.receiver.update.phase := by
  obtain ⟨current, present, alive⟩ := atWork.alive
  have same : current = loop := Option.some.inj (present.symm.trans found)
  obtain ⟨running, other, runs, inStep, rest⟩ := atWork.follows.loop
  by_cases mine : index = running
  · rw [mine] at found
    rw [Option.some.inj (found.symm.trans runs)]
    exact inStep
  · exact absurd (rest index loop found mine) (same ▸ alive)

theorem OwnStep.loop {index : Nat} {action : ActiveNode.Action} (own : OwnStep index action) :
    ∃ input, action = .node (.loop index input) := by
  cases action with
  | node action =>
    cases action with
    | loop other input => exact ⟨input, by rw [show other = index from own]⟩
    | _ => exact own.elim
  | _ => exact own.elim

theorem ownStep_loops (s : Plant) (index : Nat) (input : LoopInput) (loop : Loop)
    (found : s.node.sensor.loops[index]? = some loop) :
    (s.step (.node (.loop index input))).node.sensor.loops =
      s.node.sensor.loops.set index (loopStep s.node.sensor.driver loop input).2 := by
  simp only [Plant.step, Lifecycle.Driver.step, System.step, System.stepLoop, found]

/-- It stays the one that runs. -/
theorem atWork_step (config : Config) (index : Nat) (s : Plant) (t : Pipeline)
    (action : ActiveNode.Action) (atWork : AtWork config index s t) (stays : Stays action) :
    AtWork config index (s.step action) (Run.run (Pipeline.step config) t (events s action)) := by
  refine { stands_step config s t action atWork.toStands stays with alive := ?_ }
  obtain ⟨loop, found, alive⟩ := atWork.alive
  by_cases own : OwnStep index action
  · obtain ⟨input, rfl⟩ := own.loop
    have stands := stands_step config s t _ atWork.toStands stays
    obtain ⟨running, next, runs, inStep, _⟩ := stands.follows.loop
    have unfinished : next.phase ≠ .finished := by
      intro ended
      rw [ended] at inStep
      cases inStep
    by_cases mine : running = index
    · exact ⟨next, mine ▸ runs, unfinished⟩
    · rw [ownStep_loops s index input loop found, List.getElem?_set_ne (Ne.symm mine)] at runs
      obtain ⟨before, _, _, _, rest⟩ := atWork.follows.loop
      have first : index = before := by
        by_contra different
        exact alive (rest index loop found different)
      exact absurd (rest running next runs (first ▸ mine)) unfinished
  · exact ⟨loop, (loops_kept atWork.toStands index action stays own).trans found, alive⟩

/-! ### The schedule of the data path -/

/-- A step of the loop at its condition, or with packets in its hand, is one of the data path. -/
theorem ownStep_event (s : Plant) (index : Nat) (action : ActiveNode.Action) (loop : Loop)
    (own : OwnStep index action) (found : s.node.sensor.loops[index]? = some loop)
    (inStep : shown loop.phase ≠ none) (done : stagesLeft loop.phase = 0) :
    ∃ event, events s action = [event] ∧ Delivery.IsUpdate event := by
  obtain ⟨input, rfl⟩ := own.loop
  simp only [events, found]
  cases here : loop.phase with
  | waiting => exact ⟨_, rfl, trivial⟩
  | putting packet rest => exact ⟨_, rfl, trivial⟩
  | entering =>
    rw [here] at inStep
    exact absurd rfl inStep
  | finished =>
    rw [here] at inStep
    exact absurd rfl inStep
  | _ =>
    rw [here] at done
    cases done

section
variable (config : Config) (index : Nat) (s : Plant) (t : Pipeline)
  (schedule : Nat → ActiveNode.Action)

/-- The data path beside the run of the node. -/
def path : Nat → Pipeline := beside Plant.step events (Pipeline.step config) s t schedule

def pathSchedule : Nat → DataPath.Action :=
  matching Plant.step events (Pipeline.step config) s t schedule idle

variable {config index s t schedule}

theorem atWork_path (initial : AtWork config index s t) (stays : ∀ n, Stays (schedule n)) (n : Nat) :
    AtWork config index (trace Plant.step s schedule n) (path config s t schedule n) :=
  stands_beside Plant.step events (Pipeline.step config) s t schedule (AtWork config index)
    (fun _ action => Stays action)
    (fun s t action atWork stays => atWork_step config index s t action atWork stays) initial
    stays n

/-- Between two of its steps the loop is where it was. -/
theorem loop_waits (initial : AtWork config index s t) (stays : ∀ n, Stays (schedule n))
    (first count : Nat) (others : ∀ n, first ≤ n → n < first + count → ¬OwnStep index (schedule n)) :
    (trace Plant.step s schedule (first + count)).node.sensor.loops[index]? =
      (trace Plant.step s schedule first).node.sensor.loops[index]? := by
  induction count with
  | zero => rfl
  | succ count ih =>
    have kept := loops_kept (atWork_path initial stays (first + count)).toStands index
      (schedule (first + count)) (stays _) (others _ (by omega) (by omega))
    exact kept.trans (ih (fun n low high => others n low (by omega)))

/-- From every attempt to reconnect the loop comes back to the data. -/
theorem updates_recur (initial : AtWork config index s t) (stays : ∀ n, Stays (schedule n))
    (turns : ∀ n, ∃ m, n ≤ m ∧ OwnStep index (schedule m)) (n : Nat) :
    ∃ m, n ≤ m ∧ Delivery.IsUpdate (pathSchedule config s t schedule m) := by
  obtain ⟨loop, found, unused⟩ := (atWork_path initial stays n).alive
  clear unused
  generalize left : stagesLeft loop.phase = count
  induction count using Nat.strongRecOn generalizing n loop with
  | _ count ih =>
    classical
    -- the first of its steps from here on
    obtain ⟨ahead, own, before⟩ : ∃ ahead, OwnStep index (schedule (n + ahead)) ∧
        ∀ earlier < ahead, ¬OwnStep index (schedule (n + earlier)) := by
      have some_step : ∃ ahead, OwnStep index (schedule (n + ahead)) := by
        obtain ⟨m, later, own⟩ := turns n
        exact ⟨m - n, by rwa [Nat.add_sub_cancel' later]⟩
      exact ⟨Nat.find some_step, Nat.find_spec some_step,
        fun earlier small => Nat.find_min some_step small⟩
    have here : (trace Plant.step s schedule (n + ahead)).node.sensor.loops[index]? = some loop := by
      refine (loop_waits initial stays n ahead (fun m low high => ?_)).trans found
      have place : n + (m - n) = m := by omega
      exact place ▸ before (m - n) (by omega)
    have atWork := atWork_path initial stays (n + ahead)
    rcases Nat.eq_zero_or_pos count with done | attempting
    · obtain ⟨event, only, update⟩ := ownStep_event _ index _ loop own here
        (by rw [atWork.shown loop here]; simp) (left.trans done)
      refine ⟨n + ahead, by omega, ?_⟩
      rw [pathSchedule, matching, only]
      exact update
    · obtain ⟨input, step⟩ := own.loop
      have next : (trace Plant.step s schedule (n + ahead + 1)).node.sensor.loops[index]? =
          some (loopStep (trace Plant.step s schedule (n + ahead)).node.sensor.driver loop
            input).2 := by
        rw [trace, step, ownStep_loops _ index input loop here]
        exact List.getElem?_set_self (List.getElem?_eq_some_iff.mp here).1
      have falls := stagesLeft_falls (trace Plant.step s schedule (n + ahead)).node.sensor.driver
        loop input (left ▸ attempting)
      obtain ⟨m, later, update⟩ := ih _ (left ▸ falls) (n + ahead + 1) _ next rfl
      exact ⟨m, by omega, update⟩

theorem passes_recur (passes : ∀ n, ∃ m, n ≤ m ∧ IsPass (schedule m)) (n : Nat) :
    ∃ m, n ≤ m ∧ Delivery.IsPass (pathSchedule config s t schedule m) := by
  obtain ⟨m, later, pass⟩ := passes n
  refine ⟨m, later, ?_⟩
  rw [pathSchedule, matching]
  cases step : schedule m with
  | node action =>
    rw [step] at pass
    cases action with
    | publish clock now => exact trivial
    | _ => exact pass.elim
  | _ =>
    rw [step] at pass
    exact pass.elim

/-- The data path beside the node runs by that schedule. -/
theorem path_trace (n : Nat) :
    trace (Pipeline.step config) t (pathSchedule config s t schedule) n =
      path config s t schedule n :=
  trace_matching Plant.step events (Pipeline.step config) s t schedule idle (idle_still config)
    events_single n

theorem live_path (dropped : Nat) (live : Delivery.Live config dropped t) (n : Nat) :
    Delivery.Live config dropped (path config s t schedule n) := by
  rw [← path_trace]
  induction n with
  | zero => exact live
  | succ n ih => exact Delivery.live_step config _ _ _ ih

/-- What is settled beside the node is settled in it. -/
theorem path_settles (dropped : Nat) (initial : AtWork config index s t)
    (live : Delivery.Live config dropped t) (stays : ∀ n, Stays (schedule n))
    (turns : ∀ n, ∃ m, n ≤ m ∧ OwnStep index (schedule m))
    (passes : ∀ n, ∃ m, n ≤ m ∧ IsPass (schedule m)) (start number : Nat)
    (sent : number < (trace Plant.step s schedule start).sent.length)
    (landed : number ∉ (trace Plant.step s schedule start).flight)
    (kept : number ∉ (trace Plant.step s schedule start).lost) :
    ∃ finish, start ≤ finish ∧ ∃ unread places,
      Books config dropped (trace Plant.step s schedule finish) unread places ∧
        (number ∈ places.refused ∨ number ∈ places.suppressed ∨ number ∈ places.published) := by
  have atWork (n : Nat) := atWork_path initial stays n
  have lives (n : Nat) : Delivery.Live config dropped (path config s t schedule n) :=
    live_path dropped live n
  have arrived : number ∈ (path config s t schedule start).arrived := by
    have listed := (lives start).places.mem_iff.mpr
      (List.mem_range.mpr ((atWork start).sent ▸ sent))
    rw [(atWork start).flight, (atWork start).lost, List.append_assoc, List.mem_append,
      List.mem_append] at listed
    exact (listed.resolve_left landed).resolve_left kept
  rw [← path_trace] at arrived
  obtain ⟨finish, later, settled⟩ := Delivery.arrived_settles config dropped t live _
    (updates_recur initial stays turns) (passes_recur passes) start number arrived
  rw [path_trace] at settled
  exact ⟨finish, later, _, _, (atWork finish).books (Sound.accounted (lives finish).toSound), settled⟩

end

/-! ### Every packet -/

/-- As long as the node is active and both its loops get their turns again and again, every packet that
has reached the socket is refused, suppressed or published in the end. -/
theorem active_packets_settle (address : String) (sensor : StreamState) (rate : OutputRateState)
    (node : Lifecycle.Driver) (now : Int) (ready : Ready address node)
    (listens : node.sensor.driver.stream.isOpen = true) (index : Nat) (loop : Loop)
    (runs : node.sensor.loops[index]? = some loop) (alive : loop.phase ≠ .finished)
    (schedule : Nat → ActiveNode.Action) (stays : ∀ n, Stays (schedule n))
    (turns : ∀ n, ∃ m, n ≤ m ∧ OwnStep index (schedule m))
    (passes : ∀ n, ∃ m, n ≤ m ∧ IsPass (schedule m)) (start number : Nat) :
    let states := trace Plant.step (.start address sensor rate (node.step (.activate now))) schedule
    number < (states start).sent.length → number ∉ (states start).flight →
      number ∉ (states start).lost → ∃ finish, start ≤ finish ∧ ∃ unread places,
        Books (activeConfig node) node.sensor.driver.ftData.droppedPacketCount (states finish)
          unread places ∧
        (number ∈ places.refused ∨ number ∈ places.suppressed ∨ number ∈ places.published) := by
  intro states sent landed kept
  have active : node.step (.activate now) = node.activate now := if_pos ready.phase
  have found : (node.step (.activate now)).sensor.loops[index]? = some loop := by
    rw [active]
    exact runs
  have stands := stands_start address sensor rate node now ready
  have live := Delivery.live_start (activeConfig node) address sensor rate (receiverOf node) now
    ⟨ready.streaming, ready.reconnects, listens, ready.accepts⟩ rfl
  exact path_settles _ { stands with alive := ⟨loop, found, alive⟩ } live stays turns passes start
    number sent landed kept

/-- The sensor, the network and the two loops in turn, but so slowly that the update loop misses the
stream before each packet. -/
def slowly (n : Nat) : ActiveNode.Action :=
  if n % 4 = 0 then .emit (fun _ => { wrench := noForce })
  else if n % 4 = 1 then .arrive 0
  else if n % 4 = 2 then .node (.loop 0 { now := 1000000000 * n })
  else .node (.publish ⟨0, 0⟩ 0)

theorem first_packet_delivered :
    let states := trace Plant.step
      (.start "192.168.0.100" {} .new (configured.step (.activate 0))) slowly
    ∃ finish, 2 ≤ finish ∧ ∃ unread places,
      Books (activeConfig configured) configured.sensor.driver.ftData.droppedPacketCount
        (states finish) unread places ∧
      (0 ∈ places.refused ∨ 0 ∈ places.suppressed ∨ 0 ∈ places.published) := by
  apply active_packets_settle "192.168.0.100" {} .new configured 0 configured_ready (by decide) 0
    { phase := .waiting, lastPacketTime := 0, connectionLost := false } (by decide) (by decide) slowly
  · intro n
    unfold slowly
    split_ifs <;> exact trivial
  · exact fun n => ⟨4 * n + 2, by omega, by simp [slowly, OwnStep, Nat.add_mod]⟩
  · exact fun n => ⟨4 * n + 3, by omega, by simp [slowly, IsPass, Nat.add_mod]⟩
  · decide
  · decide
  · decide

end SchunkFts.Whole.ActiveDelivery
