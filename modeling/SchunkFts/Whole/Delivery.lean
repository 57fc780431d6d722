import SchunkFts.Foundation.Fair
import SchunkFts.Whole.DataPath

/-! What becomes of a packet that has reached the socket, as long as the driver streams and both
loops get their turns again and again. -/

namespace SchunkFts.Whole.Delivery
open SchunkFts.Foundation.Struct SchunkFts.Foundation.Fair SchunkFts.Library.Packet
open SchunkFts.Library.DataBuffer SchunkFts.Library.UpdateLoop
open SchunkFts.Dummy.OutputRate SchunkFts.Dummy.UdpStream
open SchunkFts.Node SchunkFts.Node.PublishLoop SchunkFts.Node.Conservation DataPath
open SchunkFts.Node.Loops hiding Action

/-- The driver streams from a bound socket that accepts the sensor's address. -/
structure Streams (address : String) (receiver : System) : Prop where
  streaming : receiver.driver.isStreaming = true
  reconnects : receiver.driver.autoReconnect = true
  listens : receiver.driver.stream.isOpen = true
  accepts : receiver.driver.stream.acceptsSource address = true

def IsUpdate : Action → Prop
  | .update _ _ _ => True
  | _ => False

def IsPass : Action → Prop
  | .publish _ _ => True
  | _ => False

/-- Refused for lack of room, suppressed for its status, or published. -/
def Settled (s : Pipeline) (number : Nat) : Prop :=
  number ∈ s.places.refused ∨ number ∈ s.places.suppressed ∨ number ∈ s.places.published

/-- The update loop is at its condition or has packets in its hand. -/
def Running (phase : Phase) : Prop := phase = .waiting ∨ ∃ packet rest, phase = .putting packet rest

structure Live (config : Config) (dropped : Nat) (s : Pipeline) : Prop
    extends Sound config dropped s where
  streams : Streams s.address s.receiver
  running : Running s.receiver.update.phase

theorem running_update (receiver : System) (input : PassInput)
    (on : receiver.driver.isStreaming = true) (running : Running receiver.update.phase) :
    Running (updateStep receiver.driver receiver.update input).2.phase := by
  rcases running with here | ⟨packet, rest, here⟩
  · rcases reading : receiver.driver.stream.read input.arrived with ⟨stream, packets⟩
    simp only [updateStep, here, readPackets, reading]
    rw [if_pos (.inl on)]
    cases packets with
    | nil =>
      left
      simp only [missPackets]
      split_ifs <;> exact here
    | cons packet rest => exact .inr ⟨packet, rest, rfl⟩
  · simp only [updateStep, here]
    rw [(putPacket_spec receiver.driver receiver.update packet rest).2.2.2]
    cases rest with
    | nil => exact .inl rfl
    | cons next others => exact .inr ⟨next, others, rfl⟩

theorem streams_update (address : String) (config : Config) (receiver : System) (input : PassInput)
    (streams : Streams address receiver) :
    Streams address (receiver.step config (.update input)) := by
  obtain ⟨reconnects, streaming⟩ :=
    updateStep_streaming receiver.driver receiver.update input streams.reconnects
  obtain ⟨source, opened⟩ := updateStep_stream receiver.driver receiver.update input
  exact ⟨streaming.trans streams.streaming, reconnects, opened.trans streams.listens,
    (acceptsSource_of_sourceIp _ _ address source).trans streams.accepts⟩

theorem streams_publish (address : String) (config : Config) (receiver : System) (clock : Clock)
    (now : Int) (streams : Streams address receiver) :
    Streams address (receiver.publish config clock now) := by
  obtain ⟨streaming, reconnects⟩ := publish_switches config receiver clock now
  obtain ⟨stream, _⟩ := publish_stream config receiver clock now
  refine ⟨streaming.trans streams.streaming, reconnects.trans streams.reconnects, ?_, ?_⟩
  · rw [stream]
    exact streams.listens
  · rw [stream]
    exact streams.accepts

theorem live_step (config : Config) (dropped : Nat) (s : Pipeline) (action : Action)
    (live : Live config dropped s) : Live config dropped (s.step config action) := by
  have sound := sound_step config dropped s action live.toSound
  refine { sound with streams := ?_, running := ?_ }
  · cases action with
    | update now reconnected reconnectedAt =>
      exact streams_update s.address config s.receiver _ live.streams
    | publish clock now => exact streams_publish s.address config s.receiver clock now live.streams
    | lose position =>
      simp only [Pipeline.step]
      split <;> exact live.streams
    | arrive position =>
      simp only [Pipeline.step, Pipeline.land]
      split
      · split_ifs <;> exact live.streams
      · exact live.streams
    | _ => exact live.streams
  · cases action with
    | update now reconnected reconnectedAt =>
      exact running_update s.receiver _ live.streams.streaming live.running
    | publish clock now =>
      have same := (publish_stream config s.receiver clock now).2
      simp only [Pipeline.step, System.step, same]
      exact live.running
    | lose position =>
      simp only [Pipeline.step]
      split <;> exact live.running
    | arrive position =>
      simp only [Pipeline.step, Pipeline.land]
      split
      · split_ifs <;> exact live.running
      · exact live.running
    | _ => exact live.running

/-! ### Up to the put -/

/-- How far the update loop is from putting the packet at that place among the arrivals: the puts
before it, and the read if it is still in the socket. -/
def putRank (place : Nat) (s : Pipeline) : Nat :=
  (place + 1 - s.log.arrivals.length) +
    if place + s.unread.length < s.arrived.length then 0 else 1

structure Unput (config : Config) (dropped place number : Nat) (s : Pipeline) : Prop
    extends Live config dropped s where
  here : s.arrived[place]? = some number
  before : s.log.arrivals.length ≤ place

structure Put (config : Config) (dropped place number : Nat) (s : Pipeline) : Prop
    extends Live config dropped s where
  here : s.arrived[place]? = some number
  done : place < s.log.arrivals.length

/-- What has arrived keeps its place. -/
theorem arrived_step (config : Config) (s : Pipeline) (action : Action) :
    ∃ later, (s.step config action).arrived = s.arrived ++ later := by
  cases action with
  | lose position =>
    simp only [Pipeline.step]
    split <;> exact ⟨[], (List.append_nil _).symm⟩
  | arrive position =>
    simp only [Pipeline.step, Pipeline.land]
    split
    next number _ =>
      split_ifs
      · exact ⟨[number], rfl⟩
      · exact ⟨[], (List.append_nil _).symm⟩
    next => exact ⟨[], (List.append_nil _).symm⟩
  | _ => exact ⟨[], (List.append_nil _).symm⟩

theorem arrived_here (config : Config) (s : Pipeline) (action : Action) (place number : Nat)
    (here : s.arrived[place]? = some number) :
    (s.step config action).arrived[place]? = some number := by
  obtain ⟨later, grown⟩ := arrived_step config s action
  rw [grown, List.getElem?_append_left (List.getElem?_eq_some_iff.mp here).1]
  exact here

/-- Only the update loop moves packets towards their put. -/
theorem putRank_idle (config : Config) (s : Pipeline) (action : Action) (other : ¬IsUpdate action)
    (place : Nat) :
    (s.step config action).log.arrivals = s.log.arrivals ∧
      putRank place (s.step config action) = putRank place s := by
  cases action with
  | update now reconnected reconnectedAt => exact absurd trivial other
  | lose position =>
    simp only [Pipeline.step]
    split <;> exact ⟨rfl, rfl⟩
  | arrive position =>
    simp only [Pipeline.step, Pipeline.land]
    split
    · split_ifs
      · refine ⟨rfl, ?_⟩
        simp only [putRank, List.length_append, List.length_singleton]
        congr 1
        split_ifs <;> omega
      · exact ⟨rfl, rfl⟩
    · exact ⟨rfl, rfl⟩
  | publish clock now =>
    have same : (s.step config (.publish clock now)).log.arrivals = s.log.arrivals := by
      simp only [Pipeline.step, Log.step]
      split_ifs <;> rfl
    refine ⟨same, ?_⟩
    rw [putRank, same]
    rfl
  | _ => exact ⟨rfl, rfl⟩

/-- A step of the update loop reads the socket or puts one packet. -/
theorem putRank_update (config : Config) (dropped place number : Nat) (s : Pipeline)
    (unput : Unput config dropped place number s) (now : Int) (reconnected : Bool)
    (reconnectedAt : Int) :
    putRank place (s.step config (.update now reconnected reconnectedAt)) < putRank place s := by
  obtain ⟨arrived, log, hand⟩ := unput.numbered
  have inside := (List.getElem?_eq_some_iff.mp unput.here).1
  have before := unput.before
  have puts : s.log.arrivals.length = s.numbered.length := by
    rw [log, logOf, List.length_map]
  have count := congrArg List.length arrived
  simp only [List.length_append, List.length_map] at count
  rcases unput.running with waiting | ⟨packet, rest, here⟩
  · have reading : reads s.receiver = true := by
      simp [reads, waiting, unput.streams.streaming, unput.streams.listens]
    rw [waiting] at hand
    have none_held : s.held = [] := List.map_eq_nil_iff.mp hand.symm
    rw [none_held, List.length_nil] at count
    have still : (s.log.step s.receiver
        (.update (s.input now reconnected reconnectedAt))).arrivals = s.log.arrivals := by
      simp only [Log.step, waiting]
    simp only [putRank, Pipeline.step, still, reading, if_true, List.length_nil]
    rw [if_pos (by omega), if_neg (by omega)]
    omega
  · have idle : reads s.receiver = false := by simp only [reads, here]
    rw [here] at hand
    have long : ¬packet.length < 4 := by
      have accepted : Accepts packet := by
        have decodable := unput.agrees.phase
        rw [here] at decodable
        exact decodable packet List.mem_cons_self
      have least := accepted.length_le
      omega
    have grown : (s.log.step s.receiver
        (.update (s.input now reconnected reconnectedAt))).arrivals.length =
          s.log.arrivals.length + 1 := by
      simp only [Log.step, here, if_neg long, List.length_append, List.length_singleton]
    simp only [putRank, Pipeline.step, grown, idle]
    simp only [Bool.false_eq_true, if_false]
    omega

theorem put_of_step {config : Config} {dropped place number : Nat} {s : Pipeline}
    (unput : Unput config dropped place number s) (action : Action) :
    Put config dropped place number (s.step config action) ∨
      Unput config dropped place number (s.step config action) := by
  have live := live_step config dropped s action unput.toLive
  have here := arrived_here config s action place number unput.here
  rcases Nat.lt_or_ge place (s.step config action).log.arrivals.length with done | before
  · exact .inl { live with here := here, done := done }
  · exact .inr { live with here := here, before := before }

/-- What has reached the socket is put. -/
theorem puts (config : Config) (dropped place number : Nat) (s : Pipeline)
    (schedule : Nat → Action) (updates : ∀ n, ∃ m, n ≤ m ∧ IsUpdate (schedule m)) (start : Nat)
    (unput : Unput config dropped place number (trace (Pipeline.step config) s schedule start)) :
    Reaches (trace (Pipeline.step config) s schedule) (Unput config dropped place number)
      (Put config dropped place number) start := by
  apply fair_reaches (Pipeline.step config) s schedule _ _ (putRank place) IsUpdate updates
  · intro t action unput
    refine (put_of_step unput action).imp_right (fun still => ⟨still, ?_⟩)
    by_cases update : IsUpdate action
    · cases action with
      | update now reconnected reconnectedAt =>
        exact (putRank_update config dropped place number t unput now reconnected reconnectedAt).le
      | _ => exact update.elim
    · exact (putRank_idle config t action update place).2.le
  · intro t action unput update
    right
    cases action with
    | update now reconnected reconnectedAt =>
      exact putRank_update config dropped place number t unput now reconnected reconnectedAt
    | _ => exact update.elim
  · exact unput

/-! ### From the put to the end -/

/-- Among the stored packets, the index of the one at that place among the arrivals. -/
def storedIndex (place : Nat) (s : Pipeline) : Nat :=
  ((s.log.arrivals.take place).filter (fun arrival => arrival.2)).length

/-- Refused, or stored and consumed. -/
structure Ended (config : Config) (dropped place number : Nat) (s : Pipeline) : Prop
    extends Put config dropped place number s where
  ended : (∃ packet, s.log.arrivals[place]? = some (packet, false)) ∨
    ∃ packet, s.log.arrivals[place]? = some (packet, true) ∧ storedIndex place s < s.log.taken

/-- Stored, and still in the queue. -/
structure Queued (config : Config) (dropped place number : Nat) (s : Pipeline) : Prop
    extends Put config dropped place number s where
  stored : ∃ packet, s.log.arrivals[place]? = some (packet, true)
  waits : s.log.taken ≤ storedIndex place s

/-- The log only grows. -/
theorem log_step (config : Config) (s : Pipeline) (action : Action) :
    (∃ later, (s.step config action).log.arrivals = s.log.arrivals ++ later) ∧
      s.log.taken ≤ (s.step config action).log.taken := by
  cases action with
  | update now reconnected reconnectedAt =>
    simp only [Pipeline.step, Log.step]
    split
    · split_ifs
      · exact ⟨⟨[], (List.append_nil _).symm⟩, Nat.le_refl _⟩
      · exact ⟨⟨_, rfl⟩, Nat.le_refl _⟩
    · exact ⟨⟨[], (List.append_nil _).symm⟩, Nat.le_refl _⟩
  | publish clock now =>
    simp only [Pipeline.step, Log.step]
    split_ifs
    · exact ⟨⟨[], (List.append_nil _).symm⟩, Nat.le_succ _⟩
    · exact ⟨⟨[], (List.append_nil _).symm⟩, Nat.le_refl _⟩
  | lose position =>
    simp only [Pipeline.step]
    split <;> exact ⟨⟨[], (List.append_nil _).symm⟩, Nat.le_refl _⟩
  | arrive position =>
    simp only [Pipeline.step, Pipeline.land]
    split
    · split_ifs <;> exact ⟨⟨[], (List.append_nil _).symm⟩, Nat.le_refl _⟩
    · exact ⟨⟨[], (List.append_nil _).symm⟩, Nat.le_refl _⟩
  | _ => exact ⟨⟨[], (List.append_nil _).symm⟩, Nat.le_refl _⟩

theorem storedIndex_step (config : Config) (s : Pipeline) (action : Action) (place : Nat)
    (done : place < s.log.arrivals.length) :
    storedIndex place (s.step config action) = storedIndex place s ∧
      (s.step config action).log.arrivals[place]? = s.log.arrivals[place]? := by
  obtain ⟨⟨later, grown⟩, _⟩ := log_step config s action
  constructor
  · rw [storedIndex, storedIndex, grown, List.take_append_of_le_length done.le]
  · rw [grown, List.getElem?_append_left done]

theorem put_step {config : Config} {dropped place number : Nat} {s : Pipeline}
    (put : Put config dropped place number s) (action : Action) :
    Put config dropped place number (s.step config action) := by
  obtain ⟨⟨later, grown⟩, _⟩ := log_step config s action
  refine { live_step config dropped s action put.toLive with
    here := arrived_here config s action place number put.here, done := ?_ }
  have done := put.done
  rw [grown, List.length_append]
  omega

/-- A packet that has been put is at an end, or in the queue. -/
theorem ended_or_queued {config : Config} {dropped place number : Nat} {s : Pipeline}
    (put : Put config dropped place number s) :
    Ended config dropped place number s ∨ Queued config dropped place number s := by
  rcases found : s.log.arrivals[place]? with _ | ⟨packet, stored⟩
  · rw [List.getElem?_eq_none_iff] at found
    have done := put.done
    omega
  · cases stored with
    | false => exact .inl { put with ended := .inl ⟨packet, found⟩ }
    | true =>
      rcases Nat.lt_or_ge (storedIndex place s) s.log.taken with consumed | waits
      · exact .inl { put with ended := .inr ⟨packet, found, consumed⟩ }
      · exact .inr { put with stored := ⟨packet, found⟩, waits := waits }

/-- An element kept by a filter comes after those kept before it. -/
theorem getElem?_filter {α : Type} (list : List (α × Bool)) (place : Nat) (item : α)
    (found : list[place]? = some (item, true)) :
    (list.filter (fun entry => entry.2))[((list.take place).filter (fun entry => entry.2)).length]? =
      some (item, true) := by
  obtain ⟨inside, same⟩ := List.getElem?_eq_some_iff.mp found
  have split : list.filter (fun entry => entry.2) =
      (list.take place).filter (fun entry => entry.2) ++
        (item, true) :: (list.drop (place + 1)).filter (fun entry => entry.2) := by
    conv_lhs => rw [← List.take_append_drop place list, List.drop_eq_getElem_cons inside, same]
    rw [List.filter_append, List.filter_cons_of_pos rfl]
  rw [split, List.getElem?_append_right (Nat.le_refl _), Nat.sub_self, List.getElem?_cons_zero]

/-- As long as it is in the queue, a pass takes a packet. -/
theorem queued_pass (config : Config) (dropped place number : Nat) (s : Pipeline)
    (queued : Queued config dropped place number s) (clock : Clock) (now : Int) :
    (s.step config (.publish clock now)).log.taken = s.log.taken + 1 := by
  obtain ⟨packet, stored⟩ := queued.stored
  have present : s.receiver.buffer.queue.items ≠ [] := by
    have entry := getElem?_filter s.log.arrivals place packet stored
    have inside := (List.getElem?_eq_some_iff.mp entry).1
    have waits := queued.waits
    rw [queued.agrees.stored.items, Log.accepted, ne_eq, List.drop_eq_nil_iff, List.length_map]
    change _ < _ at inside
    rw [storedIndex] at waits
    omega
  simp only [Pipeline.step, Log.step]
  rw [if_pos ⟨queued.agrees.alive, queued.streams.streaming, present⟩]

theorem ends (config : Config) (dropped place number : Nat) (s : Pipeline)
    (schedule : Nat → Action) (passes : ∀ n, ∃ m, n ≤ m ∧ IsPass (schedule m)) (start : Nat)
    (queued : Queued config dropped place number (trace (Pipeline.step config) s schedule start)) :
    Reaches (trace (Pipeline.step config) s schedule) (Queued config dropped place number)
      (Ended config dropped place number) start := by
  apply fair_reaches (Pipeline.step config) s schedule _ _
    (fun t => storedIndex place t + 1 - t.log.taken) IsPass passes
  · intro t action queued
    obtain ⟨same, _⟩ := storedIndex_step config t action place queued.done
    have grown := (log_step config t action).2
    refine (ended_or_queued (put_step queued.toPut action)).imp_right (fun still => ⟨still, ?_⟩)
    rw [same]
    omega
  · intro t action queued pass
    obtain ⟨same, _⟩ := storedIndex_step config t action place queued.done
    have waits := queued.waits
    right
    cases action with
    | publish clock now =>
      rw [same, queued_pass config dropped place number t queued clock now]
      omega
    | _ => exact pass.elim
  · exact queued

/-- What is at an end is settled. -/
theorem settled_of_ended {config : Config} {dropped place number : Nat} {s : Pipeline}
    (ended : Ended config dropped place number s) : Settled s number := by
  obtain ⟨arrived, log, _⟩ := ended.numbered
  have puts : s.log.arrivals = s.numbered.map (fun arrival => (s.data arrival.1, arrival.2)) := by
    conv_lhs => rw [log]
    rfl
  have done := ended.done
  rw [puts, List.length_map] at done
  have name : s.numbered[place].1 = number := by
    have here := ended.here
    rw [arrived, List.append_assoc, List.getElem?_append_left (by rw [List.length_map]; exact done),
      List.getElem?_map, List.getElem?_eq_getElem done] at here
    exact Option.some.inj here
  have flag (packet : Bytes) (stored : Bool)
      (found : s.log.arrivals[place]? = some (packet, stored)) :
      s.numbered[place]? = some (number, stored) := by
    rw [puts, List.getElem?_map, List.getElem?_eq_getElem done] at found
    rw [List.getElem?_eq_getElem done]
    have second := congrArg Prod.snd (Option.some.inj found)
    exact congrArg some (Prod.ext name second)
  rcases ended.ended with ⟨packet, found⟩ | ⟨packet, found, consumed⟩
  · left
    have entry := List.mem_of_getElem? (flag packet false found)
    exact List.mem_map.mpr ⟨(number, false), List.mem_filter.mpr ⟨entry, rfl⟩, rfl⟩
  · right
    have entry := getElem?_filter s.numbered place number (flag packet true found)
    have index : storedIndex place s =
        ((s.numbered.take place).filter (fun arrival => arrival.2)).length := by
      rw [storedIndex, puts, ← List.map_take, List.filter_map, List.length_map]
      rfl
    have taken : (((s.numbered.filter (fun arrival => arrival.2)).map Prod.fst).take
        s.log.taken)[storedIndex place s]? = some number := by
      rw [List.getElem?_take_of_lt consumed, index, List.getElem?_map, entry]
      rfl
    have member := List.mem_of_getElem? taken
    by_cases good : s.level number = .ok
    · exact .inr (List.mem_filter.mpr ⟨member, decide_eq_true good⟩)
    · exact .inl (List.mem_filter.mpr ⟨member, decide_eq_true good⟩)

/-- What has reached the socket is settled in the end. -/
theorem arrived_settles (config : Config) (dropped : Nat) (s : Pipeline)
    (initial : Live config dropped s) (schedule : Nat → Action)
    (updates : ∀ n, ∃ m, n ≤ m ∧ IsUpdate (schedule m))
    (passes : ∀ n, ∃ m, n ≤ m ∧ IsPass (schedule m)) (start number : Nat)
    (arrived : number ∈ (trace (Pipeline.step config) s schedule start).arrived) :
    ∃ finish, start ≤ finish ∧ Settled (trace (Pipeline.step config) s schedule finish) number := by
  have live : ∀ n, Live config dropped (trace (Pipeline.step config) s schedule n) := by
    intro n
    induction n with
    | zero => exact initial
    | succ n ih => exact live_step config _ _ (schedule n) ih
  obtain ⟨place, inside, same⟩ := List.mem_iff_getElem.mp arrived
  have here : (trace (Pipeline.step config) s schedule start).arrived[place]? = some number := by
    rw [List.getElem?_eq_getElem inside, same]
  have after_put (middle : Nat) (later : start ≤ middle)
      (put : Put config dropped place number (trace (Pipeline.step config) s schedule middle)) :
      ∃ finish, start ≤ finish ∧
        Settled (trace (Pipeline.step config) s schedule finish) number := by
    rcases ended_or_queued put with ended | queued
    · exact ⟨middle, later, settled_of_ended ended⟩
    · obtain ⟨finish, last, ended, _⟩ := ends config _ place number _ schedule passes middle queued
      exact ⟨finish, by omega, settled_of_ended ended⟩
  rcases Nat.lt_or_ge place
    (trace (Pipeline.step config) s schedule start).log.arrivals.length with done | before
  · exact after_put start (Nat.le_refl _) { live start with here := here, done := done }
  · obtain ⟨middle, later, put, _⟩ := puts config _ place number _ schedule updates start
      { live start with here := here, before := before }
    exact after_put middle later.le put

theorem live_start (config : Config) (address : String) (sensor : StreamState)
    (rate : OutputRateState) (receiver : System) (now : Int) (streams : Streams address receiver)
    (waiting : receiver.update.phase = .waiting) :
    Live config receiver.buffer.droppedPacketCount
      (Pipeline.start address sensor rate (receiver.activate now)) := by
  have sound := sound_start config address sensor rate receiver now streams.accepts
    (by rw [waiting]; rfl)
  exact { sound with
    streams := ⟨streams.streaming, streams.reconnects, streams.listens, streams.accepts⟩
    running := .inl waiting }

/-- Under every schedule in which both loops get their turns again and again, every packet that has
reached the socket is refused, suppressed or published in the end. -/
theorem packets_settle (config : Config) (address : String) (sensor : StreamState)
    (rate : OutputRateState) (receiver : System) (now : Int) (streams : Streams address receiver)
    (waiting : receiver.update.phase = .waiting) (schedule : Nat → Action)
    (updates : ∀ n, ∃ m, n ≤ m ∧ IsUpdate (schedule m))
    (passes : ∀ n, ∃ m, n ≤ m ∧ IsPass (schedule m)) (start number : Nat) :
    let states := trace (Pipeline.step config)
      (Pipeline.start address sensor rate (receiver.activate now)) schedule
    number ∈ (states start).arrived → ∃ finish, start ≤ finish ∧ Settled (states finish) number := by
  intro states arrived
  exact arrived_settles config _ _ (live_start config address sensor rate receiver now streams waiting)
    schedule updates passes start number arrived

/-- The sensor, the network and the two loops in turn. -/
def inTurn (n : Nat) : Action :=
  if n % 4 = 0 then .emit (fun _ => { wrench := noForce })
  else if n % 4 = 1 then .arrive 0
  else if n % 4 = 2 then .update 0 false 0
  else .publish { ros := 0, monotonic := 0 } 0

theorem first_packet_settles :
    let states := trace (Pipeline.step StampOrder.steadyConfig)
      (Pipeline.start "192.168.0.100" {} .new (Survival.freshSystem.activate 0)) inTurn
    ∃ finish, 2 ≤ finish ∧ Settled (states finish) 0 := by
  apply packets_settle StampOrder.steadyConfig "192.168.0.100" {} .new Survival.freshSystem 0
    ⟨rfl, rfl, rfl, by decide⟩ rfl inTurn
  · exact fun n => ⟨4 * n + 2, by omega, by simp [inTurn, IsUpdate, Nat.add_mod]⟩
  · exact fun n => ⟨4 * n + 3, by omega, by simp [inTurn, IsPass, Nat.add_mod]⟩
  · decide

end SchunkFts.Whole.Delivery
