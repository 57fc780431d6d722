import SchunkFts.Node.Loops
import SchunkFts.Node.StampOrder

/-! Which datagrams the two loops survive: one that is long enough for the producer's check and yet
undecodable ends the publish loop once it has been stored. -/

namespace SchunkFts.Node.Survival
open SchunkFts.Foundation.Struct SchunkFts.Foundation.Queue SchunkFts.Foundation.Run
open SchunkFts.Library.Packet
open SchunkFts.Library.DataBuffer SchunkFts.Library.UpdateLoop PublishLoop Loops StampOrder

/-- A put of a packet that is passed over, can be decoded, or is refused. -/
def Meets (s : System) : Action → Prop
  | .update _ => ∀ packet rest, s.update.phase = .putting packet rest →
      packet.length < 4 ∨ Accepts packet ∨ s.buffer.queue.Full
  | .publish _ _ => True

/-- Further passes of the publish loop. -/
def passes (config : Config) (s : System) (turns : List (Clock × Int)) : System :=
  Foundation.Run.run (fun s turn => s.publish config turn.1 turn.2) s turns

/-- Both loops are running, and the next packet in the queue will be consumed and handled. -/
structure Survives (config : Config) (s : System) : Prop where
  update : ∀ error, s.update.phase ≠ .raised error
  publish : s.publishRaised = none
  processes : ∀ clock now packet rest, s.buffer.queue.items = packet :: rest →
    ∃ first others, decodeSampleBatch packet = .ok (first :: others) ∧
      (s.publish config clock now).buffer.queue.items = rest ∧
      (s.publish config clock now).node = (handleSamples config clock true s.node first others).1 ∧
      (s.publish config clock now).effects =
        s.effects ++ (handleSamples config clock true s.node first others).2

/-- Streaming, with the reconnection that the node asks for. -/
structure On (s : System) : Prop where
  streaming : s.driver.isStreaming = true
  reconnects : s.driver.autoReconnect = true

/-- After `on_activate`, while the sensor streams. -/
structure Started (s : System) : Prop extends On s where
  running : ∀ error, s.update.phase ≠ .raised error
  alive : s.publishRaised = none
  empty : s.buffer.queue.items = []

/-- The invariant of good runs: only decodable packets are stored. -/
structure Sound (s : System) : Prop extends On s where
  update : ∀ error, s.update.phase ≠ .raised error
  publish : s.publishRaised = none
  stored : ∀ packet ∈ s.buffer.queue.items, Accepts packet

/-- The publish loop has ended or is going to. -/
structure Broken (s : System) : Prop extends On s where
  ends : s.publishRaised ≠ none ∨ ∃ packet ∈ s.buffer.queue.items, ¬Accepts packet

theorem Started.sound {s : System} (started : Started s) : Sound s where
  toOn := started.toOn
  update := started.running
  publish := started.alive
  stored := by
    rw [started.empty]
    exact fun packet member => absurd member List.not_mem_nil

theorem On.update {s : System} (on : On s) (config : Config) (input : PassInput) :
    On (s.step config (.update input)) := by
  obtain ⟨reconnects, streaming⟩ := updateStep_streaming s.driver s.update input on.reconnects
  exact ⟨streaming.trans on.streaming, reconnects⟩

theorem On.frame {s t : System} (on : On s) (frame : Frame s t) : On t :=
  ⟨frame.streaming.trans on.streaming, frame.reconnect.trans on.reconnects⟩

/-- What an update step does to the queue. -/
theorem update_items (config : Config) (s : System) (input : PassInput) :
    (s.step config (.update input)).buffer.queue.items = s.buffer.queue.items ∨
      ∃ packet rest, s.update.phase = .putting packet rest ∧ 4 ≤ packet.length ∧
        ¬s.buffer.queue.Full ∧ (s.step config (.update input)).buffer.queue.items =
          s.buffer.queue.items ++ [packet] := by
  by_cases no_put : ∀ packet rest, s.update.phase ≠ .putting packet rest
  · left
    exact congrArg (fun buffer : FTDataBuffer => buffer.queue.items)
      (updateStep_read s.driver s.update input no_put)
  · push Not at no_put
    obtain ⟨packet, rest, here⟩ := no_put
    have step : (s.step config (.update input)).buffer =
        if packet.length < 4 then s.buffer else s.buffer.put packet := by
      have put := (putPacket_spec s.driver s.update packet rest).1
      simpa only [System.step, updateStep, here] using put
    by_cases short : packet.length < 4
    · rw [if_pos short] at step
      exact .inl (congrArg (fun buffer : FTDataBuffer => buffer.queue.items) step)
    · rw [if_neg short] at step
      by_cases full : s.buffer.queue.Full
      · left
        rw [step, s.buffer.put_full packet full]
      · obtain ⟨queue, items, _, put⟩ := s.buffer.put_room packet full
        refine .inr ⟨packet, rest, here, by omega, full, ?_⟩
        rw [step, put]
        exact items

theorem sound_step (config : Config) (s : System) (action : Action) (sound : Sound s)
    (meets : Meets s action) : Sound (s.step config action) := by
  cases action with
  | update input =>
    refine ⟨sound.toOn.update config input,
      updateStep_not_raised s.driver s.update input sound.update, sound.publish, ?_⟩
    rcases update_items config s input with same | ⟨packet, rest, here, long, room, grown⟩
    · rw [same]
      exact sound.stored
    · intro other member
      rw [grown] at member
      rcases List.mem_append.mp member with old | new
      · exact sound.stored other old
      · rw [List.mem_singleton.mp new]
        rcases meets packet rest here with short | accepted | full
        · omega
        · exact accepted
        · exact absurd full room
  | publish clock now =>
    show Sound (s.publish config clock now)
    cases content : s.buffer.queue.items with
    | nil =>
      obtain ⟨frame, alive, queue, _⟩ := publish_idle config s clock now sound.publish (.inr content)
      refine ⟨sound.toOn.frame frame, ?_, alive, ?_⟩
      · rw [frame.update]
        exact sound.update
      · rw [queue]
        exact sound.stored
    | cons packet rest =>
      have stored := sound.stored
      rw [content] at stored
      obtain ⟨_, _, _, frame, alive, items, _, _⟩ := publish_accepted config s clock now
        sound.publish sound.streaming packet rest content (stored packet List.mem_cons_self)
      refine ⟨sound.toOn.frame frame, ?_, alive, ?_⟩
      · rw [frame.update]
        exact sound.update
      · rw [items]
        exact fun other member => stored other (List.mem_cons_of_mem _ member)

theorem Sound.survives {s : System} (sound : Sound s) (config : Config) : Survives config s where
  update := sound.update
  publish := sound.publish
  processes := by
    intro clock now packet rest content
    have accepted : Accepts packet := by
      apply sound.stored
      rw [content]
      exact List.mem_cons_self
    obtain ⟨first, others, decoded, _, _, items, node, effects⟩ := publish_accepted config s clock
      now sound.publish sound.streaming packet rest content accepted
    exact ⟨first, others, decoded, items, node, effects⟩

/-! ### A bad packet in the queue -/

theorem On.publish {s : System} (on : On s) (config : Config) (clock : Clock) (now : Int) :
    On (s.publish config clock now) := by
  obtain ⟨streaming, reconnects⟩ := publish_switches config s clock now
  exact ⟨streaming.trans on.streaming, reconnects.trans on.reconnects⟩

/-- A pass ends on the bad packet, has ended, or brings it one place closer. -/
theorem broken_publish (config : Config) (s : System) (broken : Broken s) (clock : Clock)
    (now : Int) :
    Broken (s.publish config clock now) ∧
      ((s.publish config clock now).publishRaised ≠ none ∨
        (s.publish config clock now).buffer.queue.items.length < s.buffer.queue.items.length) := by
  have on := broken.toOn.publish config clock now
  by_cases alive : s.publishRaised = none
  · rcases broken.ends with raised | ⟨bad, member, rejected⟩
    · exact absurd alive raised
    · cases content : s.buffer.queue.items with
      | nil =>
        rw [content] at member
        cases member
      | cons packet rest =>
        by_cases accepted : Accepts packet
        · obtain ⟨_, _, _, frame, _, items, _, _⟩ := publish_accepted config s clock now alive
            broken.streaming packet rest content accepted
          rw [content] at member
          refine ⟨⟨on, .inr ⟨bad, ?_, rejected⟩⟩, .inr ?_⟩
          · rw [items]
            rcases List.mem_cons.mp member with same | later
            · rw [same] at rejected
              exact absurd accepted rejected
            · exact later
          · rw [items]
            exact Nat.lt_succ_self rest.length
        · have ended := publish_rejected config s clock now alive broken.streaming packet rest
            content accepted
          exact ⟨⟨on, .inl ended⟩, .inl ended⟩
  · rw [publish_raised config s clock now alive]
    exact ⟨broken, .inl alive⟩

theorem broken_step (config : Config) (s : System) (action : Action) (broken : Broken s) :
    Broken (s.step config action) := by
  cases action with
  | update input =>
    refine ⟨broken.toOn.update config input, ?_⟩
    rcases broken.ends with raised | ⟨bad, member, rejected⟩
    · exact .inl raised
    · refine .inr ⟨bad, ?_, rejected⟩
      rcases update_items config s input with same | ⟨packet, rest, _, _, _, grown⟩
      · rwa [same]
      · rw [grown]
        exact List.mem_append_left _ member
  | publish clock now => exact (broken_publish config s broken clock now).1

/-- The put of an undecodable packet into a queue with room. -/
theorem broken_of_not_meets (config : Config) (s : System) (action : Action) (on : On s)
    (bad : ¬Meets s action) : Broken (s.step config action) := by
  cases action with
  | publish clock now => exact absurd trivial bad
  | update input =>
    simp only [Meets, not_forall, not_or] at bad
    obtain ⟨packet, rest, here, long, rejected, room⟩ := bad
    refine ⟨on.update config input, .inr ⟨packet, ?_, rejected⟩⟩
    have put := (putPacket_spec s.driver s.update packet rest).1
    obtain ⟨queue, items, _, stored⟩ := s.buffer.put_room packet room
    rw [if_neg long, stored] at put
    show packet ∈ (updateStep s.driver s.update input).1.ftData.queue.items
    simp only [updateStep, here, put, items]
    exact List.mem_append_right _ List.mem_cons_self

theorem on_step (config : Config) (s : System) (action : Action) (on : On s) :
    On (s.step config action) := by
  cases action with
  | update input => exact on.update config input
  | publish clock now => exact on.publish config clock now

/-- Enough further passes reach the bad packet. -/
theorem broken_ends (config : Config) (s : System) (broken : Broken s) :
    ∃ turns, (passes config s turns).publishRaised ≠ none := by
  generalize size : s.buffer.queue.items.length = count
  induction count using Nat.strongRecOn generalizing s with
  | ind count ih =>
    let clock : Clock := { ros := 0, monotonic := 0 }
    obtain ⟨still, ended | shorter⟩ := broken_publish config s broken clock 0
    · exact ⟨[(clock, 0)], ended⟩
    · rw [size] at shorter
      obtain ⟨turns, ended⟩ := ih _ shorter _ still rfl
      exact ⟨(clock, 0) :: turns, ended⟩

/-- Both loops go on through a run, and through all that it leaves to be consumed, exactly if no
undecodable datagram of at least four bytes is put while there is room. -/
theorem loops_survive_iff (config : Config) (s : System) (started : Started s)
    (actions : List Action) :
    (∀ turns, Survives config (passes config (s.run config actions) turns)) ↔
      AllMeet (System.step config) Meets s actions := by
  constructor
  · intro survives
    by_contra bad
    have broken : Broken (s.run config actions) := run_violation (System.step config) Meets On Broken
      (on_step config) (broken_step config) (broken_of_not_meets config) actions s started.toOn bad
    obtain ⟨turns, ended⟩ := broken_ends config _ broken
    exact ended (survives turns).publish
  · intro meet turns
    have sound : Sound (s.run config actions) := run_invariant (System.step config) Meets Sound
      (sound_step config) actions s started.sound meet
    have later : Sound (passes config (s.run config actions) turns) :=
      run_always _ Sound (fun s turn sound => sound_step config s (.publish turn.1 turn.2) sound trivial)
        turns _ sound
    exact later.survives config

/-! ### A datagram of four bytes -/

def freshSystem : System where
  driver := {
    stream := {
      sourceIp := none, isOpen := true, acceptedPacketCount := 0, ignoredPacketCount := 0
      sourceAddresses := [] }
    ftData := .new 1000 0
    isStreaming := true
    autoReconnect := true
    receivedData := false
    timeout := 100000000
    producerPacketCount := 0
    lastProducerCounter := -1 }
  update := { phase := .waiting, lastPacketTime := 0, connectionLost := false }
  node := steadyNode.activate
  publishRaised := none
  effects := []

theorem freshSystem_started : Started freshSystem where
  streaming := rfl
  reconnects := rfl
  running := fun _ wrong => by cases wrong
  alive := rfl
  empty := rfl

/-- A header without a payload, and a good packet after it. -/
def shortDatagram : List Action :=
  let input (arrived : List Datagram) : PassInput :=
    { arrived := arrived, now := 0, reconnected := false, reconnectedAt := 0 }
  [.update (input [⟨"192.168.0.100", [0xff, 0xff, 0, 0]⟩, ⟨"192.168.0.100", steadyPacket 1⟩]),
    .update (input []), .update (input []),
    .publish { ros := 0, monotonic := 0 } 0, .publish { ros := 0, monotonic := 0 } 0]

theorem shortDatagram_iff :
    (∀ turns, Survives steadyConfig (passes steadyConfig
      (freshSystem.run steadyConfig shortDatagram) turns)) ↔
      AllMeet (System.step steadyConfig) Meets freshSystem shortDatagram :=
  loops_survive_iff steadyConfig freshSystem freshSystem_started shortDatagram

/-- The publish loop ends on the header and never comes to the good packet. -/
theorem shortDatagram_ends_loop :
    Started freshSystem ∧
      (freshSystem.run steadyConfig shortDatagram).publishRaised = some .structError ∧
      (freshSystem.run steadyConfig shortDatagram).buffer.queue.items = [steadyPacket 1] :=
  ⟨freshSystem_started, rfl, rfl⟩

end SchunkFts.Node.Survival
