import SchunkFts.Foundation.Run
import SchunkFts.Library.LoopSteps

/-! Whether the control connection is open while the driver streams undisturbed. The loop closes it
when it notices an outage; it takes the outage to be over after a successful attempt to reconnect,
but also when datagrams arrive again, and that opens nothing. -/

namespace SchunkFts.Library.OpenWhileStreaming
open SchunkFts.Foundation.Struct SchunkFts.Foundation.Run
open Control ControlCalls Reconnect Streaming LoopSteps

/-- After a successful call: at the end of an iteration the connection is open, if the driver streams
and the loop knows of no outage. -/
def StaysOpen (s : System) : Prop :=
  s.call = .returnedOn true → ∀ loop, s.loops.getLast? = some loop → loop.phase = .waiting →
    s.driver.isStreaming = true → loop.connectionLost = false →
      s.driver.channel.connection.isOpen = true

/-- Since the output rate was accepted. -/
def started : CallPhase → Bool
  | .startingStream => true
  | .returnedOn result => result
  | _ => false

/-- A pass that finds packets during an outage has an open connection, and no `receive` of a command
fails once the loop relies on the connection. -/
def Meets (s : System) : Action → Prop
  | .loop index _ => ∀ loop, s.loops[index]? = some loop → loop.phase = .waiting →
      loop.connectionLost = true → found s.driver ≠ [] →
        s.driver.channel.connection.isOpen = true
  | .command _ outcome => ∀ loop, s.loops.getLast? = some loop → started s.call = true →
      loop.connectionLost = false ∨ loop.phase = .stabilizing → outcome.received ≠ none
  | _ => True

/-- No call of `streaming_on` or `streaming_off` begins. -/
def NoCall : Action → Prop
  | .streamingOn _ _ => False
  | .streamingOff => False
  | _ => True

/-- What the loop knows of the connection, before and after the output rate is accepted. -/
structure Tracks (accepted : Bool) (driver : SensorDriver) (loop : Loop) : Prop where
  kept : driver.channel.connection.isOpen = true → driver.channel.connection.persistent = true
  connected : loop.connectionLost = false → driver.channel.connection.persistent = true ∧
    (accepted = true → driver.channel.connection.isOpen = true)
  stable : loop.phase = .stabilizing → driver.channel.connection.persistent = true ∧
    (accepted = true → driver.channel.connection.isOpen = true)
  outage : loop.phase = .sleeping ∨ loop.phase = .reopening ∨ loop.phase = .restarting ∨
    loop.phase = .stabilizing → loop.connectionLost = true
  unaware : loop.phase = .entering → loop.connectionLost = false

/-- The same connection, and a loop outside an attempt that has not changed its mind. -/
theorem Tracks.calm {accepted : Bool} {driver after : SensorDriver} {loop next : Loop}
    (tracks : Tracks accepted driver loop) (same : after.channel = driver.channel)
    (lost : next.connectionLost = false → loop.connectionLost = false)
    (outside : next.phase = .waiting ∨ next.phase = .finished ∨
      ∃ packet rest, next.phase = .putting packet rest) : Tracks accepted after next where
  kept := same ▸ tracks.kept
  connected known := same ▸ tracks.connected (lost known)
  stable here := by rcases outside with out | out | ⟨_, _, out⟩ <;> rw [out] at here <;> cases here
  outage here := by rcases outside with out | out | ⟨_, _, out⟩ <;> rw [out] at here <;> simp at here
  unaware here := by rcases outside with out | out | ⟨_, _, out⟩ <;> rw [out] at here <;> cases here

/-- A loop that knows of the outage relies on nothing. -/
theorem Tracks.lost {accepted : Bool} {after : SensorDriver} {next : Loop}
    (kept : after.channel.connection.isOpen = true → after.channel.connection.persistent = true)
    (lost : next.connectionLost = true) (entered : next.phase ≠ .entering)
    (unstable : next.phase ≠ .stabilizing) : Tracks accepted after next where
  kept := kept
  connected known := by rw [lost] at known; cases known
  stable here := absurd here unstable
  outage _ := lost
  unaware here := absurd here entered

theorem afterPut_outside (rest : List Bytes) :
    afterPut rest = .waiting ∨ afterPut rest = .finished ∨
      ∃ packet later, afterPut rest = .putting packet later := by
  cases rest with
  | nil => exact .inl rfl
  | cons packet later => exact .inr (.inr ⟨packet, later, rfl⟩)

theorem new_kept : Connection.new.isOpen = true → Connection.new.persistent = true := nofun

theorem tracks_loopStep {accepted : Bool} {driver : SensorDriver} {loop : Loop}
    (tracks : Tracks accepted driver loop) (input : LoopInput)
    (meets : loop.phase = .waiting → loop.connectionLost = true → found driver ≠ [] →
      driver.channel.connection.isOpen = true) :
    Tracks accepted (loopStep driver loop input).1 (loopStep driver loop input).2 := by
  have channelOf {after : SensorDriver} {streaming auto : Bool} {channel : Channel}
      (shared : control after = ⟨streaming, auto, channel⟩) : after.channel = channel :=
    (Control.mk.inj shared).2.2
  cases loopStep_moves driver loop input with
  | enter here same phase lost =>
    exact tracks.calm (channelOf same) (fun _ => tracks.unaware here) (.inl phase)
  | read packet rest here on packets same phase lost =>
    by_cases known : loop.connectionLost = false
    · exact tracks.calm (channelOf same) (fun _ => known) (.inr (.inr ⟨packet, rest, phase⟩))
    · have opened := meets here (Bool.eq_true_of_not_eq_false known) (by rw [packets]; exact nofun)
      have channel := channelOf same
      refine ⟨channel ▸ tracks.kept, fun _ => ?_, ?_, ?_, ?_⟩
      · rw [channel]
        exact ⟨tracks.kept opened, fun _ => opened⟩
      · rw [phase]; exact nofun
      · rw [phase]; simp
      · rw [phase]; exact nofun
  | wait here on same still =>
    have staying : (loopStep driver loop input).2.phase = .waiting := by rw [still, here]
    refine tracks.calm (channelOf same) (fun known => ?_) (.inl staying)
    rwa [still] at known
  | lose here before on closed phase lost =>
    have fresh : (loopStep driver loop input).1.channel.connection = .new := by
      rw [channelOf closed, Channel.close_connection]
    apply Tracks.lost (fresh ▸ new_kept) lost
    · rw [phase]; cases driver.autoReconnect <;> exact nofun
    · rw [phase]; cases driver.autoReconnect <;> exact nofun
  | miss here before on same phase lost =>
    apply Tracks.lost (channelOf same ▸ tracks.kept) lost
    · rw [phase]; cases driver.autoReconnect <;> exact nofun
    · rw [phase]; cases driver.autoReconnect <;> exact nofun
  | finish here off same phase lost =>
    exact tracks.calm (channelOf same) (fun known => lost ▸ known) (.inr (.inl phase))
  | put packet rest here same phase lost =>
    exact tracks.calm (channelOf same) (fun known => lost ▸ known) (phase ▸ afterPut_outside rest)
  | close here closed phase lost =>
    have fresh : (loopStep driver loop input).1.channel.connection = .new := by
      rw [channelOf closed, Channel.close_connection]
    apply Tracks.lost (fresh ▸ new_kept) (lost.trans (tracks.outage (.inl here)))
    · rw [phase]; exact nofun
    · rw [phase]; exact nofun
  | reopen opening here opened phase lost =>
    have spec := driver.channel.openUp_spec opening
    apply Tracks.lost _ (lost.trans (tracks.outage (.inr (.inl here))))
    · rw [phase]; split_ifs <;> exact nofun
    · rw [phase]; split_ifs <;> exact nofun
    · rw [channelOf opened, spec.1, spec.2]
      intro open_
      rw [open_, Bool.true_or]
  | restart attempt channel reconnected here settled restarted phase lost =>
    have outage := lost.trans (tracks.outage (.inr (.inr (.inl here))))
    cases reconnected with
    | false =>
      have fresh : (loopStep driver loop input).1.channel.connection = .new := by
        rw [channelOf restarted, settled.failure rfl]
      apply Tracks.lost (fresh ▸ new_kept) outage
      · rw [phase]; exact nofun
      · rw [phase]; exact nofun
    | true =>
      have success := settled.success rfl
      have same := channelOf restarted
      refine ⟨fun _ => ?_, ?_, fun _ => ?_, fun _ => outage, ?_⟩
      · rw [same]; exact success.persists
      · rw [outage]; exact nofun
      · rw [same]; exact ⟨success.persists, fun _ => success.opened⟩
      · rw [phase]; exact nofun
  | restore here same phase lost =>
    refine ⟨channelOf same ▸ tracks.kept, fun _ => channelOf same ▸ tracks.stable here, ?_, ?_, ?_⟩
    · rw [phase]; exact nofun
    · rw [phase]; simp
    · rw [phase]; exact nofun
  | rest here same still =>
    rw [same, still]
    exact tracks

/-! ### Commands -/

/-- What one use of the connection makes of it: it persists or not, as before; it is open after it
only if it persists; and it stays open if there was a reply. -/
structure Used (outcome : Outcome) (before after : Connection) : Prop where
  persistent : after.persistent = before.persistent
  kept : after.isOpen = true → before.persistent = true
  stays : before.isOpen = true → outcome.received ≠ none → after.isOpen = true

theorem Used.not {outcome : Outcome} {c : Connection} (kept : c.isOpen = true → c.persistent = true) :
    Used outcome c c := ⟨rfl, kept, fun opened _ => opened⟩

theorem parameterCall_used {α : Type} (channel : Channel) (outcome : Outcome)
    (frame : Result Bytes) (fromBytes : Bytes → Result α) (empty : α)
    (kept : channel.connection.isOpen = true → channel.connection.persistent = true) :
    Used outcome channel.connection
      (channel.parameterCall outcome frame fromBytes empty).1.connection := by
  obtain ⟨persistent, after⟩ := channel.parameterCall_connection outcome frame fromBytes empty kept
  refine ⟨persistent, after, fun opened answered => ?_⟩
  cases frame with
  | error error => exact opened
  | ok msg =>
    have same := channel.connection.enter_open outcome.opening opened
    rw [channel.parameterCall_ok, same, if_pos opened]
    simp [opened, kept opened, Option.isSome_iff_ne_none.mpr answered]

theorem commandCall_used (channel : Channel) (outcome : Outcome) (frame : Result Bytes)
    (kept : channel.connection.isOpen = true → channel.connection.persistent = true) :
    Used outcome channel.connection (channel.commandCall outcome frame).1.connection := by
  cases frame with
  | error error => exact .not kept
  | ok msg =>
    cases opened : channel.connection.isOpen with
    | false =>
      rw [channel.commandCall_closed outcome msg opened]
      exact .not kept
    | true =>
      rw [channel.commandCall_open outcome msg opened]
      refine ⟨by simp, fun _ => kept opened, fun _ answered => ?_⟩
      simp [opened, Option.isSome_iff_ne_none.mpr answered]

theorem getParameter_used (channel : Channel) (outcome : Outcome) (index subindex : String)
    (kept : channel.connection.isOpen = true → channel.connection.persistent = true) :
    Used outcome channel.connection
      (channel.getParameter outcome index subindex).1.connection :=
  parameterCall_used { channel with locked := true } outcome _ _ _ kept

theorem perform_used (channel : Channel) (outcome : Outcome) (command : Command)
    (kept : channel.connection.isOpen = true → channel.connection.persistent = true) :
    Used outcome channel.connection (command.perform channel outcome).connection := by
  have selected (id : String) (last argument : Int) :
      Used outcome channel.connection (channel.select outcome id last argument).1.connection := by
    unfold Channel.select
    split_ifs
    · exact commandCall_used channel outcome _ kept
    · exact .not kept
  cases command with
  | getParameter index subindex => exact getParameter_used channel outcome index subindex kept
  | setParameter value index subindex => exact parameterCall_used channel outcome _ _ _ kept
  | runCommand command => exact commandCall_used channel outcome _ kept
  | selectToolSetting toolIndex => exact selected "30" 3 toolIndex
  | selectNoiseFilter filterNumber => exact selected "31" 4 filterNumber

/-- The loop goes on relying on a connection that no use of it has marked closed. -/
theorem Tracks.use {accepted : Bool} {driver after : SensorDriver} {loop : Loop}
    (tracks : Tracks accepted driver loop) (outcome : Outcome)
    (used : Used outcome driver.channel.connection after.channel.connection)
    (answered : accepted = true → loop.connectionLost = false ∨ loop.phase = .stabilizing →
      outcome.received ≠ none) :
    Tracks accepted after loop where
  kept opened := used.persistent.trans (used.kept opened)
  connected known :=
    ⟨used.persistent.trans (tracks.connected known).1,
      fun yes => used.stays ((tracks.connected known).2 yes) (answered yes (.inl known))⟩
  stable here :=
    ⟨used.persistent.trans (tracks.stable here).1,
      fun yes => used.stays ((tracks.stable here).2 yes) (answered yes (.inr here))⟩
  outage := tracks.outage
  unaware := tracks.unaware

/-- The rate is accepted, and the connection is open exactly if it persists. -/
theorem Tracks.accept {driver after : SensorDriver} {loop : Loop}
    (tracks : Tracks false driver loop)
    (opened : after.channel.connection.isOpen = driver.channel.connection.persistent)
    (persistent : after.channel.connection.persistent = driver.channel.connection.persistent) :
    Tracks true after loop where
  kept isOpen := by
    rw [persistent, ← opened]
    exact isOpen
  connected known := by
    have persists := (tracks.connected known).1
    exact ⟨persistent.trans persists, fun _ => opened.trans persists⟩
  stable here := by
    have persists := (tracks.stable here).1
    exact ⟨persistent.trans persists, fun _ => opened.trans persists⟩
  outage := tracks.outage
  unaware := tracks.unaware

/-- Once the rate is accepted, a loop that relies on the connection finds it open. -/
theorem Tracks.opened {driver : SensorDriver} {loop : Loop} (tracks : Tracks true driver loop)
    (relies : loop.connectionLost = false ∨ loop.phase = .stabilizing) :
    driver.channel.connection.isOpen = true := by
  rcases relies with known | stable
  · exact (tracks.connected known).2 rfl
  · exact (tracks.stable stable).2 rfl

/-! ### The whole system -/

def Ended (loops : List Loop) : Prop := ∀ loop ∈ loops, loop.phase = .finished

/-- Only the last loop is left, and it knows about the connection what it should. -/
def Tracked (accepted : Bool) (s : System) : Prop :=
  ∃ earlier loop, s.loops = earlier ++ [loop] ∧ Ended earlier ∧ Tracks accepted s.driver loop

/-- The loop of the call has been started, and the call has not failed. -/
def spawned : CallPhase → Bool
  | .awaitingStream => true
  | .pausing => true
  | .readingName => true
  | .readingId => true
  | .configuring => true
  | call => started call

/-- From the call of `streaming_on` on. -/
structure Held (s : System) : Prop where
  before : ∀ autoReconnect, s.call = .opening autoReconnect → Ended s.loops
  opened : ∀ autoReconnect, s.call = .spawning autoReconnect →
    Ended s.loops ∧ s.driver.channel.connection.persistent = true
  running : spawned s.call = true → Tracked (started s.call) s

/-- A step of a loop that has ended changes nothing. -/
theorem stepLoop_ended (s : System) (index : Nat) (input : LoopInput)
    (ended : ∀ loop, s.loops[index]? = some loop → loop.phase = .finished) :
    s.stepLoop index input = s := by
  unfold System.stepLoop
  split
  next loop here =>
    have rest : loopStep s.driver loop input = (s.driver, loop) := by
      rw [loopStep, ended loop here]
    simp only [rest]
    have inside := List.getElem?_eq_some_iff.mp here
    obtain ⟨bound, same⟩ := inside
    rw [← same, List.set_getElem_self]
  next => rfl

/-- With the earlier loops at their end, only the step of the last one changes anything. -/
theorem stepLoop_last (s : System) (index : Nat) (input : LoopInput) (earlier : List Loop)
    (loop : Loop) (loops : s.loops = earlier ++ [loop]) (ended : Ended earlier) :
    s.stepLoop index input = s ∨ (s.loops[index]? = some loop ∧
      s.stepLoop index input = { s with
        driver := (loopStep s.driver loop input).1
        loops := earlier ++ [(loopStep s.driver loop input).2] }) := by
  rcases Nat.lt_trichotomy index earlier.length with before | here | beyond
  · left
    apply stepLoop_ended
    intro other there
    rw [loops, List.getElem?_append_left before] at there
    exact ended other (List.mem_of_getElem? there)
  · right
    have there : s.loops[index]? = some loop := by
      rw [loops, here, List.getElem?_append_right (Nat.le_refl _), Nat.sub_self]
      rfl
    refine ⟨there, ?_⟩
    simp only [System.stepLoop, there]
    rw [loops, here, List.set_append_right _ _ (Nat.le_refl _), Nat.sub_self]
    rfl
  · left
    apply stepLoop_ended
    intro other there
    have inside := (List.getElem?_eq_some_iff.mp there).1
    rw [loops, List.length_append, List.length_singleton] at inside
    omega

/-- Another driver under the same call and loops. -/
theorem Held.keep {s : System} (held : Held s) (driver : SensorDriver)
    (persistent : s.driver.channel.connection.persistent = true →
      driver.channel.connection.persistent = true)
    (tracks : ∀ loop, s.loops.getLast? = some loop → Tracks (started s.call) s.driver loop →
      Tracks (started s.call) driver loop) : Held { s with driver := driver } where
  before := held.before
  opened autoReconnect here := (held.opened autoReconnect here).imp_right persistent
  running inside := by
    obtain ⟨earlier, loop, loops, ended, known⟩ := held.running inside
    exact ⟨earlier, loop, loops, ended, tracks loop (by rw [loops, List.getLast?_concat]) known⟩

theorem held_same {s : System} (held : Held s) (driver : SensorDriver)
    (same : control driver = control s.driver) : Held { s with driver := driver } := by
  have channel := (Control.mk.inj same).2.2
  refine held.keep driver (fun persistent => channel ▸ persistent) (fun loop _ tracks => ?_)
  exact ⟨channel ▸ tracks.kept, channel ▸ tracks.connected, channel ▸ tracks.stable, tracks.outage,
    tracks.unaware⟩

theorem held_loop {s : System} (held : Held s) (index : Nat) (input : LoopInput)
    (meets : Meets s (.loop index input)) : Held (s.stepLoop index input) := by
  have idle (ended : Ended s.loops) : s.stepLoop index input = s :=
    stepLoop_ended s index input (fun loop there => ended loop (List.mem_of_getElem? there))
  have call : (s.stepLoop index input).call = s.call := by
    unfold System.stepLoop
    split <;> rfl
  refine ⟨fun autoReconnect here => ?_, fun autoReconnect here => ?_, fun inside => ?_⟩
  · rw [call] at here
    rw [idle (held.before autoReconnect here)]
    exact held.before autoReconnect here
  · rw [call] at here
    rw [idle (held.opened autoReconnect here).1]
    exact held.opened autoReconnect here
  · rw [call] at inside ⊢
    obtain ⟨earlier, loop, loops, ended, tracks⟩ := held.running inside
    rcases stepLoop_last s index input earlier loop loops ended with same | ⟨there, next⟩
    · rw [same]
      exact ⟨earlier, loop, loops, ended, tracks⟩
    · rw [next]
      exact ⟨earlier, _, rfl, ended, tracks_loopStep tracks input (meets loop there)⟩

theorem held_command {s : System} (held : Held s) (command : Command) (outcome : Outcome)
    (meets : Meets s (.command command outcome)) : Held (s.step (.command command outcome)) := by
  refine held.keep _ (fun persistent => ?_) (fun loop last tracks => ?_)
  · have used := perform_used s.driver.channel outcome command (fun _ => persistent)
    exact used.persistent.trans persistent
  · exact tracks.use outcome (perform_used s.driver.channel outcome command tracks.kept)
      (fun accepted relies => meets loop last accepted relies)

/-- A request of the call itself, before the output rate is accepted. -/
theorem Tracked.request {s : System} (known : Tracked false s) (driver : SensorDriver)
    (outcome : Outcome)
    (used : (s.driver.channel.connection.isOpen = true →
        s.driver.channel.connection.persistent = true) →
      Used outcome s.driver.channel.connection driver.channel.connection) (call : CallPhase) :
    Tracked false { s with driver := driver, call := call } := by
  obtain ⟨earlier, loop, loops, ended, tracks⟩ := known
  exact ⟨earlier, loop, loops, ended, tracks.use outcome (used tracks.kept) nofun⟩

/-- Without a reply the start command raises on an open connection. -/
theorem startUdpStream_received (channel : Channel) (outcome : Outcome)
    (response : Messages.CommandResponse) (opened : channel.connection.isOpen = true)
    (answered : (channel.startUdpStream outcome).2 = .ok response) : outcome.received ≠ none := by
  intro received
  have frame : Requests.commandFrame "40" = .ok [0xff, 0xff, 0, 0, 1, 0, 0x40] := by decide
  rw [Channel.startUdpStream, Channel.runCommand, frame, channel.commandCall_open outcome _ opened,
    received] at answered
  cases answered

/-- Where the loop of the call has not been started, or the call has failed. -/
theorem held_outside (s : System) (outside : spawned s.call = false)
    (settled : ∀ autoReconnect, s.call ≠ .opening autoReconnect ∧ s.call ≠ .spawning autoReconnect) :
    Held s where
  before autoReconnect here := absurd here (settled autoReconnect).1
  opened autoReconnect here := absurd here (settled autoReconnect).2
  running inside := absurd (outside.symm.trans inside) Bool.false_ne_true

theorem held_running (s : System) (inside : spawned s.call = true)
    (known : Tracked (started s.call) s) : Held s where
  before autoReconnect here := by
    rw [here] at inside
    cases inside
  opened autoReconnect here := by
    rw [here] at inside
    cases inside
  running _ := known

theorem held_main {s : System} (held : Held s) (input : MainInput) : Held (s.mainStep input) := by
  cases here : s.call with
  | opening autoReconnect =>
    have spec := s.driver.channel.openUp_spec input.opening
    cases opened : (s.driver.channel.openUp input.opening).2 with
    | false =>
      simp only [System.mainStep, here, opened]
      exact held_outside _ rfl (by simp)
    | true =>
      rw [opened] at spec
      simp only [System.mainStep, here, opened]
      refine ⟨by simp, fun _ _ => ⟨held.before autoReconnect here, ?_⟩, by simp [spawned, started]⟩
      exact spec.2.trans (Bool.true_or _)
  | spawning autoReconnect =>
    obtain ⟨ended, persistent⟩ := held.opened autoReconnect here
    simp only [System.mainStep, here]
    refine held_running _ rfl ⟨s.loops, .new, rfl, ended, ?_⟩
    exact ⟨fun _ => persistent, fun _ => ⟨persistent, nofun⟩, nofun, by simp [Loop.new], fun _ => rfl⟩
  | awaitingStream =>
    have known := held.running (by rw [here]; rfl)
    rw [here] at known
    simp only [System.mainStep, here]
    split_ifs
    · exact held_running _ rfl known
    · exact held_running _ rfl known
  | pausing =>
    have known := held.running (by rw [here]; rfl)
    rw [here] at known
    simp only [System.mainStep, here]
    split_ifs
    · exact held_outside _ rfl (by simp)
    · exact held_running _ rfl known
  | readingName =>
    have known := held.running (by rw [here]; rfl)
    rw [here] at known
    have used := getParameter_used s.driver.channel input.outcome "0001" "00"
    rcases answer : s.driver.channel.getParameter input.outcome "0001" "00" with
      ⟨channel, error | response⟩
    · simp only [System.mainStep, here, answer]
      exact held_outside _ rfl (by simp)
    · rw [answer] at used
      simp only [System.mainStep, here, answer]
      exact held_running _ rfl (known.request _ input.outcome used _)
  | readingId =>
    have known := held.running (by rw [here]; rfl)
    rw [here] at known
    have used := getParameter_used s.driver.channel input.outcome "0001" "03"
    rcases answer : s.driver.channel.getParameter input.outcome "0001" "03" with
      ⟨channel, error | response⟩
    · simp only [System.mainStep, here, answer]
      exact held_outside _ rfl (by simp)
    · rw [answer] at used
      simp only [System.mainStep, here, answer]
      exact held_running _ rfl (known.request _ input.outcome used _)
  | configuring =>
    obtain ⟨earlier, loop, loops, ended, tracks⟩ := held.running (by rw [here]; rfl)
    rw [here] at tracks
    have rate := configureOutputRate_true s.driver.channel input.outcome
      s.driver.outputRate.mode.parameterValue
    rcases answer : s.driver.channel.configureOutputRate input.outcome
      s.driver.outputRate.mode.parameterValue with ⟨channel, error | (_ | _)⟩
    · simp only [System.mainStep, here, answer]
      exact held_outside _ rfl (by simp)
    · simp only [System.mainStep, here, answer]
      exact held_outside _ rfl (by simp)
    · rw [answer] at rate
      obtain ⟨_, opened, persistent⟩ := rate rfl
      simp only [System.mainStep, here, answer]
      exact held_running _ rfl ⟨earlier, loop, loops, ended, tracks.accept opened persistent⟩
  | startingStream =>
    obtain ⟨earlier, loop, loops, ended, tracks⟩ := held.running (by rw [here]; rfl)
    rw [here] at tracks
    rcases answer : s.driver.channel.startUdpStream input.outcome with ⟨channel, error | response⟩
    · simp only [System.mainStep, here, answer]
      exact held_outside _ rfl (by simp)
    · have used := commandCall_used s.driver.channel input.outcome (Requests.commandFrame "40")
        tracks.kept
      have same : (s.driver.channel.commandCall input.outcome (Requests.commandFrame "40")).1 =
          channel := congrArg Prod.fst answer
      rw [same] at used
      simp only [System.mainStep, here, answer]
      refine held_running _ rfl ⟨earlier, loop, loops, ended, ?_⟩
      apply tracks.use input.outcome used
      intro _ relies
      exact startUdpStream_received s.driver.channel input.outcome response
        (tracks.opened relies) (by rw [answer])
  | returnedOn result => simpa only [System.mainStep, here] using held
  | raisedOn error => simpa only [System.mainStep, here] using held
  | idle => simpa only [System.mainStep, here] using held
  | returnedOff => simpa only [System.mainStep, here] using held
  | raisedOff error => simpa only [System.mainStep, here] using held
  | stopping =>
    simp only [System.mainStep, here]
    split <;> exact held_outside _ rfl (by simp)
  | clearing =>
    simp only [System.mainStep, here]
    exact held_outside _ rfl (by simp)
  | joining =>
    simp only [System.mainStep, here]
    split_ifs
    · exact held
    · exact held_outside _ rfl (by simp)
  | closing =>
    simp only [System.mainStep, here]
    exact held_outside _ rfl (by simp)

theorem held_step (s : System) (action : Action) (held : Held s)
    (meets : NoCall action ∧ Meets s action) : Held (s.step action) := by
  cases action with
  | streamingOn floatTimeout autoReconnect => exact meets.1.elim
  | streamingOff => exact meets.1.elim
  | main input => exact held_main held input
  | loop index input => exact held_loop held index input meets.2
  | arrive datagram => exact held_same held _ (arrive_control s.driver datagram)
  | command command outcome => exact held_command held command outcome meets.2
  | sample now => exact held_same held _ (sample_control s.driver now)
  | sampleBatch now => exact held_same held _ (sampleBatch_control s.driver now)
  | clearSamples now => exact held_same held _ rfl

theorem Held.streaming {s : System} (held : Held s) : StaysOpen s := by
  intro returned loop last _ _ known
  obtain ⟨earlier, other, loops, _, tracks⟩ := held.running (by rw [returned]; rfl)
  rw [loops, List.getLast?_concat] at last
  cases last
  rw [returned] at tracks
  exact (tracks.connected known).2 rfl

/-- From a call of `streaming_on` with no older loop left, over every run that begins no other call
and meets the condition. -/
theorem open_while_streaming (s : System) (autoReconnect : Bool) (actions : List Action)
    (called : s.call = .opening autoReconnect) (ended : Ended s.loops)
    (meets : AllMeet System.step (fun s action => NoCall action ∧ Meets s action) s actions) :
    StaysOpen (run System.step s actions) := by
  have held : Held s := by
    refine ⟨fun _ _ => ended, fun other here => ?_, fun inside => ?_⟩
    · rw [called] at here
      cases here
    · rw [called] at inside
      cases inside
  exact (run_invariant System.step _ Held held_step actions s held meets).streaming

/-- `streaming_on()` on a new driver, before it uses the connection. -/
def calling : System := (System.new 54843 none .hz1000 0).step (.streamingOn true true)

theorem calling_ended : Ended calling.loops := by
  have none : calling.loops = [] := rfl
  rw [none]
  exact nofun

def reply (bytes : Bytes) : MainInput := { outcome := { received := some bytes } }

/-- The port is bound, and every request is answered. -/
def answeredCall : List Action :=
  [.main {}, .main {}, .loop 0 { now := 0 }, .main {},
    .main (reply [0xff, 0xff, 0, 0, 6, 0, 0xf0, 0, 1, 0, 0, 0x46]),
    .main (reply [0xff, 0xff, 0, 0, 6, 0, 0xf0, 0, 1, 0, 3, 7]),
    .main (reply [0xff, 0xff, 0, 0, 5, 0, 0xf1, 0, 0x20, 0x10, 0]),
    .main (reply [0xff, 0xff, 0, 0, 2, 0, 0x40, 0])]

theorem answered_call_open : StaysOpen (run System.step calling
    (answeredCall ++ [.command (.runCommand "12") { received := some [0xff, 0xff, 0] }])) := by
  refine open_while_streaming calling true _ rfl calling_ended ?_
  have entering : Meets (run System.step calling [.main {}, .main {}]) (.loop 0 { now := 0 }) := by
    intro loop there here
    cases Option.some.inj there
    cases here
  exact ⟨⟨trivial, trivial⟩, ⟨trivial, trivial⟩, ⟨trivial, entering⟩, ⟨trivial, trivial⟩,
    ⟨trivial, trivial⟩, ⟨trivial, trivial⟩, ⟨trivial, trivial⟩, ⟨trivial, trivial⟩,
    ⟨trivial, fun _ _ _ _ => nofun⟩, trivial⟩

/-- An outage, an attempt to reconnect that is refused, and then a datagram. -/
def silenceThenPacket : List Action :=
  answeredCall ++ [.loop 0 { now := 200000000 }, .loop 0 { now := 1200000000 },
    .loop 0 { now := 1700000000, attempt := { opening := { accepted := false } } },
    .arrive ⟨"192.168.0.100", [0xff, 0xff, 0, 0]⟩, .loop 0 { now := 1800000000 },
    .loop 0 { now := 1800000000 }]

theorem packets_after_outage_leave_closed :
    (run System.step calling silenceThenPacket).call = .returnedOn true ∧
      ¬∀ s autoReconnect actions, s.call = .opening autoReconnect → Ended s.loops →
        AllMeet System.step (fun _ action => NoCall action) s actions →
          StaysOpen (run System.step s actions) := by
  refine ⟨by decide, fun all => ?_⟩
  have opened := all calling true silenceThenPacket rfl calling_ended
    ⟨trivial, trivial, trivial, trivial, trivial, trivial, trivial, trivial, trivial, trivial, trivial,
      trivial, trivial, trivial, trivial⟩
  have last : (run System.step calling silenceThenPacket).loops.getLast? =
      some ⟨.waiting, 1800000000, false⟩ := by decide
  exact absurd (opened (by decide) _ last rfl (by decide) rfl) (by decide)

end SchunkFts.Library.OpenWhileStreaming
