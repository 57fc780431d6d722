import SchunkFts.Foundation.Run
import SchunkFts.Library.OpenSocket
import SchunkFts.Library.SingleLoop
import SchunkFts.Library.StreamingOnFailure
import SchunkFts.Node.Lifecycle

/-! What the node holds in its primary states. `on_activate` and `on_deactivate` undo each other; what
`on_configure` has opened is only closed by `on_cleanup`, not when the callback itself fails and not
by `on_shutdown`. -/

namespace SchunkFts.Node.HeldResources
open SchunkFts.Foundation.Struct SchunkFts.Foundation.Run SchunkFts.Library
open SchunkFts.Library.DriverSettings (OutputRate)
open SchunkFts.Library.Control (Consistent)
open SchunkFts.Library.ControlCalls SchunkFts.Library.Streaming
open SchunkFts.Library.LoopSteps SchunkFts.Library.SingleLoop
open SchunkFts.Library.StreamingOnFailure (Idle NoAttempt Hushed Fails main_idle hushed_step
  hushed_stepLoop perform_closes)
open PublishLoop Lifecycle

/-- What an unconfigured or finalized node holds: nothing. `is_open` is what the library says of the
connection; a request whose reply has not come leaves the socket connected with `is_open` off, see
`released_socket`. -/
structure Released (driver : Driver) : Prop where
  streaming : driver.sensor.driver.isStreaming = false
  closed : driver.sensor.driver.channel.connection.isOpen = false
  thread : driver.thread = none
  services : driver.services = []
  collecting : driver.gcEnabled = true

/-- What an inactive node may hold is the sensor only. -/
structure Rests (driver : Driver) : Prop where
  thread : driver.thread = none
  dataPublisher : driver.state.ftDataPublisher = false
  statePublisher : driver.state.ftStatePublisher = false
  services : driver.services = []
  collecting : driver.gcEnabled = true

structure Sound (driver : Driver) : Prop where
  released : driver.phase = .unconfigured ∨ driver.phase = .finalized → Released driver
  rests : driver.phase = .inactive → Rests driver

/-- `streaming_on` leaves nothing behind when it returns `False`, the status is fine if the sensor
streams, no loop is in an attempt to reconnect when `streaming_off` closes the connection, and the node
is neither shut down while it is configured nor brought back after an exception. -/
def Meets (driver : Driver) : Lifecycle.Action → Prop
  | .main input =>
      (driver.phase = .configuring →
        (driver.sensor.step (.main input)).call = .returnedOn false →
          StreamingOnFailure.NothingLeft driver.sensor (.main input)) ∧
      (driver.phase = .cleaningUp → driver.sensor.call = .closing → NoAttempt driver.sensor)
  | .callback now => driver.phase = .verifying → driver.sensor.driver.isStreaming = true →
      ∀ level, sampleLevel driver.sensor.driver now = .ok level → level = .ok
  | .shutdown => driver.phase ≠ .inactive ∧ driver.phase ≠ .active
  | .recover _ => driver.phase ≠ .errorProcessing
  | _ => True

/-! ### The sensor beside the calls -/

/-- No part of a call of `streaming_on` or `streaming_off`. -/
def Beside : Streaming.Action → Prop
  | .streamingOn _ _ => False
  | .streamingOff => False
  | .main _ => False
  | _ => True

/-- Both flags. -/
structure Switched (on : Bool) (s : System) : Prop where
  streaming : s.driver.isStreaming = on
  reconnects : s.driver.autoReconnect = on

/-- Nothing is held of the sensor, and no loop is going to change that. -/
structure LetGo (s : System) : Prop where
  idle : Idle s.driver
  calm : NoAttempt s
  ended : s.call.inProgress = false

/-- Beside the calls a loop goes on, a command uses the connection, or only the data changes. -/
theorem step_beside (s : System) (action : Streaming.Action) (beside : Beside action) :
    (∃ index input, s.step action = s.stepLoop index input) ∨
      (∃ command outcome, s.step action = s.step (.command command outcome)) ∨
      ∃ after, control after = control s.driver ∧ s.step action = { s with driver := after } := by
  cases action with
  | streamingOn floatTimeout autoReconnect => exact beside.elim
  | streamingOff => exact beside.elim
  | main input => exact beside.elim
  | loop index input => exact .inl ⟨index, input, rfl⟩
  | command command outcome => exact .inr (.inl ⟨command, outcome, rfl⟩)
  | arrive datagram => exact .inr (.inr ⟨_, arrive_control s.driver datagram, rfl⟩)
  | sample now => exact .inr (.inr ⟨_, sample_control s.driver now, rfl⟩)
  | sampleBatch now => exact .inr (.inr ⟨_, sampleBatch_control s.driver now, rfl⟩)
  | clearSamples now => exact .inr (.inr ⟨s.driver.clearSamples now, rfl, rfl⟩)

theorem beside_call (s : System) (action : Streaming.Action) (beside : Beside action) :
    (s.step action).call = s.call := by
  rcases step_beside s action beside with ⟨index, input, same⟩ | ⟨_, _, same⟩ | ⟨_, _, same⟩
  · rw [same]
    exact stepLoop_call s index input
  · rw [same]
    rfl
  · rw [same]

/-- Two flags that are on stay so, and so do two that are off. -/
theorem Switched.beside {on : Bool} {s : System} (switched : Switched on s)
    (action : Streaming.Action) (beside : Beside action) : Switched on (s.step action) := by
  rcases step_beside s action beside with
    ⟨index, input, same⟩ | ⟨_, _, same⟩ | ⟨after, shared, same⟩
  · rw [same]
    unfold System.stepLoop
    split
    next loop here =>
      obtain ⟨reconnects, streaming⟩ := loopStep_flags s.driver loop input
      refine ⟨?_, reconnects.trans switched.reconnects⟩
      rcases streaming with same | ⟨turned, off⟩
      · exact same.trans switched.streaming
      · exact turned.trans (off.symm.trans switched.reconnects)
    next => exact switched
  · rw [same]
    exact ⟨switched.streaming, switched.reconnects⟩
  · rw [same]
    exact ⟨(congrArg LoopSteps.Control.isStreaming shared).trans switched.streaming,
      (congrArg LoopSteps.Control.autoReconnect shared).trans switched.reconnects⟩

theorem LetGo.hushed {s : System} (letGo : LetGo s) : Hushed s := by
  refine ⟨letGo.idle.streaming, letGo.idle.reconnects, letGo.calm, fun autoReconnect => ⟨?_, ?_⟩⟩
  · intro here
    have ended := letGo.ended
    rw [here] at ended
    cases ended
  · intro here
    have ended := letGo.ended
    rw [here] at ended
    cases ended

theorem LetGo.beside {s : System} (letGo : LetGo s) (action : Streaming.Action)
    (beside : Beside action) : LetGo (s.step action) := by
  have hushed := hushed_step s action letGo.hushed (fun _ _ same => by rw [same] at beside; exact beside)
  have shut : (s.step action).driver.channel.connection.isOpen = false ∧
      (s.step action).driver.channel.connection.persistent = false := by
    rcases step_beside s action beside with
      ⟨index, input, same⟩ | ⟨command, outcome, same⟩ | ⟨after, shared, same⟩
    · rw [same, (hushed_stepLoop letGo.hushed index input).2]
      exact ⟨letGo.idle.closed, letGo.idle.single⟩
    · rw [same]
      exact perform_closes s.driver.channel outcome command letGo.idle.closed letGo.idle.single
    · have channel : after.channel = s.driver.channel := congrArg LoopSteps.Control.channel shared
      rw [same, channel]
      exact ⟨letGo.idle.closed, letGo.idle.single⟩
  exact ⟨⟨hushed.streaming, hushed.reconnects, shut.1, shut.2⟩, hushed.calm,
    (congrArg _ (beside_call s action beside)).trans letGo.ended⟩

theorem mainStep_ended (s : System) (input : MainInput) (ended : s.call.inProgress = false) :
    s.mainStep input = s := by
  unfold System.mainStep
  split
  all_goals first
    | rfl
    | (rename_i here; rw [here] at ended; cases ended)

/-! ### The calls -/

/-- From the start of the loop, and after a success. -/
def streams : CallPhase → Bool
  | .awaitingStream => true
  | .pausing => true
  | .readingName => true
  | .readingId => true
  | .configuring => true
  | .startingStream => true
  | .returnedOn result => result
  | _ => false

/-- A call of `streaming_on` that is to reconnect, as `on_configure` makes it. -/
structure Entering (s : System) : Prop where
  reconnects : ∀ autoReconnect, s.call = .opening autoReconnect ∨ s.call = .spawning autoReconnect →
    autoReconnect = true
  on : streams s.call = true → Switched true s
  failed : s.call = .returnedOn false → LetGo s

/-- A call of `streaming_off`. -/
structure Leaving (s : System) : Prop where
  off : s.call = .joining ∨ s.call = .closing → Switched false s
  done : s.call = .returnedOff → LetGo s

theorem Entering.beside {s : System} (entering : Entering s) (action : Streaming.Action)
    (beside : Beside action) : Entering (s.step action) := by
  have call := beside_call s action beside
  refine ⟨?_, ?_, ?_⟩
  · rw [call]
    exact entering.reconnects
  · rw [call]
    exact fun streaming => (entering.on streaming).beside action beside
  · rw [call]
    exact fun failed => (entering.failed failed).beside action beside

theorem Leaving.beside {s : System} (leaving : Leaving s) (action : Streaming.Action)
    (beside : Beside action) : Leaving (s.step action) := by
  have call := beside_call s action beside
  refine ⟨?_, ?_⟩
  · rw [call]
    exact fun waiting => (leaving.off waiting).beside action beside
  · rw [call]
    exact fun done => (leaving.done done).beside action beside

/-- The loop is started right after the connection has been opened. -/
theorem mainStep_before_start (s : System) (input : MainInput) (autoReconnect : Bool)
    (before : (s.mainStep input).call = .opening autoReconnect ∨
      (s.mainStep input).call = .spawning autoReconnect) :
    s.call = .opening autoReconnect ∨ s.call = .spawning autoReconnect := by
  unfold System.mainStep at before
  split at before
  next _ here =>
    dsimp only at before
    split_ifs at before <;> simp at before
    exact .inl (before ▸ here)
  next => simp at before
  next => split at before <;> simp at before
  next => split at before <;> simp at before
  next => split at before <;> simp at before
  next => split at before <;> simp at before
  next => split at before <;> simp at before
  next => split at before <;> simp at before
  next => split at before <;> simp at before
  next => simp at before
  next here =>
    split_ifs at before
    · exact before
    · simp at before
  next => simp at before
  next => exact before

theorem entering_on {s : System} (entering : Entering s) (input : MainInput) :
    streams (s.mainStep input).call = true → Switched true (s.mainStep input) := by
  have stays {phase : CallPhase} (here : s.call = phase) (inside : streams phase = true) :
      s.driver.isStreaming = true ∧ s.driver.autoReconnect = true := by
    obtain ⟨streaming, reconnects⟩ := entering.on (here ▸ inside)
    exact ⟨streaming, reconnects⟩
  unfold System.mainStep
  split
  next here =>
    dsimp only
    split_ifs <;> exact nofun
  next autoReconnect here => exact fun _ => ⟨rfl, entering.reconnects autoReconnect (.inr here)⟩
  next here => exact fun _ => ⟨(stays here rfl).1, (stays here rfl).2⟩
  next here =>
    split_ifs
    · exact nofun
    · exact fun _ => ⟨(stays here rfl).1, (stays here rfl).2⟩
  next here =>
    split
    · exact fun _ => ⟨(stays here rfl).1, (stays here rfl).2⟩
    · exact nofun
  next here =>
    split
    · exact fun _ => ⟨(stays here rfl).1, (stays here rfl).2⟩
    · exact nofun
  next here =>
    split
    · exact fun _ => ⟨(stays here rfl).1, (stays here rfl).2⟩
    · exact nofun
    · exact nofun
  next here =>
    split
    · exact fun _ => ⟨(stays here rfl).1, (stays here rfl).2⟩
    · exact nofun
  next => split <;> exact nofun
  next => exact nofun
  next here =>
    split_ifs
    · rw [here]
      exact nofun
    · exact nofun
  next => exact nofun
  next => exact entering.on

/-- A failing exit is one that leaves nothing behind. -/
theorem entering_main {s : System} (entering : Entering s) (input : MainInput)
    (exits : (s.mainStep input).call = .returnedOn false →
      StreamingOnFailure.NothingLeft s (.main input)) : Entering (s.mainStep input) := by
  refine ⟨fun autoReconnect before => ?_, entering_on entering input, fun failed => ?_⟩
  · exact entering.reconnects autoReconnect (mainStep_before_start s input autoReconnect before)
  · cases busy : s.call.inProgress with
    | false =>
      rw [mainStep_ended s input busy] at failed ⊢
      exact entering.failed failed
    | true =>
      obtain ⟨idle, calm⟩ := main_idle s input (exits failed) ⟨busy, .inl failed⟩
      exact ⟨idle, calm, by rw [failed]; rfl⟩

theorem entering_start {s : System} (letGo : LetGo s) :
    Entering (s.step (.streamingOn true true)) := by
  have begun : s.step (.streamingOn true true) = { s with call := .opening true } := by
    simp [System.step, System.streamingOn, letGo.ended, letGo.idle.streaming]
  rw [begun]
  refine ⟨fun autoReconnect before => ?_, by simp [streams], by simp⟩
  rcases before with before | before
  · cases before
    rfl
  · cases before

theorem leaving_start {s : System} (ended : s.call.inProgress = false) :
    Leaving (s.step .streamingOff) := by
  have begun : s.step .streamingOff = { s with call := .stopping } := by
    simp [System.step, ended]
  rw [begun]
  exact ⟨by simp, by simp⟩

/-- The connection is closed with both flags off. -/
theorem leaving_main {s : System} (leaving : Leaving s) (input : MainInput)
    (calm : s.call = .closing → NoAttempt s) : Leaving (s.mainStep input) := by
  have elsewhere {after : System}
      (call : after.call ≠ .joining ∧ after.call ≠ .closing ∧ after.call ≠ .returnedOff) :
      Leaving after :=
    ⟨fun waiting => absurd waiting (not_or.mpr ⟨call.1, call.2.1⟩), fun done => absurd done call.2.2⟩
  unfold System.mainStep
  split
  next =>
    dsimp only
    split_ifs <;> exact elsewhere (by simp)
  next => exact elsewhere (by simp)
  next =>
    apply elsewhere
    dsimp only
    split_ifs <;> simp
  next => split_ifs <;> exact elsewhere (by simp)
  next => split <;> exact elsewhere (by simp)
  next => split <;> exact elsewhere (by simp)
  next => split <;> exact elsewhere (by simp)
  next => split <;> exact elsewhere (by simp)
  next => split <;> exact elsewhere (by simp)
  next => exact ⟨fun _ => ⟨rfl, rfl⟩, nofun⟩
  next here =>
    split_ifs
    · exact leaving
    · obtain ⟨streaming, reconnects⟩ := leaving.off (.inl here)
      exact ⟨fun _ => ⟨streaming, reconnects⟩, nofun⟩
  next here =>
    refine ⟨by simp, fun _ => ?_⟩
    obtain ⟨streaming, reconnects⟩ := leaving.off (.inr here)
    have fresh := s.driver.channel.close_connection
    exact ⟨⟨streaming, reconnects, congrArg Control.Connection.isOpen fresh,
      congrArg Control.Connection.persistent fresh⟩, calm here, rfl⟩
  next => exact leaving

/-! ### The node -/

/-- What is known of the sensor in each phase. -/
def Fits (s : System) : Phase → Prop
  | .unconfigured => LetGo s
  | .configuring => Entering s
  | .verifying => LetGo s ∨ (Switched true s ∧ s.call.inProgress = false)
  | .inactive => s.call.inProgress = false
  | .active => s.call.inProgress = false
  | .deactivating => s.call.inProgress = false
  | .cleaningUp => Leaving s
  | .errorProcessing => True
  | .finalized => LetGo s

structure Held (driver : Driver) : Prop where
  sensor : Fits driver.sensor driver.phase
  collecting : driver.phase ≠ .active → driver.gcEnabled = true
  rests : driver.phase ≠ .active → driver.phase ≠ .deactivating → Rests driver

theorem Fits.beside {s : System} {phase : Phase} (fits : Fits s phase) (action : Streaming.Action)
    (beside : Beside action) : Fits (s.step action) phase := by
  have ended (done : s.call.inProgress = false) : (s.step action).call.inProgress = false :=
    (congrArg _ (beside_call s action beside)).trans done
  cases phase with
  | unconfigured => exact LetGo.beside fits action beside
  | configuring => exact Entering.beside fits action beside
  | verifying =>
    rcases fits with letGo | ⟨switched, done⟩
    · exact .inl (letGo.beside action beside)
    · exact .inr ⟨switched.beside action beside, ended done⟩
  | inactive => exact ended fits
  | active => exact ended fits
  | deactivating => exact ended fits
  | cleaningUp => exact Leaving.beside fits action beside
  | errorProcessing => trivial
  | finalized => exact LetGo.beside fits action beside

theorem Fits.main {s : System} {phase : Phase} (fits : Fits s phase) (input : MainInput)
    (exits : phase = .configuring → (s.mainStep input).call = .returnedOn false →
      StreamingOnFailure.NothingLeft s (.main input))
    (calm : phase = .cleaningUp → s.call = .closing → NoAttempt s) :
    Fits (s.step (.main input)) phase := by
  have same (done : s.call.inProgress = false) : s.step (.main input) = s :=
    mainStep_ended s input done
  cases phase with
  | unconfigured =>
    rw [same (LetGo.ended fits)]
    exact fits
  | configuring => exact entering_main fits input (exits rfl)
  | verifying =>
    rw [same (fits.elim LetGo.ended And.right)]
    exact fits
  | inactive =>
    rw [same fits]
    exact fits
  | active =>
    rw [same fits]
    exact fits
  | deactivating =>
    rw [same fits]
    exact fits
  | cleaningUp => exact leaving_main fits input (calm rfl)
  | errorProcessing => trivial
  | finalized =>
    rw [same (LetGo.ended fits)]
    exact fits

theorem Held.swap {driver : Driver} (held : Held driver) (sensor : System)
    (requests : List Request) (fits : Fits sensor driver.phase) :
    Held { driver with sensor := sensor, requests := requests } where
  sensor := fits
  collecting := held.collecting
  rests active deactivating :=
    have rests := held.rests active deactivating
    ⟨rests.thread, rests.dataPublisher, rests.statePublisher, rests.services, rests.collecting⟩

/-- From a phase in which the node rests to one in which it holds no more than before. -/
theorem Held.move {driver after : Driver} (held : Held driver) {phase : Phase}
    (here : driver.phase = phase) (quiet : phase ≠ .active ∧ phase ≠ .deactivating)
    (fits : Fits after.sensor after.phase)
    (same : after.thread = driver.thread ∧
      after.state.ftDataPublisher = driver.state.ftDataPublisher ∧
      after.state.ftStatePublisher = driver.state.ftStatePublisher ∧
      after.services = driver.services ∧ after.gcEnabled = driver.gcEnabled) : Held after := by
  have rests := held.rests (here ▸ quiet.1) (here ▸ quiet.2)
  obtain ⟨thread, data, status, services, collecting⟩ := same
  have resting : Rests after :=
    ⟨thread.trans rests.thread, data.trans rests.dataPublisher, status.trans rests.statePublisher,
      services.trans rests.services, collecting.trans rests.collecting⟩
  exact ⟨fits, fun _ => resting.collecting, fun _ _ => resting⟩

theorem held_verify {driver : Driver} (held : Held driver) (now : Int)
    (here : driver.phase = .verifying)
    (fine : driver.sensor.driver.isStreaming = true →
      ∀ level, sampleLevel driver.sensor.driver now = .ok level → level = .ok) :
    Held (driver.verify now) := by
  have fits := held.sensor
  rw [here] at fits
  have sampled : Fits (driver.sensor.step (.sample now)) .verifying :=
    Fits.beside fits (.sample now) trivial
  have streaming : (driver.sensor.step (.sample now)).driver.isStreaming =
      driver.sensor.driver.isStreaming :=
    congrArg LoopSteps.Control.isStreaming (sample_control driver.sensor.driver now)
  simp only [Driver.verify]
  cases level : sampleLevel driver.sensor.driver now with
  | error error => exact held.move here (by decide) trivial ⟨rfl, rfl, rfl, rfl, rfl⟩
  | ok level' =>
    refine held.move here (by decide) ?_ ⟨rfl, rfl, rfl, rfl, rfl⟩
    dsimp only
    split_ifs with failed
    · rcases sampled with letGo | ⟨switched, _⟩
      · exact letGo
      · have on := switched.streaming
        rcases failed with off | bad
        · rw [off] at on
          cases on
        · exact absurd (fine (streaming.symm.trans on) level' level) bad
    · exact sampled.elim LetGo.ended And.right

theorem held_callback {driver : Driver} (held : Held driver) (now : Int)
    (meets : Meets driver (.callback now)) : Held (driver.callback now) := by
  have fits := held.sensor
  unfold Driver.callback
  split
  next result here called =>
    rw [here] at fits
    refine held.move here (by decide) ?_ ⟨rfl, rfl, rfl, rfl, rfl⟩
    cases result with
    | false => exact .inl (Entering.failed fits called)
    | true => exact .inr ⟨Entering.on fits (by rw [called]; rfl), by rw [called]; rfl⟩
  next here _ =>
    exact held.move here (by decide) trivial ⟨rfl, rfl, rfl, rfl, rfl⟩
  next here => exact held_verify held now here (meets here)
  next here stopped =>
    rw [here] at fits
    have collecting := held.collecting (by rw [here]; exact nofun)
    exact ⟨fits, fun _ => collecting, fun _ _ => ⟨stopped, rfl, rfl, rfl, collecting⟩⟩
  next here called =>
    rw [here] at fits
    exact held.move here (by decide) (Leaving.done fits called) ⟨rfl, rfl, rfl, rfl, rfl⟩
  next here called =>
    exact held.move here (by decide) trivial ⟨rfl, rfl, rfl, rfl, rfl⟩
  next => exact held

theorem held_publish {driver : Driver} (held : Held driver) (clock : Clock) (now : Int) :
    Held (driver.publish clock now) := by
  cases running : driver.thread with
  | none =>
    simp only [Driver.publish, running]
    exact held
  | some config =>
    have busy : ¬(driver.phase ≠ .active ∧ driver.phase ≠ .deactivating) := by
      intro quiet
      have stopped := (held.rests quiet.1 quiet.2).thread
      rw [running] at stopped
      cases stopped
    have sampled := held.sensor.beside (.sampleBatch now) trivial
    simp only [Driver.publish, running]
    split_ifs
    · exact ⟨held.sensor, held.collecting, fun active deactivating => absurd ⟨active, deactivating⟩ busy⟩
    · split
      · exact ⟨sampled, held.collecting, fun active deactivating => absurd ⟨active, deactivating⟩ busy⟩
      · exact ⟨sampled, held.collecting, fun active deactivating => absurd ⟨active, deactivating⟩ busy⟩

theorem held_step (driver : Driver) (action : Lifecycle.Action) (held : Held driver)
    (meets : Meets driver action) : Held (driver.step action) := by
  have fits := held.sensor
  cases action with
  | configure =>
    simp only [Driver.step]
    split_ifs with here
    · rw [here] at fits
      exact held.move here (by decide) (entering_start fits) ⟨rfl, rfl, rfl, rfl, rfl⟩
    · exact held
  | activate now =>
    simp only [Driver.step]
    split_ifs with here
    · rw [here] at fits
      have cleared : Fits (driver.sensor.step (.clearSamples now)) .inactive :=
        Fits.beside fits (.clearSamples now) trivial
      exact ⟨cleared, fun wrong => absurd rfl wrong, fun wrong => absurd rfl wrong⟩
    · exact held
  | deactivate =>
    simp only [Driver.step]
    split_ifs with here
    · rw [here] at fits
      exact ⟨fits, fun _ => rfl, fun _ wrong => absurd rfl wrong⟩
    · exact held
  | cleanup =>
    simp only [Driver.step]
    split_ifs with here
    · rw [here] at fits
      exact held.move here (by decide) (leaving_start fits) ⟨rfl, rfl, rfl, rfl, rfl⟩
    · exact held
  | shutdown =>
    simp only [Driver.step]
    split_ifs with here
    · have unconfigured : driver.phase = .unconfigured :=
        here.resolve_right (not_or.mpr meets)
      rw [unconfigured] at fits
      exact held.move unconfigured (by decide) fits ⟨rfl, rfl, rfl, rfl, rfl⟩
    · exact held
  | recover success =>
    simp only [Driver.step]
    rw [if_neg meets]
    exact held
  | callback now => exact held_callback held now meets
  | main input => exact held.swap _ _ (fits.main input meets.1 meets.2)
  | loop index input => exact held.swap _ _ (fits.beside (.loop index input) trivial)
  | arrive datagram => exact held.swap _ _ (fits.beside (.arrive datagram) trivial)
  | publish clock now => exact held_publish held clock now
  | accept request =>
    simp only [Driver.step, Driver.accept]
    split_ifs
    · exact held.swap _ _ fits
    · exact held
  | serve index outcome =>
    simp only [Driver.step, Driver.serve]
    split
    next request _ =>
      exact held.swap _ _ (fits.beside (.command request.command outcome) trivial)
    next => exact held

theorem Held.sound {driver : Driver} (held : Held driver) : Sound driver := by
  have letGo (ended : driver.phase = .unconfigured ∨ driver.phase = .finalized) :
      LetGo driver.sensor ∧ Rests driver := by
    have fits := held.sensor
    rcases ended with here | here
    · rw [here] at fits
      exact ⟨fits, held.rests (by rw [here]; exact nofun) (by rw [here]; exact nofun)⟩
    · rw [here] at fits
      exact ⟨fits, held.rests (by rw [here]; exact nofun) (by rw [here]; exact nofun)⟩
  refine ⟨fun ended => ?_, fun here => ?_⟩
  · obtain ⟨⟨idle, _, _⟩, rests⟩ := letGo ended
    exact ⟨idle.streaming, idle.closed, rests.thread, rests.services, rests.collecting⟩
  · exact held.rests (by rw [here]; exact nofun) (by rw [here]; exact nofun)

theorem held_new (name : String) (streamingPort : Int) (outputRate : OutputRate) (now : Int) :
    Held (.new name streamingPort outputRate now) :=
  ⟨⟨⟨rfl, rfl, rfl, rfl⟩, nofun, rfl⟩, fun _ => rfl, fun _ _ => ⟨rfl, rfl, rfl, rfl, rfl⟩⟩

/-- In every run of a new node whose steps meet the condition, every unconfigured, finalized or
inactive node has let go of what it has to. -/
theorem primary_states_sound (name : String) (streamingPort : Int) (outputRate : OutputRate)
    (now : Int) (actions : List Lifecycle.Action)
    (meets : AllMeet Driver.step Meets (.new name streamingPort outputRate now) actions) :
    Sound (run Driver.step (.new name streamingPort outputRate now) actions) := by
  have held := run_invariant Driver.step Meets Held held_step actions _
    (held_new name streamingPort outputRate now) meets
  exact held.sound

def reply (bytes : Bytes) : Lifecycle.Action := .main { outcome := { received := some bytes } }

/-- `on_configure` up to its check of the status; the sensor answers every request. -/
def answered : List Lifecycle.Action :=
  [.configure, .main {}, .main {}, .loop 0 { now := 0 }, .main {},
    reply [0xff, 0xff, 0, 0, 6, 0, 0xf0, 0, 1, 0, 0, 0x46],
    reply [0xff, 0xff, 0, 0, 6, 0, 0xf0, 0, 1, 0, 3, 7],
    reply [0xff, 0xff, 0, 0, 5, 0, 0xf1, 0, 0x20, 0x10, 0],
    reply [0xff, 0xff, 0, 0, 2, 0, 0x40, 0], .callback 0]

/-- Every state of the cycle, with a packet, a request and the shutdown at the end. -/
def fullCycle : List Lifecycle.Action :=
  answered ++ [
    .arrive ⟨"192.168.0.100", [0xff, 0xff, 0, 0, 29, 0, 0, 1, 0, 0, 0] ++ List.replicate 24 0⟩,
    .loop 0 { now := 0 }, .loop 0 { now := 0 }, .callback 0, .activate 0, .publish ⟨0, 0⟩ 0,
    .accept .tare, .serve 0 { received := some [0xff, 0xff, 0, 0, 2, 0, 0x12, 0] }, .deactivate,
    .publish ⟨0, 0⟩ 0, .callback 0, .cleanup, reply [0xff, 0xff, 0, 0, 2, 0, 0x41, 0], .main {},
    .loop 0 { now := 0 }, .main {}, .main {}, .callback 0, .shutdown]

theorem full_cycle_sound :
    (run Driver.step (.new "driver" 54843 .hz1000 0) fullCycle).phase = .finalized ∧
      Sound (run Driver.step (.new "driver" 54843 .hz1000 0) fullCycle) := by
  refine ⟨by decide, primary_states_sound "driver" 54843 .hz1000 0 fullCycle ?_⟩
  refine ⟨trivial, ⟨fun _ => nofun, nofun⟩, ⟨fun _ => nofun, nofun⟩, trivial,
    ⟨fun _ => nofun, nofun⟩, ⟨fun _ => nofun, nofun⟩, ⟨fun _ => nofun, nofun⟩,
    ⟨fun _ => nofun, nofun⟩, ⟨fun _ => nofun, nofun⟩, nofun, trivial, trivial, trivial, ?_⟩
  refine ⟨fun _ _ level fine => (Except.ok.inj fine).symm, trivial, trivial, trivial, trivial, trivial,
    trivial, nofun, trivial, ⟨nofun, fun _ => nofun⟩, ⟨nofun, fun _ => nofun⟩, trivial,
    ⟨nofun, fun _ => nofun⟩, ⟨nofun, fun _ _ => List.forall_mem_singleton.mpr rfl⟩, nofun,
    ⟨nofun, nofun⟩, trivial⟩

/-- No packet has arrived when the status is checked, and the callback fails. -/
theorem failed_configure_keeps_streaming :
    ((run Driver.step (.new "driver" 54843 .hz1000 0) (answered ++ [.callback 0])).phase =
        .unconfigured ∧
      (run Driver.step (.new "driver" 54843 .hz1000 0)
        (answered ++ [.callback 0])).sensor.driver.isStreaming = true ∧
      (run Driver.step (.new "driver" 54843 .hz1000 0)
        (answered ++ [.callback 0])).sensor.driver.channel.connection = ⟨.connected, true, true⟩) ∧
    ¬∀ name streamingPort outputRate now actions,
      Sound (run Driver.step (.new name streamingPort outputRate now) actions) := by
  refine ⟨by decide, fun all => ?_⟩
  have sound := all "driver" 54843 .hz1000 0 (answered ++ [.callback 0])
  exact absurd (sound.released (.inl (by decide))).streaming (by decide)

/-- A node that is shut down while active releases nothing. -/
example :
    (run Driver.step (.new "driver" 54843 .hz1000 0) (fullCycle.take 15 ++ [.shutdown])).phase =
        .finalized ∧
      (run Driver.step (.new "driver" 54843 .hz1000 0)
        (fullCycle.take 15 ++ [.shutdown])).services.length = 6 ∧
      (run Driver.step (.new "driver" 54843 .hz1000 0)
        (fullCycle.take 15 ++ [.shutdown])).gcEnabled = false := by decide

/-! ### The socket -/

/-- No request goes without its reply. -/
def Replies (driver : Driver) : Lifecycle.Action → Prop
  | .main input => OpenSocket.Meets driver.sensor (.main input)
  | .serve _ outcome => OpenSocket.Replied outcome
  | _ => True

theorem consistent_node (driver : Driver) (action : Lifecycle.Action)
    (consistent : Consistent driver.sensor.driver.channel.connection)
    (replies : Replies driver action) :
    Consistent (driver.step action).sensor.driver.channel.connection := by
  have sensor (action : Streaming.Action) (meets : OpenSocket.Meets driver.sensor action) :=
    OpenSocket.consistent_step driver.sensor action consistent meets
  cases action with
  | configure =>
    simp only [Driver.step]
    split_ifs
    · exact sensor (.streamingOn true true) trivial
    · exact consistent
  | activate now =>
    simp only [Driver.step]
    split_ifs
    · exact sensor (.clearSamples now) trivial
    · exact consistent
  | deactivate =>
    simp only [Driver.step]
    split_ifs <;> exact consistent
  | cleanup =>
    simp only [Driver.step]
    split_ifs
    · exact sensor .streamingOff trivial
    · exact consistent
  | shutdown =>
    simp only [Driver.step]
    split_ifs <;> exact consistent
  | recover success =>
    simp only [Driver.step]
    split_ifs <;> exact consistent
  | callback now =>
    simp only [Driver.step, Driver.callback]
    split
    case h_3 =>
      simp only [Driver.verify]
      split <;> exact sensor (.sample now) trivial
    all_goals exact consistent
  | main input => exact sensor (.main input) replies
  | loop index input => exact sensor (.loop index input) trivial
  | arrive datagram => exact sensor (.arrive datagram) trivial
  | publish clock now =>
    simp only [Driver.step, Driver.publish]
    split
    · exact consistent
    · split_ifs
      · exact consistent
      · split <;> exact sensor (.sampleBatch now) trivial
  | accept request =>
    simp only [Driver.step, Driver.accept]
    split_ifs <;> exact consistent
  | serve index outcome =>
    simp only [Driver.step, Driver.serve]
    split
    next request found => exact sensor (.command request.command outcome) replies
    next => exact consistent

/-- Where besides no request goes without its reply, the socket itself is not connected. -/
theorem released_socket (name : String) (streamingPort : Int) (outputRate : OutputRate) (now : Int)
    (actions : List Lifecycle.Action)
    (meets : AllMeet Driver.step (fun driver action => Meets driver action ∧ Replies driver action)
      (.new name streamingPort outputRate now) actions) :
    let last := run Driver.step (.new name streamingPort outputRate now) actions
    last.phase = .unconfigured ∨ last.phase = .finalized →
      last.sensor.driver.channel.connection.socket ≠ .connected := by
  intro last ended connected
  obtain ⟨held, consistent⟩ : Held last ∧ Consistent last.sensor.driver.channel.connection :=
    run_invariant Driver.step _ (fun driver =>
      Held driver ∧ Consistent driver.sensor.driver.channel.connection)
      (fun driver action both meets => ⟨held_step driver action both.1 meets.1,
        consistent_node driver action both.2 meets.2⟩) actions _
      ⟨held_new name streamingPort outputRate now, Consistent.new⟩ meets
  have closed := (held.sound.released ended).closed
  rw [consistent.connected.mpr connected] at closed
  cases closed

end SchunkFts.Node.HeldResources
