import SchunkFts.Foundation.Run
import SchunkFts.Library.SingleLoop

/-! How `streaming_on` fails. Each exit undoes another part of what was done before it, and none
knows whether the loop it has started is about to reconnect. -/

namespace SchunkFts.Library.StreamingOnFailure
open SchunkFts.Foundation.Struct SchunkFts.Foundation.Run
open Control ControlCalls Reconnect Streaming LoopSteps
open SingleLoop (Exclusive Runs exclusive_step)

/-- The action ends a call of `streaming_on` that was made while not streaming, and it has failed. -/
def Fails (s : System) : Action → Prop
  | .streamingOn floatTimeout autoReconnect =>
      s.call.inProgress = false ∧
        (s.streamingOn floatTimeout autoReconnect).call = .returnedOn false
  | .main input =>
      s.call.inProgress = true ∧
        ((s.mainStep input).call = .returnedOn false ∨
          ∃ error, (s.mainStep input).call = .raisedOn error)
  | _ => False

/-- Closed is what `is_open` says; of the socket itself see `failed_socket`. -/
structure Idle (driver : SensorDriver) : Prop where
  streaming : driver.isStreaming = false
  reconnects : driver.autoReconnect = false
  closed : driver.channel.connection.isOpen = false
  single : driver.channel.connection.persistent = false

/-- Until the next `streaming_on`, no step of a loop opens the connection or sends a request. -/
def Silent (s : System) : Prop :=
  ∀ later, (∀ action ∈ later, ∀ floatTimeout autoReconnect,
      action ≠ .streamingOn floatTimeout autoReconnect) →
    ∀ index input, ((run System.step s later).stepLoop index input).driver.channel =
      (run System.step s later).driver.channel

/-- A failed call leaves an idle driver, and its loop no more to do. -/
def BackToIdle (s : System) (action : Action) : Prop :=
  Fails s action → Idle (s.step action).driver ∧ Silent (s.step action)

/-- The loop is going to use the connection, whatever the flags are. -/
def attempting : LoopPhase → Bool
  | .sleeping => true
  | .reopening => true
  | .restarting => true
  | _ => false

def NoAttempt (s : System) : Prop := ∀ loop ∈ s.loops, attempting loop.phase = false

/-- Nothing is there that an exit would have to undo, but for `is_streaming`. -/
structure Settled (s : System) : Prop where
  reconnects : s.driver.autoReconnect = false
  closed : s.driver.channel.connection.isOpen = false
  single : s.driver.channel.connection.persistent = false
  calm : NoAttempt s

/-- An exit is taken with nothing to undo, or it is the one after a refused output rate, while no
loop is in an attempt. -/
def NothingLeft (s : System) : Action → Prop
  | .streamingOn floatTimeout _ =>
      s.call.inProgress = false → s.driver.isStreaming = false → floatTimeout = false → Settled s
  | .main input =>
      match s.call with
      | .opening _ => (s.driver.channel.openUp input.opening).2 = false →
          s.driver.autoReconnect = false ∧ s.driver.channel.connection.persistent = false ∧
            NoAttempt s
      | .pausing => input.late = true → Settled s
      | .readingName =>
          (∀ response, (s.driver.channel.getParameter input.outcome "0001" "00").2 ≠ .ok response) →
            s.driver.isStreaming = false ∧ Settled s
      | .readingId =>
          (∀ response, (s.driver.channel.getParameter input.outcome "0001" "03").2 ≠ .ok response) →
            s.driver.isStreaming = false ∧ Settled s
      | .configuring =>
          match (s.driver.channel.configureOutputRate input.outcome
            s.driver.outputRate.mode.parameterValue).2 with
          | .ok true => True
          | .ok false => NoAttempt s
          | .error _ => s.driver.isStreaming = false ∧ Settled s
      | .startingStream => ∃ response, (s.driver.channel.startUdpStream input.outcome).2 = .ok response
      | _ => True
  | _ => True

/-! ### After the exit -/

/-- Flags that are off, and no loop in an attempt. -/
structure Hushed (s : System) : Prop where
  streaming : s.driver.isStreaming = false
  reconnects : s.driver.autoReconnect = false
  calm : NoAttempt s
  call : ∀ autoReconnect, s.call ≠ .opening autoReconnect ∧ s.call ≠ .spawning autoReconnect

/-- A loop with nothing to keep it alive leaves the connection alone. -/
theorem loopStep_hushed (driver : SensorDriver) (loop : Loop) (input : LoopInput)
    (streaming : driver.isStreaming = false) (reconnects : driver.autoReconnect = false)
    (calm : attempting loop.phase = false) :
    control (loopStep driver loop input).1 = control driver ∧
      attempting (loopStep driver loop input).2.phase = false := by
  have off : ¬(driver.isStreaming = true ∨ driver.autoReconnect = true) := by
    simp [streaming, reconnects]
  cases loopStep_moves driver loop input with
  | enter here same phase lost => exact ⟨same, phase ▸ rfl⟩
  | read packet rest here on packets same phase lost => exact absurd on off
  | wait here on same still => exact absurd on off
  | lose here before on closed phase lost => exact absurd (.inl on) off
  | miss here before on same phase lost => exact absurd on off
  | finish here streamingOff same phase lost => exact ⟨same, phase ▸ rfl⟩
  | put packet rest here same phase lost =>
    refine ⟨same, phase ▸ ?_⟩
    cases rest <;> rfl
  | close here closed phase lost => rw [here] at calm; cases calm
  | reopen opening here opened phase lost => rw [here] at calm; cases calm
  | restart attempt channel reconnected here settled restarted phase lost =>
    rw [here] at calm
    cases calm
  | restore here same phase lost => exact ⟨same, phase ▸ rfl⟩
  | rest here same still =>
    rw [same, still]
    exact ⟨rfl, calm⟩

theorem hushed_stepLoop {s : System} (hushed : Hushed s) (index : Nat) (input : LoopInput) :
    Hushed (s.stepLoop index input) ∧
      (s.stepLoop index input).driver.channel = s.driver.channel := by
  unfold System.stepLoop
  split
  next loop here =>
    have member := List.mem_of_getElem? here
    obtain ⟨same, calm⟩ := loopStep_hushed s.driver loop input hushed.streaming hushed.reconnects
      (hushed.calm loop member)
    obtain ⟨streaming, reconnects, channel⟩ := Control.mk.inj same
    refine ⟨⟨streaming.trans hushed.streaming, reconnects.trans hushed.reconnects, ?_, hushed.call⟩,
      channel⟩
    intro other there
    rcases List.mem_or_eq_of_mem_set there with old | new
    · exact hushed.calm other old
    · exact new ▸ calm
  next => exact ⟨hushed, rfl⟩

theorem Hushed.keep {s after : System} (hushed : Hushed s)
    (streaming : after.driver.isStreaming = s.driver.isStreaming ∨
      after.driver.isStreaming = false)
    (reconnects : after.driver.autoReconnect = s.driver.autoReconnect ∨
      after.driver.autoReconnect = false)
    (loops : after.loops = s.loops)
    (call : after.call = s.call ∨
      ∀ autoReconnect, after.call ≠ .opening autoReconnect ∧ after.call ≠ .spawning autoReconnect) :
    Hushed after where
  streaming := streaming.elim (fun same => same.trans hushed.streaming) id
  reconnects := reconnects.elim (fun same => same.trans hushed.reconnects) id
  calm loop member := hushed.calm loop (loops ▸ member)
  call := call.elim (fun same => same ▸ hushed.call) id

theorem hushed_main {s : System} (hushed : Hushed s) (input : MainInput) :
    Hushed (s.mainStep input) := by
  unfold System.mainStep
  split
  next autoReconnect here => exact absurd here (hushed.call autoReconnect).1
  next autoReconnect here => exact absurd here (hushed.call autoReconnect).2
  next =>
    refine hushed.keep (.inl rfl) (.inl rfl) rfl (.inr fun _ => ?_)
    dsimp only
    split_ifs <;> simp
  next =>
    split
    next => exact hushed.keep (.inr rfl) (.inl rfl) rfl (.inr fun _ => by simp)
    next => exact hushed.keep (.inl rfl) (.inl rfl) rfl (.inr fun _ => by simp)
  next => split <;> exact hushed.keep (.inl rfl) (.inl rfl) rfl (.inr fun _ => by simp)
  next => split <;> exact hushed.keep (.inl rfl) (.inl rfl) rfl (.inr fun _ => by simp)
  next =>
    split
    next => exact hushed.keep (.inl rfl) (.inl rfl) rfl (.inr fun _ => by simp)
    next => exact hushed.keep (.inr rfl) (.inr rfl) rfl (.inr fun _ => by simp)
    next => exact hushed.keep (.inl rfl) (.inl rfl) rfl (.inr fun _ => by simp)
  next => split <;> exact hushed.keep (.inl rfl) (.inl rfl) rfl (.inr fun _ => by simp)
  next => split <;> exact hushed.keep (.inl rfl) (.inl rfl) rfl (.inr fun _ => by simp)
  next => exact hushed.keep (.inr rfl) (.inr rfl) rfl (.inr fun _ => by simp)
  next =>
    split_ifs
    · exact hushed
    · exact hushed.keep (.inl rfl) (.inl rfl) rfl (.inr fun _ => by simp)
  next => exact hushed.keep (.inl rfl) (.inl rfl) rfl (.inr fun _ => by simp)
  next => exact hushed

theorem hushed_step (s : System) (action : Action) (hushed : Hushed s)
    (other : ∀ floatTimeout autoReconnect, action ≠ .streamingOn floatTimeout autoReconnect) :
    Hushed (s.step action) := by
  have keep (after : SensorDriver) (same : control after = control s.driver) :
      Hushed { s with driver := after } :=
    hushed.keep (.inl (congrArg Control.isStreaming same))
      (.inl (congrArg Control.autoReconnect same)) rfl (.inl rfl)
  cases action with
  | streamingOn floatTimeout autoReconnect => exact absurd rfl (other floatTimeout autoReconnect)
  | streamingOff =>
    simp only [System.step]
    split_ifs
    · exact hushed
    · exact hushed.keep (.inl rfl) (.inl rfl) rfl (.inr fun _ => by simp)
  | main input => exact hushed_main hushed input
  | loop index input => exact (hushed_stepLoop hushed index input).1
  | arrive datagram => exact keep _ (arrive_control s.driver datagram)
  | command command outcome => exact hushed.keep (.inl rfl) (.inl rfl) rfl (.inl rfl)
  | sample now => exact keep _ (sample_control s.driver now)
  | sampleBatch now => exact keep _ (sampleBatch_control s.driver now)
  | clearSamples now => exact keep _ rfl

theorem Hushed.silent {s : System} (hushed : Hushed s) : Silent s := by
  intro later others index input
  have stays : Hushed (run System.step s later) := by
    induction later generalizing s with
    | nil => exact hushed
    | cons action rest ih =>
      apply ih (hushed_step s action hushed (others action List.mem_cons_self))
      exact fun other member => others other (List.mem_cons_of_mem _ member)
  exact (hushed_stepLoop stays index input).2

/-! ### The exits -/

theorem getParameter_closes (channel : Channel) (outcome : Outcome) (index subindex : String)
    (shut : channel.connection.isOpen = false) (single : channel.connection.persistent = false) :
    (channel.getParameter outcome index subindex).1.connection.isOpen = false ∧
      (channel.getParameter outcome index subindex).1.connection.persistent = false := by
  unfold Channel.getParameter Channel.withLock
  exact Channel.parameterCall_closes _ outcome _ _ _ shut single

theorem configureOutputRate_closes (channel : Channel) (outcome : Outcome) (parameterValue : String)
    (shut : channel.connection.isOpen = false) (single : channel.connection.persistent = false) :
    (channel.configureOutputRate outcome parameterValue).1.connection.isOpen = false ∧
      (channel.configureOutputRate outcome parameterValue).1.connection.persistent = false := by
  unfold Channel.configureOutputRate Channel.setParameter
  exact Channel.parameterCall_closes _ outcome _ _ _ shut single

/-- An idle driver whose loops are calm stays silent. -/
theorem Idle.back {s : System} (idle : Idle s.driver) (calm : NoAttempt s)
    (call : ∀ autoReconnect, s.call ≠ .opening autoReconnect ∧ s.call ≠ .spawning autoReconnect) :
    Idle s.driver ∧ Silent s :=
  ⟨idle, Hushed.silent ⟨idle.streaming, idle.reconnects, calm, call⟩⟩

/-- An exit that leaves the loops alone and the driver idle. -/
theorem exit_idle (s : System) {after : System} (driver : SensorDriver) (call : CallPhase)
    (exit : after = { s with driver := driver, call := call }) (idle : Idle driver)
    (calm : NoAttempt s) : Idle after.driver ∧ NoAttempt after := by
  rw [exit]
  exact ⟨idle, calm⟩

/-- A request that raises on a closed connection leaves the driver as it was. -/
theorem raised_idle {s after : System} (channel : Channel) (error : PyError)
    (raised : after =
      { s with driver := { s.driver with channel := channel }, call := .raisedOn error })
    (before : s.driver.isStreaming = false ∧ Settled s)
    (closes : channel.connection.isOpen = false ∧ channel.connection.persistent = false) :
    Idle after.driver ∧ NoAttempt after :=
  exit_idle s _ _ raised ⟨before.1, before.2.reconnects, closes.1, closes.2⟩ before.2.calm

/-- An exit with nothing left to undo leaves an idle driver and calm loops. -/
theorem main_idle (s : System) (input : MainInput) (nothing : NothingLeft s (.main input))
    (fails : Fails s (.main input)) :
    Idle (s.mainStep input).driver ∧ NoAttempt (s.mainStep input) := by
  obtain ⟨busy, failed⟩ := fails
  cases here : s.call with
  | opening autoReconnect =>
    simp only [NothingLeft, here] at nothing
    rcases opened : s.driver.channel.openUp input.opening with ⟨channel, _ | _⟩
    · have spec := s.driver.channel.openUp_spec input.opening
      rw [opened] at nothing spec
      obtain ⟨reconnects, single, calm⟩ := nothing rfl
      apply exit_idle s { s.driver with channel := channel, isStreaming := false }
        (.returnedOn false)
      · simp only [System.mainStep, here, opened, Bool.false_eq_true, if_false]
      · exact ⟨rfl, reconnects, spec.1, spec.2.trans single⟩
      · exact calm
    · simp [System.mainStep, here, opened] at failed
  | spawning autoReconnect => simp [System.mainStep, here] at failed
  | awaitingStream =>
    simp only [System.mainStep, here] at failed
    split_ifs at failed <;> simp at failed
  | pausing =>
    simp only [NothingLeft, here] at nothing
    cases late : input.late with
    | false => simp [System.mainStep, here, late] at failed
    | true =>
      obtain ⟨reconnects, closed, single, calm⟩ := nothing late
      apply exit_idle s { s.driver with isStreaming := false } (.returnedOn false)
      · simp only [System.mainStep, here, late, if_true]
      · exact ⟨rfl, reconnects, closed, single⟩
      · exact calm
  | readingName =>
    simp only [NothingLeft, here] at nothing
    rcases answer : s.driver.channel.getParameter input.outcome "0001" "00" with
      ⟨channel, error | response⟩
    · have before := nothing (by simp [answer])
      have closes := getParameter_closes s.driver.channel input.outcome "0001" "00"
        before.2.closed before.2.single
      rw [answer] at closes
      exact raised_idle channel error (by simp only [System.mainStep, here, answer]) before closes
    · simp [System.mainStep, here, answer] at failed
  | readingId =>
    simp only [NothingLeft, here] at nothing
    rcases answer : s.driver.channel.getParameter input.outcome "0001" "03" with
      ⟨channel, error | response⟩
    · have before := nothing (by simp [answer])
      have closes := getParameter_closes s.driver.channel input.outcome "0001" "03"
        before.2.closed before.2.single
      rw [answer] at closes
      exact raised_idle channel error (by simp only [System.mainStep, here, answer]) before closes
    · simp [System.mainStep, here, answer] at failed
  | configuring =>
    simp only [NothingLeft, here] at nothing
    rcases answer : s.driver.channel.configureOutputRate input.outcome
      s.driver.outputRate.mode.parameterValue with ⟨channel, error | (_ | _)⟩
    · rw [answer] at nothing
      have closes := configureOutputRate_closes s.driver.channel input.outcome
        s.driver.outputRate.mode.parameterValue nothing.2.closed nothing.2.single
      rw [answer] at closes
      exact raised_idle channel error (by simp only [System.mainStep, here, answer]) nothing closes
    · rw [answer] at nothing
      have fresh := channel.close_connection
      apply exit_idle s
        { s.driver with channel := channel.close, isStreaming := false, autoReconnect := false }
        (.returnedOn false)
      · simp only [System.mainStep, here, answer]
      · exact ⟨rfl, rfl, congrArg Connection.isOpen fresh, congrArg Connection.persistent fresh⟩
      · exact nothing
    · simp [System.mainStep, here, answer] at failed
  | startingStream =>
    simp only [NothingLeft, here] at nothing
    obtain ⟨response, answer⟩ := nothing
    rcases result : s.driver.channel.startUdpStream input.outcome with ⟨channel, ended⟩
    rw [result] at answer
    simp only at answer
    simp [System.mainStep, here, result, answer] at failed
  | stopping =>
    simp only [System.mainStep, here] at failed
    split at failed <;> simp at failed
  | clearing => simp [System.mainStep, here] at failed
  | joining =>
    simp only [System.mainStep, here] at failed
    split_ifs at failed <;> simp [here] at failed
  | closing => simp [System.mainStep, here] at failed
  | _ => rw [here] at busy; cases busy

theorem main_backToIdle (s : System) (input : MainInput) (nothing : NothingLeft s (.main input)) :
    BackToIdle s (.main input) := by
  intro fails
  obtain ⟨idle, calm⟩ := main_idle s input nothing fails
  apply Idle.back idle calm
  intro autoReconnect
  rcases fails.2 with refused | ⟨error, raised⟩
  · simp [refused]
  · simp [raised]

theorem nothingLeft_backToIdle (s : System) (action : Action) (nothing : NothingLeft s action) :
    BackToIdle s action := by
  cases action with
  | streamingOn floatTimeout autoReconnect =>
    rintro ⟨free, failed⟩
    cases streaming : s.driver.isStreaming with
    | true => simp [System.streamingOn, streaming] at failed
    | false =>
      cases floatTimeout with
      | true => simp [System.streamingOn, streaming] at failed
      | false =>
        obtain ⟨reconnects, closed, single, calm⟩ := nothing free streaming rfl
        simp only [System.step, free, System.streamingOn, streaming]
        exact Idle.back ⟨rfl, reconnects, closed, single⟩ calm (fun _ => by simp)
  | main input => exact main_backToIdle s input nothing
  | _ => exact fun failed => failed.elim

/-- A request that raises has had its reply, so that the socket is closed after it. -/
theorem parameterCall_raised {α : Type} (channel : Channel) (outcome : Outcome)
    (frame : Result Bytes) (fromBytes : Bytes → Result α) (empty : α) (error : PyError)
    (single : channel.connection.persistent = false)
    (before : channel.connection.socket ≠ .connected)
    (raised : (channel.parameterCall outcome frame fromBytes empty).2 = .error error) :
    (channel.parameterCall outcome frame fromBytes empty).1.connection.socket ≠ .connected := by
  cases frame with
  | error wrong => exact before
  | ok msg =>
    rw [channel.parameterCall_ok] at raised ⊢
    split_ifs at raised ⊢ with entered
    cases received : outcome.received with
    | none =>
      rw [received] at raised
      cases raised
    | some data =>
      have kept := channel.connection.enter_persistent outcome.opening
      simp only [Connection.receive, entered, if_true, Connection.exit, kept, single,
        Bool.false_eq_true, if_false, Connection.closeSocket]
      simp

theorem getParameter_raised (channel : Channel) (outcome : Outcome) (index subindex : String)
    (error : PyError) (single : channel.connection.persistent = false)
    (before : channel.connection.socket ≠ .connected)
    (raised : (channel.getParameter outcome index subindex).2 = .error error) :
    (channel.getParameter outcome index subindex).1.connection.socket ≠ .connected := by
  unfold Channel.getParameter Channel.withLock at raised ⊢
  exact parameterCall_raised _ outcome _ _ _ error single before raised

theorem configureOutputRate_raised (channel : Channel) (outcome : Outcome) (parameterValue : String)
    (error : PyError) (single : channel.connection.persistent = false)
    (before : channel.connection.socket ≠ .connected)
    (raised : (channel.configureOutputRate outcome parameterValue).2 = .error error) :
    (channel.configureOutputRate outcome parameterValue).1.connection.socket ≠ .connected := by
  unfold Channel.configureOutputRate Channel.setParameter at raised ⊢
  apply parameterCall_raised channel outcome _ _ _ error single before
  rcases answer : channel.parameterCall outcome
    (Requests.setParameterFrame parameterValue "1020" "00")
    Messages.SetParameterResponse.fromBytes {} with ⟨after, response⟩
  rw [answer] at raised
  cases response with
  | ok response => cases raised
  | error wrong =>
    cases raised
    rfl

/-- The last step of a failing call leaves no socket connected that was not so before it: by a
request of another thread, in a `with` block of its own, whose reply has not come. -/
theorem failed_socket (s : System) (action : Action) (nothing : NothingLeft s action)
    (fails : Fails s action) (before : s.driver.channel.connection.socket ≠ .connected) :
    (s.step action).driver.channel.connection.socket ≠ .connected := by
  cases action with
  | streamingOn floatTimeout autoReconnect =>
    simp only [System.step, fails.1, Bool.false_eq_true, if_false, System.streamingOn]
    split_ifs <;> exact before
  | main input =>
    obtain ⟨busy, failed⟩ := fails
    simp only [System.step]
    cases here : s.call with
    | opening autoReconnect =>
      simp only [System.mainStep, here] at failed ⊢
      split_ifs at failed ⊢ with opened
      · simp at failed
      · simp only [Channel.openUp, Connection.openUp, Connection.enter, Connection.resetSocket,
          Opening.connects] at opened ⊢
        split_ifs at opened ⊢ <;> simp_all
    | pausing =>
      simp only [System.mainStep, here]
      split_ifs <;> exact before
    | readingName =>
      simp only [NothingLeft, here] at nothing
      rcases answer : s.driver.channel.getParameter input.outcome "0001" "00" with
        ⟨channel, error | response⟩
      · have settled := (nothing (by simp [answer])).2
        have after := getParameter_raised s.driver.channel input.outcome "0001" "00" error
          settled.single before (by rw [answer])
        simpa only [System.mainStep, here, answer] using after
      · simp [System.mainStep, here, answer] at failed
    | readingId =>
      simp only [NothingLeft, here] at nothing
      rcases answer : s.driver.channel.getParameter input.outcome "0001" "03" with
        ⟨channel, error | response⟩
      · have settled := (nothing (by simp [answer])).2
        have after := getParameter_raised s.driver.channel input.outcome "0001" "03" error
          settled.single before (by rw [answer])
        simpa only [System.mainStep, here, answer] using after
      · simp [System.mainStep, here, answer] at failed
    | configuring =>
      simp only [NothingLeft, here] at nothing
      rcases answer : s.driver.channel.configureOutputRate input.outcome
        s.driver.outputRate.mode.parameterValue with ⟨channel, error | (_ | _)⟩
      · rw [answer] at nothing
        have after := configureOutputRate_raised s.driver.channel input.outcome _ error
          nothing.2.single before (by rw [answer])
        simpa only [System.mainStep, here, answer] using after
      · simp [System.mainStep, here, answer, Connection.new]
      · simp [System.mainStep, here, answer] at failed
    | startingStream =>
      simp only [NothingLeft, here] at nothing
      obtain ⟨response, answer⟩ := nothing
      rcases result : s.driver.channel.startUdpStream input.outcome with ⟨channel, ended⟩
      rw [result] at answer
      simp only at answer
      simp [System.mainStep, here, result, answer] at failed
    | spawning autoReconnect => simp [System.mainStep, here] at failed
    | awaitingStream =>
      simp only [System.mainStep, here] at failed
      split_ifs at failed <;> simp at failed
    | stopping =>
      simp only [System.mainStep, here] at failed
      split at failed <;> simp at failed
    | clearing => simp [System.mainStep, here] at failed
    | joining =>
      simp only [System.mainStep, here] at failed
      split_ifs at failed <;> simp [here] at failed
    | closing => simp [System.mainStep, here] at failed
    | _ => rw [here] at busy; cases busy
  | _ => exact fails.elim

/-! ### Runs of whole calls -/

/-- The call breaks off: its wait for the port is over, or a reply cannot be decoded. -/
def BreaksOff (s : System) (input : MainInput) : Prop :=
  match s.call with
  | .pausing => input.late = true
  | .readingName =>
      ∃ error, (s.driver.channel.getParameter input.outcome "0001" "00").2 = .error error
  | .readingId =>
      ∃ error, (s.driver.channel.getParameter input.outcome "0001" "03").2 = .error error
  | .configuring =>
      ∃ error, (s.driver.channel.configureOutputRate input.outcome
        s.driver.outputRate.mode.parameterValue).2 = .error error
  | .startingStream => ∃ error, (s.driver.channel.startUdpStream input.outcome).2 = .error error
  | _ => False

/-- The sensor does not accept the output rate. -/
def Refused (s : System) (input : MainInput) : Prop :=
  s.call = .configuring ∧ (s.driver.channel.configureOutputRate input.outcome
    s.driver.outputRate.mode.parameterValue).2 = .ok false

/-- The loop of the call has noticed a silence. -/
def Noticed (s : System) : Prop := ∀ loop, s.loops.getLast? = some loop → loop.connectionLost = true

/-- The system, and the `auto_reconnect` with which `streaming_on` has been called last. -/
structure Called where
  system : System
  autoReconnect : Bool

def Called.new (streamingPort : Int) (sourceIp : Option String)
    (outputRate : DriverSettings.OutputRate) (now : Int) : Called where
  system := .new streamingPort sourceIp outputRate now
  autoReconnect := false

/-- While another call holds `_streaming_lock`, a call is not made yet. -/
def Called.step (c : Called) (action : Action) : Called where
  system := c.system.step action
  autoReconnect :=
    match action with
    | .streamingOn _ autoReconnect =>
        if c.system.call.inProgress then c.autoReconnect else autoReconnect
    | _ => c.autoReconnect

/-- A call starts its loop when the last one has ended; it breaks off only if it was made without
`auto_reconnect` and its loop has noticed a silence; and it is refused the output rate while no loop
is in an attempt to reconnect. -/
def Meets (c : Called) : Action → Prop
  | .main input =>
      SingleLoop.Meets c.system (.main input) ∧
        (BreaksOff c.system input → c.autoReconnect = false ∧ Noticed c.system) ∧
        (Refused c.system input → NoAttempt c.system)
  | _ => True

/-- What the condition comes to: a loop that has noticed a silence and is not to reconnect has turned
`is_streaming` off. -/
def Orderly (s : System) : Action → Prop
  | .main input =>
      SingleLoop.Meets s (.main input) ∧ (BreaksOff s input → s.driver.isStreaming = false) ∧
        (Refused s input → NoAttempt s)
  | _ => True

/-- The call has opened the connection, or is about to close it. -/
def CallPhase.holds : CallPhase → Bool
  | .spawning _ => true
  | .joining => true
  | .closing => true
  | _ => false

/-- What is so between the calls and while they go on. -/
structure Kept (s : System) : Prop where
  exclusive : Exclusive s
  begins : ∀ autoReconnect, s.call = .opening autoReconnect ∨ s.call = .spawning autoReconnect →
    s.driver.isStreaming = false
  alive : s.driver.isStreaming = true → s.threadAlive = true
  lost : s.driver.isStreaming = true → s.driver.autoReconnect = false →
    ∀ loop ∈ s.loops, loop.isAlive = true → loop.connectionLost = false
  reconnects : s.driver.isStreaming = false → s.driver.autoReconnect = false
  shut : s.driver.isStreaming = false → CallPhase.holds s.call = false →
    s.driver.channel.connection.isOpen = false ∧ s.driver.channel.connection.persistent = false
  calm : s.driver.isStreaming = false → s.call ≠ .joining → NoAttempt s

theorem Kept.new (streamingPort : Int) (sourceIp : Option String)
    (outputRate : DriverSettings.OutputRate) (now : Int) :
    Kept (.new streamingPort sourceIp outputRate now) where
  exclusive := ⟨fun index ⟨loop, there, _⟩ => by simp [System.new] at there, fun ending => by
    simp [System.new] at ending⟩
  begins := fun _ _ => rfl
  alive := nofun
  lost := nofun
  reconnects := fun _ => rfl
  shut := fun _ _ => ⟨rfl, rfl⟩
  calm := fun _ _ loop member => by simp [System.new] at member

theorem Kept.noticed {s : System} (kept : Kept s) (off : s.driver.autoReconnect = false)
    (noticed : Noticed s) : s.driver.isStreaming = false := by
  by_contra streaming
  have on : s.driver.isStreaming = true := Bool.not_eq_false _ ▸ streaming
  have alive := kept.alive on
  unfold System.threadAlive at alive
  cases last : s.loops.getLast? with
  | none =>
    rw [last] at alive
    cases alive
  | some loop =>
    rw [last] at alive
    have unnoticed := kept.lost on off loop (List.mem_of_getLast? last) alive
    rw [noticed loop last] at unnoticed
    cases unnoticed

theorem Kept.settled {s : System} (kept : Kept s) (off : s.driver.isStreaming = false)
    (free : CallPhase.holds s.call = false) : Settled s := by
  obtain ⟨closed, single⟩ := kept.shut off free
  refine ⟨kept.reconnects off, closed, single, kept.calm off (fun joining => ?_)⟩
  rw [joining] at free
  cases free

/-- What the condition says of a step is what the exits need. -/
theorem Kept.nothingLeft {s : System} (kept : Kept s) (action : Action)
    (orderly : Orderly s action) : NothingLeft s action := by
  cases action with
  | streamingOn floatTimeout autoReconnect =>
    intro free off _
    apply kept.settled off
    cases here : s.call with
    | _ => first | rfl | (rw [here] at free; cases free)
  | main input =>
    obtain ⟨_, breaks, refused⟩ := orderly
    have broken (breaksOff : BreaksOff s input) (free : CallPhase.holds s.call = false) :
        s.driver.isStreaming = false ∧ Settled s :=
      ⟨breaks breaksOff, kept.settled (breaks breaksOff) free⟩
    have raised {α : Type} {result : Result α} (never : ∀ response, result ≠ .ok response) :
        ∃ error, result = .error error := by
      cases result with
      | error error => exact ⟨error, rfl⟩
      | ok response => exact absurd rfl (never response)
    cases here : s.call with
    | opening autoReconnect =>
      simp only [NothingLeft, here]
      intro _
      have off := kept.begins autoReconnect (.inl here)
      have settled := kept.settled off (by rw [here]; rfl)
      exact ⟨settled.reconnects, settled.single, settled.calm⟩
    | pausing =>
      simp only [NothingLeft, BreaksOff, here] at broken ⊢
      exact fun late => (broken late rfl).2
    | readingName =>
      simp only [NothingLeft, BreaksOff, here] at broken ⊢
      exact fun never => broken (raised never) rfl
    | readingId =>
      simp only [NothingLeft, BreaksOff, here] at broken ⊢
      exact fun never => broken (raised never) rfl
    | configuring =>
      simp only [NothingLeft, BreaksOff, Refused, here] at broken refused ⊢
      split
      next => trivial
      next no => exact refused ⟨trivial, no⟩
      next error failed => exact broken ⟨error, failed⟩ rfl
    | startingStream =>
      simp only [NothingLeft, BreaksOff, here] at broken ⊢
      cases answered : (s.driver.channel.startUdpStream input.outcome).2 with
      | ok response => exact ⟨response, rfl⟩
      | error error =>
        -- a loop that has given up has closed the connection, and then no command is sent
        have settled := (broken ⟨error, answered⟩ rfl).2
        rw [Channel.startUdpStream, Channel.runCommand] at answered
        have framed : Requests.commandFrame "40" = .ok [0xff, 0xff, 0, 0, 1, 0, 0x40] := by decide
        rw [framed, Channel.commandCall_closed _ _ _ settled.closed] at answered
        cases answered
    | _ => simp only [NothingLeft, here]
  | _ => trivial

/-- A step that leaves the flags and the loops alone. -/
theorem Kept.move {s after : System} (kept : Kept s) (exclusive : Exclusive after)
    (streaming : after.driver.isStreaming = s.driver.isStreaming)
    (reconnects : after.driver.autoReconnect = s.driver.autoReconnect)
    (loops : after.loops = s.loops)
    (begins : ∀ autoReconnect,
      after.call = .opening autoReconnect ∨ after.call = .spawning autoReconnect →
        s.driver.isStreaming = false)
    (shut : s.driver.isStreaming = false → CallPhase.holds after.call = false →
      after.driver.channel.connection.isOpen = false ∧
        after.driver.channel.connection.persistent = false)
    (calm : s.driver.isStreaming = false → after.call ≠ .joining → NoAttempt s) : Kept after where
  exclusive := exclusive
  begins autoReconnect here := streaming.trans (begins autoReconnect here)
  alive on := by
    have before := kept.alive (streaming.symm.trans on)
    unfold System.threadAlive at before ⊢
    rwa [loops]
  lost on off := by
    rw [loops]
    exact kept.lost (streaming.symm.trans on) (reconnects.symm.trans off)
  reconnects off := reconnects.trans (kept.reconnects (streaming.symm.trans off))
  shut off free := shut (streaming.symm.trans off) free
  calm off other := by
    unfold NoAttempt
    rw [loops]
    exact calm (streaming.symm.trans off) other

/-- Nothing streams any more. -/
theorem Kept.off {after : System} (exclusive : Exclusive after)
    (streaming : after.driver.isStreaming = false)
    (reconnects : after.driver.autoReconnect = false)
    (shut : CallPhase.holds after.call = false →
      after.driver.channel.connection.isOpen = false ∧
        after.driver.channel.connection.persistent = false)
    (calm : after.call ≠ .joining → NoAttempt after) : Kept after where
  exclusive := exclusive
  begins _ _ := streaming
  alive on := absurd (streaming.symm.trans on) (by decide)
  lost on := absurd (streaming.symm.trans on) (by decide)
  reconnects _ := reconnects
  shut _ := shut
  calm _ := calm

theorem noAttempt_of_none {s : System} (none : ∀ index, ¬Runs s index) : NoAttempt s := by
  intro loop member
  obtain ⟨index, inside, rfl⟩ := List.getElem_of_mem member
  have ended : ¬s.loops[index].isAlive = true :=
    fun alive => none index ⟨_, List.getElem?_eq_getElem inside, alive⟩
  simp only [Loop.isAlive, decide_eq_true_eq, not_not] at ended
  rw [ended]
  rfl

/-- A request on a connection that is closed between the calls leaves it closed. -/
theorem commandCall_closes (channel : Channel) (outcome : Outcome)
    (frame : Result Bytes) (shut : channel.connection.isOpen = false) :
    (channel.commandCall outcome frame).1 = channel := by
  cases frame with
  | error error => rfl
  | ok msg => rw [Channel.commandCall_closed channel outcome msg shut]

theorem perform_closes (channel : Channel) (outcome : Outcome) (command : Command)
    (shut : channel.connection.isOpen = false) (single : channel.connection.persistent = false) :
    (command.perform channel outcome).connection.isOpen = false ∧
      (command.perform channel outcome).connection.persistent = false := by
  have selects (id : String) (last argument : Int) :
      (channel.select outcome id last argument).1 = channel := by
    unfold Channel.select
    split_ifs
    · exact commandCall_closes channel outcome _ shut
    · rfl
  cases command with
  | getParameter index subindex => exact getParameter_closes channel outcome _ _ shut single
  | setParameter value index subindex =>
    exact Channel.parameterCall_closes channel outcome _ _ _ shut single
  | runCommand command =>
    simp only [Command.perform, Channel.runCommand, commandCall_closes channel outcome _ shut]
    exact ⟨shut, single⟩
  | selectToolSetting toolIndex =>
    simp only [Command.perform, selects]
    exact ⟨shut, single⟩
  | selectNoiseFilter filterNumber =>
    simp only [Command.perform, selects]
    exact ⟨shut, single⟩

/-- A request of the call, or a phase without one. -/
theorem Kept.request {s : System} (kept : Kept s) (channel : Channel) (call : CallPhase)
    (name hardwareId : String)
    (exclusive : Exclusive { s with
      driver := { s.driver with channel := channel, name := name, hardwareId := hardwareId }
      call := call })
    (here : CallPhase.holds s.call = false)
    (next : ∀ autoReconnect, call ≠ .opening autoReconnect ∧ call ≠ .spawning autoReconnect)
    (closes : s.driver.channel.connection.isOpen = false →
      s.driver.channel.connection.persistent = false →
        channel.connection.isOpen = false ∧ channel.connection.persistent = false) :
    Kept { s with
      driver := { s.driver with channel := channel, name := name, hardwareId := hardwareId }
      call := call } := by
  apply kept.move exclusive rfl rfl rfl
  · intro autoReconnect begins
    exact (begins.elim (next autoReconnect).1 (next autoReconnect).2).elim
  · intro off _
    obtain ⟨shut, single⟩ := kept.shut off here
    exact closes shut single
  · intro off _
    apply kept.calm off
    intro joining
    rw [joining] at here
    cases here

theorem startUdpStream_closes (channel : Channel) (outcome : Outcome)
    (shut : channel.connection.isOpen = false) :
    (channel.startUdpStream outcome).1 = channel ∧ (channel.stopUdpStream outcome).1 = channel :=
  ⟨commandCall_closes channel outcome _ shut, commandCall_closes channel outcome _ shut⟩

theorem kept_main {s : System} (kept : Kept s) (input : MainInput)
    (orderly : Orderly s (.main input)) : Kept (s.mainStep input) := by
  have exclusive := exclusive_step s (.main input) kept.exclusive orderly.1
  obtain ⟨starts, breaks, refused⟩ := orderly
  simp only [System.step] at exclusive
  cases here : s.call with
  | opening autoReconnect =>
    have off := kept.begins autoReconnect (.inl here)
    have spec := s.driver.channel.openUp_spec input.opening
    have settled := kept.settled off (by rw [here]; rfl)
    simp only [System.mainStep, here] at exclusive ⊢
    split_ifs at exclusive ⊢ with opened
    · exact kept.move exclusive rfl rfl rfl (fun _ _ => off)
        (fun _ held => by cases held) (fun _ _ => settled.calm)
    · refine Kept.off exclusive rfl settled.reconnects (fun _ => ?_) (fun _ => settled.calm)
      rw [Bool.not_eq_true] at opened
      rw [opened, settled.single] at spec
      exact spec
  | spawning autoReconnect =>
    have none := kept.exclusive.none_of_not_alive (starts autoReconnect here)
    simp only [System.mainStep, here] at exclusive ⊢
    refine ⟨exclusive, by simp, ?_, ?_, by simp, by simp, by simp⟩
    · intro _
      simp [System.threadAlive, Loop.isAlive, Loop.new]
    · intro _ _ loop member alive
      rcases List.mem_append.mp member with old | new
      · obtain ⟨index, inside, rfl⟩ := List.getElem_of_mem old
        exact absurd ⟨_, List.getElem?_eq_getElem inside, alive⟩ (none index)
      · rw [List.mem_singleton.mp new]
        rfl
  | awaitingStream =>
    simp only [System.mainStep, here] at exclusive ⊢
    refine kept.request s.driver.channel _ _ _ exclusive (by rw [here]; rfl) (fun _ => ?_)
      (fun shut single => ⟨shut, single⟩)
    split_ifs <;> simp
  | pausing =>
    cases late : input.late with
    | false =>
      simp only [System.mainStep, here, late] at exclusive ⊢
      exact kept.request s.driver.channel _ _ _ exclusive (by rw [here]; rfl) (fun _ => by simp)
        (fun shut single => ⟨shut, single⟩)
    | true =>
      have off := breaks (by simp only [BreaksOff, here, late])
      have settled := kept.settled off (by rw [here]; rfl)
      simp only [System.mainStep, here, late] at exclusive ⊢
      exact Kept.off exclusive rfl settled.reconnects
        (fun _ => ⟨settled.closed, settled.single⟩) (fun _ => settled.calm)
  | readingName =>
    have closes := getParameter_closes s.driver.channel input.outcome "0001" "00"
    rcases answer : s.driver.channel.getParameter input.outcome "0001" "00" with
      ⟨channel, error | response⟩
    · rw [answer] at closes
      simp only [System.mainStep, here, answer] at exclusive ⊢
      exact kept.request channel _ _ _ exclusive (by rw [here]; rfl) (fun _ => by simp) closes
    · rw [answer] at closes
      simp only [System.mainStep, here, answer] at exclusive ⊢
      exact kept.request channel _ _ _ exclusive (by rw [here]; rfl) (fun _ => by simp) closes
  | readingId =>
    have closes := getParameter_closes s.driver.channel input.outcome "0001" "03"
    rcases answer : s.driver.channel.getParameter input.outcome "0001" "03" with
      ⟨channel, error | response⟩
    · rw [answer] at closes
      simp only [System.mainStep, here, answer] at exclusive ⊢
      exact kept.request channel _ _ _ exclusive (by rw [here]; rfl) (fun _ => by simp) closes
    · rw [answer] at closes
      simp only [System.mainStep, here, answer] at exclusive ⊢
      exact kept.request channel _ _ _ exclusive (by rw [here]; rfl) (fun _ => by simp) closes
  | configuring =>
    have closes := configureOutputRate_closes s.driver.channel input.outcome
      s.driver.outputRate.mode.parameterValue
    rcases answer : s.driver.channel.configureOutputRate input.outcome
      s.driver.outputRate.mode.parameterValue with ⟨channel, error | (_ | _)⟩
    · rw [answer] at closes
      simp only [System.mainStep, here, answer] at exclusive ⊢
      exact kept.request channel _ _ _ exclusive (by rw [here]; rfl) (fun _ => by simp) closes
    · have calm := refused ⟨here, by rw [answer]⟩
      have fresh := channel.close_connection
      simp only [System.mainStep, here, answer] at exclusive ⊢
      exact Kept.off exclusive rfl rfl
        (fun _ => ⟨congrArg Connection.isOpen fresh, congrArg Connection.persistent fresh⟩)
        (fun _ => calm)
    · rw [answer] at closes
      simp only [System.mainStep, here, answer] at exclusive ⊢
      exact kept.request channel _ _ _ exclusive (by rw [here]; rfl) (fun _ => by simp) closes
  | startingStream =>
    have closes (shut : s.driver.channel.connection.isOpen = false)
        (single : s.driver.channel.connection.persistent = false) :
        (s.driver.channel.startUdpStream input.outcome).1.connection.isOpen = false ∧
          (s.driver.channel.startUdpStream input.outcome).1.connection.persistent = false := by
      rw [(startUdpStream_closes s.driver.channel input.outcome shut).1]
      exact ⟨shut, single⟩
    rcases answer : s.driver.channel.startUdpStream input.outcome with ⟨channel, error | response⟩
    · rw [answer] at closes
      simp only [System.mainStep, here, answer] at exclusive ⊢
      exact kept.request channel _ _ _ exclusive (by rw [here]; rfl) (fun _ => by simp) closes
    · rw [answer] at closes
      simp only [System.mainStep, here, answer] at exclusive ⊢
      exact kept.request channel _ _ _ exclusive (by rw [here]; rfl) (fun _ => by simp) closes
  | stopping =>
    have closes (shut : s.driver.channel.connection.isOpen = false)
        (single : s.driver.channel.connection.persistent = false) :
        (s.driver.channel.stopUdpStream input.outcome).1.connection.isOpen = false ∧
          (s.driver.channel.stopUdpStream input.outcome).1.connection.persistent = false := by
      rw [(startUdpStream_closes s.driver.channel input.outcome shut).2]
      exact ⟨shut, single⟩
    rcases answer : s.driver.channel.stopUdpStream input.outcome with ⟨channel, error | response⟩
    · rw [answer] at closes
      simp only [System.mainStep, here, answer] at exclusive ⊢
      exact kept.request channel _ _ _ exclusive (by rw [here]; rfl) (fun _ => by simp) closes
    · rw [answer] at closes
      simp only [System.mainStep, here, answer] at exclusive ⊢
      exact kept.request channel _ _ _ exclusive (by rw [here]; rfl) (fun _ => by simp) closes
  | clearing =>
    simp only [System.mainStep, here] at exclusive ⊢
    exact Kept.off exclusive rfl rfl (fun held => by cases held) (fun other => absurd rfl other)
  | joining =>
    simp only [System.mainStep, here] at exclusive ⊢
    split_ifs at exclusive ⊢ with alive
    · exact kept
    · have none := kept.exclusive.none_of_not_alive (Bool.eq_false_iff.mpr alive)
      exact kept.move exclusive rfl rfl rfl (by simp) (fun _ held => by cases held)
        (fun _ _ => noAttempt_of_none none)
  | closing =>
    have fresh := s.driver.channel.close_connection
    simp only [System.mainStep, here] at exclusive ⊢
    refine kept.move exclusive rfl rfl rfl (by simp) (fun _ _ => ?_) (fun off _ => ?_)
    · exact ⟨congrArg Connection.isOpen fresh, congrArg Connection.persistent fresh⟩
    · exact kept.calm off (by rw [here]; simp)
  | _ =>
    simp only [System.mainStep, here]
    exact kept

/-- What a step of a loop has to show of itself; the other loops are as before, and ended where the
step has turned `is_streaming` off. -/
theorem Kept.stepped {s : System} (kept : Kept s) (index : Nat) (loop next : Loop)
    (after : SensorDriver) (here : s.loops[index]? = some loop)
    (exclusive : Exclusive { s with driver := after, loops := s.loops.set index next })
    (reconnects : after.autoReconnect = s.driver.autoReconnect)
    (turned : after.isStreaming = s.driver.isStreaming ∨
      (after.isStreaming = false ∧ s.driver.autoReconnect = false))
    (alive : after.isStreaming = true → loop.isAlive = true → next.isAlive = true)
    (lost : after.isStreaming = true → s.driver.autoReconnect = false → next.isAlive = true →
      next.connectionLost = false)
    (ran : s.driver.isStreaming = true → after.isStreaming = false → loop.isAlive = true)
    (shut : after.isStreaming = false → CallPhase.holds s.call = false →
      after.channel.connection.isOpen = false ∧ after.channel.connection.persistent = false)
    (calm : after.isStreaming = false → s.call ≠ .joining → attempting next.phase = false) :
    Kept { s with driver := after, loops := s.loops.set index next } := by
  have before (on : after.isStreaming = true) : s.driver.isStreaming = true := by
    rcases turned with same | ⟨off, _⟩
    · exact same.symm.trans on
    · rw [off] at on
      cases on
  refine ⟨exclusive, ?_, ?_, ?_, ?_, shut, ?_⟩
  · intro autoReconnect begins
    rcases turned with same | ⟨off, _⟩
    · exact same.trans (kept.begins autoReconnect begins)
    · exact off
  · intro on
    have running := (SingleLoop.threadAlive_iff s).mp (kept.alive (before on))
    obtain ⟨last, there, lives⟩ := running
    apply (SingleLoop.threadAlive_iff _).mpr
    unfold Runs
    simp only [List.length_set, List.getElem?_set]
    split_ifs with same short
    · rw [← same, here] at there
      cases there
      exact ⟨next, rfl, alive on lives⟩
    · have inside := (List.getElem?_eq_some_iff.mp there).1
      omega
    · exact ⟨last, there, lives⟩
  · intro on off other member lives
    have offBefore : s.driver.autoReconnect = false := reconnects.symm.trans off
    rcases List.mem_or_eq_of_mem_set member with old | new
    · exact kept.lost (before on) offBefore other old lives
    · rw [new] at lives ⊢
      exact lost on offBefore lives
  · intro off
    rcases turned with same | ⟨_, without⟩
    · exact reconnects.trans (kept.reconnects (same.symm.trans off))
    · exact reconnects.trans without
  · intro off other
    cases streaming : s.driver.isStreaming with
    | false =>
      intro further member
      rcases List.mem_or_eq_of_mem_set member with old | new
      · exact kept.calm streaming other further old
      · exact new ▸ calm off other
    | true =>
      -- the loop that has run is the only one alive
      have single := kept.exclusive.last index ⟨loop, here, ran streaming off⟩
      intro further member
      obtain ⟨place, inside, rfl⟩ := List.getElem_of_mem member
      rw [List.length_set] at inside
      by_cases same : index = place
      · simp only [← same, List.getElem_set_self]
        exact calm off other
      · simp only [List.getElem_set_ne same]
        by_contra busy
        have lives : s.loops[place].isAlive = true := by
          by_contra ended
          simp only [Loop.isAlive, decide_eq_true_eq, not_not] at ended
          rw [ended] at busy
          exact busy rfl
        have := kept.exclusive.last place ⟨_, List.getElem?_eq_getElem inside, lives⟩
        omega

/-- A loop turns `is_streaming` off when it first notices a silence, and then it has closed the
connection; while it is off, no loop is in an attempt but under `join`. -/
theorem kept_loop {s : System} (kept : Kept s) (index : Nat) (input : LoopInput) :
    Kept (s.stepLoop index input) := by
  have exclusive := exclusive_step s (.loop index input) kept.exclusive trivial
  simp only [System.step] at exclusive
  unfold System.stepLoop at exclusive ⊢
  cases here : s.loops[index]? with
  | none => exact kept
  | some loop =>
    simp only [here] at exclusive ⊢
    have member := List.mem_of_getElem? here
    obtain ⟨reconnects, turned⟩ := loopStep_flags s.driver loop input
    -- a step that leaves the flags alone
    have keep {channel : Channel}
        (shared : control (loopStep s.driver loop input).1 =
          ⟨s.driver.isStreaming, s.driver.autoReconnect, channel⟩)
        (lives : s.driver.isStreaming = true → loop.isAlive = true →
          (loopStep s.driver loop input).2.isAlive = true)
        (lost : (loopStep s.driver loop input).2.connectionLost = false ∨
          (loopStep s.driver loop input).2.connectionLost = loop.connectionLost)
        (shut : s.driver.isStreaming = false → s.call ≠ .joining →
          channel.connection.isOpen = false ∧ channel.connection.persistent = false ∨
            channel = s.driver.channel)
        (calm : s.driver.isStreaming = false → s.call ≠ .joining →
          attempting (loopStep s.driver loop input).2.phase = false) :
        Kept { s with
          driver := (loopStep s.driver loop input).1
          loops := s.loops.set index (loopStep s.driver loop input).2 } := by
      obtain ⟨streaming, _, connection⟩ := Control.mk.inj shared
      apply kept.stepped index loop _ _ here exclusive reconnects turned
      · exact fun on => lives (streaming.symm.trans on)
      · intro on off alive
        rcases lost with restored | same
        · exact restored
        · exact same.trans (kept.lost (streaming.symm.trans on) off loop member
            (SingleLoop.isAlive_step s.driver loop input alive))
      · intro on off
        rw [streaming, on] at off
        cases off
      · intro off free
        have offBefore := streaming.symm.trans off
        rcases shut offBefore (fun joining => by rw [joining] at free; cases free) with closed | same
        · exact connection ▸ closed
        · exact connection ▸ same ▸ kept.shut offBefore free
      · exact fun off => calm (streaming.symm.trans off)
    -- a loop in an attempt while nothing streams is one that `join` waits for
    have noAttempt (busy : attempting loop.phase = true) (off : s.driver.isStreaming = false)
        (other : s.call ≠ .joining) : False := by
      rw [kept.calm off other loop member] at busy
      cases busy
    have unmoved : s.driver.isStreaming = false → s.call ≠ .joining →
        s.driver.channel.connection.isOpen = false ∧
            s.driver.channel.connection.persistent = false ∨ s.driver.channel = s.driver.channel :=
      fun _ _ => .inr rfl
    cases loopStep_moves s.driver loop input with
    | enter here same phase lost =>
      exact keep same (fun _ _ => by simp [Loop.isAlive, phase]) (.inl lost) unmoved
        (fun _ _ => phase ▸ rfl)
    | read packet rest here on packets same phase lost =>
      exact keep same (fun _ _ => by simp [Loop.isAlive, phase]) (.inl lost) unmoved
        (fun _ _ => phase ▸ rfl)
    | wait here on same still =>
      refine keep same (fun _ alive => ?_) (.inr (congrArg Loop.connectionLost still)) unmoved
        (fun off other => ?_)
      · rw [still]
        exact alive
      · rw [still]
        exact kept.calm off other loop member
    | lose here before on closed phase lost =>
      obtain ⟨streaming, _, connection⟩ := Control.mk.inj closed
      have fresh := s.driver.channel.close_connection
      apply kept.stepped index loop _ _ ‹_› exclusive reconnects turned
      · intro _ _
        rw [Loop.isAlive, phase]
        cases s.driver.autoReconnect <;> rfl
      · intro still off
        rw [streaming, off] at still
        cases still
      · intro _ _
        rw [Loop.isAlive, here]
        rfl
      · intro _ _
        rw [connection, fresh]
        exact ⟨rfl, rfl⟩
      · intro off _
        rw [phase, ← streaming, off]
        rfl
    | miss here before on same phase lost =>
      have flag : (s.driver.isStreaming && s.driver.autoReconnect) = s.driver.isStreaming := by
        cases streaming : s.driver.isStreaming with
        | false => rfl
        | true =>
          cases auto : s.driver.autoReconnect with
          | true => rfl
          | false =>
            have unnoticed := kept.lost streaming auto loop member (by rw [Loop.isAlive, here]; rfl)
            rw [before] at unnoticed
            cases unnoticed
      rw [flag] at same
      apply keep same _ (.inr (lost.trans before.symm)) unmoved
      · intro off _
        rw [phase, kept.reconnects off]
        rfl
      · intro _ _
        rw [Loop.isAlive, phase]
        cases s.driver.autoReconnect <;> rfl
    | finish here off same phase lost =>
      refine keep same (fun on => ?_) (.inr lost) unmoved (fun _ _ => phase ▸ rfl)
      rw [off] at on
      cases on
    | put packet rest here same phase lost =>
      refine keep same (fun _ _ => ?_) (.inr lost) unmoved (fun _ _ => ?_)
      · rw [Loop.isAlive, phase]
        cases rest <;> rfl
      · rw [phase]
        cases rest <;> rfl
    | close here closed phase lost =>
      have impossible := noAttempt (by rw [here]; rfl)
      exact keep closed (fun _ _ => by simp [Loop.isAlive, phase]) (.inr lost)
        (fun off other => (impossible off other).elim)
        (fun off other => (impossible off other).elim)
    | reopen opening here opened phase lost =>
      have impossible := noAttempt (by rw [here]; rfl)
      refine keep opened (fun _ _ => ?_) (.inr lost) (fun off other => (impossible off other).elim)
        (fun off other => (impossible off other).elim)
      rw [Loop.isAlive, phase]
      split_ifs <;> rfl
    | restart attempt channel reconnected here settled restarted phase lost =>
      have impossible := noAttempt (by rw [here]; rfl)
      refine keep restarted (fun _ _ => ?_) (.inr lost)
        (fun off other => (impossible off other).elim)
        (fun off other => (impossible off other).elim)
      rw [Loop.isAlive, phase]
      cases reconnected <;> rfl
    | restore here same phase lost =>
      exact keep same (fun _ _ => by simp [Loop.isAlive, phase]) (.inl lost) unmoved
        (fun _ _ => phase ▸ rfl)
    | rest here same still =>
      refine keep (congrArg LoopSteps.control same) (fun _ alive => ?_)
        (.inr (congrArg Loop.connectionLost still)) unmoved (fun off other => ?_)
      · rw [still]
        exact alive
      · rw [still]
        exact kept.calm off other loop member

theorem kept_step (s : System) (action : Action) (kept : Kept s) (orderly : Orderly s action) :
    Kept (s.step action) := by
  have same (after : SensorDriver) (shared : control after = control s.driver) :
      Kept { s with driver := after } := by
    obtain ⟨streaming, reconnects, channel⟩ := Control.mk.inj shared
    refine @Kept.move s { s with driver := after } kept
      (kept.exclusive.move rfl (fun _ runs => runs) id) streaming reconnects rfl kept.begins
      (fun off free => ?_) kept.calm
    rw [show ({ s with driver := after } : System).driver.channel = s.driver.channel from channel]
    exact kept.shut off free
  cases action with
  | streamingOn floatTimeout autoReconnect =>
    have exclusive := exclusive_step s (.streamingOn floatTimeout autoReconnect) kept.exclusive
      trivial
    simp only [System.step] at exclusive ⊢
    split_ifs at exclusive ⊢ with busy
    · exact kept
    · have free : CallPhase.holds s.call = false ∧ s.call ≠ .joining := by
        cases here : s.call with
        | _ => first | exact ⟨rfl, by simp⟩ | (rw [here] at busy; exact absurd rfl busy)
      unfold System.streamingOn at exclusive ⊢
      split_ifs at exclusive ⊢ with streaming float
      · exact kept.move exclusive rfl rfl rfl (by simp) (fun off _ => kept.shut off free.1)
          (fun off _ => kept.calm off free.2)
      · exact kept.move exclusive rfl rfl rfl (fun _ _ => Bool.eq_false_iff.mpr streaming)
          (fun off _ => kept.shut off free.1) (fun off _ => kept.calm off free.2)
      · exact kept.move exclusive (Bool.eq_false_iff.mpr streaming).symm rfl rfl (by simp)
          (fun off _ => kept.shut off free.1) (fun off _ => kept.calm off free.2)
  | streamingOff =>
    have exclusive := exclusive_step s .streamingOff kept.exclusive trivial
    simp only [System.step] at exclusive ⊢
    split_ifs at exclusive ⊢ with busy
    · exact kept
    · have free : CallPhase.holds s.call = false ∧ s.call ≠ .joining := by
        cases here : s.call with
        | _ => first | exact ⟨rfl, by simp⟩ | (rw [here] at busy; exact absurd rfl busy)
      exact kept.move exclusive rfl rfl rfl (by simp) (fun off _ => kept.shut off free.1)
        (fun off _ => kept.calm off free.2)
  | main input => exact kept_main kept input orderly
  | loop index input => exact kept_loop kept index input
  | arrive datagram => exact same _ (arrive_control s.driver datagram)
  | command command outcome =>
    refine kept.move (kept.exclusive.move rfl (fun _ runs => runs) id) rfl rfl rfl kept.begins
      (fun off free => ?_) kept.calm
    obtain ⟨shut, single⟩ := kept.shut off free
    exact perform_closes s.driver.channel outcome command shut single
  | sample now => exact same _ (sample_control s.driver now)
  | sampleBatch now => exact same _ (sampleBatch_control s.driver now)
  | clearSamples now => exact same _ rfl

/-! ### The argument of the call -/

/-- The call has set `auto_reconnect`, and is not at its end. -/
def CallPhase.started : CallPhase → Bool
  | .awaitingStream => true
  | .pausing => true
  | .readingName => true
  | .readingId => true
  | .configuring => true
  | .startingStream => true
  | _ => false

/-- The flag of a call in progress is its argument. -/
structure Made (c : Called) : Prop where
  begins : ∀ autoReconnect,
    c.system.call = .opening autoReconnect ∨ c.system.call = .spawning autoReconnect →
      autoReconnect = c.autoReconnect
  flag : CallPhase.started c.system.call = true → c.system.driver.autoReconnect = c.autoReconnect

theorem breaksOff_started {s : System} {input : MainInput} (breaksOff : BreaksOff s input) :
    CallPhase.started s.call = true := by
  unfold BreaksOff at breaksOff
  cases here : s.call with
  | pausing => rfl
  | readingName => rfl
  | readingId => rfl
  | configuring => rfl
  | startingStream => rfl
  | _ =>
    rw [here] at breaksOff
    exact breaksOff.elim

/-- A step that leaves the flag alone, unless the call is over with it. -/
theorem Made.keep {c : Called} (made : Made c) {after : System}
    (begins : ∀ autoReconnect, after.call = .opening autoReconnect ∨
      after.call = .spawning autoReconnect → autoReconnect = c.autoReconnect)
    (goesOn : CallPhase.started after.call = true → CallPhase.started c.system.call = true ∧
      after.driver.autoReconnect = c.system.driver.autoReconnect) :
    Made { c with system := after } where
  begins := begins
  flag started := (goesOn started).2.trans (made.flag (goesOn started).1)

theorem made_main {c : Called} (made : Made c) (input : MainInput) :
    Made { c with system := c.system.mainStep input } := by
  have ends {after : System} (call : ∀ autoReconnect, after.call ≠ .opening autoReconnect ∧
      after.call ≠ .spawning autoReconnect) (ended : CallPhase.started after.call = false) :
      Made { c with system := after } :=
    made.keep (fun autoReconnect begins => (begins.elim (call autoReconnect).1
      (call autoReconnect).2).elim) (fun started => by rw [ended] at started; cases started)
  have goesOn {after : System} (call : ∀ autoReconnect, after.call ≠ .opening autoReconnect ∧
      after.call ≠ .spawning autoReconnect) (started : CallPhase.started c.system.call = true)
      (same : after.driver.autoReconnect = c.system.driver.autoReconnect) :
      Made { c with system := after } :=
    made.keep (fun autoReconnect begins => (begins.elim (call autoReconnect).1
      (call autoReconnect).2).elim) (fun _ => ⟨started, same⟩)
  unfold System.mainStep
  split
  next autoReconnect here =>
    have asked := made.begins autoReconnect (.inl here)
    dsimp only
    split_ifs
    · refine made.keep (fun other begins => ?_) (fun started => by cases started)
      rcases begins with wrong | same
      · cases wrong
      · cases same
        exact asked
    · exact ends (fun _ => by simp) rfl
  next autoReconnect here =>
    refine ⟨fun _ wrong => ?_, fun _ => made.begins autoReconnect (.inr here)⟩
    rcases wrong with wrong | wrong <;> cases wrong
  next here =>
    have started : CallPhase.started c.system.call = true := congrArg CallPhase.started here
    refine goesOn (fun _ => ?_) started rfl
    dsimp only
    split_ifs <;> simp
  next here =>
    have started : CallPhase.started c.system.call = true := congrArg CallPhase.started here
    split
    next => exact ends (fun _ => by simp) rfl
    next => exact goesOn (fun _ => by simp) started rfl
  next here =>
    have started : CallPhase.started c.system.call = true := congrArg CallPhase.started here
    split
    next => exact goesOn (fun _ => by simp) started rfl
    next => exact ends (fun _ => by simp) rfl
  next here =>
    have started : CallPhase.started c.system.call = true := congrArg CallPhase.started here
    split
    next => exact goesOn (fun _ => by simp) started rfl
    next => exact ends (fun _ => by simp) rfl
  next here =>
    have started : CallPhase.started c.system.call = true := congrArg CallPhase.started here
    split
    next => exact goesOn (fun _ => by simp) started rfl
    next => exact ends (fun _ => by simp) rfl
    next => exact ends (fun _ => by simp) rfl
  next => split <;> exact ends (fun _ => by simp) rfl
  next => split <;> exact ends (fun _ => by simp) rfl
  next => exact ends (fun _ => by simp) rfl
  next =>
    split_ifs
    · exact made
    · exact ends (fun _ => by simp) rfl
  next => exact ends (fun _ => by simp) rfl
  next => exact made

theorem made_step (c : Called) (action : Action) (made : Made c) : Made (c.step action) := by
  have same (after : System) (call : after.call = c.system.call)
      (reconnects : after.driver.autoReconnect = c.system.driver.autoReconnect) :
      Made { c with system := after } :=
    made.keep (fun autoReconnect begins => made.begins autoReconnect (call ▸ begins))
      (fun started => ⟨call ▸ started, reconnects⟩)
  cases action with
  | streamingOn floatTimeout autoReconnect =>
    simp only [Called.step, System.step]
    split_ifs
    · exact made
    · unfold System.streamingOn
      split_ifs
      · exact ⟨by simp, by simp [CallPhase.started]⟩
      · exact ⟨by simp, by simp [CallPhase.started]⟩
      · exact ⟨by simp, by simp [CallPhase.started]⟩
  | streamingOff =>
    simp only [Called.step, System.step]
    split_ifs
    · exact made
    · exact made.keep (by simp) (by simp [CallPhase.started])
  | main input => exact made_main made input
  | loop index input =>
    simp only [Called.step, System.step]
    unfold System.stepLoop
    split
    next loop here => exact same _ rfl (loopStep_flags c.system.driver loop input).1
    next => exact made
  | arrive datagram =>
    exact same _ rfl (congrArg Control.autoReconnect (arrive_control c.system.driver datagram))
  | command command outcome => exact same _ rfl rfl
  | sample now =>
    exact same _ rfl (congrArg Control.autoReconnect (sample_control c.system.driver now))
  | sampleBatch now =>
    exact same _ rfl (congrArg Control.autoReconnect (sampleBatch_control c.system.driver now))
  | clearSamples now => exact same _ rfl rfl

theorem Kept.orderly {c : Called} (kept : Kept c.system) (made : Made c) (action : Action)
    (meets : Meets c action) : Orderly c.system action := by
  cases action with
  | main input =>
    obtain ⟨starts, breaks, refused⟩ := meets
    refine ⟨starts, fun breaksOff => ?_, refused⟩
    obtain ⟨without, noticed⟩ := breaks breaksOff
    exact kept.noticed ((made.flag (breaksOff_started breaksOff)).trans without) noticed
  | _ => trivial

/-- Over every run of a new driver in which calls break off and are refused only so, every call that
fails leaves an idle driver, and no loop uses the connection before the next call. -/
theorem failed_streamingOn_idle (streamingPort : Int) (sourceIp : Option String)
    (outputRate : DriverSettings.OutputRate) (now : Int) (actions : List Action)
    (meets : AllMeet Called.step Meets (.new streamingPort sourceIp outputRate now) actions) :
    AllMeet System.step BackToIdle (.new streamingPort sourceIp outputRate now) actions := by
  have orderly (c : Called) (action : Action) (holds : Kept c.system ∧ Made c)
      (meets : Meets c action) : Orderly c.system action :=
    holds.1.orderly holds.2 action meets
  apply (allMeet_map Called.step System.step Called.system (fun _ _ => rfl) BackToIdle actions
    (.new streamingPort sourceIp outputRate now)).mp
  apply allMeet_under Called.step Meets _ (fun c => Kept c.system ∧ Made c) _ _ actions _ _ meets
  · intro c action holds meets
    exact ⟨kept_step c.system action holds.1 (orderly c action holds meets),
      made_step c action holds.2⟩
  · intro c action holds meets
    exact nothingLeft_backToIdle c.system action
      (holds.1.nothingLeft action (orderly c action holds meets))
  · exact ⟨.new streamingPort sourceIp outputRate now, by simp [Called.new, System.new],
      by simp [Called.new, System.new, CallPhase.started]⟩

/-- The sensor answers, but does not accept the output rate while the loop waits for packets. -/
def refusedRate : List Action :=
  [.streamingOn true true, .main {}, .main {}, .loop 0 { now := 0 }, .main {},
    .main { outcome := { received := some [0xff, 0xff, 0, 0, 6, 0, 0xf0, 0, 1, 0, 0, 0x46] } },
    .main { outcome := { received := some [0xff, 0xff, 0, 0, 6, 0, 0xf0, 0, 1, 0, 3, 7] } },
    .main { outcome := { received := some [0xff, 0xff, 0, 0, 5, 0, 0xf1, 0x11, 0x20, 0x10, 0] } }]

theorem refused_rate_idle :
    (run System.step (.new 54843 none .hz1000 0) refusedRate).call = .returnedOn false ∧
      (run System.step (.new 54843 none .hz1000 0) refusedRate).threadAlive = true ∧
      AllMeet System.step BackToIdle (.new 54843 none .hz1000 0) refusedRate := by
  refine ⟨by decide, by decide, failed_streamingOn_idle 54843 none .hz1000 0 refusedRate ?_⟩
  refine ⟨trivial, ⟨nofun, False.elim, nofun⟩, ⟨fun _ _ => rfl, False.elim, nofun⟩, trivial,
    ⟨nofun, False.elim, nofun⟩, ⟨nofun, ?_, nofun⟩, ⟨nofun, ?_, nofun⟩, ⟨nofun, ?_, ?_⟩, trivial⟩
  · rintro ⟨error, raised⟩
    cases raised
  · rintro ⟨error, raised⟩
    cases raised
  · rintro ⟨error, raised⟩
    cases raised
  · exact fun _ => List.forall_mem_singleton.mpr rfl

/-- The port cannot be bound: the call returns `False` and leaves the connection open. -/
def unboundPort : List Action :=
  [.streamingOn true true, .main {}, .main {}, .loop 0 { now := 0, bound := false }, .main {},
    .main { late := true }]

theorem unbound_port_leaves_open :
    ((run System.step (.new 54843 none .hz1000 0) unboundPort).call = .returnedOn false ∧
      (run System.step (.new 54843 none .hz1000 0) unboundPort).driver.autoReconnect = true ∧
      (run System.step (.new 54843 none .hz1000 0) unboundPort).driver.channel.connection =
        ⟨.connected, true, true⟩) ∧
    ¬∀ streamingPort sourceIp outputRate now actions,
      AllMeet System.step BackToIdle (.new streamingPort sourceIp outputRate now) actions := by
  refine ⟨by decide, fun all => ?_⟩
  obtain ⟨_, _, _, _, _, last, _⟩ := all 54843 none .hz1000 0 unboundPort
  obtain ⟨idle, _⟩ := last ⟨rfl, .inl rfl⟩
  exact absurd idle.closed (by decide)

end SchunkFts.Library.StreamingOnFailure
