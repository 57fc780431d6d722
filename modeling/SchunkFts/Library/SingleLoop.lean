import SchunkFts.Foundation.Run
import SchunkFts.Library.LoopSteps

/-! How many update loops run at a time. A loop ends at its own condition only, and a later
`streaming_on` joins nothing: it is enough, and needed, that the last thread has ended before the
next one is started. -/

namespace SchunkFts.Library.SingleLoop
open SchunkFts.Foundation.Run Streaming LoopSteps

def Runs (s : System) (index : Nat) : Prop :=
  ∃ loop, s.loops[index]? = some loop ∧ loop.isAlive = true

/-- At most one update loop runs, and none once `streaming_off` has returned. -/
structure AtMostOne (s : System) : Prop where
  single : ∀ first second, Runs s first → Runs s second → first = second
  stopped : s.call = .returnedOff → ∀ index, ¬Runs s index

/-- The thread of the last `streaming_on` has ended when the next one is started. -/
def Meets (s : System) : Action → Prop
  | .main _ => ∀ autoReconnect, s.call = .spawning autoReconnect → s.threadAlive = false
  | _ => True

/-- Only the last loop may run, and `streaming_off` has seen its end. -/
structure Exclusive (s : System) : Prop where
  last : ∀ index, Runs s index → index + 1 = s.loops.length
  joined : s.call = .closing ∨ s.call = .returnedOff → ∀ index, ¬Runs s index

theorem threadAlive_iff (s : System) :
    s.threadAlive = true ↔ Runs s (s.loops.length - 1) := by
  unfold System.threadAlive Runs
  rw [List.getLast?_eq_getElem?]
  cases s.loops[s.loops.length - 1]? with
  | none => simp
  | some loop => simp

/-- A loop that has ended stays so. -/
theorem isAlive_step (driver : SensorDriver) (loop : Loop) (input : LoopInput)
    (alive : (loopStep driver loop input).2.isAlive = true) : loop.isAlive = true := by
  by_cases stopped : loop.phase = .finished
  · rw [loopStep, stopped] at alive
    exact alive
  · simpa only [Loop.isAlive, decide_eq_true_eq] using stopped

theorem stepLoop_length (s : System) (index : Nat) (input : LoopInput) :
    (s.stepLoop index input).loops.length = s.loops.length := by
  unfold System.stepLoop
  split
  · exact List.length_set
  · rfl

theorem stepLoop_call (s : System) (index : Nat) (input : LoopInput) :
    (s.stepLoop index input).call = s.call := by
  unfold System.stepLoop
  split <;> rfl

theorem runs_stepLoop (s : System) (index : Nat) (input : LoopInput) (other : Nat)
    (runs : Runs (s.stepLoop index input) other) : Runs s other := by
  unfold System.stepLoop at runs
  split at runs
  next loop here =>
    obtain ⟨next, there, alive⟩ := runs
    rw [List.getElem?_set] at there
    split_ifs at there with same short
    · cases Option.some.inj there
      exact ⟨loop, same ▸ here, isAlive_step s.driver loop input alive⟩
    · exact ⟨next, there, alive⟩
  next => exact runs

/-- A phase of a call leaves the loops alone or starts a new one. -/
theorem mainStep_loops (s : System) (input : MainInput) :
    (s.mainStep input).loops = s.loops ∨
      ∃ autoReconnect, s.call = .spawning autoReconnect ∧
        (s.mainStep input).loops = s.loops ++ [.new] ∧
        (s.mainStep input).call = .awaitingStream := by
  unfold System.mainStep
  split
  next =>
    dsimp only
    split_ifs <;> exact .inl rfl
  next autoReconnect here => exact .inr ⟨autoReconnect, here, rfl, rfl⟩
  next => exact .inl rfl
  next => split <;> exact .inl rfl
  next => split <;> exact .inl rfl
  next => split <;> exact .inl rfl
  next => split <;> exact .inl rfl
  next => split <;> exact .inl rfl
  next => split <;> exact .inl rfl
  next => exact .inl rfl
  next => split <;> exact .inl rfl
  next => exact .inl rfl
  next => exact .inl rfl

/-- The end of `streaming_off` is reached through `join`. -/
theorem mainStep_ending (s : System) (input : MainInput)
    (ending : (s.mainStep input).call = .closing ∨ (s.mainStep input).call = .returnedOff) :
    (s.call = .joining ∧ s.threadAlive = false) ∨ s.call = .closing ∨ s.call = .returnedOff := by
  unfold System.mainStep at ending
  split at ending
  next =>
    dsimp only at ending
    split_ifs at ending <;> simp at ending
  next => simp at ending
  next => split at ending <;> simp at ending
  next => split at ending <;> simp at ending
  next => split at ending <;> simp at ending
  next => split at ending <;> simp at ending
  next => split at ending <;> simp at ending
  next => split at ending <;> simp at ending
  next => split at ending <;> simp at ending
  next => simp at ending
  next here =>
    split_ifs at ending with alive
    · rw [here] at ending
      simp at ending
    · exact .inl ⟨here, Bool.eq_false_iff.mpr alive⟩
  next here => exact .inr (.inl here)
  next => exact .inr ending

/-- A step that starts no loop and ends no call. -/
theorem Exclusive.move {s after : System} (exclusive : Exclusive s)
    (length : after.loops.length = s.loops.length)
    (fewer : ∀ index, Runs after index → Runs s index)
    (calling : after.call = .closing ∨ after.call = .returnedOff →
      s.call = .closing ∨ s.call = .returnedOff) : Exclusive after where
  last index runs := length ▸ exclusive.last index (fewer index runs)
  joined ending index runs := exclusive.joined (calling ending) index (fewer index runs)

theorem Exclusive.none_of_not_alive {s : System} (exclusive : Exclusive s)
    (stopped : s.threadAlive = false) (index : Nat) : ¬Runs s index := by
  intro runs
  have atEnd := exclusive.last index runs
  have here : index = s.loops.length - 1 := by omega
  rw [here, ← threadAlive_iff, stopped] at runs
  cases runs

theorem runs_append (s : System) (loops : List Loop) (spawned : s.loops = loops ++ [.new])
    (index : Nat) :
    Runs s index ↔ index = loops.length ∨
      ∃ loop, loops[index]? = some loop ∧ loop.isAlive = true := by
  unfold Runs
  rw [spawned, List.getElem?_append]
  split_ifs with short
  · simp only [Nat.ne_of_lt short, false_or]
  · have beyond : loops[index]? = none := List.getElem?_eq_none (not_lt.mp short)
    rw [beyond]
    constructor
    · rintro ⟨loop, there, _⟩
      have inside := (List.getElem?_eq_some_iff.mp there).1
      rw [List.length_singleton] at inside
      exact .inl (by omega)
    · rintro (rfl | ⟨_, wrong, _⟩)
      · exact ⟨.new, by simp, rfl⟩
      · cases wrong

theorem exclusive_main {s : System} (exclusive : Exclusive s) (input : MainInput)
    (meets : Meets s (.main input)) : Exclusive (s.mainStep input) := by
  rcases mainStep_loops s input with same | ⟨autoReconnect, here, spawned, awaiting⟩
  · have fewer : ∀ index, Runs (s.mainStep input) index → Runs s index := by
      intro index runs
      unfold Runs at runs
      rwa [same] at runs
    refine ⟨fun index runs => same ▸ exclusive.last index (fewer index runs), ?_⟩
    intro ending index runs
    rcases mainStep_ending s input ending with ⟨_, stopped⟩ | earlier
    · exact exclusive.none_of_not_alive stopped index (fewer index runs)
    · exact exclusive.joined earlier index (fewer index runs)
  · have stopped := meets autoReconnect here
    refine ⟨fun index runs => ?_, fun ending => ?_⟩
    · rcases (runs_append _ _ spawned index).mp runs with new | old
      · rw [spawned, List.length_append, List.length_singleton, new]
      · exact absurd old (exclusive.none_of_not_alive stopped index)
    · rw [awaiting] at ending
      simp at ending

theorem exclusive_step (s : System) (action : Action) (exclusive : Exclusive s)
    (meets : Meets s action) : Exclusive (s.step action) := by
  cases action with
  | streamingOn floatTimeout autoReconnect =>
    simp only [System.step]
    split_ifs with busy
    · exact exclusive
    · unfold System.streamingOn
      split_ifs <;> exact exclusive.move rfl (fun _ runs => runs) (by simp)
  | streamingOff =>
    simp only [System.step]
    split_ifs with busy
    · exact exclusive
    · exact exclusive.move rfl (fun _ runs => runs) (by simp)
  | main input => exact exclusive_main exclusive input meets
  | loop index input =>
    refine exclusive.move (stepLoop_length s index input) (runs_stepLoop s index input) ?_
    exact fun ending => (stepLoop_call s index input).symm ▸ ending
  | arrive datagram => exact exclusive.move rfl (fun _ runs => runs) id
  | command command outcome => exact exclusive.move rfl (fun _ runs => runs) id
  | sample now => exact exclusive.move rfl (fun _ runs => runs) id
  | sampleBatch now => exact exclusive.move rfl (fun _ runs => runs) id
  | clearSamples now => exact exclusive.move rfl (fun _ runs => runs) id

theorem Exclusive.atMostOne {s : System} (exclusive : Exclusive s) : AtMostOne s where
  single first second one other := by
    have := exclusive.last first one
    have := exclusive.last second other
    omega
  stopped returned := exclusive.joined (.inr returned)

/-- A thread started beside a live one makes two. -/
theorem atMostOne_step_iff (s : System) (action : Action) (exclusive : Exclusive s) :
    AtMostOne (s.step action) ↔ Meets s action := by
  refine ⟨fun single => ?_, fun meets => (exclusive_step s action exclusive meets).atMostOne⟩
  cases action with
  | main input =>
    intro autoReconnect here
    by_contra alive
    have spawned : (s.mainStep input).loops = s.loops ++ [.new] := by
      simp only [System.mainStep, here]
    have both := single.single (s.loops.length - 1) s.loops.length
      ((runs_append _ _ spawned _).mpr (.inr ((threadAlive_iff s).mp (by simpa using alive))))
      ((runs_append _ _ spawned _).mpr (.inl rfl))
    obtain ⟨loop, there, _⟩ := (threadAlive_iff s).mp (by simpa using alive)
    have inside := (List.getElem?_eq_some_iff.mp there).1
    omega
  | _ => trivial

/-- Over every run of calls and loops from a new driver: there is never more than one loop, and none
after `streaming_off`, exactly if no thread is started while the last one is alive. -/
theorem single_loop_iff (streamingPort : Int) (sourceIp : Option String)
    (outputRate : DriverSettings.OutputRate) (now : Int) (actions : List Action) :
    AllMeet System.step (fun s action => AtMostOne (s.step action))
        (.new streamingPort sourceIp outputRate now) actions ↔
      AllMeet System.step Meets (.new streamingPort sourceIp outputRate now) actions := by
  apply allMeet_iff System.step _ Meets Exclusive exclusive_step atMostOne_step_iff
  exact ⟨fun index ⟨loop, there, _⟩ => by simp [System.new] at there, fun ending => by
    simp [System.new] at ending⟩

/-- The first call gives up because the port cannot be bound, while its loop is already about to
reconnect; the second call starts another one beside it. -/
def failedStart : List Action :=
  [.streamingOn true true, .main {}, .main {}, .loop 0 { now := 0, bound := false }, .main {},
    .loop 0 { now := 101000000 }, .main { late := true }, .streamingOn true true, .main {}, .main {}]

theorem failed_start_leaves_loop :
    ¬∀ streamingPort sourceIp outputRate now actions,
      AllMeet System.step (fun s action => AtMostOne (s.step action))
        (.new streamingPort sourceIp outputRate now) actions := by
  intro all
  have after := (all (-1) none .hz1000 0 failedStart).2.2.2.2.2.2.2.2.2.1
  have both := after.single 0 1 ⟨_, rfl, rfl⟩ ⟨_, rfl, rfl⟩
  cases both

end SchunkFts.Library.SingleLoop
