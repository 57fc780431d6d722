import SchunkFts.Whole.SensorHistory

/-! Calls that have had a reply to everything they ask. What they have to wait for, and what the other
threads do meanwhile, is open; but where the sensor accepts all of it, none of them fails. -/

namespace SchunkFts.Whole.AnsweredCalls
open SchunkFts.Foundation.Struct SchunkFts.Foundation.Run SchunkFts.Foundation.Scripts
open SchunkFts.Library SchunkFts.Library.Messages SchunkFts.Library.CallScripts
open SchunkFts.Library.CallAccounts SchunkFts.Library.SharedConnection
open SchunkFts.Library.DriverSettings (OutputRate)
open SchunkFts.Dummy.Sensor (Server)
open SchunkFts.Dummy.DriverRequests
open SensorHistory

/-- The reply says that the sensor has done what it was asked. -/
def Granted (exchange : Option Bytes × Bytes) : Prop := exchange.2[7]? = some 0x00

/-- At most so many replies are taken; and if it is so many and all requests are granted, it is a
success. -/
structure Within (count : Nat) (before after : Taken) (successful : Prop) : Prop where
  grows : before <+: after
  bounded : after.length ≤ before.length + count
  succeeds : after.length = before.length + count → (∀ exchange ∈ after, Granted exchange) →
    successful

section
variable {first second count : Nat} {before middle after : Taken} {successful further : Prop}

theorem Within.none (taken : Taken) : Within 0 taken taken True :=
  ⟨List.prefix_refl taken, Nat.le_refl _, fun _ _ => trivial⟩

theorem Within.mono (within : Within count before after successful)
    (gives : successful → further) : Within count before after further :=
  ⟨within.grows, within.bounded, fun all granted => gives (within.succeeds all granted)⟩

/-- Too few replies for a success. -/
theorem Within.early (within : Within first before after successful) (fewer : first < count) :
    Within count before after further where
  grows := within.grows
  bounded := within.bounded.trans (by omega)
  succeeds all _ := by
    have bounded := within.bounded
    omega

theorem Within.trans (earlier : Within first before middle successful)
    (later : Within second middle after further) :
    Within (first + second) before after (successful ∧ further) where
  grows := earlier.grows.trans later.grows
  bounded := by
    have one := earlier.bounded
    have two := later.bounded
    omega
  succeeds all granted := by
    have one := earlier.bounded
    have two := later.bounded
    refine ⟨earlier.succeeds (by omega) ?_, later.succeeds (by omega) granted⟩
    exact fun exchange member => granted exchange (later.grows.subset member)

end

/-! ### One request -/

section
variable {α : Type} (fromBytes : Bytes → Result α) (errorCode : α → String)
  (decodes : ∀ data : Bytes, 6 ≤ data.length →
    ∃ response, fromBytes data = .ok response ∧ errorCode response = hexField data 7 8)

include decodes

theorem granted_decodes (reply : Bytes) (granted : reply[7]? = some 0x00) :
    ∃ response, fromBytes reply = .ok response ∧ errorCode response = "00" := by
  obtain ⟨inside, _⟩ := List.getElem?_eq_some_iff.mp granted
  obtain ⟨response, decoded, code⟩ := decodes reply (by omega)
  exact ⟨response, decoded, code.trans ((errorCode_zero_iff reply).mpr granted)⟩

theorem granted_reads (empty : α) (reply : Bytes) (granted : reply[7]? = some 0x00) :
    ∃ response, (if reply = [] then .ok empty else fromBytes reply) = .ok response ∧
      errorCode response = "00" := by
  have some_reply : reply ≠ [] := by
    rintro rfl
    cases granted
  rw [if_neg some_reply]
  exact granted_decodes fromBytes errorCode decodes reply granted

end

theorem answered_within {α : Type} {frame : Result Bytes} {respond : Bytes → Result α}
    {unreached : α} {before after : Taken} {result : Result α} (errorCode : α → String)
    (decodes : ∀ reply : Bytes, reply[7]? = some 0x00 →
      ∃ response, respond reply = .ok response ∧ errorCode response = "00")
    (answered : Answered frame respond unreached before after result) :
    Within 1 before after (∃ response, result = .ok response ∧ errorCode response = "00") := by
  cases answered with
  | taken msg framed own reply sent =>
    refine ⟨List.prefix_append _ _, by simp, fun _ granted => decodes reply ?_⟩
    exact granted (own, reply) (List.mem_append_right _ (List.mem_singleton_self _))
  | _ => exact (Within.none before).early Nat.one_pos

theorem getParameter_within (index subindex : String) (noted : Noted) :
    (getParameter index subindex).Ensures note
      (fun after result => Within 1 noted.taken after.taken
        (∃ response, result = .ok response ∧ response.errorCode = "00")) noted :=
  (getParameter_ensures index subindex noted).mono fun _ _ answered =>
    answered_within (·.errorCode) (granted_reads _ _ getParameterResponse_of_le {}) answered

theorem setParameter_within (value index subindex : String) (noted : Noted) :
    (setParameter value index subindex).Ensures note
      (fun after result => Within 1 noted.taken after.taken
        (∃ response, result = .ok response ∧ response.errorCode = "00")) noted :=
  (setParameter_ensures value index subindex noted).mono fun _ _ answered =>
    answered_within (·.errorCode) (granted_reads _ _ setParameterResponse_of_le {}) answered

theorem commandCall_within (frame : Result Bytes) (noted : Noted) :
    (commandCall frame).Ensures note
      (fun after result => Within 1 noted.taken after.taken
        (∃ response, result = .ok response ∧ response.errorCode = "00")) noted :=
  (commandCall_ensures frame noted).mono fun _ _ answered =>
    answered_within _ (granted_decodes _ CommandResponse.errorCode commandResponse_of_le) answered

theorem configureOutputRate_within (value : String) (noted : Noted) :
    (configureOutputRate value).Ensures note
      (fun after result => Within 1 noted.taken after.taken (result = .ok true)) noted := by
  apply (setParameter_within value "1020" "00" noted).bind
  intro after response within
  apply within.mono
  rintro ⟨answer, rfl, zero⟩
  exact congrArg Except.ok (decide_eq_true zero)

/-! ### Several requests -/

theorem startStreaming_within (value : String) (noted : Noted) :
    (startStreaming value).Ensures note
      (fun after result => Within 2 noted.taken after.taken (result = .ok true)) noted := by
  apply (configureOutputRate_within value noted).bind
  intro rated configured one
  rcases configured with error | (_ | _)
  · exact one.early (by decide)
  · exact fun _ => one.early (by decide)
  · apply (commandCall_within (Requests.commandFrame "40") rated).bind
    intro after response two
    have both := one.trans two
    cases response with
    | error error => exact both.mono (fun ⟨_, _, wrong, _⟩ => by cases wrong)
    | ok response =>
      have code : (∃ other, Except.ok response = (Except.ok other : Result CommandResponse) ∧
          other.errorCode = "00") → response.errorCode = "00" := by
        rintro ⟨_, same, zero⟩
        cases same
        exact zero
      dsimp only
      split_ifs with none refused
      · exact fun _ => both.mono (fun ⟨_, zero⟩ => by simp [code zero] at none)
      · exact fun _ => both.mono (fun ⟨_, zero⟩ => absurd (code zero) refused)
      · exact both.mono (fun _ => rfl)

theorem openUp_within (noted : Noted) :
    openUp.Ensures note (fun after _ => Within 0 noted.taken after.taken True) noted :=
  (openUp_ensures noted).mono fun after _ untouched => by
    rw [untouched]
    exact Within.none noted.taken

theorem attemptReconnect_within (value : String) (noted : Noted) :
    (attemptReconnect value).Ensures note
      (fun after result => Within 2 noted.taken after.taken (result = true)) noted := by
  intro _
  apply (openUp_within noted).bind
  intro opened accepted nothing
  cases accepted with
  | false => exact nothing.early (by decide)
  | true =>
    intro isOpen
    cases isOpen with
    | false => exact nothing.early (by decide)
    | true =>
      intro _
      apply (startStreaming_within value opened).bind
      intro after started two _
      have all := nothing.trans two
      cases started with
      | error error => exact fun _ => all.mono (fun ⟨_, wrong⟩ => by cases wrong)
      | ok started => exact all.mono (fun ⟨_, same⟩ => Except.ok.inj same)

theorem streamingOn_within (value : String) (noted : Noted) :
    (streamingOn value).Ensures note
      (fun after result => Within 4 noted.taken after.taken (result = .ok true)) noted := by
  apply (openUp_within noted).bind
  intro opened accepted nothing
  cases accepted with
  | false => exact nothing.early (by decide)
  | true =>
    intro streams
    cases streams with
    | false => exact nothing.early (by decide)
    | true =>
      apply (getParameter_within "0001" "00" opened).bind
      intro named name one
      cases name with
      | error error => exact (nothing.trans one).early (by decide)
      | ok name =>
        apply (getParameter_within "0001" "03" named).bind
        intro known id two
        have read := (nothing.trans one).trans two
        cases id with
        | error error => exact read.early (by decide)
        | ok id =>
          apply (configureOutputRate_within value known).bind
          intro rated configured three
          rcases configured with error | (_ | _)
          · exact (read.trans three).early (by decide)
          · exact fun _ => (read.trans three).early (by decide)
          · apply (commandCall_within (Requests.commandFrame "40") rated).bind
            intro after response four
            have all := (read.trans three).trans four
            cases response with
            | error error => exact all.mono (fun ⟨_, _, wrong, _⟩ => by cases wrong)
            | ok response => exact all.mono (fun _ => rfl)

theorem streamingOff_within (noted : Noted) :
    streamingOff.Ensures note
      (fun after result => Within 1 noted.taken after.taken (result = .ok ())) noted := by
  apply (commandCall_within (Requests.commandFrame "41") noted).bind
  intro after response one
  cases response with
  | error error => exact one.mono (fun ⟨_, wrong, _⟩ => by cases wrong)
  | ok response => exact fun _ => one.mono (fun _ => rfl)

/-! ### Every call -/

/-- What a call returns that has done what it was made for. -/
def Successful : Call → Value → Prop
  | .attemptReconnect _, value => value = .flag true
  | .streamingOn _, value => value = .flag true
  | .streamingOff, value => value = .nothing
  | .closeConnection, value => value = .nothing
  | _, value => ∃ response, value = .response response ∧ response.errorCode = "00"

theorem call_within (call : Call) (asks : ¬call.Refuses) :
    call.script.Ensures note
      (fun after result => Within call.requests.length [] after.taken
        (∃ value, result = .ok value ∧ Successful call value)) ⟨none, []⟩ := by
  have single {α : Type} {method : Method (Result α)} {wrap : α → Response}
      {errorCode : α → String} (same : ∀ response, (wrap response).errorCode = errorCode response)
      (within : method.Ensures note (fun after result => Within 1 [] after.taken
        (∃ response, result = .ok response ∧ errorCode response = "00")) ⟨none, []⟩) :
      ((.response <$> wrap <$> ·) <$> method : Method (Result Value)).Ensures note
        (fun after result => Within 1 [] after.taken
          (∃ value, result = .ok value ∧
            ∃ response, value = .response response ∧ response.errorCode = "00")) ⟨none, []⟩ := by
    apply within.bind
    intro after result one
    apply one.mono
    rintro ⟨response, rfl, zero⟩
    exact ⟨_, rfl, _, rfl, (same response).trans zero⟩
  cases call with
  | getParameter index subindex =>
    exact single (fun _ => rfl) (getParameter_within index subindex ⟨none, []⟩)
  | setParameter value index subindex =>
    exact single (fun _ => rfl) (setParameter_within value index subindex ⟨none, []⟩)
  | runCommand command => exact single (fun _ => rfl) (commandCall_within _ ⟨none, []⟩)
  | selectToolSetting toolIndex =>
    have inRange : 0 ≤ toolIndex ∧ toolIndex ≤ 3 := not_not.mp asks
    simp only [Call.script, select, Call.requests, Call.single, if_pos inRange]
    exact single (fun _ => rfl) (commandCall_within _ ⟨none, []⟩)
  | selectNoiseFilter filterNumber =>
    have inRange : 0 ≤ filterNumber ∧ filterNumber ≤ 4 := not_not.mp asks
    simp only [Call.script, select, Call.requests, Call.single, if_pos inRange]
    exact single (fun _ => rfl) (commandCall_within _ ⟨none, []⟩)
  | attemptReconnect value =>
    apply (attemptReconnect_within value ⟨none, []⟩).bind
    exact fun after started two => two.mono (fun same => ⟨_, rfl, congrArg Value.flag same⟩)
  | streamingOn value =>
    apply (streamingOn_within value ⟨none, []⟩).bind
    intro after started four
    apply four.mono
    rintro rfl
    exact ⟨_, rfl, rfl⟩
  | streamingOff =>
    apply (streamingOff_within ⟨none, []⟩).bind
    intro after stopped one
    apply one.mono
    rintro rfl
    exact ⟨_, rfl, rfl⟩
  | closeConnection => exact fun _ => ⟨List.prefix_refl _, Nat.le_refl _, fun _ _ => ⟨_, rfl, rfl⟩⟩

/-- A call that is made with numbers in their ranges. -/
def Completes (call : Call) (taken : Taken) (result : Result Value) : Prop :=
  ¬call.Refuses → Within call.requests.length [] taken
    (∃ value, result = .ok value ∧ Successful call value)

theorem call_completes (call : Call) :
    call.script.Ensures note (fun after => Completes call after.taken) ⟨none, []⟩ := by
  by_cases refuses : call.Refuses
  · exact (call_accounts call).mono (fun _ _ _ asks => absurd refuses asks)
  · exact (call_within call refuses).mono (fun _ _ within _ => within)

/-! ### With the sensor -/

/-- Whatever the call asks for, the sensor answers with the code of success. -/
def Accepted (call : Call) : Prop :=
  ∀ request ∈ call.requests, ∀ msg, request.frame = .ok msg → codeOf msg = 0x00

theorem starts_accepted (rate : OutputRate) (call : Call) (starts : Starts rate call) :
    Accepted call := by
  have write (msg : Bytes) (framed : (CallScripts.Request.setParameter rate.mode.parameterValue
      "1020" "00").frame = .ok msg) : codeOf msg = 0x00 := by
    rw [← Except.ok.inj ((configure_frame rate).symm.trans framed)]
    exact configure_code rate
  have other (request : CallScripts.Request) (known : request = .getParameter "0001" "00" ∨
      request = .getParameter "0001" "03" ∨ request = .command "40") (msg : Bytes)
      (framed : request.frame = .ok msg) : codeOf msg = 0x00 := by
    rcases known with rfl | rfl | rfl <;> cases framed <;> decide
  intro request asked
  rcases starts with same | same
  · rw [same] at asked
    simp only [Call.requests, List.mem_cons, List.not_mem_nil, or_false] at asked
    rcases asked with rfl | rfl
    · exact write
    · exact other _ (.inr (.inr rfl))
  · rw [same] at asked
    simp only [Call.requests, List.mem_cons, List.not_mem_nil, or_false] at asked
    rcases asked with rfl | rfl | rfl | rfl
    · exact other _ (.inl rfl)
    · exact other _ (.inr (.inl rfl))
    · exact write
    · exact other _ (.inr (.inr rfl))

variable {Thread : Type} [DecidableEq Thread]

/-- A call to which a reply has come for each of its requests succeeds if the sensor accepts them, and
so do `streaming_on` and a reconnection at each of the driver's rates, in whatever state the connection
and the sensor were before and whatever the other threads do. -/
theorem answered_calls_succeed (first : Server Nat) (actions : List (Action Thread (Server Nat)))
    (inTurn : AllMeet (step dummyServe) Meets (State.start first) actions)
    (finished : Finished Thread)
    (member : finished ∈ (run (step dummyServe) (State.start first) actions).finished)
    (answered : finished.taken.length = finished.call.requests.length) :
    (¬finished.call.Refuses → Accepted finished.call →
      ∃ value, finished.result = .ok value ∧ Successful finished.call value) ∧
    ∀ rate, Starts rate finished.call → finished.result = .ok (.flag true) := by
  have noting : Noting Completes (run (step dummyServe) (State.start first) actions) :=
    noting_run call_completes first actions
  obtain ⟨accounts, served⟩ := taken_served first actions inTurn finished member
  have succeeds (asks : ¬finished.call.Refuses) (accepted : Accepted finished.call) :
      ∃ value, finished.result = .ok value ∧ Successful finished.call value := by
    apply ((noting.finished finished member).2 asks).succeeds
    · rw [answered]
      exact (Nat.zero_add _).symm
    · intro exchange took
      obtain ⟨msg, waits, _, _, _, _, _, _, _, _, _, code, _⟩ := served exchange took
      obtain ⟨request, asked, framed⟩ := accounts.belongs exchange took msg waits
      exact code.trans (congrArg some (accepted request asked msg framed))
  refine ⟨succeeds, fun rate starts => ?_⟩
  have asks : ¬finished.call.Refuses := by
    rcases starts with same | same <;> simp [same, Call.Refuses]
  obtain ⟨value, result, success⟩ := succeeds asks (starts_accepted rate finished.call starts)
  rw [result]
  rcases starts with same | same
  · rw [same] at success
    exact congrArg Except.ok success
  · rw [same] at success
    exact congrArg Except.ok success

/-- The attempt to reconnect after an answer that comes too late. -/
def secondStart : Finished Nat where
  thread := 1
  number := 1
  call := .attemptReconnect "00"
  taken := [(some [0xff, 0xff, 0, 0, 5, 0, 0xf1, 0x20, 0x10, 0, 0],
      [0xff, 0xff, 1, 0, 5, 0, 0xf1, 0, 0x20, 0x10, 0]),
    (some [0xff, 0xff, 0, 0, 1, 0, 0x40], [0xff, 0xff, 2, 0, 2, 0, 0x40, 0])]
  result := .ok (.flag true)

theorem secondStart_succeeds :
    secondStart ∈ (run (step dummyServe) (State.start .start) reconnected).finished ∧
      (∃ value, secondStart.result = .ok value ∧ Successful secondStart.call value) ∧
      secondStart.result = .ok (.flag true) := by
  have member : secondStart ∈ (run (step dummyServe) (State.start .start) reconnected).finished := by
    decide +kernel
  have starts : Starts .hz1000 secondStart.call := .inl rfl
  obtain ⟨successful, started⟩ :=
    answered_calls_succeed .start reconnected (by decide +kernel) secondStart member rfl
  exact ⟨member, successful id (starts_accepted .hz1000 secondStart.call starts),
    started .hz1000 starts⟩

end SchunkFts.Whole.AnsweredCalls
