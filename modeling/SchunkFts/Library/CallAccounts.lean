import SchunkFts.Library.CallScripts

/-! What a call returns and what it has received. A call keeps no account of its requests; here the
request that a reply is taken for is noted beside it, and the result of every call is told from these
notes, whatever the other threads do meanwhile. -/

namespace SchunkFts.Library.CallAccounts
open SchunkFts.Foundation.Struct SchunkFts.Foundation.Scripts
open Messages CallScripts
open Requests (getParameterFrame setParameterFrame commandFrame commandWithParameterFrame)

/-- The replies that a call has taken, each with the frame that it was taken for. -/
abbrev Taken : Type := List (Option Bytes × Bytes)

/-- The frame that the call has sent and still waits for an answer to, and the replies so far. -/
structure Noted where
  own : Option Bytes
  taken : Taken

/-- A call that finds the connection closed gives its request up, and so does one whose `recv` brings
nothing. -/
def note (noted : Noted) : (primitive : Primitive) → primitive.Answer → Noted
  | .isOpen, isOpen => if isOpen then noted else { noted with own := none }
  | .sendall _ data, sent => { noted with own := if sent then some data else none }
  | .recv _, .frame reply => ⟨none, noted.taken ++ [(noted.own, reply)]⟩
  | .recv _, .ended => { noted with own := none }
  | .recv _, .failed => { noted with own := none }
  | _, _ => noted

/-- What one exchange adds: nothing, or one reply taken for its own frame or for none. -/
def Exchanged (msg : Bytes) (before after : Taken) (data : Bytes) : Prop :=
  (data = [] ∧ after = before) ∨
    ∃ own, (∀ sent, own = some sent → sent = msg) ∧ after = before ++ [(own, data)]

/-- How a call for one request ends: with an error of its encoding, on a closed connection, without a
reply, or with what it makes of the reply it has taken. -/
inductive Answered {α : Type} (frame : Result Bytes) (respond : Bytes → Result α) (unreached : α)
    (before : Taken) : Taken → Result α → Prop
  | unencoded (error : PyError) (failed : frame = .error error) :
      Answered frame respond unreached before before (.error error)
  | unreached (msg : Bytes) (framed : frame = .ok msg) :
      Answered frame respond unreached before before (.ok unreached)
  | unanswered (msg : Bytes) (framed : frame = .ok msg) :
      Answered frame respond unreached before before (respond [])
  | taken (msg : Bytes) (framed : frame = .ok msg) (own : Option Bytes) (reply : Bytes)
      (sent : ∀ sent, own = some sent → sent = msg) :
      Answered frame respond unreached before (before ++ [(own, reply)]) (respond reply)

/-- Every reply was taken for one of the requests, or for none. -/
def Belongs (requests : List Request) (taken : Taken) : Prop :=
  ∀ exchange ∈ taken, ∀ msg, exchange.1 = some msg → ∃ request ∈ requests, request.frame = .ok msg

/-- A reply with the error code `00` was taken for the request. -/
def Acknowledged (request : Request) (taken : Taken) : Prop :=
  ∃ exchange ∈ taken, (∀ msg, exchange.1 = some msg → request.frame = .ok msg) ∧
    ∃ response, request.respond exchange.2 = .ok response ∧ response.errorCode = "00"

structure Accounts (call : Call) (taken : Taken) (result : Result Value) : Prop where
  belongs : Belongs call.requests taken
  single : ∀ request, call.single = some request → ∃ response, result = .response <$> response ∧
    Answered request.frame request.respond request.unreached [] taken response
  refused : call.Refuses →
    taken = [] ∧ result = .ok (.response (.command { errorCode := "03" }))
  started : ∀ value, call = .attemptReconnect value ∨ call = .streamingOn value →
    result = .ok (.flag true) → Acknowledged (.setParameter value "1020" "00") taken

/-! ### One exchange -/

/-- After `send` the call waits for an answer to its own frame, or for none. -/
theorem send_ensures (msg : Bytes) (noted : Noted) :
    (send msg).Ensures note
      (fun after _ => after.taken = noted.taken ∧ ∀ sent, after.own = some sent → sent = msg)
      noted := by
  intro isOpen
  cases isOpen with
  | false => exact ⟨rfl, nofun⟩
  | true =>
    intro socket sent
    cases sent with
    | false => exact ⟨rfl, nofun⟩
    | true => exact ⟨rfl, fun _ same => (Option.some.inj same).symm⟩

theorem receive_ensures (noted : Noted) :
    receive.Ensures note
      (fun after data => (data = [] ∧ after.taken = noted.taken) ∨
        after.taken = noted.taken ++ [(noted.own, data)]) noted := by
  intro isOpen
  cases isOpen with
  | false => exact .inl ⟨rfl, rfl⟩
  | true =>
    intro socket received
    cases received with
    | frame data => exact .inr rfl
    | ended => exact .inl ⟨rfl, rfl⟩
    | failed => exact fun _ => .inl ⟨rfl, rfl⟩

theorem exchange_ensures (msg : Bytes) (noted : Noted) :
    (exchange msg).Ensures note (fun after => Exchanged msg noted.taken after.taken) noted := by
  apply (send_ensures msg noted).bind
  intro sent _ ⟨taken, own⟩
  apply (receive_ensures sent).mono
  intro after data replied
  rw [taken] at replied
  exact replied.imp_right (fun took => ⟨sent.own, own, took⟩)

theorem Exchanged.answered {α : Type} {msg : Bytes} {before after : Taken} {data : Bytes}
    (exchanged : Exchanged msg before after data) (respond : Bytes → Result α) (unreached : α) :
    Answered (.ok msg) respond unreached before after (respond data) := by
  obtain ⟨rfl, rfl⟩ | ⟨own, sent, rfl⟩ := exchanged
  · exact .unanswered msg rfl
  · exact .taken msg rfl own data sent

theorem parameterCall_ensures {α : Type} (msg : Bytes) (fromBytes : Bytes → Result α) (empty : α)
    (noted : Noted) :
    (parameterCall msg fromBytes empty).Ensures note
      (fun after => Answered (.ok msg) (fun data => if data = [] then .ok empty else fromBytes data)
        empty noted.taken after.taken) noted := by
  intro _ isOpen
  cases isOpen with
  | false => exact fun _ => .unreached msg rfl
  | true =>
    change (exchange msg >>= _).Ensures note _ noted
    apply (exchange_ensures msg noted).bind
    intro after data exchanged _
    exact exchanged.answered (fun data => if data = [] then .ok empty else fromBytes data) empty

theorem getParameter_ensures (index subindex : String) (noted : Noted) :
    (getParameter index subindex).Ensures note
      (fun after => Answered (getParameterFrame index subindex)
        (fun data => if data = [] then .ok {} else GetParameterResponse.fromBytes data) {}
        noted.taken after.taken) noted := by
  unfold getParameter
  cases framed : getParameterFrame index subindex with
  | error error => exact .unencoded error rfl
  | ok msg =>
    intro _
    apply (parameterCall_ensures msg GetParameterResponse.fromBytes {} noted).bind
    exact fun after response answered _ => answered

theorem setParameter_ensures (value index subindex : String) (noted : Noted) :
    (setParameter value index subindex).Ensures note
      (fun after => Answered (setParameterFrame value index subindex)
        (fun data => if data = [] then .ok {} else SetParameterResponse.fromBytes data) {}
        noted.taken after.taken) noted := by
  unfold setParameter
  cases framed : setParameterFrame value index subindex with
  | error error => exact .unencoded error rfl
  | ok msg => exact parameterCall_ensures msg SetParameterResponse.fromBytes {} noted

theorem commandCall_ensures (frame : Result Bytes) (noted : Noted) :
    (commandCall frame).Ensures note
      (fun after => Answered frame CommandResponse.fromBytes {} noted.taken after.taken) noted := by
  cases frame with
  | error error => exact .unencoded error rfl
  | ok msg =>
    intro isOpen
    cases isOpen with
    | false => exact .unreached msg rfl
    | true =>
      change (exchange msg >>= _).Ensures note _ noted
      apply (exchange_ensures msg noted).bind
      exact fun after data exchanged => exchanged.answered _ _

theorem Answered.map {α β : Type} {frame : Result Bytes} {respond : Bytes → Result α}
    {unreached : α} {before after : Taken} {result : Result α}
    (answered : Answered frame respond unreached before after result) (f : α → β) :
    Answered frame (fun data => f <$> respond data) (f unreached) before after (f <$> result) := by
  cases answered with
  | unencoded error failed => exact .unencoded error failed
  | unreached msg framed => exact .unreached msg framed
  | unanswered msg framed => exact .unanswered msg framed
  | taken msg framed own reply sent => exact .taken msg framed own reply sent

/-! ### Several exchanges -/

theorem Belongs.answered {α : Type} {requests : List Request} {before after : Taken}
    (belongs : Belongs requests before) (request : Request) (member : request ∈ requests)
    {respond : Bytes → Result α} {unreached : α} {result : Result α}
    (answered : Answered request.frame respond unreached before after result) :
    Belongs requests after := by
  cases answered with
  | taken msg framed own reply sent =>
    intro exchange took other same
    rcases List.mem_append.mp took with old | new
    · exact belongs exchange old other same
    · rw [List.mem_singleton.mp new] at same
      exact ⟨request, member, sent other same ▸ framed⟩
  | _ => exact belongs

/-- What is added to the replies takes nothing away from an acknowledgement. -/
theorem Acknowledged.answered {α : Type} {request : Request} {before after : Taken}
    (acknowledged : Acknowledged request before) {frame : Result Bytes}
    {respond : Bytes → Result α} {unreached : α} {result : Result α}
    (answered : Answered frame respond unreached before after result) :
    Acknowledged request after := by
  obtain ⟨exchange, member, own⟩ := acknowledged
  cases answered with
  | taken => exact ⟨exchange, List.mem_append_left _ member, own⟩
  | _ => exact ⟨exchange, member, own⟩

/-- Only a reply can say that the rate is accepted. -/
theorem configureOutputRate_ensures (value : String) (noted : Noted) :
    (configureOutputRate value).Ensures note
      (fun after result => (∀ requests, Request.setParameter value "1020" "00" ∈ requests →
          Belongs requests noted.taken → Belongs requests after.taken) ∧
        (result = .ok true → Acknowledged (.setParameter value "1020" "00") after.taken))
      noted := by
  apply (setParameter_ensures value "1020" "00" noted).bind
  intro after response answered
  refine ⟨fun requests member belongs => belongs.answered _ member answered, fun accepted => ?_⟩
  generalize after.taken = taken at answered ⊢
  have zero {answer : SetParameterResponse} (decoded : response = .ok answer) :
      answer.errorCode = "00" := by
    rw [decoded] at accepted
    exact of_decide_eq_true (Except.ok.inj accepted)
  cases answered with
  | unencoded error failed => cases accepted
  | unreached msg framed => exact absurd (zero rfl) (by decide)
  | unanswered msg framed => exact absurd (zero rfl) (by decide)
  | taken msg framed own reply sent =>
    cases decoded : if reply = [] then .ok {} else SetParameterResponse.fromBytes reply with
    | error error =>
      rw [decoded] at accepted
      cases accepted
    | ok answer =>
      exact ⟨(own, reply), List.mem_append_right _ (List.mem_singleton_self _),
        fun other same => sent other same ▸ framed, .setParameter answer,
        congrArg (Response.setParameter <$> ·) decoded, zero decoded⟩

/-- The requests that a method with the output rate may make, and what it needs to be successful. -/
def Rated (value : String) (requests : List Request) (noted : Noted) (successful : Prop) : Prop :=
  Belongs requests noted.taken ∧
    (successful → Acknowledged (.setParameter value "1020" "00") noted.taken)

theorem startStreaming_ensures (value : String) (requests : List Request)
    (sets : Request.setParameter value "1020" "00" ∈ requests)
    (starts : Request.command "40" ∈ requests) (noted : Noted)
    (belongs : Belongs requests noted.taken) :
    (startStreaming value).Ensures note
      (fun after result => Rated value requests after (result = .ok true)) noted := by
  apply (configureOutputRate_ensures value noted).bind
  intro after configured ⟨keeps, acknowledged⟩
  have kept := keeps requests sets belongs
  rcases configured with error | (_ | _)
  · exact ⟨kept, nofun⟩
  · exact fun _ => ⟨kept, nofun⟩
  · apply (commandCall_ensures (commandFrame "40") after).bind
    intro last response answered
    have keptToo := kept.answered (.command "40") starts answered
    cases response with
    | error error => exact ⟨keptToo, nofun⟩
    | ok response =>
      dsimp only
      split_ifs
      · exact fun _ => ⟨keptToo, nofun⟩
      · exact fun _ => ⟨keptToo, nofun⟩
      · exact ⟨keptToo, fun _ => (acknowledged rfl).answered answered⟩

/-- Opening exchanges nothing. -/
theorem openUp_ensures (noted : Noted) :
    openUp.Ensures note (fun after _ => after.taken = noted.taken) noted := by
  intro _ isOpen
  cases isOpen with
  | false => exact rfl
  | true => exact fun _ => rfl

theorem attemptReconnect_ensures (value : String) :
    (attemptReconnect value).Ensures note
      (fun after result =>
        Rated value (Call.attemptReconnect value).requests after (result = true)) ⟨none, []⟩ := by
  have sets : Request.setParameter value "1020" "00" ∈ (Call.attemptReconnect value).requests :=
    List.mem_cons_self
  have starts : Request.command "40" ∈ (Call.attemptReconnect value).requests :=
    List.mem_cons_of_mem _ List.mem_cons_self
  intro _
  apply (openUp_ensures ⟨none, []⟩).bind
  intro opened accepted untouched
  have nothing : Belongs (Call.attemptReconnect value).requests opened.taken := by
    rw [untouched]
    exact nofun
  cases accepted with
  | false => exact ⟨nothing, nofun⟩
  | true =>
    intro isOpen
    cases isOpen with
    | false => exact ⟨nothing, nofun⟩
    | true =>
      intro _
      apply (startStreaming_ensures value _ sets starts opened nothing).bind
      intro after started rated _
      cases started with
      | error error => exact fun _ => ⟨rated.1, nofun⟩
      | ok started => exact ⟨rated.1, fun same => rated.2 (congrArg Except.ok same)⟩

theorem streamingOn_ensures (value : String) :
    (streamingOn value).Ensures note
      (fun after result =>
        Rated value (Call.streamingOn value).requests after (result = .ok true)) ⟨none, []⟩ := by
  have asks (request : Request)
      (member : request ∈ ([.getParameter "0001" "00", .getParameter "0001" "03",
        .setParameter value "1020" "00", .command "40"] : List Request)) :
      request ∈ (Call.streamingOn value).requests := member
  apply (openUp_ensures ⟨none, []⟩).bind
  intro opened accepted untouched
  have nothing : Belongs (Call.streamingOn value).requests opened.taken := by
    rw [untouched]
    exact nofun
  cases accepted with
  | false => exact ⟨nothing, nofun⟩
  | true =>
    intro streams
    cases streams with
    | false => exact ⟨nothing, nofun⟩
    | true =>
      apply (getParameter_ensures "0001" "00" opened).bind
      intro named name answered
      have one := nothing.answered (.getParameter "0001" "00") (asks _ (by simp)) answered
      cases name with
      | error error => exact ⟨one, nofun⟩
      | ok name =>
        apply (getParameter_ensures "0001" "03" named).bind
        intro known id answered
        have two := one.answered (.getParameter "0001" "03") (asks _ (by simp)) answered
        cases id with
        | error error => exact ⟨two, nofun⟩
        | ok id =>
          apply (configureOutputRate_ensures value known).bind
          intro rated configured ⟨keeps, acknowledged⟩
          have three := keeps _ (asks _ (by simp)) two
          rcases configured with error | (_ | _)
          · exact ⟨three, nofun⟩
          · exact fun _ => ⟨three, nofun⟩
          · apply (commandCall_ensures (Requests.commandFrame "40") rated).bind
            intro last response answered
            have four := three.answered (.command "40") (asks _ (by simp)) answered
            cases response with
            | error error => exact ⟨four, nofun⟩
            | ok response => exact ⟨four, fun _ => (acknowledged rfl).answered answered⟩

/-! ### Every call -/

/-- A call for one request. -/
theorem accounts_single {α : Type} (call : Call) (request : Request) (method : Method (Result α))
    (wrap : α → Response) (respond : Bytes → Result α) (unreached : α)
    (single : call.single = some request) (requests : call.requests = [request])
    (asks : ¬call.Refuses)
    (script : call.script = (.response <$> wrap <$> ·) <$> method)
    (responds : ∀ data, request.respond data = wrap <$> respond data)
    (unreaches : request.unreached = wrap unreached)
    (ensures : method.Ensures note
      (fun after => Answered request.frame respond unreached [] after.taken) ⟨none, []⟩) :
    call.script.Ensures note (fun after => Accounts call after.taken) ⟨none, []⟩ := by
  rw [script]
  apply ensures.bind
  intro after result answered
  refine ⟨?_, ?_, fun refuses => absurd refuses asks, ?_⟩
  · rw [requests]
    exact Belongs.answered (fun _ none => absurd none List.not_mem_nil) request
      (List.mem_singleton_self _) answered
  · intro other same
    rw [single] at same
    cases same
    refine ⟨wrap <$> result, rfl, ?_⟩
    rw [unreaches, show request.respond = fun data => wrap <$> respond data from funext responds]
    exact answered.map wrap
  · intro value starts
    rcases starts with rfl | rfl
    · cases single
    · cases single

/-- A call that asks the sensor for nothing. -/
theorem accounts_silent (call : Call) (single : call.single = none) (result : Result Value)
    (refused : call.Refuses → result = .ok (.response (.command { errorCode := "03" })))
    (started : result ≠ .ok (.flag true)) : Accounts call [] result where
  belongs := fun _ none => absurd none List.not_mem_nil
  single := fun request same => by
    rw [single] at same
    cases same
  refused := fun refuses => ⟨rfl, refused refuses⟩
  started := fun _ _ accepted => absurd accepted started

/-- Every call accounts for what it returns. -/
theorem call_accounts (call : Call) :
    call.script.Ensures note (fun after => Accounts call after.taken) ⟨none, []⟩ := by
  have selects (number : String) (last argument : Int)
      (script : call.script = (.response <$> .command <$> ·) <$> select number last argument)
      (single : call.single =
        if 0 ≤ argument ∧ argument ≤ last then some (.commandWithParameter number argument) else none)
      (requests : call.requests = call.single.toList)
      (refuses : call.Refuses ↔ ¬(0 ≤ argument ∧ argument ≤ last)) :
      call.script.Ensures note (fun after => Accounts call after.taken) ⟨none, []⟩ := by
    by_cases inRange : 0 ≤ argument ∧ argument ≤ last
    · rw [if_pos inRange] at single
      have method : select number last argument =
          commandCall (Requests.commandWithParameterFrame number argument) := if_pos inRange
      rw [method] at script
      exact accounts_single call (.commandWithParameter number argument) _ .command
        CommandResponse.fromBytes {} single (by rw [requests, single]; rfl)
        (fun refused => refuses.mp refused inRange) script (fun _ => rfl) rfl
        (commandCall_ensures _ ⟨none, []⟩)
    · rw [if_neg inRange] at single
      have method : select number last argument = .done (.ok { errorCode := "03" }) :=
        if_neg inRange
      rw [script, method]
      exact accounts_silent call single _ (fun _ => rfl) nofun
  cases call with
  | getParameter index subindex =>
    exact accounts_single _ (.getParameter index subindex) _ .getParameter _ {} rfl rfl id rfl
      (fun _ => rfl) rfl (getParameter_ensures index subindex ⟨none, []⟩)
  | setParameter value index subindex =>
    exact accounts_single _ (.setParameter value index subindex) _ .setParameter _ {} rfl rfl id rfl
      (fun _ => rfl) rfl (setParameter_ensures value index subindex ⟨none, []⟩)
  | runCommand command =>
    exact accounts_single _ (.command command) _ .command CommandResponse.fromBytes {} rfl rfl id rfl
      (fun _ => rfl) rfl (commandCall_ensures _ ⟨none, []⟩)
  | selectToolSetting toolIndex => exact selects "30" 3 toolIndex rfl rfl rfl Iff.rfl
  | selectNoiseFilter filterNumber => exact selects "31" 4 filterNumber rfl rfl rfl Iff.rfl
  | attemptReconnect value =>
    apply (attemptReconnect_ensures value).bind
    intro after started ⟨belongs, acknowledged⟩
    refine ⟨belongs, nofun, nofun, ?_⟩
    intro other same successful
    cases same.resolve_right nofun
    cases successful
    exact acknowledged rfl
  | streamingOn value =>
    apply (streamingOn_ensures value).bind
    intro after started ⟨belongs, acknowledged⟩
    refine ⟨belongs, nofun, nofun, ?_⟩
    intro other same successful
    cases same.resolve_left nofun
    rcases started with error | flag
    · cases successful
    · cases successful
      exact acknowledged rfl
  | streamingOff =>
    have stops : (streamingOff).Ensures note
        (fun after _ => Belongs [.command "41"] after.taken) ⟨none, []⟩ := by
      apply (commandCall_ensures (Requests.commandFrame "41") ⟨none, []⟩).bind
      intro after response answered
      have belongs : Belongs [.command "41"] after.taken :=
        Belongs.answered (fun _ none => absurd none List.not_mem_nil) (.command "41")
          (List.mem_singleton_self _) answered
      cases response with
      | error error => exact belongs
      | ok response => exact fun _ => belongs
    apply stops.bind
    intro after result belongs
    exact ⟨belongs, nofun, nofun, fun _ same => by simp at same⟩
  | closeConnection => exact fun _ => accounts_silent _ rfl _ nofun nofun

end SchunkFts.Library.CallAccounts
