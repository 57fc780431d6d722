import SchunkFts.Node.ServiceCallbacks
import SchunkFts.Whole.SensorHistory

/-! What the clients of the node's services are told, against what the sensor at the other end of the
control connection has made of their requests, while other threads call the driver and the update loop
reconnects. -/

namespace SchunkFts.Whole.ServiceAnswers
open SchunkFts.Foundation.Struct SchunkFts.Foundation.Hex SchunkFts.Foundation.Run
open SchunkFts.Library SchunkFts.Library.Messages SchunkFts.Library.Requests
open SchunkFts.Library.MessageRoundTrip SchunkFts.Library.CallAccounts
open SchunkFts.Library.SharedConnection
open SchunkFts.Library.CallScripts (Call Value)
open SchunkFts.Dummy SchunkFts.Dummy.OutputRate SchunkFts.Dummy.DriverRequests
open SchunkFts.Dummy.Sensor (Server validCommands commandCode)
open SchunkFts.Node.Lifecycle (Request withoutHexPrefix)
open SchunkFts.Node.ServiceCallbacks hiding Call runCommand setParameter tare tareReset
  selectToolSetting selectNoiseFilter
open SensorHistory

/-- The method of the library that the callback of a request calls. -/
def libraryCall : Request → Call
  | .sendCommand commandId => .runCommand (withoutHexPrefix commandId)
  | .setParameter paramValue paramIndex paramSubindex =>
      .setParameter paramValue paramIndex paramSubindex
  | .tare => .runCommand "12"
  | .resetTare => .runCommand "13"
  | .selectToolSetting toolIndex => .selectToolSetting toolIndex
  | .selectNoiseFilter filterNumber => .selectNoiseFilter filterNumber

/-- What this method asks of the sensor. -/
def asked : Request → CallScripts.Request
  | .sendCommand commandId => .command (withoutHexPrefix commandId)
  | .setParameter paramValue paramIndex paramSubindex =>
      .setParameter paramValue paramIndex paramSubindex
  | .tare => .command "12"
  | .resetTare => .command "13"
  | .selectToolSetting toolIndex => .commandWithParameter "30" toolIndex
  | .selectNoiseFilter filterNumber => .commandWithParameter "31" filterNumber

def errorCode : Value → String
  | .response response => response.errorCode
  | _ => ""

theorem asked_frame (request : Request) : (asked request).frame = requestFrame request := by
  cases request <;> rfl

theorem libraryCall_single (request : Request) (inRange : InRange request) :
    (libraryCall request).single = some (asked request) := by
  cases request with
  | selectToolSetting toolIndex => exact if_pos inRange
  | selectNoiseFilter filterNumber => exact if_pos inRange
  | _ => rfl

theorem libraryCall_refuses (request : Request) :
    (libraryCall request).Refuses ↔ ¬InRange request := by
  cases request with
  | selectToolSetting toolIndex => exact Iff.rfl
  | selectNoiseFilter filterNumber => exact Iff.rfl
  | _ => exact iff_of_false id (fun wrong => wrong trivial)

/-! ### From the call to the callback -/

/-- An open connection on which this arrives, and a closed one that cannot be opened. -/
def receiving (data : Bytes) : SensorExchange where
  connection := ⟨.connected, true, true⟩
  opening := .ok { accepted := true }
  send := .ok true
  receive := .ok data

def unreachable : SensorExchange where
  connection := .new
  opening := .ok { accepted := false }
  send := .ok true
  receive := .ok []

section
variable (str : PyError → String)

theorem setParameter_or_command (request : Request) :
    (∃ value index subindex, request = .setParameter value index subindex) ∨
      ∀ value index subindex, request ≠ .setParameter value index subindex := by
  cases request with
  | setParameter value index subindex => exact .inl ⟨value, index, subindex, rfl⟩
  | _ => exact .inr (fun _ _ _ => nofun)

theorem setParameter_entered (exchange : SensorExchange) (value index subindex : String)
    (msg : Bytes) (framed : setParameterFrame value index subindex = .ok msg) (usable : Bool)
    (entered : exchange.entered = .ok usable) :
    Node.ServiceCallbacks.setParameter str exchange value index subindex =
      exchange.call str usable .error
        (fun link => parameterExchange link (.ok msg) SetParameterResponse.fromBytes {}) := by
  have method : (fun link => Library.Requests.setParameter link value index subindex) =
      fun link => parameterExchange link (.ok msg) SetParameterResponse.fromBytes {} := by
    rw [← framed]
    rfl
  simp only [Node.ServiceCallbacks.setParameter, framed, entered, method]

/-- All methods but `set_parameter` are commands. -/
theorem requestCode_command (exchange : SensorExchange) (request : Request)
    (inRange : InRange request)
    (command : ∀ value index subindex, request ≠ .setParameter value index subindex) :
    requestCode str exchange request =
      (exchange.command str (fun link => commandExchange link (requestFrame request))).map
        (·.errorCode) := by
  cases request with
  | setParameter paramValue paramIndex paramSubindex => exact absurd rfl (command _ _ _)
  | selectToolSetting toolIndex =>
    have whole : (fun link => Library.Requests.selectToolSetting link toolIndex) =
        fun link => commandExchange link (commandWithParameterFrame "30" toolIndex) :=
      funext fun _ => if_pos inRange
    rw [requestCode, Node.ServiceCallbacks.selectToolSetting, whole]
    rfl
  | selectNoiseFilter filterNumber =>
    have whole : (fun link => Library.Requests.selectNoiseFilter link filterNumber) =
        fun link => commandExchange link (commandWithParameterFrame "31" filterNumber) :=
      funext fun _ => if_pos inRange
    rw [requestCode, Node.ServiceCallbacks.selectNoiseFilter, whole]
    rfl
  | _ => rfl

theorem asked_command (request : Request) (data : Bytes)
    (command : ∀ value index subindex, request ≠ .setParameter value index subindex) :
    (asked request).respond data = .command <$> CommandResponse.fromBytes data ∧
      (asked request).unreached = .command {} := by
  cases request with
  | setParameter paramValue paramIndex paramSubindex => exact absurd rfl (command _ _ _)
  | _ => exact ⟨rfl, rfl⟩

theorem errorCode_map {α : Type} (wrap : α → CallScripts.Response) (code : α → String)
    (same : ∀ answer, (wrap answer).errorCode = code answer) (result : Result α) :
    code <$> result.mapError str =
      (CallScripts.Response.errorCode <$> wrap <$> result).mapError str := by
  cases result with
  | error error => rfl
  | ok answer => exact congrArg Except.ok (same answer).symm

/-- What a callback makes of what arrives. -/
theorem requestCode_receiving (request : Request) (inRange : InRange request) (msg : Bytes)
    (framed : requestFrame request = .ok msg) (data : Bytes) :
    (requestCode str (receiving data) request).result =
      (CallScripts.Response.errorCode <$> (asked request).respond data).mapError str := by
  obtain ⟨value, index, subindex, rfl⟩ | command := setParameter_or_command request
  · rw [requestCode, setParameter_entered str (receiving data) value index subindex msg framed true rfl]
    exact errorCode_map str .setParameter (·.errorCode) (fun _ => rfl)
      (if data = [] then .ok {} else SetParameterResponse.fromBytes data)
  · rw [requestCode_command str _ request inRange command, framed,
      (asked_command request data command).1]
    exact errorCode_map str .command (·.errorCode) (fun _ => rfl) (CommandResponse.fromBytes data)

/-- A connection that cannot be used. -/
theorem requestCode_unreachable (request : Request) (inRange : InRange request) (msg : Bytes)
    (framed : requestFrame request = .ok msg) :
    (requestCode str unreachable request).result = .ok (asked request).unreached.errorCode := by
  obtain ⟨value, index, subindex, rfl⟩ | command := setParameter_or_command request
  · rw [requestCode, setParameter_entered str unreachable value index subindex msg framed false rfl]
    rfl
  · rw [requestCode_command str _ request inRange command, framed,
      (asked_command request [] command).2]
    rfl

/-- A message that cannot be encoded. -/
theorem requestCode_unencoded (request : Request) (inRange : InRange request) (error : PyError)
    (failed : requestFrame request = .error error) :
    (requestCode str unreachable request).result = .error (str error) := by
  obtain ⟨value, index, subindex, rfl⟩ | command := setParameter_or_command request
  · rw [requestFrame] at failed
    simp only [requestCode, Node.ServiceCallbacks.setParameter, failed]
    rfl
  · rw [requestCode_command str _ request inRange command, failed]
    rfl

theorem requestCode_refused (request : Request) (outside : ¬InRange request) :
    (requestCode str unreachable request).result = .ok "03" := by
  cases request with
  | selectToolSetting toolIndex =>
    have whole : (fun link => Library.Requests.selectToolSetting link toolIndex) =
        fun _ => ⟨[], .ok { errorCode := "03" }⟩ := funext fun _ => if_neg outside
    rw [requestCode, Node.ServiceCallbacks.selectToolSetting, whole]
    rfl
  | selectNoiseFilter filterNumber =>
    have whole : (fun link => Library.Requests.selectNoiseFilter link filterNumber) =
        fun _ => ⟨[], .ok { errorCode := "03" }⟩ := funext fun _ => if_neg outside
    rw [requestCode, Node.ServiceCallbacks.selectNoiseFilter, whole]
    rfl
  | _ => exact absurd trivial outside

end

/-! ### What a call returns -/

/-- The response of the callback whose method ends like this. -/
def responseTo (str : PyError → String) (request : Request) (result : Result Value) : Response :=
  told request ((errorCode <$> result).mapError str)

/-- The eighth byte is the error code. -/
theorem respond_code (request : Request) (reply : Bytes) (code : Byte)
    (eighth : reply[7]? = some code) :
    errorCode <$> Value.response <$> (asked request).respond reply = .ok (toHex [code]) := by
  obtain ⟨long, _⟩ := List.getElem?_eq_some_iff.mp eighth
  have byte : slice reply 7 8 = [code] := by
    rw [slice, List.drop_take, List.take_one, List.head?_drop, eighth]
    rfl
  have field : hexField reply 7 8 = toHex [code] := congrArg toHex byte
  obtain ⟨value, index, subindex, rfl⟩ | command := setParameter_or_command request
  · obtain ⟨response, decoded, same⟩ := setParameterResponse_of_le reply (by omega)
    have some_reply : reply ≠ [] := List.ne_nil_of_length_pos (by omega)
    simp only [asked, CallScripts.Request.respond, if_neg some_reply, decoded]
    exact congrArg Except.ok (same.trans field)
  · obtain ⟨response, decoded, same⟩ := commandResponse_of_le reply (by omega)
    rw [(asked_command request reply command).1, decoded]
    exact congrArg Except.ok (same.trans field)

section
variable (str : PyError → String) (request : Request) (taken : Taken) (result : Result Value)
  (accounts : Accounts (libraryCall request) taken result)

include accounts

/-- Whatever the other threads do meanwhile, a callback meets nothing that it could not meet alone. -/
theorem call_met : ∃ exchange,
    (requestCode str exchange request).result = (errorCode <$> result).mapError str := by
  by_cases inRange : InRange request
  · obtain ⟨response, rfl, answered⟩ := accounts.single (asked request)
      (libraryCall_single request inRange)
    have code (response : Result CallScripts.Response) :
        errorCode <$> Value.response <$> response = CallScripts.Response.errorCode <$> response := by
      cases response <;> rfl
    rw [code]
    rw [asked_frame] at answered
    cases answered with
    | unencoded error failed =>
      exact ⟨unreachable, requestCode_unencoded str request inRange error failed⟩
    | unreached msg framed =>
      exact ⟨unreachable, requestCode_unreachable str request inRange msg framed⟩
    | unanswered msg framed =>
      exact ⟨receiving [], requestCode_receiving str request inRange msg framed []⟩
    | taken msg framed own reply sent =>
      exact ⟨receiving reply, requestCode_receiving str request inRange msg framed reply⟩
  · obtain ⟨_, rfl⟩ := accounts.refused ((libraryCall_refuses request).mpr inRange)
    exact ⟨unreachable, requestCode_refused str request inRange⟩

/-- Without a reply there is no success. -/
theorem unanswered_fails (nothing : taken = []) :
    (responseTo str request result).success = false := by
  rw [← Bool.not_eq_true, responseTo, told_success]
  intro zero
  by_cases inRange : InRange request
  · obtain ⟨response, rfl, answered⟩ := accounts.single (asked request)
      (libraryCall_single request inRange)
    cases answered with
    | unencoded error failed => cases zero
    | unreached msg framed =>
      have empty : (asked request).unreached.errorCode = "" := by cases request <;> rfl
      exact absurd (empty.symm.trans (Except.ok.inj zero)) (by decide)
    | unanswered msg framed =>
      obtain ⟨value, index, subindex, rfl⟩ | command := setParameter_or_command request
      · exact absurd (Except.ok.inj zero) (by decide)
      · rw [(asked_command request [] command).1] at zero
        cases zero
    | taken msg framed own reply sent => exact absurd nothing (List.cons_ne_nil _ _)
  · obtain ⟨_, rfl⟩ := accounts.refused ((libraryCall_refuses request).mpr inRange)
    exact absurd (Except.ok.inj zero) (by decide)

/-- A reply is reported by the code in it. -/
theorem reply_told (exchange : Option Bytes × Bytes) (took : exchange ∈ taken) (code : Byte)
    (eighth : exchange.2[7]? = some code) :
    (∃ msg, requestFrame request = .ok msg ∧ ∀ sent, exchange.1 = some sent → sent = msg) ∧
      responseTo str request result = report (toHex [code]) := by
  by_cases inRange : InRange request
  · obtain ⟨response, rfl, answered⟩ := accounts.single (asked request)
      (libraryCall_single request inRange)
    rw [asked_frame] at answered
    cases answered with
    | taken msg framed own reply sent =>
      obtain rfl := List.mem_singleton.mp took
      refine ⟨⟨msg, framed, sent⟩, ?_⟩
      rw [responseTo, respond_code request reply code eighth]
      rfl
    | _ => cases took
  · obtain ⟨none, _⟩ := accounts.refused ((libraryCall_refuses request).mpr inRange)
    rw [none] at took
    cases took

end

/-! ### What the sensor accepts -/

/-- Fields of their widths, a value that one read takes in, and numbers in their ranges. -/
def WellFormed : Request → Prop
  | .sendCommand commandId => (Session.Request.command (withoutHexPrefix commandId)).WellFormed
  | .setParameter paramValue paramIndex paramSubindex =>
      (Session.Request.setParameter paramValue paramIndex paramSubindex).WellFormed
  | request => InRange request

/-- A command that the sensor knows; and a value in its table, if it is for the output rate. -/
def Accepted : Request → Prop
  | .sendCommand commandId =>
      validCommands.any (fun byte => withoutHexPrefix commandId = toHex [byte])
  | .setParameter paramValue paramIndex paramSubindex =>
      paramIndex = "1020" ∧ paramSubindex = "00" →
        (Session.firstValueByte paramValue paramIndex paramSubindex).any enumValues.contains
  | _ => True

theorem command_accepted (a b d e f g c : Byte) (rest : Bytes) (notGet : c ≠ 0xf0)
    (notSet : c ≠ 0xf1) :
    codeOf (a :: b :: d :: e :: f :: g :: c :: rest) = 0x00 ↔ c ∈ validCommands := by
  have first : (a :: b :: d :: e :: f :: g :: c :: rest)[6]? = some c := rfl
  have other : ¬IsRateWrite (a :: b :: d :: e :: f :: g :: c :: rest) := by
    rintro ⟨write, _⟩
    exact notSet (Option.some.inj (first.symm.trans write))
  have neither : ¬(some c = some 0xf0 ∨ some c = some 0xf1) := by
    simp only [Option.some.injEq]
    exact fun either => either.elim notGet notSet
  rw [codeOf, if_neg other, first, if_neg neither, Option.elim_some, commandCode]
  split_ifs with valid
  · simp [valid]
  · simp [valid]

theorem setParameter_accepted (a b d e f g low high s value : Byte) (rest : Bytes) :
    codeOf (a :: b :: d :: e :: f :: g :: 0xf1 :: low :: high :: s :: value :: rest) = 0x00 ↔
      ([high, low] = [0x10, 0x20] ∧ s = 0x00 → value ∈ enumValues) := by
  let msg : Bytes := a :: b :: d :: e :: f :: g :: 0xf1 :: low :: high :: s :: value :: rest
  have write : IsRateWrite msg ↔ [high, low] = [0x10, 0x20] ∧ s = 0x00 := by
    simp only [IsRateWrite, msg, List.getElem?_cons_succ, List.getElem?_cons_zero,
      Option.some.injEq, true_and, List.cons.injEq, and_true]
    tauto
  have found : msg[10]? = some value := rfl
  change codeOf msg = 0x00 ↔ _
  rw [← write]
  by_cases rate : IsRateWrite msg
  · rw [codeOf, if_pos rate, found]
    by_cases known : value ∈ enumValues
    · simp [known]
    · simp [rate, known]
  · rw [codeOf, if_neg rate, if_pos (.inr rfl)]
    simp [rate]

theorem select_msg (command : Byte) (parameter : Int) :
    commandWithParameterFrame (toHex [command]) parameter =
      .ok [0xff, 0xff, 0, 0, 2, 0, command, BitVec.ofInt 8 parameter] := by
  have payload : encodeFields [toHex [command], toHex [BitVec.ofInt 8 parameter]] =
      [command, BitVec.ofInt 8 parameter] := by
    simp only [encodeFields_toHex, encodeFields_nil]
    rfl
  have length : ([command, BitVec.ofInt 8 parameter] : Bytes).length = 2 := rfl
  apply (default_frame_iff [toHex [command], toHex [BitVec.ofInt 8 parameter]] _).mpr
  rw [payload, length]
  exact ⟨by decide, rfl⟩

/-- The code in the reply to a well-formed request says whether it is accepted. -/
theorem wellFormed_accepted (request : Request) (wellFormed : WellFormed request) :
    ∃ msg, requestFrame request = .ok msg ∧ (codeOf msg = 0x00 ↔ Accepted request) := by
  cases request with
  | sendCommand commandId =>
    obtain ⟨lower, notGet, notSet⟩ := wellFormed
    obtain ⟨c, text⟩ := lowerHex_byte _ lower
    have get : ("f0" : String) = toHex [0xf0] := by decide
    have set : ("f1" : String) = toHex [0xf1] := by decide
    rw [text] at notGet notSet
    have code := command_accepted 0xff 0xff 0 0 1 0 c [] (fun same => notGet (same ▸ get.symm))
      (fun same => notSet (same ▸ set.symm))
    refine ⟨_, (congrArg commandFrame text).trans (Session.command_msg c), ?_⟩
    rw [code, Accepted, text]
    simp [toHex_inj]
  | setParameter paramValue paramIndex paramSubindex =>
    obtain ⟨index, subindex, count, positive, fits, lower⟩ := wellFormed
    obtain ⟨high, low, rfl⟩ := lowerHex_word paramIndex index
    obtain ⟨s, rfl⟩ := lowerHex_byte paramSubindex subindex
    obtain ⟨v, length, rfl⟩ := lowerHex_bytes count paramValue lower
    obtain ⟨value, rest, first⟩ : ∃ value rest, v.reverse = value :: rest := by
      apply List.exists_cons_of_length_pos
      rw [List.length_reverse]
      omega
    have sent := Session.setParameter_msg high low s v (by omega)
    rw [first] at sent
    have code := setParameter_accepted 0xff 0xff 0 0 (BitVec.ofNat 8 (4 + v.length))
      (BitVec.ofNat 8 ((4 + v.length) / 256)) low high s value rest
    refine ⟨_, sent, code.trans ?_⟩
    rw [Accepted, Session.outputRate_iff, Session.firstValueByte_sent high low s value v rest first
      (by omega)]
    simp
  | tare =>
    have code := command_accepted 0xff 0xff 0 0 1 0 0x12 [] (by decide) (by decide)
    exact ⟨_, Session.command_msg 0x12, code.trans (iff_of_true (by decide) trivial)⟩
  | resetTare =>
    have code := command_accepted 0xff 0xff 0 0 1 0 0x13 [] (by decide) (by decide)
    exact ⟨_, Session.command_msg 0x13, code.trans (iff_of_true (by decide) trivial)⟩
  | selectToolSetting toolIndex =>
    have code := command_accepted 0xff 0xff 0 0 2 0 0x30 [BitVec.ofInt 8 toolIndex] (by decide)
      (by decide)
    exact ⟨_, select_msg 0x30 toolIndex, code.trans (iff_of_true (by decide) trivial)⟩
  | selectNoiseFilter filterNumber =>
    have code := command_accepted 0xff 0xff 0 0 2 0 0x31 [BitVec.ofInt 8 filterNumber] (by decide)
      (by decide)
    exact ⟨_, select_msg 0x31 filterNumber, code.trans (iff_of_true (by decide) trivial)⟩

/-! ### What the clients are told -/

variable {Thread : Type}

/-- The response reports the code with which the sensor has answered this very request; the sensor has
carried out what is reported as done; and a well-formed request of which a reply has come succeeds
exactly if it is accepted. -/
structure Truthful (first : Server Nat) (last : State Thread (Server Nat)) (request : Request)
    (finished : Finished Thread) (response : Response) : Prop where
  told : ∀ exchange ∈ finished.taken, ∃ msg, requestFrame request = .ok msg ∧
    Served first last finished.number msg exchange.2 ∧ response = report (toHex [codeOf msg])
  done : response.success = true → ∃ msg reply, requestFrame request = .ok msg ∧
    codeOf msg = 0x00 ∧ Served first last finished.number msg reply
  accepted : WellFormed request →
    (response.success = true ↔ finished.taken ≠ [] ∧ Accepted request)

theorem report_code (code : Byte) : (report (toHex [code])).success = true ↔ code = 0x00 := by
  have zero : ("00" : String) = toHex [0x00] := by decide
  rw [report_success, zero, toHex_inj]
  simp

variable [DecidableEq Thread]

/-- Whatever a client asks for and whatever the other threads do meanwhile, no callback raises, and
without a reply there is no success. Where the replies are taken in the order of the requests, every
client is told the truth about the sensor. -/
theorem services_truthful (str : PyError → String) (first : Server Nat)
    (actions : List (Action Thread (Server Nat))) (finished : Finished Thread)
    (member : finished ∈ (run (step dummyServe) (State.start first) actions).finished)
    (request : Request) (calls : finished.call = libraryCall request) :
    let response := responseTo str request finished.result
    (∃ exchange, (requestCode str exchange request).result =
        (errorCode <$> finished.result).mapError str ∧
      (callback str exchange request).result = .ok response) ∧
    (finished.taken = [] → response.success = false) ∧
    (AllMeet (step dummyServe) Meets (State.start first) actions →
      Truthful first (run (step dummyServe) (State.start first) actions) request finished
        response) := by
  intro response
  have noting : Noting Accounts (run (step dummyServe) (State.start first) actions) :=
    noting_run call_accounts first actions
  have accounts : Accounts (libraryCall request) finished.taken finished.result :=
    calls ▸ (noting.finished finished member).2
  have fails := unanswered_fails str request finished.taken finished.result accounts
  refine ⟨?_, fails, fun inTurn => ?_⟩
  · obtain ⟨exchange, met⟩ := call_met str request finished.taken finished.result accounts
    exact ⟨exchange, met, (callback_told str exchange request).trans (by rw [met]; rfl)⟩
  · have served := (taken_served first actions inTurn finished member).2
    have told : ∀ exchange ∈ finished.taken, ∃ msg, requestFrame request = .ok msg ∧
        Served first (run (step dummyServe) (State.start first) actions) finished.number msg
          exchange.2 ∧ response = report (toHex [codeOf msg]) := by
      intro exchange took
      obtain ⟨msg, waits, serves⟩ := served exchange took
      have code : exchange.2[7]? = some (codeOf msg) := by
        obtain ⟨_, _, _, _, _, _, _, _, _, eighth, _⟩ := serves
        exact eighth
      obtain ⟨⟨sent, framed, mine⟩, reported⟩ :=
        reply_told str request finished.taken finished.result accounts exchange took (codeOf msg) code
      exact ⟨msg, mine msg waits ▸ framed, serves, reported⟩
    have answered (success : response.success = true) :
        ∃ exchange, exchange ∈ finished.taken := by
      apply List.exists_mem_of_ne_nil
      intro nothing
      rw [fails nothing] at success
      cases success
    refine ⟨told, fun success => ?_, fun wellFormed => ?_⟩
    · obtain ⟨exchange, took⟩ := answered success
      obtain ⟨msg, framed, serves, reported⟩ := told exchange took
      rw [reported, report_code] at success
      exact ⟨msg, exchange.2, framed, success, serves⟩
    · obtain ⟨sent, encoded, code⟩ := wellFormed_accepted request wellFormed
      constructor
      · intro success
        obtain ⟨exchange, took⟩ := answered success
        obtain ⟨msg, framed, _, reported⟩ := told exchange took
        obtain rfl : sent = msg := Except.ok.inj (encoded.symm.trans framed)
        rw [reported, report_code] at success
        exact ⟨List.ne_nil_of_mem took, code.mp success⟩
      · rintro ⟨some_reply, accepts⟩
        obtain ⟨exchange, took⟩ := List.exists_mem_of_ne_nil _ some_reply
        obtain ⟨msg, framed, _, reported⟩ := told exchange took
        obtain rfl : sent = msg := Except.ok.inj (encoded.symm.trans framed)
        rw [reported, report_code]
        exact code.mpr accepts

/-- The write of a rate that another thread replaces later on. -/
def rateSet : Finished Nat where
  thread := 1
  number := 0
  call := .setParameter "02" "1020" "00"
  taken := [(some [0xff, 0xff, 0, 0, 5, 0, 0xf1, 0x20, 0x10, 0, 2],
    [0xff, 0xff, 1, 0, 5, 0, 0xf1, 0, 0x20, 0x10, 0])]
  result := .ok (.response (.setParameter ⟨⟨"ffff", 1, some 5⟩, "f1", "00", "1020", "00"⟩))

theorem rateSet_truthful :
    Truthful .start (run (step dummyServe) (State.start .start) rateReplaced)
      (.setParameter "02" "1020" "00") rateSet ⟨true, ""⟩ :=
  (services_truthful (fun _ => "") .start rateReplaced rateSet (by decide +kernel)
    (.setParameter "02" "1020" "00") rfl).2.2 (by decide +kernel)

end SchunkFts.Whole.ServiceAnswers
