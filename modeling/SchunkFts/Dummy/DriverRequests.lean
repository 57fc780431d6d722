import SchunkFts.Dummy.Session
import SchunkFts.Dummy.UdpStream
import SchunkFts.Library.DriverSettings

/-! What the dummy sensor makes of a message: the rate it stores, and the error code in its reply; and
the tables of output rates on both sides. -/

namespace SchunkFts.Dummy.DriverRequests
open SchunkFts.Foundation.Struct SchunkFts.Foundation.Hex
open SchunkFts.Library.Messages SchunkFts.Library.Requests
open SchunkFts.Library.DriverSettings (OutputRate)
open OutputRate (OutputRateState enumValues)
open Sensor UdpStream

/-- The byte that the parameter value of a rate stands for. -/
def rateByte (rate : OutputRate) : Byte := ((fromHex rate.mode.parameterValue).getD []).getD 0 0

/-- The sensor's mode and the driver's describe one rate. -/
structure Matches (mode : OutputRate.OutputRateMode) (rate : OutputRate) : Prop where
  value : mode.enumValue = rateByte rate
  packets : mode.udpPacketRateHz = rate.mode.packetRateHz
  samples : mode.requestedHz = rate.mode.sampleRateHz
  perPacket : mode.samplesPerPacket = rate.mode.samplesPerPacket

/-- A set request for the output rate. -/
def IsRateWrite (msg : Bytes) : Prop :=
  msg[6]? = some 0xf1 ∧ msg[7]? = some 0x20 ∧ msg[8]? = some 0x10 ∧ msg[9]? = some 0x00

instance (msg : Bytes) : Decidable (IsRateWrite msg) := inferInstanceAs (Decidable (_ ∧ _))

/-- The value that a request stores, if it is of the table. -/
def rateWrite (msg : Bytes) : List Byte := if IsRateWrite msg then msg[10]?.toList else []

/-- The error code in the reply to a message that can be answered. -/
def codeOf (msg : Bytes) : Byte :=
  if IsRateWrite msg then
    msg[10]?.elim 0x15 (fun value => if enumValues.contains value then 0x00 else 0x16)
  else if msg[6]? = some 0xf0 ∨ msg[6]? = some 0xf1 then 0x00
  else msg[6]?.elim 0x01 commandCode

/-- One read takes in all the bytes that count. -/
theorem read_takes (msg : Bytes) :
    rateWrite (msg.take 1024) = rateWrite msg ∧ codeOf (msg.take 1024) = codeOf msg := by
  have kept (index : Nat) (inside : index < 1024) : (msg.take 1024)[index]? = msg[index]? :=
    List.getElem?_take_of_lt inside
  have write : IsRateWrite (msg.take 1024) ↔ IsRateWrite msg := by
    simp only [IsRateWrite, kept 6 (by decide), kept 7 (by decide), kept 8 (by decide),
      kept 9 (by decide)]
  rw [rateWrite, rateWrite, codeOf, codeOf, kept 6 (by decide), kept 10 (by decide)]
  exact ⟨if_congr write rfl rfl, if_congr write rfl rfl⟩

theorem rateWrite_of_ne {msg : Bytes} {command : Byte} (first : msg[6]? = some command)
    (notSet : command ≠ 0xf1) : rateWrite msg = [] := by
  refine if_neg (fun write => notSet ?_)
  exact Option.some.inj (first.symm.trans write.1)

/-- A write of the output rate. -/
theorem rateWrite_effect (rate next : OutputRateState) (msg : Bytes) (errorCode : Byte)
    (write : IsRateWrite msg)
    (outcome : (show Option (OutputRateState × Byte) from
      if msg.length ≤ 10 then some (rate, 0x15)
      else do
        let value ← msg[10]?
        let (rate, accepted) := rate.setEnum value
        return (rate, if accepted then 0x00 else 0x16)) = some (next, errorCode)) :
    next = setAll rate (rateWrite msg) ∧ errorCode = codeOf msg := by
  dsimp only at outcome
  rw [rateWrite, codeOf, if_pos write, if_pos write]
  split_ifs at outcome with short
  · rw [List.getElem?_eq_none short]
    cases outcome
    exact ⟨rfl, rfl⟩
  · obtain ⟨value, found, outcome⟩ := Option.bind_eq_some_iff.mp outcome
    rw [found]
    by_cases known : value ∈ enumValues
    · simp only [(rate.setEnum_accepted value known).1] at outcome
      cases outcome
      exact ⟨rfl, (if_pos (List.contains_iff_mem.mpr known)).symm⟩
    · have rejected := rate.setEnum_rejected value known
      simp only [rejected] at outcome
      cases outcome
      exact ⟨(congrArg Prod.fst rejected).symm, (if_neg (mt List.contains_iff_mem.mp known)).symm⟩

/-- The state after a message, and the code in the reply to it. -/
theorem process_effect (rate next : OutputRateState) (msg payload : Bytes)
    (answered : process rate msg = some (next, payload)) :
    next = setAll rate (rateWrite msg) ∧ payload[1]? = some (codeOf msg) := by
  unfold process at answered
  obtain ⟨command, first, answered⟩ := Option.bind_eq_some_iff.mp answered
  by_cases get : command = 0xf0
  · rw [if_pos get] at answered
    obtain ⟨low, _, answered⟩ := Option.bind_eq_some_iff.mp answered
    obtain ⟨high, _, answered⟩ := Option.bind_eq_some_iff.mp answered
    obtain ⟨subindex, _, answered⟩ := Option.bind_eq_some_iff.mp answered
    have other : ¬IsRateWrite msg := by
      rintro ⟨set, _⟩
      rw [first, get] at set
      exact absurd set (by decide)
    have code : codeOf msg = 0x00 := by
      rw [codeOf, if_neg other, if_pos (.inl (get ▸ first))]
    rw [code, rateWrite_of_ne first (by rw [get]; decide)]
    cases answered
    exact ⟨rfl, rfl⟩
  · rw [if_neg get] at answered
    by_cases set : command = 0xf1
    · rw [if_pos set] at answered
      obtain ⟨low, lowFound, answered⟩ := Option.bind_eq_some_iff.mp answered
      obtain ⟨high, highFound, answered⟩ := Option.bind_eq_some_iff.mp answered
      obtain ⟨subindex, subindexFound, answered⟩ := Option.bind_eq_some_iff.mp answered
      obtain ⟨⟨after, errorCode⟩, outcome, answered⟩ := Option.bind_eq_some_iff.mp answered
      have write : (wordFromLE low high = 0x1020 ∧ subindex = 0x00) ↔ IsRateWrite msg := by
        rw [IsRateWrite, first, lowFound, highFound, subindexFound, wordFromLE_eq]
        simp only [set, Option.some.injEq, true_and, List.cons.injEq, and_true]
        tauto
      have effect : after = setAll rate (rateWrite msg) ∧ errorCode = codeOf msg := by
        by_cases outputRate : IsRateWrite msg
        · rw [if_pos (write.mpr outputRate)] at outcome
          exact rateWrite_effect rate after msg errorCode outputRate outcome
        · rw [if_neg (fun both => outputRate (write.mp both))] at outcome
          rw [codeOf, rateWrite, if_neg outputRate, if_neg outputRate, if_pos (.inr (set ▸ first))]
          cases outcome
          exact ⟨rfl, rfl⟩
      cases answered
      exact ⟨effect.1, congrArg some effect.2⟩
    · rw [if_neg set] at answered
      have other : ¬IsRateWrite msg := by
        rintro ⟨write, _⟩
        exact set (Option.some.inj (first.symm.trans write))
      have neither : ¬(msg[6]? = some 0xf0 ∨ msg[6]? = some 0xf1) := by
        simp only [first, Option.some.injEq]
        exact fun either => either.elim get set
      rw [codeOf, rateWrite, if_neg other, if_neg other, if_neg neither, first, Option.elim_some,
        commandCode]
      split_ifs at answered ⊢
      · cases answered
        exact ⟨rfl, rfl⟩
      · cases answered
        exact ⟨rfl, rfl⟩

variable {Conn : Type} [DecidableEq Conn]

theorem handle_effect (server next : Server Conn) (conn : Conn) (msg reply : Bytes)
    (handled : server.handle conn msg = some (next, reply)) :
    next.rate = setAll server.rate (rateWrite msg) ∧ reply[7]? = some (codeOf msg) := by
  simp only [Server.handle] at handled
  split_ifs at handled
  obtain ⟨⟨rate, payload⟩, processed, handled⟩ := Option.bind_eq_some_iff.mp handled
  have effect := process_effect _ _ _ _ processed
  rw [(read_takes msg).1, (read_takes msg).2] at effect
  cases handled
  exact effect

/-- A value that is not of the table changes nothing. -/
theorem setAll_rejected (rate : OutputRateState) (values : List Byte)
    (unknown : ∀ value ∈ values, value ∉ enumValues) : setAll rate values = rate := by
  induction values with
  | nil => rfl
  | cons value later ih =>
    rw [setAll, List.foldl_cons, rate.setEnum_rejected value (unknown value List.mem_cons_self)]
    exact ih (fun other member => unknown other (List.mem_cons_of_mem _ member))

/-- What is refused is not stored. -/
theorem refused_unstored (msg : Bytes) (refused : codeOf msg ≠ 0x00) :
    ∀ value ∈ rateWrite msg, value ∉ enumValues := by
  intro value written known
  unfold rateWrite at written
  split_ifs at written with write
  · rw [codeOf, if_pos write, Option.mem_toList.mp written] at refused
    exact refused (if_pos (List.contains_iff_mem.mpr known))
  · cases written

/-- What is accepted as a rate is stored. -/
theorem accepted_stored (rate : OutputRateState) (msg : Bytes) (write : IsRateWrite msg)
    (accepted : codeOf msg = 0x00) :
    ∃ value ∈ enumValues, rateWrite msg = [value] ∧
      (setAll rate (rateWrite msg)).get.enumValue = value := by
  rw [codeOf, if_pos write] at accepted
  cases found : msg[10]? with
  | none =>
    rw [found] at accepted
    exact absurd accepted (by decide)
  | some value =>
    rw [found] at accepted
    have known : value ∈ enumValues := by
      by_contra unknown
      rw [Option.elim_some, if_neg (mt List.contains_iff_mem.mp unknown)] at accepted
      exact absurd accepted (by decide)
    have written : rateWrite msg = [value] := by
      rw [rateWrite, if_pos write, found]
      rfl
    refine ⟨value, known, written, ?_⟩
    rw [written]
    exact (rate.setEnum_accepted value known).2

/-! ### The write of the driver's rate -/

def configureMsg (rate : OutputRate) : Bytes :=
  [0xff, 0xff, 0, 0, 5, 0, 0xf1, 0x20, 0x10, 0x00, rateByte rate]

theorem configure_frame (rate : OutputRate) :
    setParameterFrame rate.mode.parameterValue "1020" "00" = .ok (configureMsg rate) := by
  cases rate <;> decide

theorem configure_code (rate : OutputRate) : codeOf (configureMsg rate) = 0x00 := by
  cases rate <;> decide

end SchunkFts.Dummy.DriverRequests
