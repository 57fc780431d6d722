import SchunkFts.Foundation.Struct

/-! The output rates of the dummy sensor and the setting its connections and its stream share. -/

namespace SchunkFts.Dummy.OutputRate
open SchunkFts.Foundation.Struct

structure OutputRateMode where
  enumValue : Byte
  requestedHz : Nat
  udpPacketRateHz : Nat
  samplesPerPacket : Nat
  deriving DecidableEq, Repr

def OutputRateMode.fromEnum (value : Byte) : Option OutputRateMode :=
  if value = 0 then some ⟨0, 1000, 1000, 1⟩
  else if value = 1 then some ⟨1, 500, 500, 1⟩
  else if value = 2 then some ⟨2, 250, 250, 1⟩
  else if value = 3 then some ⟨3, 100, 100, 1⟩
  else if value = 10 then some ⟨10, 8000, 500, 16⟩
  else none

/-- The values `from_enum` knows. -/
def enumValues : List Byte := [0, 1, 2, 3, 10]

theorem fromEnum_isSome (value : Byte) :
    (OutputRateMode.fromEnum value).isSome ↔ value ∈ enumValues := by
  unfold OutputRateMode.fromEnum enumValues
  split_ifs <;> simp_all

theorem fromEnum_enumValue (value : Byte) (mode : OutputRateMode)
    (found : OutputRateMode.fromEnum value = some mode) : mode.enumValue = value := by
  unfold OutputRateMode.fromEnum at found
  split_ifs at found with h0 h1 h2 h3 h10 <;> cases found
  · exact h0.symm
  · exact h1.symm
  · exact h2.symm
  · exact h3.symm
  · exact h10.symm

theorem fromEnum_samplesPerPacket (value : Byte) (mode : OutputRateMode)
    (found : OutputRateMode.fromEnum value = some mode) :
    mode.samplesPerPacket = 1 ∨ mode.samplesPerPacket = 16 := by
  unfold OutputRateMode.fromEnum at found
  split_ifs at found <;> cases found <;> simp

/-- Only a mode of the table can be in force. -/
structure OutputRateState where
  mode : OutputRateMode
  listed : OutputRateMode.fromEnum mode.enumValue = some mode

def OutputRateState.new : OutputRateState where
  mode := ⟨0, 1000, 1000, 1⟩
  listed := rfl

def OutputRateState.get (state : OutputRateState) : OutputRateMode := state.mode

/-- The flag tells whether the value was accepted. -/
def OutputRateState.setEnum (state : OutputRateState) (value : Byte) : OutputRateState × Bool :=
  match found : OutputRateMode.fromEnum value with
  | none => (state, false)
  | some mode => ({ mode := mode, listed := by rw [fromEnum_enumValue value mode found, found] }, true)

theorem OutputRateState.samplesPerPacket (state : OutputRateState) :
    state.get.samplesPerPacket = 1 ∨ state.get.samplesPerPacket = 16 :=
  fromEnum_samplesPerPacket _ _ state.listed

theorem OutputRateState.setEnum_accepted (state : OutputRateState) (value : Byte)
    (known : value ∈ enumValues) :
    (state.setEnum value).2 = true ∧ (state.setEnum value).1.get.enumValue = value := by
  unfold setEnum
  split
  next absent =>
    have present := (fromEnum_isSome value).mpr known
    rw [absent] at present
    cases present
  next mode found => exact ⟨rfl, fromEnum_enumValue value mode found⟩

theorem OutputRateState.setEnum_rejected (state : OutputRateState) (value : Byte)
    (unknown : value ∉ enumValues) : state.setEnum value = (state, false) := by
  unfold setEnum
  split
  next => rfl
  next mode found =>
    exact absurd ((fromEnum_isSome value).mp (by rw [found]; rfl)) unknown

end SchunkFts.Dummy.OutputRate
