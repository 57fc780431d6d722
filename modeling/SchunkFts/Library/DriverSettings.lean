import Mathlib.Data.BitVec
import Mathlib.Tactic.FinCases

/-! The output rates a driver can be set up for, and the status flags that come with a sample. -/

namespace SchunkFts.Library.DriverSettings

/-- The supported output rates. -/
inductive OutputRate where
  | hz1000
  | hz500
  | hz250
  | hz100
  | hz500x16
  deriving DecidableEq, Repr

structure OutputRateMode where
  outputRate : String
  parameterValue : String
  packetRateHz : Nat
  sampleRateHz : Nat
  samplesPerPacket : Nat
  deriving DecidableEq, Repr

/-- `OUTPUT_RATE_TO_MODE` -/
def OutputRate.mode : OutputRate → OutputRateMode
  | hz1000 => ⟨"1000", "00", 1000, 1000, 1⟩
  | hz500 => ⟨"500", "01", 500, 500, 1⟩
  | hz250 => ⟨"250", "02", 250, 250, 1⟩
  | hz100 => ⟨"100", "03", 100, 100, 1⟩
  | hz500x16 => ⟨"500_16", "0a", 500, 8000, 16⟩

def OutputRate.all : List OutputRate := [hz1000, hz500, hz250, hz100, hz500x16]

/-- `none` is the exception for an unsupported rate. -/
def normalizeOutputRate (outputRate : String) : Option OutputRate :=
  OutputRate.all.find? (fun rate => rate.mode.outputRate = outputRate)

/-- The division is exact for every mode, so nothing is rounded. -/
def OutputRateMode.samplePeriodNs (mode : OutputRateMode) : Nat := 1000000000 / mode.sampleRateHz

theorem samplePeriodNs_exact (rate : OutputRate) :
    rate.mode.samplePeriodNs * rate.mode.sampleRateHz = 1000000000 := by
  cases rate <;> decide

theorem samplePeriodNs_pos (rate : OutputRate) : 0 < rate.mode.samplePeriodNs := by
  have exact := samplePeriodNs_exact rate
  apply Nat.pos_of_ne_zero
  intro zero
  rw [zero, Nat.zero_mul] at exact
  cases exact

theorem normalizeOutputRate_mode (rate : OutputRate) :
    normalizeOutputRate rate.mode.outputRate = some rate := by
  cases rate <;> decide

structure SensorStatus where
  ready : Bool
  processDataInvalid : Bool
  temperatureOutOfRange : Bool
  hardwareError : Bool
  mechOverrange : Bool
  userOverrange : Bool
  deriving DecidableEq, Repr

/-- `bool(bits & (1 << index))` -/
def flag (bits : BitVec 32) (index : Nat) : Bool := bits &&& (1 <<< index) ≠ 0

def SensorStatus.fromBits (bits : BitVec 32) : SensorStatus where
  ready := flag bits 0
  processDataInvalid := flag bits 1
  temperatureOutOfRange := flag bits 2
  hardwareError := flag bits 3
  mechOverrange := flag bits 4
  userOverrange := flag bits 5

def SensorStatus.summary (status : SensorStatus) : List String :=
  (if status.ready then [] else ["Not ready for operation"]) ++
    (if status.processDataInvalid then ["Process data invalid"] else []) ++
    (if status.temperatureOutOfRange then ["Temperature out of range"] else []) ++
    (if status.hardwareError then ["Hardware error"] else []) ++
    (if status.mechOverrange then ["Mechanical overrange"] else []) ++
    (if status.userOverrange then ["User-defined overrange"] else [])

/-- Only a sensor that is ready and flags nothing has nothing to tell. -/
theorem summary_eq_nil (status : SensorStatus) :
    status.summary = [] ↔ status = ⟨true, false, false, false, false, false⟩ := by
  obtain ⟨ready, invalid, temperature, hardware, mech, user⟩ := status
  simp only [SensorStatus.summary, List.append_eq_nil_iff, SensorStatus.mk.injEq, and_assoc]
  simp

end SchunkFts.Library.DriverSettings
