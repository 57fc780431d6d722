import SchunkFts.Dummy.Sensor
import SchunkFts.Library.Requests

/-! The lengths of the messages that the dummy sensor can answer. The length check, in the loop of the
connection, asks for the six bytes of the header; the bytes behind it are read without one. -/

namespace SchunkFts.Dummy.RequestLength
open SchunkFts.Foundation.Struct SchunkFts.Library.Requests OutputRate Sensor

/-- Long enough for what is read: the command, and the index and subindex of a parameter. -/
def Complete (msg : Bytes) : Prop :=
  7 ≤ msg.length ∧ (msg[6]? = some 0xf0 ∨ msg[6]? = some 0xf1 → 10 ≤ msg.length)

instance (msg : Bytes) : Decidable (Complete msg) := inferInstanceAs (Decidable (_ ∧ _))

/-- The three reads behind the command of a parameter request. -/
theorem parameterReads_isSome_iff {Answer : Type} (msg : Bytes)
    (answer : Byte → Byte → Byte → Option Answer)
    (answers : ∀ low high subindex, (answer low high subindex).isSome = true) :
    (msg[7]?.bind fun low => msg[8]?.bind fun high => msg[9]?.bind fun subindex =>
      answer low high subindex).isSome = true ↔ 10 ≤ msg.length := by
  constructor
  · intro answered
    by_contra short
    have beyond : msg[9]? = none := List.getElem?_eq_none (by omega)
    rw [beyond] at answered
    cases first : msg[7]? with
    | none => simp [first] at answered
    | some low => cases second : msg[8]? <;> simp [first, second] at answered
  · intro long
    have low : msg[7]? = some msg[7] := List.getElem?_eq_getElem (by omega)
    have high : msg[8]? = some msg[8] := List.getElem?_eq_getElem (by omega)
    have subindex : msg[9]? = some msg[9] := List.getElem?_eq_getElem (by omega)
    rw [low, high, subindex]
    exact answers _ _ _

/-- A message is answered exactly if it is complete; every other one is a panic. -/
theorem process_isSome_iff (rate : OutputRateState) (msg : Bytes) :
    (process rate msg).isSome = true ↔ Complete msg := by
  unfold process Complete
  cases command : msg[6]? with
  | none =>
    have short : msg.length ≤ 6 := List.getElem?_eq_none_iff.mp command
    simp
    omega
  | some commandId =>
    obtain ⟨long, _⟩ := List.getElem?_eq_some_iff.mp command
    have seven : 7 ≤ msg.length := long
    simp only [Option.bind_eq_bind, Option.bind_some, seven, true_and, Option.some.injEq]
    by_cases get : commandId = 0xf0
    · rw [if_pos get, parameterReads_isSome_iff]
      · simp [get]
      · exact fun _ _ _ => rfl
    · rw [if_neg get]
      by_cases set : commandId = 0xf1
      · rw [if_pos set, parameterReads_isSome_iff]
        · simp [set]
        · intro low high subindex
          -- the byte of a rate is read only from a message that has it
          split_ifs with outputRate short
          · rfl
          · have value : msg[10]? = some msg[10] := List.getElem?_eq_getElem (by omega)
            rw [value]
            rfl
          · rfl
      · rw [if_neg set]
        simp only [get, set, or_self, false_imp_iff, iff_true]
        split_ifs <;> rfl

/-- One read takes in at most 1024 bytes, and they decide. -/
theorem complete_take (msg : Bytes) : Complete (msg.take 1024) ↔ Complete msg := by
  have command : (msg.take 1024)[6]? = msg[6]? := List.getElem?_take_of_lt (by decide)
  unfold Complete
  rw [List.length_take, command]
  have seven : 7 ≤ min 1024 msg.length ↔ 7 ≤ msg.length := by omega
  have ten : 10 ≤ min 1024 msg.length ↔ 10 ≤ msg.length := by omega
  rw [seven, ten]

variable {Conn : Type} [DecidableEq Conn]

/-- The task of the connection goes on after a complete message, and after no other. -/
theorem handle_isSome_iff (server : Server Conn) (conn : Conn) (msg : Bytes) :
    (server.handle conn msg).isSome = true ↔ Complete msg := by
  rw [← complete_take, ← process_isSome_iff server.rate]
  unfold Server.handle
  dsimp only
  split_ifs with short
  · have unanswered : ¬Complete (msg.take 1024) := fun complete => by
      have long := complete.1
      omega
    rw [← process_isSome_iff server.rate] at unanswered
    simp [unanswered]
  · cases process server.rate (msg.take 1024) <;> rfl

/-- The messages of one connection; `none` once its task has ended. -/
def converse (server : Server Conn) (conn : Conn) : List Bytes → Option (Server Conn)
  | [] => some server
  | msg :: later => do
      let (server, _) ← server.handle conn msg
      converse server conn later

/-- A task lives through a conversation exactly if every message of it is complete. -/
theorem converse_isSome_iff (server : Server Conn) (conn : Conn) (msgs : List Bytes) :
    (converse server conn msgs).isSome = true ↔ ∀ msg ∈ msgs, Complete msg := by
  induction msgs generalizing server with
  | nil => simp [converse]
  | cons msg later ih =>
    rw [List.forall_mem_cons, ← handle_isSome_iff server conn msg]
    unfold converse
    cases server.handle conn msg with
    | none => simp
    | some answered => simpa using ih answered.1

/-- A message that passes the length check is answered, and leaves the task of its connection alive,
exactly if it also has the bytes that are read behind the header. -/
theorem passed_answered_iff (server : Server Conn) (conn : Conn) (msg : Bytes) :
    ((6 ≤ msg.length → (process server.rate msg).isSome = true) ↔
        msg.length < 6 ∨ Complete msg) ∧
      ((6 ≤ msg.length → (server.handle conn msg).isSome = true) ↔
        msg.length < 6 ∨ Complete msg) := by
  rw [process_isSome_iff, handle_isSome_iff]
  have unpassed : (6 ≤ msg.length → Complete msg) ↔ msg.length < 6 ∨ Complete msg := by
    rw [imp_iff_not_or, not_le]
  exact ⟨unpassed, unpassed⟩

/-- A command without digits makes a bare header, which passes the check and is a panic. -/
theorem bare_header_panics :
    commandFrame "" = .ok [0xff, 0xff, 0x00, 0x00, 0x00, 0x00] ∧
      ¬∀ rate msg, 1 ≤ msg.length → msg.length ≤ 1024 → 6 ≤ msg.length →
        (process rate msg).isSome = true := by
  refine ⟨by decide, fun all => ?_⟩
  have answered := all .new [0xff, 0xff, 0x00, 0x00, 0x00, 0x00]
  exact absurd (answered (by decide) (by decide) (by decide)) (by decide)

end SchunkFts.Dummy.RequestLength
