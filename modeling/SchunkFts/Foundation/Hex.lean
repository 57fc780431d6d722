import SchunkFts.Foundation.Struct

/-! Hexadecimal text in the manner of Python's `bytes.fromhex` and `bytes.hex`. The reader takes
digits of either case and skips white space between bytes, but never inside one; the writer
always gives two lower-case digits a byte. -/

namespace SchunkFts.Foundation.Hex
open SchunkFts.Foundation.Struct

def isSpace (c : Char) : Bool :=
  c.toNat = 32 || (9 ≤ c.toNat && c.toNat ≤ 13)

def digitValue (c : Char) : Option Nat :=
  if 48 ≤ c.toNat ∧ c.toNat ≤ 57 then some (c.toNat - 48)
  else if 97 ≤ c.toNat ∧ c.toNat ≤ 102 then some (c.toNat - 87)
  else if 65 ≤ c.toNat ∧ c.toNat ≤ 70 then some (c.toNat - 55)
  else none

def fromHexChars : List Char → Option Bytes
  | [] => some []
  | [c] => if isSpace c then some [] else none
  | c :: d :: rest =>
      if isSpace c then fromHexChars (d :: rest)
      else match digitValue c, digitValue d with
        | some high, some low =>
            (fromHexChars rest).map (BitVec.ofNat 8 (16 * high + low) :: ·)
        | _, _ => none

/-- `bytes.fromhex(text)`; `none` is its `ValueError`. -/
def fromHex (text : String) : Option Bytes := fromHexChars text.toList

def byteChars (byte : Byte) : List Char :=
  [Nat.digitChar (byte.toNat / 16), Nat.digitChar (byte.toNat % 16)]

/-- `data.hex()`. -/
def toHex (data : Bytes) : String := String.ofList (data.flatMap byteChars)

def lowerDigits : List Char :=
  ['0', '1', '2', '3', '4', '5', '6', '7', '8', '9', 'a', 'b', 'c', 'd', 'e', 'f']

/-- Exactly `digits` lower-case hexadecimal digits and nothing else. -/
def IsLowerHex (digits : Nat) (text : String) : Prop :=
  text.toList.length = digits ∧ ∀ c ∈ text.toList, c ∈ lowerDigits

instance (digits : Nat) (text : String) : Decidable (IsLowerHex digits text) :=
  have : Decidable (∀ c ∈ text.toList, c ∈ lowerDigits) := List.decidableBAll _ _
  instDecidableAnd

theorem toHex_toList (data : Bytes) : (toHex data).toList = data.flatMap byteChars := by
  simp [toHex]

theorem lowerDigits_eq : lowerDigits = (List.range 16).map Nat.digitChar := by decide

theorem digitChar_value (value : Nat) (small : value < 16) :
    digitValue (Nat.digitChar value) = some value ∧ isSpace (Nat.digitChar value) = false := by
  have table : ∀ value ∈ List.range 16, digitValue (Nat.digitChar value) = some value ∧
      isSpace (Nat.digitChar value) = false := by decide
  exact table value (List.mem_range.mpr small)

/-- A digit is read as its value, is no white space, and is written back as itself. -/
theorem lowerDigit_value (c : Char) (digit : c ∈ lowerDigits) :
    ∃ value < 16, digitValue c = some value ∧ isSpace c = false ∧ Nat.digitChar value = c := by
  rw [lowerDigits_eq] at digit
  obtain ⟨value, member, rfl⟩ := List.mem_map.mp digit
  have small := List.mem_range.mp member
  obtain ⟨read, solid⟩ := digitChar_value value small
  exact ⟨value, small, read, solid, rfl⟩

theorem fromHexChars_byteChars (byte : Byte) (rest : List Char) :
    fromHexChars (byteChars byte ++ rest) = (fromHexChars rest).map (byte :: ·) := by
  have bound := byte.isLt
  obtain ⟨highValue, solid⟩ := digitChar_value (byte.toNat / 16) (by omega)
  have lowValue := (digitChar_value (byte.toNat % 16) (by omega)).1
  have whole : BitVec.ofNat 8 (16 * (byte.toNat / 16) + byte.toNat % 16) = byte := by
    rw [Nat.div_add_mod, BitVec.ofNat_toNat, BitVec.setWidth_eq]
  simp only [byteChars, List.cons_append, List.nil_append, fromHexChars, solid, highValue,
    lowValue, whole, Bool.false_eq_true, if_false]

theorem fromHex_toHex (data : Bytes) : fromHex (toHex data) = some data := by
  rw [fromHex, toHex_toList]
  induction data with
  | nil => rfl
  | cons byte rest ih => rw [List.flatMap_cons, fromHexChars_byteChars, ih]; rfl

theorem toHex_injective : Function.Injective toHex := by
  intro first second same
  have read := congrArg fromHex same
  rw [fromHex_toHex, fromHex_toHex] at read
  exact Option.some.inj read

theorem toHex_inj (first second : Bytes) : toHex first = toHex second ↔ first = second :=
  toHex_injective.eq_iff

/-- Two lower-case digits are the spelling of one byte. -/
theorem lowerPair_byte (c d : Char) (high : c ∈ lowerDigits) (low : d ∈ lowerDigits) :
    ∃ byte : Byte, byteChars byte = [c, d] := by
  obtain ⟨h, hSmall, _, _, hChar⟩ := lowerDigit_value c high
  obtain ⟨l, lSmall, _, _, lChar⟩ := lowerDigit_value d low
  refine ⟨BitVec.ofNat 8 (16 * h + l), ?_⟩
  have value : (BitVec.ofNat 8 (16 * h + l)).toNat = 16 * h + l := by
    rw [BitVec.toNat_ofNat, Nat.mod_eq_of_lt (by omega)]
  have quotient : (16 * h + l) / 16 = h := by omega
  have remainder : (16 * h + l) % 16 = l := by omega
  rw [byteChars, value, quotient, remainder, hChar, lChar]

/-- An even number of lower-case digits is the spelling of exactly one byte string. -/
theorem lowerHex_bytes (count : Nat) (text : String) (lower : IsLowerHex (2 * count) text) :
    ∃ data : Bytes, data.length = count ∧ text = toHex data := by
  obtain ⟨length, digits⟩ := lower
  suffices spelled : ∃ data : Bytes, data.length = count ∧ text.toList = data.flatMap byteChars by
    obtain ⟨data, size, same⟩ := spelled
    exact ⟨data, size, String.toList_injective (by rw [same, toHex_toList])⟩
  generalize text.toList = chars at length digits
  induction count generalizing chars with
  | zero => exact ⟨[], rfl, List.length_eq_zero_iff.mp length⟩
  | succ count ih =>
    match chars, length, digits with
    | c :: d :: rest, length, digits =>
      obtain ⟨byte, pair⟩ := lowerPair_byte c d (digits c (by simp)) (digits d (by simp))
      simp only [List.length_cons] at length
      obtain ⟨data, size, tail⟩ := ih rest (by omega)
        (fun e member => digits e (List.mem_cons_of_mem _ (List.mem_cons_of_mem _ member)))
      refine ⟨byte :: data, by rw [List.length_cons, size], ?_⟩
      rw [List.flatMap_cons, pair, tail]
      rfl

example : fromHex "10 20" = some [0x10, 0x20] := by decide
example : fromHex "0x10" = none := by decide
example : toHex [0xff, 0x0a] = "ff0a" := by decide

end SchunkFts.Foundation.Hex
