import Mathlib.Data.List.Basic
import Mathlib.Tactic.Linarith
import Mathlib.Tactic.Ring

/-! Byte strings and little-endian records in the manner of Python's `struct` module. A format is
a list of field codes; its values are a product of bit vectors whose widths the codes fix, so a
decoded field cannot leave its range. -/

namespace SchunkFts.Foundation.Struct

abbrev Byte := BitVec 8
abbrev Bytes := List Byte

/-- The Python exceptions the modelled code can raise or catch. -/
inductive PyError where
  | structError
  | indexError
  | valueError
  deriving DecidableEq, Repr

abbrev Result := Except PyError

/-- `data[start:stop]`, clipped at the end as Python clips it. -/
def slice (data : Bytes) (start stop : Nat) : Bytes :=
  (data.take stop).drop start

/-- `data[index]` for a nonnegative index. -/
def item (data : Bytes) (index : Nat) : Result Byte :=
  match data[index]? with
  | some byte => .ok byte
  | none => .error .indexError

theorem slice_length (data : Bytes) (start stop : Nat) :
    (slice data start stop).length = min stop data.length - start := by
  simp [slice]

theorem item_of_lt (data : Bytes) (index : Nat) (inside : index < data.length) :
    item data index = .ok data[index] := by
  simp [item, inside]

/-! ### Little-endian numbers -/

def ofLE : Bytes → Nat
  | [] => 0
  | byte :: rest => byte.toNat + 256 * ofLE rest

def toLE : Nat → Nat → Bytes
  | 0, _ => []
  | width + 1, value => BitVec.ofNat 8 value :: toLE width (value / 256)

@[simp] theorem toLE_length (width value : Nat) : (toLE width value).length = width := by
  induction width generalizing value with
  | zero => rfl
  | succ width ih => simp only [toLE, List.length_cons, ih]

theorem ofLE_lt (data : Bytes) : ofLE data < 256 ^ data.length := by
  induction data with
  | nil => simp [ofLE]
  | cons byte rest ih =>
    have small := byte.isLt
    simp only [ofLE, List.length_cons, pow_succ]
    omega

theorem ofLE_toLE (width value : Nat) (small : value < 256 ^ width) :
    ofLE (toLE width value) = value := by
  induction width generalizing value with
  | zero => simp only [pow_zero] at small; simp only [toLE, ofLE]; omega
  | succ width ih =>
    have next : value / 256 < 256 ^ width := by
      rw [Nat.div_lt_iff_lt_mul (by decide)]
      simpa only [pow_succ] using small
    simp only [toLE, ofLE, BitVec.toNat_ofNat, ih _ next]
    omega

theorem toLE_ofLE (data : Bytes) : toLE data.length (ofLE data) = data := by
  induction data with
  | nil => rfl
  | cons byte rest ih =>
    have small := byte.isLt
    have quotient : (byte.toNat + 256 * ofLE rest) / 256 = ofLE rest := by omega
    have remainder : BitVec.ofNat 8 (byte.toNat + 256 * ofLE rest) = byte := by
      apply BitVec.eq_of_toNat_eq
      rw [BitVec.toNat_ofNat]
      omega
    simp only [List.length_cons, toLE, ofLE, quotient, remainder, ih]

/-! ### 32-bit floats -/

/-- A NaN whose leading fraction bit is clear. -/
def Signalling (word : BitVec 32) : Prop :=
  word.extractLsb' 23 8 = 0xff ∧ word.extractLsb' 0 23 ≠ 0 ∧ word.getLsbD 22 = false

instance (word : BitVec 32) : Decidable (Signalling word) := inferInstanceAs (Decidable (_ ∧ _))

/-- What the conversion to a double and back leaves of a 32-bit float: a signalling NaN becomes
quiet, and every other word stays as it is. -/
def quiet (word : BitVec 32) : BitVec 32 := if Signalling word then word ||| 0x400000 else word

theorem quiet_eq_iff (word : BitVec 32) : quiet word = word ↔ ¬Signalling word := by
  unfold quiet
  split_ifs with signalling
  · refine iff_of_false (fun same => ?_) (not_not_intro signalling)
    have bit := congrArg (BitVec.getLsbD · 22) same
    simp only [BitVec.getLsbD_or, signalling.2.2] at bit
    exact absurd bit (by decide)
  · exact iff_of_true rfl signalling

/-! ### Formats -/

/-- Field codes of a `"<"` format: no padding, standard sizes. A float is its bit pattern. -/
inductive Code where
  | B
  | H
  | I
  | f
  deriving DecidableEq, Repr

@[reducible] def Code.size : Code → Nat
  | .B => 1
  | .H => 2
  | .I => 4
  | .f => 4

@[reducible] def Code.bits : Code → Nat
  | .B => 8
  | .H => 16
  | .I => 32
  | .f => 32

theorem Code.two_pow_bits (code : Code) : 2 ^ code.bits = 256 ^ code.size := by
  cases code <;> rfl

abbrev Format := List Code

@[reducible] def Values : Format → Type
  | [] => Unit
  | code :: rest => BitVec code.bits × Values rest

def calcsize (format : Format) : Nat := (format.map Code.size).sum

def pack : (format : Format) → Values format → Bytes
  | [], _ => []
  | code :: rest, (value, values) => toLE code.size value.toNat ++ pack rest values

/-- The words of the fields at the front of `data`, whose length the callers check. -/
def fields : (format : Format) → Bytes → Values format
  | [], _ => ()
  | code :: rest, data =>
      (BitVec.ofNat code.bits (ofLE (data.take code.size)), fields rest (data.drop code.size))

/-- The Python value of a word; a float is a double. -/
@[reducible] def Code.read : (code : Code) → BitVec code.bits → BitVec code.bits
  | .B, word => word
  | .H, word => word
  | .I, word => word
  | .f, word => quiet word

def readValues : (format : Format) → Values format → Values format
  | [], _ => ()
  | code :: rest, (word, words) => (code.read word, readValues rest words)

def parse (format : Format) (data : Bytes) : Values format := readValues format (fields format data)

/-- `struct.unpack` wants exactly the bytes of the format. -/
def unpack (format : Format) (data : Bytes) : Result (Values format) :=
  if data.length = calcsize format then .ok (parse format data) else .error .structError

/-- `struct.unpack_from` wants at least the bytes of the format after the offset. -/
def unpackFrom (format : Format) (data : Bytes) (offset : Nat) : Result (Values format) :=
  if offset + calcsize format ≤ data.length then .ok (parse format (data.drop offset))
  else .error .structError

@[simp] theorem calcsize_nil : calcsize [] = 0 := rfl

@[simp] theorem calcsize_cons (code : Code) (rest : Format) :
    calcsize (code :: rest) = code.size + calcsize rest := by
  simp [calcsize]

theorem parse_cons (code : Code) (rest : Format) (data : Bytes) :
    parse (code :: rest) data =
      (code.read (BitVec.ofNat code.bits (ofLE (data.take code.size))),
        parse rest (data.drop code.size)) :=
  rfl

@[simp] theorem pack_length (format : Format) (values : Values format) :
    (pack format values).length = calcsize format := by
  induction format with
  | nil => rfl
  | cons code rest ih =>
    simp only [pack, List.length_append, toLE_length, ih, calcsize_cons]

/-- Packed fields are found again, whatever follows them. -/
theorem fields_pack (format : Format) (values : Values format) (after : Bytes) :
    fields format (pack format values ++ after) = values := by
  induction format with
  | nil => rfl
  | cons code rest ih =>
    obtain ⟨value, values⟩ := values
    have small : value.toNat < 256 ^ code.size := by
      rw [← code.two_pow_bits]
      exact value.isLt
    simp only [fields, pack, List.append_assoc]
    rw [List.take_left' (toLE_length _ _), List.drop_left' (toLE_length _ _), ih,
      ofLE_toLE _ _ small, BitVec.ofNat_toNat, BitVec.setWidth_eq]

theorem parse_pack (format : Format) (values : Values format) (after : Bytes) :
    parse format (pack format values ++ after) = readValues format values :=
  congrArg (readValues format) (fields_pack format values after)

theorem pack_fields (format : Format) (data : Bytes) (exact : data.length = calcsize format) :
    pack format (fields format data) = data := by
  induction format generalizing data with
  | nil => exact (List.length_eq_zero_iff.mp exact).symm
  | cons code rest ih =>
    rw [calcsize_cons] at exact
    have width : (data.take code.size).length = code.size := by
      rw [List.length_take]
      omega
    have small : ofLE (data.take code.size) < 2 ^ code.bits := by
      have bound := ofLE_lt (data.take code.size)
      rwa [width, ← code.two_pow_bits] at bound
    have head : toLE code.size (ofLE (data.take code.size)) = data.take code.size := by
      have back := toLE_ofLE (data.take code.size)
      rwa [width] at back
    simp only [fields, pack, BitVec.toNat_ofNat, Nat.mod_eq_of_lt small, head]
    rw [ih (data.drop code.size) (by rw [List.length_drop]; omega), List.take_append_drop]

/-- Only the bytes of the format are read. -/
theorem fields_take (format : Format) (data : Bytes) (width : Nat)
    (covered : calcsize format ≤ width) :
    fields format (data.take width) = fields format data := by
  induction format generalizing data width with
  | nil => rfl
  | cons code rest ih =>
    rw [calcsize_cons] at covered
    simp only [fields]
    rw [List.take_take, Nat.min_eq_left (by omega), List.drop_take, ih _ _ (by omega)]

theorem unpack_of_length (format : Format) (data : Bytes)
    (exact : data.length = calcsize format) : unpack format data = .ok (parse format data) :=
  if_pos exact

theorem unpack_of_length_ne (format : Format) (data : Bytes)
    (different : data.length ≠ calcsize format) : unpack format data = .error .structError :=
  if_neg different

theorem unpack_pack (format : Format) (values : Values format) :
    unpack format (pack format values) = .ok (readValues format values) := by
  rw [unpack_of_length _ _ (pack_length format values)]
  congr 1
  simpa using parse_pack format values []

theorem unpackFrom_of_le (format : Format) (data : Bytes) (offset : Nat)
    (room : offset + calcsize format ≤ data.length) :
    unpackFrom format data offset = .ok (parse format (data.drop offset)) :=
  if_pos room

theorem unpackFrom_of_lt (format : Format) (data : Bytes) (offset : Nat)
    (short : data.length < offset + calcsize format) :
    unpackFrom format data offset = .error .structError :=
  if_neg (by omega)

end SchunkFts.Foundation.Struct
