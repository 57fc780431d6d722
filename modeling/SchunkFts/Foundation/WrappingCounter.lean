import Mathlib.Data.List.Basic
import Mathlib.Tactic.Ring
import Mathlib.Tactic.Linarith

/-! Distances on a counter that wraps around, and rows of numbers laid out under one. -/

namespace SchunkFts.Foundation.WrappingCounter

/-- How far `counter` is ahead of `base` on a counter with `modulus` values. -/
def delta (modulus counter base : Int) : Int := (counter - base + modulus) % modulus

/-- The distance of two positions that the counter has wrapped to. -/
theorem delta_positions (modulus later earlier : Int) :
    delta modulus (later % modulus) (earlier % modulus) = (later - earlier) % modulus := by
  unfold delta
  rw [Int.add_emod_right, ← Int.sub_emod]

/-- Rows of `width` numbers a `period` apart, the row of each packet starting where its counter,
wrapping at `modulus`, puts it. -/
def rows (modulus width : Nat) (base period : Int) (count : Nat) : List Int :=
  (List.range count).flatMap (fun packet =>
    (List.range width).map (fun index : Nat =>
      base + ((packet % modulus : Nat) * width + index : Int) * period))

theorem rows_length (modulus width : Nat) (base period : Int) (count : Nat) :
    (rows modulus width base period count).length = count * width := by
  simp [rows, List.length_flatMap]

/-- As long as the counter does not wrap, the numbers increase. -/
theorem rows_increasing (modulus width : Nat) (base period : Int) (count : Nat)
    (positive : 0 < period) (short : count ≤ modulus) :
    (rows modulus width base period count).Pairwise (· < ·) := by
  unfold rows
  apply List.pairwise_flatMap.mpr
  constructor
  · intro packet _
    rw [List.pairwise_map]
    apply List.pairwise_lt_range.imp
    intro first second less
    have gap : (first : Int) < second := by exact_mod_cast less
    nlinarith
  · apply List.pairwise_lt_range.imp_of_mem
    intro earlier later _ inLater less x inEarlier y inLaterRow
    have bound := List.mem_range.mp inLater
    obtain ⟨i, small, rfl⟩ := List.mem_map.mp inEarlier
    obtain ⟨j, _, rfl⟩ := List.mem_map.mp inLaterRow
    have inside := List.mem_range.mp small
    rw [Nat.mod_eq_of_lt (by omega : earlier < modulus),
      Nat.mod_eq_of_lt (by omega : later < modulus)]
    have order : (earlier * width + i : Int) < later * width + j := by
      have step : (earlier + 1) * width ≤ later * width := Nat.mul_le_mul_right width less
      have least : earlier * width + i < later * width + j := by
        rw [Nat.add_mul, Nat.one_mul] at step
        omega
      exact_mod_cast least
    have scaled := mul_lt_mul_of_pos_right order positive
    linarith

/-- Once it has wrapped, the first number comes back. -/
theorem rows_repeat (modulus width : Nat) (base period : Int) (count : Nat)
    (wide : 0 < width) (some_values : 0 < modulus) (long : modulus < count) :
    ¬(rows modulus width base period count).Pairwise (· < ·) := by
  intro increasing
  unfold rows at increasing
  have across := (List.pairwise_flatMap.mp increasing).2
  rw [List.pairwise_iff_getElem] at across
  have wrapped := across 0 modulus (by rw [List.length_range]; omega)
    (by rw [List.length_range]; exact long) some_values
  simp only [List.getElem_range, Nat.zero_mod, Nat.mod_self] at wrapped
  have first : base ∈ (List.range width).map (fun index : Nat =>
      base + ((0 : Nat) * width + index : Int) * period) := by
    apply List.mem_map.mpr
    exact ⟨0, List.mem_range.mpr wide, by simp⟩
  exact lt_irrefl base (wrapped base first base first)

theorem rows_increasing_iff (modulus width : Nat) (base period : Int) (count : Nat)
    (wide : 0 < width) (some_values : 0 < modulus) (positive : 0 < period) :
    (rows modulus width base period count).Pairwise (· < ·) ↔ count ≤ modulus := by
  constructor
  · intro increasing
    by_contra long
    exact rows_repeat modulus width base period count wide some_values (by omega) increasing
  · exact rows_increasing modulus width base period count positive

end SchunkFts.Foundation.WrappingCounter
