import TreeCodec.Code
import TreeCodec.Proofs.Code.SquareRoot

/-!
Trees and natural numbers name each other. The numbers from `m * m + 1` to
`(m + 1) * (m + 1)` form the shell of `m`; a positive number is its shell and
its offset in it. The pairs in the shell are those whose larger component is
`m`: an offset up to `m` is the first component of a pair that ends in `m`, and
a larger offset counts down the second component of a pair that begins with
`m`.
-/

namespace TreeCodec

namespace Code

theorem pair_of_le {x y : Nat} (h : x ≤ y) : pair x y = y * y + x + 1 := by
  simp only [pair, Nat.min_eq_left h, Nat.max_eq_right h]
  omega

theorem pair_of_lt {x y : Nat} (h : y < x) :
    pair x y = x * x + (2 * x - y) + 1 := by
  simp only [pair, Nat.min_eq_right h.le, Nat.max_eq_left h.le]
  omega

/-- A number is split according to its shell and its offset in the shell. -/
theorem split_shell {m offset : Nat} (h : offset ≤ 2 * m) :
    split (m * m + offset + 1) = (min m offset, 2 * m - max m offset) := by
  have hroot : squareRoot (m * m + offset) = m := by
    rw [squareRoot_eq_sqrt]
    exact Nat.sqrt_add_eq m (by omega)
  simp only [split, Nat.add_sub_cancel, hroot, Nat.add_sub_cancel_left]

theorem exists_shell {n : Nat} (h : n ≠ 0) :
    ∃ m offset, offset ≤ 2 * m ∧ n = m * m + offset + 1 := by
  have hlow := Nat.sqrt_le (n - 1)
  have hhigh := Nat.sqrt_le_add (n - 1)
  refine ⟨(n - 1).sqrt, n - 1 - (n - 1).sqrt * (n - 1).sqrt, ?_, ?_⟩ <;> omega

/-- Splitting undoes pairing, on both sides of the diagonal. -/
theorem split_pair (x y : Nat) : split (pair x y) = (x, y) := by
  rcases le_or_gt x y with hle | hlt
  · rw [pair_of_le hle, split_shell (by omega)]
    exact Prod.ext (by simp only; omega) (by simp only; omega)
  · rw [pair_of_lt hlt, split_shell (by omega)]
    exact Prod.ext (by simp only; omega) (by simp only; omega)

/-- Pairing undoes splitting: each half of a shell belongs to one side of the
diagonal. -/
theorem pair_split {n : Nat} (h : n ≠ 0) :
    pair (split n).1 (split n).2 = n := by
  obtain ⟨m, offset, hoffset, rfl⟩ := exists_shell h
  rw [split_shell hoffset]
  rcases le_or_gt offset m with hle | hlt
  · have hfirst : min m offset = offset := by omega
    have hsecond : 2 * m - max m offset = m := by omega
    rw [hfirst, hsecond, pair_of_le hle]
  · have hfirst : min m offset = m := by omega
    have hsecond : 2 * m - max m offset = 2 * m - offset := by omega
    have hback : 2 * m - (2 * m - offset) = offset := by omega
    rw [hfirst, hsecond, pair_of_lt (by omega), hback]

theorem pair_ne_zero (x y : Nat) : pair x y ≠ 0 := by
  rcases le_or_gt x y with hle | hlt
  · rw [pair_of_le hle]
    omega
  · rw [pair_of_lt hlt]
    omega

/-- A pair lies in the shell of its larger component. -/
theorem max_mul_max_lt_pair (x y : Nat) : max x y * max x y < pair x y := by
  rcases le_or_gt x y with hle | hlt
  · rw [pair_of_le hle, Nat.max_eq_right hle]
    omega
  · rw [pair_of_lt hlt, Nat.max_eq_left hlt.le]
    omega

theorem pair_le (x y : Nat) : pair x y ≤ (max x y + 1) * (max x y + 1) := by
  rw [Nat.add_one_mul_add_one]
  rcases le_or_gt x y with hle | hlt
  · rw [pair_of_le hle, Nat.max_eq_right hle]
    omega
  · rw [pair_of_lt hlt, Nat.max_eq_left hlt.le]
    omega

end Code

namespace Tree

theorem ofCode_zero : ofCode 0 = empty := by
  rw [ofCode, dif_pos rfl]

theorem ofCode_of_ne_zero {n : Nat} (h : n ≠ 0) :
    ofCode n = node (ofCode (Code.split n).1) (ofCode (Code.split n).2) := by
  rw [ofCode, dif_neg h]

theorem ofCode_code (t : Tree) : ofCode t.code = t := by
  induction t with
  | empty => exact ofCode_zero
  | node left right ihl ihr =>
    rw [code, ofCode_of_ne_zero (Code.pair_ne_zero _ _), Code.split_pair, ihl, ihr]

theorem code_ofCode (n : Nat) : (ofCode n).code = n := by
  induction n using Nat.strongRecOn with
  | ind n ih =>
    by_cases h : n = 0
    · rw [h, ofCode_zero, code]
    · rw [ofCode_of_ne_zero h, code, ih _ (Code.split_fst_lt h),
        ih _ (Code.split_snd_lt h), Code.pair_split h]

theorem code_injective : Function.Injective code :=
  Function.LeftInverse.injective ofCode_code

/-- Coding and decoding are inverse to each other on all trees and all natural
numbers, so every number is the code of exactly one tree, and no two trees
share a code. -/
theorem code_inverse_ofCode :
    (∀ t : Tree, ofCode t.code = t) ∧ (∀ n, (ofCode n).code = n) ∧
      (∀ n, ∃! t : Tree, t.code = n) ∧
      ∀ s t : Tree, s.code = t.code → s = t := by
  refine ⟨ofCode_code, code_ofCode, ?_, fun _ _ h => code_injective h⟩
  intro n
  refine ⟨ofCode n, code_ofCode n, ?_⟩
  intro t ht
  rw [← ht, ofCode_code]

end Tree

end TreeCodec
