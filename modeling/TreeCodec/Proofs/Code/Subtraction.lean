import Mathlib.Data.Nat.PSub
import TreeCodec.Proofs.Code.Bijection

/-!
The arithmetic of the codes never subtracts a larger number from a smaller
one. Subtraction of natural numbers stops at zero and would hide that, so
pairing and splitting are set beside versions whose subtractions have no value
below zero: these have a value wherever they are used, and it is the same.

Splitting a positive number leaves two smaller ones. With the partial
versions this gives every number a finite evaluation (`Decodes`).
-/

namespace TreeCodec

namespace Code

/-- `pair`, without a value if its subtraction goes below zero. -/
def pair? (x y : Nat) : Option Nat :=
  let lo := min x y
  let hi := max x y
  (hi * hi + 2 * x + 1).psub lo

/-- `split`, without a value if one of its subtractions goes below zero. -/
def split? (n : Nat) : Option (Nat × Nat) := do
  let offset ← n.psub 1
  let root := squareRoot offset
  let residue ← offset.psub (root * root)
  let second ← (2 * root).psub (max root residue)
  return (min root residue, second)

/-- A number exceeds the square of its root by at most twice the root. -/
theorem sub_squareRoot_mul_self_le (v : Nat) :
    v - squareRoot v * squareRoot v ≤ 2 * squareRoot v := by
  have hroot := lt_squareRoot_add_one_mul_self v
  rw [Nat.add_one_mul_add_one] at hroot
  omega

theorem max_squareRoot_le (v : Nat) :
    max (squareRoot v) (v - squareRoot v * squareRoot v) ≤ 2 * squareRoot v :=
  max_le (by omega) (sub_squareRoot_mul_self_le v)

theorem split?_of_pos {n : Nat} (h : 1 ≤ n) : split? n = some (split n) := by
  have hoffset : n.psub 1 = some (n - 1) := Nat.psub_eq_sub h
  have hresidue := Nat.psub_eq_sub (squareRoot_mul_self_le (n - 1))
  have hsecond := Nat.psub_eq_sub (max_squareRoot_le (n - 1))
  simp only [split?, hoffset, Option.bind_eq_bind, Option.bind_some, hresidue, hsecond]
  rfl

theorem min_le_minuend (x y : Nat) :
    min x y ≤ max x y * max x y + 2 * x + 1 := by
  omega

theorem pair?_eq_some (x y : Nat) : pair? x y = some (pair x y) :=
  Nat.psub_eq_sub (min_le_minuend x y)

theorem max_lt_pair (x y : Nat) : max x y < pair x y :=
  (Nat.le_mul_self _).trans_lt (max_mul_max_lt_pair x y)

end Code

namespace Tree

/-- `n` is decoded to a tree, in finitely many steps and without a subtraction
that goes below zero. -/
inductive Decodes : Nat → Tree → Prop where
  | empty : Decodes 0 empty
  | node {n x y : Nat} {left right : Tree} (hsplit : Code.split? n = some (x, y))
      (hleft : Decodes x left) (hright : Decodes y right) :
      Decodes n (node left right)

theorem decodes_ofCode (n : Nat) : Decodes n (ofCode n) := by
  induction n using Nat.strongRecOn with
  | ind n ih =>
    by_cases h : n = 0
    · rw [h, ofCode_zero]
      exact .empty
    · rw [ofCode_of_ne_zero h]
      have hsplit := Code.split?_of_pos (Nat.one_le_iff_ne_zero.mpr h)
      exact .node hsplit (ih _ (Code.split_fst_lt h)) (ih _ (Code.split_snd_lt h))

end Tree

namespace Code

/-- No subtraction of the codes goes below zero. A positive number is split
into two smaller ones, so decoding ends; a pair is positive and larger than
both its components. -/
theorem subtractions_exact :
    (∀ n, 1 ≤ n →
      let offset := n - 1
      let root := squareRoot offset
      let residue := offset - root * root
      root * root ≤ offset ∧ max root residue ≤ 2 * root ∧
        split? n = some (split n) ∧ (split n).1 < n ∧ (split n).2 < n) ∧
    (∀ n, Tree.Decodes n (.ofCode n)) ∧
    ∀ x y, min x y ≤ max x y * max x y + 2 * x + 1 ∧
      pair? x y = some (pair x y) ∧
      1 ≤ pair x y ∧ x < pair x y ∧ y < pair x y := by
  refine ⟨?_, Tree.decodes_ofCode, ?_⟩
  · intro n hn
    have hne : n ≠ 0 := Nat.one_le_iff_ne_zero.mp hn
    exact ⟨squareRoot_mul_self_le (n - 1), max_squareRoot_le (n - 1), split?_of_pos hn,
      split_fst_lt hne, split_snd_lt hne⟩
  · intro x y
    have hlarger := max_lt_pair x y
    exact ⟨min_le_minuend x y, pair?_eq_some x y,
      Nat.one_le_iff_ne_zero.mpr (pair_ne_zero x y),
      (le_max_left x y).trans_lt hlarger, (le_max_right x y).trans_lt hlarger⟩

/-- Eight is the number of the pair of two and one. -/
theorem subtractions_exact_eight :
    1 ≤ 8 ∧ split? 8 = some (2, 1) ∧ 2 < 8 ∧ 1 < 8 := by
  have hsplit : split 8 = (2, 1) := split_pair 2 1
  obtain ⟨-, -, hexact, hleft, hright⟩ := subtractions_exact.1 8 (by decide)
  rw [hsplit] at hexact hleft hright
  exact ⟨by decide, hexact, hleft, hright⟩

end Code

end TreeCodec
