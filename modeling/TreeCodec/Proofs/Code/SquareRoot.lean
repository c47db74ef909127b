import Mathlib.Algebra.Order.Ring.Nat
import Mathlib.Data.Nat.Size
import Mathlib.Data.Nat.Sqrt
import Mathlib.Logic.Function.Iterate
import Mathlib.Tactic.Linarith
import Mathlib.Tactic.Ring
import TreeCodec.Code.SquareRoot

/-!
The descent ends at the integer square root, for numbers of every size. The
invariant is that the root never lies above the current iterate. Any step from
a positive iterate lands at or above the root, whatever the two rounded
divisions lose, so the invariant needs to be established only for the seed.

Division by zero has a value here, so that the loop never comes to divide by
zero is stated of its iterates: `EndsAfter` describes a whole run of the loop,
divisor by divisor.
-/

namespace TreeCodec.Code

/-- A step from a positive iterate never falls below the root: the iterate and
the rounded-up quotient multiply to more than `v`, and half of their sum is at
least their geometric mean. -/
theorem lt_newtonStep_add_one_mul_self (v current : Nat) (hpos : 0 < current) :
    v < (newtonStep v current + 1) * (newtonStep v current + 1) := by
  have hproduct : v < current * (v / current + 1) := by
    have hmod := Nat.mod_lt v hpos
    have hdiv := Nat.div_add_mod v current
    rw [Nat.mul_add, Nat.mul_one]
    omega
  have hsum : current + (v / current + 1) ≤ 2 * (newtonStep v current + 1) := by
    unfold newtonStep
    omega
  have hmean : current * (v / current + 1)
      ≤ (newtonStep v current + 1) * (newtonStep v current + 1) := by
    have hsquares := Nat.mul_le_mul hsum hsum
    have hfour := four_mul_le_sq_add current (v / current + 1)
    nlinarith
  exact hproduct.trans_le hmean

/-- The descent keeps the root at or below the iterate. -/
theorem lt_newtonDescent_add_one_mul_self (v current : Nat)
    (h : v < (current + 1) * (current + 1)) :
    v < (newtonDescent v current + 1) * (newtonDescent v current + 1) := by
  fun_induction newtonDescent v current with
  | case1 current hdown ih =>
    apply ih
    exact lt_newtonStep_add_one_mul_self v current (by omega)
  | case2 current hstop => exact h

/-- The seed is not below the root: its square has more bits than `v`. -/
theorem lt_squareRootSeed_add_one_mul_self (v : Nat) :
    v < (squareRootSeed v + 1) * (squareRootSeed v + 1) := by
  have hsquare : squareRootSeed v * squareRootSeed v
      = 2 ^ (2 * ((v.log2 + 2) / 2)) := by
    rw [squareRootSeed, Nat.pow_eq, ← pow_add, two_mul]
  have hseed : v < squareRootSeed v * squareRootSeed v := by
    rw [hsquare]
    calc v < 2 ^ (v.log2 + 1) := Nat.lt_log2_self
      _ ≤ 2 ^ (2 * ((v.log2 + 2) / 2)) := Nat.pow_le_pow_right (by omega) (by omega)
  exact hseed.trans_le (Nat.mul_le_mul (by omega) (by omega))

/-- The square of the next number after the result exceeds `v`. -/
theorem lt_squareRoot_add_one_mul_self (v : Nat) :
    v < (squareRoot v + 1) * (squareRoot v + 1) := by
  unfold squareRoot
  split
  · nlinarith
  · exact lt_newtonDescent_add_one_mul_self v _
      (lt_squareRootSeed_add_one_mul_self v)

theorem squareRoot_eq_sqrt (v : Nat) : squareRoot v = v.sqrt :=
  Nat.eq_sqrt.mpr ⟨squareRoot_mul_self_le v, lt_squareRoot_add_one_mul_self v⟩

/-- The loop for `v` that starts at `first` makes `steps` steps and ends: no
iterate that it divides by is zero, every step goes down, and the next one
would not. -/
structure EndsAfter (v first steps : Nat) : Prop where
  divisor_ne_zero : ∀ i ≤ steps, (newtonStep v)^[i] first ≠ 0
  goesDown : ∀ i < steps, (newtonStep v)^[i + 1] first < (newtonStep v)^[i] first
  stops : (newtonStep v)^[steps] first ≤ (newtonStep v)^[steps + 1] first

theorem EndsAfter.stay {v first : Nat} (hfirst : first ≠ 0)
    (hstop : first ≤ newtonStep v first) : EndsAfter v first 0 where
  divisor_ne_zero i hi := by
    rw [Nat.le_zero.mp hi]
    exact hfirst
  goesDown i hi := absurd hi (Nat.not_lt_zero i)
  stops := hstop

theorem EndsAfter.step {v first steps : Nat} (hfirst : first ≠ 0)
    (hdown : newtonStep v first < first)
    (h : EndsAfter v (newtonStep v first) steps) : EndsAfter v first (steps + 1) where
  divisor_ne_zero i hi := by
    cases i with
    | zero => exact hfirst
    | succ i => exact h.divisor_ne_zero i (Nat.le_of_succ_le_succ hi)
  goesDown i hi := by
    cases i with
    | zero => exact hdown
    | succ i => exact h.goesDown i (Nat.lt_of_succ_lt_succ hi)
  stops := h.stops

/-- A step for a positive number leads from a positive iterate to a positive
one, since it does not fall below the root. -/
theorem newtonStep_ne_zero {v current : Nat} (hv : v ≠ 0) (hcurrent : current ≠ 0) :
    newtonStep v current ≠ 0 := by
  intro hzero
  have hroot := lt_newtonStep_add_one_mul_self v current (Nat.pos_of_ne_zero hcurrent)
  rw [hzero] at hroot
  omega

/-- From any positive iterate the loop ends, at the iterate that the descent
gives. -/
theorem exists_endsAfter {v : Nat} (hv : v ≠ 0) (first : Nat) (hfirst : first ≠ 0) :
    ∃ steps, EndsAfter v first steps ∧
      newtonDescent v first = (newtonStep v)^[steps] first := by
  fun_induction newtonDescent v first with
  | case1 current hdown ih =>
    obtain ⟨steps, hends, hresult⟩ := ih (newtonStep_ne_zero hv hfirst)
    exact ⟨steps + 1, hends.step hfirst hdown, hresult⟩
  | case2 current hstop => exact ⟨0, .stay hfirst (Nat.not_lt.mp hstop), rfl⟩

/-- The logarithm counts the bits behind the first. -/
theorem log2_add_one_eq_size {v : Nat} (hv : v ≠ 0) : v.log2 + 1 = v.size := by
  apply Nat.le_antisymm
  · exact Nat.lt_size.mpr (Nat.log2_self_le hv)
  · exact Nat.size_le.mpr Nat.lt_log2_self

theorem squareRootSeed_eq {v : Nat} (hv : v ≠ 0) :
    squareRootSeed v = 2 ^ ((v.size + 1) / 2) := by
  rw [squareRootSeed, Nat.pow_eq, ← log2_add_one_eq_size hv]

/-- The square root is the floor root of every number. A number below two is
answered without the loop; for any other the loop, started at two to half the
number of bits, rounded up, divides by no zero and ends after finitely many
steps, at the root. -/
theorem squareRoot_exact (v : Nat) :
    (v < 2 ∧ squareRoot v = v ∨
      ∃ steps, EndsAfter v (2 ^ ((v.size + 1) / 2)) steps ∧
        squareRoot v = (newtonStep v)^[steps] (2 ^ ((v.size + 1) / 2))) ∧
      squareRoot v * squareRoot v ≤ v ∧
      v < (squareRoot v + 1) * (squareRoot v + 1) := by
  refine ⟨?_, squareRoot_mul_self_le v, lt_squareRoot_add_one_mul_self v⟩
  rcases Nat.lt_or_ge v 2 with hsmall | hlarge
  · rw [squareRoot, if_pos hsmall]
    exact .inl ⟨hsmall, rfl⟩
  · have hv : v ≠ 0 := by omega
    have hseed : squareRootSeed v ≠ 0 := by
      rw [squareRootSeed_eq hv]
      exact (Nat.two_pow_pos _).ne'
    rw [squareRoot, if_neg (by omega), ← squareRootSeed_eq hv]
    exact .inr (exists_endsAfter hv _ hseed)

end TreeCodec.Code
