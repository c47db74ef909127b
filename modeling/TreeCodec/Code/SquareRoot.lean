/-!
The integer square root by Newton's iteration from above. The seed is a power
of two that is already at least the root, every step but the last goes down,
and the first step that does not marks the answer.
-/

namespace TreeCodec.Code

/-- The next iterate: half of `current + v / current`, rounded down twice. -/
def newtonStep (v current : Nat) : Nat :=
  (v / current + current) / 2

def newtonDescent (v current : Nat) : Nat :=
  if newtonStep v current < current then newtonDescent v (newtonStep v current)
  else current
termination_by current

/-- `2 ^ ⌈b / 2⌉` for a number of `b` bits. -/
def squareRootSeed (v : Nat) : Nat :=
  Nat.pow 2 ((v.log2 + 2) / 2)

/-- The largest `r` with `r * r ≤ v`. -/
def squareRoot (v : Nat) : Nat :=
  if v < 2 then v else newtonDescent v (squareRootSeed v)

/-- Where the descent stops, the square is at most `v`. -/
theorem newtonDescent_mul_self_le (v current : Nat) :
    newtonDescent v current * newtonDescent v current ≤ v := by
  fun_induction newtonDescent v current with
  | case1 current _ ih => exact ih
  | case2 current h =>
    have hdiv : current ≤ v / current := by
      unfold newtonStep at h
      omega
    calc current * current ≤ v / current * current := Nat.mul_le_mul_right _ hdiv
      _ ≤ v := Nat.div_mul_le_self v current

theorem squareRoot_mul_self_le (v : Nat) : squareRoot v * squareRoot v ≤ v := by
  unfold squareRoot
  split
  · have : v = 0 ∨ v = 1 := by omega
    rcases this with rfl | rfl <;> decide
  · exact newtonDescent_mul_self_le v _

theorem squareRoot_le (v : Nat) : squareRoot v ≤ v := by
  have h := squareRoot_mul_self_le v
  rcases Nat.eq_zero_or_pos (squareRoot v) with h0 | hpos
  · omega
  · exact Nat.le_trans (Nat.le_mul_of_pos_left _ hpos) h

end TreeCodec.Code
