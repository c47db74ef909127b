import TreeCodec.Code.SquareRoot

/-!
The pairing of natural numbers behind the codes. All pairs whose larger
component is `m` share the shell of numbers from `m * m + 1` to
`(m + 1) * (m + 1)`, so the square root of the predecessor finds the shell and
what is left over finds the pair.
-/

namespace TreeCodec.Code

/-- The number of the ordered pair `(x, y)`; never zero. -/
def pair (x y : Nat) : Nat :=
  let lo := min x y
  let hi := max x y
  hi * hi + 2 * x + 1 - lo

/-- The pair with number `n`, for a positive `n`. -/
def split (n : Nat) : Nat × Nat :=
  let offset := n - 1
  let root := squareRoot offset
  let residue := offset - root * root
  (min root residue, 2 * root - max root residue)

theorem split_fst_lt {n : Nat} (h : n ≠ 0) : (split n).1 < n := by
  have := squareRoot_le (n - 1)
  simp only [split]
  omega

theorem split_snd_lt {n : Nat} (h : n ≠ 0) : (split n).2 < n := by
  have := squareRoot_le (n - 1)
  simp only [split]
  omega

end TreeCodec.Code
