import Mathlib.Order.Bounds.Basic
import Mathlib.Order.Monotone.Basic
import TreeCodec.Proofs.Code.Bijection

/-!
The codes are sorted by the heights of their trees. Pairing is not monotone in
its second argument, so the code of a node does not simply grow with those of
its children; but it stays in the shell of the larger of the two. Hence the
codes of all trees of one height form an interval, from `leastCode` of the
height up to that of the next, and the intervals grow doubly exponentially.
-/

namespace TreeCodec.Tree

/-- The code at which the trees of a height begin. -/
def leastCode : (height : Nat) → Nat
  | 0 => 0
  | height + 1 => leastCode height * leastCode height + 1

theorem leastCode_lt_succ (h : Nat) : leastCode h < leastCode (h + 1) :=
  Nat.lt_succ_of_le (Nat.le_mul_self (leastCode h))

theorem leastCode_strictMono : StrictMono leastCode :=
  strictMono_nat_of_lt_succ leastCode_lt_succ

/-- The shell of the larger child's code decides, whichever child that is. -/
theorem code_mem_interval (t : Tree) :
    leastCode t.height ≤ t.code ∧ t.code < leastCode (t.height + 1) := by
  induction t with
  | empty => exact ⟨Nat.le_refl 0, Nat.zero_lt_one⟩
  | node left right ihl ihr =>
    have hmono := leastCode_strictMono.monotone
    have hlow : leastCode (max left.height right.height) ≤ max left.code right.code := by
      rw [hmono.map_max]
      exact max_le_max ihl.1 ihr.1
    have hhigh : max left.code right.code + 1
        ≤ leastCode (max left.height right.height + 1) := by
      rw [← Nat.add_max_add_right, ← Nat.add_max_add_right, hmono.map_max]
      exact max_le_max ihl.2 ihr.2
    rw [height, Nat.add_comm 1, code]
    constructor
    · calc leastCode (max left.height right.height + 1)
          ≤ max left.code right.code * max left.code right.code + 1 :=
            Nat.succ_le_succ (Nat.mul_le_mul hlow hlow)
        _ ≤ Code.pair left.code right.code := Code.max_mul_max_lt_pair _ _
    · calc Code.pair left.code right.code
          ≤ (max left.code right.code + 1) * (max left.code right.code + 1) :=
            Code.pair_le _ _
        _ < leastCode (max left.height right.height + 1 + 1) :=
            Nat.lt_succ_of_le (Nat.mul_le_mul hhigh hhigh)

/-- The intervals of different heights do not meet. -/
theorem height_eq_iff (t : Tree) (h : Nat) :
    t.height = h ↔ leastCode h ≤ t.code ∧ t.code < leastCode (h + 1) := by
  constructor
  · rintro rfl
    exact t.code_mem_interval
  · rintro ⟨hlow, hhigh⟩
    obtain ⟨hlow', hhigh'⟩ := t.code_mem_interval
    have hle : t.height < h + 1 := leastCode_strictMono.lt_iff_lt.mp (hlow'.trans_lt hhigh)
    have hge : h < t.height + 1 := leastCode_strictMono.lt_iff_lt.mp (hlow.trans_lt hhigh')
    omega

theorem height_le_of_code_le {s t : Tree} (h : s.code ≤ t.code) : s.height ≤ t.height := by
  have hlow := s.code_mem_interval.1
  have hhigh := t.code_mem_interval.2
  exact Nat.le_of_lt_succ
    (leastCode_strictMono.lt_iff_lt.mp ((hlow.trans h).trans_lt hhigh))

theorem height_ofCode_leastCode (h : Nat) : (ofCode (leastCode h)).height = h := by
  rw [height_eq_iff, code_ofCode]
  exact ⟨Nat.le_refl _, leastCode_lt_succ h⟩

theorem isLeast_leastCode (h : Nat) :
    IsLeast {n | ∃ t : Tree, t.height = h ∧ t.code = n} (leastCode h) := by
  constructor
  · exact ⟨ofCode (leastCode h), height_ofCode_leastCode h, code_ofCode _⟩
  · rintro n ⟨t, rfl, rfl⟩
    exact t.code_mem_interval.1

/-- One more level squares the codes. -/
theorem two_pow_two_pow_succ (h : Nat) : 2 ^ 2 ^ (h + 1) = 2 ^ 2 ^ h * 2 ^ 2 ^ h := by
  rw [pow_succ 2 h, pow_mul, sq]

theorem two_pow_two_pow_le_leastCode (h : Nat) : 2 ^ 2 ^ h ≤ leastCode (h + 2) := by
  induction h with
  | zero => decide
  | succ h ih =>
    calc 2 ^ 2 ^ (h + 1) = 2 ^ 2 ^ h * 2 ^ 2 ^ h := two_pow_two_pow_succ h
      _ ≤ leastCode (h + 2) * leastCode (h + 2) := Nat.mul_le_mul ih ih
      _ ≤ leastCode (h + 1 + 2) := Nat.le_succ _

theorem leastCode_lt_two_pow_two_pow (h : Nat) : leastCode (h + 1) < 2 ^ 2 ^ h := by
  induction h with
  | zero => decide
  | succ h ih =>
    have hsquares : (leastCode (h + 1) + 1) * (leastCode (h + 1) + 1)
        ≤ 2 ^ 2 ^ (h + 1) := by
      rw [two_pow_two_pow_succ]
      exact Nat.mul_le_mul ih ih
    have hpos : 0 < leastCode (h + 1) := Nat.succ_pos _
    have hnext : leastCode (h + 1 + 1) = leastCode (h + 1) * leastCode (h + 1) + 1 := rfl
    nlinarith

/-- A number names a tree of height `h` exactly from `leastCode h` up to the
next such bound. So a larger code never belongs to a lower tree, each bound is
the smallest code of its height, and it lies between two towers of squares. -/
theorem heights_sort_codes :
    (∀ n h, (ofCode n).height = h ↔ leastCode h ≤ n ∧ n < leastCode (h + 1)) ∧
    (∀ s t : Tree, s.code ≤ t.code → s.height ≤ t.height) ∧
    (∀ h, IsLeast {n | ∃ t : Tree, t.height = h ∧ t.code = n} (leastCode h)) ∧
    ∀ h, 2 ^ 2 ^ h ≤ leastCode (h + 2) ∧ leastCode (h + 1) < 2 ^ 2 ^ h := by
  refine ⟨?_, fun _ _ => height_le_of_code_le, isLeast_leastCode, ?_⟩
  · intro n h
    rw [height_eq_iff, code_ofCode]
  · intro h
    exact ⟨two_pow_two_pow_le_leastCode h, leastCode_lt_two_pow_two_pow h⟩

/-- Two trees of different heights with neighbouring codes. -/
theorem heights_sort_codes_neighbours :
    let lower := node (node empty empty) empty
    let higher := node empty (node empty (node empty empty))
    lower.code = 4 ∧ higher.code = 5 ∧ lower.code ≤ higher.code ∧
      lower.height ≤ higher.height := by
  refine ⟨by decide, by decide, by decide, ?_⟩
  exact heights_sort_codes.2.1 _ _ (by decide)

end TreeCodec.Tree
