import TreeCodec.Tree

/-!
Taking a tree apart without recursion. A release that followed the children
would nest once per level; this loop instead keeps the subtrees that are still
to be released on an explicit stack.

`drain` records every tree it takes from the stack together with the shell
that is left of it when it is let go, so that what the loop does to the tree
can be stated: the shells hold nothing, and the trees taken are the nodes
below the root, each once.

Letting go of a shell is again a teardown, and so is letting go of what the
shell of the root still holds. `nesting` counts how deep these calls nest.
-/

namespace TreeCodec.Tree

/-- Detaching one child: a non-empty child moves onto the stack and leaves an
empty tree in its place; an empty one stays. -/
def detachChild (child : Tree) (pending : List Tree) : Tree × List Tree :=
  if child.isEmpty then (child, pending) else (empty, child :: pending)

/-- Detaching the children of a tree, the left one first. The first component
is the shell that stays behind, the second the stack. -/
def detachChildren : Tree → List Tree → Tree × List Tree
  | empty, pending => (empty, pending)
  | node left right, pending =>
    let (leftShell, pending) := detachChild left pending
    let (rightShell, pending) := detachChild right pending
    (node leftShell rightShell, pending)

theorem detachChild_fst (child : Tree) (pending : List Tree) :
    (detachChild child pending).1 = empty := by
  cases child <;> rfl

/-- Whatever the children of a node were, its shell holds two empty trees. -/
theorem detachChildren_fst (t : Tree) (pending : List Tree) :
    (detachChildren t pending).1 = if t.isEmpty then empty else node empty empty := by
  cases t with
  | empty => rfl
  | node left right =>
    simp only [detachChildren, detachChild_fst]
    rfl

/-- One turn of the loop: the tree taken from the stack, and its shell. -/
structure Release where
  taken : Tree
  shell : Tree
deriving DecidableEq, Repr

/-- Twice the nodes plus one for each tree on the stack. -/
def pendingWeight (pending : List Tree) : Nat :=
  (pending.map fun t => 2 * t.size + 1).foldr (· + ·) 0

theorem pendingWeight_detachChild_le (child : Tree) (pending : List Tree) :
    pendingWeight (detachChild child pending).2
      ≤ 2 * child.size + 1 + pendingWeight pending := by
  unfold detachChild
  split <;> simp [pendingWeight]

theorem pendingWeight_detachChildren_le (t : Tree) (pending : List Tree) :
    pendingWeight (detachChildren t pending).2
      ≤ 2 * t.size + pendingWeight pending := by
  cases t with
  | empty => simp [detachChildren, size]
  | node left right =>
    have hl := pendingWeight_detachChild_le left pending
    have hr := pendingWeight_detachChild_le right (detachChild left pending).2
    simp only [detachChildren, size]
    omega

/-- Empties the stack, always going on with the tree pushed last. -/
def drain : (pending : List Tree) → List Release
  | [] => []
  | t :: pending =>
    ⟨t, (detachChildren t pending).1⟩ :: drain (detachChildren t pending).2
termination_by pending => pendingWeight pending
decreasing_by
  have := pendingWeight_detachChildren_le t pending
  simp only [pendingWeight, List.map_cons, List.foldr_cons] at *
  omega

/-- The shell of the root, and every later turn of the loop. -/
def teardown (t : Tree) : Tree × List Release :=
  ((detachChildren t []).1, drain (detachChildren t []).2)

/-- What is let go in the course of letting go of a tree: each shell at the end
of its turn, and after the loop what the shell of the root still holds. -/
def released (t : Tree) : List Tree :=
  t.teardown.2.map Release.shell ++
    match t.teardown.1 with
    | empty => []
    | node left right => [left, right]

theorem size_detachChildren_le (t : Tree) (pending : List Tree) :
    (detachChildren t pending).1.size ≤ t.size := by
  rw [detachChildren_fst]
  cases t with
  | empty => exact Nat.le_refl _
  | node left right => simp only [isEmpty, Bool.false_eq_true, if_false, size]; omega

theorem size_lt_pendingWeight {release : Release} {pending : List Tree}
    (h : release ∈ drain pending) : 2 * release.shell.size < pendingWeight pending := by
  induction pending using drain.induct with
  | case1 => simp [drain] at h
  | case2 t pending ih =>
    have hweight := pendingWeight_detachChildren_le t pending
    rw [drain, List.mem_cons] at h
    simp only [pendingWeight, List.map_cons, List.foldr_cons] at *
    rcases h with rfl | h
    · have hshell := size_detachChildren_le t pending
      change 2 * (detachChildren t pending).1.size < _
      omega
    · have hlater := ih h
      omega

theorem size_lt_of_mem_released {s t : Tree} (h : s ∈ t.released) : s.size < t.size := by
  rcases List.mem_append.mp h with h | h
  · obtain ⟨release, hmem, rfl⟩ := List.mem_map.mp h
    have htaken := size_lt_pendingWeight hmem
    have hweight := pendingWeight_detachChildren_le t []
    simp only [pendingWeight, List.map_nil, List.foldr_nil] at htaken hweight
    omega
  · have hroot : t.teardown.1.size ≤ t.size := size_detachChildren_le t []
    revert h hroot
    cases t.teardown.1 with
    | empty => simp
    | node left right =>
      simp only [List.mem_cons, List.not_mem_nil, or_false, size]
      rintro (rfl | rfl) hroot <;> omega

/-- How deep the calls nest that letting go of a tree makes, its own call
included: every tree that is let go in its course takes a call of its own. -/
def nesting (t : Tree) : Nat :=
  1 + (t.released.attach.map fun s => s.val.nesting).foldr max 0
termination_by t.size
decreasing_by exact size_lt_of_mem_released s.property

theorem nesting_eq (t : Tree) : t.nesting = 1 + (t.released.map nesting).foldr max 0 := by
  rw [nesting, List.attach_map_val]

end TreeCodec.Tree
