import TreeCodec.Tree

/-!
Subtrees by their places. The subtrees of a tree have no identity of their own,
since equal shapes are equal trees; what tells two of them apart is the place,
the path of turns that leads to it from the root. Every path that stays within
the tree names one subtree, and the places of a tree are those paths in order.
-/

namespace TreeCodec.Tree

/-- A subtree and the path to it from the root. `true` turns to the right
child, `false` to the left one. -/
structure Place where
  path : List Bool
  subtree : Tree

/-- The place as seen from further up, where `above` leads to the tree. -/
def Place.under (above : List Bool) (place : Place) : Place :=
  ⟨above ++ place.path, place.subtree⟩

theorem Place.under_comp_under (above deeper : List Bool) :
    under above ∘ under deeper = under (above ++ deeper) := by
  funext place
  simp [under]

theorem Place.map_under_nil (places : List Place) : places.map (under []) = places :=
  List.map_id places

/-- All places of a tree: that of a node, those in its left subtree, those in
its right one. -/
def places : Tree → List Place
  | empty => [⟨[], empty⟩]
  | node left right =>
    ⟨[], node left right⟩ ::
      (left.places.map (.under [false]) ++ right.places.map (.under [true]))

/-- The subtree that a path leads to, if the path does not leave the tree. -/
def subtreeAt? : Tree → List Bool → Option Tree
  | t, [] => some t
  | empty, _ :: _ => none
  | node left right, turn :: path =>
    if turn then right.subtreeAt? path else left.subtreeAt? path

variable (t : Tree)

theorem map_subtree_places : t.places.map Place.subtree = t.subtrees := by
  induction t with
  | empty => rfl
  | node left right ihl ihr =>
    have hunder (above : List Bool) : Place.subtree ∘ Place.under above = Place.subtree := rfl
    rw [places, List.map_cons, List.map_append, List.map_map, List.map_map, hunder, hunder,
      ihl, ihr, subtrees]

theorem length_places : t.places.length = 2 * t.size + 1 := by
  rw [← length_subtrees, ← map_subtree_places, List.length_map]

/-- A tree has each path once, and comes to them in the order of their turns. -/
theorem pairwise_path_places : (t.places.map Place.path).Pairwise (· < ·) := by
  induction t with
  | empty => exact List.pairwise_singleton _ _
  | node left right ihl ihr =>
    have hunder (turn : Bool) :
        Place.path ∘ Place.under [turn] = (turn :: ·) ∘ Place.path := rfl
    have hturn (turn : Bool) {paths : List (List Bool)} (h : paths.Pairwise (· < ·)) :
        (paths.map (turn :: ·)).Pairwise (· < ·) :=
      List.pairwise_map.mpr (h.imp fun hlt => List.cons_lt_cons_iff.mpr (.inr ⟨rfl, hlt⟩))
    rw [places, List.map_cons, List.map_append, List.map_map, List.map_map, hunder, hunder,
      ← List.map_map, ← List.map_map, List.pairwise_cons, List.pairwise_append]
    refine ⟨?_, hturn false ihl, hturn true ihr, ?_⟩
    · intro path hpath
      rcases List.mem_append.mp hpath with h | h <;>
        obtain ⟨tail, -, rfl⟩ := List.mem_map.mp h <;>
        exact List.nil_lt_cons _ _
    · intro path hpath path' hpath'
      obtain ⟨tail, -, rfl⟩ := List.mem_map.mp hpath
      obtain ⟨tail', -, rfl⟩ := List.mem_map.mp hpath'
      exact List.cons_lt_cons_iff.mpr (.inl (by decide))

theorem mem_map_under_singleton {turn turn' : Bool} {path : List Bool} {u : Tree}
    {below : List Place} :
    ⟨turn :: path, u⟩ ∈ below.map (Place.under [turn']) ↔
      turn = turn' ∧ ⟨path, u⟩ ∈ below := by
  constructor
  · intro h
    obtain ⟨place, hplace, heq⟩ := List.mem_map.mp h
    cases heq
    exact ⟨rfl, hplace⟩
  · rintro ⟨rfl, h⟩
    exact List.mem_map.mpr ⟨_, h, rfl⟩

theorem mem_places (path : List Bool) (u : Tree) :
    ⟨path, u⟩ ∈ t.places ↔ t.subtreeAt? path = some u := by
  induction t generalizing path with
  | empty =>
    cases path with
    | nil => simp [places, subtreeAt?, eq_comm]
    | cons turn path => simp [places, subtreeAt?]
  | node left right ihl ihr =>
    cases path with
    | nil => simp [places, subtreeAt?, Place.under, eq_comm]
    | cons turn path =>
      rw [places, List.mem_cons, List.mem_append, mem_map_under_singleton,
        mem_map_under_singleton, ihl, ihr]
      cases turn <;> simp [subtreeAt?]

end TreeCodec.Tree
