import Mathlib.Data.Bool.Basic
import Mathlib.Data.List.Basic
import Mathlib.Logic.Function.Iterate
import TreeCodec.Proofs.Tree.Place
import TreeCodec.Tree.Teardown

/-!
What the teardown of a tree does turn by turn. The stack is followed with the
place of each tree on it, where detaching a child extends the path by one turn;
without the places it is the stack of the loop.

Everything about the loop comes from one invariant, `Place.Holds`: the nodes in
the trees on the stack, written out in order, are the nodes below the root less
those that were taken already. A turn takes the first of them, because
detaching puts what is below a tree where the tree was. Termination is then the
length of a list, and that no node is lost or repeated is that its paths are
those of the tree, each once.
-/

namespace TreeCodec.Tree

/-- The nodes of a tree with their places: a node, then those in its right
subtree, then those in its left one. -/
def nodePlaces : Tree → List Place
  | empty => []
  | node left right =>
    ⟨[], node left right⟩ ::
      (right.nodePlaces.map (.under [true]) ++ left.nodePlaces.map (.under [false]))

/-- The stack after one more turn of the loop. An empty stack stays empty. -/
def turn : List Tree → List Tree
  | [] => []
  | t :: pending => (detachChildren t pending).2

/-- The stack of the teardown after a number of turns. -/
def pendingAfter (t : Tree) (turns : Nat) : List Tree :=
  turn^[turns] (detachChildren t []).2

namespace Place

/-- The place on top of the stack, if there is a node at it. -/
def push (place : Place) (pending : List Place) : List Place :=
  if place.subtree.isEmpty then pending else place :: pending

/-- The stack with the places of the children that detaching moves onto it. -/
def detach : Place → List Place → List Place
  | ⟨_, empty⟩, pending => pending
  | ⟨path, node left right⟩, pending =>
    push ⟨path ++ [true], right⟩ (push ⟨path ++ [false], left⟩ pending)

def turn : List Place → List Place
  | [] => []
  | place :: pending => place.detach pending

/-- The nodes in the subtree of a place. -/
def nodes (place : Place) : List Place :=
  place.subtree.nodePlaces.map (.under place.path)

/-- Every tree on the stack is a node, and the nodes in them are `rest`, in the
order in which the loop comes to them. -/
structure Holds (pending rest : List Place) : Prop where
  nonempty : ∀ place ∈ pending, place.subtree ≠ empty
  nodes_eq : pending.flatMap nodes = rest

end Place

/-- The stack of the teardown after a number of turns, each tree at its place
in the tree that is torn down. -/
def placesAfter (t : Tree) (turns : Nat) : List Place :=
  Place.turn^[turns] (Place.detach ⟨[], t⟩ [])

section Nodes

variable (t : Tree)

theorem length_nodePlaces : t.nodePlaces.length = t.size := by
  induction t with
  | empty => rfl
  | node left right ihl ihr =>
    simp only [nodePlaces, List.length_cons, List.length_append, List.length_map, ihl, ihr,
      size]
    omega

/-- The nodes are the places that hold no empty tree, in another order. -/
theorem nodePlaces_perm :
    t.nodePlaces.Perm (t.places.filter fun place => !place.subtree.isEmpty) := by
  have hunder (above : List Bool) (places : List Place) :
      (places.map (Place.under above)).filter (fun place => !place.subtree.isEmpty)
        = (places.filter fun place => !place.subtree.isEmpty).map (Place.under above) :=
    List.filter_map
  induction t with
  | empty => exact .refl _
  | node left right ihl ihr =>
    rw [nodePlaces, places, List.filter_cons_of_pos rfl, List.filter_append, hunder, hunder]
    exact .cons _ (((ihr.map _).append (ihl.map _)).trans List.perm_append_comm)

theorem nodup_path_nodePlaces : (t.nodePlaces.map Place.path).Nodup := by
  have hplaces : (t.places.map Place.path).Nodup := by
    refine t.pairwise_path_places.imp ?_
    rintro path _ hlt rfl
    exact List.lt_irrefl path hlt
  have hfilter := hplaces.sublist
    ((List.filter_sublist (p := fun place : Place => !place.subtree.isEmpty)).map Place.path)
  exact (t.nodePlaces_perm.map Place.path).nodup_iff.mpr hfilter

theorem mem_nodePlaces (place : Place) :
    place ∈ t.nodePlaces ↔
      place.subtree ≠ empty ∧ t.subtreeAt? place.path = some place.subtree := by
  have hnode : (!place.subtree.isEmpty) = true ↔ place.subtree ≠ empty := by
    cases place.subtree <;> simp [isEmpty]
  rw [t.nodePlaces_perm.mem_iff, List.mem_filter, mem_places, hnode, and_comm]

/-- The root is the only node at the path without turns. -/
theorem mem_tail_nodePlaces (place : Place) :
    place ∈ t.nodePlaces.tail ↔ place.path ≠ [] ∧ place ∈ t.nodePlaces := by
  cases t with
  | empty => simp [nodePlaces]
  | node left right =>
    rw [nodePlaces, List.tail_cons, List.mem_cons]
    constructor
    · intro h
      refine ⟨?_, .inr h⟩
      rcases List.mem_append.mp h with h | h <;>
        obtain ⟨below, -, rfl⟩ := List.mem_map.mp h <;>
        exact List.cons_ne_nil _ _
    · rintro ⟨hpath, rfl | h⟩
      · exact absurd rfl hpath
      · exact h

end Nodes

namespace Place

section Stack

variable (place : Place) (pending : List Place)

theorem map_subtree_push :
    (place.push pending).map subtree
      = (detachChild place.subtree (pending.map subtree)).2 := by
  unfold push detachChild
  split <;> rfl

theorem map_subtree_detach :
    (place.detach pending).map subtree
      = (detachChildren place.subtree (pending.map subtree)).2 := by
  obtain ⟨path, t⟩ := place
  cases t with
  | empty => rfl
  | node left right => simp only [detach, detachChildren, map_subtree_push]

theorem map_subtree_turn : (turn pending).map subtree = Tree.turn (pending.map subtree) := by
  cases pending with
  | nil => rfl
  | cons place pending => exact place.map_subtree_detach pending

theorem flatMap_nodes_push :
    (place.push pending).flatMap nodes = place.nodes ++ pending.flatMap nodes := by
  obtain ⟨path, t⟩ := place
  cases t <;> rfl

/-- Detaching puts the nodes below a place in front of those on the stack. -/
theorem flatMap_nodes_detach :
    (place.detach pending).flatMap nodes = place.nodes.tail ++ pending.flatMap nodes := by
  obtain ⟨path, t⟩ := place
  cases t with
  | empty => rfl
  | node left right =>
    simp only [detach, flatMap_nodes_push, nodes, nodePlaces, List.map_cons, List.map_append,
      List.map_map, under_comp_under, List.tail_cons, List.append_assoc]

theorem nonempty_push (h : ∀ place ∈ pending, place.subtree ≠ empty) :
    ∀ pushed ∈ place.push pending, pushed.subtree ≠ empty := by
  obtain ⟨path, t⟩ := place
  cases t with
  | empty => exact h
  | node left right => exact List.forall_mem_cons.mpr ⟨Tree.noConfusion, h⟩

theorem nonempty_detach (h : ∀ place ∈ pending, place.subtree ≠ empty) :
    ∀ pushed ∈ place.detach pending, pushed.subtree ≠ empty := by
  obtain ⟨path, t⟩ := place
  cases t with
  | empty => exact h
  | node left right => exact nonempty_push _ _ (nonempty_push _ _ h)

/-- The nodes of a place that holds a node begin with the place itself. -/
theorem nodes_eq_cons {place : Place} (h : place.subtree ≠ empty) :
    place.nodes = place :: place.nodes.tail := by
  obtain ⟨path, t⟩ := place
  cases t with
  | empty => exact absurd rfl h
  | node left right => simp [nodes, nodePlaces, under]

end Stack

namespace Holds

variable {pending rest : List Place}

theorem head?_eq (h : Holds pending rest) : pending.head? = rest.head? := by
  cases pending with
  | nil => rw [← h.nodes_eq]; rfl
  | cons place pending =>
    rw [← h.nodes_eq, List.flatMap_cons, nodes_eq_cons (h.nonempty place List.mem_cons_self)]
    rfl

theorem turn (h : Holds pending rest) : Holds (Place.turn pending) rest.tail := by
  cases pending with
  | nil => exact ⟨h.nonempty, by rw [← h.nodes_eq]; rfl⟩
  | cons place pending =>
    obtain ⟨hplace, hpending⟩ := List.forall_mem_cons.mp h.nonempty
    refine ⟨place.nonempty_detach pending hpending, ?_⟩
    rw [← h.nodes_eq, List.flatMap_cons, nodes_eq_cons hplace, List.cons_append, List.tail_cons]
    exact place.flatMap_nodes_detach pending

theorem iterate_turn (h : Holds pending rest) (turns : Nat) :
    Holds (Place.turn^[turns] pending) (rest.drop turns) := by
  induction turns with
  | zero => exact h
  | succ turns ih =>
    rw [Function.iterate_succ_apply', ← List.tail_drop]
    exact ih.turn

theorem eq_nil_iff (h : Holds pending rest) : pending = [] ↔ rest = [] := by
  rw [← List.head?_eq_none_iff, h.head?_eq, List.head?_eq_none_iff]

end Holds

end Place

section Run

variable (t : Tree) (turns : Nat)

theorem map_subtree_placesAfter :
    (t.placesAfter turns).map Place.subtree = t.pendingAfter turns := by
  have hturn : Function.Semiconj (List.map Place.subtree) Place.turn turn :=
    Place.map_subtree_turn
  rw [placesAfter, pendingAfter, (hturn.iterate_right turns).eq, Place.map_subtree_detach]
  rfl

/-- After some turns the stack holds the nodes below the root that were not
taken in them. -/
theorem holds_placesAfter : Place.Holds (t.placesAfter turns) (t.nodePlaces.tail.drop turns) := by
  have hstart : Place.Holds (Place.detach ⟨[], t⟩ []) t.nodePlaces.tail := by
    refine ⟨Place.nonempty_detach _ _ (List.forall_mem_nil _), ?_⟩
    rw [Place.flatMap_nodes_detach, Place.nodes, Place.map_under_nil]
    exact List.append_nil _
  exact hstart.iterate_turn turns

theorem head?_placesAfter : (t.placesAfter turns).head? = t.nodePlaces.tail[turns]? := by
  rw [(t.holds_placesAfter turns).head?_eq, List.head?_drop]

theorem pendingAfter_eq_nil_iff : t.pendingAfter turns = [] ↔ t.size ≤ turns + 1 := by
  rw [← map_subtree_placesAfter, List.map_eq_nil_iff, (t.holds_placesAfter turns).eq_nil_iff,
    List.drop_eq_nil_iff, List.length_tail, length_nodePlaces]
  omega

theorem empty_not_mem_pendingAfter : empty ∉ t.pendingAfter turns := by
  intro h
  rw [← map_subtree_placesAfter] at h
  obtain ⟨place, hplace, hempty⟩ := List.mem_map.mp h
  exact (t.holds_placesAfter turns).nonempty place hplace hempty

end Run

section Shells

/-- Each turn of the loop takes the tree on top of the stack. -/
theorem getElem?_drain (pending : List Tree) (turns : Nat) :
    (drain pending)[turns]?
      = (turn^[turns] pending).head?.map fun t =>
          ⟨t, if t.isEmpty then empty else node empty empty⟩ := by
  induction turns generalizing pending with
  | zero =>
    cases pending with
    | nil => simp [drain]
    | cons t pending => simp [drain, detachChildren_fst]
  | succ turns ih =>
    rw [Function.iterate_succ_apply, ← ih]
    cases pending with
    | nil => simp [drain, turn]
    | cons t pending => rw [drain, List.getElem?_cons_succ, turn]

theorem getElem?_teardown (t : Tree) (turns : Nat) :
    t.teardown.2[turns]?
      = (t.pendingAfter turns).head?.map fun u => ⟨u, node empty empty⟩ := by
  rw [teardown, getElem?_drain]
  refine Option.map_congr fun u hu => ?_
  have hnode : u ≠ empty := by
    rintro rfl
    exact t.empty_not_mem_pendingAfter turns (List.mem_of_mem_head? hu)
  cases u with
  | empty => exact absurd rfl hnode
  | node left right => rfl

/-- The loop takes the nodes below the root in order, and leaves of each a node
that holds nothing. -/
theorem teardown_snd (t : Tree) :
    t.teardown.2
      = t.nodePlaces.tail.map fun place => ⟨place.subtree, node empty empty⟩ := by
  apply List.ext_getElem?
  intro turns
  rw [getElem?_teardown, ← map_subtree_placesAfter, List.head?_map, head?_placesAfter,
    Option.map_map, List.getElem?_map]
  rfl

end Shells

section Nesting

theorem released_empty : empty.released = [] := by
  rw [released, teardown_snd]
  rfl

theorem released_node (left right : Tree) :
    (node left right).released
      = List.replicate (left.size + right.size) (node empty empty) ++ [empty, empty] := by
  have hlength : (node left right).nodePlaces.tail.length = left.size + right.size := by
    rw [List.length_tail, length_nodePlaces, size]
    omega
  rw [released, teardown_snd, List.map_map, ← hlength, ← List.map_const, teardown,
    detachChildren_fst]
  rfl

theorem nesting_empty : empty.nesting = 1 := by
  rw [nesting_eq, released_empty]
  rfl

theorem nesting_bare : (node empty empty).nesting = 2 := by
  rw [nesting_eq, released_node]
  simp [size, nesting_empty]

/-- Calls nest at most three deep: that for the tree, that for a shell taken in
the loop, and that for one of the two empty trees in the shell. -/
theorem nesting_eq_min (t : Tree) : t.nesting = min (t.size + 1) 3 := by
  have hdeepest (count : Nat) :
      (List.replicate count 2 ++ [1, 1]).foldr max 0 = min (count + 1) 2 := by
    induction count with
    | zero => rfl
    | succ count ih => rw [List.replicate_succ, List.cons_append, List.foldr_cons, ih]; omega
  cases t with
  | empty => exact nesting_empty
  | node left right =>
    rw [nesting_eq, released_node, List.map_append, List.map_replicate, nesting_bare,
      List.map_cons, List.map_singleton, nesting_empty, hdeepest, size]
    omega

end Nesting

/-- The teardown is complete and does not nest, whatever the shape and the
height of the tree. The loop makes one turn for each node below the root and
then ends; no empty tree is ever on its stack. Each turn takes the tree on top
and leaves of it a node that holds two empty trees. With the places that the
trees on the stack have, the trees taken are those at the places of the nodes
below the root, every place once and no other. The shell of the root holds at
most empty trees as well, so letting go of it, or of a shell in the loop, starts
no loop over anything: calls nest three deep at most. -/
theorem teardown_complete (t : Tree) :
    (∀ turns, t.pendingAfter turns = [] ↔ t.size ≤ turns + 1) ∧
    (∀ turns, empty ∉ t.pendingAfter turns) ∧
    (∀ turns, t.teardown.2[turns]?
      = (t.pendingAfter turns).head?.map fun u => ⟨u, node empty empty⟩) ∧
    (∀ turns, (t.placesAfter turns).map Place.subtree = t.pendingAfter turns) ∧
    (∃ taken : List Place,
      (∀ turns, (t.placesAfter turns).head? = taken[turns]?) ∧
      (taken.map Place.path).Nodup ∧
      ∀ place, place ∈ taken ↔ place.path ≠ [] ∧ place.subtree ≠ empty ∧
        t.subtreeAt? place.path = some place.subtree) ∧
    t.teardown.1.children? = t.children?.map (fun _ => (empty, empty)) ∧
    (∀ release ∈ t.teardown.2, release.shell.teardown.2 = [] ∧
      release.shell.released = [empty, empty]) ∧
    t.nesting = min (t.size + 1) 3 := by
  have htaken : (t.nodePlaces.tail.map Place.path).Nodup :=
    t.nodup_path_nodePlaces.sublist ((List.tail_sublist _).map Place.path)
  have hplaces (place : Place) : place ∈ t.nodePlaces.tail ↔ place.path ≠ [] ∧
      place.subtree ≠ empty ∧ t.subtreeAt? place.path = some place.subtree := by
    rw [mem_tail_nodePlaces, mem_nodePlaces]
  have hroot : t.teardown.1.children? = t.children?.map (fun _ => (empty, empty)) := by
    rw [teardown, detachChildren_fst]
    cases t <;> rfl
  have hshells : ∀ release ∈ t.teardown.2, release.shell.teardown.2 = [] ∧
      release.shell.released = [empty, empty] := by
    intro release hrelease
    rw [teardown_snd] at hrelease
    obtain ⟨place, -, rfl⟩ := List.mem_map.mp hrelease
    exact ⟨teardown_snd _, released_node empty empty⟩
  exact ⟨t.pendingAfter_eq_nil_iff, t.empty_not_mem_pendingAfter, t.getElem?_teardown,
    t.map_subtree_placesAfter,
    ⟨t.nodePlaces.tail, t.head?_placesAfter, htaken, hplaces⟩, hroot, hshells,
    t.nesting_eq_min⟩

end TreeCodec.Tree
