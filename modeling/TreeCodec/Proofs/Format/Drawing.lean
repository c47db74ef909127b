import TreeCodec.Format.Drawing
import TreeCodec.Proofs.Text.Numeral
import TreeCodec.Proofs.Tree.Place

/-!
Which line of a drawing belongs to which subtree, and what it shows. A subtree
has a place, the path of turns that leads to it from the root. Its line
consists of its ancestry, which depends on the path alone, and of a caption,
which depends on the subtree alone.

The codes are collected by one traversal and the lines drawn by another, and
between them stands nothing but a list of numbers. Drawing uses one number for
each line, in the order of the lines and whatever the numbers are; collecting
puts the code of each subtree in that order.
-/

namespace TreeCodec.Tree

open Text

/-- What a line shows of its path: a bar for each left turn on the way and two
blanks for each right one, then the connector of the last turn. -/
def ancestry (path : List Bool) : List Char :=
  path.dropLast.flatMap (fun turn => if turn then [' ', ' '] else ['│', ' ']) ++
    match path.getLast? with
    | none => []
    | some false => ['├', '─', ' ']
    | some true => ['└', '─', ' ']

example : ancestry [false, true, true] = ['│', ' ', ' ', ' ', '└', '─', ' '] := by
  decide

/-- What a line shows of its subtree. -/
def caption (fill : Fill) : Tree → List Char
  | empty => ['∅']
  | node left right =>
    (if fill.fills (node left right) then '●' else '○') :: ' ' ::
      Nat.toDigits 10 (node left right).code

def Place.line (fill : Fill) (place : Place) : List Char :=
  ancestry place.path ++ place.subtree.caption fill

/-- The line of a place that shows some number for its code. -/
def Place.lineShowing (fill : Fill) (place : Place) (code : Nat) : List Char :=
  ancestry place.path ++ place.subtree.label fill code

section Codes

variable (t : Tree)

theorem codes_fst : t.codes.1 = t.code := by
  induction t with
  | empty => rfl
  | node left right ihl ihr => simp only [codes, code, ihl, ihr]

theorem codeList_node (left right : Tree) :
    (node left right).codeList
      = (node left right).code :: (left.codeList ++ right.codeList) := by
  rw [codeList, codes_fst]
  rfl

/-- The codes are collected in the order of the subtrees. -/
theorem codeList_eq : t.codeList = t.subtrees.map code := by
  induction t with
  | empty => rfl
  | node left right ihl ihr =>
    rw [codeList_node, ihl, ihr, subtrees, List.map_cons, List.map_append]

theorem length_codeList : t.codeList.length = t.places.length := by
  rw [codeList_eq, List.length_map, ← map_subtree_places, List.length_map]

end Codes

section Lines

variable (fill : Fill) (t : Tree)

theorem ancestry_append_singleton (above : List Bool) (turn : Bool) :
    ancestry (above ++ [turn])
      = above.flatMap continuation ++ connector turn ++ [' '] := by
  have hmarks : (fun turn : Bool => if turn then [' ', ' '] else ['│', ' ']) = continuation :=
    rfl
  rw [ancestry, List.dropLast_concat, List.getLast?_concat, hmarks, List.append_assoc]
  cases turn <;> rfl

/-- The line of a subtree, drawn below an indentation. -/
theorem lineShowing_under (above : List Bool) (turn : Bool) (code : Nat) :
    (Place.under (above ++ [turn]) ⟨[], t⟩).lineShowing fill code
      = above.flatMap continuation ++ connector turn ++ ' ' :: t.label fill code := by
  rw [Place.lineShowing, Place.under, List.append_nil, ancestry_append_singleton,
    List.append_assoc, List.singleton_append]

/-- Numbers for all places of a node: one for the node itself, then those for
the left subtree and those for the right one. -/
theorem exists_codes_of_length {left right : Tree} {codes : List Nat}
    (h : codes.length = (node left right).places.length) :
    ∃ code leftCodes rightCodes, codes = code :: (leftCodes ++ rightCodes) ∧
      leftCodes.length = left.places.length ∧
      rightCodes.length = right.places.length := by
  obtain ⟨code, below, rfl⟩ := List.exists_cons_of_ne_nil
    (show codes ≠ [] by rintro rfl; cases h)
  simp only [places, List.length_cons, List.length_append, List.length_map] at h
  refine ⟨code, below.take left.places.length, below.drop left.places.length, ?_, ?_, ?_⟩
  · rw [List.take_append_drop]
  · rw [List.length_take]
    omega
  · rw [List.length_drop]
    omega

theorem zipWith_places_node {left : Tree} (right : Tree) (above : List Bool) (code : Nat)
    {leftCodes : List Nat} (rightCodes : List Nat)
    (hleft : leftCodes.length = left.places.length) :
    List.zipWith (Place.lineShowing fill) ((node left right).places.map (.under above))
        (code :: (leftCodes ++ rightCodes))
      = (Place.under above ⟨[], node left right⟩).lineShowing fill code ::
        (List.zipWith (Place.lineShowing fill)
            (left.places.map (.under (above ++ [false]))) leftCodes ++
          List.zipWith (Place.lineShowing fill)
            (right.places.map (.under (above ++ [true]))) rightCodes) := by
  rw [places, List.map_cons, List.map_append, List.map_map, List.map_map,
    Place.under_comp_under, Place.under_comp_under, List.zipWith_cons_cons,
    List.zipWith_append (by rw [List.length_map, hleft])]

/-- Drawing the subtree at the end of a path takes one number for each of its
places, shows it there, and leaves the rest of the numbers alone. -/
theorem branchLines_append (above : List Bool) (turn : Bool) (codes rest : List Nat)
    (h : codes.length = t.places.length) :
    t.branchLines fill (above.flatMap continuation) turn (codes ++ rest)
      = (List.zipWith (Place.lineShowing fill)
          (t.places.map (.under (above ++ [turn]))) codes, rest) := by
  induction t generalizing above turn codes rest with
  | empty =>
    obtain ⟨code, rfl⟩ := List.length_eq_one_iff.mp h
    rw [places, List.map_singleton, List.zipWith_cons_cons, lineShowing_under]
    rfl
  | node left right ihl ihr =>
    obtain ⟨code, leftCodes, rightCodes, rfl, hleft, hright⟩ := exists_codes_of_length h
    have hdeeper : above.flatMap continuation ++ continuation turn
        = (above ++ [turn]).flatMap continuation := by
      rw [List.flatMap_append, List.flatMap_singleton]
    -- what the left subtree leaves is what the right one finds
    have hfirst := ihl (above ++ [turn]) false leftCodes (rightCodes ++ rest) hleft
    have hsecond := ihr (above ++ [turn]) true rightCodes rest hright
    rw [zipWith_places_node fill right (above ++ [turn]) code rightCodes hleft,
      lineShowing_under]
    simp only [branchLines, List.cons_append, List.append_assoc, List.tail_cons, hdeeper,
      hfirst, hsecond]
    rfl

/-- Every line of the drawing shows the number at its position in the list of
codes. -/
theorem drawingLines_eq_zipWith :
    t.drawingLines fill = List.zipWith (Place.lineShowing fill) t.places t.codeList := by
  cases t with
  | empty => rfl
  | node left right =>
    have hfirst := branchLines_append fill left [] false left.codeList right.codeList
      left.length_codeList
    have hsecond := branchLines_append fill right [] true right.codeList []
      right.length_codeList
    rw [List.flatMap_nil] at hfirst hsecond
    rw [List.append_nil] at hsecond
    rw [← Place.map_under_nil (node left right).places, codeList_node,
      zipWith_places_node fill right [] _ right.codeList left.length_codeList]
    simp only [drawingLines, codeList_node, List.tail_cons, hfirst, hsecond]
    rfl

theorem label_code : t.label fill t.code = t.caption fill := by
  cases t with
  | empty => rfl
  | node left right =>
    rw [caption, label, numeral_eq_toDigits]
    rfl

theorem lineShowing_code (place : Place) :
    place.lineShowing fill place.subtree.code = place.line fill := by
  rw [Place.lineShowing, label_code, Place.line]

/-- With the collected codes for numbers, every line shows the code of its own
subtree. -/
theorem zipWith_codeList (above : List Bool) :
    List.zipWith (Place.lineShowing fill) (t.places.map (.under above)) t.codeList
      = t.places.map fun place => (place.under above).line fill := by
  rw [codeList_eq, ← map_subtree_places, List.map_map, List.zipWith_map, List.zipWith_self]
  exact List.map_congr_left fun place _ => lineShowing_code fill (place.under above)

/-- In the drawing of a larger tree, a subtree draws its own lines from its own
codes and hands on the codes behind them. -/
theorem branchLines_codeList (above : List Bool) (turn : Bool) (rest : List Nat) :
    t.branchLines fill (above.flatMap continuation) turn (t.codeList ++ rest)
      = (t.places.map fun place => (place.under (above ++ [turn])).line fill, rest) := by
  rw [branchLines_append fill t above turn t.codeList rest t.length_codeList,
    zipWith_codeList]

theorem drawingLines_eq_map : t.drawingLines fill = t.places.map (Place.line fill) := by
  have hroot := zipWith_codeList fill t []
  rwa [Place.map_under_nil, ← drawingLines_eq_zipWith] at hroot

theorem lineEnd_not_mem_ancestry (path : List Bool) : '\n' ∉ ancestry path := by
  rw [ancestry, List.mem_append, not_or]
  constructor
  · intro h
    obtain ⟨turn, -, hmark⟩ := List.mem_flatMap.mp h
    cases turn <;> revert hmark <;> decide
  · cases path.getLast? with
    | none => decide
    | some turn => cases turn <;> decide

theorem lineEnd_not_mem_caption : '\n' ∉ t.caption fill := by
  cases t with
  | empty =>
    rw [caption]
    decide
  | node left right =>
    rw [caption, ← numeral_eq_toDigits, List.mem_cons, List.mem_cons, not_or, not_or]
    refine ⟨by split <;> decide, by decide, ?_⟩
    intro h
    exact ne_of_isDigit (isDigit_of_mem_numeral h) (by decide) rfl

end Lines

/-- The drawing has exactly one line for each subtree, in pre-order: the places
of a tree are its subtrees with the paths that lead to them, every path once
and in order. A line shows the ancestry of its path and the caption of its
subtree. The codes for it are collected in the same order, as many as there are
lines; a subtree that is drawn finds its own codes in front and leaves exactly
those behind them. -/
theorem drawing_line_of_subtree (fill : Fill) (t : Tree) :
    t.drawing fill = t.places.flatMap (fun place => place.line fill ++ ['\n']) ∧
    (∀ place : Place, '\n' ∉ place.line fill) ∧
    t.places.length = 2 * t.size + 1 ∧
    t.places.map Place.subtree = t.subtrees ∧
    (t.places.map Place.path).Pairwise (· < ·) ∧
    (∀ path u, ⟨path, u⟩ ∈ t.places ↔ t.subtreeAt? path = some u) ∧
    t.drawingLines fill = List.zipWith (Place.lineShowing fill) t.places t.codeList ∧
    t.codeList = t.places.map (fun place => place.subtree.code) ∧
    ∀ above turn rest,
      t.branchLines fill (above.flatMap continuation) turn (t.codeList ++ rest)
        = (t.places.map fun place => (place.under (above ++ [turn])).line fill, rest) := by
  have hlines : t.drawing fill = t.places.flatMap (fun place => place.line fill ++ ['\n']) := by
    rw [drawing, drawingLines_eq_map, List.flatMap_map]
  have hwhole (place : Place) : '\n' ∉ place.line fill := by
    rw [Place.line, List.mem_append, not_or]
    exact ⟨lineEnd_not_mem_ancestry place.path, lineEnd_not_mem_caption fill place.subtree⟩
  have hcodes : t.codeList = t.places.map (fun place => place.subtree.code) := by
    rw [codeList_eq, ← map_subtree_places, List.map_map]
    rfl
  exact ⟨hlines, hwhole, t.length_places, t.map_subtree_places, t.pairwise_path_places,
    t.mem_places, drawingLines_eq_zipWith fill t, hcodes, branchLines_codeList fill t⟩

end TreeCodec.Tree
