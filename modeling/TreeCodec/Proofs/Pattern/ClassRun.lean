import TreeCodec.Proofs.Pattern.Exploration

/-!
What a greedy repetition of one class finds at the start of a text: the longest
run of characters of the class. The program of such a pattern is a loop of two
instructions, a fork at address 1 and a reading instruction at address 2, with
an entry of its own. Following the loop is one statement about every program
that has it; the entries then differ only in whether a match may end before the
first character.
-/

namespace TreeCodec.Pattern

namespace Program

variable {program : Program} {place : Place} {rounds : Nat} {f : Frontier}

/-- A program with a greedy loop over a class at addresses 1 and 2 that leaves
to an accepting instruction at address 0. -/
structure HasLoop (program : Program) (cls : CharClass) : Prop where
  accept : program[0]? = some .accept
  fork : program[1]? = some (.fork 2 0)
  read : program[2]? = some (.read cls 1)

namespace HasLoop

variable {cls : CharClass}

/-- Entered at the fork, the loop waits for a character of the class and would
accept here. -/
theorem explore_eq (h : program.HasLoop cls)
    (h0 : f.visited.contains 0 = false) (h1 : f.visited.contains 1 = false)
    (h2 : f.visited.contains 2 = false) :
    program.explore place (rounds + 3) [1] f
      = ((((f.visit 1).visit 2).wait cls 1).visit 0).accept := by
  rw [explore_fork h1 h.fork, explore_read ?_ h.read, explore_accept ?_ h.accept]
  · simp [Frontier.visit, Frontier.wait, AddressSet.contains_insert, h0]
  · simp [Frontier.visit, AddressSet.contains_insert, h2]

theorem three_le_size (h : program.HasLoop cls) : 3 ≤ program.size := by
  obtain ⟨hsize, -⟩ := Array.getElem?_eq_some_iff.mp h.read
  omega

end HasLoop

end Program

/-- Where the only way that waits is the loop over a class, the ways behind a
character are the loop again or none. -/
theorem Frontier.after_loop {f : Frontier} {cls : CharClass} (c : Char)
    (h : f.reading = [(cls, 1)]) :
    f.after c = if cls.contains c then [1] else [] := by
  simp [Frontier.after, h]

/-- Inside the loop the match goes on as long as the characters are of the
class. -/
theorem Program.HasLoop.restFrom? {program : Program} {cls : CharClass}
    (h : program.HasLoop cls) (text : List Char) :
    program.restFrom? false [1] text = some (text.dropWhile cls.contains) := by
  obtain ⟨rounds, hrounds⟩ := Nat.exists_eq_add_of_le' h.three_le_size
  induction text with
  | nil =>
    rw [Program.restFrom?, hrounds, h.explore_eq rfl rfl rfl]
    rfl
  | cons c rest ih =>
    rw [Program.restFrom?, hrounds, h.explore_eq rfl rfl rfl,
      Frontier.after_loop c rfl]
    by_cases hc : cls.contains c
    · simp [hc, ih]
    · simp [hc, Frontier.accept]

section

variable {cls : CharClass}

theorem program_anyRun (h : cls.ranges ≠ []) :
    program (append startOfText (repeated true 0 none (oneOf cls)))
      = #[.accept, .fork 2 0, .read cls 1, .jump 1, .ifStart 3] := by
  simp [program, writeTo, readsAlways, shortest?, size, roundOr, Program.entry, h]

/-- A run of at least one character enters the loop where it reads. -/
theorem program_someRun :
    program (append startOfText (repeated true 1 none (oneOf cls)))
      = #[.accept, .fork 2 0, .read cls 1, .ifStart 2] := by
  simp [program, writeTo, size, roundOr, Program.entry, Nat.repeat]

theorem restAfter?_anyRun (h : cls.ranges ≠ []) (text : List Char) :
    (program (append startOfText (repeated true 0 none (oneOf cls)))).restAfter?
        true text
      = some (text.dropWhile cls.contains) := by
  rw [program_anyRun h, Program.restAfter?]
  have hloop : Program.HasLoop
      #[.accept, .fork 2 0, .read cls 1, .jump 1, .ifStart 3] cls :=
    ⟨rfl, rfl, rfl⟩
  have hexplore (atEnd : Bool) :
      Program.explore #[.accept, .fork 2 0, .read cls 1, .jump 1, .ifStart 3]
          ⟨true, atEnd⟩ 5 [4] .initial
        = ((((((Frontier.initial.visit 4).visit 3).visit 1).visit 2).wait
            cls 1).visit 0).accept := by
    rw [Program.explore_ifStart rfl rfl rfl, Program.explore_jump rfl rfl,
      hloop.explore_eq rfl rfl rfl]
  cases text with
  | nil =>
    rw [Program.restFrom?]
    exact congrArg (fun f : Frontier => if f.accepted then some [] else none)
      (hexplore true)
  | cons c rest =>
    rw [Program.restFrom?]
    simp only [Program.entry, List.size_toArray, List.length_cons, List.length_nil,
      List.isEmpty_cons]
    rw [hexplore, Frontier.after_loop c rfl]
    by_cases hc : cls.contains c
    · simp [hc, hloop.restFrom?]
    · simp [hc, Frontier.accept]

theorem restAfter?_someRun (text : List Char) :
    (program (append startOfText (repeated true 1 none (oneOf cls)))).restAfter?
        true text
      = if text.takeWhile cls.contains = [] then none
        else some (text.dropWhile cls.contains) := by
  rw [program_someRun, Program.restAfter?]
  have hloop : Program.HasLoop
      #[.accept, .fork 2 0, .read cls 1, .ifStart 2] cls :=
    ⟨rfl, rfl, rfl⟩
  have hexplore (atEnd : Bool) :
      Program.explore #[.accept, .fork 2 0, .read cls 1, .ifStart 2]
          ⟨true, atEnd⟩ 4 [3] .initial
        = ((Frontier.initial.visit 3).visit 2).wait cls 1 := by
    rw [Program.explore_ifStart rfl rfl rfl, Program.explore_read rfl rfl,
      Program.explore_nil]
  cases text with
  | nil =>
    rw [Program.restFrom?]
    exact congrArg (fun f : Frontier => if f.accepted then some [] else none)
      (hexplore true)
  | cons c rest =>
    rw [Program.restFrom?]
    simp only [Program.entry, List.size_toArray, List.length_cons, List.length_nil,
      List.isEmpty_cons]
    rw [hexplore, Frontier.after_loop c rfl]
    by_cases hc : cls.contains c
    · simp [hc, hloop.restFrom?]
    · simp [hc, Frontier.wait, Frontier.visit, Frontier.initial]

theorem take_length_sub_dropWhile (isInside : Char → Bool) (text : List Char) :
    text.take (text.length - (text.dropWhile isInside).length)
      = text.takeWhile isInside := by
  have hparts : text.takeWhile isInside ++ text.dropWhile isInside = text :=
    List.takeWhile_append_dropWhile
  have hlength : text.length - (text.dropWhile isInside).length
      = (text.takeWhile isInside).length := by
    have := congrArg List.length hparts
    rw [List.length_append] at this
    omega
  calc text.take (text.length - (text.dropWhile isInside).length)
      = (text.takeWhile isInside ++ text.dropWhile isInside).take
          (text.takeWhile isInside).length := by rw [hlength, hparts]
    _ = text.takeWhile isInside := List.take_left

/-- A greedy repetition at the start finds the longest run, be it empty. -/
theorem find_anyRun (cls : CharClass) (h : cls.ranges ≠ []) (text : List Char) :
    find (append startOfText (repeated true 0 none (oneOf cls))) text
      = some ⟨[], text.takeWhile cls.contains, text.dropWhile cls.contains⟩ := by
  simp only [find, demandsStart, ↓reduceIte, Program.foundAt?, List.isEmpty_nil,
    restAfter?_anyRun h, Option.map_some, List.reverse_nil,
    take_length_sub_dropWhile]

/-- With at least one round demanded it fails where the run is empty, and finds
the longest run anywhere else. -/
theorem find_someRun (cls : CharClass) (text : List Char) :
    find (append startOfText (repeated true 1 none (oneOf cls))) text
      = if text.takeWhile cls.contains = [] then none
        else some ⟨[], text.takeWhile cls.contains,
          text.dropWhile cls.contains⟩ := by
  simp only [find, demandsStart, ↓reduceIte, Program.foundAt?, List.isEmpty_nil,
    restAfter?_someRun, List.reverse_nil]
  split
  · rfl
  · simp only [Option.map_some, take_length_sub_dropWhile]

end

end TreeCodec.Pattern
