import Mathlib.Data.Finset.Card
import Mathlib.Data.Finset.Range
import Mathlib.Data.List.TakeWhile
import TreeCodec.Pattern.Search

/-!
What the exploration of a program depends on. A program is closed if no
instruction leads out of it. As many rounds as there are addresses that have
not been visited are enough for a closed program, and an instruction added at
its end is never met by the ways that begin below it. So a demand for the start
in front of a program changes nothing where the text starts.

Away from the start, an address is shut if every way from it comes to a demand
for the start. Nothing is found from such an address.
-/

namespace TreeCodec.Pattern

namespace AddressSet

@[simp]
theorem contains_empty (address : Nat) : empty.contains address = false := by
  simp [contains, empty]

end AddressSet

/-- Where an instruction may lead, whatever the place. -/
def Instruction.targets : Instruction → List Nat
  | .accept => []
  | .read _ next | .ifStart next | .ifEnd next | .jump next => [next]
  | .fork first second => [first, second]

theorem Instruction.mem_targets_of_mem_ways {place : Place} {i : Instruction}
    {address : Nat} (h : address ∈ i.ways place) : address ∈ i.targets := by
  cases i with
  | accept | read => cases h
  | ifStart | ifEnd =>
    rw [ways] at h
    split at h
    · exact h
    · cases h
  | jump | fork => exact h

namespace Frontier

/-- What a visit of an instruction that does not accept leaves behind. -/
def record (f : Frontier) (address : Nat) : Instruction → Frontier
  | .read cls next => (f.visit address).wait cls next
  | _ => f.visit address

theorem visited_record (f : Frontier) (address : Nat) (i : Instruction) :
    (f.record address i).visited = f.visited.insert address := by
  cases i <;> rfl

/-- The addresses below the bound that have not been visited. -/
def unvisited (f : Frontier) (bound : Nat) : Finset Nat :=
  (Finset.range bound).filter fun address => f.visited.contains address = false

theorem mem_unvisited {f : Frontier} {bound address : Nat} :
    address ∈ f.unvisited bound ↔
      address < bound ∧ f.visited.contains address = false := by
  rw [unvisited, Finset.mem_filter, Finset.mem_range]

theorem card_unvisited_le (f : Frontier) (bound : Nat) :
    (f.unvisited bound).card ≤ bound :=
  (Finset.card_filter_le _ _).trans_eq (Finset.card_range bound)

/-- Where an address is left to visit, there is a round for it. -/
theorem exists_round {f : Frontier} {bound address rounds : Nat}
    (hnew : address ∈ f.unvisited bound)
    (hrounds : (f.unvisited bound).card ≤ rounds) :
    ∃ others, rounds = others + 1 :=
  Nat.exists_eq_add_one.mpr ((Finset.card_pos.mpr ⟨address, hnew⟩).trans_le hrounds)

/-- A round takes its address out of those that have not been visited. -/
theorem card_unvisited_record {f : Frontier} {bound address rounds : Nat}
    {i : Instruction} (hnew : address ∈ f.unvisited bound)
    (hrounds : (f.unvisited bound).card ≤ rounds + 1) :
    ((f.record address i).unvisited bound).card ≤ rounds := by
  have herase : (f.record address i).unvisited bound
      = (f.unvisited bound).erase address := by
    ext other
    rw [Finset.mem_erase, mem_unvisited, mem_unvisited, visited_record,
      AddressSet.contains_insert, Bool.or_eq_false_iff, decide_eq_false_iff_not]
    tauto
  rw [herase, Finset.card_erase_of_mem hnew]
  omega

/-- Two frontiers differ at most in what was visited from the bound on. -/
structure SameBelow (bound : Nat) (f g : Frontier) : Prop where
  visited : ∀ address < bound,
    f.visited.contains address = g.visited.contains address
  reading : f.reading = g.reading
  accepted : f.accepted = g.accepted

namespace SameBelow

variable {bound : Nat} {f g : Frontier}

theorem refl (f : Frontier) : f.SameBelow bound f :=
  ⟨fun _ _ => rfl, rfl, rfl⟩

theorem visit (h : f.SameBelow bound g) (address : Nat) :
    (f.visit address).SameBelow bound (g.visit address) where
  visited := by
    intro other hother
    simp only [Frontier.visit, AddressSet.contains_insert, h.visited other hother]
  reading := h.reading
  accepted := h.accepted

theorem record (h : f.SameBelow bound g) (address : Nat) (i : Instruction) :
    (f.record address i).SameBelow bound (g.record address i) := by
  cases i with
  | read cls next =>
    obtain ⟨hvisited, hreading, haccepted⟩ := h.visit address
    exact ⟨hvisited, congrArg ((cls, next) :: ·) hreading, haccepted⟩
  | accept | ifStart | ifEnd | jump | fork => exact h.visit address

theorem all_visited (h : f.SameBelow bound g) {todo : List Nat}
    (htodo : ∀ address ∈ todo, address < bound)
    (hvisited : ∀ address ∈ todo, g.visited.contains address) :
    ∀ address ∈ todo, f.visited.contains address := by
  intro address haddress
  rw [h.visited address (htodo address haddress)]
  exact hvisited address haddress

theorem after (h : f.SameBelow bound g) (c : Char) : f.after c = g.after c := by
  rw [Frontier.after, h.reading, Frontier.after]

/-- What was visited from the bound on makes no difference. -/
theorem visit_left (h : f.SameBelow bound g) {address : Nat}
    (haddress : bound ≤ address) : (f.visit address).SameBelow bound g where
  visited := by
    intro other hother
    have hne : address ≠ other := by omega
    rw [Frontier.visit, AddressSet.contains_insert, decide_eq_false hne,
      Bool.or_false, h.visited other hother]
  reading := h.reading
  accepted := h.accepted

end SameBelow

/-- The ways behind a character go on where the frontier waits. -/
theorem forall_mem_after {f : Frontier} {P : Nat → Prop}
    (h : ∀ way ∈ f.reading, P way.2) (c : Char) :
    ∀ address ∈ f.after c, P address := by
  apply List.foldlRecOn
    (motive := fun addresses => ∀ address ∈ addresses, P address)
  · exact fun _ => nofun
  · intro addresses haddresses way hway
    split
    · exact List.forall_mem_cons.mpr ⟨h way hway, haddresses⟩
    · exact haddresses

end Frontier

namespace Program

variable {program : Program} {place : Place} {rounds address : Nat}
variable {todo : List Nat} {f : Frontier}

theorem entry_push (program : Program) (i : Instruction) :
    Program.entry (program.push i) = program.size := by
  rw [Program.entry, Array.size_push, Nat.add_one_sub_one]

/-- Of an address that has not been visited, the instruction decides how the
exploration goes on. -/
theorem explore_accept (hnew : f.visited.contains address = false)
    (hat : program[address]? = some .accept) :
    program.explore place (rounds + 1) (address :: todo) f
      = (f.visit address).accept := by
  simp [explore, hnew, hat]

theorem explore_read {cls : CharClass} {next : Nat}
    (hnew : f.visited.contains address = false)
    (hat : program[address]? = some (.read cls next)) :
    program.explore place (rounds + 1) (address :: todo) f
      = program.explore place rounds todo ((f.visit address).wait cls next) := by
  simp [explore, hnew, hat]

theorem explore_fork {first second : Nat}
    (hnew : f.visited.contains address = false)
    (hat : program[address]? = some (.fork first second)) :
    program.explore place (rounds + 1) (address :: todo) f
      = program.explore place rounds (first :: second :: todo)
          (f.visit address) := by
  simp [explore, hnew, hat, Instruction.ways]

theorem explore_jump {next : Nat} (hnew : f.visited.contains address = false)
    (hat : program[address]? = some (.jump next)) :
    program.explore place (rounds + 1) (address :: todo) f
      = program.explore place rounds (next :: todo) (f.visit address) := by
  simp [explore, hnew, hat, Instruction.ways]

theorem explore_ifStart {next : Nat}
    (hnew : f.visited.contains address = false)
    (hat : program[address]? = some (.ifStart next))
    (hstart : place.atStart = true) :
    program.explore place (rounds + 1) (address :: todo) f
      = program.explore place rounds (next :: todo) (f.visit address) := by
  simp [explore, hnew, hat, Instruction.ways, hstart]

theorem explore_nil : program.explore place rounds [] f = f := by
  cases rounds <;> simp [explore]

/-- A round looks at the first address that has not been visited. -/
theorem all_visited_or_next (f : Frontier) (todo : List Nat) :
    (∀ address ∈ todo, f.visited.contains address) ∨
      ∃ passed address others, todo = passed ++ address :: others ∧
        (∀ address ∈ passed, f.visited.contains address) ∧
        f.visited.contains address = false := by
  cases hnext : todo.dropWhile f.visited.contains with
  | nil => exact .inl (List.dropWhile_eq_nil_iff.mp hnext)
  | cons address others =>
    refine .inr ⟨todo.takeWhile f.visited.contains, address, others, ?_, ?_, ?_⟩
    · rw [← hnext, List.takeWhile_append_dropWhile]
    · exact fun _ => List.mem_takeWhile_imp
    · have hhead := List.head?_dropWhile_not f.visited.contains todo
      rwa [hnext] at hhead

theorem explore_of_all_visited
    (h : ∀ address ∈ todo, f.visited.contains address) :
    program.explore place rounds todo f = f := by
  cases rounds with
  | zero => rfl
  | succ rounds => rw [explore, List.dropWhile_eq_nil_iff.mpr h]

section Round

variable {passed others : List Nat} {i : Instruction}

/-- A round that comes to an accepting instruction is the last one. -/
theorem explore_next_accept
    (hpassed : ∀ address ∈ passed, f.visited.contains address)
    (hnew : f.visited.contains address = false)
    (hat : program[address]? = some .accept) :
    program.explore place (rounds + 1) (passed ++ address :: others) f
      = (f.visit address).accept := by
  rw [explore, List.dropWhile_append_of_pos hpassed,
    List.dropWhile_cons_of_neg (by simp [hnew])]
  simp only [hat]

/-- A round that comes to any other instruction goes on with its ways. -/
theorem explore_next
    (hpassed : ∀ address ∈ passed, f.visited.contains address)
    (hnew : f.visited.contains address = false)
    (hat : program[address]? = some i) (hi : i ≠ .accept) :
    program.explore place (rounds + 1) (passed ++ address :: others) f
      = program.explore place rounds (i.ways place ++ others)
          (f.record address i) := by
  rw [explore, List.dropWhile_append_of_pos hpassed,
    List.dropWhile_cons_of_neg (by simp [hnew])]
  simp only [hat]
  cases i with
  | accept => exact absurd rfl hi
  | read | ifStart | ifEnd | jump | fork => rfl

end Round

/-- Every instruction leads below the bound. -/
def StaysBelow (program : Program) (bound : Nat) : Prop :=
  ∀ i ∈ program, ∀ address ∈ i.targets, address < bound

/-- No instruction leads out of the program. -/
def Closed (program : Program) : Prop :=
  program.StaysBelow program.size

/-- The ways from an instruction lead below the bound as well. -/
theorem StaysBelow.ways {bound : Nat} {i : Instruction}
    (h : program.StaysBelow bound) (hat : program[address]? = some i) :
    ∀ next ∈ i.ways place, next < bound :=
  fun next hnext =>
    h i (Array.mem_of_getElem? hat) next (Instruction.mem_targets_of_mem_ways hnext)

/-- The frontier waits only below the bound. -/
theorem StaysBelow.explore {bound : Nat} (h : program.StaysBelow bound)
    (hwaits : ∀ way ∈ f.reading, way.2 < bound) :
    ∀ way ∈ (program.explore place rounds todo f).reading, way.2 < bound := by
  fun_induction Program.explore program place rounds todo f with
  | case1 | case2 | case4 => exact hwaits
  | case3 f rounds todo address others hnext hat ih => exact ih hwaits
  | case6 f rounds todo address others hnext i haccept hread hat ih =>
    exact ih hwaits
  | case5 todo f rounds address others hrest cls next hat ih =>
    apply ih
    have hbelow : next < bound :=
      h _ (Array.mem_of_getElem? hat) next (List.mem_singleton_self next)
    exact List.forall_mem_cons.mpr ⟨hbelow, hwaits⟩

section Push

variable (hclosed : program.Closed) (last : Instruction)

include hclosed

/-- An instruction at the end of a closed program, more rounds than enough and
visits of addresses outside make no difference. -/
theorem explore_push {rounds' : Nat} {f' : Frontier}
    (htodo : ∀ address ∈ todo, address < program.size)
    (hsame : f'.SameBelow program.size f)
    (hrounds : (f.unvisited program.size).card ≤ rounds)
    (hrounds' : (f'.unvisited program.size).card ≤ rounds') :
    (Program.explore (program.push last) place rounds' todo f').SameBelow
      program.size (program.explore place rounds todo f) := by
  -- Both runs visit the same addresses, so they also end in the same round.
  induction rounds using Nat.strong_induction_on generalizing rounds' todo f f' with
  | h rounds ih =>
  obtain hvisited | ⟨passed, address, others, rfl, hpassed, hnew⟩ :=
    all_visited_or_next f todo
  · rw [explore_of_all_visited hvisited,
      explore_of_all_visited (hsame.all_visited htodo hvisited)]
    exact hsame
  obtain ⟨hbelow, haddress, hothers⟩ :
      (∀ other ∈ passed, other < program.size) ∧ address < program.size ∧
        ∀ other ∈ others, other < program.size := by
    simpa only [List.forall_mem_append, List.forall_mem_cons] using htodo
  have hpassed' := hsame.all_visited hbelow hpassed
  have hnew' : f'.visited.contains address = false :=
    (hsame.visited address haddress).trans hnew
  have hin : address ∈ f.unvisited program.size :=
    Frontier.mem_unvisited.mpr ⟨haddress, hnew⟩
  have hin' : address ∈ f'.unvisited program.size :=
    Frontier.mem_unvisited.mpr ⟨haddress, hnew'⟩
  obtain ⟨rounds, rfl⟩ := Frontier.exists_round hin hrounds
  obtain ⟨rounds', rfl⟩ := Frontier.exists_round hin' hrounds'
  obtain ⟨i, hat⟩ : ∃ i, program[address]? = some i :=
    ⟨_, Array.getElem?_eq_getElem haddress⟩
  have hat' : (program.push last)[address]? = some i := by
    rw [Array.getElem?_push, if_neg (by omega), hat]
  by_cases haccept : i = .accept
  · rw [haccept] at hat hat'
    rw [explore_next_accept hpassed hnew hat, explore_next_accept hpassed' hnew' hat']
    obtain ⟨hvisited, hreading, -⟩ := hsame.visit address
    exact ⟨hvisited, hreading, rfl⟩
  · rw [explore_next hpassed hnew hat haccept,
      explore_next hpassed' hnew' hat' haccept]
    exact ih rounds (Nat.lt_succ_self rounds)
      (List.forall_mem_append.mpr ⟨StaysBelow.ways hclosed hat, hothers⟩)
      (hsame.record address i) (Frontier.card_unvisited_record hin hrounds)
      (Frontier.card_unvisited_record hin' hrounds')

/-- The added instruction makes no difference to what is left of a text if it
makes none to the first exploration. -/
theorem restFrom?_push_of_sameBelow {todo' : List Nat} {atStart : Bool}
    {text : List Char}
    (h : (Program.explore (program.push last) ⟨atStart, text.isEmpty⟩
        (program.size + 1) todo' .initial).SameBelow program.size
      (program.explore ⟨atStart, text.isEmpty⟩ program.size todo .initial)) :
    Program.restFrom? (program.push last) atStart todo' text
      = program.restFrom? atStart todo text := by
  induction text generalizing atStart todo todo' with
  | nil => rw [restFrom?, restFrom?, Array.size_push, h.accepted]
  | cons c rest ih =>
    have hbelow : ∀ address ∈ (program.explore ⟨atStart, (c :: rest).isEmpty⟩
        program.size todo .initial).after c, address < program.size :=
      Frontier.forall_mem_after
        (StaysBelow.explore hclosed (f := .initial) fun _ => nofun) c
    have hcount := Frontier.card_unvisited_le .initial program.size
    rw [restFrom?, restFrom?, Array.size_push, h.accepted, h.after c]
    cases hafter : (program.explore ⟨atStart, (c :: rest).isEmpty⟩ program.size
        todo .initial).after c with
    | nil => rfl
    | cons address others =>
      rw [hafter] at hbelow
      have hrest : Program.restFrom? (program.push last) false (address :: others)
            rest
          = program.restFrom? false (address :: others) rest :=
        ih (explore_push hclosed last hbelow (.refl .initial) hcount
          (hcount.trans (Nat.le_succ _)))
      simp only [hrest]

/-- An instruction in front of a closed program that only leads to where the
program begins makes no difference. -/
theorem restAfter?_push {atStart : Bool} (hsize : 0 < program.size)
    (hleads : ∀ atEnd,
      Program.explore (program.push last) ⟨atStart, atEnd⟩ (program.size + 1)
          [program.size] .initial
        = Program.explore (program.push last) ⟨atStart, atEnd⟩ program.size
          [program.entry] (Frontier.initial.visit program.size))
    (text : List Char) :
    Program.restAfter? (program.push last) atStart text
      = program.restAfter? atStart text := by
  have hbelow : ∀ address ∈ [program.entry], address < program.size :=
    List.forall_mem_singleton.mpr (Nat.sub_one_lt_of_lt hsize)
  have hcount (f : Frontier) := f.card_unvisited_le program.size
  rw [restAfter?, entry_push]
  apply restFrom?_push_of_sameBelow hclosed
  rw [hleads]
  exact explore_push hclosed _ hbelow (.visit_left (.refl .initial) le_rfl)
    (hcount _) (hcount _)

omit last in
/-- Where the text starts, a demand for the start makes no difference. -/
theorem restAfter?_push_ifStart (hsize : 0 < program.size) (text : List Char) :
    Program.restAfter? (program.push (.ifStart program.entry)) true text
      = program.restAfter? true text :=
  restAfter?_push hclosed _ hsize
    (fun _ => explore_ifStart (AddressSet.contains_empty _)
      Array.getElem?_push_size rfl) text

omit last in
theorem restAfter?_push_jump {atStart : Bool} (hsize : 0 < program.size)
    (text : List Char) :
    Program.restAfter? (program.push (.jump program.entry)) atStart text
      = program.restAfter? atStart text :=
  restAfter?_push hclosed _ hsize
    (fun _ => explore_jump (AddressSet.contains_empty _)
      Array.getElem?_push_size) text

end Push

section Shut

/-- Every way from the address comes to a demand for the start, and to nothing
but forks before it. -/
inductive IsShut (program : Program) : Nat → Prop where
  | ifStart {address next : Nat} (hat : program[address]? = some (.ifStart next)) :
    program.IsShut address
  | fork {address first second : Nat}
    (hat : program[address]? = some (.fork first second))
    (hfirst : program.IsShut first) (hsecond : program.IsShut second) :
    program.IsShut address

theorem IsShut.append (h : program.IsShut address) (added : Program) :
    Program.IsShut (program ++ added) address := by
  have hat {address : Nat} {i : Instruction} (hat : program[address]? = some i) :
      (program ++ added)[address]? = some i := by
    obtain ⟨haddress, -⟩ := Array.getElem?_eq_some_iff.mp hat
    rw [Array.getElem?_append_left haddress, hat]
  induction h with
  | ifStart hstart => exact .ifStart (hat hstart)
  | fork hfork _ _ ihFirst ihSecond => exact .fork (hat hfork) ihFirst ihSecond

/-- A visit of a shut address away from the start leads to shut addresses and
finds nothing. -/
theorem IsShut.next (h : program.IsShut address) :
    ∃ i, program[address]? = some i ∧ i ≠ .accept ∧
      f.record address i = f.visit address ∧
      ∀ atEnd, ∀ other ∈ i.ways ⟨false, atEnd⟩, program.IsShut other := by
  cases h with
  | ifStart hat => exact ⟨_, hat, nofun, rfl, fun _ _ => nofun⟩
  | fork hat hfirst hsecond =>
    refine ⟨_, hat, nofun, rfl, fun _ => ?_⟩
    exact List.forall_mem_cons.mpr ⟨hfirst, List.forall_mem_singleton.mpr hsecond⟩

theorem explore_of_shut {atEnd : Bool}
    (h : ∀ address ∈ todo, program.IsShut address) :
    (program.explore ⟨false, atEnd⟩ rounds todo f).reading = f.reading ∧
      (program.explore ⟨false, atEnd⟩ rounds todo f).accepted = f.accepted := by
  induction rounds generalizing todo f with
  | zero => exact ⟨rfl, rfl⟩
  | succ rounds ih =>
    obtain hvisited | ⟨passed, address, others, rfl, hpassed, hnew⟩ :=
      all_visited_or_next f todo
    · rw [explore_of_all_visited hvisited]
      exact ⟨rfl, rfl⟩
    · obtain ⟨-, haddress, hothers⟩ : (∀ other ∈ passed, program.IsShut other) ∧
          program.IsShut address ∧ ∀ other ∈ others, program.IsShut other := by
        simpa only [List.forall_mem_append, List.forall_mem_cons] using h
      obtain ⟨i, hat, hi, hrecord, hways⟩ := haddress.next (f := f)
      rw [explore_next hpassed hnew hat hi, hrecord]
      exact ih (List.forall_mem_append.mpr ⟨hways atEnd, hothers⟩)

theorem restFrom?_of_shut (h : ∀ address ∈ todo, program.IsShut address)
    (text : List Char) : program.restFrom? false todo text = none := by
  obtain ⟨hreading, haccepted⟩ :
      (program.explore ⟨false, text.isEmpty⟩ program.size todo .initial).reading
          = [] ∧
        (program.explore ⟨false, text.isEmpty⟩ program.size todo .initial).accepted
          = false :=
    explore_of_shut h
  cases text with
  | nil =>
    rw [restFrom?, haccepted]
    rfl
  | cons c rest =>
    rw [restFrom?, haccepted, Frontier.after, hreading]
    rfl

/-- A program that is shut where it begins finds nothing behind the start. -/
theorem findFrom_of_shut (h : program.IsShut program.entry)
    (text : List Char) : program.findFrom [] text = program.foundAt? [] text := by
  have hnone (c : Char) (passed text : List Char) :
      program.foundAt? (c :: passed) text = none := by
    rw [foundAt?, restAfter?, List.isEmpty_cons,
      restFrom?_of_shut (List.forall_mem_singleton.mpr h)]
    rfl
  have hlater (c : Char) (passed text : List Char) :
      program.findFrom (c :: passed) text = none := by
    induction text generalizing c passed with
    | nil => rw [findFrom, hnone]; rfl
    | cons d rest ih =>
      rw [findFrom, hnone]
      exact ih d (c :: passed)
  cases text with
  | nil => rw [findFrom, Option.orElse_eq_or, Option.or_none]
  | cons c rest => rw [findFrom, Option.orElse_eq_or, hlater, Option.or_none]

end Shut

end Program

end TreeCodec.Pattern
