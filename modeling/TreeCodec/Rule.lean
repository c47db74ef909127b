import TreeCodec.Pattern.Search

/-!
A backtracking parser as data. A rule takes a state (the text that is left and
the nodes produced so far) to a new state or to failure, which has no cause.
An ordered choice runs each alternative from the same text, and nothing is
shared between attempts.

Rules may refer to declarations by number, so a rule can be used before it is
defined and can refer to itself. A `Store` says what each number stands for;
a reference to a number without a rule fails.

`Rule.applyWith` is the meaning of a rule when the meaning of references is
given, and `Rule.applyWithin` ties the knot a bounded number of times. A run
that needs more is `unfinished`, which is neither a failure nor a success.
`Rule.parse` allows as many nested references as there are pairs of a
declaration and a place in the text: a run that nests deeper has met a
declaration again at the same place and would never end.
-/

namespace TreeCodec

/-- An intermediate result: text that was matched, or a reduced value. -/
inductive Node (α : Type) where
  | terminal (text : List Char)
  | data (value : α)
deriving DecidableEq, Repr

def Node.data? {α : Type} : Node α → Option α
  | terminal _ => none
  | data value => some value

def Node.terminal? {α : Type} : Node α → Option (List Char)
  | terminal text => some text
  | data _ => none

/-- The text that is left, and the nodes produced so far. -/
structure State (α : Type) where
  rest : List Char
  done : List (Node α)
deriving DecidableEq, Repr

namespace State

variable {α : Type}

/-- At the beginning of a text, with nothing produced. -/
def start (text : List Char) : State α := ⟨text, []⟩

def push (s : State α) (rest : List Char) (node : Node α) : State α :=
  ⟨rest, s.done ++ [node]⟩

/-- Goes on with what a run that began at `s.rest` on its own has produced. If
nothing was produced before, that is the whole state. -/
def absorb (s produced : State α) : State α :=
  if s.done.isEmpty then produced
  else ⟨produced.rest, s.done ++ produced.done⟩

/-- Both cases put what was produced before in front. -/
theorem absorb_eq (s produced : State α) :
    s.absorb produced = ⟨produced.rest, s.done ++ produced.done⟩ := by
  cases hdone : s.done with
  | nil => simp [absorb, hdone]
  | cons node nodes => simp [absorb, hdone]

end State

inductive Outcome (α : Type) where
  | unfinished
  | failed
  | parsed (s : State α)
deriving DecidableEq, Repr

namespace Outcome

variable {α : Type}

def bind (o : Outcome α) (next : State α → Outcome α) : Outcome α :=
  match o with
  | unfinished => unfinished
  | failed => failed
  | parsed s => next s

def map (o : Outcome α) (f : State α → State α) : Outcome α :=
  o.bind fun s => parsed (f s)

/-- The second run happens only after the first one has failed. -/
def orElse (o : Outcome α) (other : Unit → Outcome α) : Outcome α :=
  match o with
  | unfinished => unfinished
  | failed => other ()
  | parsed s => parsed s

end Outcome

inductive Rule (α : Type) where
  | literal (text : List Char)
  /-- The leftmost match of the pattern, if it begins here. -/
  | pattern (p : Pattern)
  | epsilon
  | never
  | andThen (first second : Rule α)
  /-- The second rule, from the same place, if the first one fails. -/
  | orElse (first second : Rule α)
  /-- Replaces the nodes of a rule by one value. -/
  | map (rule : Rule α) (reduce : List (Node α) → α)
  /-- As `map`, but fails where there is no value. -/
  | tryMap (rule : Rule α) (reduce : List (Node α) → Option α)
  | discard (rule : Rule α)
  /-- The rule that a declaration stands for when the reference is run. -/
  | reference (declaration : Nat)

namespace Rule

variable {α : Type}

def sequence (rules : List (Rule α)) : Rule α :=
  rules.foldl andThen epsilon

/-- The first of the rules that succeeds, all from the same place. -/
def choice (rules : List (Rule α)) : Rule α :=
  rules.foldl orElse never

/-- A run of a rule from a state, where `resolve` runs the references. -/
def applyWith (resolve : Nat → State α → Outcome α) :
    Rule α → State α → Outcome α
  | literal text, s =>
    match text.isPrefixOf? s.rest with
    | some rest => .parsed (s.push rest (.terminal text))
    | none => .failed
  | pattern p, s =>
    match p.find s.rest with
    | some found =>
      if found.before.isEmpty then
        .parsed (s.push found.after (.terminal found.text))
      else .failed
    | none => .failed
  | epsilon, s => .parsed s
  | never, _ => .failed
  | andThen first second, s =>
    (first.applyWith resolve s).bind fun s => second.applyWith resolve s
  | orElse first second, s =>
    ((first.applyWith resolve (.start s.rest)).orElse fun _ =>
      second.applyWith resolve (.start s.rest)).map s.absorb
  | map rule reduce, s =>
    (rule.applyWith resolve (.start s.rest)).map fun produced =>
      s.push produced.rest (.data (reduce produced.done))
  | tryMap rule reduce, s =>
    (rule.applyWith resolve (.start s.rest)).bind fun produced =>
      match reduce produced.done with
      | some value => .parsed (s.push produced.rest (.data value))
      | none => .failed
  | discard rule, s =>
    (rule.applyWith resolve (.start s.rest)).map fun produced =>
      ⟨produced.rest, s.done⟩
  | reference declaration, s => resolve declaration s

end Rule

/-- The life of a declaration: it may be given a rule once, and it may be
dropped. -/
inductive Declaration (α : Type) where
  | undefined
  | defined (rule : Rule α)
  | dropped

/-- The declarations made so far, each known by its position. -/
structure Store (α : Type) where
  declarations : List (Declaration α)

namespace Store

variable {α : Type}

def empty : Store α := ⟨[]⟩

def nextDeclaration (store : Store α) : Nat :=
  store.declarations.length

def declare (store : Store α) : Store α :=
  ⟨store.declarations ++ [.undefined]⟩

/-- The rule of a declaration that is defined and has not been dropped. -/
def rule? (store : Store α) (declaration : Nat) : Option (Rule α) :=
  match store.declarations[declaration]? with
  | some (.defined rule) => some rule
  | _ => none

def isDefined (store : Store α) (declaration : Nat) : Bool :=
  (store.rule? declaration).isSome

/-- Gives an undefined declaration its rule. A declaration that has a rule
already, or has been dropped, refuses the rule and hands it back. -/
def define (store : Store α) (declaration : Nat) (rule : Rule α) :
    Except (Rule α) (Store α) :=
  match store.declarations[declaration]? with
  | some .undefined => .ok ⟨store.declarations.set declaration (.defined rule)⟩
  | _ => .error rule

/-- The store after an attempt to define, be it refused or not. -/
def tryDefine (store : Store α) (declaration : Nat) (rule : Rule α) : Store α :=
  match store.define declaration rule with
  | .ok store => store
  | .error _ => store

/-- Ends a declaration; references to it fail from now on. -/
def drop (store : Store α) (declaration : Nat) : Store α :=
  ⟨store.declarations.set declaration .dropped⟩

def recursive (store : Store α) (build : Rule α → Rule α) : Store α :=
  ⟨store.declarations ++ [.defined (build (.reference store.nextDeclaration))]⟩

end Store

namespace Rule

variable {α : Type}

/-- A run in which references nest at most `depth` levels. -/
def applyWithin (store : Store α) : (depth : Nat) → Rule α → State α → Outcome α
  | 0, rule, s => rule.applyWith (fun _ _ => .unfinished) s
  | depth + 1, rule, s =>
    rule.applyWith
      (fun declaration s =>
        match store.rule? declaration with
        | some rule => rule.applyWithin store depth s
        | none => .failed)
      s

def parse (store : Store α) (rule : Rule α) (s : State α) : Outcome α :=
  rule.applyWithin store
    (store.declarations.length * (s.rest.length + 1)) s

def runOn (store : Store α) (rule : Rule α) (text : List Char) : Outcome α :=
  rule.parse store (.start text)

end Rule

end TreeCodec
