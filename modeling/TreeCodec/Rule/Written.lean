import TreeCodec.Pattern.Expression
import TreeCodec.Rule.Reducer

/-!
Rules as they are written down, with names for declarations and for rules that
are already bound. Building one looks the names up and takes what they mean at
that moment: binding a name again later does not change rules built before.

Building a recursive rule makes a declaration that nothing ever drops.
-/

namespace TreeCodec

inductive WrittenRule where
  | literal (text : List Char)
  /-- A pattern, read as it is or anchored first. -/
  | pattern (anchored : Bool) (expression : List Char)
  | epsilon
  | never
  | sequence (rules : List WrittenRule)
  | choice (rules : List WrittenRule)
  | andThen (first second : WrittenRule)
  | orElse (first second : WrittenRule)
  | map (rule : WrittenRule) (reducer : Reducer)
  | tryMap (rule : WrittenRule) (selector : Selector)
  | discard (rule : WrittenRule)
  /-- A rule in which the name stands for the rule itself. -/
  | recursive (name : String) (rule : WrittenRule)
  | reference (name : String)
  | use (name : String)

inductive BuildError where
  | badPattern (cause : Pattern.ExpressionError)
  | unknownDeclaration (name : String)
  | unknownBinding (name : String)
deriving DecidableEq, Repr

/-- What names mean: declarations, and rules bound to a name, the innermost
binding first. -/
structure Scope where
  declared : List (String × Nat)
  bound : List (String × Rule (List Char))

def Scope.bind (scope : Scope) (name : String) (rule : Rule (List Char)) :
    Scope :=
  { scope with bound := (name, rule) :: scope.bound }

abbrev TextStore := Store (List Char)

/-- A rule with the store that holds the declarations made on the way. -/
abbrev Build (β : Type) := StateT TextStore (Except BuildError) β

def buildPattern (anchored : Bool) (expression : List Char) :
    Except BuildError Pattern :=
  let parsed :=
    if anchored then Pattern.parseAnchored expression
    else Pattern.parse expression
  parsed.mapError .badPattern

mutual

/-- The rule that a written rule stands for. -/
def WrittenRule.build (scope : Scope) : WrittenRule → Build (Rule (List Char))
  | .literal text => pure (.literal text)
  | .pattern anchored expression => do
    return .pattern (← buildPattern anchored expression)
  | .epsilon => pure .epsilon
  | .never => pure .never
  | .sequence rules => do return .sequence (← buildAll scope rules)
  | .choice rules => do return .choice (← buildAll scope rules)
  | .andThen first second => do
    let first ← first.build scope
    let second ← second.build scope
    return .andThen first second
  | .orElse first second => do
    let first ← first.build scope
    let second ← second.build scope
    return .orElse first second
  | .map rule reducer => do
    return .map (← rule.build scope) reducer.reduce
  | .tryMap rule selector => do
    return .tryMap (← rule.build scope) selector.reduce?
  | .discard rule => do return .discard (← rule.build scope)
  | .recursive name rule => do
    let store ← get
    let declaration := store.nextDeclaration
    set store.declare
    let built ← rule.build (scope.bind name (.reference declaration))
    modify fun store => store.tryDefine declaration built
    return .reference declaration
  | .reference name =>
    match scope.declared.lookup name with
    | some declaration => pure (.reference declaration)
    | none => throw (.unknownDeclaration name)
  | .use name =>
    match scope.bound.lookup name with
    | some rule => pure rule
    | none => throw (.unknownBinding name)

def buildAll (scope : Scope) : List WrittenRule → Build (List (Rule (List Char)))
  | [] => pure []
  | rule :: rules => do
    let built ← rule.build scope
    return built :: (← buildAll scope rules)

end

end TreeCodec
