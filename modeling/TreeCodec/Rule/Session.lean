import TreeCodec.Rule.Written

/-!
A session with named declarations and named rules, step by step. A step that
names no live declaration is refused before anything else is looked at, and a
step whose rule cannot be built changes nothing.
-/

namespace TreeCodec

/-- The store, and what the names mean in it. -/
structure Session where
  store : TextStore
  scope : Scope

def Session.initial : Session := ⟨.empty, ⟨[], []⟩⟩

inductive Step where
  /-- A fresh declaration; one of the same name is dropped. -/
  | declare (name : String)
  /-- Binds a name to a rule that is built now. -/
  | bindRule (name : String) (rule : WrittenRule)
  /-- Defines a declaration; a refused rule may be run on a probe. -/
  | define (name : String) (rule : WrittenRule) (probe : Option (List Char))
  | isDefined (name : String)
  | drop (name : String)
  | describeDeclaration (name : String)
  | describeRule (rule : WrittenRule)
  | parse (rule : WrittenRule) (state : State (List Char))
  | parseDeclaration (name : String) (state : State (List Char))

inductive Answer where
  | declared
  | bound
  | defined
  | refused (probed : Option (Outcome (List Char)))
  | isDefined (answer : Bool)
  | dropped
  | described (text : String)
  | parsed (outcome : Outcome (List Char))
  | unknownName
  | notBuilt (cause : BuildError)

namespace Session

def declaration? (session : Session) (name : String) : Option Nat :=
  session.scope.declared.lookup name

def drop (session : Session) (name : String) : Session :=
  match session.declaration? name with
  | none => session
  | some declaration =>
    { store := session.store.drop declaration
      scope :=
        { session.scope with
          declared := session.scope.declared.filter (·.1 != name) } }

def declare (session : Session) (name : String) : Session :=
  let session := session.drop name
  { store := session.store.declare
    scope :=
      { session.scope with
        declared :=
          (name, session.store.nextDeclaration) :: session.scope.declared } }

/-- Builds a rule and goes on with it, unless it cannot be built. -/
def building (session : Session) (rule : WrittenRule)
    (next : Session → Rule (List Char) → Session × Answer) : Session × Answer :=
  match (rule.build session.scope).run session.store with
  | .error cause => (session, .notBuilt cause)
  | .ok (rule, store) => next { session with store } rule

/-- Goes on with the declaration of a name, unless there is none. -/
def naming (session : Session) (name : String)
    (next : Nat → Session × Answer) : Session × Answer :=
  match session.declaration? name with
  | none => (session, .unknownName)
  | some declaration => next declaration

def describe (session : Session) (declaration : Nat) : String :=
  "Recursive \x7b defined: "
    ++ (if session.store.isDefined declaration then "true" else "false")
    ++ " \x7d"

def ruleDescription : String := "Rule \x7b .. \x7d"

def defineAs (session : Session) (declaration : Nat) (rule : Rule (List Char))
    (probe : Option (List Char)) : Session × Answer :=
  match session.store.define declaration rule with
  | .ok store => ({ session with store }, .defined)
  | .error refused =>
    (session,
      .refused (probe.map fun text => refused.runOn session.store text))

/-- The session after a step, and the answer. -/
def step (session : Session) : Step → Session × Answer
  | .declare name => (session.declare name, .declared)
  | .bindRule name rule =>
    session.building rule fun session rule =>
      ({ session with scope := session.scope.bind name rule }, .bound)
  | .define name rule probe =>
    session.naming name fun declaration =>
      session.building rule fun session rule =>
        session.defineAs declaration rule probe
  | .isDefined name =>
    session.naming name fun declaration =>
      (session, .isDefined (session.store.isDefined declaration))
  | .drop name =>
    session.naming name fun _ => (session.drop name, .dropped)
  | .describeDeclaration name =>
    session.naming name fun declaration =>
      (session, .described (session.describe declaration))
  | .describeRule rule =>
    session.building rule fun session _ =>
      (session, .described ruleDescription)
  | .parse rule state =>
    session.building rule fun session rule =>
      (session, .parsed (rule.parse session.store state))
  | .parseDeclaration name state =>
    session.naming name fun declaration =>
      (session,
        .parsed ((Rule.reference declaration).parse session.store state))

def answers (session : Session) : List Step → List Answer
  | [] => []
  | s :: rest => (session.step s).2 :: (session.step s).1.answers rest

end Session

/-- A written rule without names around it, run from a state. -/
def WrittenRule.parse (rule : WrittenRule) (state : State (List Char)) :
    Except BuildError (Outcome (List Char)) := do
  let (rule, store) ← (rule.build ⟨[], []⟩).run .empty
  return rule.parse store state

end TreeCodec
