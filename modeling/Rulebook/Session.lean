import Rulebook.Document.Decode
import Rulebook.Draft.Build

/-!
# Sessions

A session keeps the rules that were defined by name, the facts that are
supplied at present, and the next free number of a rule object.  A definition
replaces an earlier one of the same name, but rules that embed the earlier rule
keep it.  What fails leaves the session as it was.
-/

namespace Rulebook

/-- The state that a sequence of requests shares. -/
structure Session where
  definitions : Definitions
  facts : Facts
  nextNumber : Nat

namespace Session

/-- The session without definitions and without facts. -/
def empty : Session :=
  ⟨.empty, .empty, 0⟩

/-- Run a computation that makes rule objects. -/
def run {ε α : Type} (session : Session) (computation : Numbering ε α) :
    Except ε (α × Session) := do
  let (result, next) ← computation.run session.nextNumber
  return (result, { session with nextNumber := next })

/-- Keep a rule object under a name. -/
def define (session : Session) (name : String) (object : RuleObject) :
    Session :=
  { session with definitions := session.definitions.insert name object }

def withFacts (session : Session) (facts : Facts) : Session :=
  { session with facts := facts }

def defineDraft (session : Session) (name : String) (draft : RuleDraft) :
    Except BuildError (RuleObject × Session) := do
  let (object, session) ← session.run (draft.build session.definitions)
  return (object, session.define name object)

def defineDocument (session : Session) (name : String) (document : Document) :
    Except DecodeError (RuleObject × Session) := do
  let (object, session) ← session.run do
    let rule ← Rule.decode document
    return (⟨← Numbering.fresh, rule⟩ : RuleObject)
  return (object, session.define name object)

end Session

end Rulebook
