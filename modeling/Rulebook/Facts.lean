import Rulebook.Error

/-!
# Facts

The facts are supplied afresh for every evaluation and never change during it.
A fact is missing when it has no value or the null value; both look the same to
every rule.  A fact that is present must have the kind that is asked for.
-/

namespace Rulebook

/-- The values that one evaluation runs against, by the name of the fact. -/
abbrev Facts :=
  NameMap Value

namespace Facts

/-- Whether a fact is absent or explicitly null. -/
def isMissing (facts : Facts) (name : String) : Bool :=
  match facts.get? name with
  | some value => value.isNull
  | none => true

/-- The kind of a fact, if it is not missing. -/
def kind? (facts : Facts) (name : String) : Option ValueKind :=
  (facts.get? name).bind Value.kind

/-- The resolved value of a fact that is expected to be of a kind, and nothing
for a missing fact. -/
def resolve (facts : Facts) (name : String) (expected : ValueKind) :
    Except EvalError (Option Resolved) :=
  match facts.get? name with
  | none => .ok none
  | some value =>
      match value.kind with
      | none => .ok none
      | some found =>
          if found = expected then
            .ok value.resolved?
          else
            .error (.typeMismatch name expected found)

end Facts

end Rulebook
