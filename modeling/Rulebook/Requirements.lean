import Rulebook.Facts

/-!
# Requirements

The requirements of a rule name the facts that its caller has to supply, each
with the one kind that it is asked for.  They are collected while the rule is
put together, and `missing` and `check` compare them with given facts without
evaluating the rule.
-/

namespace Rulebook

/-- The facts a rule asks for, with their kinds. -/
abbrev Requirements :=
  NameMap ValueKind

namespace Requirements

/-- Ask for one more fact, which must not be asked for with another kind. -/
def record (requirements : Requirements) (name : String) (kind : ValueKind) :
    Except ConfigError Requirements :=
  match requirements.get? name with
  | none => .ok (requirements.insert name kind)
  | some first =>
      if first = kind then
        .ok requirements
      else
        .error (.conflictingTokenKind name first kind)

/-- Ask for several more facts, one after the other. -/
def recordAll (requirements : Requirements)
    (requests : List (String × ValueKind)) : Except ConfigError Requirements :=
  requests.foldlM
    (fun requirements request => requirements.record request.1 request.2)
    requirements

/-- The names of the required facts that are missing, in increasing order. -/
def missing (requirements : Requirements) (facts : Facts) : List String :=
  requirements.names.filter facts.isMissing

/-- Check entries against facts from the first to the last. -/
def checkEntries (facts : Facts) :
    List (String × ValueKind) → Except EvalError Unit
  | [] => .ok ()
  | (name, expected) :: rest =>
      match facts.kind? name with
      | none => checkEntries facts rest
      | some found =>
          if found = expected then
            checkEntries facts rest
          else
            .error (.typeMismatch name expected found)

/-- Check that no required fact is present with another kind.  The first
defect in order of name is reported; missing facts are none. -/
def check (requirements : Requirements) (facts : Facts) :
    Except EvalError Unit :=
  checkEntries facts requirements.entries

end Requirements

end Rulebook
