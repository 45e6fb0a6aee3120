import Rulebook.Outcome

/-!
# Trace events

An evaluation logs what it does: each row that applies, each rule that comes to
its end, and each rule token that is resolved, either by running its rule or by
reusing the output of an earlier run.  The start of such a run is logged as well,
so that the events of a run stand between its start and its resolution.

An event keeps the values themselves.  `Event.entry?` is its written form, a
level, a message and named fields; the start of a run is not written, and neither
is how long anything took.
-/

namespace Rulebook

/-- A step of an evaluation that is worth logging. -/
inductive Event where
  /-- A row of decisions applied. -/
  | decisionRowMatched (row : Nat) (consequent : Decision)
  /-- A row of scores applied. -/
  | scoreRowMatched (row : Nat) (score weight : Float)
  /-- A decision rule came to its end. -/
  | decisionExecuted (decision : Option Decision)
  /-- A score rule came to its end. -/
  | scoreExecuted (score : Float) (rulesets : Nat)
  /-- A rule token starts to run its rule object. -/
  | started (label : String) (object : Nat)
  /-- A rule token was resolved by running its rule object. -/
  | resolved (label : String) (object : Nat) (value : Option Resolved)
  /-- A rule token was resolved by the output of an earlier run of its rule
  object. -/
  | reused (label : String) (object : Nat) (value : Option Resolved)
  /-- A rule was executed for a report. -/
  | reported (outcome : Outcome)

/-- How much detail a log has to ask for to show an entry. -/
inductive Level where
  | trace
  | debug
deriving DecidableEq, Repr

def Level.name : Level → String
  | .trace => "TRACE"
  | .debug => "DEBUG"

/-- The value of a named field of an entry. -/
inductive Field where
  | count (number : Nat)
  | text (content : String)
deriving DecidableEq, Repr

/-- The written form of an event. -/
structure Entry where
  level : Level
  message : String
  fields : List (String × Field)
deriving DecidableEq, Repr

/-- The written form of an event, which the start of a run does not have.  The
number of a rule object is not written.  The entry for a report has one more
field, which is left out here: the time that the execution took. -/
def Event.entry? : Event → Option Entry
  | .decisionRowMatched row consequent =>
      some ⟨.trace, "decision row matched",
        [("row", .count row), ("consequent", .text consequent.render)]⟩
  | .scoreRowMatched row score weight =>
      some ⟨.trace, "score row matched",
        [("row", .count row), ("score", .text (Decimal.plain score)),
          ("weight", .text (Decimal.plain weight))]⟩
  | .decisionExecuted (some decision) =>
      some ⟨.debug, "decision rule executed",
        [("decision", .text decision.render)]⟩
  | .decisionExecuted none =>
      some ⟨.debug, "decision rule executed with no matching row", []⟩
  | .scoreExecuted score rulesets =>
      some ⟨.debug, "score rule executed",
        [("score", .text (Decimal.plain score)),
          ("rulesets", .count rulesets)]⟩
  | .started _ _ => none
  | .resolved label _ value =>
      some ⟨.trace, "resolved rule token",
        [("token", .text label),
          ("value", .text (Resolved.describeOption value))]⟩
  | .reused label _ value =>
      some ⟨.trace, "reused rule token",
        [("token", .text label),
          ("value", .text (Resolved.describeOption value))]⟩
  | .reported outcome =>
      some ⟨.debug, "rule executed with report",
        [("outcome", .text outcome.render)]⟩

end Rulebook
