import Rulebook.Decision
import Rulebook.Resolved

/-!
# Outcomes

Executing a rule ends in a decision, in a score, or without a match.  No match
is an ordinary outcome: no row of a decision rule applied.  A rule token
resolves to the outcome of its rule, where no match is a missing value.
-/

namespace Rulebook

/-- What a decision resolves to when it stands in for the value of a fact, which
is nothing for a structure. -/
def Decision.resolved? : Decision → Option Resolved
  | .number value => some (.number value)
  | .text value => some (.text value)
  | .boolean value => some (.boolean value)
  | .list _ | .map _ => none

/-- What executing a rule ends in. -/
inductive Outcome where
  | decision (decision : Decision)
  | noMatch
  | score (score : Float)
deriving BEq, Inhabited

namespace Outcome

/-- The outcome of a decision rule of which some row may have applied. -/
def ofDecision? : Option Decision → Outcome
  | some concluded => .decision concluded
  | none => .noMatch

def isNoMatch : Outcome → Bool
  | .noMatch => true
  | _ => false

def decision? : Outcome → Option Decision
  | .decision concluded => some concluded
  | _ => none

def score? : Outcome → Option Float
  | .score total => some total
  | _ => none

/-- What a rule token of this outcome resolves to. -/
def resolved? : Outcome → Option Resolved
  | .decision concluded => concluded.resolved?
  | .noMatch => none
  | .score total => some (.number total)

def render : Outcome → String
  | .decision concluded => "decision " ++ concluded.render
  | .noMatch => "no match"
  | .score total => "score " ++ Decimal.plain total

end Outcome

end Rulebook
