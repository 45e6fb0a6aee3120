import Rulebook.Evaluation.Tree

/-!
# Reports

A report tells how the outcome of a rule came about: ruleset by ruleset, which
row applied and, for a score rule, what was added to the total.  Executing a
rule for a report logs what plain execution logs, except that the last event
tells of the report.
-/

namespace Rulebook

/-- What happened in one ruleset. -/
inductive SetReport where
  | decision (row : Option Nat)
  | score (row : Option Nat) (weight contribution : Float)

namespace SetReport

/-- The place of the row that applied, if one did. -/
def row? : SetReport → Option Nat
  | .decision row => row
  | .score row _ _ => row

def weight? : SetReport → Option Float
  | .decision _ => none
  | .score _ weight _ => some weight

/-- What a ruleset of scores added to the total. -/
def contribution? : SetReport → Option Float
  | .decision _ => none
  | .score _ _ contribution => some contribution

def render (report : SetReport) : String :=
  match report.row? with
  | some row => toString row
  | none => "-"

end SetReport

/-- How the outcome of a rule came about. -/
structure Report where
  outcome : Outcome
  rulesets : List SetReport

namespace Report

/-- The places of the set reports without a row, counted from the given one. -/
def unmatchedFrom (place : Nat) : List SetReport → List Nat
  | [] => []
  | report :: reports =>
      if report.row?.isNone then
        place :: unmatchedFrom (place + 1) reports
      else
        unmatchedFrom (place + 1) reports

/-- The places of the rulesets in which no row applied. -/
def unmatched (report : Report) : List Nat :=
  unmatchedFrom 0 report.rulesets

def render (report : Report) : String :=
  "outcome: " ++ report.outcome.render ++ ", rows: [" ++
    ", ".intercalate (report.rulesets.map SetReport.render) ++ "]"

end Report

/-- Add the contributions of rulesets to a total, from the first to the last,
and report on each of them. -/
def ScoreSet.reportAll (facts : Facts) (total : Float) :
    List ScoreSet → Walk (Float × List SetReport)
  | [] => return (total, [])
  | set :: sets => do
      let matched ← set.walk facts
      let contribution := set.contribution matched
      let (sum, reports) ←
        ScoreSet.reportAll facts (total + contribution) sets
      return (sum,
        .score (matched.map (·.1)) set.weight contribution :: reports)

namespace Rule

/-- Find out the outcome of a rule and how it comes about, without logging its
end. -/
def reportOn (facts : Facts) : Rule → Walk Report
  | .decision rule => do
      let matched ← rule.ruleset.walk facts
      let decision := matched.map fun found => found.2.consequent
      return ⟨.ofDecision? decision, [.decision (matched.map (·.1))]⟩
  | .score rule => do
      let (total, reports) ← ScoreSet.reportAll facts 0 rule.rulesets
      return ⟨.score total, reports⟩

/-- Run a rule for a report. -/
def walkDetailed (facts : Facts) (rule : Rule) : Walk Report := do
  let report ← rule.reportOn facts
  Walk.log (.reported report.outcome)
  return report

end Rule

end Rulebook
