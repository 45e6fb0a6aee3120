import Rulebook.Proofs.Interpretation

/-!
# Plain execution and reports

Executing a rule and executing it for a report read the rule in the same way and
part only at its end, where the one logs that the rule was executed and the other
that it was executed with a report.  Both walks therefore start with the walk of
`Rule.reportOn`, and where that walk fails nothing tells them apart.
-/

namespace Rulebook

namespace Rule

variable (facts : Facts) (rule : Rule)

/-- Plain execution finds out what a report tells and logs the end of the
rule. -/
theorem walk_eq_reportOn :
    rule.walk facts = do
      let report ← rule.reportOn facts
      Walk.log (rule.ended report.outcome)
      return report.outcome := by
  rw [walk_eq_interpret, interpret_eq_interpretReport,
    reportOn_eq_interpretReport]
  rfl

variable {facts rule} {cache : Cache}

/-- Where the report cannot be found out, both ways to execute the rule fail, and
they leave the same events. -/
theorem walks_of_error {defect : EvalError}
    (failed : (rule.reportOn facts cache).result = .error defect) :
    rule.walk facts cache =
        ⟨.error defect, (rule.reportOn facts cache).cache,
          (rule.reportOn facts cache).events⟩ ∧
      rule.walkDetailed facts cache =
        ⟨.error defect, (rule.reportOn facts cache).cache,
          (rule.reportOn facts cache).events⟩ := by
  constructor
  · rw [walk_eq_reportOn, Walk.bind_apply_of_error _ failed]
  · rw [walkDetailed, Walk.bind_apply_of_error _ failed]

/-- Where the report is found out, both ways to execute the rule come to its
outcome, and they leave the same events but for the last one. -/
theorem walks_of_ok {report : Report}
    (ok : (rule.reportOn facts cache).result = .ok report) :
    rule.walk facts cache =
        ⟨.ok report.outcome, (rule.reportOn facts cache).cache,
          (rule.reportOn facts cache).events ++
            [rule.ended report.outcome]⟩ ∧
      rule.walkDetailed facts cache =
        ⟨.ok report, (rule.reportOn facts cache).cache,
          (rule.reportOn facts cache).events ++
            [.reported report.outcome]⟩ := by
  constructor
  · rw [walk_eq_reportOn, Walk.bind_apply_of_ok _ ok]
    rfl
  · rw [walkDetailed, Walk.bind_apply_of_ok _ ok]
    rfl

/-- What plain execution and execution for a report have in common. -/
structure ReportAgrees (facts : Facts) (rule : Rule) : Prop where
  /-- One of them fails exactly when the other one does, with the same defect. -/
  fails : ∀ defect,
    rule.executeDetailed facts = .error defect ↔
      rule.execute facts = .error defect
  /-- The report has the outcome of plain execution, to the bit. -/
  outcome : Report.outcome <$> rule.executeDetailed facts = rule.execute facts
  /-- If they do not fail, they log the same events but for the last one. -/
  completed : ∀ outcome, rule.execute facts = .ok outcome →
    ∃ before, rule.trace facts = before ++ [rule.ended outcome] ∧
      rule.traceDetailed facts = before ++ [.reported outcome]
  /-- If they fail, they log the same events. -/
  brokenOff : ∀ defect, rule.execute facts = .error defect →
    rule.traceDetailed facts = rule.trace facts

/-- Executing a rule for a report agrees with executing it. -/
theorem executeDetailed_agrees (facts : Facts) (rule : Rule) :
    rule.ReportAgrees facts := by
  cases found : (rule.reportOn facts .empty).result with
  | error defect =>
      obtain ⟨plain, detailed⟩ := walks_of_error found
      have failed : rule.execute facts = .error defect :=
        congrArg Step.result plain
      have failedDetailed : rule.executeDetailed facts = .error defect :=
        congrArg Step.result detailed
      have same : rule.traceDetailed facts = rule.trace facts :=
        (congrArg Step.events detailed).trans (congrArg Step.events plain).symm
      refine ⟨?_, ?_, ?_, fun _ _ => same⟩
      · intro other
        rw [failed, failedDetailed, Except.error.injEq, Except.error.injEq]
      · rw [failed, failedDetailed]
        rfl
      · intro outcome ok
        rw [failed] at ok
        cases ok
  | ok report =>
      obtain ⟨plain, detailed⟩ := walks_of_ok found
      have ended : rule.execute facts = .ok report.outcome :=
        congrArg Step.result plain
      have endedDetailed : rule.executeDetailed facts = .ok report :=
        congrArg Step.result detailed
      refine ⟨?_, ?_, ?_, ?_⟩
      · intro defect
        rw [ended, endedDetailed]
        constructor <;> intro failed <;> cases failed
      · rw [ended, endedDetailed]
        rfl
      · intro outcome ok
        rw [ended] at ok
        cases ok
        exact ⟨_, congrArg Step.events plain, congrArg Step.events detailed⟩
      · intro defect failed
        rw [ended] at failed
        cases failed

end Rule

end Rulebook
