import Rulebook.Evaluation.Execute
import Rulebook.Proofs.Occurrence

/-!
# Interpretations of a rule

The order in which a rule is read does not depend on how its tokens are resolved
nor on what becomes of the events.  An `Interpreter` fixes these two things in
some monad, and `interpret` reads conditions, rows, rulesets and rules with it.
Walking with a cache is one interpretation, `Interpreter.cached`.

Reading a rule and reading it for a report find out the same
(`Rule.interpret_eq_interpretReport`), and rows of either type are searched alike
(`Interpreter.search`).
-/

namespace Rulebook

/-- The rule object an event is about, if it is about the resolution of a rule
token. -/
def Event.object? : Event → Option Nat
  | .started _ object | .resolved _ object _ | .reused _ object _ => some object
  | _ => none

/-- How tokens are resolved, and what becomes of events. -/
structure Interpreter (m : Type → Type) where
  resolve : Token → m (Option Resolved)
  log : Event → m Unit

section Reading

variable {m : Type → Type} [Monad m] (interpreter : Interpreter m)

def Expression.interpret (expression : Expression) : m Bool := do
  let value ← interpreter.resolve expression.token
  return expression.operator.accepts value

mutual

def Condition.interpret : Condition → m Bool
  | .test expression => expression.interpret interpreter
  | .nested conditional => conditional.interpret

def Conditional.interpret : Conditional → m Bool
  | ⟨junction, conditions⟩ => Condition.interpretAll junction conditions

/-- Read conditions up to the first one that settles their conditional. -/
def Condition.interpretAll (junction : Junction) : List Condition → m Bool
  | [] => return !junction.decisive
  | condition :: conditions => do
      let value ← condition.interpret
      if value = junction.decisive then
        return value
      else
        Condition.interpretAll junction conditions

end

/-- Read rows of decisions up to the first one that applies. -/
def DecisionRow.interpretAll (place : Nat) :
    List DecisionRow → m (Option (Nat × DecisionRow))
  | [] => return none
  | row :: rows => do
      if ← row.antecedent.interpret interpreter then
        interpreter.log (.decisionRowMatched place row.consequent)
        return some (place, row)
      else
        DecisionRow.interpretAll (place + 1) rows

def DecisionSet.interpret (set : DecisionSet) :
    m (Option (Nat × DecisionRow)) :=
  DecisionRow.interpretAll interpreter 0 set.rows

def ScoreRow.interpretAll (weight : Float) (place : Nat) :
    List ScoreRow → m (Option (Nat × ScoreRow))
  | [] => return none
  | row :: rows => do
      if ← row.antecedent.interpret interpreter then
        interpreter.log (.scoreRowMatched place row.score weight)
        return some (place, row)
      else
        ScoreRow.interpretAll weight (place + 1) rows

def ScoreSet.interpret (set : ScoreSet) : m (Option (Nat × ScoreRow)) :=
  ScoreRow.interpretAll interpreter set.weight 0 set.rows

def ScoreSet.interpretAll (total : Float) : List ScoreSet → m Float
  | [] => return total
  | set :: sets => do
      let matched ← set.interpret interpreter
      ScoreSet.interpretAll (total + set.contribution matched) sets

def ScoreSet.interpretReports (total : Float) :
    List ScoreSet → m (Float × List SetReport)
  | [] => return (total, [])
  | set :: sets => do
      let matched ← set.interpret interpreter
      let contribution := set.contribution matched
      let (sum, reports) ←
        ScoreSet.interpretReports (total + contribution) sets
      return (sum,
        .score (matched.map (·.1)) set.weight contribution :: reports)

def DecisionRule.interpret (rule : DecisionRule) : m (Option Decision) := do
  let matched ← rule.ruleset.interpret interpreter
  let decision := matched.map fun found => found.2.consequent
  interpreter.log (.decisionExecuted decision)
  return decision

def ScoreRule.interpret (rule : ScoreRule) : m Float := do
  let total ← ScoreSet.interpretAll interpreter 0 rule.rulesets
  interpreter.log (.scoreExecuted total rule.rulesets.length)
  return total

def Rule.interpret : Rule → m Outcome
  | .decision rule => do
      let decision ← rule.interpret interpreter
      return Outcome.ofDecision? decision
  | .score rule => do
      let total ← rule.interpret interpreter
      return .score total

/-- Read a rule without logging its end, and report on it. -/
def Rule.interpretReport : Rule → m Report
  | .decision rule => do
      let matched ← rule.ruleset.interpret interpreter
      let decision := matched.map fun found => found.2.consequent
      return ⟨.ofDecision? decision, [.decision (matched.map (·.1))]⟩
  | .score rule => do
      let (total, reports) ←
        ScoreSet.interpretReports interpreter 0 rule.rulesets
      return ⟨.score total, reports⟩

def Rule.interpretDetailed (rule : Rule) : m Report := do
  let report ← rule.interpretReport interpreter
  interpreter.log (.reported report.outcome)
  return report

end Reading

section Reporting

variable {m : Type → Type} [Monad m] [LawfulMonad m]
  (interpreter : Interpreter m)

theorem ScoreSet.interpretReports_map_fst (total : Float)
    (sets : List ScoreSet) :
    Prod.fst <$> ScoreSet.interpretReports interpreter total sets =
      ScoreSet.interpretAll interpreter total sets := by
  induction sets generalizing total with
  | nil => simp [ScoreSet.interpretReports, ScoreSet.interpretAll]
  | cons set sets ih =>
      simp [ScoreSet.interpretReports, ScoreSet.interpretAll, ← ih]

end Reporting

section Ending

variable {m : Type → Type} [Monad m] [LawfulMonad m]
  (interpreter : Interpreter m)

/-- The event that tells of the end of a rule with a given outcome. -/
def Rule.ended (rule : Rule) : Outcome → Event
  | .decision concluded => .decisionExecuted (some concluded)
  | .noMatch => .decisionExecuted none
  | .score total => .scoreExecuted total rule.scoreSets.length

theorem Rule.object?_ended (rule : Rule) (outcome : Outcome) :
    (rule.ended outcome).object? = none := by
  cases outcome <;> rfl

/-- Plain reading finds out what a report tells and logs the end of the rule. -/
theorem Rule.interpret_eq_interpretReport (rule : Rule) :
    rule.interpret interpreter = do
      let report ← rule.interpretReport interpreter
      interpreter.log (rule.ended report.outcome)
      return report.outcome := by
  cases rule with
  | decision rule =>
      simp only [interpret, DecisionRule.interpret, interpretReport,
        bind_assoc, pure_bind]
      refine bind_congr fun matched => ?_
      cases matched <;> rfl
  | score rule =>
      simp only [interpret, ScoreRule.interpret, interpretReport, bind_assoc,
        pure_bind, ← ScoreSet.interpretReports_map_fst, bind_map_left]
      rfl

/-- Where nothing is logged, a report has the outcome of plain reading. -/
theorem Rule.interpretDetailed_map_outcome
    (silent : ∀ event, interpreter.log event = pure ()) (rule : Rule) :
    Report.outcome <$> rule.interpretDetailed interpreter =
      rule.interpret interpreter := by
  simp [interpretDetailed, rule.interpret_eq_interpretReport, silent]

end Ending

section Searching

variable {m : Type → Type} [Monad m]

/-- Search rows of either type for the first one that applies. -/
def Interpreter.search (interpreter : Interpreter m) {Row : Type}
    (antecedent : Row → Conditional) (matched : Nat → Row → Event)
    (place : Nat) : List Row → m (Option (Nat × Row))
  | [] => return none
  | row :: rows => do
      if ← (antecedent row).interpret interpreter then
        interpreter.log (matched place row)
        return some (place, row)
      else
        interpreter.search antecedent matched (place + 1) rows

variable (interpreter : Interpreter m)

theorem DecisionRow.interpretAll_eq_search (place : Nat)
    (rows : List DecisionRow) :
    DecisionRow.interpretAll interpreter place rows =
      interpreter.search DecisionRow.antecedent
        (fun place row => .decisionRowMatched place row.consequent) place
        rows := by
  induction rows generalizing place with
  | nil => rfl
  | cons row rows ih => rw [interpretAll, Interpreter.search, ih]

theorem ScoreRow.interpretAll_eq_search (weight : Float) (place : Nat)
    (rows : List ScoreRow) :
    ScoreRow.interpretAll interpreter weight place rows =
      interpreter.search ScoreRow.antecedent
        (fun place row => .scoreRowMatched place row.score weight) place
        rows := by
  induction rows generalizing place with
  | nil => rfl
  | cons row rows ih => rw [interpretAll, Interpreter.search, ih]

end Searching

/-- What is done with the result of a walk leaves its cache and its events
alone. -/
theorem Walk.map_apply {α β : Type} (function : α → β) (walk : Walk α)
    (cache : Cache) :
    (function <$> walk) cache =
      ⟨function <$> (walk cache).result, (walk cache).cache,
        (walk cache).events⟩ := by
  rw [map_eq_pure_bind]
  cases result : (walk cache).result with
  | error defect =>
      rw [bind_apply_of_error _ result]
      rfl
  | ok value =>
      rw [bind_apply_of_ok _ result, pure_apply, List.append_nil]
      rfl

/-- One walk after another has a result if both have one. -/
theorem Walk.bind_result_eq_ok_iff {α β : Type} {first : Walk α}
    {next : α → Walk β} {cache : Cache} {value : β} :
    ((first >>= next) cache).result = .ok value ↔
      ∃ middle, (first cache).result = .ok middle ∧
        (next middle (first cache).cache).result = .ok value := by
  cases result : (first cache).result with
  | error defect =>
      rw [bind_apply_of_error next result]
      simp
  | ok middle =>
      rw [bind_apply_of_ok next result]
      simp

theorem Walk.result_map {α β : Type} (function : α → β) (walk : Walk α) :
    (function <$> walk).result = function <$> walk.result := by
  rw [result, start, map_apply]
  rfl

section Walking

variable (facts : Facts)

/-- Walking with a cache, as an interpreter. -/
def Interpreter.cached : Interpreter Walk :=
  ⟨Token.walk facts, Walk.log⟩

theorem Expression.walk_eq_interpret :
    (expression : Expression) →
      expression.walk facts = expression.interpret (.cached facts)
  | ⟨token, operator⟩ => by
      rw [Expression.walk]
      rfl

mutual

theorem Condition.walk_eq_interpret :
    (condition : Condition) →
      condition.walk facts = condition.interpret (.cached facts)
  | .test expression => by
      rw [Condition.walk, Condition.interpret, expression.walk_eq_interpret]
  | .nested conditional => by
      rw [Condition.walk, Condition.interpret, conditional.walk_eq_interpret]

theorem Conditional.walk_eq_interpret :
    (conditional : Conditional) →
      conditional.walk facts = conditional.interpret (.cached facts)
  | ⟨junction, conditions⟩ => by
      rw [Conditional.walk, Conditional.interpret,
        Condition.walkAll_eq_interpretAll junction conditions]

theorem Condition.walkAll_eq_interpretAll (junction : Junction) :
    (conditions : List Condition) →
      Condition.walkAll facts junction conditions =
        Condition.interpretAll (.cached facts) junction conditions
  | [] => by
      rw [Condition.walkAll, Condition.interpretAll]
  | condition :: conditions => by
      rw [Condition.walkAll, Condition.interpretAll,
        condition.walk_eq_interpret,
        Condition.walkAll_eq_interpretAll junction conditions]

end

theorem DecisionRow.walkAll_eq_interpretAll (place : Nat)
    (rows : List DecisionRow) :
    DecisionRow.walkAll facts place rows =
      DecisionRow.interpretAll (.cached facts) place rows := by
  induction rows generalizing place with
  | nil => rw [DecisionRow.walkAll, DecisionRow.interpretAll]
  | cons row rows ih =>
      obtain ⟨antecedent, consequent⟩ := row
      rw [DecisionRow.walkAll, DecisionRow.interpretAll,
        antecedent.walk_eq_interpret, ih]
      rfl

theorem DecisionSet.walk_eq_interpret :
    (set : DecisionSet) → set.walk facts = set.interpret (.cached facts)
  | ⟨rows⟩ => by
      rw [DecisionSet.walk, DecisionSet.interpret,
        DecisionRow.walkAll_eq_interpretAll]

theorem ScoreRow.walkAll_eq_interpretAll (weight : Float) (place : Nat)
    (rows : List ScoreRow) :
    ScoreRow.walkAll facts weight place rows =
      ScoreRow.interpretAll (.cached facts) weight place rows := by
  induction rows generalizing place with
  | nil => rw [ScoreRow.walkAll, ScoreRow.interpretAll]
  | cons row rows ih =>
      obtain ⟨antecedent, score⟩ := row
      rw [ScoreRow.walkAll, ScoreRow.interpretAll,
        antecedent.walk_eq_interpret, ih]
      rfl

theorem ScoreSet.walk_eq_interpret :
    (set : ScoreSet) → set.walk facts = set.interpret (.cached facts)
  | ⟨rows, weight⟩ => by
      rw [ScoreSet.walk, ScoreSet.interpret, ScoreRow.walkAll_eq_interpretAll]

theorem ScoreSet.walkAll_eq_interpretAll (total : Float)
    (sets : List ScoreSet) :
    ScoreSet.walkAll facts total sets =
      ScoreSet.interpretAll (.cached facts) total sets := by
  induction sets generalizing total with
  | nil => rw [ScoreSet.walkAll, ScoreSet.interpretAll]
  | cons set sets ih =>
      rw [ScoreSet.walkAll, ScoreSet.interpretAll, set.walk_eq_interpret]
      simp only [ih]

theorem ScoreSet.reportAll_eq_interpretReports (total : Float)
    (sets : List ScoreSet) :
    ScoreSet.reportAll facts total sets =
      ScoreSet.interpretReports (.cached facts) total sets := by
  induction sets generalizing total with
  | nil => rw [ScoreSet.reportAll, ScoreSet.interpretReports]
  | cons set sets ih =>
      rw [ScoreSet.reportAll, ScoreSet.interpretReports, set.walk_eq_interpret]
      simp only [ih]

namespace Rule

theorem walk_eq_interpret :
    (rule : Rule) → rule.walk facts = rule.interpret (.cached facts)
  | .decision ⟨ruleset, _⟩ => by
      rw [walk, interpret, DecisionRule.walk, DecisionRule.interpret,
        ruleset.walk_eq_interpret]
      rfl
  | .score ⟨rulesets, _⟩ => by
      rw [walk, interpret, ScoreRule.walk, ScoreRule.interpret,
        ScoreSet.walkAll_eq_interpretAll]
      rfl

theorem reportOn_eq_interpretReport (rule : Rule) :
    rule.reportOn facts = rule.interpretReport (.cached facts) := by
  cases rule with
  | decision rule =>
      rw [reportOn, interpretReport, rule.ruleset.walk_eq_interpret]
  | score rule =>
      rw [reportOn, interpretReport, ScoreSet.reportAll_eq_interpretReports]

theorem walkDetailed_eq_interpretDetailed (rule : Rule) :
    rule.walkDetailed facts = rule.interpretDetailed (.cached facts) := by
  rw [walkDetailed, interpretDetailed, rule.reportOn_eq_interpretReport]
  rfl

end Rule

end Walking

section Stepping

variable {facts : Facts}

/-- A token that embeds a rule has three ways to go: its rule object is in the
cache, or its rule fails, or its rule comes to an outcome. -/
theorem Token.walk_rule_cases (label : String) (object : Nat)
    (kind : ValueKind) (rule : Rule) (cache : Cache) :
    (∃ output, cache.find? object = some output ∧
      (Token.rule label object kind rule).walk facts cache =
        ⟨.ok output, cache, [.reused label object output]⟩) ∨
    cache.find? object = none ∧
      ((∃ defect, (rule.walk facts cache).result = .error defect ∧
        (Token.rule label object kind rule).walk facts cache =
          ⟨.error defect, (rule.walk facts cache).cache,
            .started label object :: (rule.walk facts cache).events⟩) ∨
      ∃ outcome, (rule.walk facts cache).result = .ok outcome ∧
        (Token.rule label object kind rule).walk facts cache =
          ⟨.ok outcome.resolved?,
            (rule.walk facts cache).cache.add object outcome.resolved?,
            .started label object :: ((rule.walk facts cache).events ++
              [.resolved label object outcome.resolved?])⟩) := by
  rw [Token.walk, Walk.lookUp_bind]
  cases known : cache.find? object with
  | some output => exact .inl ⟨output, rfl, rfl⟩
  | none =>
      refine .inr ⟨rfl, ?_⟩
      cases result : (rule.walk facts cache).result with
      | error defect =>
          refine .inl ⟨defect, rfl, ?_⟩
          simp only [Walk.log_bind, Walk.bind_apply_of_error _ result]
      | ok outcome =>
          refine .inr ⟨outcome, rfl, ?_⟩
          simp only [Walk.log_bind, Walk.bind_apply_of_ok _ result,
            Walk.remember_bind, Walk.pure_apply]

/-- Alone, a token that embeds a rule resolves to the outcome of its rule. -/
theorem Token.resolve_rule (label : String) (object : Nat) (kind : ValueKind)
    (rule : Rule) :
    (Token.rule label object kind rule).resolve facts =
      Outcome.resolved? <$> rule.execute facts := by
  rw [resolve, Walk.result, Walk.start, Rule.execute, Walk.result, Walk.start]
  rcases walk_rule_cases label object kind rule .empty with
    ⟨output, found, _⟩ | ⟨_, ⟨defect, failed, step⟩ | ⟨outcome, ended, step⟩⟩
  · rw [Cache.find?_empty] at found
    cases found
  · rw [step, failed]
    rfl
  · rw [step, ended]
    rfl

end Stepping

end Rulebook
