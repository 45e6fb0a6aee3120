import Rulebook.Proofs.Foresight
import Rulebook.Proofs.Transparency

/-!
# Eager evaluation

The eager evaluator leaves nothing out.  It evaluates every test of every row of
every ruleset, and every embedded rule anew at each token, before it looks at
what came out.  A conditional is then a plain conjunction or disjunction, a
ruleset takes the lowest row that holds, and the contributions of the rulesets
are summed up from the first to the last.

It fails more often than a walk, which never meets a defect in what it leaves
out.  Where the eager evaluator has a result, it is the meaning of the rule, and
it has one for all facts that pass the check of the requirements.
-/

namespace Rulebook

/-- The plain conjunction or disjunction of some values. -/
def Junction.combine : Junction → List Bool → Bool
  | .all, values => values.all id
  | .any, values => values.any id

/-- The lowest of some rows that holds, if there is one. -/
def lowest? {Row : Type} (rows : List Row) (holds : List Bool) : Option Row :=
  (holds.findIdx? id).bind (rows[·]?)

/-- The score of a row times the weight of its ruleset, or zero for no row. -/
def ScoreRow.contribution (weight : Float) : Option ScoreRow → Float
  | some row => row.score * weight
  | none => 0

mutual

def Token.eager (facts : Facts) : Token → Except EvalError (Option Resolved)
  | .fact name kind => facts.resolve name kind
  | .rule _ _ _ embedded => do
      let outcome ← embedded.eager facts
      return outcome.resolved?

def Expression.eager (facts : Facts) : Expression → Except EvalError Bool
  | ⟨token, operator⟩ => do
      let value ← token.eager facts
      return operator.accepts value

def Condition.eager (facts : Facts) : Condition → Except EvalError Bool
  | .test expression => expression.eager facts
  | .nested conditional => conditional.eager facts

def Conditional.eager (facts : Facts) : Conditional → Except EvalError Bool
  | ⟨junction, conditions⟩ => do
      let values ← Condition.eagerAll facts conditions
      return junction.combine values

/-- The values of all conditions. -/
def Condition.eagerAll (facts : Facts) :
    List Condition → Except EvalError (List Bool)
  | [] => return []
  | condition :: conditions => do
      let value ← condition.eager facts
      let values ← Condition.eagerAll facts conditions
      return value :: values

/-- Which of the rows hold. -/
def DecisionRow.eagerAll (facts : Facts) :
    List DecisionRow → Except EvalError (List Bool)
  | [] => return []
  | ⟨antecedent, _⟩ :: rows => do
      let value ← antecedent.eager facts
      let values ← DecisionRow.eagerAll facts rows
      return value :: values

/-- Which of the rows hold. -/
def ScoreRow.eagerAll (facts : Facts) :
    List ScoreRow → Except EvalError (List Bool)
  | [] => return []
  | ⟨antecedent, _⟩ :: rows => do
      let value ← antecedent.eager facts
      let values ← ScoreRow.eagerAll facts rows
      return value :: values

/-- The contributions of all rulesets. -/
def ScoreSet.eagerAll (facts : Facts) :
    List ScoreSet → Except EvalError (List Float)
  | [] => return []
  | ⟨rows, weight⟩ :: sets => do
      let holds ← ScoreRow.eagerAll facts rows
      let contributions ← ScoreSet.eagerAll facts sets
      return ScoreRow.contribution weight (lowest? rows holds) :: contributions

def Rule.eager (facts : Facts) : Rule → Except EvalError Outcome
  | .decision ⟨⟨rows⟩, _⟩ => do
      let holds ← DecisionRow.eagerAll facts rows
      return .ofDecision? ((lowest? rows holds).map DecisionRow.consequent)
  | .score ⟨rulesets, _⟩ => do
      let contributions ← ScoreSet.eagerAll facts rulesets
      return .score (contributions.foldl (· + ·) 0)

end

section Choosing

variable {Row : Type} (row : Row) (rows : List Row) (holds : List Bool)

theorem lowest?_cons_true : lowest? (row :: rows) (true :: holds) = some row := by
  simp [lowest?, List.findIdx?_cons]

theorem lowest?_cons_false :
    lowest? (row :: rows) (false :: holds) = lowest? rows holds := by
  simp only [lowest?, List.findIdx?_cons, id_eq, Bool.false_eq_true, if_false]
  cases holds.findIdx? id <;> simp

/-- A decisive value settles a conditional, and any other one leaves it to the
rest. -/
theorem Junction.combine_cons (junction : Junction) (value : Bool)
    (values : List Bool) :
    junction.combine (value :: values) =
      if value = junction.decisive then value else junction.combine values := by
  cases junction <;> cases value <;> simp [combine, decisive]

end Choosing

section Agreement

variable {facts : Facts}

mutual

theorem Token.meaning_of_eager {value : Option Resolved} :
    (token : Token) → token.eager facts = .ok value →
      token.meaning facts = .ok value
  | .fact name kind, ended => by
      rw [Token.eager] at ended
      rw [Token.meaning, ended]
  | .rule label object kind embedded, ended => by
      rw [Token.eager, bind_eq_ok_iff] at ended
      obtain ⟨outcome, inner, rest⟩ := ended
      rw [Token.meaning, embedded.meaning_of_eager inner]
      exact rest

theorem Expression.meaning_of_eager {value : Bool} :
    (expression : Expression) → expression.eager facts = .ok value →
      expression.meaning facts = .ok value
  | ⟨token, operator⟩, ended => by
      rw [Expression.eager, bind_eq_ok_iff] at ended
      obtain ⟨resolved, inner, rest⟩ := ended
      rw [Expression.meaning, token.meaning_of_eager inner]
      exact rest

theorem Condition.meaning_of_eager {value : Bool} :
    (condition : Condition) → condition.eager facts = .ok value →
      condition.meaning facts = .ok value
  | .test expression, ended => by
      rw [Condition.eager] at ended
      rw [Condition.meaning, expression.meaning_of_eager ended]
  | .nested conditional, ended => by
      rw [Condition.eager] at ended
      rw [Condition.meaning, conditional.meaning_of_eager ended]

theorem Conditional.meaning_of_eager {value : Bool} :
    (conditional : Conditional) → conditional.eager facts = .ok value →
      conditional.meaning facts = .ok value
  | ⟨junction, conditions⟩, ended => by
      rw [Conditional.eager, bind_eq_ok_iff] at ended
      obtain ⟨values, all, rest⟩ := ended
      rw [Conditional.meaning,
        Condition.meaningAll_of_eagerAll junction conditions all]
      exact rest

theorem Condition.meaningAll_of_eagerAll (junction : Junction)
    {values : List Bool} :
    (conditions : List Condition) →
      Condition.eagerAll facts conditions = .ok values →
        Condition.meaningAll facts junction conditions =
          .ok (junction.combine values)
  | [], ended => by
      rw [Condition.eagerAll, pure_eq_ok_iff] at ended
      subst ended
      rw [Condition.meaningAll]
      cases junction <;> rfl
  | condition :: conditions, ended => by
      simp only [Condition.eagerAll, bind_eq_ok_iff, pure_eq_ok_iff] at ended
      obtain ⟨value, first, values, all, rfl⟩ := ended
      rw [Condition.meaningAll, condition.meaning_of_eager first,
        Condition.meaningAll_of_eagerAll junction conditions all,
        junction.combine_cons]
      change ite _ _ _ = _
      split <;> rfl

theorem DecisionRow.meaningAll_of_eagerAll {holds : List Bool} :
    (rows : List DecisionRow) → DecisionRow.eagerAll facts rows = .ok holds →
      DecisionRow.meaningAll facts rows =
        .ok ((lowest? rows holds).map DecisionRow.consequent)
  | [], ended => by
      rw [DecisionRow.eagerAll, pure_eq_ok_iff] at ended
      subst ended
      rw [DecisionRow.meaningAll]
      rfl
  | ⟨antecedent, consequent⟩ :: rows, ended => by
      simp only [DecisionRow.eagerAll, bind_eq_ok_iff, pure_eq_ok_iff] at ended
      obtain ⟨value, first, values, all, rfl⟩ := ended
      rw [DecisionRow.meaningAll, antecedent.meaning_of_eager first]
      cases value with
      | true =>
          rw [lowest?_cons_true]
          rfl
      | false =>
          rw [lowest?_cons_false]
          exact DecisionRow.meaningAll_of_eagerAll rows all

theorem ScoreRow.meaningAll_of_eagerAll (weight : Float) {holds : List Bool} :
    (rows : List ScoreRow) → ScoreRow.eagerAll facts rows = .ok holds →
      ScoreRow.meaningAll facts weight rows =
        .ok (ScoreRow.contribution weight (lowest? rows holds))
  | [], ended => by
      rw [ScoreRow.eagerAll, pure_eq_ok_iff] at ended
      subst ended
      rw [ScoreRow.meaningAll]
      rfl
  | ⟨antecedent, score⟩ :: rows, ended => by
      simp only [ScoreRow.eagerAll, bind_eq_ok_iff, pure_eq_ok_iff] at ended
      obtain ⟨value, first, values, all, rfl⟩ := ended
      rw [ScoreRow.meaningAll, antecedent.meaning_of_eager first]
      cases value with
      | true =>
          rw [lowest?_cons_true]
          rfl
      | false =>
          rw [lowest?_cons_false]
          exact ScoreRow.meaningAll_of_eagerAll weight rows all

theorem ScoreSet.meaningAll_of_eagerAll (total : Float)
    {contributions : List Float} :
    (sets : List ScoreSet) →
      ScoreSet.eagerAll facts sets = .ok contributions →
        ScoreSet.meaningAll facts total sets =
          .ok (contributions.foldl (· + ·) total)
  | [], ended => by
      rw [ScoreSet.eagerAll, pure_eq_ok_iff] at ended
      subst ended
      rw [ScoreSet.meaningAll]
      rfl
  | ⟨rows, weight⟩ :: sets, ended => by
      simp only [ScoreSet.eagerAll, bind_eq_ok_iff, pure_eq_ok_iff] at ended
      obtain ⟨holds, first, contributions, all, rfl⟩ := ended
      rw [ScoreSet.meaningAll,
        ScoreRow.meaningAll_of_eagerAll weight rows first, List.foldl_cons]
      exact ScoreSet.meaningAll_of_eagerAll _ sets all

theorem Rule.meaning_of_eager {outcome : Outcome} :
    (rule : Rule) → rule.eager facts = .ok outcome →
      rule.meaning facts = .ok outcome
  | .decision ⟨⟨rows⟩, _⟩, ended => by
      rw [Rule.eager, bind_eq_ok_iff] at ended
      obtain ⟨holds, all, rest⟩ := ended
      rw [Rule.meaning, DecisionRow.meaningAll_of_eagerAll rows all]
      exact rest
  | .score ⟨rulesets, _⟩, ended => by
      rw [Rule.eager, bind_eq_ok_iff] at ended
      obtain ⟨contributions, all, rest⟩ := ended
      rw [Rule.meaning, ScoreSet.meaningAll_of_eagerAll 0 rulesets all]
      exact rest

end

end Agreement

section Sequencing

variable {ε α β : Type} {evaluate : α → Except ε β} {items : List α}

theorem exists_bind_ok {first : Except ε α} {next : α → Except ε β}
    (one : ∃ value, first = .ok value)
    (other : ∀ value, ∃ result, next value = .ok result) :
    ∃ result, first >>= next = .ok result := by
  obtain ⟨value, same⟩ := one
  rw [same]
  exact other value

theorem exists_mapM_ok (each : ∀ item ∈ items, ∃ value,
      evaluate item = .ok value) :
    ∃ values, items.mapM evaluate = .ok values := by
  induction items with
  | nil => exact ⟨[], rfl⟩
  | cons item items ih =>
      rw [List.forall_mem_cons] at each
      rw [List.mapM_cons]
      exact exists_bind_ok each.1 fun _ =>
        exists_bind_ok (ih each.2) fun _ => ⟨_, rfl⟩

end Sequencing

section Lists

variable (facts : Facts)

theorem Condition.eagerAll_eq_mapM (conditions : List Condition) :
    eagerAll facts conditions = conditions.mapM (eager facts) := by
  induction conditions with
  | nil => rw [eagerAll, List.mapM_nil]
  | cons condition conditions ih => rw [eagerAll, List.mapM_cons, ih]

theorem DecisionRow.eagerAll_eq_mapM (rows : List DecisionRow) :
    eagerAll facts rows = rows.mapM fun row => row.antecedent.eager facts := by
  induction rows with
  | nil => rw [eagerAll, List.mapM_nil]
  | cons row rows ih =>
      obtain ⟨antecedent, consequent⟩ := row
      rw [eagerAll, List.mapM_cons, ih]

theorem ScoreRow.eagerAll_eq_mapM (rows : List ScoreRow) :
    eagerAll facts rows = rows.mapM fun row => row.antecedent.eager facts := by
  induction rows with
  | nil => rw [eagerAll, List.mapM_nil]
  | cons row rows ih =>
      obtain ⟨antecedent, score⟩ := row
      rw [eagerAll, List.mapM_cons, ih]

/-- What a ruleset contributes if all its rows are evaluated. -/
def ScoreSet.eager (set : ScoreSet) : Except EvalError Float := do
  let holds ← ScoreRow.eagerAll facts set.rows
  return ScoreRow.contribution set.weight (lowest? set.rows holds)

theorem ScoreSet.eagerAll_eq_mapM (sets : List ScoreSet) :
    eagerAll facts sets = sets.mapM (eager facts) := by
  induction sets with
  | nil => rw [eagerAll, List.mapM_nil]
  | cons set sets ih =>
      obtain ⟨rows, weight⟩ := set
      rw [eagerAll, List.mapM_cons, ih, eager, bind_assoc]
      rfl

end Lists

section Existence

variable {facts : Facts}

mutual

theorem Condition.exists_eager :
    (condition : Condition) →
      (∀ leaf ∈ condition.leaves, ∃ value, leaf.eager facts = .ok value) →
        ∃ value, condition.eager facts = .ok value
  | .test expression, tests => by
      rw [Condition.leaves, List.forall_mem_singleton] at tests
      rw [Condition.eager]
      exact tests
  | .nested conditional, tests => by
      rw [Condition.leaves] at tests
      rw [Condition.eager]
      exact conditional.exists_eager tests

theorem Conditional.exists_eager :
    (conditional : Conditional) →
      (∀ leaf ∈ conditional.leaves, ∃ value, leaf.eager facts = .ok value) →
        ∃ value, conditional.eager facts = .ok value
  | ⟨junction, conditions⟩, tests => by
      rw [Conditional.leaves] at tests
      rw [Conditional.eager]
      exact exists_bind_ok (Condition.exists_eagerAll conditions tests)
        fun _ => ⟨_, rfl⟩

theorem Condition.exists_eagerAll :
    (conditions : List Condition) →
      (∀ leaf ∈ Condition.leavesAll conditions,
        ∃ value, leaf.eager facts = .ok value) →
        ∃ values, Condition.eagerAll facts conditions = .ok values
  | [], _ => by
      rw [Condition.eagerAll]
      exact ⟨[], rfl⟩
  | condition :: conditions, tests => by
      rw [Condition.leavesAll, List.forall_mem_append] at tests
      rw [Condition.eagerAll]
      refine exists_bind_ok (condition.exists_eager tests.1) fun _ => ?_
      exact exists_bind_ok (Condition.exists_eagerAll conditions tests.2)
        fun _ => ⟨_, rfl⟩

end

theorem DecisionSet.exists_eagerAll {set : DecisionSet}
    (tests : ∀ leaf ∈ set.leaves, ∃ value, leaf.eager facts = .ok value) :
    ∃ holds, DecisionRow.eagerAll facts set.rows = .ok holds := by
  rw [DecisionRow.eagerAll_eq_mapM]
  refine exists_mapM_ok fun row among => row.antecedent.exists_eager ?_
  exact fun leaf inside => tests leaf (List.mem_flatMap.mpr ⟨row, among, inside⟩)

theorem ScoreSet.exists_eager {set : ScoreSet}
    (tests : ∀ leaf ∈ set.leaves, ∃ value, leaf.eager facts = .ok value) :
    ∃ contribution, set.eager facts = .ok contribution := by
  refine exists_bind_ok ?_ fun _ => ⟨_, rfl⟩
  rw [ScoreRow.eagerAll_eq_mapM]
  refine exists_mapM_ok fun row among => row.antecedent.exists_eager ?_
  exact fun leaf inside => tests leaf (List.mem_flatMap.mpr ⟨row, among, inside⟩)

namespace Rule

variable {rule : Rule}

/-- Where all facts that occur in a rule can be resolved, nothing fails. -/
theorem exists_eager (resolves : ∀ name kind,
      (Token.fact name kind).OccursIn rule.tokens →
        ∃ value, facts.resolve name kind = .ok value) :
    ∃ outcome, rule.eager facts = .ok outcome := by
  induction rule using Rule.embedding_induction with
  | step rule ih =>
      have tests (leaf : Expression) (member : leaf ∈ rule.leaves) :
          ∃ value, leaf.eager facts = .ok value := by
        obtain ⟨token, operator⟩ := leaf
        have own : token ∈ rule.tokens := List.mem_map_of_mem member
        rw [Expression.eager]
        refine exists_bind_ok ?_ fun _ => ⟨_, rfl⟩
        cases token with
        | fact name kind =>
            rw [Token.eager]
            exact resolves name kind (.among own)
        | rule label object kind embedded =>
            rw [Token.eager]
            refine exists_bind_ok (ih _ _ _ _ own ?_) fun _ => ⟨_, rfl⟩
            exact fun name kind occurs =>
              resolves name kind (.within own occurs)
      cases rule with
      | decision rule =>
          obtain ⟨⟨rows⟩, profile⟩ := rule
          rw [eager]
          exact exists_bind_ok (DecisionSet.exists_eagerAll tests)
            fun _ => ⟨_, rfl⟩
      | score rule =>
          obtain ⟨rulesets, profile⟩ := rule
          rw [eager, ScoreSet.eagerAll_eq_mapM]
          refine exists_bind_ok (exists_mapM_ok fun set among => ?_)
            fun _ => ⟨_, rfl⟩
          exact set.exists_eager fun leaf inside =>
            tests leaf (List.mem_flatMap.mpr ⟨set, among, inside⟩)

/-- Facts that pass the check can be resolved wherever the rule asks for
them. -/
theorem exists_eager_of_check (constructed : Item.Constructed (.rule rule))
    (passed : rule.requirements.check facts = .ok ()) :
    ∃ outcome, rule.eager facts = .ok outcome := by
  refine exists_eager fun name kind occurs => ?_
  cases result : facts.resolve name kind with
  | ok value => exact ⟨value, rfl⟩
  | error defect =>
      obtain ⟨fact, expected, found⟩ := defect
      obtain ⟨_, _, _, failed, _⟩ :=
        (foreseen_of_resolve constructed occurs result).checked
      rw [passed] at failed
      cases failed

/-- The result of the eager evaluator is the result of the execution. -/
theorem execute_of_eager (coherent : Token.Coherent rule.tokens)
    {outcome : Outcome} (ended : rule.eager facts = .ok outcome) :
    rule.execute facts = .ok outcome :=
  (execute_eq_meaning coherent facts).trans (rule.meaning_of_eager ended)

end Rule

end Existence

end Rulebook
