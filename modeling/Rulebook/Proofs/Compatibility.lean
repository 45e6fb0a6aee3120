import Rulebook.Proofs.Interpretation

/-!
# Comparing interpretations

A relation between computations is `Graded` if sequencing keeps it, where the
relation may depend on the tokens that are read.  If such a relation holds between
the two interpretations of every own test of an item, it holds between the two
interpretations of the item.  `Compatible` relations are those that do not depend
on tokens.  All laws that compare evaluations with one another are instances.
-/

namespace Rulebook

section Comparing

variable {m n : Type → Type} [Monad m] [Monad n]

/-- A relation between computations that is told which tokens were read, in
order, and that sequencing keeps.  A computation may come to an end before it has
read all of them. -/
structure Graded (R : List Token → (α : Type) → m α → n α → Prop) : Prop where
  pure {α : Type} (tokens : List Token) (value : α) :
    R tokens α (Pure.pure value) (Pure.pure value)
  bind {α β : Type} {before after : List Token} {one : m α} {other : n α}
    {oneNext : α → m β} {otherNext : α → n β} :
    R before α one other →
      (∀ value, R after β (oneNext value) (otherNext value)) →
        R (before ++ after) β (one >>= oneNext) (other >>= otherNext)

/-- The tests in a list have related interpretations. -/
def Interpreter.GradedAt (first : Interpreter m) (second : Interpreter n)
    (R : List Token → (α : Type) → m α → n α → Prop)
    (leaves : List Expression) : Prop :=
  ∀ leaf ∈ leaves,
    R [leaf.token] Bool (leaf.interpret first) (leaf.interpret second)

namespace Graded

variable {first : Interpreter m} {second : Interpreter n}
  {R : List Token → (α : Type) → m α → n α → Prop}

theorem gradedAt_append {leaves more : List Expression} :
    first.GradedAt second R (leaves ++ more) ↔
      first.GradedAt second R leaves ∧ first.GradedAt second R more :=
  List.forall_mem_append

theorem map (graded : Graded R) {α β : Type} {tokens : List Token} {one : m α}
    {other : n α} (related : R tokens α one other) (finish : α → β) :
    R tokens β (one >>= fun value => Pure.pure (finish value))
      (other >>= fun value => Pure.pure (finish value)) := by
  have whole := graded.bind related fun value =>
    graded.pure [] (finish value)
  rwa [List.append_nil] at whole

mutual

theorem condition (graded : Graded R) :
    (condition : Condition) →
      first.GradedAt second R condition.leaves →
        R (condition.leaves.map (·.token)) Bool
          (condition.interpret first) (condition.interpret second)
  | .test expression, tests => by
      rw [Condition.leaves] at tests ⊢
      rw [Condition.interpret, Condition.interpret]
      exact tests expression (List.mem_singleton_self expression)
  | .nested conditional, tests => by
      rw [Condition.leaves] at tests ⊢
      rw [Condition.interpret, Condition.interpret]
      exact graded.conditional conditional tests

theorem conditional (graded : Graded R) :
    (conditional : Conditional) →
      first.GradedAt second R conditional.leaves →
        R (conditional.leaves.map (·.token)) Bool
          (conditional.interpret first) (conditional.interpret second)
  | ⟨junction, conditions⟩, tests => by
      rw [Conditional.leaves] at tests ⊢
      rw [Conditional.interpret, Conditional.interpret]
      exact graded.conditions junction conditions tests

theorem conditions (graded : Graded R) (junction : Junction) :
    (conditions : List Condition) →
      first.GradedAt second R (Condition.leavesAll conditions) →
        R ((Condition.leavesAll conditions).map (·.token)) Bool
          (Condition.interpretAll first junction conditions)
          (Condition.interpretAll second junction conditions)
  | [], _ => by
      rw [Condition.interpretAll, Condition.interpretAll]
      exact graded.pure _ _
  | condition :: conditions, tests => by
      rw [Condition.leavesAll] at tests ⊢
      rw [gradedAt_append] at tests
      rw [Condition.interpretAll, Condition.interpretAll, List.map_append]
      refine graded.bind (graded.condition condition tests.1) ?_
      intro value
      split
      · exact graded.pure _ value
      · exact graded.conditions junction conditions tests.2

end

variable (graded : Graded R)
include graded

theorem search {Row : Type} {antecedent : Row → Conditional}
    {matched : Nat → Row → Event}
    (log : ∀ place row,
      R [] Unit (first.log (matched place row))
        (second.log (matched place row)))
    (place : Nat) (rows : List Row)
    (tests : first.GradedAt second R
      (rows.flatMap fun row => (antecedent row).leaves)) :
    R ((rows.flatMap fun row => (antecedent row).leaves).map (·.token)) _
      (first.search antecedent matched place rows)
      (second.search antecedent matched place rows) := by
  induction rows generalizing place with
  | nil => exact graded.pure _ none
  | cons row rows ih =>
      rw [List.flatMap_cons, gradedAt_append] at tests
      rw [List.flatMap_cons, List.map_append]
      refine graded.bind (graded.conditional (antecedent row) tests.1) ?_
      intro value
      split
      · exact graded.bind (log place row) fun _ => graded.pure _ _
      · exact ih (place + 1) tests.2

variable (log : ∀ event, event.object? = none →
  R [] Unit (first.log event) (second.log event))
include log

theorem decisionSet (set : DecisionSet)
    (tests : first.GradedAt second R set.leaves) :
    R (set.leaves.map (·.token)) _ (set.interpret first)
      (set.interpret second) := by
  rw [DecisionSet.interpret, DecisionSet.interpret,
    DecisionRow.interpretAll_eq_search, DecisionRow.interpretAll_eq_search]
  exact graded.search (fun _ _ => log _ rfl) 0 set.rows tests

theorem scoreSet (set : ScoreSet)
    (tests : first.GradedAt second R set.leaves) :
    R (set.leaves.map (·.token)) _ (set.interpret first)
      (set.interpret second) := by
  rw [ScoreSet.interpret, ScoreSet.interpret,
    ScoreRow.interpretAll_eq_search, ScoreRow.interpretAll_eq_search]
  exact graded.search (fun _ _ => log _ rfl) 0 set.rows tests

theorem scoreReports (total : Float) (sets : List ScoreSet)
    (tests : first.GradedAt second R (sets.flatMap ScoreSet.leaves)) :
    R ((sets.flatMap ScoreSet.leaves).map (·.token)) _
      (ScoreSet.interpretReports first total sets)
      (ScoreSet.interpretReports second total sets) := by
  induction sets generalizing total with
  | nil => exact graded.pure _ (total, [])
  | cons set sets ih =>
      rw [List.flatMap_cons, gradedAt_append] at tests
      rw [List.flatMap_cons, List.map_append, ScoreSet.interpretReports,
        ScoreSet.interpretReports]
      refine graded.bind (graded.scoreSet log set tests.1) ?_
      intro matched
      exact graded.map (ih _ tests.2) _

/-- A report on a rule reads the rule's own tokens in order. -/
theorem report (rule : Rule) (tests : first.GradedAt second R rule.leaves) :
    R rule.tokens _ (rule.interpretReport first)
      (rule.interpretReport second) := by
  cases rule with
  | decision rule =>
      exact graded.map (graded.decisionSet log rule.ruleset tests) _
  | score rule =>
      exact graded.map (graded.scoreReports log 0 rule.rulesets tests) _

theorem detailed (rule : Rule) (tests : first.GradedAt second R rule.leaves) :
    R rule.tokens _ (rule.interpretDetailed first)
      (rule.interpretDetailed second) := by
  rw [Rule.interpretDetailed, Rule.interpretDetailed,
    ← List.append_nil rule.tokens]
  refine graded.bind (graded.report log rule tests) fun report => ?_
  exact graded.map (log _ rfl) _

omit log in
theorem test {leaf : Expression}
    (token : R [leaf.token] _ (first.resolve leaf.token)
      (second.resolve leaf.token)) :
    R [leaf.token] Bool (leaf.interpret first) (leaf.interpret second) :=
  graded.map token _

variable [LawfulMonad m] [LawfulMonad n]

theorem rule (rule : Rule) (tests : first.GradedAt second R rule.leaves) :
    R rule.tokens _ (rule.interpret first) (rule.interpret second) := by
  rw [rule.interpret_eq_interpretReport, rule.interpret_eq_interpretReport,
    ← List.append_nil rule.tokens]
  refine graded.bind (graded.report log rule tests) fun report => ?_
  exact graded.map (log _ (rule.object?_ended report.outcome)) _

/-- A relation that holds at every fact token, and at every rule token around a
rule at which it holds, holds at all tokens. -/
theorem token {root : List Token}
    (fact : ∀ name kind, (Token.fact name kind).OccursIn root →
      R [.fact name kind] _ (first.resolve (.fact name kind))
        (second.resolve (.fact name kind)))
    (embed : ∀ label object kind embedded,
      (Token.rule label object kind embedded).OccursIn root →
        R embedded.tokens _ (embedded.interpret first)
          (embedded.interpret second) →
          R [.rule label object kind embedded] _
            (first.resolve (.rule label object kind embedded))
            (second.resolve (.rule label object kind embedded)))
    {token : Token} (occurs : token.OccursIn root) :
    R [token] _ (first.resolve token) (second.resolve token) := by
  have embeddedRule (rule : Rule)
      (inside : ∀ token ∈ rule.tokens, token.OccursIn root) :
      R rule.tokens _ (rule.interpret first) (rule.interpret second) := by
    induction rule using Rule.embedding_induction with
    | step rule ih =>
        refine graded.rule log rule fun leaf member => graded.test ?_
        have own : leaf.token ∈ rule.tokens := List.mem_map_of_mem member
        have below := inside _ own
        cases tested : leaf.token with
        | fact name kind => exact fact name kind (tested ▸ below)
        | rule label object kind embedded =>
            rw [tested] at own below
            refine embed _ _ _ _ below (ih _ _ _ _ own fun token member => ?_)
            exact below.inside (.among member)
  cases token with
  | fact name kind => exact fact name kind occurs
  | rule label object kind embedded =>
      exact embed _ _ _ _ occurs (embeddedRule embedded
        fun token member => occurs.inside (.among member))

end Graded

/-- A relation between the computations of two interpreters that holds of what
they do with events and that sequencing keeps. -/
structure Compatible (first : Interpreter m) (second : Interpreter n)
    (R : (α : Type) → m α → n α → Prop) : Prop where
  pure {α : Type} (value : α) : R α (Pure.pure value) (Pure.pure value)
  bind {α β : Type} {one : m α} {other : n α} {oneNext : α → m β}
    {otherNext : α → n β} :
    R α one other →
      (∀ value, R β (oneNext value) (otherNext value)) →
        R β (one >>= oneNext) (other >>= otherNext)
  log (event : Event) :
    event.object? = none → R Unit (first.log event) (second.log event)

variable {first : Interpreter m} {second : Interpreter n}
  {R : (α : Type) → m α → n α → Prop}

/-- The tests in a list have related interpretations. -/
def Interpreter.RelatedAt (first : Interpreter m) (second : Interpreter n)
    (R : (α : Type) → m α → n α → Prop) (leaves : List Expression) : Prop :=
  ∀ leaf ∈ leaves, R Bool (leaf.interpret first) (leaf.interpret second)

namespace Compatible

variable (compatible : Compatible first second R)
include compatible

/-- Such a relation need not be told which tokens were read. -/
theorem graded : Graded fun _ => R where
  pure := fun _ => compatible.pure
  bind := compatible.bind

theorem conditional (conditional : Conditional)
    (tests : first.RelatedAt second R conditional.leaves) :
    R Bool (conditional.interpret first) (conditional.interpret second) :=
  compatible.graded.conditional conditional tests

theorem decisionSet (set : DecisionSet)
    (tests : first.RelatedAt second R set.leaves) :
    R _ (set.interpret first) (set.interpret second) :=
  compatible.graded.decisionSet compatible.log set tests

theorem scoreSet (set : ScoreSet) (tests : first.RelatedAt second R set.leaves) :
    R _ (set.interpret first) (set.interpret second) :=
  compatible.graded.scoreSet compatible.log set tests

theorem detailed (rule : Rule) (tests : first.RelatedAt second R rule.leaves) :
    R _ (rule.interpretDetailed first) (rule.interpretDetailed second) :=
  compatible.graded.detailed compatible.log rule tests

theorem test {leaf : Expression}
    (token : R _ (first.resolve leaf.token) (second.resolve leaf.token)) :
    R Bool (leaf.interpret first) (leaf.interpret second) :=
  compatible.graded.test token

variable [LawfulMonad m] [LawfulMonad n]

theorem rule (rule : Rule) (tests : first.RelatedAt second R rule.leaves) :
    R _ (rule.interpret first) (rule.interpret second) :=
  compatible.graded.rule compatible.log rule tests

/-- A relation that holds at every fact token, and at every rule token around a
rule at which it holds, holds at all tokens. -/
theorem token {root : List Token}
    (fact : ∀ name kind, (Token.fact name kind).OccursIn root →
      R _ (first.resolve (.fact name kind)) (second.resolve (.fact name kind)))
    (embed : ∀ label object kind embedded,
      (Token.rule label object kind embedded).OccursIn root →
        R _ (embedded.interpret first) (embedded.interpret second) →
          R _ (first.resolve (.rule label object kind embedded))
            (second.resolve (.rule label object kind embedded)))
    {token : Token} (occurs : token.OccursIn root) :
    R _ (first.resolve token) (second.resolve token) :=
  compatible.graded.token compatible.log fact embed occurs

/-- A relation that holds at every fact token below some tests, and at every rule
token around a rule at which it holds, holds at the tests. -/
theorem tests {leaves : List Expression}
    (fact : ∀ name kind,
      (Token.fact name kind).OccursIn (leaves.map (·.token)) →
        R _ (first.resolve (.fact name kind))
          (second.resolve (.fact name kind)))
    (embed : ∀ label object kind embedded,
      (Token.rule label object kind embedded).OccursIn
          (leaves.map (·.token)) →
        R _ (embedded.interpret first) (embedded.interpret second) →
          R _ (first.resolve (.rule label object kind embedded))
            (second.resolve (.rule label object kind embedded))) :
    first.RelatedAt second R leaves :=
  fun _ member => compatible.test <|
    compatible.token fact embed (.among (List.mem_map_of_mem member))

end Compatible

end Comparing

end Rulebook
