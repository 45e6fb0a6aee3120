import Rulebook.Proofs.Compatibility
import Rulebook.Proofs.Obtainable
import Rulebook.Proofs.Renaming

/-!
# Calls

A call is one evaluation of an item by one of the entry points, which all start
from an empty cache.  The answer of a call is what the entry point returns; of a
report only the outcome is kept.  `Call.walk` is the walk behind a call, and
`Call.meaning` is the answer of the evaluator without a cache.

Two calls that some renaming makes equal evaluate items that differ in labels
and in sharing only.
-/

namespace Rulebook

/-- An item together with the entry point that evaluates it. -/
inductive Call where
  | resolve (token : Token)
  | test (expression : Expression)
  | combine (conditional : Conditional)
  | decide (set : DecisionSet)
  | contribute (set : ScoreSet)
  | execute (rule : Rule)
  | report (rule : Rule)

inductive Answer where
  | value (value : Option Resolved)
  | truth (truth : Bool)
  | decision (decision : Option Decision)
  | contribution (contribution : Float)
  | outcome (outcome : Outcome)

namespace Call

def item : Call → Item
  | resolve token => .token token
  | test expression => .expression expression
  | combine conditional => .conditional conditional
  | decide set => .decisionSet set
  | contribute set => .scoreSet set
  | execute rule | report rule => .rule rule

def tokens (call : Call) : List Token :=
  call.item.tokens

def answer (facts : Facts) : Call → Except EvalError Answer
  | resolve token => .value <$> token.resolve facts
  | test expression => .truth <$> expression.evaluate facts
  | combine conditional => .truth <$> conditional.evaluate facts
  | decide set => .decision <$> set.evaluate facts
  | contribute set => .contribution <$> set.evaluate facts
  | execute rule => .outcome <$> rule.execute facts
  | report rule => (.outcome ·.outcome) <$> rule.executeDetailed facts

/-- The walk behind a call. -/
def walk (facts : Facts) : Call → Walk Answer
  | resolve token => .value <$> token.walk facts
  | test expression => .truth <$> expression.walk facts
  | combine conditional => .truth <$> conditional.walk facts
  | decide set =>
      (.decision <| ·.map (·.2.consequent)) <$> set.walk facts
  | contribute set => (.contribution <| set.contribution ·) <$> set.walk facts
  | execute rule => .outcome <$> rule.walk facts
  | report rule => (.outcome ·.outcome) <$> rule.walkDetailed facts

/-- The answer that the evaluator without a cache gives. -/
def meaning (facts : Facts) : Call → Except EvalError Answer
  | resolve token => .value <$> token.meaning facts
  | test expression => .truth <$> expression.meaning facts
  | combine conditional => .truth <$> conditional.meaning facts
  | decide set => .decision <$> set.meaning facts
  | contribute set => .contribution <$> set.meaning facts
  | execute rule | report rule => .outcome <$> rule.meaning facts

def rename (label : String → String) (number : Nat → Nat) : Call → Call
  | resolve token => resolve (token.rename label number)
  | test expression => test (expression.rename label number)
  | combine conditional => combine (conditional.rename label number)
  | decide set => decide (set.rename label number)
  | contribute set => contribute (set.rename label number)
  | execute rule => execute (rule.rename label number)
  | report rule => report (rule.rename label number)

def interpret {m : Type → Type} [Monad m] (interpreter : Interpreter m) :
    Call → m Answer
  | resolve token => .value <$> interpreter.resolve token
  | test expression => .truth <$> expression.interpret interpreter
  | combine conditional => .truth <$> conditional.interpret interpreter
  | decide set =>
      (.decision <| ·.map (·.2.consequent)) <$> set.interpret interpreter
  | contribute set =>
      (.contribution <| set.contribution ·) <$> set.interpret interpreter
  | execute rule => .outcome <$> rule.interpret interpreter
  | report rule => (.outcome ·.outcome) <$> rule.interpretDetailed interpreter

variable (facts : Facts) (call : Call)

/-- A call answers with the result of its walk. -/
theorem answer_eq_result : call.answer facts = (call.walk facts).result := by
  cases call with
  | decide set =>
      rw [answer, walk, Walk.result_map, DecisionSet.evaluate]
      cases (set.walk facts).result <;> rfl
  | contribute set =>
      rw [answer, walk, Walk.result_map, ScoreSet.evaluate]
      cases (set.walk facts).result <;> rfl
  | _ =>
      rw [answer, walk, Walk.result_map]
      rfl

theorem walk_eq_interpret :
    call.walk facts = call.interpret (.cached facts) := by
  cases call with
  | resolve token => rfl
  | test expression => rw [walk, interpret, expression.walk_eq_interpret]
  | combine conditional => rw [walk, interpret, conditional.walk_eq_interpret]
  | decide set => rw [walk, interpret, set.walk_eq_interpret]
  | contribute set => rw [walk, interpret, set.walk_eq_interpret]
  | execute rule => rw [walk, interpret, rule.walk_eq_interpret]
  | report rule => rw [walk, interpret, rule.walkDetailed_eq_interpretDetailed]

theorem meaning_eq_interpret :
    call.meaning facts = call.interpret (.plain facts) := by
  cases call with
  | resolve token => rfl
  | test expression => rw [meaning, interpret, expression.meaning_eq_interpret]
  | combine conditional =>
      rw [meaning, interpret, conditional.meaning_eq_interpret]
  | decide set =>
      rw [meaning, interpret, set.meaning_eq_interpret, ← comp_map]
      rfl
  | contribute set =>
      rw [meaning, interpret, set.meaning_eq_interpret, ← comp_map]
      rfl
  | execute rule => rw [meaning, interpret, rule.meaning_eq_interpret]
  | report rule =>
      have silent (event : Event) :
          (Interpreter.plain facts).log event = pure () :=
        rfl
      rw [meaning, interpret, rule.meaning_eq_interpret,
        ← rule.interpretDetailed_map_outcome _ silent, ← comp_map]
      rfl

/-- New labels and numbers do not change the meaning of a call. -/
theorem meaning_rename (label : String → String) (number : Nat → Nat) :
    (call.rename label number).meaning facts = call.meaning facts := by
  cases call with
  | resolve token => rw [rename, meaning, meaning, token.meaning_rename]
  | test expression => rw [rename, meaning, meaning, expression.meaning_rename]
  | combine conditional =>
      rw [rename, meaning, meaning, conditional.meaning_rename]
  | decide set => rw [rename, meaning, meaning, set.meaning_rename]
  | contribute set => rw [rename, meaning, meaning, set.meaning_rename]
  | execute rule => rw [rename, meaning, meaning, rule.meaning_rename]
  | report rule => rw [rename, meaning, meaning, rule.meaning_rename]

end Call

section Sharing

/-- The rule that tells whether a level is positive. -/
def Rule.positive : Rule :=
  .decision
    ⟨⟨[⟨⟨.all, [.test (.onFact "level" (.numeric (.gt 0)))]⟩,
      .boolean true⟩]⟩, ⟨.ofList [("level", .numeric)], 1⟩⟩

/-- A rule that asks the same rule twice, under two labels and as rule objects
of the given numbers. -/
def Rule.twice (first second : Nat) : Rule :=
  .decision
    ⟨⟨[⟨⟨.all,
      [.test ⟨.rule "left" first .boolean .positive, .boolean (.is true)⟩,
        .test ⟨.rule "right" second .boolean .positive, .boolean (.is true)⟩]⟩,
      .text "on"⟩]⟩, ⟨.ofList [("level", .numeric)], 2⟩⟩

theorem Rule.eq_positive_of_occursIn_twice {first second object : Nat}
    {label : String} {kind : ValueKind} {rule : Rule}
    (occurs : (Token.rule label object kind rule).OccursIn
      (twice first second).tokens) : rule = positive := by
  have two : (twice first second).tokens =
      [.rule "left" first .boolean positive] ++
        [.rule "right" second .boolean positive] :=
    rfl
  have one : positive.tokens = [.fact "level" .numeric] := rfl
  rw [two, Token.occursIn_append, Token.occursIn_rule, Token.occursIn_rule,
    one, Token.occursIn_fact] at occurs
  rcases occurs with (⟨⟨⟩⟩ | ⟨⟨⟩⟩) | (⟨⟨⟩⟩ | ⟨⟨⟩⟩)
  · rfl
  · rfl

/-- The rule is coherent, whether its two tokens share a rule object or not. -/
theorem Rule.twice_coherent (first second : Nat) :
    Token.Coherent (twice first second).tokens :=
  .of_only positive fun _ _ _ _ => eq_positive_of_occursIn_twice

theorem Rule.positive_constructed : Item.Constructed (.rule .positive) := by
  have test : Item.Constructed
      (.expression (.onFact "level" (.numeric (.gt 0)))) :=
    .onFact "level" rfl
  have row : Item.Constructed (.decisionRow
      ⟨⟨.all, [.test (.onFact "level" (.numeric (.gt 0)))]⟩, .boolean true⟩) :=
    .decisionRow _ (.conditional .all
      (List.forall_mem_singleton.mpr (.test test)))
  exact .decision (.decisionSet (List.forall_mem_singleton.mpr row)) rfl

/-- The sign of a level may be asked for under any label. -/
theorem Expression.sign_constructed (label : String) (object : Nat) :
    Item.Constructed (.expression
      ⟨.rule label object .boolean .positive, .boolean (.is true)⟩) := by
  have token : Token.embed label ⟨object, .positive⟩ =
      .ok (.rule label object .boolean .positive) :=
    rfl
  have accepted :
      Expression.make (.rule label object .boolean .positive)
        (.boolean (.is true)) =
          .ok ⟨.rule label object .boolean .positive, .boolean (.is true)⟩ :=
    rfl
  exact .expression (.embed Rule.positive_constructed token) accepted

theorem Rule.twice_constructed (first second : Nat) :
    Item.Constructed (.rule (.twice first second)) := by
  have row : Item.Constructed (.decisionRow
      ⟨⟨.all,
        [.test ⟨.rule "left" first .boolean .positive, .boolean (.is true)⟩,
          .test
            ⟨.rule "right" second .boolean .positive, .boolean (.is true)⟩]⟩,
        .text "on"⟩) := by
    refine .decisionRow _ (.conditional .all ?_)
    rw [List.forall_mem_cons, List.forall_mem_singleton]
    exact ⟨.test (Expression.sign_constructed "left" first),
      .test (Expression.sign_constructed "right" second)⟩
  exact .decision (.decisionSet (List.forall_mem_singleton.mpr row)) rfl

end Sharing

section Comparing

variable {m n : Type → Type} [Monad m] [LawfulMonad m] [Monad n]
  [LawfulMonad n] {first : Interpreter m} {second : Interpreter n}
  {R : (α : Type) → m α → n α → Prop}

theorem Compatible.map (compatible : Compatible first second R) {α β : Type}
    {one : m α} {other : n α} (function : α → β) (related : R α one other) :
    R β (function <$> one) (function <$> other) := by
  rw [map_eq_pure_bind, map_eq_pure_bind]
  exact compatible.bind related fun value => compatible.pure (function value)

/-- A relation that holds at every fact token below a call, and at every rule
token around a rule at which it holds, holds at the call. -/
theorem Compatible.call (compatible : Compatible first second R) {call : Call}
    (fact : ∀ name kind, (Token.fact name kind).OccursIn call.tokens →
      R _ (first.resolve (.fact name kind)) (second.resolve (.fact name kind)))
    (embed : ∀ label object kind embedded,
      (Token.rule label object kind embedded).OccursIn call.tokens →
        R _ (embedded.interpret first) (embedded.interpret second) →
          R _ (first.resolve (.rule label object kind embedded))
            (second.resolve (.rule label object kind embedded))) :
    R _ (call.interpret first) (call.interpret second) := by
  cases call with
  | resolve token =>
      exact compatible.map _
        (compatible.token fact embed (.among (List.mem_singleton_self token)))
  | test expression =>
      exact compatible.map _
        (compatible.tests fact embed expression (List.mem_singleton_self _))
  | combine conditional =>
      exact compatible.map _
        (compatible.conditional conditional (compatible.tests fact embed))
  | decide set =>
      exact compatible.map _
        (compatible.decisionSet set (compatible.tests fact embed))
  | contribute set =>
      exact compatible.map _
        (compatible.scoreSet set (compatible.tests fact embed))
  | execute rule =>
      exact compatible.map _
        (compatible.rule rule (compatible.tests fact embed))
  | report rule =>
      exact compatible.map _
        (compatible.detailed rule (compatible.tests fact embed))

end Comparing

end Rulebook
