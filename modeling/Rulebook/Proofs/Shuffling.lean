import Mathlib.Data.List.Perm.Basic
import Rulebook.Proofs.Eager
import Rulebook.Proofs.FirstContact

/-!
# The order of conditions

A walk stops early, so the order of the conditions of a conditional decides which
tests are evaluated and which embedded rules are run.  The eager evaluator
evaluates all of them and combines what comes out by a plain conjunction or
disjunction, which does not depend on the order.  On facts that pass the check
both evaluators agree, and so the order makes no difference to a walk either.

`Rule.Shuffled` relates a rule to those in which the conditions of any
conditionals stand in another order, in the rule's own rows and in the rules that
are embedded in it.
-/

namespace Rulebook

mutual

/-- A token is shuffled if its rule is, which may have become another rule
object. -/
inductive Token.Shuffled : Token → Token → Prop
  | fact (name : String) (kind : ValueKind) :
      Token.Shuffled (.fact name kind) (.fact name kind)
  | rule {embedded shuffled : Rule} (label : String) (object other : Nat)
      (kind : ValueKind) :
      Rule.Shuffled embedded shuffled →
        Token.Shuffled (.rule label object kind embedded)
          (.rule label other kind shuffled)

inductive Condition.Shuffled : Condition → Condition → Prop
  | test {token other : Token} (operator : Operator) :
      Token.Shuffled token other →
        Condition.Shuffled (.test ⟨token, operator⟩) (.test ⟨other, operator⟩)
  | nested {inner other : Conditional} :
      Conditional.Shuffled inner other →
        Condition.Shuffled (.nested inner) (.nested other)

inductive Conditional.Shuffled : Conditional → Conditional → Prop
  | conditions {conditions others : List Condition} (junction : Junction) :
      Condition.ShuffledAll conditions others →
        Conditional.Shuffled ⟨junction, conditions⟩ ⟨junction, others⟩

/-- The conditions themselves may be shuffled, and they stand in any order. -/
inductive Condition.ShuffledAll : List Condition → List Condition → Prop
  | nil : Condition.ShuffledAll [] []
  | cons {condition other : Condition} {conditions others all : List Condition} :
      Condition.Shuffled condition other →
        Condition.ShuffledAll conditions others →
          all.Perm (other :: others) →
            Condition.ShuffledAll (condition :: conditions) all

/-- Rows stay where they are. -/
inductive DecisionRow.ShuffledAll : List DecisionRow → List DecisionRow → Prop
  | nil : DecisionRow.ShuffledAll [] []
  | cons {antecedent other : Conditional} {rows others : List DecisionRow}
      (consequent : Decision) :
      Conditional.Shuffled antecedent other →
        DecisionRow.ShuffledAll rows others →
          DecisionRow.ShuffledAll (⟨antecedent, consequent⟩ :: rows)
            (⟨other, consequent⟩ :: others)

inductive ScoreRow.ShuffledAll : List ScoreRow → List ScoreRow → Prop
  | nil : ScoreRow.ShuffledAll [] []
  | cons {antecedent other : Conditional} {rows others : List ScoreRow}
      (score : Float) :
      Conditional.Shuffled antecedent other →
        ScoreRow.ShuffledAll rows others →
          ScoreRow.ShuffledAll (⟨antecedent, score⟩ :: rows)
            (⟨other, score⟩ :: others)

inductive ScoreSet.ShuffledAll : List ScoreSet → List ScoreSet → Prop
  | nil : ScoreSet.ShuffledAll [] []
  | cons {rows others : List ScoreRow} {sets rest : List ScoreSet}
      (weight : Float) :
      ScoreRow.ShuffledAll rows others → ScoreSet.ShuffledAll sets rest →
        ScoreSet.ShuffledAll (⟨rows, weight⟩ :: sets)
          (⟨others, weight⟩ :: rest)

/-- What was recorded of the tokens has no part in this. -/
inductive Rule.Shuffled : Rule → Rule → Prop
  | decision {rows others : List DecisionRow} (profile other : Profile) :
      DecisionRow.ShuffledAll rows others →
        Rule.Shuffled (.decision ⟨⟨rows⟩, profile⟩)
          (.decision ⟨⟨others⟩, other⟩)
  | score {rulesets others : List ScoreSet} (profile other : Profile) :
      ScoreSet.ShuffledAll rulesets others →
        Rule.Shuffled (.score ⟨rulesets, profile⟩) (.score ⟨others, other⟩)

end

/-- Conditions are shuffled if each of them is and if they are put in some
order. -/
theorem Condition.shuffledAll_iff {conditions all : List Condition} :
    ShuffledAll conditions all ↔
      ∃ others, List.Forall₂ Shuffled conditions others ∧ all.Perm others := by
  constructor
  · intro shuffled
    induction conditions generalizing all with
    | nil =>
        cases shuffled
        exact ⟨[], .nil, .nil⟩
    | cons condition conditions ih =>
        cases shuffled with
        | cons first rest reordered =>
            obtain ⟨others, each, same⟩ := ih rest
            exact ⟨_, .cons first each, reordered.trans (same.cons _)⟩
  · rintro ⟨others, each, reordered⟩
    induction each generalizing all with
    | nil =>
        rw [List.perm_nil.mp reordered]
        exact .nil
    | cons first _ ih => exact .cons first (ih (.refl _)) reordered

/-- The order of values does not change their conjunction or disjunction. -/
theorem Junction.combine_perm {values others : List Bool}
    (same : values.Perm others) (junction : Junction) :
    junction.combine values = junction.combine others := by
  cases junction with
  | all => exact same.all_eq
  | any => exact same.any_eq

section Evaluation

variable {facts : Facts}

theorem mapM_eq_ok_iff {ε α β : Type} {evaluate : α → Except ε β}
    {items : List α} {values : List β} :
    items.mapM evaluate = .ok values ↔
      List.Forall₂ (fun item value => evaluate item = .ok value) items
        values := by
  induction items generalizing values with
  | nil => rw [List.mapM_nil, pure_eq_ok_iff, List.forall₂_nil_left_iff]
  | cons item items ih =>
      simp only [List.mapM_cons, bind_eq_ok_iff, pure_eq_ok_iff, ih,
        List.forall₂_cons_left_iff]
      constructor
      · rintro ⟨value, first, rest, others, same⟩
        exact ⟨value, rest, first, others, same⟩
      · rintro ⟨value, rest, first, others, same⟩
        exact ⟨value, first, rest, others, same⟩

theorem Condition.eagerAll_cons {condition : Condition}
    {conditions : List Condition} {value : Bool} {values : List Bool}
    (first : condition.eager facts = .ok value)
    (rest : eagerAll facts conditions = .ok values) :
    eagerAll facts (condition :: conditions) = .ok (value :: values) := by
  rw [eagerAll, first, rest]
  rfl

/-- Conditions in another order have their values in another order. -/
theorem Condition.eagerAll_perm {conditions others : List Condition}
    {values : List Bool} (same : others.Perm conditions)
    (all : eagerAll facts conditions = .ok values) :
    ∃ found, eagerAll facts others = .ok found ∧ found.Perm values := by
  rw [eagerAll_eq_mapM, mapM_eq_ok_iff] at all
  obtain ⟨found, each, reordered⟩ := List.perm_comp_forall₂ same all
  refine ⟨found, ?_, reordered⟩
  rw [eagerAll_eq_mapM, mapM_eq_ok_iff]
  exact each

mutual

theorem Token.Shuffled.eager {token other : Token} {value : Option Resolved} :
    Token.Shuffled token other → token.eager facts = .ok value →
      other.eager facts = .ok value
  | .fact name kind, ended => ended
  | .rule label object number kind shuffled, ended => by
      rw [Token.eager, bind_eq_ok_iff] at ended
      obtain ⟨outcome, inner, rest⟩ := ended
      rw [Token.eager, shuffled.eager inner]
      exact rest

theorem Condition.Shuffled.eager {condition other : Condition} {value : Bool} :
    Condition.Shuffled condition other → condition.eager facts = .ok value →
      other.eager facts = .ok value
  | .test operator shuffled, ended => by
      rw [Condition.eager, Expression.eager, bind_eq_ok_iff] at ended
      obtain ⟨resolved, inner, rest⟩ := ended
      rw [Condition.eager, Expression.eager, shuffled.eager inner]
      exact rest
  | .nested shuffled, ended => by
      rw [Condition.eager] at ended
      rw [Condition.eager]
      exact shuffled.eager ended

theorem Conditional.Shuffled.eager {conditional other : Conditional}
    {value : Bool} :
    Conditional.Shuffled conditional other →
      conditional.eager facts = .ok value → other.eager facts = .ok value
  | .conditions junction shuffled, ended => by
      rw [Conditional.eager, bind_eq_ok_iff] at ended
      obtain ⟨values, all, rest⟩ := ended
      obtain ⟨found, same, reordered⟩ := shuffled.eagerAll all
      rw [Conditional.eager, same]
      change Except.ok (junction.combine found) = _
      rw [junction.combine_perm reordered]
      exact rest

theorem Condition.ShuffledAll.eagerAll {conditions others : List Condition}
    {values : List Bool} :
    Condition.ShuffledAll conditions others →
      Condition.eagerAll facts conditions = .ok values →
        ∃ found, Condition.eagerAll facts others = .ok found ∧
          found.Perm values
  | .nil, ended => ⟨values, ended, .refl values⟩
  | .cons first shuffled reordered, ended => by
      simp only [Condition.eagerAll, bind_eq_ok_iff, pure_eq_ok_iff] at ended
      obtain ⟨value, inner, rest, all, rfl⟩ := ended
      obtain ⟨found, same, permuted⟩ := shuffled.eagerAll all
      obtain ⟨whole, ended, moved⟩ := Condition.eagerAll_perm reordered
        (Condition.eagerAll_cons (first.eager inner) same)
      exact ⟨whole, ended, moved.trans (permuted.cons value)⟩

theorem DecisionRow.ShuffledAll.eagerAll {rows others : List DecisionRow}
    {holds : List Bool} :
    DecisionRow.ShuffledAll rows others →
      DecisionRow.eagerAll facts rows = .ok holds →
        DecisionRow.eagerAll facts others = .ok holds ∧
          (lowest? others holds).map DecisionRow.consequent =
            (lowest? rows holds).map DecisionRow.consequent
  | .nil, ended => ⟨ended, rfl⟩
  | .cons consequent first shuffled, ended => by
      simp only [DecisionRow.eagerAll, bind_eq_ok_iff, pure_eq_ok_iff] at ended
      obtain ⟨value, inner, rest, all, rfl⟩ := ended
      obtain ⟨same, chosen⟩ := shuffled.eagerAll all
      refine ⟨?_, ?_⟩
      · rw [DecisionRow.eagerAll, first.eager inner, same]
        rfl
      · cases value with
        | true => rw [lowest?_cons_true, lowest?_cons_true]; rfl
        | false => rw [lowest?_cons_false, lowest?_cons_false, chosen]

theorem ScoreRow.ShuffledAll.eagerAll {rows others : List ScoreRow}
    {holds : List Bool} :
    ScoreRow.ShuffledAll rows others →
      ScoreRow.eagerAll facts rows = .ok holds →
        ScoreRow.eagerAll facts others = .ok holds ∧
          ∀ weight, ScoreRow.contribution weight (lowest? others holds) =
            ScoreRow.contribution weight (lowest? rows holds)
  | .nil, ended => ⟨ended, fun _ => rfl⟩
  | .cons score first shuffled, ended => by
      simp only [ScoreRow.eagerAll, bind_eq_ok_iff, pure_eq_ok_iff] at ended
      obtain ⟨value, inner, rest, all, rfl⟩ := ended
      obtain ⟨same, chosen⟩ := shuffled.eagerAll all
      refine ⟨?_, fun weight => ?_⟩
      · rw [ScoreRow.eagerAll, first.eager inner, same]
        rfl
      · cases value with
        | true => rw [lowest?_cons_true, lowest?_cons_true]; rfl
        | false => rw [lowest?_cons_false, lowest?_cons_false, chosen weight]

theorem ScoreSet.ShuffledAll.eagerAll {sets others : List ScoreSet}
    {contributions : List Float} :
    ScoreSet.ShuffledAll sets others →
      ScoreSet.eagerAll facts sets = .ok contributions →
        ScoreSet.eagerAll facts others = .ok contributions
  | .nil, ended => ended
  | .cons weight first shuffled, ended => by
      simp only [ScoreSet.eagerAll, bind_eq_ok_iff, pure_eq_ok_iff] at ended
      obtain ⟨holds, inner, rest, all, rfl⟩ := ended
      obtain ⟨same, chosen⟩ := first.eagerAll inner
      rw [ScoreSet.eagerAll, same, shuffled.eagerAll all, ← chosen weight]
      rfl

theorem Rule.Shuffled.eager {rule other : Rule} {outcome : Outcome} :
    Rule.Shuffled rule other → rule.eager facts = .ok outcome →
      other.eager facts = .ok outcome
  | .decision _ _ shuffled, ended => by
      rw [Rule.eager, bind_eq_ok_iff] at ended
      obtain ⟨holds, all, rest⟩ := ended
      obtain ⟨same, chosen⟩ := shuffled.eagerAll all
      rw [Rule.eager, same]
      change Except.ok (Outcome.ofDecision? _) = _
      rw [chosen]
      exact rest
  | .score _ _ shuffled, ended => by
      rw [Rule.eager, bind_eq_ok_iff] at ended
      obtain ⟨contributions, all, rest⟩ := ended
      rw [Rule.eager, shuffled.eagerAll all]
      exact rest

end

end Evaluation

section Sample

/-- The rule that lets a dog through where the level is positive, with its two
tests the other way round. -/
def Rule.gatedByPet (object : Nat) : Rule :=
  .decision
    ⟨⟨[⟨⟨.all,
      [.test (.onFact "pet" (.string (.equals "dog"))),
        .test ⟨.rule "sign" object .boolean .positive, .boolean (.is true)⟩]⟩,
      .text "GO"⟩]⟩,
      ⟨.ofList [("level", .numeric), ("pet", .string)], 2⟩⟩

theorem Rule.gated_shuffled (object : Nat) :
    (gated object).Shuffled (gatedByPet object) := by
  have positive : positive.Shuffled positive :=
    .decision _ _ (.cons _ (.conditions .all
      (.cons (.test _ (.fact "level" .numeric)) .nil (.refl _))) .nil)
  refine .decision _ _ (.cons _ (.conditions .all ?_) .nil)
  exact Condition.shuffledAll_iff.mpr ⟨_,
    .cons (.test _ (.rule "sign" object object .boolean positive))
      (.cons (.test _ (.fact "pet" .string)) .nil), .swap _ _ _⟩

end Sample

namespace Rule

variable {rule : Rule} {facts : Facts}

/-- On facts that pass the check of its requirements, a rule has a result, and it
is the result of the eager evaluator.  So it does not depend on the order of the
conditions of any conditional, be it in the rule or in a rule that is embedded in
it. -/
theorem execute_eq_eager (obtainable : Item.Obtainable (.rule rule))
    (coherent : Token.Coherent rule.tokens)
    (passed : rule.requirements.check facts = .ok ()) :
    (∃ outcome, rule.execute facts = .ok outcome) ∧
      rule.execute facts = rule.eager facts ∧
      ∀ other, rule.Shuffled other → Token.Coherent other.tokens →
        other.execute facts = rule.execute facts := by
  obtain ⟨outcome, ended⟩ := exists_eager_of_check obtainable.constructed passed
  have executed := execute_of_eager coherent ended
  refine ⟨⟨outcome, executed⟩, executed.trans ended.symm, ?_⟩
  intro other shuffled otherCoherent
  rw [execute_of_eager otherCoherent (shuffled.eager ended), executed]

/-- Where a cat comes, the sign of the level is only found out if it is asked
for first.  Neither order lets the cat through. -/
theorem execute_eq_eager_gated :
    let facts : Facts := .ofList [("level", .int 3), ("pet", .text "cat")]
    (gated 0).execute facts = .ok .noMatch ∧
      (gated 0).execute facts = (gated 0).eager facts ∧
      (gatedByPet 0).execute facts = (gated 0).execute facts ∧
      (gated 0).trace facts =
        [.started "sign" 0, .decisionRowMatched 0 (.boolean true),
          .decisionExecuted (some (.boolean true)),
          .resolved "sign" 0 (some (.boolean true)),
          .decisionExecuted none] ∧
      (gatedByPet 0).trace facts = [.decisionExecuted none] := by
  intro facts
  have law := execute_eq_eager (.of_constructed (gated_constructed 0))
    (gate_coherent (List.Subset.refl _))
    (rfl : (gated 0).requirements.check facts = .ok ())
  have turned := law.2.2 _ (gated_shuffled 0)
    (gate_coherent (List.Perm.swap _ _ _).subset)
  exact ⟨by with_unfolding_all rfl, law.2.1, turned,
    by with_unfolding_all rfl, by with_unfolding_all rfl⟩

end Rule

end Rulebook
