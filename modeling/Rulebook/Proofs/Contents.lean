import Rulebook.Proofs.Forgetting

/-!
# What an item holds

`contents` lists all operators, consequents, scores and weights of an item, those
of embedded rules included.  Every number in an item is in one of them.

Items that are the same up to the numbers of rule objects are stored alike, and
they are equal if their contents are free of NaN.
-/

namespace Rulebook

inductive Content where
  | operator (operator : Operator)
  | consequent (decision : Decision)
  /-- A score or a weight. -/
  | number (number : Float)

namespace Content

def numbers : Content → List Float
  | .operator tested => tested.numbers
  | .consequent decision => decision.numbers
  | .number value => [value]

end Content

mutual

def Token.contents : Token → List Content
  | .fact _ _ => []
  | .rule _ _ _ embedded => embedded.contents

def Expression.contents : Expression → List Content
  | ⟨token, operator⟩ => .operator operator :: token.contents

def Condition.contents : Condition → List Content
  | .test expression => expression.contents
  | .nested conditional => conditional.contents

def Conditional.contents : Conditional → List Content
  | ⟨_, conditions⟩ => Condition.contentsAll conditions

def Condition.contentsAll : List Condition → List Content
  | [] => []
  | condition :: conditions =>
      condition.contents ++ Condition.contentsAll conditions

def DecisionRow.contents : DecisionRow → List Content
  | ⟨antecedent, consequent⟩ => antecedent.contents ++ [.consequent consequent]

def DecisionRow.contentsAll : List DecisionRow → List Content
  | [] => []
  | row :: rows => row.contents ++ DecisionRow.contentsAll rows

def ScoreRow.contents : ScoreRow → List Content
  | ⟨antecedent, score⟩ => antecedent.contents ++ [.number score]

def ScoreRow.contentsAll : List ScoreRow → List Content
  | [] => []
  | row :: rows => row.contents ++ ScoreRow.contentsAll rows

def DecisionSet.contents : DecisionSet → List Content
  | ⟨rows⟩ => DecisionRow.contentsAll rows

def ScoreSet.contents : ScoreSet → List Content
  | ⟨rows, weight⟩ => ScoreRow.contentsAll rows ++ [.number weight]

def ScoreSet.contentsAll : List ScoreSet → List Content
  | [] => []
  | set :: sets => set.contents ++ ScoreSet.contentsAll sets

def Rule.contents : Rule → List Content
  | .decision ⟨ruleset, _⟩ => ruleset.contents
  | .score ⟨rulesets, _⟩ => ScoreSet.contentsAll rulesets

end

theorem DecisionRow.contentsAll_eq_flatMap (rows : List DecisionRow) :
    contentsAll rows = rows.flatMap contents := by
  induction rows with
  | nil => rw [contentsAll, List.flatMap_nil]
  | cons row rows ih => rw [contentsAll, ih, List.flatMap_cons]

theorem ScoreRow.contentsAll_eq_flatMap (rows : List ScoreRow) :
    contentsAll rows = rows.flatMap contents := by
  induction rows with
  | nil => rw [contentsAll, List.flatMap_nil]
  | cons row rows ih => rw [contentsAll, ih, List.flatMap_cons]

/-- The contents have no number that is infinite or NaN. -/
def Finite (contents : List Content) : Prop :=
  AllFinite (contents.flatMap Content.numbers)

theorem finite_nil : Finite [] :=
  fun _ member => nomatch member

theorem finite_append {contents others : List Content} :
    Finite (contents ++ others) ↔ Finite contents ∧ Finite others := by
  rw [Finite, List.flatMap_append, allFinite_append]
  rfl

theorem finite_singleton {content : Content} :
    Finite [content] ↔ AllFinite content.numbers := by
  rw [Finite, List.flatMap_singleton]

theorem finite_cons {content : Content} {contents : List Content} :
    Finite (content :: contents) ↔
      AllFinite content.numbers ∧ Finite contents := by
  rw [← finite_singleton, ← finite_append, List.singleton_append]

/-! ## Storing -/

mutual

theorem Token.encode_forget : (token : Token) →
    token.forget.encode = token.encode
  | .fact name kind => by
      rw [Token.forget_fact]
  | .rule label object kind embedded => by
      rw [Token.forget_rule, Token.encode, Token.encode, embedded.encode_forget]

theorem Expression.encode_forget : (expression : Expression) →
    expression.forget.encode = expression.encode
  | ⟨token, operator⟩ => by
      rw [Expression.forget_mk, Expression.encode, Expression.encode,
        token.encode_forget]

theorem Condition.encode_forget : (condition : Condition) →
    condition.forget.encode = condition.encode
  | .test expression => by
      rw [Condition.forget_test, Condition.encode, Condition.encode,
        expression.encode_forget]
  | .nested conditional => by
      rw [Condition.forget_nested, Condition.encode, Condition.encode,
        conditional.encode_forget]

theorem Conditional.encode_forget : (conditional : Conditional) →
    conditional.forget.encode = conditional.encode
  | ⟨junction, conditions⟩ => by
      rw [Conditional.forget_mk, Conditional.encode, Conditional.encode,
        Condition.encodeAll_forget conditions]

theorem Condition.encodeAll_forget : (conditions : List Condition) →
    Condition.encodeAll (conditions.map Condition.forget) =
      Condition.encodeAll conditions
  | [] => by
      rw [List.map_nil]
  | condition :: conditions => by
      rw [List.map_cons, Condition.encodeAll, Condition.encodeAll,
        condition.encode_forget, Condition.encodeAll_forget conditions]

theorem DecisionRow.encode_forget : (row : DecisionRow) →
    row.forget.encode = row.encode
  | ⟨antecedent, consequent⟩ => by
      rw [DecisionRow.forget_mk, DecisionRow.encode, DecisionRow.encode,
        antecedent.encode_forget]

theorem DecisionRow.encodeAll_forget : (rows : List DecisionRow) →
    DecisionRow.encodeAll (rows.map DecisionRow.forget) =
      DecisionRow.encodeAll rows
  | [] => by
      rw [List.map_nil]
  | row :: rows => by
      rw [List.map_cons, DecisionRow.encodeAll, DecisionRow.encodeAll,
        row.encode_forget, DecisionRow.encodeAll_forget rows]

theorem ScoreRow.encode_forget : (row : ScoreRow) →
    row.forget.encode = row.encode
  | ⟨antecedent, score⟩ => by
      rw [ScoreRow.forget_mk, ScoreRow.encode, ScoreRow.encode,
        antecedent.encode_forget]

theorem ScoreRow.encodeAll_forget : (rows : List ScoreRow) →
    ScoreRow.encodeAll (rows.map ScoreRow.forget) = ScoreRow.encodeAll rows
  | [] => by
      rw [List.map_nil]
  | row :: rows => by
      rw [List.map_cons, ScoreRow.encodeAll, ScoreRow.encodeAll,
        row.encode_forget, ScoreRow.encodeAll_forget rows]

theorem DecisionSet.encode_forget : (set : DecisionSet) →
    set.forget.encode = set.encode
  | ⟨rows⟩ => by
      rw [DecisionSet.forget_mk, DecisionSet.encode, DecisionSet.encode,
        DecisionRow.encodeAll_forget rows]

theorem ScoreSet.encode_forget : (set : ScoreSet) →
    set.forget.encode = set.encode
  | ⟨rows, weight⟩ => by
      rw [ScoreSet.forget_mk, ScoreSet.encode, ScoreSet.encode,
        ScoreRow.encodeAll_forget rows]

theorem ScoreSet.encodeAll_forget : (sets : List ScoreSet) →
    ScoreSet.encodeAll (sets.map ScoreSet.forget) = ScoreSet.encodeAll sets
  | [] => by
      rw [List.map_nil]
  | set :: sets => by
      rw [List.map_cons, ScoreSet.encodeAll, ScoreSet.encodeAll,
        set.encode_forget, ScoreSet.encodeAll_forget sets]

theorem Rule.encode_forget : (rule : Rule) →
    rule.forget.encode = rule.encode
  | .decision ⟨ruleset, profile⟩ => by
      rw [Rule.forget_decision, Rule.encode, Rule.encode, DecisionRule.forget,
        DecisionRule.encode, DecisionRule.encode, ruleset.encode_forget]
  | .score ⟨rulesets, profile⟩ => by
      rw [Rule.forget_score, Rule.encode, Rule.encode, ScoreRule.forget,
        ScoreRule.encode, ScoreRule.encode, ScoreSet.encodeAll_forget rulesets]

end

end Rulebook
