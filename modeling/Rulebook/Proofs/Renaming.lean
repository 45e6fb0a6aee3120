import Rulebook.Proofs.Meaning

/-!
# Renaming labels and rule objects

The label of a rule token and the number of its rule object are names only.
`rename` gives all of them new names, in the rules embedded at any depth too.
Two items that some renaming makes equal differ in nothing but labels and
sharing: one may embed a single rule object where the other embeds separate
copies of it.  Their meanings are the same.
-/

namespace Rulebook

mutual

/-- A token with new labels and numbers. -/
def Token.rename (label : String → String) (number : Nat → Nat) :
    Token → Token
  | .fact name kind => .fact name kind
  | .rule name object kind embedded =>
      .rule (label name) (number object) kind (embedded.rename label number)

def Expression.rename (label : String → String) (number : Nat → Nat) :
    Expression → Expression
  | ⟨token, operator⟩ => ⟨token.rename label number, operator⟩

def Condition.rename (label : String → String) (number : Nat → Nat) :
    Condition → Condition
  | .test expression => .test (expression.rename label number)
  | .nested conditional => .nested (conditional.rename label number)

def Conditional.rename (label : String → String) (number : Nat → Nat) :
    Conditional → Conditional
  | ⟨junction, conditions⟩ =>
      ⟨junction, Condition.renameAll label number conditions⟩

def Condition.renameAll (label : String → String) (number : Nat → Nat) :
    List Condition → List Condition
  | [] => []
  | condition :: conditions =>
      condition.rename label number ::
        Condition.renameAll label number conditions

def DecisionRow.renameAll (label : String → String) (number : Nat → Nat) :
    List DecisionRow → List DecisionRow
  | [] => []
  | ⟨antecedent, consequent⟩ :: rows =>
      ⟨antecedent.rename label number, consequent⟩ ::
        DecisionRow.renameAll label number rows

def ScoreRow.renameAll (label : String → String) (number : Nat → Nat) :
    List ScoreRow → List ScoreRow
  | [] => []
  | ⟨antecedent, score⟩ :: rows =>
      ⟨antecedent.rename label number, score⟩ ::
        ScoreRow.renameAll label number rows

def ScoreSet.renameAll (label : String → String) (number : Nat → Nat) :
    List ScoreSet → List ScoreSet
  | [] => []
  | ⟨rows, weight⟩ :: sets =>
      ⟨ScoreRow.renameAll label number rows, weight⟩ ::
        ScoreSet.renameAll label number sets

def Rule.rename (label : String → String) (number : Nat → Nat) : Rule → Rule
  | .decision ⟨⟨rows⟩, profile⟩ =>
      .decision ⟨⟨DecisionRow.renameAll label number rows⟩, profile⟩
  | .score ⟨rulesets, profile⟩ =>
      .score ⟨ScoreSet.renameAll label number rulesets, profile⟩

end

def DecisionSet.rename (label : String → String) (number : Nat → Nat)
    (set : DecisionSet) : DecisionSet :=
  ⟨DecisionRow.renameAll label number set.rows⟩

def ScoreSet.rename (label : String → String) (number : Nat → Nat)
    (set : ScoreSet) : ScoreSet :=
  ⟨ScoreRow.renameAll label number set.rows, set.weight⟩

section Meaning

variable (facts : Facts) (label : String → String) (number : Nat → Nat)

mutual

theorem Token.meaning_rename :
    (token : Token) →
      (token.rename label number).meaning facts = token.meaning facts
  | .fact name kind => by
      rw [Token.rename]
  | .rule name object kind embedded => by
      rw [Token.rename, Token.meaning, Token.meaning, embedded.meaning_rename]

theorem Expression.meaning_rename :
    (expression : Expression) →
      (expression.rename label number).meaning facts =
        expression.meaning facts
  | ⟨token, operator⟩ => by
      rw [Expression.rename, Expression.meaning, Expression.meaning,
        token.meaning_rename]

theorem Condition.meaning_rename :
    (condition : Condition) →
      (condition.rename label number).meaning facts = condition.meaning facts
  | .test expression => by
      rw [Condition.rename, Condition.meaning, Condition.meaning,
        expression.meaning_rename]
  | .nested conditional => by
      rw [Condition.rename, Condition.meaning, Condition.meaning,
        conditional.meaning_rename]

theorem Conditional.meaning_rename :
    (conditional : Conditional) →
      (conditional.rename label number).meaning facts =
        conditional.meaning facts
  | ⟨junction, conditions⟩ => by
      rw [Conditional.rename, Conditional.meaning, Conditional.meaning,
        Condition.meaningAll_rename junction conditions]

theorem Condition.meaningAll_rename (junction : Junction) :
    (conditions : List Condition) →
      Condition.meaningAll facts junction
          (Condition.renameAll label number conditions) =
        Condition.meaningAll facts junction conditions
  | [] => by
      rw [Condition.renameAll]
  | condition :: conditions => by
      rw [Condition.renameAll, Condition.meaningAll, Condition.meaningAll,
        condition.meaning_rename,
        Condition.meaningAll_rename junction conditions]

theorem DecisionRow.meaningAll_rename :
    (rows : List DecisionRow) →
      DecisionRow.meaningAll facts (DecisionRow.renameAll label number rows) =
        DecisionRow.meaningAll facts rows
  | [] => by
      rw [DecisionRow.renameAll]
  | ⟨antecedent, consequent⟩ :: rows => by
      rw [DecisionRow.renameAll, DecisionRow.meaningAll,
        DecisionRow.meaningAll, antecedent.meaning_rename,
        DecisionRow.meaningAll_rename rows]

theorem ScoreRow.meaningAll_rename (weight : Float) :
    (rows : List ScoreRow) →
      ScoreRow.meaningAll facts weight
          (ScoreRow.renameAll label number rows) =
        ScoreRow.meaningAll facts weight rows
  | [] => by
      rw [ScoreRow.renameAll]
  | ⟨antecedent, score⟩ :: rows => by
      rw [ScoreRow.renameAll, ScoreRow.meaningAll, ScoreRow.meaningAll,
        antecedent.meaning_rename, ScoreRow.meaningAll_rename weight rows]

theorem ScoreSet.meaningAll_rename (total : Float) :
    (sets : List ScoreSet) →
      ScoreSet.meaningAll facts total
          (ScoreSet.renameAll label number sets) =
        ScoreSet.meaningAll facts total sets
  | [] => by
      rw [ScoreSet.renameAll]
  | ⟨rows, weight⟩ :: sets => by
      rw [ScoreSet.renameAll, ScoreSet.meaningAll, ScoreSet.meaningAll,
        ScoreRow.meaningAll_rename weight rows]
      exact bind_congr fun contribution =>
        ScoreSet.meaningAll_rename (total + contribution) sets

theorem Rule.meaning_rename :
    (rule : Rule) →
      (rule.rename label number).meaning facts = rule.meaning facts
  | .decision ⟨⟨rows⟩, _⟩ => by
      rw [Rule.rename, Rule.meaning, Rule.meaning,
        DecisionRow.meaningAll_rename rows]
  | .score ⟨rulesets, _⟩ => by
      rw [Rule.rename, Rule.meaning, Rule.meaning,
        ScoreSet.meaningAll_rename 0 rulesets]

end

theorem DecisionSet.meaning_rename (set : DecisionSet) :
    (set.rename label number).meaning facts = set.meaning facts :=
  DecisionRow.meaningAll_rename facts label number set.rows

theorem ScoreSet.meaning_rename (set : ScoreSet) :
    (set.rename label number).meaning facts = set.meaning facts :=
  ScoreRow.meaningAll_rename facts label number set.weight set.rows

end Meaning

end Rulebook
