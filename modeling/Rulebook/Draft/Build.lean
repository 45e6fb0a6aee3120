import Rulebook.Draft.Basic
import Rulebook.Rule.Checked
import Rulebook.Rule.Numbering

/-!
# Building drafts

A draft is built from the inside out and in the order in which it is written,
and the first defect is the answer.  Every rule that is not a reference becomes
a new rule object.
-/

namespace Rulebook

/-- Why a draft cannot be built. -/
inductive BuildError where
  /-- A part of the draft is defective. -/
  | config (defect : ConfigError)
  /-- The draft refers to a rule that was not defined. -/
  | unknownRule (name : String)

/-- A builder of drafts, which numbers the rule objects that it makes. -/
abbrev Builder (α : Type) : Type :=
  Numbering BuildError α

namespace Builder

variable {α : Type}

/-- Go on with an item that passed the checks of its constructor. -/
def check (result : Except ConfigError α) : Builder α :=
  Numbering.check .config result

end Builder

/-- The rule objects that drafts may refer to, by name. -/
abbrev Definitions :=
  NameMap RuleObject

def Definitions.find (definitions : Definitions) (name : String) :
    Builder RuleObject :=
  match definitions.get? name with
  | some object => return object
  | none => throw (.unknownRule name)

def Rule.number (rule : Rule) : Builder RuleObject := do
  return ⟨← Numbering.fresh, rule⟩

def OperatorDraft.build : OperatorDraft → Builder Operator
  | .plain operator => return operator
  | .between floor ceiling => Builder.check (Operator.between floor ceiling)

mutual

def TokenDraft.build (definitions : Definitions) : TokenDraft → Builder Token
  | .fact name kind => return .fact name kind
  | .rule label embedded => do
      let object ← embedded.build definitions
      Builder.check (Token.embed label object)

def ExpressionDraft.build (definitions : Definitions) :
    ExpressionDraft → Builder Expression
  | .pair token operator => do
      let token ← token.build definitions
      let operator ← operator.build
      Builder.check (Expression.make token operator)
  | .onFact name operator => do
      let operator ← operator.build
      Builder.check operator.checkRange
      return Expression.onFact name operator

def ConditionDraft.build (definitions : Definitions) :
    ConditionDraft → Builder Condition
  | .test expression => Condition.test <$> expression.build definitions
  | .nested conditional => Condition.nested <$> conditional.build definitions

def ConditionalDraft.build (definitions : Definitions) :
    ConditionalDraft → Builder Conditional
  | ⟨junction, conditions⟩ =>
      Conditional.mk junction <$> ConditionDraft.buildAll definitions conditions

def ConditionDraft.buildAll (definitions : Definitions) :
    List ConditionDraft → Builder (List Condition)
  | [] => return []
  | draft :: drafts => do
      let condition ← draft.build definitions
      return condition :: (← ConditionDraft.buildAll definitions drafts)

def DecisionRowDraft.build (definitions : Definitions) :
    DecisionRowDraft → Builder DecisionRow
  | ⟨antecedent, consequent⟩ =>
      (DecisionRow.mk · consequent) <$> antecedent.build definitions

def DecisionRowDraft.buildAll (definitions : Definitions) :
    List DecisionRowDraft → Builder (List DecisionRow)
  | [] => return []
  | draft :: drafts => do
      let row ← draft.build definitions
      return row :: (← DecisionRowDraft.buildAll definitions drafts)

def ScoreRowDraft.build (definitions : Definitions) :
    ScoreRowDraft → Builder ScoreRow
  | ⟨antecedent, score⟩ => do
      let antecedent ← antecedent.build definitions
      Builder.check (ScoreRow.make antecedent score)

def ScoreRowDraft.buildAll (definitions : Definitions) :
    List ScoreRowDraft → Builder (List ScoreRow)
  | [] => return []
  | draft :: drafts => do
      let row ← draft.build definitions
      return row :: (← ScoreRowDraft.buildAll definitions drafts)

def ScoreRowDraft.buildPairs (definitions : Definitions) :
    List ScoreRowDraft → Builder (List (Conditional × Float))
  | [] => return []
  | ⟨antecedent, score⟩ :: drafts => do
      let antecedent ← antecedent.build definitions
      return (antecedent, score) ::
        (← ScoreRowDraft.buildPairs definitions drafts)

def DecisionSetDraft.build (definitions : Definitions) :
    DecisionSetDraft → Builder DecisionSet
  | ⟨rows⟩ => DecisionSet.mk <$> DecisionRowDraft.buildAll definitions rows

def DecisionSetDraft.buildAll (definitions : Definitions) :
    List DecisionSetDraft → Builder (List DecisionSet)
  | [] => return []
  | draft :: drafts => do
      let set ← draft.build definitions
      return set :: (← DecisionSetDraft.buildAll definitions drafts)

def ScoreSetDraft.build (definitions : Definitions) :
    ScoreSetDraft → Builder ScoreSet
  | ⟨rows, weight, true⟩ => do
      let pairs ← ScoreRowDraft.buildPairs definitions rows
      Builder.check (ScoreSet.ofPairs pairs weight)
  | ⟨rows, weight, false⟩ => do
      let rows ← ScoreRowDraft.buildAll definitions rows
      Builder.check (ScoreSet.make rows weight)

def ScoreSetDraft.buildAll (definitions : Definitions) :
    List ScoreSetDraft → Builder (List ScoreSet)
  | [] => return []
  | draft :: drafts => do
      let set ← draft.build definitions
      return set :: (← ScoreSetDraft.buildAll definitions drafts)

def RuleDraft.build (definitions : Definitions) :
    RuleDraft → Builder RuleObject
  | .decision ruleset => do
      let ruleset ← ruleset.build definitions
      let rule ← Builder.check (DecisionRule.make ruleset)
      (Rule.decision rule).number
  | .decisions rulesets => do
      let rulesets ← DecisionSetDraft.buildAll definitions rulesets
      let rule ← Builder.check (DecisionRule.ofSets rulesets)
      (Rule.decision rule).number
  | .score rulesets => do
      let rulesets ← ScoreSetDraft.buildAll definitions rulesets
      let rule ← Builder.check (ScoreRule.make rulesets)
      (Rule.score rule).number
  | .reference name => definitions.find name
  | .copy name => do
      let object ← definitions.find name
      object.rule.number

end

end Rulebook
