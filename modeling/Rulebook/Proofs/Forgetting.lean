import Rulebook.Document.Encode
import Rulebook.Proofs.Relabelling
import Rulebook.Proofs.Storing
import Rulebook.Rule.Equality

/-!
# Forgetting which rule objects are shared

`forget` gives all rule objects inside an item the number zero and leaves the
rest alone.  Items that are the same when this is forgotten have the same stored
form, and their rules have the same profile and mean the same.  They are equal
too, if no number in them is NaN.

The constructors look at no number of a rule object, so they accept such items
alike and with the same defects.
-/

namespace Rulebook

def Token.forget (token : Token) : Token :=
  token.rename id fun _ => 0

def Expression.forget (expression : Expression) : Expression :=
  expression.mapToken Token.forget

def Condition.forget (condition : Condition) : Condition :=
  condition.mapTokens Token.forget

def Conditional.forget (conditional : Conditional) : Conditional :=
  conditional.mapTokens Token.forget

def DecisionRow.forget (row : DecisionRow) : DecisionRow :=
  row.mapTokens Token.forget

def ScoreRow.forget (row : ScoreRow) : ScoreRow :=
  row.mapTokens Token.forget

def DecisionSet.forget (set : DecisionSet) : DecisionSet :=
  set.mapTokens Token.forget

def ScoreSet.forget (set : ScoreSet) : ScoreSet :=
  set.mapTokens Token.forget

def DecisionRule.forget (rule : DecisionRule) : DecisionRule :=
  ⟨rule.ruleset.forget, rule.profile⟩

def ScoreRule.forget (rule : ScoreRule) : ScoreRule :=
  ⟨rule.rulesets.map ScoreSet.forget, rule.profile⟩

def Rule.forget (rule : Rule) : Rule :=
  rule.rename id fun _ => 0

/-! `forget` goes into the parts of an item. -/

section Parts

variable {label : String} {object : Nat} {kind : ValueKind} {rule : Rule}

theorem Token.forget_fact (name : String) :
    (Token.fact name kind).forget = .fact name kind := by
  rw [forget, rename]

theorem Token.forget_rule :
    (Token.rule label object kind rule).forget =
      .rule label 0 kind rule.forget := by
  rw [forget, rename, Rule.forget, id]

theorem Expression.forget_mk (token : Token) (operator : Operator) :
    (Expression.mk token operator).forget = ⟨token.forget, operator⟩ :=
  rfl

theorem Condition.forget_test (expression : Expression) :
    (Condition.test expression).forget = .test expression.forget := by
  rw [forget, mapTokens, Expression.forget]

theorem Condition.forget_nested (conditional : Conditional) :
    (Condition.nested conditional).forget = .nested conditional.forget := by
  rw [forget, mapTokens, Conditional.forget]

theorem Conditional.forget_mk (junction : Junction)
    (conditions : List Condition) :
    (Conditional.mk junction conditions).forget =
      ⟨junction, conditions.map Condition.forget⟩ := by
  have all : Condition.mapTokensAll Token.forget conditions =
      conditions.map Condition.forget := by
    induction conditions with
    | nil => rw [Condition.mapTokensAll, List.map_nil]
    | cons condition conditions ih =>
        rw [Condition.mapTokensAll, ih, List.map_cons, Condition.forget]
  rw [forget, mapTokens, all]

theorem DecisionRow.forget_mk (antecedent : Conditional)
    (consequent : Decision) :
    (DecisionRow.mk antecedent consequent).forget =
      ⟨antecedent.forget, consequent⟩ :=
  rfl

theorem ScoreRow.forget_mk (antecedent : Conditional) (score : Float) :
    (ScoreRow.mk antecedent score).forget = ⟨antecedent.forget, score⟩ :=
  rfl

theorem DecisionSet.forget_mk (rows : List DecisionRow) :
    (DecisionSet.mk rows).forget = ⟨rows.map DecisionRow.forget⟩ :=
  rfl

theorem ScoreSet.forget_mk (rows : List ScoreRow) (weight : Float) :
    (ScoreSet.mk rows weight).forget = ⟨rows.map ScoreRow.forget, weight⟩ :=
  rfl

theorem Rule.forget_decision (rule : DecisionRule) :
    (Rule.decision rule).forget = .decision rule.forget :=
  rename_decision id (fun _ => 0) rule

theorem Rule.forget_score (rule : ScoreRule) :
    (Rule.score rule).forget = .score rule.forget :=
  rename_score id (fun _ => 0) rule

end Parts

/-! ## What stays the same -/

theorem Token.kind_forget (token : Token) : token.forget.kind = token.kind :=
  token.kind_rename id fun _ => 0

theorem Token.name_forget (token : Token) : token.forget.name = token.name := by
  cases token with
  | fact name kind => rw [forget_fact]
  | rule label object kind embedded => rw [forget_rule, Token.name, Token.name]

namespace Rule

theorem requirements_forget (rule : Rule) :
    rule.forget.requirements = rule.requirements :=
  rule.requirements_rename id fun _ => 0

theorem chainDepth_forget (rule : Rule) :
    rule.forget.chainDepth = rule.chainDepth :=
  rule.chainDepth_rename id fun _ => 0

theorem outputKind_forget (rule : Rule) :
    rule.forget.outputKind = rule.outputKind :=
  rule.outputKind_rename id fun _ => 0

end Rule

theorem DecisionSet.leaves_forget (set : DecisionSet) :
    set.forget.leaves = set.leaves.map Expression.forget :=
  set.leaves_mapTokens Token.forget

theorem ScoreSet.flatMap_leaves_forget (sets : List ScoreSet) :
    (sets.map forget).flatMap leaves =
      (sets.flatMap leaves).map Expression.forget :=
  flatMap_leaves_mapTokens Token.forget sets

theorem ScoreSet.weightSum_forget (sets : List ScoreSet) :
    weightSum (sets.map forget) = weightSum sets :=
  weightSum_mapTokens Token.forget sets

theorem ScoreSet.forM_checkWeight_forget (sets : List ScoreSet) :
    ((sets.map forget).forM fun set => checkWeight set.weight) =
      sets.forM fun set => checkWeight set.weight :=
  forM_checkWeight_mapTokens Token.forget sets

theorem Profile.ofLeaves_forget (leaves : List Expression) :
    ofLeaves (leaves.map Expression.forget) = ofLeaves leaves :=
  ofLeaves_rename id (fun _ => 0) leaves

/-! ## Constructors do not look at numbers -/

theorem Token.embed_forget (label : String) (object : RuleObject) :
    forget <$> embed label object = embed label ⟨0, object.rule.forget⟩ := by
  unfold embed
  simp only [Rule.outputKind_forget, Rule.chainDepth_forget]
  cases object.rule.outputKind with
  | none => rfl
  | some kind =>
      dsimp only
      split
      · rfl
      · exact congrArg Except.ok forget_rule

theorem Expression.make_forget (token : Token) (operator : Operator) :
    forget <$> make token operator = make token.forget operator := by
  unfold make
  rw [token.kind_forget, token.name_forget]
  cases operator.validate with
  | error defect => rfl
  | ok valid =>
      by_cases fits : token.kind = operator.kind
      · simp only [fits, if_true]
        exact congrArg Except.ok (forget_mk token operator)
      · simp only [fits, if_false]
        rfl

theorem ScoreRow.make_forget (antecedent : Conditional) (score : Float) :
    forget <$> make antecedent score = make antecedent.forget score := by
  unfold make
  split <;> rfl

theorem ScoreSet.make_forget (rows : List ScoreRow) (weight : Float) :
    forget <$> make rows weight = make (rows.map ScoreRow.forget) weight := by
  unfold make
  cases checkWeight weight <;> rfl

theorem DecisionRule.make_forget (ruleset : DecisionSet) :
    forget <$> make ruleset = make ruleset.forget := by
  unfold make
  rw [ruleset.leaves_forget, Profile.ofLeaves_forget]
  cases Profile.ofLeaves ruleset.leaves <;> rfl

theorem ScoreRule.make_forget (rulesets : List ScoreSet) :
    forget <$> make rulesets = make (rulesets.map ScoreSet.forget) := by
  unfold make
  rw [ScoreSet.flatMap_leaves_forget, Profile.ofLeaves_forget,
    ScoreSet.weightSum_forget, List.isEmpty_map,
    ScoreSet.forM_checkWeight_forget]
  by_cases none : rulesets.isEmpty
  · simp only [none, if_true]
    rfl
  · simp only [none]
    cases rulesets.forM fun set => checkWeight set.weight with
    | error defect => rfl
    | ok inRange =>
        by_cases off : weightTolerance < (ScoreSet.weightSum rulesets - 1).abs
        · simp only [off]
          rfl
        · simp only [off]
          cases Profile.ofLeaves (rulesets.flatMap ScoreSet.leaves) <;> rfl

end Rulebook
