import Rulebook.Proofs.Accepted
import Rulebook.Proofs.Renaming
import Rulebook.Proofs.Tokens

/-!
# Renaming as a change of tokens

To rename an item is to put a renamed token into each of its own tests.  The kinds
of tokens and of outputs stay the same, and so do the requirements and the depth of
every rule: what a profile is collected from shows neither the labels of rule tokens
nor the numbers of rule objects (`Profile.ofLeaves_rename`).
-/

namespace Rulebook

variable (label : String → String) (number : Nat → Nat)

section Parts

mutual

theorem Condition.rename_eq_mapTokens : (condition : Condition) →
    condition.rename label number =
      condition.mapTokens (Token.rename label number)
  | .test ⟨token, operator⟩ => by
      rw [Condition.rename, Expression.rename, Condition.mapTokens,
        Expression.mapToken]
  | .nested conditional => by
      rw [Condition.rename, Condition.mapTokens,
        conditional.rename_eq_mapTokens]

theorem Conditional.rename_eq_mapTokens : (conditional : Conditional) →
    conditional.rename label number =
      conditional.mapTokens (Token.rename label number)
  | ⟨junction, conditions⟩ => by
      rw [Conditional.rename, Conditional.mapTokens,
        Condition.renameAll_eq_mapTokensAll conditions]

theorem Condition.renameAll_eq_mapTokensAll : (conditions : List Condition) →
    Condition.renameAll label number conditions =
      Condition.mapTokensAll (Token.rename label number) conditions
  | [] => by
      rw [Condition.renameAll, Condition.mapTokensAll]
  | condition :: conditions => by
      rw [Condition.renameAll, Condition.mapTokensAll,
        condition.rename_eq_mapTokens,
        Condition.renameAll_eq_mapTokensAll conditions]

end

theorem DecisionRow.renameAll_eq_map (rows : List DecisionRow) :
    renameAll label number rows =
      rows.map (mapTokens (Token.rename label number)) := by
  induction rows with
  | nil => rw [renameAll, List.map_nil]
  | cons row rows ih =>
      obtain ⟨antecedent, consequent⟩ := row
      rw [renameAll, ih, List.map_cons, mapTokens,
        antecedent.rename_eq_mapTokens]

theorem ScoreRow.renameAll_eq_map (rows : List ScoreRow) :
    renameAll label number rows =
      rows.map (mapTokens (Token.rename label number)) := by
  induction rows with
  | nil => rw [renameAll, List.map_nil]
  | cons row rows ih =>
      obtain ⟨antecedent, score⟩ := row
      rw [renameAll, ih, List.map_cons, mapTokens,
        antecedent.rename_eq_mapTokens]

theorem ScoreSet.renameAll_eq_map (sets : List ScoreSet) :
    renameAll label number sets =
      sets.map (mapTokens (Token.rename label number)) := by
  induction sets with
  | nil => rw [renameAll, List.map_nil]
  | cons set sets ih =>
      obtain ⟨rows, weight⟩ := set
      rw [renameAll, ih, List.map_cons, mapTokens, ScoreRow.renameAll_eq_map]

theorem Rule.rename_decision (rule : DecisionRule) :
    (Rule.decision rule).rename label number =
      .decision
        ⟨rule.ruleset.mapTokens (Token.rename label number), rule.profile⟩ := by
  obtain ⟨⟨rows⟩, profile⟩ := rule
  rw [rename, DecisionRow.renameAll_eq_map, DecisionSet.mapTokens]

theorem Rule.rename_score (rule : ScoreRule) :
    (Rule.score rule).rename label number =
      .score ⟨rule.rulesets.map
        (ScoreSet.mapTokens (Token.rename label number)), rule.profile⟩ := by
  obtain ⟨rulesets, profile⟩ := rule
  rw [rename, ScoreSet.renameAll_eq_map]

end Parts

/-! ## What stays the same -/

theorem Token.kind_rename (token : Token) :
    (token.rename label number).kind = token.kind := by
  cases token with
  | fact name kind => rw [rename]
  | rule name object kind embedded => rw [rename, Token.kind, Token.kind]

namespace Rule

theorem profile_rename (rule : Rule) :
    (rule.rename label number).profile = rule.profile := by
  cases rule with
  | decision rule => rw [rename_decision]; rfl
  | score rule => rw [rename_score]; rfl

theorem requirements_rename (rule : Rule) :
    (rule.rename label number).requirements = rule.requirements := by
  rw [requirements, requirements, profile_rename]

theorem chainDepth_rename (rule : Rule) :
    (rule.rename label number).chainDepth = rule.chainDepth := by
  rw [chainDepth, chainDepth, profile_rename]

theorem outputKind_rename (rule : Rule) :
    (rule.rename label number).outputKind = rule.outputKind := by
  cases rule with
  | score rule => rw [rename_score]; rfl
  | decision rule =>
      have kinds :
          (rule.ruleset.mapTokens (Token.rename label number)).kinds =
            rule.ruleset.kinds := by
        rw [DecisionSet.kinds, DecisionSet.kinds, DecisionSet.mapTokens,
          List.map_map]
        exact List.map_congr_left fun row _ => rfl
      rw [rename_decision]
      change DecisionSet.outputKind _ = DecisionSet.outputKind _
      rw [DecisionSet.outputKind, DecisionSet.outputKind, kinds]

end Rule

theorem Token.requests_rename (token : Token) :
    (token.rename label number).requests = token.requests := by
  cases token with
  | fact name kind => rw [rename]
  | rule name object kind embedded =>
      rw [rename, requests, requests, embedded.requirements_rename]

theorem Token.depth_rename (token : Token) :
    (token.rename label number).depth = token.depth := by
  cases token with
  | fact name kind => rw [rename]
  | rule name object kind embedded =>
      rw [rename, depth, depth, embedded.chainDepth_rename]

namespace Profile

theorem addLeaf_rename (profile : Profile) (leaf : Expression) :
    profile.addLeaf (leaf.mapToken (Token.rename label number)) =
      profile.addLeaf leaf := by
  rw [addLeaf, addLeaf, Expression.mapToken, Token.requests_rename,
    Token.depth_rename]

/-- New labels and numbers do not change what is collected. -/
theorem ofLeaves_rename (leaves : List Expression) :
    ofLeaves (leaves.map (Expression.mapToken (Token.rename label number))) =
      ofLeaves leaves := by
  rw [ofLeaves, ofLeaves, List.foldlM_map]
  simp only [addLeaf_rename]

end Profile

end Rulebook
