import Rulebook.Proofs.Rebuilding

/-!
# Constructed rules can be rebuilt

Putting a constructed rule together once more, from its parts outwards, meets no
defect: the checks that were passed on the way to the rule are passed again.  What
comes out differs from the rule in the numbers of rule objects only.

Below the level of a rule this needs the operators to be valid, because the
constructor of a fact's test leaves that to the rule around it.
-/

namespace Rulebook

/-- From every number the computation comes to a good value. -/
def Numbering.Gives {ε α : Type} (computation : Numbering ε α)
    (good : α → Prop) : Prop :=
  ∀ first, ∃ value next, computation.run first = .ok (value, next) ∧ good value

namespace Numbering.Gives

variable {ε α β : Type} {good : α → Prop} {goodNext : β → Prop}
  {computation : Numbering ε α}

theorem pure {value : α} (holds : good value) :
    (Pure.pure value : Numbering ε α).Gives good :=
  fun first => ⟨value, first, rfl, holds⟩

theorem bind {rest : α → Numbering ε β} (gives : computation.Gives good)
    (next : ∀ value, good value → (rest value).Gives goodNext) :
    (computation >>= rest).Gives goodNext := by
  intro first
  obtain ⟨value, middle, ran, holds⟩ := gives first
  rw [StateT.run_bind, ran]
  exact next value holds middle

theorem map {function : α → β} (gives : computation.Gives good)
    (next : ∀ value, good value → goodNext (function value)) :
    (function <$> computation).Gives goodNext := by
  rw [map_eq_pure_bind]
  exact gives.bind fun value holds => pure (next value holds)

/-- Items that are computed one after the other make a good list. -/
theorem cons {γ : Type} {forget : α → γ} {item : α} {items : List α}
    {rest : Numbering ε (List α)}
    (first : computation.Gives fun copy => forget copy = forget item)
    (others : rest.Gives fun copies => copies.map forget = items.map forget) :
    (do return (← computation) :: (← rest)).Gives
      fun copies => copies.map forget = (item :: items).map forget := by
  refine first.bind fun copy same => others.bind fun copies sameRest => pure ?_
  rw [List.map_cons, List.map_cons, same, sameRest]

end Numbering.Gives

/-- A constructor that accepts an item accepts whatever is the same up to
forgetting. -/
theorem Builder.check_gives {α γ : Type} {forget : α → γ} {item : α}
    {one other : Except ConfigError α} (accepted : one = .ok item)
    (same : forget <$> other = forget <$> one) :
    (Builder.check other).Gives fun copy => forget copy = forget item := by
  rcases eq_of_map_eq same with ⟨defect, _, failed⟩ | ⟨copy, made, rfl, rfl, alike⟩
  · rw [accepted] at failed
    cases failed
  · cases accepted
    exact .pure alike

theorem Builder.numbered_gives {α : Type} {forget : α → α} {finish : α → Rule}
    {item : α} {one other : Except ConfigError α}
    (commutes : ∀ item, (finish item).forget = finish (forget item))
    (accepted : one = .ok item) (same : forget <$> other = forget <$> one) :
    (Builder.check other >>= fun item => (finish item).number).Gives
      fun object => object.rule.forget = (finish item).forget := by
  refine (Builder.check_gives accepted same).bind fun copy alike first => ?_
  refine ⟨⟨first, finish copy⟩, first + 1, rfl, ?_⟩
  rw [commutes, commutes, alike]

/-- A test that the checked constructor makes of a constructed token. -/
structure Expression.Checked (tested : Expression) : Prop where
  token : Item.Constructed (.token tested.token)
  accepted : Expression.make tested.token tested.operator = .ok tested

theorem Expression.checked_of_constructed {tested : Expression}
    (constructed : Item.Constructed (.expression tested))
    (valid : tested.operator.validate = .ok ()) : tested.Checked := by
  obtain ⟨token, operator⟩ := tested
  obtain ⟨made, fits, _⟩ := Item.constructed_expression_iff.mp constructed
  exact ⟨made, Expression.make_eq_ok_iff.mpr ⟨valid, fits, rfl⟩⟩

theorem Item.Constructed.checked {rule : Rule}
    (constructed : Item.Constructed (.rule rule)) {leaf : Expression}
    (member : leaf ∈ rule.leaves) : leaf.Checked :=
  Expression.checked_of_constructed (constructed.leaf member)
    (constructed.valid member)

variable (definitions : Definitions)

mutual

theorem Token.build_draft : (token : Token) →
    Item.Constructed (.token token) →
      (token.draft.build definitions).Gives
        fun copy => copy.forget = token.forget
  | .fact name kind, _ => by
      rw [Token.draft, TokenDraft.build]
      exact .pure rfl
  | .rule label object kind embedded, constructed => by
      obtain ⟨whole, output, shallow⟩ :=
        Item.constructed_rule_iff.mp constructed
      have accepted : Token.embed label ⟨object, embedded⟩ =
          .ok (.rule label object kind embedded) :=
        Token.embed_eq_ok_iff.mpr ⟨kind, output, shallow, rfl⟩
      rw [Token.draft, TokenDraft.build]
      refine (embedded.build_draft whole).bind fun copy same => ?_
      refine Builder.check_gives accepted ?_
      rw [Token.embed_forget, Token.embed_forget, same]

theorem Expression.build_draft : (tested : Expression) → tested.Checked →
    (tested.draft.build definitions).Gives
      fun copy => copy.forget = tested.forget
  | ⟨token, operator⟩, checked => by
      rw [Expression.draft, ExpressionDraft.build]
      simp only [Operator.build_draft_bind]
      refine (token.build_draft checked.token).bind fun copy same => ?_
      refine Builder.check_gives checked.accepted ?_
      rw [Expression.make_forget, Expression.make_forget, same]

theorem Condition.build_draft : (condition : Condition) →
    (∀ leaf ∈ condition.leaves, leaf.Checked) →
      (condition.draft.build definitions).Gives
        fun copy => copy.forget = condition.forget
  | .test expression, checked => by
      rw [Condition.leaves, List.forall_mem_singleton] at checked
      rw [Condition.draft, ConditionDraft.build]
      refine (expression.build_draft checked).map fun copy same => ?_
      rw [Condition.forget_test, Condition.forget_test, same]
  | .nested conditional, checked => by
      rw [Condition.leaves] at checked
      rw [Condition.draft, ConditionDraft.build]
      refine (conditional.build_draft checked).map fun copy same => ?_
      rw [Condition.forget_nested, Condition.forget_nested, same]

theorem Conditional.build_draft : (conditional : Conditional) →
    (∀ leaf ∈ conditional.leaves, leaf.Checked) →
      (conditional.draft.build definitions).Gives
        fun copy => copy.forget = conditional.forget
  | ⟨junction, conditions⟩, checked => by
      rw [Conditional.leaves] at checked
      rw [Conditional.draft, ConditionalDraft.build]
      refine (Condition.buildAll_draft conditions checked).map
        fun copies same => ?_
      rw [Conditional.forget_mk, Conditional.forget_mk, same]

theorem Condition.buildAll_draft : (conditions : List Condition) →
    (∀ leaf ∈ Condition.leavesAll conditions, leaf.Checked) →
      (ConditionDraft.buildAll definitions
        (Condition.draftAll conditions)).Gives
          fun copies => copies.map Condition.forget = conditions.map Condition.forget
  | [], _ => by
      rw [Condition.draftAll, ConditionDraft.buildAll]
      exact .pure rfl
  | condition :: conditions, checked => by
      rw [Condition.leavesAll, List.forall_mem_append] at checked
      rw [Condition.draftAll, ConditionDraft.buildAll]
      exact (condition.build_draft checked.1).cons
        (Condition.buildAll_draft conditions checked.2)

theorem DecisionRow.build_draft : (row : DecisionRow) →
    (∀ leaf ∈ row.antecedent.leaves, leaf.Checked) →
      (row.draft.build definitions).Gives
        fun copy => copy.forget = row.forget
  | ⟨antecedent, consequent⟩, checked => by
      rw [DecisionRow.draft, DecisionRowDraft.build]
      refine (antecedent.build_draft checked).map fun copy same => ?_
      rw [DecisionRow.forget_mk, DecisionRow.forget_mk, same]

theorem DecisionRow.buildAll_draft : (rows : List DecisionRow) →
    (∀ row ∈ rows, ∀ leaf ∈ row.antecedent.leaves, leaf.Checked) →
      (DecisionRowDraft.buildAll definitions (DecisionRow.draftAll rows)).Gives
        fun copies => copies.map DecisionRow.forget = rows.map DecisionRow.forget
  | [], _ => by
      rw [DecisionRow.draftAll, DecisionRowDraft.buildAll]
      exact .pure rfl
  | row :: rows, checked => by
      rw [List.forall_mem_cons] at checked
      rw [DecisionRow.draftAll, DecisionRowDraft.buildAll]
      exact (row.build_draft checked.1).cons
        (DecisionRow.buildAll_draft rows checked.2)

theorem ScoreRow.build_draft : (row : ScoreRow) →
    (∀ leaf ∈ row.antecedent.leaves, leaf.Checked) →
      row.score.isFinite = true →
        (row.draft.build definitions).Gives
          fun copy => copy.forget = row.forget
  | ⟨antecedent, score⟩, checked, finite => by
      have accepted : ScoreRow.make antecedent score = .ok ⟨antecedent, score⟩ :=
        ScoreRow.make_eq_ok_iff.mpr ⟨finite, rfl⟩
      rw [ScoreRow.draft, ScoreRowDraft.build]
      refine (antecedent.build_draft checked).bind fun copy same => ?_
      refine Builder.check_gives accepted ?_
      rw [ScoreRow.make_forget, ScoreRow.make_forget, same]

theorem ScoreRow.buildAll_draft : (rows : List ScoreRow) →
    (∀ row ∈ rows, ∀ leaf ∈ row.antecedent.leaves, leaf.Checked) →
      (∀ row ∈ rows, row.score.isFinite = true) →
        (ScoreRowDraft.buildAll definitions (ScoreRow.draftAll rows)).Gives
          fun copies => copies.map ScoreRow.forget = rows.map ScoreRow.forget
  | [], _, _ => by
      rw [ScoreRow.draftAll, ScoreRowDraft.buildAll]
      exact .pure rfl
  | row :: rows, checked, finite => by
      rw [List.forall_mem_cons] at checked finite
      rw [ScoreRow.draftAll, ScoreRowDraft.buildAll]
      exact (row.build_draft checked.1 finite.1).cons
        (ScoreRow.buildAll_draft rows checked.2 finite.2)

theorem DecisionSet.build_draft : (set : DecisionSet) →
    (∀ leaf ∈ set.leaves, leaf.Checked) →
      (set.draft.build definitions).Gives fun copy => copy.forget = set.forget
  | ⟨rows⟩, checked => by
      rw [DecisionSet.draft, DecisionSetDraft.build]
      refine (DecisionRow.buildAll_draft rows
        (List.forall_mem_flatMap.mp checked)).map fun copies same => ?_
      rw [DecisionSet.forget_mk, DecisionSet.forget_mk, same]

theorem ScoreSet.build_draft : (set : ScoreSet) →
    Item.Constructed (.scoreSet set) → (∀ leaf ∈ set.leaves, leaf.Checked) →
      (set.draft.build definitions).Gives fun copy => copy.forget = set.forget
  | ⟨rows, weight⟩, constructed, checked => by
      obtain ⟨_, finite, inRange⟩ :=
        Item.constructed_scoreSet_iff.mp constructed
      have accepted : ScoreSet.make rows weight = .ok ⟨rows, weight⟩ :=
        ScoreSet.make_eq_ok_iff.mpr ⟨inRange, rfl⟩
      rw [ScoreSet.draft, ScoreSetDraft.build]
      refine (ScoreRow.buildAll_draft rows
        (List.forall_mem_flatMap.mp checked) finite).bind fun copies same => ?_
      refine Builder.check_gives accepted ?_
      rw [ScoreSet.make_forget, ScoreSet.make_forget, same]

theorem ScoreSet.buildAll_draft : (sets : List ScoreSet) →
    (∀ set ∈ sets, Item.Constructed (.scoreSet set)) →
      (∀ set ∈ sets, ∀ leaf ∈ set.leaves, leaf.Checked) →
        (ScoreSetDraft.buildAll definitions (ScoreSet.draftAll sets)).Gives
          fun copies => copies.map ScoreSet.forget = sets.map ScoreSet.forget
  | [], _, _ => by
      rw [ScoreSet.draftAll, ScoreSetDraft.buildAll]
      exact .pure rfl
  | set :: sets, constructed, checked => by
      rw [List.forall_mem_cons] at constructed checked
      rw [ScoreSet.draftAll, ScoreSetDraft.buildAll]
      exact (set.build_draft constructed.1 checked.1).cons
        (ScoreSet.buildAll_draft sets constructed.2 checked.2)

theorem Rule.build_draft : (rule : Rule) → Item.Constructed (.rule rule) →
    (rule.draft.build definitions).Gives
      fun object => object.rule.forget = rule.forget
  | .decision ⟨ruleset, profile⟩, constructed => by
      rw [Rule.draft, RuleDraft.build]
      refine (ruleset.build_draft
        fun leaf member => constructed.checked member).bind fun copy same => ?_
      have accepted : DecisionRule.make ruleset = .ok ⟨ruleset, profile⟩ :=
        DecisionRule.make_eq_ok_iff.mpr ⟨profile, constructed.profile, rfl⟩
      refine Builder.numbered_gives Rule.forget_decision accepted ?_
      rw [DecisionRule.make_forget, DecisionRule.make_forget, same]
  | .score ⟨rulesets, profile⟩, constructed => by
      obtain ⟨sets, accepted⟩ := Item.constructed_score_iff.mp constructed
      rw [Rule.draft, RuleDraft.build]
      have checked : ∀ set ∈ rulesets, ∀ leaf ∈ set.leaves, leaf.Checked :=
        List.forall_mem_flatMap.mp fun leaf member => constructed.checked member
      refine (ScoreSet.buildAll_draft rulesets sets checked).bind
        fun copies same => ?_
      refine Builder.numbered_gives Rule.forget_score accepted ?_
      rw [ScoreRule.make_forget, ScoreRule.make_forget, same]

end

end Rulebook
