import Rulebook.Proofs.Reporting
import Rulebook.Proofs.Unreached

/-!
# Grouping conditions

A conditional that stands in another one of the same sort may give its conditions
to it, and a conditional of a single condition says what the condition says.
`Item.Regrouped` is the least equivalence with these laws that is kept by every
constructor, so the laws may be used anywhere in an item and in the rules
embedded in it.

Evaluation does not tell regrouped items apart.  They have the same view: a
condition is seen as its walk, from any cache, and the parts around it as lists of
such walks.
-/

namespace Rulebook

/-- Two items that differ at most in how their conditions are grouped. -/
inductive Item.Regrouped : Item → Item → Prop
  | refl (item : Item) : Regrouped item item
  | symm {first second : Item} :
      Regrouped first second → Regrouped second first
  | trans {first second third : Item} :
      Regrouped first second → Regrouped second third → Regrouped first third
  /-- The conditions of an inner conditional of the same sort take its place. -/
  | spliced (junction : Junction) (before inner after : List Condition) :
      Regrouped
        (.conditional ⟨junction, before ++ .nested ⟨junction, inner⟩ :: after⟩)
        (.conditional ⟨junction, before ++ inner ++ after⟩)
  | wrapped (junction : Junction) (condition : Condition) :
      Regrouped (.condition (.nested ⟨junction, [condition]⟩))
        (.condition condition)
  | enclosed (junction : Junction) (conditional : Conditional) :
      Regrouped (.conditional ⟨junction, [.nested conditional]⟩)
        (.conditional conditional)
  | token (label : String) (object : Nat) (kind : ValueKind)
      {first second : Rule} :
      Regrouped (.rule first) (.rule second) →
        Regrouped (.token (.rule label object kind first))
          (.token (.rule label object kind second))
  | expression (operator : Operator) {first second : Token} :
      Regrouped (.token first) (.token second) →
        Regrouped (.expression ⟨first, operator⟩)
          (.expression ⟨second, operator⟩)
  | test {first second : Expression} :
      Regrouped (.expression first) (.expression second) →
        Regrouped (.condition (.test first)) (.condition (.test second))
  | nested {first second : Conditional} :
      Regrouped (.conditional first) (.conditional second) →
        Regrouped (.condition (.nested first)) (.condition (.nested second))
  | conditional (junction : Junction) (before after : List Condition)
      {first second : Condition} :
      Regrouped (.condition first) (.condition second) →
        Regrouped (.conditional ⟨junction, before ++ first :: after⟩)
          (.conditional ⟨junction, before ++ second :: after⟩)
  | decisionRow (consequent : Decision) {first second : Conditional} :
      Regrouped (.conditional first) (.conditional second) →
        Regrouped (.decisionRow ⟨first, consequent⟩)
          (.decisionRow ⟨second, consequent⟩)
  | scoreRow (score : Float) {first second : Conditional} :
      Regrouped (.conditional first) (.conditional second) →
        Regrouped (.scoreRow ⟨first, score⟩) (.scoreRow ⟨second, score⟩)
  | decisionSet (before after : List DecisionRow) {first second : DecisionRow} :
      Regrouped (.decisionRow first) (.decisionRow second) →
        Regrouped (.decisionSet ⟨before ++ first :: after⟩)
          (.decisionSet ⟨before ++ second :: after⟩)
  | scoreSet (weight : Float) (before after : List ScoreRow)
      {first second : ScoreRow} :
      Regrouped (.scoreRow first) (.scoreRow second) →
        Regrouped (.scoreSet ⟨before ++ first :: after, weight⟩)
          (.scoreSet ⟨before ++ second :: after, weight⟩)
  | decision (profile : Profile) {first second : DecisionSet} :
      Regrouped (.decisionSet first) (.decisionSet second) →
        Regrouped (.rule (.decision ⟨first, profile⟩))
          (.rule (.decision ⟨second, profile⟩))
  | score (profile : Profile) (before after : List ScoreSet)
      {first second : ScoreSet} :
      Regrouped (.scoreSet first) (.scoreSet second) →
        Regrouped (.rule (.score ⟨before ++ first :: after, profile⟩))
          (.rule (.score ⟨before ++ second :: after, profile⟩))

/-! ## Views -/

/-- Take several tests into account, one after the other. -/
def Profile.addLeaves (profile : Profile) (leaves : List Expression) :
    Except ConfigError Profile :=
  leaves.foldlM addLeaf profile

/-- What is seen of a condition: how it comes to a truth value, and what its tests
add to the profile of a rule. -/
structure View where
  walk : Facts → Walk Bool
  collect : Profile → Except ConfigError Profile

def Expression.view (tested : Expression) : View :=
  ⟨(tested.walk ·), (·.addLeaves [tested])⟩

def Condition.view (condition : Condition) : View :=
  ⟨(condition.walk ·), (·.addLeaves condition.leaves)⟩

def Conditional.view (conditional : Conditional) : View :=
  ⟨(conditional.walk ·), (·.addLeaves conditional.leaves)⟩

def DecisionRow.view (row : DecisionRow) : View × Decision :=
  (row.antecedent.view, row.consequent)

def ScoreRow.view (row : ScoreRow) : View × Float :=
  (row.antecedent.view, row.score)

def ScoreSet.view (set : ScoreSet) : List (View × Float) × Float :=
  (set.rows.map ScoreRow.view, set.weight)

/-- What is seen of an item. -/
inductive Item.View where
  | token (walk : Facts → Walk (Option Resolved)) (name : String)
      (kind : ValueKind) (requests : List (String × ValueKind)) (depth : Nat)
  | truth (view : Rulebook.View)
  | decisionRow (row : Rulebook.View × Decision)
  | scoreRow (row : Rulebook.View × Float)
  | decisionSet (rows : List (Rulebook.View × Decision))
  | scoreSet (set : List (Rulebook.View × Float) × Float)
  | decision (rows : List (Rulebook.View × Decision)) (profile : Profile)
  | score (sets : List (List (Rulebook.View × Float) × Float))
      (profile : Profile)

def Item.view : Item → Item.View
  | .token alone =>
      .token (alone.walk ·) alone.name alone.kind alone.requests alone.depth
  | .expression tested => .truth tested.view
  | .condition part => .truth part.view
  | .conditional whole => .truth whole.view
  | .decisionRow row => .decisionRow row.view
  | .scoreRow row => .scoreRow row.view
  | .decisionSet set => .decisionSet (set.rows.map DecisionRow.view)
  | .scoreSet set => .scoreSet set.view
  | .rule (.decision whole) =>
      .decision (whole.ruleset.rows.map DecisionRow.view) whole.profile
  | .rule (.score whole) =>
      .score (whole.rulesets.map ScoreSet.view) whole.profile

theorem Profile.addLeaves_append (profile : Profile)
    (leaves others : List Expression) :
    profile.addLeaves (leaves ++ others) =
      profile.addLeaves leaves >>= (·.addLeaves others) :=
  List.foldlM_append

/-! ## The laws for conditions -/

section Conditions

variable {facts : Facts} {junction : Junction}

/-- Conditions that follow are evaluated if none before them settles the
conditional. -/
theorem Condition.walkAll_append (before after : List Condition) :
    walkAll facts junction (before ++ after) =
      walkAll facts junction before >>= fun value =>
        if value = junction.decisive then pure value
        else walkAll facts junction after := by
  induction before with
  | nil => simp [walkAll]
  | cons condition before ih =>
      rw [List.cons_append, walkAll, walkAll, bind_assoc]
      refine bind_congr fun value => ?_
      by_cases settled : value = junction.decisive
      · simp [settled]
      · simp only [settled, if_false]
        exact ih

theorem Condition.walkAll_singleton (condition : Condition) :
    walkAll facts junction [condition] = condition.walk facts := by
  have other (value : Bool) :
      (if value = junction.decisive then (pure value : Walk Bool)
        else pure (!junction.decisive)) = pure value := by
    by_cases settled : value = junction.decisive
    · rw [if_pos settled]
    · rw [if_neg settled, Bool.eq_not.mpr settled]
  rw [walkAll]
  simp only [walkAll, other, bind_pure]

theorem Condition.walk_nested (conditional : Conditional) :
    (Condition.nested conditional).walk facts = conditional.walk facts := by
  rw [walk]

/-- An inner conditional of the same sort stops where the outer one would stop at
its conditions. -/
theorem Condition.walkAll_spliced (before inner after : List Condition) :
    walkAll facts junction (before ++ .nested ⟨junction, inner⟩ :: after) =
      walkAll facts junction (before ++ inner ++ after) := by
  have here : walkAll facts junction (.nested ⟨junction, inner⟩ :: after) =
      walkAll facts junction (inner ++ after) := by
    rw [walkAll, walk_nested, Conditional.walk, walkAll_append inner after]
  rw [List.append_assoc, walkAll_append before, walkAll_append before, here]

/-- Conditions with equal walks may take each other's place. -/
theorem Condition.walkAll_congr {first second : Condition}
    (same : first.walk facts = second.walk facts)
    (before after : List Condition) :
    walkAll facts junction (before ++ first :: after) =
      walkAll facts junction (before ++ second :: after) := by
  rw [walkAll_append before, walkAll_append before, walkAll, walkAll, same]

theorem Condition.leavesAll_append (before after : List Condition) :
    leavesAll (before ++ after) = leavesAll before ++ leavesAll after := by
  rw [leavesAll_eq_flatMap, leavesAll_eq_flatMap, leavesAll_eq_flatMap,
    List.flatMap_append]

end Conditions

/-- Conditionals with equal walks and tests that add the same are seen alike. -/
theorem View.of_same {first second : View}
    (walks : ∀ facts, first.walk facts = second.walk facts)
    (collects : ∀ profile, first.collect profile = second.collect profile) :
    first = second := by
  obtain ⟨walk, collect⟩ := first
  obtain ⟨other, against⟩ := second
  obtain rfl : walk = other := funext walks
  obtain rfl : collect = against := funext collects
  rfl

namespace Conditional

variable (junction : Junction)

theorem view_spliced (before inner after : List Condition) :
    view ⟨junction, before ++ .nested ⟨junction, inner⟩ :: after⟩ =
      view ⟨junction, before ++ inner ++ after⟩ := by
  refine View.of_same (fun facts => ?_) (fun profile => ?_)
  · simp only [view, walk]
    exact Condition.walkAll_spliced before inner after
  · simp [view, leaves, Condition.leavesAll_append, Condition.leavesAll,
      Condition.leaves]

theorem view_singleton (condition : Condition) :
    view ⟨junction, [condition]⟩ = condition.view := by
  refine View.of_same (fun facts => ?_) (fun profile => ?_)
  · simp only [view, walk]
    exact Condition.walkAll_singleton condition
  · simp [view, Condition.view, leaves, Condition.leavesAll]

theorem view_nested (conditional : Conditional) :
    (Condition.nested conditional).view = conditional.view := by
  refine View.of_same (fun facts => ?_) (fun profile => ?_)
  · exact Condition.walk_nested conditional
  · simp [view, Condition.view, Condition.leaves]

theorem view_congr {first second : Condition} (same : first.view = second.view)
    (before after : List Condition) :
    view ⟨junction, before ++ first :: after⟩ =
      view ⟨junction, before ++ second :: after⟩ := by
  obtain ⟨walks, collects⟩ := View.mk.inj same
  refine View.of_same (fun facts => ?_) (fun profile => ?_)
  · simp only [view, walk]
    exact Condition.walkAll_congr (congrFun walks facts) before after
  · simp only [view, leaves, Condition.leavesAll_append, Condition.leavesAll,
      Profile.addLeaves_append, congrFun collects]

end Conditional

/-! ## Rows and rulesets -/

namespace View

variable {facts : Facts} {α : Type}

/-- Search rows that are seen as their antecedents with what they conclude. -/
def search (facts : Facts) (matched : Nat → α → Event) (place : Nat) :
    List (View × α) → Walk (Option (Nat × α))
  | [] => return none
  | (antecedent, conclusion) :: rows => do
      if ← antecedent.walk facts then
        Walk.log (matched place conclusion)
        return some (place, conclusion)
      else
        search facts matched (place + 1) rows

/-- Of a row that is found, only its place and what it concludes count. -/
theorem search_eq {Row : Type} (antecedent : Row → Conditional)
    (conclusion : Row → α) (matched : Nat → α → Event) (place : Nat)
    (rows : List Row) :
    Option.map (Prod.map id conclusion) <$>
        (Interpreter.cached facts).search antecedent
          (fun place row => matched place (conclusion row)) place rows =
      search facts matched place
        (rows.map fun row => ((antecedent row).view, conclusion row)) := by
  induction rows generalizing place with
  | nil => rw [Interpreter.search, List.map_nil, search, map_pure, Option.map_none]
  | cons row rows ih =>
      rw [Interpreter.search, List.map_cons, search, map_bind,
        ← Conditional.walk_eq_interpret]
      refine bind_congr fun applies => ?_
      cases applies with
      | true => rfl
      | false => exact ih (place + 1)

end View

theorem DecisionSet.walk_view (facts : Facts) (set : DecisionSet) :
    Option.map (Prod.map id DecisionRow.consequent) <$> set.walk facts =
      View.search facts .decisionRowMatched 0
        (set.rows.map DecisionRow.view) := by
  rw [walk_eq_interpret, interpret, DecisionRow.interpretAll_eq_search]
  exact View.search_eq _ _ _ _ _

theorem ScoreSet.walk_view (facts : Facts) (set : ScoreSet) :
    Option.map (Prod.map id ScoreRow.score) <$> set.walk facts =
      View.search facts (fun place score =>
        .scoreRowMatched place score set.weight) 0
        (set.rows.map ScoreRow.view) := by
  rw [walk_eq_interpret, interpret, ScoreRow.interpretAll_eq_search]
  exact View.search_eq _ _ (fun place score =>
    .scoreRowMatched place score set.weight) _ _

section Rulesets

variable {facts : Facts}

/-- What a walk is used for may be read off the image of its result. -/
theorem bind_of_image {m : Type → Type} [Monad m] [LawfulMonad m]
    {α β γ : Type} {walk : m α} {next : α → m γ} (image : α → β)
    (after : β → m γ) (same : ∀ value, next value = after (image value)) :
    walk >>= next = image <$> walk >>= after := by
  rw [bind_map_left]
  exact bind_congr same

/-- The report on a decision rule, by what is seen of its rows. -/
theorem Rule.reportOn_decision (rule : DecisionRule) :
    (Rule.decision rule).reportOn facts =
      View.search facts .decisionRowMatched 0
          (rule.ruleset.rows.map DecisionRow.view) >>= fun found =>
        pure ⟨.ofDecision? (found.map (·.2)),
          [.decision (found.map (·.1))]⟩ := by
  rw [reportOn, ← DecisionSet.walk_view]
  refine bind_of_image _ _ fun matched => ?_
  cases matched <;> rfl

/-- What a ruleset adds to the score, by what is seen of the row that was found. -/
def ScoreSet.weighted (weight : Float) : Option (Nat × Float) → Float
  | some (_, score) => score * weight
  | none => 0

theorem ScoreSet.contribution_eq_weighted (set : ScoreSet)
    (found : Option (Nat × ScoreRow)) :
    set.contribution found =
      weighted set.weight (found.map (Prod.map id ScoreRow.score)) := by
  cases found <;> rfl

/-- The reports on rulesets, by what is seen of the first one. -/
theorem ScoreSet.reportAll_cons (total : Float) (set : ScoreSet)
    (sets : List ScoreSet) :
    reportAll facts total (set :: sets) =
      View.search facts (fun place score =>
          .scoreRowMatched place score set.weight) 0
          (set.rows.map ScoreRow.view) >>= fun found =>
        reportAll facts (total + weighted set.weight found) sets >>=
          fun (sum, reports) => pure (sum,
            .score (found.map (·.1)) set.weight (weighted set.weight found) ::
              reports) := by
  rw [reportAll, ← ScoreSet.walk_view]
  refine bind_of_image _ _ fun matched => ?_
  simp only [contribution_eq_weighted]
  cases matched <;> rfl

/-- Rulesets that are seen alike are reported on alike. -/
theorem ScoreSet.reportAll_congr {sets others : List ScoreSet} (total : Float)
    (same : sets.map ScoreSet.view = others.map ScoreSet.view) :
    reportAll facts total sets = reportAll facts total others := by
  induction sets generalizing others total with
  | nil =>
      rw [List.map_nil, eq_comm, List.map_eq_nil_iff] at same
      rw [same]
  | cons set sets ih =>
      cases others with
      | nil => simp at same
      | cons other others =>
          rw [List.map_cons, List.map_cons, List.cons.injEq] at same
          obtain ⟨first, later⟩ := same
          obtain ⟨rows, weight⟩ := Prod.mk.inj first
          rw [reportAll_cons, reportAll_cons, rows, weight]
          refine bind_congr fun found => ?_
          rw [ih _ later]

end Rulesets

namespace Rule

variable {first second : Rule}

/-- Rules that are seen alike are of the same sort. -/
theorem view_cases (same : (Item.rule first).view = (Item.rule second).view) :
    (∃ rule other, first = .decision rule ∧ second = .decision other ∧
      rule.ruleset.rows.map DecisionRow.view =
        other.ruleset.rows.map DecisionRow.view ∧
      rule.profile = other.profile) ∨
    ∃ rule other, first = .score rule ∧ second = .score other ∧
      rule.rulesets.map ScoreSet.view = other.rulesets.map ScoreSet.view ∧
      rule.profile = other.profile := by
  cases first with
  | decision rule =>
      cases second with
      | decision other =>
          exact .inl ⟨rule, other, rfl, rfl, Item.View.decision.inj same⟩
      | score other => cases same
  | score rule =>
      cases second with
      | decision other => cases same
      | score other =>
          exact .inr ⟨rule, other, rfl, rfl, Item.View.score.inj same⟩

variable (same : (Item.rule first).view = (Item.rule second).view)

include same

theorem profile_of_view : first.profile = second.profile := by
  obtain ⟨rule, other, rfl, rfl, _, profile⟩ |
    ⟨rule, other, rfl, rfl, _, profile⟩ := view_cases same
  · exact profile
  · exact profile

theorem outputKind_of_view : first.outputKind = second.outputKind := by
  obtain ⟨rule, other, rfl, rfl, rows, _⟩ |
    ⟨rule, other, rfl, rfl, _, _⟩ := view_cases same
  · have kinds (set : DecisionSet) : set.kinds =
        (set.rows.map DecisionRow.view).map (·.2.kind) := by
      rw [List.map_map]
      rfl
    rw [outputKind, outputKind, DecisionSet.outputKind, DecisionSet.outputKind,
      kinds, kinds, rows]
  · rfl

theorem reportOn_of_view (facts : Facts) :
    first.reportOn facts = second.reportOn facts := by
  obtain ⟨rule, other, rfl, rfl, rows, _⟩ |
    ⟨rule, other, rfl, rfl, sets, _⟩ := view_cases same
  · rw [reportOn_decision, reportOn_decision, rows]
  · rw [reportOn, reportOn, ScoreSet.reportAll_congr 0 sets]

theorem ended_of_view : first.ended = second.ended := by
  obtain ⟨rule, other, rfl, rfl, _, _⟩ |
    ⟨rule, other, rfl, rfl, sets, _⟩ := view_cases same
  · rfl
  · have count : rule.rulesets.length = other.rulesets.length := by
      simpa using congrArg List.length sets
    funext outcome
    cases outcome <;> simp [ended, scoreSets, count]

theorem walk_of_view (facts : Facts) : first.walk facts = second.walk facts := by
  rw [walk_eq_reportOn, walk_eq_reportOn, reportOn_of_view same,
    ended_of_view same]

theorem walkDetailed_of_view (facts : Facts) :
    first.walkDetailed facts = second.walkDetailed facts := by
  rw [walkDetailed, walkDetailed, reportOn_of_view same]

end Rule

/-! ## Regrouped items are seen alike -/

/-- A token that embeds a rule is seen as the rule is. -/
theorem Token.view_of_rule (label : String) (object : Nat) (kind : ValueKind)
    {first second : Rule}
    (same : (Item.rule first).view = (Item.rule second).view) :
    (Item.token (.rule label object kind first)).view =
      (Item.token (.rule label object kind second)).view := by
  have walks : ∀ facts, (Token.rule label object kind first).walk facts =
      (Token.rule label object kind second).walk facts := by
    intro facts
    rw [walk, walk, Rule.walk_of_view same facts]
  have profile := Rule.profile_of_view same
  simp only [Item.view, walks, requests, depth, name, Token.kind,
    Rule.requirements, Rule.chainDepth, profile]

/-- A test is seen as its token is. -/
theorem Expression.view_of_token (operator : Operator) {first second : Token}
    (same : (Item.token first).view = (Item.token second).view) :
    (Expression.mk first operator).view = (Expression.mk second operator).view := by
  obtain ⟨walks, _, _, requests, depth⟩ := Item.View.token.inj same
  refine View.of_same (fun facts => ?_) (fun profile => ?_)
  · simp only [view, walk, congrFun walks facts]
  · simp only [view, Profile.addLeaves, List.foldlM_cons, List.foldlM_nil,
      Profile.addLeaf, requests, depth]

theorem Condition.view_test (tested : Expression) :
    (Condition.test tested).view = tested.view := by
  refine View.of_same (fun facts => ?_) (fun profile => ?_)
  · simp only [view, Expression.view, walk]
  · simp only [view, Expression.view, leaves]

namespace Item.Regrouped

/-- Regrouped items are seen alike, which is the two laws for conditions and, at the
parts around them, that a part is seen by what is seen of its own parts. -/
theorem view_eq {first second : Item} (regrouped : first.Regrouped second) :
    first.view = second.view := by
  induction regrouped with
  | refl item => rfl
  | symm _ ih => exact ih.symm
  | trans _ _ one other => exact one.trans other
  | spliced junction before inner after =>
      exact congrArg View.truth (Conditional.view_spliced ..)
  | wrapped junction condition =>
      exact congrArg View.truth ((Conditional.view_nested _).trans
        (Conditional.view_singleton junction condition))
  | enclosed junction conditional =>
      exact congrArg View.truth ((Conditional.view_singleton junction _).trans
        (Conditional.view_nested conditional))
  | token label object kind _ ih => exact Token.view_of_rule label object kind ih
  | expression operator _ ih =>
      exact congrArg View.truth (Expression.view_of_token operator ih)
  | test _ ih =>
      simp only [view, Condition.view_test]
      exact ih
  | nested _ ih =>
      simp only [view, Conditional.view_nested]
      exact ih
  | conditional junction before after _ ih =>
      exact congrArg View.truth
        (Conditional.view_congr junction (View.truth.inj ih) before after)
  | decisionRow consequent _ ih =>
      simp only [view, DecisionRow.view, View.truth.inj ih]
  | scoreRow score _ ih =>
      simp only [view, ScoreRow.view, View.truth.inj ih]
  | decisionSet before after _ ih =>
      simp only [view, List.map_append, List.map_cons, View.decisionRow.inj ih]
  | scoreSet weight before after _ ih =>
      simp only [view, ScoreSet.view, List.map_append, List.map_cons,
        View.scoreRow.inj ih]
  | decision profile _ ih => simp only [view, View.decisionSet.inj ih]
  | score profile before after _ ih =>
      simp only [view, List.map_append, List.map_cons, View.scoreSet.inj ih]

end Item.Regrouped

/-! ## Calls -/

/-- Two calls of one entry point, on regrouped items. -/
inductive Call.Regrouped : Call → Call → Prop
  | resolve {first second : Token} :
      (Item.token first).Regrouped (.token second) →
        Regrouped (.resolve first) (.resolve second)
  | test {first second : Expression} :
      (Item.expression first).Regrouped (.expression second) →
        Regrouped (.test first) (.test second)
  | combine {first second : Conditional} :
      (Item.conditional first).Regrouped (.conditional second) →
        Regrouped (.combine first) (.combine second)
  | decide {first second : DecisionSet} :
      (Item.decisionSet first).Regrouped (.decisionSet second) →
        Regrouped (.decide first) (.decide second)
  | contribute {first second : ScoreSet} :
      (Item.scoreSet first).Regrouped (.scoreSet second) →
        Regrouped (.contribute first) (.contribute second)
  | execute {first second : Rule} :
      (Item.rule first).Regrouped (.rule second) →
        Regrouped (.execute first) (.execute second)
  | report {first second : Rule} :
      (Item.rule first).Regrouped (.rule second) →
        Regrouped (.report first) (.report second)

namespace Call

variable {facts : Facts}

/-- A call for a decision uses what is seen of the ruleset. -/
theorem walk_decide_view (set : DecisionSet) :
    (decide set).walk facts =
      (fun found => .decision (found.map (·.2))) <$>
        View.search facts .decisionRowMatched 0
          (set.rows.map DecisionRow.view) := by
  rw [← DecisionSet.walk_view, ← comp_map, walk]
  congr 1
  funext matched
  cases matched <;> rfl

/-- A call for a contribution uses what is seen of the ruleset. -/
theorem walk_contribute_view (set : ScoreSet) :
    (contribute set).walk facts =
      (fun found => .contribution (ScoreSet.weighted set.weight found)) <$>
        View.search facts (fun place score =>
          .scoreRowMatched place score set.weight) 0
          (set.rows.map ScoreRow.view) := by
  rw [← ScoreSet.walk_view, ← comp_map, walk]
  simp only [ScoreSet.contribution_eq_weighted]
  rfl

/-- Calls on regrouped items have the same walk, from every cache. -/
theorem Regrouped.walk_eq {call other : Call} (regrouped : call.Regrouped other)
    (facts : Facts) : call.walk facts = other.walk facts := by
  cases regrouped with
  | resolve same =>
      have walks := (Item.View.token.inj same.view_eq).1
      rw [walk, walk, congrFun walks facts]
  | test same =>
      have walks := congrArg View.walk (Item.View.truth.inj same.view_eq)
      exact congrArg (Answer.truth <$> ·) (congrFun walks facts)
  | combine same =>
      have walks := congrArg View.walk (Item.View.truth.inj same.view_eq)
      exact congrArg (Answer.truth <$> ·) (congrFun walks facts)
  | decide same =>
      have rows := Item.View.decisionSet.inj same.view_eq
      rw [walk_decide_view, walk_decide_view, rows]
  | contribute same =>
      obtain ⟨rows, weight⟩ :=
        Prod.mk.inj (Item.View.scoreSet.inj same.view_eq)
      rw [walk_contribute_view, walk_contribute_view, rows, weight]
  | execute same => rw [walk, walk, Rule.walk_of_view same.view_eq]
  | report same => rw [walk, walk, Rule.walkDetailed_of_view same.view_eq]

end Call

end Rulebook
