import Rulebook.Proofs.ChainDepth
import Rulebook.Proofs.Coincidence
import Rulebook.Proofs.Regrouping

/-!
# Building rules of regrouped conditions

The constructors of rules look at tests in the order in which they are written and
not at how conditionals group them.  A construction from regrouped parts is
therefore refused with the same error, or it comes to a regrouped item.  Regrouped
rules have the same profile, so their requirements and their depth are the same.
-/

namespace Rulebook

/-! ## The law for lists of parts -/

/-- A whole is regrouped when each of its parts is. -/
theorem Item.Regrouped.of_parts {Part : Type} {item : Part → Item}
    (whole : List Part → Item)
    (place : ∀ before after first second,
      (item first).Regrouped (item second) →
        (whole (before ++ first :: after)).Regrouped
          (whole (before ++ second :: after)))
    {parts others : List Part}
    (each : List.Forall₂ (fun first second =>
      (item first).Regrouped (item second)) parts others) (before : List Part) :
    (whole (before ++ parts)).Regrouped (whole (before ++ others)) := by
  induction each generalizing before with
  | nil => exact .refl _
  | @cons first second parts others same _ ih =>
      have here := place before parts first second same
      have rest := ih (before ++ [second])
      rw [List.append_assoc, List.append_assoc] at rest
      exact here.trans rest

theorem Item.Regrouped.of_rows {rows others : List ScoreRow} (weight : Float)
    (each : List.Forall₂ (fun first second =>
      (Item.scoreRow first).Regrouped (.scoreRow second)) rows others) :
    (Item.scoreSet ⟨rows, weight⟩).Regrouped (.scoreSet ⟨others, weight⟩) :=
  of_parts (fun rows => .scoreSet ⟨rows, weight⟩)
    (fun before after _ _ => .scoreSet weight before after) each []

theorem Item.Regrouped.of_sets {sets others : List ScoreSet} (profile : Profile)
    (each : List.Forall₂ (fun first second =>
      (Item.scoreSet first).Regrouped (.scoreSet second)) sets others) :
    (Item.rule (.score ⟨sets, profile⟩)).Regrouped
      (.rule (.score ⟨others, profile⟩)) :=
  of_parts (fun sets => .rule (.score ⟨sets, profile⟩))
    (fun before after _ _ => .score profile before after) each []

/-- Two results for lists that are related place by place, of a step that relates
its results. -/
theorem Coincide.mapM {ε α β γ δ : Type} {R : α → β → Prop} {S : γ → δ → Prop}
    {one : α → Except ε γ} {other : β → Except ε δ} {items : List α}
    {against : List β} (each : List.Forall₂ R items against)
    (step : ∀ item found, R item found → Coincide S (one item) (other found)) :
    Coincide (List.Forall₂ S) (items.mapM one) (against.mapM other) := by
  induction each with
  | nil => exact .ok .nil
  | cons first _ ih =>
      rw [List.mapM_cons, List.mapM_cons]
      refine (step _ _ first).bind fun _ _ head => ?_
      exact ih.bind fun _ _ tail => .ok (.cons head tail)

/-! ## Profiles from views -/

namespace Profile

theorem addLeaves_flatMap {Part : Type} (leaves : Part → List Expression)
    (parts : List Part) (profile : Profile) :
    profile.addLeaves (parts.flatMap leaves) =
      parts.foldlM (fun profile part => profile.addLeaves (leaves part))
        profile := by
  induction parts generalizing profile with
  | nil => rfl
  | cons part parts ih =>
      rw [List.flatMap_cons, addLeaves_append, List.foldlM_cons]
      exact bind_congr ih

end Profile

namespace View

/-- What the tests of rows add to a profile, from the first row to the last. -/
def collectRows {α : Type} (rows : List (View × α)) (profile : Profile) :
    Except ConfigError Profile :=
  rows.foldlM (fun profile row => row.1.collect profile) profile

/-- The profile of a score rule whose rulesets are seen as given, or the reason why
there is no such rule. -/
def scoreProfile (sets : List (List (View × Float) × Float)) :
    Except ConfigError Profile := do
  if sets.isEmpty then
    throw .noRuleSets
  sets.forM fun set => checkWeight set.2
  let sum := sets.foldl (fun sum set => sum + set.2) (-0.0)
  if weightTolerance < (sum - 1).abs then
    throw (.weightSum sum)
  sets.foldlM (fun profile set => collectRows set.1 profile) .initial

end View

theorem DecisionSet.addLeaves_eq_collectRows (set : DecisionSet)
    (profile : Profile) :
    profile.addLeaves set.leaves =
      View.collectRows (set.rows.map DecisionRow.view) profile := by
  rw [leaves, Profile.addLeaves_flatMap, View.collectRows, List.foldlM_map]
  rfl

theorem ScoreSet.addLeaves_eq_collectRows (set : ScoreSet) (profile : Profile) :
    profile.addLeaves set.leaves =
      View.collectRows (set.rows.map ScoreRow.view) profile := by
  rw [leaves, Profile.addLeaves_flatMap, View.collectRows, List.foldlM_map]
  rfl

/-- The constructor of decision rules looks at the view of a ruleset. -/
theorem DecisionRule.make_eq (set : DecisionSet) :
    make set = DecisionRule.mk set <$>
      View.collectRows (set.rows.map DecisionRow.view) .initial := by
  rw [← DecisionSet.addLeaves_eq_collectRows, map_eq_pure_bind]
  rfl

/-- The constructor of score rules looks at the views of its rulesets. -/
theorem ScoreRule.make_eq (sets : List ScoreSet) :
    make sets =
      ScoreRule.mk sets <$> View.scoreProfile (sets.map ScoreSet.view) := by
  have collected : (sets.map ScoreSet.view).foldlM
      (fun profile set => View.collectRows set.1 profile) .initial =
        Profile.ofLeaves (sets.flatMap ScoreSet.leaves) := by
    rw [List.foldlM_map]
    refine Eq.trans ?_ (Profile.addLeaves_flatMap _ _ _).symm
    simp only [ScoreSet.addLeaves_eq_collectRows]
    rfl
  have weights : (sets.map ScoreSet.view).forM (fun set => checkWeight set.2) =
      sets.forM fun set => checkWeight set.weight :=
    List.forM_map
  have sum : (sets.map ScoreSet.view).foldl (fun sum set => sum + set.2) (-0.0) =
      ScoreSet.weightSum sets := by
    rw [List.foldl_map]
    rfl
  unfold make View.scoreProfile
  rw [collected, weights, sum, List.isEmpty_map]
  by_cases none : sets.isEmpty = true
  · rw [if_pos none, if_pos none]
    rfl
  · rw [if_neg none, if_neg none]
    by_cases off : weightTolerance < (ScoreSet.weightSum sets - 1).abs
    · simp only [off, if_true, map_bind]
      rfl
    · simp only [off, if_false, map_bind]
      rfl

/-! ## Constructions -/

/-- A use of a constructor that may refuse its parts. -/
inductive Construction where
  | embed (label : String) (object : RuleObject)
  | expression (token : Token) (operator : Operator)
  | scoreRow (antecedent : Conditional) (score : Float)
  | scoreSet (rows : List ScoreRow) (weight : Float)
  | scorePairs (pairs : List (Conditional × Float)) (weight : Float)
  | decision (ruleset : DecisionSet)
  | decisions (rulesets : List DecisionSet)
  | score (rulesets : List ScoreSet)

namespace Construction

/-- The item that a construction comes to, or the reason why there is none. -/
def run : Construction → Except ConfigError Item
  | embed label object => .token <$> Token.embed label object
  | expression token operator => .expression <$> Expression.make token operator
  | scoreRow antecedent scored => .scoreRow <$> ScoreRow.make antecedent scored
  | scoreSet rows weight => .scoreSet <$> ScoreSet.make rows weight
  | scorePairs pairs weight => .scoreSet <$> ScoreSet.ofPairs pairs weight
  | decision ruleset => (.rule <| .decision ·) <$> DecisionRule.make ruleset
  | decisions rulesets => (.rule <| .decision ·) <$> DecisionRule.ofSets rulesets
  | score rulesets => (.rule <| .score ·) <$> ScoreRule.make rulesets

/-- Two uses of one constructor, on regrouped parts. -/
inductive Regrouped : Construction → Construction → Prop
  | embed (label : String) (number : Nat) {first second : Rule} :
      (Item.rule first).Regrouped (.rule second) →
        Regrouped (embed label ⟨number, first⟩) (embed label ⟨number, second⟩)
  | expression (operator : Operator) {first second : Token} :
      (Item.token first).Regrouped (.token second) →
        Regrouped (expression first operator) (expression second operator)
  | scoreRow (score : Float) {first second : Conditional} :
      (Item.conditional first).Regrouped (.conditional second) →
        Regrouped (scoreRow first score) (scoreRow second score)
  | scoreSet (weight : Float) {rows others : List ScoreRow} :
      List.Forall₂ (fun first second =>
          (Item.scoreRow first).Regrouped (.scoreRow second)) rows others →
        Regrouped (scoreSet rows weight) (scoreSet others weight)
  | scorePairs (weight : Float) {pairs others : List (Conditional × Float)} :
      List.Forall₂ (fun first second =>
          (Item.conditional first.1).Regrouped (.conditional second.1) ∧
            first.2 = second.2) pairs others →
        Regrouped (scorePairs pairs weight) (scorePairs others weight)
  | decision {first second : DecisionSet} :
      (Item.decisionSet first).Regrouped (.decisionSet second) →
        Regrouped (decision first) (decision second)
  | decisions {sets others : List DecisionSet} :
      List.Forall₂ (fun first second =>
          (Item.decisionSet first).Regrouped (.decisionSet second)) sets others →
        Regrouped (decisions sets) (decisions others)
  | score {sets others : List ScoreSet} :
      List.Forall₂ (fun first second =>
          (Item.scoreSet first).Regrouped (.scoreSet second)) sets others →
        Regrouped (score sets) (score others)

end Construction

theorem Token.embed_regrouped (label : String) (number : Nat)
    {first second : Rule} (same : (Item.rule first).Regrouped (.rule second)) :
    Coincide (fun token other => (Item.token token).Regrouped (.token other))
      (embed label ⟨number, first⟩) (embed label ⟨number, second⟩) := by
  have profile := Rule.profile_of_view same.view_eq
  unfold embed
  simp only [Rule.outputKind_of_view same.view_eq, Rule.chainDepth, profile]
  cases second.outputKind with
  | none => exact .error _
  | some kind =>
      by_cases deep : maxChainDepth < second.profile.depth + 1
      · simp only [deep, if_true]
        exact .error _
      · simp only [deep, if_false]
        exact .ok (.token label number kind same)

theorem Expression.make_regrouped (operator : Operator) {first second : Token}
    (same : (Item.token first).Regrouped (.token second)) :
    Coincide (fun tested other =>
        (Item.expression tested).Regrouped (.expression other))
      (make first operator) (make second operator) := by
  obtain ⟨_, name, kind, _, _⟩ := Item.View.token.inj same.view_eq
  unfold make
  rw [name, kind]
  cases operator.validate with
  | error defect => exact .error defect
  | ok _ =>
      by_cases fits : second.kind = operator.kind
      · rw [if_pos fits, if_pos fits]
        exact .ok (.expression operator same)
      · rw [if_neg fits, if_neg fits]
        exact .error _

theorem ScoreRow.make_regrouped (score : Float) {first second : Conditional}
    (same : (Item.conditional first).Regrouped (.conditional second)) :
    Coincide (fun row other => (Item.scoreRow row).Regrouped (.scoreRow other))
      (make first score) (make second score) := by
  unfold make
  by_cases finite : score.isFinite = true
  · rw [if_pos finite, if_pos finite]
    exact .ok (.scoreRow score same)
  · rw [if_neg finite, if_neg finite]
    exact .error _

theorem ScoreSet.make_regrouped (weight : Float) {rows others : List ScoreRow}
    (each : List.Forall₂ (fun first second =>
      (Item.scoreRow first).Regrouped (.scoreRow second)) rows others) :
    Coincide (fun set other => (Item.scoreSet set).Regrouped (.scoreSet other))
      (make rows weight) (make others weight) := by
  unfold make
  cases checkWeight weight with
  | error defect => exact .error defect
  | ok _ => exact .ok (.of_rows weight each)

theorem ScoreSet.ofPairs_regrouped (weight : Float)
    {pairs others : List (Conditional × Float)}
    (each : List.Forall₂ (fun first second =>
      (Item.conditional first.1).Regrouped (.conditional second.1) ∧
        first.2 = second.2) pairs others) :
    Coincide (fun set other => (Item.scoreSet set).Regrouped (.scoreSet other))
      (ofPairs pairs weight) (ofPairs others weight) := by
  refine (Coincide.mapM each fun pair other same => ?_).bind
    fun _ _ rows => make_regrouped weight rows
  rw [same.2]
  exact ScoreRow.make_regrouped other.2 same.1

theorem DecisionRule.make_regrouped {first second : DecisionSet}
    (same : (Item.decisionSet first).Regrouped (.decisionSet second)) :
    Coincide (fun rule other =>
        (Item.rule (.decision rule)).Regrouped (.rule (.decision other)))
      (make first) (make second) := by
  rw [make_eq, make_eq, Item.View.decisionSet.inj same.view_eq]
  refine (Coincide.of_eq (R := Eq) (fun _ => rfl) rfl).map ?_
  rintro profile _ rfl
  exact .decision profile same

theorem DecisionRule.ofSets_regrouped {sets others : List DecisionSet}
    (each : List.Forall₂ (fun first second =>
      (Item.decisionSet first).Regrouped (.decisionSet second)) sets others) :
    Coincide (fun rule other =>
        (Item.rule (.decision rule)).Regrouped (.rule (.decision other)))
      (ofSets sets) (ofSets others) := by
  have count := each.length_eq
  cases each with
  | nil => exact .error _
  | cons first later =>
      cases later with
      | nil => exact make_regrouped first
      | cons second later =>
          rw [ofSets, ofSets, count]
          · exact .error _
          · simp
          · simp

theorem ScoreRule.make_regrouped {sets others : List ScoreSet}
    (each : List.Forall₂ (fun first second =>
      (Item.scoreSet first).Regrouped (.scoreSet second)) sets others) :
    Coincide (fun rule other =>
        (Item.rule (.score rule)).Regrouped (.rule (.score other)))
      (make sets) (make others) := by
  have views : sets.map ScoreSet.view = others.map ScoreSet.view := by
    have alike : List.Forall₂ (fun first second : ScoreSet =>
        first.view = second.view) sets others :=
      each.imp fun first second same => Item.View.scoreSet.inj same.view_eq
    rwa [← List.forall₂_eq_eq_eq, List.forall₂_map_left_iff,
      List.forall₂_map_right_iff]
  rw [make_eq, make_eq, views]
  refine (Coincide.of_eq (R := Eq) (fun _ => rfl) rfl).map ?_
  rintro profile _ rfl
  exact .of_sets profile each

/-- Regrouped parts are refused with the same error, or what they make is
regrouped. -/
theorem Construction.Regrouped.coincide {construction other : Construction}
    (regrouped : construction.Regrouped other) :
    Coincide Item.Regrouped construction.run other.run := by
  cases regrouped with
  | embed label number same =>
      exact (Token.embed_regrouped label number same).map fun _ _ => id
  | expression operator same =>
      exact (Expression.make_regrouped operator same).map fun _ _ => id
  | scoreRow score same =>
      exact (ScoreRow.make_regrouped score same).map fun _ _ => id
  | scoreSet weight each =>
      exact (ScoreSet.make_regrouped weight each).map fun _ _ => id
  | scorePairs weight each =>
      exact (ScoreSet.ofPairs_regrouped weight each).map fun _ _ => id
  | decision same => exact (DecisionRule.make_regrouped same).map fun _ _ => id
  | decisions each => exact (DecisionRule.ofSets_regrouped each).map fun _ _ => id
  | score each => exact (ScoreRule.make_regrouped each).map fun _ _ => id

/-! ## What the constructors can make -/

namespace Item

theorem constructed_condition_iff {condition : Condition} :
    Constructed (.condition condition) ↔
      ∀ leaf ∈ condition.leaves, Constructed (.expression leaf) :=
  ⟨fun made _ member => made.leaf member, constructed_condition condition⟩

theorem constructed_conditional_iff {conditional : Conditional} :
    Constructed (.conditional conditional) ↔
      ∀ leaf ∈ conditional.leaves, Constructed (.expression leaf) :=
  ⟨fun made _ member => made.leaf member, constructed_conditional conditional⟩

theorem constructed_decisionRow_iff {row : DecisionRow} :
    Constructed (.decisionRow row) ↔
      ∀ leaf ∈ row.antecedent.leaves, Constructed (.expression leaf) := by
  refine ⟨fun made _ member => made.leaf member, fun tests => ?_⟩
  obtain ⟨antecedent, consequent⟩ := row
  exact .decisionRow consequent (constructed_conditional antecedent tests)

theorem constructed_scoreRow_iff {row : ScoreRow} :
    Constructed (.scoreRow row) ↔
      (∀ leaf ∈ row.antecedent.leaves, Constructed (.expression leaf)) ∧
        row.score.isFinite = true := by
  constructor
  · intro made
    refine ⟨fun leaf member => made.leaf member, ?_⟩
    cases made with
    | given holds => exact holds.elim
    | scoreRow _ accepted =>
        obtain ⟨finite, rfl⟩ := ScoreRow.make_eq_ok_iff.mp accepted
        exact finite
  · rintro ⟨tests, finite⟩
    obtain ⟨antecedent, score⟩ := row
    exact .scoreRow (constructed_conditional antecedent tests)
      (ScoreRow.make_eq_ok_iff.mpr ⟨finite, rfl⟩)

namespace Regrouped

/-- An expression is constructed from regrouped tokens alike: either both name a
fact, or both embed a rule. -/
theorem expression_constructed_iff (operator : Operator) {first second : Token}
    (regrouped : (Item.token first).Regrouped (.token second))
    (alike : Constructed (.token first) ↔ Constructed (.token second)) :
    Constructed (.expression ⟨first, operator⟩) ↔
      Constructed (.expression ⟨second, operator⟩) := by
  obtain ⟨_, _, kind, _, depth⟩ := View.token.inj regrouped.view_eq
  have shallow {token : Token} (made : Constructed (.token token)) :
      (∃ name kind, token = .fact name kind) ↔ token.depth = 0 := by
    cases token with
    | fact name kind => simp [Token.depth]
    | rule label object kind embedded =>
        have deep := Rule.chainDepth_cases (constructed_rule_iff.mp made).1
        simp only [reduceCtorEq, exists_false, Token.depth, false_iff]
        rcases deep with one | ⟨_, _, _, _, _, more⟩ <;> omega
  rw [constructed_expression_iff, constructed_expression_iff, alike, kind]
  refine and_congr_right fun made => ?_
  rw [shallow made, shallow (alike.mpr made), depth]

/-- The constructors make an item just if they make a regrouped one. -/
theorem constructed_iff {first second : Item}
    (regrouped : first.Regrouped second) :
    Constructed first ↔ Constructed second := by
  induction regrouped with
  | refl item => rfl
  | symm _ ih => exact ih.symm
  | trans _ _ one other => exact one.trans other
  | spliced junction before inner after =>
      simp [constructed_conditional_iff, Conditional.leaves,
        Condition.leavesAll_append, Condition.leavesAll, Condition.leaves]
  | wrapped junction condition =>
      simp [constructed_condition_iff, Condition.leaves, Conditional.leaves,
        Condition.leavesAll]
  | enclosed junction conditional =>
      simp [constructed_conditional_iff, Conditional.leaves, Condition.leavesAll,
        Condition.leaves]
  | token label object kind same ih =>
      rw [constructed_rule_iff, constructed_rule_iff, ih,
        Rule.outputKind_of_view same.view_eq, Rule.chainDepth, Rule.chainDepth,
        Rule.profile_of_view same.view_eq]
  | expression operator same ih => exact expression_constructed_iff operator same ih
  | test _ ih => simpa [constructed_condition_iff, Condition.leaves] using ih
  | nested _ ih =>
      simpa [constructed_condition_iff, constructed_conditional_iff,
        Condition.leaves] using ih
  | conditional junction before after _ ih =>
      rw [constructed_condition_iff, constructed_condition_iff] at ih
      simp only [constructed_conditional_iff, Conditional.leaves,
        Condition.leavesAll_append, Condition.leavesAll, List.forall_mem_append,
        ih]
  | decisionRow consequent _ ih =>
      rw [constructed_conditional_iff, constructed_conditional_iff] at ih
      rw [constructed_decisionRow_iff, constructed_decisionRow_iff, ih]
  | scoreRow score _ ih =>
      rw [constructed_conditional_iff, constructed_conditional_iff] at ih
      rw [constructed_scoreRow_iff, constructed_scoreRow_iff, ih]
  | decisionSet before after _ ih =>
      rw [constructed_decisionRow_iff, constructed_decisionRow_iff] at ih
      simp only [constructed_decisionSet_iff, DecisionSet.leaves,
        List.flatMap_append, List.flatMap_cons, List.forall_mem_append, ih]
  | scoreSet weight before after _ ih =>
      rw [constructed_scoreRow_iff, constructed_scoreRow_iff] at ih
      simp only [constructed_scoreSet_iff, ScoreSet.leaves, List.flatMap_append,
        List.flatMap_cons, List.forall_mem_append, List.forall_mem_cons]
      tauto
  | @decision profile first second same ih =>
      have collected : Profile.ofLeaves first.leaves =
          Profile.ofLeaves second.leaves := by
        have rows := View.decisionSet.inj same.view_eq
        exact (first.addLeaves_eq_collectRows _).trans
          (rows ▸ (second.addLeaves_eq_collectRows _).symm)
      rw [constructed_decisionSet_iff, constructed_decisionSet_iff] at ih
      rw [constructed_decision_iff, constructed_decision_iff, ih, collected]
  | @score profile before after first second same ih =>
      have views : (before ++ first :: after).map ScoreSet.view =
          (before ++ second :: after).map ScoreSet.view := by
        simp only [List.map_append, List.map_cons, View.scoreSet.inj same.view_eq]
      have accepted (sets : List ScoreSet) :
          ScoreRule.make sets = .ok ⟨sets, profile⟩ ↔
            Rulebook.View.scoreProfile (sets.map ScoreSet.view) = .ok profile := by
        rw [ScoreRule.make_eq]
        cases Rulebook.View.scoreProfile (sets.map ScoreSet.view) <;>
          simp [Functor.map, Except.map]
      rw [constructed_score_iff, constructed_score_iff, accepted, accepted, views]
      simp only [List.forall_mem_append, List.forall_mem_cons, ih]

/-- Nothing tells regrouped items apart.  Calls on them give the same answer and log
the same events, from every cache.  Rules have the same reports, requirements and
depth.  Constructions from them are refused with the same error or come to regrouped
items, so the constructors make both or neither. -/
theorem unobservable :
    (∀ call other facts, Call.Regrouped call other →
        call.walk facts = other.walk facts ∧ Call.RunsLike facts call other) ∧
      (∀ first second, (Item.rule first).Regrouped (.rule second) →
        (∀ facts, first.executeDetailed facts = second.executeDetailed facts) ∧
          first.requirements = second.requirements ∧
          first.chainDepth = second.chainDepth) ∧
      (∀ construction other, Construction.Regrouped construction other →
        Coincide Regrouped construction.run other.run) ∧
      ∀ first second, Regrouped first second →
        (Constructed first ↔ Constructed second) := by
  refine ⟨?_, ?_, fun _ _ => Construction.Regrouped.coincide,
    fun _ _ => constructed_iff⟩
  · intro call other facts regrouped
    have walks := regrouped.walk_eq facts
    refine ⟨walks, ?_, ?_⟩
    · rw [Call.answer_eq_result, Call.answer_eq_result, walks]
    · rw [walks]
  · intro first second regrouped
    have profile := Rule.profile_of_view regrouped.view_eq
    refine ⟨fun facts => ?_, ?_, ?_⟩
    · rw [Rule.executeDetailed, Rule.executeDetailed,
        Rule.walkDetailed_of_view regrouped.view_eq]
    · rw [Rule.requirements, Rule.requirements, profile]
    · rw [Rule.chainDepth, Rule.chainDepth, profile]

end Regrouped

end Item

section Sample

/-- The conditions of a gate, set apart: the test of the pet is wrapped, both tests
are enclosed, and an empty conditional stands behind them. -/
def Conditional.gateApart (object : Nat) : Conditional :=
  ⟨.all,
    [.nested ⟨.all,
      [.sign object .positive, .nested ⟨.any, [.dog]⟩]⟩,
      .nested ⟨.all, []⟩]⟩

theorem Conditional.gateApart_regrouped (object : Nat) :
    (Item.conditional (gateApart object)).Regrouped
      (.conditional ⟨.all, [.sign object .positive, .dog]⟩) := by
  have outer := Item.Regrouped.spliced .all []
    [.sign object .positive, .nested ⟨.any, [.dog]⟩] [.nested ⟨.all, []⟩]
  have empty := Item.Regrouped.spliced .all
    [.sign object .positive, .nested ⟨.any, [.dog]⟩] [] []
  have pet := Item.Regrouped.conditional .all [.sign object .positive] []
    (Item.Regrouped.wrapped .any .dog)
  exact outer.trans (empty.trans pet)

theorem Rule.gateApart_regrouped (object : Nat) (profile : Profile) :
    (Item.rule (.decision ⟨⟨[⟨.gateApart object, .text "GO"⟩]⟩, profile⟩)).Regrouped
      (.rule (.decision ⟨⟨[⟨⟨.all, [.sign object .positive, .dog]⟩,
        .text "GO"⟩]⟩, profile⟩)) :=
  .decision profile (.decisionSet [] []
    (.decisionRow _ (Conditional.gateApart_regrouped object)))

end Sample

namespace Item.Regrouped

/-- A gate whose conditions are set apart runs like the gate and requires the same
facts. -/
theorem unobservable_gated :
    let apart : Rule := .decision
      ⟨⟨[⟨.gateApart 0, .text "GO"⟩]⟩, (Rule.gated 0).profile⟩
    let facts : Facts := .ofList [("level", .int 3), ("pet", .int 1)]
    Call.RunsLike facts (.execute apart) (.execute (.gated 0)) ∧
      apart.requirements = (Rule.gated 0).requirements ∧
      Constructed (.rule apart) ∧
      Coincide Regrouped
        (Construction.decision ⟨[⟨.gateApart 0, .text "GO"⟩]⟩).run
        (Construction.decision
          ⟨[⟨⟨.all, [.sign 0 .positive, .dog]⟩, .text "GO"⟩]⟩).run := by
  intro apart facts
  have regrouped : (Item.rule apart).Regrouped (.rule (.gated 0)) :=
    Rule.gateApart_regrouped 0 (Rule.gated 0).profile
  obtain ⟨calls, rules, constructions, made⟩ := unobservable
  refine ⟨(calls _ _ facts (.execute regrouped)).2,
    (rules _ _ regrouped).2.1,
    (made _ _ regrouped).mpr (Rule.gated_constructed 0), ?_⟩
  exact constructions _ _ (.decision (.decisionSet [] []
    (.decisionRow _ (Conditional.gateApart_regrouped 0))))

end Item.Regrouped

end Rulebook
