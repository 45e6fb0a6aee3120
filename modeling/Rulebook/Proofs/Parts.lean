import Rulebook.Proofs.Collected

/-!
# Parts of constructed items

A constructed item is put together from constructed parts, and what the
constructors ask for on the way can be read off the item afterwards.  The laws
here say so for each type of item.  What holds of the tests of an item does not
depend on how its conditionals nest them.
-/

namespace Rulebook

theorem checkWeight_eq_ok_iff {weight : Float} :
    checkWeight weight = .ok () ↔ 0 ≤ weight ∧ weight ≤ 1 := by
  unfold checkWeight
  by_cases inside : 0 ≤ weight ∧ weight ≤ 1
  · simp [inside]
  · simp only [Bool.and_eq_true, decide_eq_true_eq, inside, if_false, iff_false]
    rintro ⟨⟩

/-- Single checks of the members of a list are passed one after the other. -/
theorem forM_eq_ok_iff {ε α : Type} {check : α → Except ε Unit}
    {items : List α} :
    items.forM check = .ok () ↔ ∀ item ∈ items, check item = .ok () := by
  induction items with
  | nil => simp [pure_eq_ok_iff]
  | cons item items ih =>
      rw [List.forM_eq_forM, List.forM_cons, bind_eq_ok_iff,
        List.forall_mem_cons, ← ih]
      exact ⟨fun ⟨_, first, rest⟩ => ⟨first, rest⟩,
        fun ⟨first, rest⟩ => ⟨(), first, rest⟩⟩

theorem ScoreSet.ofPairs_checked {pairs : List (Conditional × Float)}
    {weight : Float} {set : ScoreSet} (accepted : ofPairs pairs weight = .ok set) :
    (∀ row ∈ set.rows, row.score.isFinite = true) ∧
      checkWeight set.weight = .ok () := by
  obtain ⟨rows, made, whole⟩ := bind_eq_ok_iff.mp accepted
  obtain ⟨inRange, rfl⟩ := make_eq_ok_iff.mp whole
  refine ⟨?_, inRange⟩
  clear accepted whole
  induction pairs generalizing rows with
  | nil =>
      cases made
      simp
  | cons pair pairs ih =>
      simp only [List.mapM_cons, bind_eq_ok_iff, pure_eq_ok_iff] at made
      obtain ⟨row, first, others, rest, rfl⟩ := made
      obtain ⟨finite, rfl⟩ := ScoreRow.make_eq_ok_iff.mp first
      rw [List.forall_mem_cons]
      exact ⟨finite, ih others rest⟩

theorem ScoreRule.make_eq_ok_iff {rulesets : List ScoreSet} {rule : ScoreRule} :
    make rulesets = .ok rule ↔
      rulesets ≠ [] ∧
        (∀ set ∈ rulesets, checkWeight set.weight = .ok ()) ∧
        ¬ weightTolerance < (ScoreSet.weightSum rulesets - 1).abs ∧
        ∃ profile,
          Profile.ofLeaves (rulesets.flatMap ScoreSet.leaves) = .ok profile ∧
            rule = ⟨rulesets, profile⟩ := by
  rw [← forM_eq_ok_iff]
  unfold make
  by_cases none : rulesets = []
  · subst none
    simp only [List.isEmpty_nil, if_true, ne_eq, not_true, false_and, iff_false]
    rintro ⟨⟩
  · simp only [List.isEmpty_iff, none, if_false, ne_eq, not_false_eq_true,
      true_and]
    by_cases off : weightTolerance < (ScoreSet.weightSum rulesets - 1).abs
    · simp only [off, if_true, not_true, false_and, and_false, iff_false,
        bind_eq_ok_iff]
      rintro ⟨_, _, _, threw, _⟩
      exact throw_ne_ok threw
    · simp only [off, if_false, not_false_eq_true, true_and]
      constructor
      · intro accepted
        obtain ⟨_, inRange, accepted⟩ := bind_eq_ok_iff.mp accepted
        refine ⟨inRange, ?_⟩
        simpa only [bind_eq_ok_iff, pure_eq_ok_iff] using accepted
      · rintro ⟨inRange, profile, collected, rfl⟩
        rw [inRange]
        change (Profile.ofLeaves (rulesets.flatMap ScoreSet.leaves) >>= _) = _
        rw [collected]
        rfl

namespace Item

/-- Every test of a constructed item was constructed. -/
theorem Constructed.leaf {item : Item} (constructed : item.Constructed)
    {leaf : Expression} (member : leaf ∈ item.leaves) :
    Constructed (.expression leaf) := by
  induction constructed with
  | given holds => exact holds.elim
  | fact name kind => cases member
  | embed _ _ => cases member
  | expression made accepted =>
      rw [List.mem_singleton.mp member]
      exact .expression made accepted
  | onFact name inRange =>
      rw [List.mem_singleton.mp member]
      exact .onFact name inRange
  | test _ ih =>
      rw [leaves, Condition.leaves] at member
      exact ih member
  | nested _ ih =>
      rw [leaves, Condition.leaves] at member
      exact ih member
  | conditional junction _ ih =>
      rw [leaves, Conditional.leaves, Condition.leavesAll_eq_flatMap] at member
      obtain ⟨condition, among, inside⟩ := List.mem_flatMap.mp member
      exact ih condition among inside
  | decisionRow consequent _ ih => exact ih member
  | scoreRow _ accepted ih =>
      obtain ⟨_, rfl⟩ := ScoreRow.make_eq_ok_iff.mp accepted
      exact ih member
  | decisionSet _ ih =>
      obtain ⟨row, among, inside⟩ := List.mem_flatMap.mp member
      exact ih row among inside
  | scoreSet _ accepted ih =>
      obtain ⟨_, rfl⟩ := ScoreSet.make_eq_ok_iff.mp accepted
      obtain ⟨row, among, inside⟩ := List.mem_flatMap.mp member
      exact ih row among inside
  | scorePairs _ accepted ih =>
      rw [ScoreSet.ofPairs_eq_ok accepted] at member
      obtain ⟨row, among, inside⟩ := List.mem_flatMap.mp member
      obtain ⟨pair, there, rfl⟩ := List.mem_map.mp among
      exact ih pair there inside
  | decision _ accepted ih =>
      obtain ⟨_, _, rfl⟩ := DecisionRule.make_eq_ok_iff.mp accepted
      exact ih member
  | decisions _ accepted ih =>
      obtain ⟨ruleset, rfl, made⟩ := DecisionRule.ofSets_eq_ok_iff.mp accepted
      obtain ⟨_, _, rfl⟩ := DecisionRule.make_eq_ok_iff.mp made
      exact ih ruleset (List.mem_singleton_self ruleset) member
  | score _ accepted ih =>
      obtain ⟨_, _, rfl⟩ := ScoreRule.make_eq_ok accepted
      obtain ⟨ruleset, among, inside⟩ := List.mem_flatMap.mp member
      exact ih ruleset among inside

theorem constructed_rule_iff {label : String} {object : Nat} {kind : ValueKind}
    {rule : Rule} :
    Constructed (.token (.rule label object kind rule)) ↔
      Constructed (.rule rule) ∧ rule.outputKind = some kind ∧
        rule.chainDepth < maxChainDepth := by
  constructor
  · intro constructed
    cases constructed with
    | given holds => exact holds.elim
    | embed whole accepted =>
        obtain ⟨_, output, shallow, same⟩ := Token.embed_eq_ok_iff.mp accepted
        cases same
        exact ⟨whole, output, shallow⟩
  · rintro ⟨whole, output, shallow⟩
    exact .embed whole
      (Token.embed_eq_ok_iff.mpr ⟨kind, output, shallow, rfl⟩)

theorem constructed_expression_iff {token : Token} {operator : Operator} :
    Constructed (.expression ⟨token, operator⟩) ↔
      Constructed (.token token) ∧ token.kind = operator.kind ∧
        (operator.validate = .ok () ∨
          operator.checkRange = .ok () ∧ ∃ name kind, token = .fact name kind) := by
  constructor
  · intro constructed
    cases constructed with
    | given holds => exact holds.elim
    | expression made accepted =>
        obtain ⟨valid, fits, same⟩ := Expression.make_eq_ok_iff.mp accepted
        cases same
        exact ⟨made, fits, .inl valid⟩
    | onFact name inRange =>
        exact ⟨.fact name operator.kind, rfl,
          .inr ⟨inRange, name, operator.kind, rfl⟩⟩
  · rintro ⟨made, fits, valid | ⟨inRange, name, kind, rfl⟩⟩
    · exact .expression made
        (Expression.make_eq_ok_iff.mpr ⟨valid, fits, rfl⟩)
    · rw [show kind = operator.kind from fits]
      exact .onFact name inRange

mutual

/-- Conditionals may be put around any constructed tests. -/
theorem constructed_condition : (condition : Condition) →
    (∀ leaf ∈ condition.leaves, Constructed (.expression leaf)) →
      Constructed (.condition condition)
  | .test tested, tests =>
      .test (tests tested (by simp [Condition.leaves]))
  | .nested inner, tests => by
      rw [Condition.leaves] at tests
      exact .nested (constructed_conditional inner tests)

theorem constructed_conditional : (whole : Conditional) →
    (∀ leaf ∈ whole.leaves, Constructed (.expression leaf)) →
      Constructed (.conditional whole)
  | ⟨junction, conditions⟩, tests => by
      rw [Conditional.leaves] at tests
      exact .conditional junction (constructed_conditions conditions tests)

theorem constructed_conditions : (conditions : List Condition) →
    (∀ leaf ∈ Condition.leavesAll conditions,
      Constructed (.expression leaf)) →
      ∀ condition ∈ conditions, Constructed (.condition condition)
  | [], _ => by simp
  | first :: others, tests => by
      rw [Condition.leavesAll, List.forall_mem_append] at tests
      rw [List.forall_mem_cons]
      exact ⟨constructed_condition first tests.1,
        constructed_conditions others tests.2⟩

end

theorem constructed_decisionSet_iff {set : DecisionSet} :
    Constructed (.decisionSet set) ↔
      ∀ leaf ∈ set.leaves, Constructed (.expression leaf) := by
  refine ⟨fun constructed leaf member => constructed.leaf member, ?_⟩
  intro tests
  obtain ⟨rows⟩ := set
  refine .decisionSet fun ⟨antecedent, consequent⟩ among => ?_
  refine .decisionRow consequent (constructed_conditional antecedent ?_)
  exact fun leaf member => tests leaf (List.mem_flatMap.mpr ⟨_, among, member⟩)

theorem constructed_scoreSet_iff {set : ScoreSet} :
    Constructed (.scoreSet set) ↔
      (∀ leaf ∈ set.leaves, Constructed (.expression leaf)) ∧
        (∀ row ∈ set.rows, row.score.isFinite = true) ∧
        checkWeight set.weight = .ok () := by
  constructor
  · intro constructed
    refine ⟨fun leaf member => constructed.leaf member, ?_⟩
    cases constructed with
    | given holds => exact holds.elim
    | scoreSet made accepted =>
        obtain ⟨inRange, rfl⟩ := ScoreSet.make_eq_ok_iff.mp accepted
        refine ⟨fun row among => ?_, inRange⟩
        cases made row among with
        | given holds => exact holds.elim
        | scoreRow _ finite =>
            obtain ⟨holds, same⟩ := ScoreRow.make_eq_ok_iff.mp finite
            cases same
            exact holds
    | scorePairs made accepted =>
        exact ScoreSet.ofPairs_checked accepted
  · rintro ⟨tests, finite, inRange⟩
    obtain ⟨rows, weight⟩ := set
    refine .scoreSet (fun ⟨antecedent, score⟩ among => ?_)
      (ScoreSet.make_eq_ok_iff.mpr ⟨inRange, rfl⟩)
    refine .scoreRow (constructed_conditional antecedent ?_)
      (ScoreRow.make_eq_ok_iff.mpr ⟨finite _ among, rfl⟩)
    exact fun leaf member =>
      tests leaf (List.mem_flatMap.mpr ⟨_, among, member⟩)

theorem constructed_decision_iff {ruleset : DecisionSet} {profile : Profile} :
    Constructed (.rule (.decision ⟨ruleset, profile⟩)) ↔
      (∀ leaf ∈ ruleset.leaves, Constructed (.expression leaf)) ∧
        Profile.ofLeaves ruleset.leaves = .ok profile := by
  constructor
  · intro constructed
    exact ⟨fun leaf member => constructed.leaf member, constructed.profile⟩
  · rintro ⟨tests, collected⟩
    exact .decision (constructed_decisionSet_iff.mpr tests)
      (DecisionRule.make_eq_ok_iff.mpr ⟨profile, collected, rfl⟩)

theorem constructed_score_iff {rulesets : List ScoreSet} {profile : Profile} :
    Constructed (.rule (.score ⟨rulesets, profile⟩)) ↔
      (∀ set ∈ rulesets, Constructed (.scoreSet set)) ∧
        ScoreRule.make rulesets = .ok ⟨rulesets, profile⟩ := by
  constructor
  · intro constructed
    cases constructed with
    | given holds => exact holds.elim
    | score made accepted =>
        obtain ⟨_, _, same⟩ := ScoreRule.make_eq_ok accepted
        cases same
        exact ⟨made, accepted⟩
  · rintro ⟨made, accepted⟩
    exact .score made accepted

end Item

end Rulebook
