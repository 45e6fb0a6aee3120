import Rulebook.Proofs.Call
import Rulebook.Proofs.Doubles
import Rulebook.Proofs.Parts
import Rulebook.Proofs.Profiles
import Rulebook.Proofs.Reading

/-!
# Rules are well formed

The checks that make a rule well formed are spread over its constructors, and
some constructors leave a check to the rule around what they make.  No way to
obtain a rule gets round any of them: whatever is constructed or read satisfies
`Rule.WellFormed`, and so does every rule that is embedded in it.
-/

namespace Rulebook

namespace Operator

theorem validate_of_baseline? {test : NumericTest} {baseline : Float}
    (compares : test.baseline? = some baseline) :
    (Operator.numeric test).validate =
      if baseline.isNaN then .error (.nanBaseline (.numeric test))
      else .ok () := by
  cases test <;> cases compares <;> rfl

theorem validate_between {floor ceiling : Float} :
    (Operator.numeric (.between floor ceiling)).validate = .ok () ↔
      floor ≤ ceiling := by
  simp [validate]

/-- What passes the check of its range has no empty one. -/
theorem checkRange_eq_ok_iff {operator : Operator} :
    operator.checkRange = .ok () ↔
      ∀ floor ceiling, operator = .numeric (.between floor ceiling) →
        floor ≤ ceiling := by
  by_cases range : ∃ floor ceiling, operator = .numeric (.between floor ceiling)
  · obtain ⟨floor, ceiling, rfl⟩ := range
    simp [checkRange]
  · have free : operator.checkRange = .ok () := by
      rw [checkRange]
      exact fun floor ceiling same => range ⟨floor, ceiling, same⟩
    exact iff_of_true free fun floor ceiling same =>
      (range ⟨floor, ceiling, same⟩).elim

/-- What passes the check has no NaN as a baseline and no empty range. -/
theorem validate_eq_ok_iff {operator : Operator} :
    operator.validate = .ok () ↔
      (∀ test baseline, operator = .numeric test →
        test.baseline? = some baseline → baseline.isNaN = false) ∧
      ∀ floor ceiling, operator = .numeric (.between floor ceiling) →
        floor ≤ ceiling := by
  constructor
  · intro valid
    constructor
    · rintro test baseline rfl compares
      rw [validate_of_baseline? compares] at valid
      by_contra number
      rw [Bool.not_eq_false] at number
      rw [number] at valid
      cases valid
    · rintro floor ceiling rfl
      exact validate_between.mp valid
  · rintro ⟨baselines, ranges⟩
    cases operator with
    | string test => rfl
    | boolean test => rfl
    | numeric test =>
        cases compares : test.baseline? with
        | some baseline =>
            rw [validate_of_baseline? compares,
              baselines test baseline rfl compares]
            rfl
        | none =>
            cases test with
            | between floor ceiling =>
                exact validate_between.mpr (ranges floor ceiling rfl)
            | isNone => rfl
            | _ => cases compares

end Operator

namespace Rule

/-- What the constructors promise of a rule.  The fields about tests, tokens and
scores speak of the rule's own rows, and `oneKind` speaks of its expanded
tree. -/
structure WellFormed (rule : Rule) : Prop where
  valid : ∀ leaf ∈ rule.leaves, leaf.operator.validate = .ok ()
  baselines : ∀ leaf ∈ rule.leaves, ∀ test baseline,
    leaf.operator = .numeric test → test.baseline? = some baseline →
      baseline.isNaN = false
  ranges : ∀ leaf ∈ rule.leaves, ∀ floor ceiling,
    leaf.operator = .numeric (.between floor ceiling) → floor ≤ ceiling
  /-- An operator accepts the kind of its token. -/
  kinds : ∀ leaf ∈ rule.leaves, leaf.token.kind = leaf.operator.kind
  /-- A rule token has the kind of its rule's output. -/
  outputs : ∀ label object kind embedded,
    Token.rule label object kind embedded ∈ rule.tokens →
      embedded.outputKind = some kind
  scores : ∀ set ∈ rule.scoreSets, ∀ row ∈ set.rows,
    row.score.isFinite = true
  weights : ∀ set ∈ rule.scoreSets, 0 ≤ set.weight ∧ set.weight ≤ 1
  /-- A score rule has a ruleset, and its weights sum to one. -/
  balanced : ∀ score, rule = .score score →
    score.rulesets ≠ [] ∧
      (ScoreSet.weightSum score.rulesets - 1).abs ≤ weightTolerance
  oneKind : ∀ name first second,
    (Token.fact name first).OccursIn rule.tokens →
      (Token.fact name second).OccursIn rule.tokens → first = second
  shallow : rule.chainDepth ≤ maxChainDepth

end Rule

/-- Finite weights do not sum to NaN. -/
theorem ScoreSet.weightSum_isNaN {sets : List ScoreSet}
    (finite : ∀ set ∈ sets, set.weight.isFinite = true) :
    (weightSum sets).isNaN = false := by
  have total (start : Float) (number : start.isNaN = false) :
      (sets.foldl (fun sum set => sum + set.weight) start).isNaN = false := by
    induction sets generalizing start with
    | nil => exact number
    | cons set sets ih =>
        rw [List.forall_mem_cons] at finite
        exact ih finite.2 _ (add_isNaN number finite.1)
  exact total (-0.0) rfl

/-- For weights in range, not to be off by more than the tolerance is to be
within it. -/
theorem ScoreSet.weightSum_within {sets : List ScoreSet}
    (inRange : ∀ set ∈ sets, 0 ≤ set.weight ∧ set.weight ≤ 1)
    (notOff : ¬ weightTolerance < (weightSum sets - 1).abs) :
    (weightSum sets - 1).abs ≤ weightTolerance := by
  have finite (set : ScoreSet) (member : set ∈ sets) :
      set.weight.isFinite = true :=
    isFinite_of_mem_unit (inRange set member).1 (inRange set member).2
  have difference : (weightSum sets - 1).isNaN = false :=
    sub_isNaN (weightSum_isNaN finite) rfl
  exact le_of_not_lt (abs_isNaN difference) rfl notOff

namespace Item

theorem Constructed.scoreSet {rule : Rule}
    (constructed : Constructed (.rule rule)) {set : ScoreSet}
    (member : set ∈ rule.scoreSets) : Constructed (.scoreSet set) := by
  cases rule with
  | decision rule => cases member
  | score rule =>
      obtain ⟨rulesets, profile⟩ := rule
      exact (constructed_score_iff.mp constructed).1 set member

theorem Constructed.valid {rule : Rule}
    (constructed : Constructed (.rule rule)) {leaf : Expression}
    (member : leaf ∈ rule.leaves) : leaf.operator.validate = .ok () :=
  (Profile.ofLeaves_accepts_iff.mp ⟨_, constructed.profile⟩).1 leaf member

/-- No test of a constructed item has an empty range, even if no rule has asked
yet whether it is valid. -/
theorem Constructed.inRange {item : Item} (constructed : item.Constructed)
    {leaf : Expression} (member : leaf ∈ item.leaves) :
    leaf.operator.checkRange = .ok () := by
  have made := constructed.leaf member
  obtain ⟨token, operator⟩ := leaf
  obtain ⟨_, _, valid | ⟨inRange, _⟩⟩ := constructed_expression_iff.mp made
  · exact Operator.checkRange_eq_ok_iff.mpr
      (Operator.validate_eq_ok_iff.mp valid).2
  · exact inRange

theorem Constructed.chainDepth_le {rule : Rule}
    (constructed : Constructed (.rule rule)) :
    rule.chainDepth ≤ maxChainDepth := by
  have some : 0 < maxChainDepth := by decide
  refine (Profile.ofLeaves_depth_le_iff constructed.profile).mpr
    ⟨some, fun leaf member => ?_⟩
  have made : Constructed (.token leaf.token) :=
    constructed.token (List.mem_map_of_mem member)
  cases token : leaf.token with
  | fact name kind => exact some
  | rule label object kind embedded =>
      rw [token] at made
      exact (constructed_rule_iff.mp made).2.2

theorem Constructed.wellFormed {rule : Rule}
    (constructed : Constructed (.rule rule)) : rule.WellFormed where
  valid := fun _ member => constructed.valid member
  baselines := fun _ member =>
    (Operator.validate_eq_ok_iff.mp (constructed.valid member)).1
  ranges := fun _ member =>
    (Operator.validate_eq_ok_iff.mp (constructed.valid member)).2
  kinds := by
    rintro ⟨token, operator⟩ member
    exact (constructed_expression_iff.mp (constructed.leaf member)).2.1
  outputs := fun _ _ _ _ member =>
    (constructed_rule_iff.mp (constructed.token member)).2.1
  scores := fun _ member =>
    (constructed_scoreSet_iff.mp (constructed.scoreSet member)).2.1
  weights := fun _ member =>
    checkWeight_eq_ok_iff.mp
      (constructed_scoreSet_iff.mp (constructed.scoreSet member)).2.2
  balanced := by
    rintro ⟨rulesets, profile⟩ rfl
    obtain ⟨some, inRange, notOff, _⟩ := ScoreRule.make_eq_ok_iff.mp
      (constructed_score_iff.mp constructed).2
    exact ⟨some, ScoreSet.weightSum_within
      (fun set member => checkWeight_eq_ok_iff.mp (inRange set member)) notOff⟩
  oneKind := by
    intro name first second one other
    rw [← Rule.requirements_get?_eq_some_iff constructed] at one other
    exact Option.some.inj (one.symm.trans other)
  shallow := constructed.chainDepth_le

end Item

section Sample

/-- A rule that rates a level by its sign and by a range, where the rule object
that tells the sign has the given number. -/
def Rule.rated (object : Nat) : Rule :=
  .score
    ⟨[⟨[⟨⟨.all,
        [.test ⟨.rule "sign" object .boolean .positive, .boolean (.is true)⟩]⟩,
        80⟩], 0.6⟩,
      ⟨[⟨⟨.any, [.test (.onFact "level" (.numeric (.between 1 5)))]⟩, 10⟩],
        0.4⟩], ⟨.ofList [("level", .numeric)], 2⟩⟩

/-- No rule but one is embedded in the rating. -/
theorem Rule.rated_coherent (object : Nat) :
    Token.Coherent (rated object).tokens := by
  refine .of_only positive fun label number kind rule occurs => ?_
  have two : (rated object).tokens =
      [.rule "sign" object .boolean positive] ++ [.fact "level" .numeric] :=
    rfl
  have one : positive.tokens = [.fact "level" .numeric] := rfl
  rw [two, Token.occursIn_append, Token.occursIn_rule, Token.occursIn_fact,
    one, Token.occursIn_fact] at occurs
  rcases occurs with (⟨⟨⟩⟩ | ⟨⟨⟩⟩) | ⟨⟨⟩⟩
  rfl

theorem Rule.rated_constructed (object : Nat) :
    Item.Constructed (.rule (.rated object)) := by
  have sign := Expression.sign_constructed "sign" object
  have range : Item.Constructed
      (.expression (.onFact "level" (.numeric (.between 1 5)))) :=
    .onFact "level" rfl
  have heavy : checkWeight 0.6 = .ok () := rfl
  have light : checkWeight 0.4 = .ok () := rfl
  have high : (80 : Float).isFinite = true := rfl
  have low : (10 : Float).isFinite = true := rfl
  have balanced : ¬ weightTolerance < (-0.0 + 0.6 + 0.4 - 1 : Float).abs := by
    decide
  refine Item.constructed_score_iff.mpr ⟨?_, ScoreRule.make_eq_ok_iff.mpr
    ⟨List.cons_ne_nil _ _, ?_, balanced, _, rfl, rfl⟩⟩
  · rw [List.forall_mem_cons, List.forall_mem_singleton,
      Item.constructed_scoreSet_iff, Item.constructed_scoreSet_iff]
    exact ⟨⟨List.forall_mem_singleton.mpr sign,
        List.forall_mem_singleton.mpr high, heavy⟩,
      List.forall_mem_singleton.mpr range,
      List.forall_mem_singleton.mpr low, light⟩
  · rw [List.forall_mem_cons, List.forall_mem_singleton]
    exact ⟨heavy, light⟩

end Sample

/-- Every rule that can be obtained is well formed, and so is every rule that is
embedded in it, however deep. -/
theorem Rule.wellFormed_of_obtainable {rule : Rule}
    (obtainable : Item.Obtainable (.rule rule)) :
    rule.WellFormed ∧
      ∀ label object kind embedded,
        (Token.rule label object kind embedded).OccursIn rule.tokens →
          embedded.WellFormed := by
  have constructed := obtainable.constructed
  exact ⟨constructed.wellFormed, fun _ _ _ _ occurs =>
    (constructed.embedded occurs).wellFormed⟩

/-- The rating is well formed, and so is the rule that it embeds. -/
theorem Rule.wellFormed_of_obtainable_rated :
    (rated 0).WellFormed ∧ positive.WellFormed := by
  have law := wellFormed_of_obtainable
    (Item.Obtainable.of_constructed (rated_constructed 0))
  exact ⟨law.1, law.2 _ _ _ _ (.among (List.mem_cons_self ..))⟩

end Rulebook
