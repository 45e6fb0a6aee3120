import Rulebook.Proofs.CanonicalDoubles
import Rulebook.Proofs.Kinds
import Rulebook.Proofs.WellFormed

/-!
# Totals of scores

A score rule adds the contributions of its rulesets to zero.  Scores are finite and
weights lie between zero and one, so every contribution is finite, and adding a
finite number makes neither NaN nor a negative zero of a total that is neither.
A total may still overflow to an infinity, and a single contribution may well be
the negative zero.

Nothing depends on what the cache holds, so the totals of embedded rules are of the
same sort, and a test of such a total never fails for want of a comparable number.
-/

namespace Rulebook

/-- A number that a score may come to: it is neither NaN nor the negative zero. -/
structure ProperTotal (number : Float) : Prop where
  notNaN : number.isNaN = false
  notNegativeZero : number ≠ -0.0

theorem ProperTotal.zero : ProperTotal 0 :=
  ⟨rfl, by decide +kernel⟩

theorem ProperTotal.add {total contribution : Float} (proper : ProperTotal total)
    (finite : contribution.isFinite = true) : ProperTotal (total + contribution) :=
  ⟨add_isNaN proper.notNaN finite, add_ne_negZero proper.notNegativeZero⟩

/-- The row that a walk finds is one of the rows. -/
theorem ScoreRow.mem_of_walkAll {facts : Facts} {weight : Float}
    {rows : List ScoreRow} {place : Nat} {cache : Cache} {found : Nat × ScoreRow}
    (ended : (ScoreRow.walkAll facts weight place rows cache).result =
      .ok (some found)) : found.2 ∈ rows := by
  induction rows generalizing place cache with
  | nil =>
      rw [walkAll] at ended
      cases ended
  | cons row rows ih =>
      obtain ⟨antecedent, score⟩ := row
      rw [walkAll, Walk.bind_result_eq_ok_iff] at ended
      obtain ⟨applies, _, rest⟩ := ended
      cases applies with
      | true =>
          cases rest
          exact List.mem_cons_self
      | false => exact List.mem_cons_of_mem _ (ih rest)

namespace ScoreSet

/-- A ruleset whose scores and weight are within bounds. -/
def Bounded (set : ScoreSet) : Prop :=
  (∀ row ∈ set.rows, row.score.isFinite = true) ∧ 0 ≤ set.weight ∧ set.weight ≤ 1

theorem contribution_isFinite {set : ScoreSet} (bounded : set.Bounded)
    {facts : Facts} {cache : Cache} {matched : Option (Nat × ScoreRow)}
    (ended : (set.walk facts cache).result = .ok matched) :
    (set.contribution matched).isFinite = true := by
  obtain ⟨scores, low, high⟩ := bounded
  cases matched with
  | none =>
      have zero : (0 : Float).isFinite = true := rfl
      exact zero
  | some found =>
      obtain ⟨rows, weight⟩ := set
      rw [walk] at ended
      exact isFinite_mul (scores _ (ScoreRow.mem_of_walkAll ended)) low high

/-- Adding up the contributions of rulesets keeps a total as it should be. -/
theorem properTotal_of_walkAll {facts : Facts} {sets : List ScoreSet}
    (bounded : ∀ set ∈ sets, set.Bounded) {start total : Float} {cache : Cache}
    (proper : ProperTotal start)
    (ended : (walkAll facts start sets cache).result = .ok total) :
    ProperTotal total := by
  induction sets generalizing start cache with
  | nil =>
      rw [walkAll] at ended
      cases ended
      exact proper
  | cons set sets ih =>
      rw [List.forall_mem_cons] at bounded
      rw [walkAll, Walk.bind_result_eq_ok_iff] at ended
      obtain ⟨matched, searched, rest⟩ := ended
      exact ih bounded.2
        (proper.add (contribution_isFinite bounded.1 searched)) rest

end ScoreSet

namespace ScoreRule

theorem properTotal_of_walk {rule : ScoreRule}
    (bounded : ∀ set ∈ rule.rulesets, set.Bounded) {facts : Facts} {cache : Cache}
    {total : Float} (ended : (rule.walk facts cache).result = .ok total) :
    ProperTotal total := by
  obtain ⟨rulesets, profile⟩ := rule
  rw [walk, Walk.bind_result_eq_ok_iff] at ended
  obtain ⟨sum, added, rest⟩ := ended
  cases rest
  exact ScoreSet.properTotal_of_walkAll bounded .zero added

/-- Every number that comes out of a score rule on given facts is a proper total:
what the rule is executed to, what a run of it from inside another rule comes to,
whatever the cache holds by then, and what a token that embeds it resolves to. -/
structure TotalsProper (rule : ScoreRule) (facts : Facts) : Prop where
  executed : ∀ total, rule.execute facts = .ok total → ProperTotal total
  nested : ∀ cache total, (rule.walk facts cache).result = .ok total → ProperTotal total
  resolved : ∀ label object kind number,
    (Token.rule label object kind (.score rule)).resolve facts =
        .ok (some (.number number)) → ProperTotal number

theorem totalsProper {rule : ScoreRule}
    (bounded : ∀ set ∈ rule.rulesets, set.Bounded) (facts : Facts) :
    rule.TotalsProper facts where
  executed _ ended := properTotal_of_walk bounded ended
  nested _ _ ended := properTotal_of_walk bounded ended
  resolved := by
    intro label object kind number present
    obtain ⟨outcome, ended, same⟩ := Token.resolve_rule_eq_ok_iff.mp present
    rw [Rule.execute, Walk.result, Walk.start, Rule.walk,
      Walk.bind_result_eq_ok_iff] at ended
    obtain ⟨total, added, rest⟩ := ended
    cases rest
    cases same
    exact properTotal_of_walk bounded added

end ScoreRule

/-- A rule is the given score rule or embeds it, at any depth. -/
def Rule.Scores (rule : Rule) (score : ScoreRule) : Prop :=
  rule = .score score ∨
    ∃ label object kind,
      (Token.rule label object kind (.score score)).OccursIn rule.tokens

theorem ScoreSet.bounded_of_constructed {score : ScoreRule}
    (constructed : Item.Constructed (.rule (.score score))) :
    ∀ set ∈ score.rulesets, set.Bounded := by
  obtain ⟨rulesets, profile⟩ := score
  have known := constructed.wellFormed
  exact fun set member => ⟨known.scores set member, known.weights set member⟩

section Sample

/-- A ruleset without weight that takes one point off. -/
def ScoreSet.weightless : ScoreSet :=
  ⟨[⟨⟨.all, []⟩, -1⟩], 0⟩

theorem ScoreSet.weightless_constructed :
    Item.Constructed (.scoreSet .weightless) := by
  refine Item.constructed_scoreSet_iff.mpr ⟨by nofun, ?_, rfl⟩
  exact List.forall_mem_singleton.mpr rfl

/-- A rule that gives the greatest score there is, and a little more. -/
def ScoreRule.overflowing : ScoreRule :=
  ⟨[⟨[⟨⟨.all, []⟩, 1.7976931348623157e308⟩], 1⟩,
    ⟨[⟨⟨.all, []⟩, 1.7976931348623157e308⟩], 5e-10⟩], .initial⟩

theorem ScoreRule.overflowing_constructed :
    Item.Constructed (.rule (.score .overflowing)) := by
  have whole : checkWeight 1 = .ok () := rfl
  have little : checkWeight 5e-10 = .ok () := rfl
  have greatest : (1.7976931348623157e308 : Float).isFinite = true := by
    decide +kernel
  have balanced : ¬ weightTolerance < (-0.0 + 1 + 5e-10 - 1 : Float).abs := by
    decide +kernel
  refine Item.constructed_score_iff.mpr ⟨?_, ScoreRule.make_eq_ok_iff.mpr
    ⟨List.cons_ne_nil _ _, ?_, balanced, _, rfl, rfl⟩⟩
  · rw [List.forall_mem_cons, List.forall_mem_singleton,
      Item.constructed_scoreSet_iff, Item.constructed_scoreSet_iff]
    exact ⟨⟨by nofun, List.forall_mem_singleton.mpr greatest, whole⟩,
      by nofun, List.forall_mem_singleton.mpr greatest, little⟩
  · rw [List.forall_mem_cons, List.forall_mem_singleton]
    exact ⟨whole, little⟩

end Sample

/-- A score is never NaN and never the negative zero, whether a rule is executed to it
or a rule that is embedded in what is executed, although a single ruleset may be
evaluated to the negative zero and a sum may overflow. -/
theorem Rule.scores_proper :
    (∀ rule : Rule, Item.Obtainable (.rule rule) →
      ∀ score, rule.Scores score → ∀ facts, score.TotalsProper facts) ∧
    (∃ set facts, Item.Constructed (.scoreSet set) ∧
      set.evaluate facts = .ok (-0.0)) ∧
    ∃ score facts total, Item.Constructed (.rule (.score score)) ∧
      score.execute facts = .ok total ∧ total.isInf = true := by
  refine ⟨?_, ?_, ?_⟩
  · intro rule obtainable score among facts
    have constructed : Item.Constructed (.rule (.score score)) := by
      rcases among with rfl | ⟨label, object, kind, occurs⟩
      · exact obtainable.constructed
      · exact obtainable.constructed.embedded occurs
    exact ScoreRule.totalsProper (ScoreSet.bounded_of_constructed constructed) facts
  · refine ⟨.weightless, .empty, ScoreSet.weightless_constructed, ?_⟩
    with_unfolding_all rfl
  · refine ⟨.overflowing, .empty,
      0 + 1.7976931348623157e308 * 1 + 1.7976931348623157e308 * 5e-10,
      ScoreRule.overflowing_constructed, ?_, ?_⟩
    · with_unfolding_all rfl
    · decide +kernel

/-- A level of seven is rated, and the rating is a proper total. -/
theorem Rule.scores_proper_rated :
    let facts : Facts := .ofList [("level", .int 7)]
    ∃ score, rated 0 = .score score ∧
      score.execute facts = .ok (0 + 80 * 0.6 + 0) ∧
      ProperTotal (0 + 80 * 0.6 + 0) := by
  intro facts
  have executed : ∀ score, rated 0 = .score score →
      score.execute facts = .ok (0 + 80 * 0.6 + 0) := by
    rintro score ⟨⟩
    with_unfolding_all rfl
  have proper := scores_proper.1 (rated 0) (.of_constructed (rated_constructed 0)) _
    (.inl rfl) facts
  exact ⟨_, rfl, executed _ rfl, proper.executed _ (executed _ rfl)⟩

end Rulebook
