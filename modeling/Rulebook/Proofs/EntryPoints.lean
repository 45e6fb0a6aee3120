import Rulebook.Proofs.Deciding
import Rulebook.Proofs.Eager
import Rulebook.Proofs.FirstContact
import Rulebook.Proofs.Kinds

/-!
# Entry points agree

A rule can be executed as a whole, and each of its parts can be evaluated on its own.
The former carries one cache through all parts, the latter starts from an empty one
every time.  The answers agree nevertheless: a score is the sum of what the rulesets
come to on their own, a decision is that of the first row that applies on its own,
and a rule token resolves to the outcome of its rule.
-/

namespace Rulebook

/-- Executing a score rule agrees with evaluating its rulesets one by one. -/
structure ScoreRule.AgreesWithParts (facts : Facts) (rule : ScoreRule) :
    Prop where
  /-- The score is the sum of the contributions, from the first to the last. -/
  total : rule.execute facts =
    List.foldl (· + ·) 0 <$> rule.rulesets.mapM (·.evaluate facts)
  /-- The first ruleset that fails makes the rule fail. -/
  failure : ∀ before set later defect,
    rule.rulesets = before ++ set :: later →
      (∀ earlier ∈ before, ∃ contribution,
        earlier.evaluate facts = .ok contribution) →
        set.evaluate facts = .error defect →
          rule.execute facts = .error defect
  outcome : (Rule.score rule).execute facts = .score <$> rule.execute facts

/-- Executing a decision rule agrees with evaluating its ruleset, and with asking
its rows one by one whether they apply. -/
structure DecisionRule.AgreesWithParts (facts : Facts) (rule : DecisionRule) :
    Prop where
  decision : rule.execute facts = rule.ruleset.evaluate facts
  /-- The first row that applies concludes the decision. -/
  matched : ∀ before row later,
    rule.ruleset.rows = before ++ row :: later →
      (∀ earlier ∈ before, earlier.applies facts = .ok false) →
        row.applies facts = .ok true →
          rule.ruleset.evaluate facts = .ok (some row.consequent)
  /-- A row that fails before any row applies makes the ruleset fail. -/
  failure : ∀ before row later defect,
    rule.ruleset.rows = before ++ row :: later →
      (∀ earlier ∈ before, earlier.applies facts = .ok false) →
        row.applies facts = .error defect →
          rule.ruleset.evaluate facts = .error defect
  unmatched : (∀ row ∈ rule.ruleset.rows, row.applies facts = .ok false) →
    rule.ruleset.evaluate facts = .ok none
  outcome : (Rule.decision rule).execute facts =
    Outcome.ofDecision? <$> rule.execute facts

/-- A token resolves to the outcome of a rule. -/
structure Token.StandsFor (facts : Facts) (token : Token) (rule : Rule) :
    Prop where
  score : ∀ total, rule.execute facts = .ok (.score total) →
    token.resolve facts = .ok (some (.number total))
  /-- What is concluded is no structure. -/
  decision : ∀ decision, rule.execute facts = .ok (.decision decision) →
    ∃ value, decision.resolved? = some value ∧
      token.resolve facts = .ok (some value)
  noMatch : rule.execute facts = .ok .noMatch → token.resolve facts = .ok none
  failure : ∀ defect, rule.execute facts = .error defect →
    token.resolve facts = .error defect

section Outcomes

variable {facts : Facts}

theorem ScoreRule.outcome_execute (rule : ScoreRule) :
    (Rule.score rule).execute facts = .score <$> rule.execute facts := by
  rw [Rule.execute, Rule.walk, ← map_eq_pure_bind, Walk.result_map]
  rfl

theorem DecisionRule.outcome_execute (rule : DecisionRule) :
    (Rule.decision rule).execute facts =
      Outcome.ofDecision? <$> rule.execute facts := by
  rw [Rule.execute, Rule.walk, ← map_eq_pure_bind, Walk.result_map]
  rfl

end Outcomes

section Scores

variable {facts : Facts}

theorem ScoreSet.meaningAll_eq_mapM (total : Float) (sets : List ScoreSet) :
    meaningAll facts total sets =
      List.foldl (· + ·) total <$> sets.mapM (meaning facts) := by
  induction sets generalizing total with
  | nil =>
      rw [meaningAll, List.mapM_nil]
      rfl
  | cons set sets ih =>
      obtain ⟨rows, weight⟩ := set
      rw [meaningAll, List.mapM_cons, map_bind]
      refine bind_congr fun contribution => ?_
      rw [ih, map_bind, map_eq_pure_bind]
      rfl

/-- Rulesets that come to their meanings on their own do so one after the
other. -/
theorem ScoreSet.mapM_evaluate {sets : List ScoreSet}
    (each : ∀ set ∈ sets, set.evaluate facts = set.meaning facts) :
    sets.mapM (·.evaluate facts) = sets.mapM (meaning facts) := by
  induction sets with
  | nil => rfl
  | cons set sets ih =>
      rw [List.forall_mem_cons] at each
      rw [List.mapM_cons, List.mapM_cons, each.1, ih each.2]

theorem ScoreRule.execute_eq_meaningAll {rule : ScoreRule}
    (coherent : Token.Coherent (Rule.score rule).tokens) :
    rule.execute facts = ScoreSet.meaningAll facts 0 rule.rulesets := by
  have whole := Rule.execute_eq_meaning coherent facts
  obtain ⟨rulesets, profile⟩ := rule
  rw [outcome_execute, Rule.meaning, ← map_eq_pure_bind] at whole
  exact eq_of_injective_map_eq (fun _ _ => Outcome.score.inj) whole

theorem ScoreRule.agreesWithParts {rule : ScoreRule}
    (coherent : Token.Coherent (Rule.score rule).tokens) :
    rule.AgreesWithParts facts := by
  have each (set : ScoreSet) (member : set ∈ rule.rulesets) :
      set.evaluate facts = set.meaning facts :=
    ScoreSet.evaluate_eq_meaning
      (coherent.mono (tokens_subset_flatMap ScoreSet.leaves member))
  have total : rule.execute facts =
      List.foldl (· + ·) 0 <$> rule.rulesets.mapM (·.evaluate facts) := by
    rw [execute_eq_meaningAll coherent, ScoreSet.mapM_evaluate each,
      ScoreSet.meaningAll_eq_mapM]
  refine ⟨total, ?_, rule.outcome_execute⟩
  intro before set later defect split passed failed
  obtain ⟨contributions, earlier⟩ := exists_mapM_ok passed
  rw [total, split, List.mapM_append, earlier, List.mapM_cons, failed]
  rfl

end Scores

section Decisions

variable {facts : Facts}

theorem Outcome.ofDecision?_injective : Function.Injective ofDecision? := by
  intro first second same
  cases first <;> cases second <;> cases same <;> rfl

theorem DecisionRule.execute_eq_meaning {rule : DecisionRule}
    (coherent : Token.Coherent (Rule.decision rule).tokens) :
    rule.execute facts = rule.ruleset.meaning facts := by
  have whole := Rule.execute_eq_meaning coherent facts
  obtain ⟨⟨rows⟩, profile⟩ := rule
  rw [outcome_execute, Rule.meaning, ← map_eq_pure_bind] at whole
  exact eq_of_injective_map_eq Outcome.ofDecision?_injective whole

theorem DecisionRule.agreesWithParts {rule : DecisionRule}
    (coherent : Token.Coherent (Rule.decision rule).tokens) :
    rule.AgreesWithParts facts := by
  have evaluated : rule.ruleset.evaluate facts = rule.ruleset.meaning facts :=
    DecisionSet.evaluate_eq_meaning coherent
  have decides {before later : List DecisionRow} {row : DecisionRow}
      (split : rule.ruleset.rows = before ++ row :: later)
      (first : FirstToSettle true (·.applies facts) before row) :
      rule.ruleset.evaluate facts =
        (fun _ => some row.consequent) <$> row.applies facts := by
    obtain ⟨⟨rows⟩, profile⟩ := rule
    change rows = _ at split
    subst split
    exact DecisionSet.evaluate_of_settles coherent first
  constructor
  · rw [evaluated, execute_eq_meaning coherent]
  · intro before row later split passed applies
    rw [decides split ⟨passed, .inl applies⟩, applies]
    rfl
  · intro before row later defect split passed failed
    rw [decides split ⟨passed, .inr ⟨defect, failed⟩⟩, failed]
    rfl
  · intro passed
    rw [evaluated, DecisionSet.meaning, ← List.append_nil rule.ruleset.rows,
      DecisionRow.meaningAll_append, DecisionRow.meaningAll]
    · rfl
    · intro row member
      rw [← passed row member]
      exact (row.antecedent.evaluate_eq_meaning (coherent.mono
        (tokens_subset_flatMap (·.antecedent.leaves) member))).symm
  · exact rule.outcome_execute

end Decisions

theorem Token.standsFor {label : String} {object : Nat} {kind : ValueKind}
    {rule : Rule} {facts : Facts}
    (constructed :
      Item.Constructed (.token (.rule label object kind rule))) :
    (Token.rule label object kind rule).StandsFor facts rule := by
  have resolves : (Token.rule label object kind rule).resolve facts =
      Outcome.resolved? <$> rule.execute facts :=
    resolve_rule label object kind rule
  constructor
  · intro total ended
    rw [resolves, ended]
    rfl
  · intro decision ended
    exact (resolvesByKind constructed facts).concluded _ _ _ _ decision rfl ended
  · intro ended
    rw [resolves, ended]
    rfl
  · intro defect failed
    rw [resolves, failed]
    rfl

section Sample

/-- A rule that concludes in two rows what the sign of a level is, by one rule
object of the given number. -/
def DecisionRule.bySign (object : Nat) : DecisionRule :=
  ⟨⟨[⟨⟨.all,
      [.test ⟨.rule "sign" object .boolean .positive, .boolean (.is false)⟩]⟩,
      .text "low"⟩,
    ⟨⟨.all,
      [.test ⟨.rule "sign" object .boolean .positive, .boolean (.is true)⟩]⟩,
      .text "high"⟩]⟩, ⟨.ofList [("level", .numeric)], 2⟩⟩

/-- A rule that asks for the sign of a level in two rulesets. -/
def ScoreRule.bySign (object : Nat) : ScoreRule :=
  ⟨[⟨[⟨⟨.all,
      [.test ⟨.rule "sign" object .boolean .positive, .boolean (.is true)⟩]⟩,
      80⟩], 0.6⟩,
    ⟨[⟨⟨.any,
      [.test ⟨.rule "sign" object .boolean .positive, .boolean (.is true)⟩]⟩,
      10⟩], 0.4⟩], ⟨.ofList [("level", .numeric)], 2⟩⟩

theorem Rule.bySign_coherent (object : Nat) :
    Token.Coherent [.rule "sign" object .boolean .positive,
      .rule "sign" object .boolean .positive] :=
  @gate_coherent object _ (by simp)

end Sample

namespace Rule

/-- The entry points agree.  Executing a rule gives what its parts come to when
they are evaluated one by one, each from an empty cache, and a token that embeds a
rule resolves to the outcome of the rule. -/
theorem entry_points_agree (facts : Facts) :
    (∀ rule : ScoreRule, Token.Coherent (Rule.score rule).tokens →
      rule.AgreesWithParts facts) ∧
    (∀ rule : DecisionRule, Token.Coherent (Rule.decision rule).tokens →
      rule.AgreesWithParts facts) ∧
    ∀ label object kind rule,
      Item.Obtainable (.token (.rule label object kind rule)) →
        (Token.rule label object kind rule).StandsFor facts rule :=
  ⟨fun _ => ScoreRule.agreesWithParts, fun _ => DecisionRule.agreesWithParts,
    fun _ _ _ _ obtainable => Token.standsFor obtainable.constructed⟩

/-- In both rules the sign is found out once and then reused, and each of their parts
finds it out anew. -/
theorem entry_points_agree_bySign :
    let facts : Facts := .ofList [("level", .int 3)]
    (ScoreRule.bySign 0).rulesets.mapM (·.evaluate facts) =
        .ok [80 * 0.6, 10 * 0.4] ∧
      (ScoreRule.bySign 0).execute facts = .ok (0 + 80 * 0.6 + 10 * 0.4) ∧
      (DecisionRule.bySign 0).ruleset.rows.map (·.applies facts) =
        [.ok false, .ok true] ∧
      (DecisionRule.bySign 0).execute facts = .ok (some (.text "high")) ∧
      (Token.rule "sign" 0 .boolean positive).resolve facts =
        .ok (some (.boolean true)) := by
  intro facts
  have law := entry_points_agree facts
  have score := law.1 (ScoreRule.bySign 0) (bySign_coherent 0)
  have decision := law.2.1 (DecisionRule.bySign 0) (bySign_coherent 0)
  have token := law.2.2 _ _ _ _ (.of_constructed
    ((Expression.sign_constructed "sign" 0).token (List.mem_singleton_self _)))
  have contributions : (ScoreRule.bySign 0).rulesets.mapM (·.evaluate facts) =
      .ok [80 * 0.6, 10 * 0.4] := by
    with_unfolding_all rfl
  obtain ⟨value, same, resolves⟩ := token.decision (.boolean true)
    (by with_unfolding_all rfl)
  cases same
  refine ⟨contributions, ?_, by with_unfolding_all rfl, ?_, resolves⟩
  · rw [score.total, contributions]
    rfl
  · rw [decision.decision]
    refine decision.matched [_] _ [] rfl ?_ (by with_unfolding_all rfl)
    exact List.forall_mem_singleton.mpr (by with_unfolding_all rfl)

end Rule

end Rulebook
