import Rulebook.Proofs.Occurrence

/-!
# What the constructors accept

Each constructor that checks its parts either fails or puts them together as
they are.  The laws here say when it accepts them and what it then makes.
-/

namespace Rulebook

/-- A computation that may fail comes to a result step by step. -/
theorem bind_eq_ok_iff {ε α β : Type} {computation : Except ε α}
    {next : α → Except ε β} {result : β} :
    computation >>= next = .ok result ↔
      ∃ value, computation = .ok value ∧ next value = .ok result := by
  cases computation <;> simp [bind, Except.bind]

theorem pure_eq_ok_iff {ε α : Type} {value result : α} :
    (pure value : Except ε α) = .ok result ↔ result = value := by
  simp [pure, Except.pure, eq_comm]

theorem throw_ne_ok {ε α : Type} {defect : ε} {result : α} :
    (throw defect : Except ε α) ≠ .ok result := by
  simp [throw, throwThe, MonadExceptOf.throw]

theorem Token.embed_eq_ok_iff {label : String} {object : RuleObject}
    {token : Token} :
    Token.embed label object = .ok token ↔
      ∃ kind, object.rule.outputKind = some kind ∧
        object.rule.chainDepth < maxChainDepth ∧
        token = .rule label object.number kind object.rule := by
  unfold Token.embed
  cases object.rule.outputKind with
  | none => simp
  | some kind =>
      by_cases deep : maxChainDepth < object.rule.chainDepth + 1
      · simp only [deep, if_true]
        constructor
        · simp
        · rintro ⟨_, _, shallow, _⟩
          omega
      · simp only [deep, if_false, Except.ok.injEq, Option.some.injEq]
        constructor
        · rintro rfl
          exact ⟨kind, rfl, by omega, rfl⟩
        · rintro ⟨_, rfl, _, rfl⟩
          rfl

theorem Expression.make_eq_ok_iff {token : Token} {operator : Operator}
    {expression : Expression} :
    Expression.make token operator = .ok expression ↔
      operator.validate = .ok () ∧ token.kind = operator.kind ∧
        expression = ⟨token, operator⟩ := by
  unfold Expression.make
  rw [bind_eq_ok_iff]
  by_cases fits : token.kind = operator.kind
  · simp only [fits, if_true, pure_eq_ok_iff, true_and]
    constructor
    · rintro ⟨_, valid, same⟩
      exact ⟨valid, same⟩
    · rintro ⟨valid, same⟩
      exact ⟨(), valid, same⟩
  · simp [fits, throw_ne_ok]

theorem ScoreRow.make_eq_ok_iff {antecedent : Conditional} {score : Float}
    {row : ScoreRow} :
    ScoreRow.make antecedent score = .ok row ↔
      score.isFinite = true ∧ row = ⟨antecedent, score⟩ := by
  unfold ScoreRow.make
  by_cases finite : score.isFinite
  · simp [finite, eq_comm]
  · simp [finite]

namespace ScoreSet

theorem make_eq_ok_iff {rows : List ScoreRow} {weight : Float}
    {set : ScoreSet} :
    make rows weight = .ok set ↔
      checkWeight weight = .ok () ∧ set = ⟨rows, weight⟩ := by
  unfold make
  simp only [bind_eq_ok_iff, pure_eq_ok_iff]
  constructor
  · rintro ⟨_, inRange, same⟩
    exact ⟨inRange, same⟩
  · rintro ⟨inRange, same⟩
    exact ⟨(), inRange, same⟩

theorem mapM_make_eq_ok {pairs : List (Conditional × Float)}
    {rows : List ScoreRow}
    (accepted : pairs.mapM (fun pair => ScoreRow.make pair.1 pair.2) =
      .ok rows) :
    rows = pairs.map fun pair => ⟨pair.1, pair.2⟩ := by
  induction pairs generalizing rows with
  | nil =>
      cases accepted
      rfl
  | cons pair pairs ih =>
      simp only [List.mapM_cons, bind_eq_ok_iff, pure_eq_ok_iff] at accepted
      obtain ⟨row, made, others, rest, rfl⟩ := accepted
      rw [List.map_cons, ← ih rest, (ScoreRow.make_eq_ok_iff.mp made).2]

theorem ofPairs_eq_ok {pairs : List (Conditional × Float)} {weight : Float}
    {set : ScoreSet} (accepted : ofPairs pairs weight = .ok set) :
    set = ⟨pairs.map fun pair => ⟨pair.1, pair.2⟩, weight⟩ := by
  unfold ofPairs at accepted
  obtain ⟨rows, made, whole⟩ := bind_eq_ok_iff.mp accepted
  rw [(make_eq_ok_iff.mp whole).2, mapM_make_eq_ok made]

end ScoreSet

namespace DecisionRule

theorem make_eq_ok_iff {ruleset : DecisionSet} {rule : DecisionRule} :
    make ruleset = .ok rule ↔
      ∃ profile, Profile.ofLeaves ruleset.leaves = .ok profile ∧
        rule = ⟨ruleset, profile⟩ := by
  unfold make
  simp only [bind_eq_ok_iff, pure_eq_ok_iff]

theorem ofSets_eq_ok_iff {rulesets : List DecisionSet} {rule : DecisionRule} :
    ofSets rulesets = .ok rule ↔
      ∃ ruleset, rulesets = [ruleset] ∧ make ruleset = .ok rule := by
  unfold ofSets
  split
  · simp
  · next several =>
      constructor
      · simp
      · rintro ⟨ruleset, single, _⟩
        exact (several ruleset single).elim

end DecisionRule

theorem ScoreRule.make_eq_ok {rulesets : List ScoreSet} {rule : ScoreRule}
    (accepted : make rulesets = .ok rule) :
    ∃ profile,
      Profile.ofLeaves (rulesets.flatMap ScoreSet.leaves) = .ok profile ∧
        rule = ⟨rulesets, profile⟩ := by
  unfold make at accepted
  by_cases none : rulesets.isEmpty
  · simp only [none, if_true, bind_eq_ok_iff] at accepted
    obtain ⟨_, threw, _⟩ := accepted
    exact (throw_ne_ok threw).elim
  · simp only [none, Bool.false_eq_true, if_false] at accepted
    obtain ⟨_, _, accepted⟩ := bind_eq_ok_iff.mp accepted
    by_cases off : weightTolerance < (ScoreSet.weightSum rulesets - 1).abs
    · simp only [off, if_true, bind_eq_ok_iff] at accepted
      obtain ⟨_, threw, _⟩ := accepted
      exact (throw_ne_ok threw).elim
    · simpa only [off, if_false, bind_eq_ok_iff, pure_eq_ok_iff]
        using accepted

end Rulebook
