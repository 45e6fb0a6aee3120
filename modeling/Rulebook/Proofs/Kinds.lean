import Rulebook.Proofs.Substitution

/-!
# Kinds are sound

The kind of a token is fixed when the token is made.  What it resolves to has
that kind: a fact of another kind is a defect, and a rule that may be embedded has
one kind of output.  Only a rule without a match is missing, for the structures
that resolve to nothing have no kind and keep a rule from being embedded.

An operator is therefore never applied to a value of a kind that it does not
compare.  `Item.Applies` follows an evaluation down to each operator that it
applies and tells what to.  On the way the cache is correct, so that an output
that is reused has its kind too.
-/

namespace Rulebook

/-! ## Kinds of values -/

theorem Value.kind_of_resolved? {value : Value} {resolved : Resolved}
    (present : value.resolved? = some resolved) :
    value.kind = some resolved.kind := by
  cases value <;> cases present <;> rfl

/-- A fact that is present has the kind that is asked for. -/
theorem Facts.resolve_kind {facts : Facts} {name : String} {kind : ValueKind}
    {value : Resolved} (present : facts.resolve name kind = .ok (some value)) :
    value.kind = kind := by
  unfold resolve at present
  split at present
  · cases present
  · next found _ =>
      split at present
      · cases present
      · next foundKind known =>
          split at present
          · next same =>
              have own := Value.kind_of_resolved? (Except.ok.inj present)
              rw [known, same, Option.some.injEq] at own
              exact own.symm
          · cases present

namespace Outcome

variable {outcome : Outcome} {kind : ValueKind}

theorem kind_of_resolved? {value : Resolved}
    (known : outcome = .noMatch ∨ outcome.value.kind = some kind)
    (present : outcome.resolved? = some value) : value.kind = kind := by
  rcases known with rfl | known
  · cases present
  · rw [← outcome.resolved?_value] at present
    rw [Value.kind_of_resolved? present, Option.some.injEq] at known
    exact known

/-- Only no match is missing. -/
theorem resolved?_eq_none_iff
    (known : outcome = .noMatch ∨ outcome.value.kind = some kind) :
    outcome.resolved? = none ↔ outcome = .noMatch := by
  rcases known with rfl | known
  · simp [resolved?]
  · cases outcome with
    | decision concluded =>
        cases concluded <;> cases known <;> simp [resolved?, Decision.resolved?]
    | noMatch => cases known
    | score total => simp [resolved?]

end Outcome

/-! ## Kinds of outcomes -/

/-- The row that a walk finds is one of the rows. -/
theorem DecisionRow.mem_of_walkAll {facts : Facts} {rows : List DecisionRow}
    {place : Nat} {cache : Cache} {found : Nat × DecisionRow}
    (ended : (DecisionRow.walkAll facts place rows cache).result =
      .ok (some found)) : found.2 ∈ rows := by
  induction rows generalizing place cache with
  | nil =>
      rw [walkAll] at ended
      cases ended
  | cons row rows ih =>
      obtain ⟨antecedent, consequent⟩ := row
      rw [walkAll, Walk.bind_result_eq_ok_iff] at ended
      obtain ⟨applies, _, rest⟩ := ended
      cases applies with
      | true =>
          cases rest
          exact List.mem_cons_self
      | false => exact List.mem_cons_of_mem _ (ih rest)

/-- A run of a rule ends without a match or in an outcome of the kind of the
rule's output. -/
theorem Rule.walk_kind {rule : Rule} {kind : ValueKind} {facts : Facts}
    {cache : Cache} {outcome : Outcome} (output : rule.outputKind = some kind)
    (ended : (rule.walk facts cache).result = .ok outcome) :
    outcome = .noMatch ∨ outcome.value.kind = some kind := by
  cases rule with
  | score rule =>
      cases output
      rw [walk, Walk.bind_result_eq_ok_iff] at ended
      obtain ⟨total, _, rest⟩ := ended
      cases rest
      exact .inr rfl
  | decision rule =>
      obtain ⟨⟨rows⟩, profile⟩ := rule
      rw [walk, DecisionRule.walk, DecisionSet.walk, bind_assoc,
        Walk.bind_result_eq_ok_iff] at ended
      obtain ⟨matched, searched, rest⟩ := ended
      cases rest
      cases matched with
      | none => exact .inl rfl
      | some found =>
          have known := DecisionSet.kind_of_outputKind output found.2
            (DecisionRow.mem_of_walkAll searched)
          exact .inr (found.2.consequent.kind_value.trans known)

/-- A score rule comes to a score. -/
theorem Rule.execute_score {rule : ScoreRule} {facts : Facts}
    {outcome : Outcome}
    (ended : (Rule.score rule).execute facts = .ok outcome) :
    ∃ total, outcome = .score total := by
  rw [execute, Walk.result, Walk.start, walk,
    Walk.bind_result_eq_ok_iff] at ended
  obtain ⟨total, _, rest⟩ := ended
  cases rest
  exact ⟨total, rfl⟩

/-! ## Kinds of tokens -/

namespace Token

variable {token : Token} {facts : Facts}

/-- What the kind of a token says about its resolution. -/
structure ResolvesByKind (facts : Facts) (token : Token) : Prop where
  /-- A value that is present has the kind of the token. -/
  present : ∀ value, token.resolve facts = .ok (some value) →
    value.kind = token.kind
  /-- A score is never missing. -/
  score : ∀ label object kind rule,
    token = .rule label object kind (.score rule) →
      token.resolve facts ≠ .ok none
  /-- A decision is missing exactly if there is no match. -/
  decision : ∀ label object kind rule,
    token = .rule label object kind (.decision rule) →
      (token.resolve facts = .ok none ↔
        (Rule.decision rule).execute facts = .ok .noMatch)
  /-- What is concluded is no structure, and the token resolves to it. -/
  concluded : ∀ label object kind rule decision,
    token = .rule label object kind rule →
      rule.execute facts = .ok (.decision decision) →
        ∃ value, decision.resolved? = some value ∧
          token.resolve facts = .ok (some value)

theorem resolve_rule_eq_ok_iff {label : String} {object : Nat}
    {kind : ValueKind} {rule : Rule} {output : Option Resolved} :
    (Token.rule label object kind rule).resolve facts = .ok output ↔
      ∃ outcome, rule.execute facts = .ok outcome ∧
        outcome.resolved? = output := by
  rw [resolve_rule]
  cases rule.execute facts <;> simp [Functor.map, Except.map]

theorem resolve_fact (name : String) (kind : ValueKind) (facts : Facts) :
    (Token.fact name kind).resolve facts = facts.resolve name kind := by
  rw [resolve, Walk.result, Walk.start, walk, Walk.ofExcept_apply]

theorem resolvesByKind (constructed : Item.Constructed (.token token))
    (facts : Facts) : token.ResolvesByKind facts := by
  cases token with
  | fact name kind =>
      refine ⟨fun value present => ?_, nofun, nofun, nofun⟩
      rw [resolve_fact] at present
      exact Facts.resolve_kind present
  | rule label object kind rule =>
      obtain ⟨_, output, _⟩ := Item.constructed_rule_iff.mp constructed
      refine ⟨?_, ?_, ?_, ?_⟩
      · intro value present
        obtain ⟨outcome, ended, same⟩ := resolve_rule_eq_ok_iff.mp present
        exact Outcome.kind_of_resolved? (Rule.walk_kind output ended) same
      · rintro _ _ _ score ⟨⟩ missing
        obtain ⟨outcome, ended, same⟩ := resolve_rule_eq_ok_iff.mp missing
        obtain ⟨total, rfl⟩ := Rule.execute_score ended
        cases same
      · rintro _ _ _ decision ⟨⟩
        rw [resolve_rule_eq_ok_iff]
        constructor
        · rintro ⟨outcome, ended, same⟩
          rw [Outcome.resolved?_eq_none_iff (Rule.walk_kind output ended)]
            at same
          rw [ended, same]
        · intro ended
          exact ⟨.noMatch, ended, rfl⟩
      · rintro _ _ _ _ decision ⟨⟩ ended
        have present : (Outcome.decision decision).resolved? ≠ none := by
          rw [ne_eq,
            Outcome.resolved?_eq_none_iff (Rule.walk_kind output ended)]
          exact fun absurd => nomatch absurd
        obtain ⟨value, same⟩ := Option.ne_none_iff_exists'.mp present
        exact ⟨value, same, resolve_rule_eq_ok_iff.mpr ⟨_, ended, same⟩⟩

/-- What a token means has the kind of the token. -/
theorem meaning_kind (constructed : Item.Constructed (.token token))
    {value : Resolved} (present : token.meaning facts = .ok (some value)) :
    value.kind = token.kind := by
  cases token with
  | fact name kind => exact Facts.resolve_kind present
  | rule label object kind rule =>
      obtain ⟨_, output, _⟩ := Item.constructed_rule_iff.mp constructed
      rw [meaning, bind_eq_ok_iff] at present
      obtain ⟨outcome, ended, rest⟩ := present
      exact Outcome.kind_of_resolved? (Rule.outcome_kind output ended)
        (Except.ok.inj rest)

end Token

/-! ## Kinds of what operators are applied to -/

/-- Evaluating an item from a cache applies an operator to a value.  The cases
follow the evaluation: a condition or a row is reached when those before it did
not settle the matter, and a rule inside a token when its output is not cached. -/
inductive Item.Applies (facts : Facts) (operator : Operator)
    (value : Option Resolved) : Cache → Item → Prop
  /-- The token of a test resolves to the value. -/
  | test {cache : Cache} {token : Token} :
      (token.walk facts cache).result = .ok value →
        Applies facts operator value cache (.expression ⟨token, operator⟩)
  /-- The token of a test is resolved before the operator of the test is
  applied. -/
  | token {cache : Cache} {token : Token} {other : Operator} :
      Applies facts operator value cache (.token token) →
        Applies facts operator value cache (.expression ⟨token, other⟩)
  | embedded {cache : Cache} {label : String} {object : Nat}
      {kind : ValueKind} {rule : Rule} :
      cache.find? object = none →
        Applies facts operator value cache (.rule rule) →
          Applies facts operator value cache
            (.token (.rule label object kind rule))
  | plain {cache : Cache} {expression : Expression} :
      Applies facts operator value cache (.expression expression) →
        Applies facts operator value cache (.condition (.test expression))
  | nested {cache : Cache} {conditional : Conditional} :
      Applies facts operator value cache (.conditional conditional) →
        Applies facts operator value cache (.condition (.nested conditional))
  | condition {cache : Cache} {junction : Junction} {first : Condition}
      {later : List Condition} :
      Applies facts operator value cache (.condition first) →
        Applies facts operator value cache
          (.conditional ⟨junction, first :: later⟩)
  | laterCondition {cache : Cache} {junction : Junction} {first : Condition}
      {later : List Condition} {truth : Bool} :
      (first.walk facts cache).result = .ok truth →
        truth ≠ junction.decisive →
          Applies facts operator value (first.walk facts cache).cache
            (.conditional ⟨junction, later⟩) →
          Applies facts operator value cache
            (.conditional ⟨junction, first :: later⟩)
  | decisionRow {cache : Cache} {row : DecisionRow} :
      Applies facts operator value cache (.conditional row.antecedent) →
        Applies facts operator value cache (.decisionRow row)
  | scoreRow {cache : Cache} {row : ScoreRow} :
      Applies facts operator value cache (.conditional row.antecedent) →
        Applies facts operator value cache (.scoreRow row)
  | decisionSet {cache : Cache} {first : DecisionRow}
      {later : List DecisionRow} :
      Applies facts operator value cache (.decisionRow first) →
        Applies facts operator value cache (.decisionSet ⟨first :: later⟩)
  | laterDecisionRow {cache : Cache} {first : DecisionRow}
      {later : List DecisionRow} :
      (first.antecedent.walk facts cache).result = .ok false →
        Applies facts operator value (first.antecedent.walk facts cache).cache
          (.decisionSet ⟨later⟩) →
        Applies facts operator value cache (.decisionSet ⟨first :: later⟩)
  | scoreSet {cache : Cache} {first : ScoreRow} {later : List ScoreRow}
      {weight : Float} :
      Applies facts operator value cache (.scoreRow first) →
        Applies facts operator value cache (.scoreSet ⟨first :: later, weight⟩)
  | laterScoreRow {cache : Cache} {first : ScoreRow} {later : List ScoreRow}
      {weight : Float} :
      (first.antecedent.walk facts cache).result = .ok false →
        Applies facts operator value (first.antecedent.walk facts cache).cache
          (.scoreSet ⟨later, weight⟩) →
        Applies facts operator value cache (.scoreSet ⟨first :: later, weight⟩)
  | decision {cache : Cache} {rule : DecisionRule} :
      Applies facts operator value cache (.decisionSet rule.ruleset) →
        Applies facts operator value cache (.rule (.decision rule))
  | score {cache : Cache} {first : ScoreSet} {later : List ScoreSet}
      {profile : Profile} :
      Applies facts operator value cache (.scoreSet first) →
        Applies facts operator value cache
          (.rule (.score ⟨first :: later, profile⟩))
  | laterScoreSet {cache : Cache} {first : ScoreSet} {later : List ScoreSet}
      {profile : Profile} {matched : Option (Nat × ScoreRow)} :
      (first.walk facts cache).result = .ok matched →
        Applies facts operator value (first.walk facts cache).cache
          (.rule (.score ⟨later, profile⟩)) →
        Applies facts operator value cache
          (.rule (.score ⟨first :: later, profile⟩))

namespace Item

variable {objects : Nat → Rule} {facts : Facts}

/-- The tests and the tokens of an item were constructed, and a table holds the
rule objects below them. -/
structure Backed (objects : Nat → Rule) (item : Item) : Prop where
  tests : ∀ leaf ∈ item.leaves, Constructed (.expression leaf)
  tokens : ∀ token ∈ item.tokens, Constructed (.token token)
  held : Token.HeldBy objects item.tokens

theorem Constructed.backed {item : Item} (constructed : item.Constructed)
    (held : Token.HeldBy objects item.tokens) : item.Backed objects :=
  ⟨fun _ => constructed.leaf, fun _ => constructed.token, held⟩

namespace Backed

/-- A part of an item is backed if the item is, unless one of them is a mere
token. -/
theorem part {item part : Item} (backed : item.Backed objects)
    (whole : item.tokens = item.leaves.map (·.token))
    (own : part.tokens = part.leaves.map (·.token))
    (leaves : part.leaves ⊆ item.leaves) : part.Backed objects := by
  have tokens : part.tokens ⊆ item.tokens := by
    rw [whole, own]
    exact List.map_subset _ leaves
  exact ⟨fun leaf member => backed.tests leaf (leaves member),
    fun token member => backed.tokens token (tokens member),
    fun _ _ _ _ occurs => backed.held _ _ _ _ (occurs.mono tokens)⟩

theorem token {token : Token} {operator : Operator}
    (backed : (Item.expression ⟨token, operator⟩).Backed objects) :
    (Item.token token).Backed objects :=
  ⟨nofun, backed.tokens, backed.held⟩

/-- A rule that is embedded in a backed token is backed. -/
theorem embedded {label : String} {object : Nat} {kind : ValueKind}
    {rule : Rule}
    (backed : (Item.token (.rule label object kind rule)).Backed objects) :
    (Item.rule rule).Backed objects := by
  have own : Token.rule label object kind rule ∈
      (Item.token (.rule label object kind rule)).tokens :=
    List.mem_singleton_self _
  have whole := (constructed_rule_iff.mp (backed.tokens _ own)).1
  exact whole.backed fun _ _ _ _ occurs =>
    backed.held _ _ _ _ (.within own occurs)

/-- From a correct cache, a token resolves to its meaning. -/
theorem meaning {token : Token} (backed : (Item.token token).Backed objects)
    {cache : Cache} (correct : cache.Correct objects facts)
    {value : Option Resolved}
    (resolves : (token.walk facts cache).result = .ok value) :
    token.meaning facts = .ok value := by
  have same := (@Walk.Means.call objects facts (.resolve token) backed.held
    cache correct).1
  rw [Call.walk, Walk.map_apply, resolves, Call.meaning] at same
  cases means : token.meaning facts with
  | error defect =>
      rw [means] at same
      cases same
  | ok meant =>
      rw [means] at same
      cases same
      rfl

/-- A walk through a call keeps the cache correct. -/
theorem correct (call : Call) (backed : call.item.Backed objects)
    {cache : Cache} (correct : cache.Correct objects facts) :
    (call.walk facts cache).cache.Correct objects facts :=
  (Walk.Means.call backed.held cache correct).2.1

variable {cache : Cache}

theorem correct_conditional {conditional : Conditional}
    (backed : (Item.conditional conditional).Backed objects)
    (before : cache.Correct objects facts) :
    (conditional.walk facts cache).cache.Correct objects facts := by
  have kept := correct (.combine conditional) backed before
  rwa [Call.walk, Walk.map_apply] at kept

theorem correct_condition {condition : Condition}
    (backed : (Item.condition condition).Backed objects)
    (before : cache.Correct objects facts) :
    (condition.walk facts cache).cache.Correct objects facts := by
  cases condition with
  | test expression =>
      have inner : (Item.expression expression).Backed objects :=
        backed.part rfl rfl (by simp [leaves, Condition.leaves])
      have kept := correct (.test expression) inner before
      rwa [Call.walk, Walk.map_apply, ← Condition.walk] at kept
  | nested conditional =>
      have inner : (Item.conditional conditional).Backed objects :=
        backed.part rfl rfl (by simp [leaves, Condition.leaves])
      rw [Condition.walk]
      exact inner.correct_conditional before

theorem correct_scoreSet {set : ScoreSet}
    (backed : (Item.scoreSet set).Backed objects)
    (before : cache.Correct objects facts) :
    (set.walk facts cache).cache.Correct objects facts := by
  have kept := correct (.contribute set) backed before
  rwa [Call.walk, Walk.map_apply] at kept

end Backed

/-- From a correct cache, a value that an operator is applied to has the kind
that the operator compares. -/
theorem Applies.kind {operator : Operator} {value : Resolved} {cache : Cache}
    {item : Item} (applies : item.Applies facts operator (some value) cache)
    (backed : item.Backed objects) (correct : cache.Correct objects facts) :
    value.kind = operator.kind := by
  induction applies with
  | @test cache token resolves =>
      have made := backed.tests _ (List.mem_singleton_self _)
      obtain ⟨constructed, fits, _⟩ := constructed_expression_iff.mp made
      have means := backed.token.meaning correct resolves
      exact (Token.meaning_kind constructed means).trans fits
  | token _ ih => exact ih backed.token correct
  | embedded _ _ ih => exact ih backed.embedded correct
  | plain _ ih | nested _ ih =>
      refine ih (backed.part rfl rfl ?_) correct
      simp [leaves, Condition.leaves]
  | condition _ ih =>
      refine ih (backed.part rfl rfl ?_) correct
      simp [leaves, Conditional.leaves, Condition.leavesAll]
  | laterCondition _ _ _ ih =>
      refine ih (backed.part rfl rfl ?_)
        ((backed.part rfl rfl ?_).correct_condition correct)
      · simp [leaves, Conditional.leaves, Condition.leavesAll]
      · simp [leaves, Conditional.leaves, Condition.leavesAll]
  | decisionRow _ ih => exact ih (backed.part rfl rfl fun _ => id) correct
  | scoreRow _ ih => exact ih (backed.part rfl rfl fun _ => id) correct
  | decisionSet _ ih =>
      refine ih (backed.part rfl rfl ?_) correct
      simp [leaves, DecisionSet.leaves]
  | laterDecisionRow _ _ ih =>
      refine ih (backed.part rfl rfl ?_)
        ((backed.part rfl rfl ?_).correct_conditional correct)
      · simp [leaves, DecisionSet.leaves]
      · simp [leaves, DecisionSet.leaves]
  | scoreSet _ ih =>
      refine ih (backed.part rfl rfl ?_) correct
      simp [leaves, ScoreSet.leaves]
  | laterScoreRow _ _ ih =>
      refine ih (backed.part rfl rfl ?_)
        ((backed.part rfl rfl ?_).correct_conditional correct)
      · simp [leaves, ScoreSet.leaves]
      · simp [leaves, ScoreSet.leaves]
  | decision _ ih => exact ih (backed.part rfl rfl fun _ => id) correct
  | score _ ih =>
      refine ih (backed.part rfl rfl ?_) correct
      simp [leaves, Rule.leaves]
  | laterScoreSet _ _ ih =>
      refine ih (backed.part rfl rfl ?_)
        ((backed.part rfl rfl ?_).correct_scoreSet correct)
      · simp [leaves, Rule.leaves]
      · simp [leaves, Rule.leaves]

/-- Tokens resolve by their kind, and wherever an evaluation applies an operator
to a value that is present, the operator compares values of that kind. -/
theorem kinds_sound {item : Item} (obtainable : item.Obtainable)
    (facts : Facts) :
    (∀ token, item = .token token → token.ResolvesByKind facts) ∧
      (Token.Coherent item.tokens → ∀ operator value,
        item.Applies facts operator (some value) .empty →
          value.kind = operator.kind) := by
  have constructed := obtainable.constructed
  constructor
  · rintro token rfl
    exact Token.resolvesByKind constructed facts
  · intro coherent operator value applies
    obtain ⟨objects, held⟩ := coherent.exists_table
    exact applies.kind (constructed.backed held) Cache.correct_empty

/-- The rule that asks another one twice applies an operator to the output of the
other one, which is a truth value. -/
theorem kinds_sound_twice :
    let facts : Facts := .ofList [("level", .int 3)]
    (Item.rule (.twice 0 0)).Obtainable ∧
      Token.Coherent (Item.rule (.twice 0 0)).tokens ∧
      (Item.rule (.twice 0 0)).Applies facts (.boolean (.is true))
        (some (.boolean true)) .empty ∧
      (Resolved.boolean true).kind = (Operator.boolean (.is true)).kind := by
  intro facts
  have obtainable : (Item.rule (.twice 0 0)).Obtainable :=
    .of_constructed (Rule.twice_constructed 0 0)
  have coherent : Token.Coherent (Item.rule (.twice 0 0)).tokens :=
    Rule.twice_coherent 0 0
  have applies : (Item.rule (.twice 0 0)).Applies facts (.boolean (.is true))
      (some (.boolean true)) .empty := by
    refine .decision (.decisionSet (.decisionRow ?_))
    refine .condition (.plain (.test ?_))
    with_unfolding_all rfl
  exact ⟨obtainable, coherent, applies,
    (kinds_sound obtainable facts).2 coherent _ _ applies⟩

end Item

end Rulebook
