import Rulebook.Proofs.Parts
import Rulebook.Proofs.Profiles
import Rulebook.Proofs.Relevance
import Rulebook.Proofs.Tokens
import Rulebook.Proofs.Transparency
import Rulebook.Proofs.WellFormed

/-!
# Embedding is substitution

A rule object that some of a rule's own tokens embed can be run beforehand.  If
those tokens ask for a new fact instead, and the fact has the outcome of the run
as its value, then the rule executes as before.  The constructors accept the new
tokens, because the fact has the kind of the rule object's output and a name that
nothing else asks for.
-/

namespace Rulebook

/-- The value of a fact that stands for a decision.  A structure, which no token
resolves to, has none. -/
def Decision.value : Decision → Value
  | .number value => .float value
  | .text value => .text value
  | .boolean value => .boolean value
  | .list _ | .map _ => .null

/-- The value of a fact that stands for the outcome of a rule. -/
def Outcome.value : Outcome → Value
  | .decision concluded => concluded.value
  | .noMatch => .null
  | .score total => .float total

/-- A token, or another one in its place if it embeds the given rule object. -/
def Token.replace (object : Nat) (replacement : Token) : Token → Token
  | .fact name kind => .fact name kind
  | .rule label number kind embedded =>
      if number = object then replacement
      else .rule label number kind embedded

/-- The rule that the constructors make from a rule's own rows with other tokens
in them. -/
def Rule.withTokens (function : Token → Token) : Rule → Except ConfigError Rule
  | .decision rule =>
      Rule.decision <$> DecisionRule.make (rule.ruleset.mapTokens function)
  | .score rule =>
      Rule.score <$>
        ScoreRule.make (rule.rulesets.map (ScoreSet.mapTokens function))

/-- The rule with another token in place of those that embed a rule object. -/
def Rule.substitute (rule : Rule) (object : Nat) (replacement : Token) :
    Except ConfigError Rule :=
  rule.withTokens (Token.replace object replacement)

/-! ## Outcomes as values -/

theorem Decision.kind_value (decision : Decision) :
    decision.value.kind = decision.kind := by
  cases decision <;> rfl

theorem Outcome.resolved?_value (outcome : Outcome) :
    outcome.value.resolved? = outcome.resolved? := by
  cases outcome with
  | decision concluded => cases concluded <;> rfl
  | noMatch => rfl
  | score total => rfl

namespace DecisionSet

theorem kind_of_outputKind {rows : List DecisionRow} {kind : ValueKind}
    (output : outputKind ⟨rows⟩ = some kind) :
    ∀ row ∈ rows, row.consequent.kind = some kind := by
  cases rows with
  | nil => cases output
  | cons first rest =>
      rw [outputKind, kinds, List.map_cons] at output
      cases head : first.consequent.kind with
      | none =>
          rw [head] at output
          cases output
      | some known =>
          simp only [head, Option.ite_none_right_eq_some, List.all_eq_true,
            List.mem_map, decide_eq_true_eq, Option.some.injEq] at output
          obtain ⟨others, rfl⟩ := output
          rw [List.forall_mem_cons]
          exact ⟨head, fun row member => others _ ⟨row, member, rfl⟩⟩

theorem mem_of_meaningAll {facts : Facts} {rows : List DecisionRow}
    {decision : Decision}
    (means : DecisionRow.meaningAll facts rows = .ok (some decision)) :
    ∃ row ∈ rows, row.consequent = decision := by
  induction rows with
  | nil => cases means
  | cons row rows ih =>
      obtain ⟨antecedent, consequent⟩ := row
      rw [DecisionRow.meaningAll, bind_eq_ok_iff] at means
      obtain ⟨applies, _, rest⟩ := means
      cases applies with
      | true =>
          cases rest
          exact ⟨_, List.mem_cons_self .., rfl⟩
      | false =>
          obtain ⟨found, among, same⟩ := ih rest
          exact ⟨found, List.mem_cons_of_mem _ among, same⟩

end DecisionSet

/-- The outcome of a rule has the kind of the rule's output unless there is no
match. -/
theorem Rule.outcome_kind {rule : Rule} {kind : ValueKind} {facts : Facts}
    {outcome : Outcome} (output : rule.outputKind = some kind)
    (means : rule.meaning facts = .ok outcome) :
    outcome = .noMatch ∨ outcome.value.kind = some kind := by
  cases rule with
  | score rule =>
      cases output
      obtain ⟨rulesets, profile⟩ := rule
      rw [meaning, bind_eq_ok_iff] at means
      obtain ⟨total, _, ended⟩ := means
      cases ended
      exact .inr rfl
  | decision rule =>
      obtain ⟨⟨rows⟩, profile⟩ := rule
      rw [meaning, bind_eq_ok_iff] at means
      obtain ⟨decision, concluded, ended⟩ := means
      cases ended
      cases decision with
      | none => exact .inl rfl
      | some decision =>
          obtain ⟨row, among, rfl⟩ := DecisionSet.mem_of_meaningAll concluded
          have known := DecisionSet.kind_of_outputKind output row among
          exact .inr (row.consequent.kind_value.trans known)

namespace Facts

theorem resolve_congr {first second : Facts} {name : String}
    (same : first.get? name = second.get? name) (kind : ValueKind) :
    first.resolve name kind = second.resolve name kind := by
  rw [resolve, resolve, same]

theorem resolve_insert_of_ne {facts : Facts} {name other : String}
    {value : Value} (different : other ≠ name) (kind : ValueKind) :
    resolve (facts.insert name value) other kind = facts.resolve other kind :=
  resolve_congr (by rw [NameMap.get?_insert, if_neg different]) kind

/-- A fact that has the value of an outcome resolves to what the outcome resolves
to. -/
theorem resolve_insert_value {facts : Facts} {name : String} {kind : ValueKind}
    {outcome : Outcome}
    (known : outcome = .noMatch ∨ outcome.value.kind = some kind) :
    resolve (facts.insert name outcome.value) name kind =
      .ok outcome.resolved? := by
  rw [resolve, NameMap.get?_insert, if_pos rfl]
  rcases known with rfl | known
  · rfl
  · simp only [known, if_true, outcome.resolved?_value]

end Facts

/-! ## Rules with other tokens -/

namespace Rule

variable {function : Token → Token}

/-- The decision rule that is made from tests with other tokens. -/
theorem decision_withTokens {ruleset : DecisionSet} {old profile : Profile}
    (tests : ∀ leaf ∈ ruleset.leaves.map (Expression.mapToken function),
      Item.Constructed (.expression leaf))
    (collected : Profile.ofLeaves
      (ruleset.leaves.map (Expression.mapToken function)) = .ok profile) :
    (Rule.decision ⟨ruleset, old⟩).withTokens function =
        .ok (.decision ⟨ruleset.mapTokens function, profile⟩) ∧
      Item.Constructed
        (.rule (.decision ⟨ruleset.mapTokens function, profile⟩)) := by
  rw [← ruleset.leaves_mapTokens] at tests collected
  constructor
  · rw [withTokens, DecisionRule.make, collected]
    rfl
  · exact Item.constructed_decision_iff.mpr ⟨tests, collected⟩

/-- The score rule that is made from tests with other tokens.  Scores and weights
pass their checks as before. -/
theorem score_withTokens {rulesets : List ScoreSet} {old profile : Profile}
    (constructed : Item.Constructed (.rule (.score ⟨rulesets, old⟩)))
    (tests : ∀ leaf ∈
        (rulesets.flatMap ScoreSet.leaves).map (Expression.mapToken function),
      Item.Constructed (.expression leaf))
    (collected : Profile.ofLeaves
      ((rulesets.flatMap ScoreSet.leaves).map (Expression.mapToken function)) =
        .ok profile) :
    (Rule.score ⟨rulesets, old⟩).withTokens function =
        .ok (.score ⟨rulesets.map (ScoreSet.mapTokens function), profile⟩) ∧
      Item.Constructed (.rule
        (.score ⟨rulesets.map (ScoreSet.mapTokens function), profile⟩)) := by
  rw [← ScoreSet.flatMap_leaves_mapTokens] at tests collected
  rw [List.forall_mem_flatMap] at tests
  obtain ⟨sets, accepted⟩ := Item.constructed_score_iff.mp constructed
  obtain ⟨some, inRange, notOff, _⟩ := ScoreRule.make_eq_ok_iff.mp accepted
  have made : ScoreRule.make (rulesets.map (ScoreSet.mapTokens function)) =
      .ok ⟨rulesets.map (ScoreSet.mapTokens function), profile⟩ := by
    refine ScoreRule.make_eq_ok_iff.mpr ⟨?_, ?_, ?_, profile, collected, rfl⟩
    · exact mt List.map_eq_nil_iff.mp some
    · exact List.forall_mem_map.mpr inRange
    · rw [ScoreSet.weightSum_mapTokens]
      exact notOff
  constructor
  · rw [withTokens, made]
    rfl
  · refine Item.constructed_score_iff.mpr ⟨?_, made⟩
    intro other among
    obtain ⟨set, member, rfl⟩ := List.mem_map.mp among
    obtain ⟨_, finite, weight⟩ :=
      Item.constructed_scoreSet_iff.mp (sets set member)
    exact Item.constructed_scoreSet_iff.mpr
      ⟨tests _ among, List.forall_mem_map.mpr finite, weight⟩

/-- The constructors accept other tokens if each of them fits its test and no
fact is asked for with two kinds. -/
theorem withTokens_accepts {rule : Rule}
    (constructed : Item.Constructed (.rule rule))
    (tests : ∀ leaf ∈ rule.leaves,
      Item.Constructed (.expression (leaf.mapToken function)))
    (oneKind : OneKind (rule.leaves.flatMap
      fun leaf => (function leaf.token).requests)) :
    ∃ other, rule.withTokens function = .ok other ∧
      Item.Constructed (.rule other) ∧
      other.leaves = rule.leaves.map (Expression.mapToken function) := by
  have valid : ∀ leaf ∈ rule.leaves, leaf.operator.validate = .ok () :=
    fun leaf member => constructed.valid member
  obtain ⟨profile, collected⟩ : ∃ profile, Profile.ofLeaves
      (rule.leaves.map (Expression.mapToken function)) = .ok profile := by
    rw [Profile.ofLeaves_accepts_iff, List.forall_mem_map, List.flatMap_map]
    exact ⟨valid, oneKind⟩
  rw [← List.forall_mem_map (P := fun leaf =>
    Item.Constructed (.expression leaf))] at tests
  cases rule with
  | decision rule =>
      obtain ⟨ruleset, old⟩ := rule
      obtain ⟨made, whole⟩ := decision_withTokens tests collected
      exact ⟨_, made, whole, ruleset.leaves_mapTokens function⟩
  | score rule =>
      obtain ⟨rulesets, old⟩ := rule
      obtain ⟨made, whole⟩ := score_withTokens constructed tests collected
      exact ⟨_, made, whole,
        ScoreSet.flatMap_leaves_mapTokens function rulesets⟩

/-- The rule that comes out means what the new tokens mean in the place of the
old ones. -/
theorem meaning_withTokens {rule other : Rule} {first second : Facts}
    (made : rule.withTokens function = .ok other)
    (same : MeansSame function first second rule.leaves) :
    other.meaning second = rule.meaning first := by
  cases rule with
  | decision rule =>
      obtain ⟨⟨rows⟩, old⟩ := rule
      rw [withTokens, map_eq_pure_bind, bind_eq_ok_iff] at made
      obtain ⟨whole, accepted, ended⟩ := made
      obtain ⟨profile, _, rfl⟩ := DecisionRule.make_eq_ok_iff.mp accepted
      cases ended
      rw [DecisionSet.mapTokens, meaning, meaning,
        DecisionRow.meaningAll_mapTokens rows same]
  | score rule =>
      obtain ⟨rulesets, old⟩ := rule
      rw [withTokens, map_eq_pure_bind, bind_eq_ok_iff] at made
      obtain ⟨whole, accepted, ended⟩ := made
      obtain ⟨profile, _, rfl⟩ := ScoreRule.make_eq_ok accepted
      cases ended
      rw [meaning, meaning, ScoreSet.meaningAll_mapTokens 0 rulesets same]

end Rule

/-! ## A new fact in the place of a rule object -/

namespace Rule

variable {rule : Rule} {name : String}

/-- What is not required is not asked for by any test. -/
theorem not_requested (constructed : Item.Constructed (.rule rule))
    (free : name ∉ rule.requirements.names) {leaf : Expression}
    (member : leaf ∈ rule.leaves) (kind : ValueKind) :
    (name, kind) ∉ leaf.token.requests := by
  intro asked
  have required := (Profile.ofLeaves_get? constructed.profile).mpr
    ⟨leaf, member, asked⟩
  exact free (NameMap.mem_names_of_get? required)

/-- A rule means the same after a fact is added that it does not require. -/
theorem meaning_insert (constructed : Item.Constructed (.rule rule))
    (coherent : Token.Coherent rule.tokens)
    (free : name ∉ rule.requirements.names) (facts : Facts) (value : Value) :
    rule.meaning (facts.insert name value) = rule.meaning facts := by
  have alike : rule.RunsAlike (facts.insert name value) facts := by
    refine runsAlike_of_lookAlike constructed fun required member => ?_
    have different : required ≠ name := by
      rintro rfl
      exact free member
    rw [NameMap.get?_insert, if_neg different]
    exact .refl _
  rw [← execute_eq_meaning coherent, ← execute_eq_meaning coherent,
    alike.execute]

/-- An embedded rule does not require what the rule around it does not
require. -/
theorem not_required_inside (constructed : Item.Constructed (.rule rule))
    (free : name ∉ rule.requirements.names) {leaf : Expression}
    (member : leaf ∈ rule.leaves) {label : String} {object : Nat}
    {kind : ValueKind} {embedded : Rule}
    (token : leaf.token = .rule label object kind embedded) :
    name ∉ embedded.requirements.names := by
  intro inside
  obtain ⟨entry, among, rfl⟩ := List.mem_map.mp inside
  refine not_requested constructed free member entry.2 ?_
  rw [token, Token.requests]
  exact among

end Rule

namespace Token

variable {object : Nat} {name : String} {kind : ValueKind}

/-- The tokens of an embedded rule are coherent. -/
theorem Coherent.inside {tokens : List Token} (coherent : Coherent tokens)
    {label : String} {rule : Rule}
    (member : Token.rule label object kind rule ∈ tokens) :
    Coherent rule.tokens :=
  fun _ _ _ _ _ _ _ one other =>
    coherent _ _ _ _ _ _ _ (.within member one) (.within member other)

/-- Where a fact has taken the place of a rule object, no other rule objects
occur than before. -/
theorem Coherent.replace {tokens : List Token} (coherent : Coherent tokens) :
    Coherent (tokens.map (Token.replace object (.fact name kind))) := by
  have kept {label : String} {number : Nat} {other : ValueKind} {rule : Rule}
      (member : Token.rule label number other rule ∈
        tokens.map (Token.replace object (.fact name kind))) :
      Token.rule label number other rule ∈ tokens := by
    obtain ⟨token, among, same⟩ := List.mem_map.mp member
    cases token with
    | fact name kind => cases same
    | rule label number other rule =>
        rw [Token.replace] at same
        split at same
        · cases same
        · rw [← same]
          exact among
  have before {label : String} {number : Nat} {other : ValueKind} {rule : Rule}
      (occurs : (Token.rule label number other rule).OccursIn
        (tokens.map (Token.replace object (.fact name kind)))) :
      (Token.rule label number other rule).OccursIn tokens := by
    cases occurs with
    | among member => exact .among (kept member)
    | within member inside => exact .within (kept member) inside
  exact fun _ _ _ _ _ _ _ one other =>
    coherent _ _ _ _ _ _ _ (before one) (before other)

end Token

namespace Rule

section Replacing

variable {rule inner : Rule} {label name : String} {object : Nat}
  {kind : ValueKind}

/-- The fact fits every test whose token it replaces. -/
theorem tests_replace (constructed : Item.Constructed (.rule rule))
    (coherent : Token.Coherent rule.tokens)
    (embeds : Token.rule label object kind inner ∈ rule.tokens)
    (name : String) :
    ∀ leaf ∈ rule.leaves, Item.Constructed (.expression
      (leaf.mapToken (Token.replace object (.fact name kind)))) := by
  rintro ⟨token, operator⟩ member
  have before := constructed.leaf member
  have own : token ∈ rule.tokens := List.mem_map_of_mem member
  cases token with
  | fact other kind => exact before
  | rule other number otherKind embedded =>
      rw [Expression.mapToken, Token.replace]
      split
      · next same =>
          subst same
          -- Both tokens embed the rule object, so they have the same kind.
          have rules : embedded = inner :=
            coherent _ _ _ _ _ _ _ (.among own) (.among embeds)
          have one :=
            (Item.constructed_rule_iff.mp (constructed.token own)).2.1
          have two :=
            (Item.constructed_rule_iff.mp (constructed.token embeds)).2.1
          rw [rules, two, Option.some.injEq] at one
          obtain ⟨_, fits, _⟩ := Item.constructed_expression_iff.mp before
          exact Item.constructed_expression_iff.mpr
            ⟨.fact name kind, one.trans fits, .inl (constructed.valid member)⟩
      · exact before

/-- Nothing else asks for the fact, so it is asked for with one kind. -/
theorem oneKind_replace (constructed : Item.Constructed (.rule rule))
    (free : name ∉ rule.requirements.names) :
    OneKind (rule.leaves.flatMap fun leaf =>
      (Token.replace object (.fact name kind) leaf.token).requests) := by
  have asked := (Profile.ofLeaves_accepts_iff.mp ⟨_, constructed.profile⟩).2
  have fresh (other : ValueKind) :
      (name, other) ∉ rule.leaves.flatMap fun leaf => leaf.token.requests := by
    intro among
    obtain ⟨leaf, member, inside⟩ := List.mem_flatMap.mp among
    exact not_requested constructed free member other inside
  have origin {entry : String × ValueKind}
      (among : entry ∈ rule.leaves.flatMap fun leaf =>
        (Token.replace object (.fact name kind) leaf.token).requests) :
      entry = (name, kind) ∨
        entry ∈ rule.leaves.flatMap fun leaf => leaf.token.requests := by
    obtain ⟨⟨token, operator⟩, member, inside⟩ := List.mem_flatMap.mp among
    cases token with
    | fact other kind =>
        exact .inr (List.mem_flatMap.mpr ⟨_, member, inside⟩)
    | rule other number otherKind embedded =>
        rw [Token.replace] at inside
        split at inside
        · exact .inl (List.mem_singleton.mp inside)
        · exact .inr (List.mem_flatMap.mpr ⟨_, member, inside⟩)
  intro wanted first second one two
  rcases origin one with here | earlier
  · cases here
    rcases origin two with there | earlier
    · cases there
      rfl
    · exact (fresh second earlier).elim
  · rcases origin two with there | late
    · cases there
      exact (fresh first earlier).elim
    · exact asked wanted first second earlier late

/-- The new tokens resolve with the new fact to what the old ones resolve to
without it. -/
theorem meansSame_replace {facts : Facts} {outcome : Outcome}
    (constructed : Item.Constructed (.rule rule))
    (coherent : Token.Coherent rule.tokens)
    (embeds : Token.rule label object kind inner ∈ rule.tokens)
    (ran : inner.execute facts = .ok outcome)
    (known : outcome = .noMatch ∨ outcome.value.kind = some kind)
    (free : name ∉ rule.requirements.names) :
    MeansSame (Token.replace object (.fact name kind)) facts
      (facts.insert name outcome.value) rule.leaves := by
  rintro ⟨token, operator⟩ member
  have own : token ∈ rule.tokens := List.mem_map_of_mem member
  cases token with
  | fact other otherKind =>
      have different : other ≠ name := by
        rintro rfl
        exact not_requested constructed free member otherKind
          (List.mem_singleton_self _)
      exact Facts.resolve_insert_of_ne different otherKind
  | rule other number otherKind embedded =>
      dsimp only
      rw [Token.replace]
      split
      · next same =>
          subst same
          have rules : embedded = inner :=
            coherent _ _ _ _ _ _ _ (.among own) (.among embeds)
          rw [Token.meaning, Token.meaning, rules,
            ← execute_eq_meaning (coherent.inside embeds), ran]
          exact Facts.resolve_insert_value known
      · have inside : name ∉ embedded.requirements.names :=
          not_required_inside constructed free member rfl
        have whole : Item.Constructed (.rule embedded) :=
          constructed.embedded (.among own)
        rw [Token.meaning, Token.meaning,
          meaning_insert whole (coherent.inside own) inside]

end Replacing

/-- A rule object that was run may be replaced by a fact that has the outcome as
its value.  The constructors accept the fact in the place of every own token that
embeds the rule object, provided the rule does not require the name, and the rule
executes as before, also where that is a defect of the facts. -/
theorem execute_substitute {rule inner : Rule} {label name : String}
    {object : Nat} {kind : ValueKind} {facts : Facts} {outcome : Outcome}
    (obtainable : Item.Obtainable (.rule rule))
    (coherent : Token.Coherent rule.tokens)
    (embeds : Token.rule label object kind inner ∈ rule.tokens)
    (ran : inner.execute facts = .ok outcome)
    (free : name ∉ rule.requirements.names) :
    inner.outputKind = some kind ∧
      ∃ other, rule.substitute object (.fact name kind) = .ok other ∧
        Item.Constructed (.rule other) ∧
        other.execute (facts.insert name outcome.value) =
          rule.execute facts := by
  have constructed := obtainable.constructed
  obtain ⟨_, output, _⟩ :=
    Item.constructed_rule_iff.mp (constructed.token embeds)
  have known := outcome_kind output
    ((execute_eq_meaning (coherent.inside embeds) facts).symm.trans ran)
  obtain ⟨other, made, accepted, leaves⟩ :=
    withTokens_accepts constructed
      (tests_replace constructed coherent embeds name)
      (oneKind_replace constructed free)
  have tokens : other.tokens =
      rule.tokens.map (Token.replace object (.fact name kind)) := by
    rw [Rule.tokens, leaves, Rule.tokens, List.map_map, List.map_map]
    rfl
  have coherentOther : Token.Coherent other.tokens := by
    rw [tokens]
    exact coherent.replace
  refine ⟨output, other, made, accepted, ?_⟩
  rw [execute_eq_meaning coherentOther, execute_eq_meaning coherent]
  exact meaning_withTokens made
    (meansSame_replace constructed coherent embeds ran known free)

/-- In a rating, a truth value may stand for the sign of the level. -/
theorem execute_substitute_rated :
    let facts : Facts := .ofList [("level", .int 3)]
    ∃ other, (rated 0).substitute 0 (.fact "sign" .boolean) = .ok other ∧
      Item.Constructed (.rule other) ∧
      other.execute (facts.insert "sign" (.boolean true)) =
        (rated 0).execute facts := by
  intro facts
  have ran : positive.execute facts = .ok (.decision (.boolean true)) := by
    with_unfolding_all rfl
  have embeds : Token.rule "sign" 0 .boolean positive ∈ (rated 0).tokens :=
    List.mem_cons_self ..
  have free : "sign" ∉ (rated 0).requirements.names := by
    decide
  exact (execute_substitute (.of_constructed (rated_constructed 0))
    (rated_coherent 0) embeds ran free).2

end Rule

end Rulebook
