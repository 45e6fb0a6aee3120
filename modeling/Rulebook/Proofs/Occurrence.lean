import Mathlib.Data.Set.Defs
import Mathlib.Tactic.Choose
import Rulebook.Rule.Checked

/-!
# Tokens inside rules

A token occurs in a rule if one of the rule's own tests has it, or if it occurs
in a rule that the token of such a test embeds.  Occurrence therefore speaks of
the expanded tree, while `Rule.tokens` lists what stands in the rule's own rows.

An embedded rule is smaller than the rule around it, so a property that every
rule inherits from the rules embedded in its own tests holds of all rules.
This is `Rule.embedding_induction`, the only induction over embedded rules.

Rule objects are told apart by number.  Tokens are coherent when the number says
which rule is embedded: no two tokens among all that occur have one number and
different rules.
-/

namespace Rulebook

/-- The tests of a rule in the order in which they are written. -/
def Rule.leaves : Rule → List Expression
  | .decision rule => rule.ruleset.leaves
  | .score rule => rule.rulesets.flatMap ScoreSet.leaves

def Rule.tokens (rule : Rule) : List Token :=
  rule.leaves.map (·.token)

/-- The rulesets of scores of a rule, of which a decision rule has none. -/
def Rule.scoreSets : Rule → List ScoreSet
  | .decision _ => []
  | .score rule => rule.rulesets

namespace Token

/-- A token occurs below some tokens if it is one of them, or if it occurs below
the tokens of a rule that one of them embeds. -/
inductive OccursIn (token : Token) : List Token → Prop
  | among {tokens : List Token} (member : token ∈ tokens) :
      token.OccursIn tokens
  | within {tokens : List Token} {label : String} {object : Nat}
      {kind : ValueKind} {rule : Rule}
      (member : Token.rule label object kind rule ∈ tokens)
      (inside : token.OccursIn rule.tokens) :
      token.OccursIn tokens

variable {token : Token} {tokens : List Token}

namespace OccursIn

theorem mono {more : List Token} (occurs : token.OccursIn tokens)
    (subset : tokens ⊆ more) : token.OccursIn more := by
  cases occurs with
  | among member => exact .among (subset member)
  | within member inside => exact .within (subset member) inside

/-- What occurs in an embedded rule occurs around it. -/
theorem inside {label : String} {object : Nat} {kind : ValueKind} {rule : Rule}
    (outer : (Token.rule label object kind rule).OccursIn tokens)
    (inner : token.OccursIn rule.tokens) : token.OccursIn tokens := by
  induction outer with
  | among member => exact .within member inner
  | within member _ ih => exact .within member ih

end OccursIn

theorem not_occursIn_nil : ¬ token.OccursIn [] := by
  rintro (member | ⟨member, _⟩) <;> simp at member

theorem occursIn_append {more : List Token} :
    token.OccursIn (tokens ++ more) ↔
      token.OccursIn tokens ∨ token.OccursIn more := by
  constructor
  · rintro (member | ⟨member, inside⟩)
    · exact (List.mem_append.mp member).imp .among .among
    · exact (List.mem_append.mp member).imp (.within · inside)
        (.within · inside)
  · rintro (first | second)
    · exact first.mono (List.subset_append_left tokens more)
    · exact second.mono (List.subset_append_right tokens more)

theorem occursIn_cons {head : Token} :
    token.OccursIn (head :: tokens) ↔
      token.OccursIn [head] ∨ token.OccursIn tokens :=
  @occursIn_append token [head] tokens

theorem occursIn_fact {name : String} {kind : ValueKind} :
    token.OccursIn [.fact name kind] ↔ token = .fact name kind := by
  constructor
  · rintro (member | ⟨member, _⟩)
    · exact List.mem_singleton.mp member
    · simp at member
  · rintro rfl
    exact .among (List.mem_singleton_self _)

theorem occursIn_rule {label : String} {object : Nat} {kind : ValueKind}
    {rule : Rule} :
    token.OccursIn [.rule label object kind rule] ↔
      token = .rule label object kind rule ∨ token.OccursIn rule.tokens := by
  constructor
  · rintro (member | ⟨member, inside⟩)
    · exact .inl (List.mem_singleton.mp member)
    · simp only [List.mem_singleton, Token.rule.injEq] at member
      rw [member.2.2.2] at inside
      exact .inr inside
  · rintro (rfl | inside)
    · exact .among (List.mem_singleton_self _)
    · exact .within (List.mem_singleton_self _) inside

/-- The numbers of the rule objects that are embedded somewhere below some
tokens. -/
def embeddedObjects (tokens : List Token) : Set Nat :=
  {object | ∃ label kind rule,
    (Token.rule label object kind rule).OccursIn tokens}

end Token

theorem Condition.leavesAll_eq_flatMap (conditions : List Condition) :
    Condition.leavesAll conditions = conditions.flatMap Condition.leaves := by
  induction conditions with
  | nil => rw [Condition.leavesAll, List.flatMap_nil]
  | cons condition conditions ih =>
      rw [Condition.leavesAll, List.flatMap_cons, ih]

mutual

theorem Condition.sizeOf_leaf {leaf : Expression} :
    (condition : Condition) → leaf ∈ condition.leaves →
      sizeOf leaf < sizeOf condition
  | .test expression, member => by
      rw [Condition.leaves, List.mem_singleton] at member
      simp [member]
  | .nested conditional, member => by
      rw [Condition.leaves] at member
      have smaller := Conditional.sizeOf_leaf conditional member
      simp only [Condition.nested.sizeOf_spec]
      omega

theorem Conditional.sizeOf_leaf {leaf : Expression} :
    (conditional : Conditional) → leaf ∈ conditional.leaves →
      sizeOf leaf < sizeOf conditional
  | ⟨junction, conditions⟩, member => by
      rw [Conditional.leaves] at member
      have smaller := Condition.sizeOf_leafAll conditions member
      simp only [Conditional.mk.sizeOf_spec]
      omega

theorem Condition.sizeOf_leafAll {leaf : Expression} :
    (conditions : List Condition) → leaf ∈ Condition.leavesAll conditions →
      sizeOf leaf < sizeOf conditions
  | [], member => by simp [Condition.leavesAll] at member
  | condition :: conditions, member => by
      rw [Condition.leavesAll, List.mem_append] at member
      simp only [List.cons.sizeOf_spec]
      rcases member with first | later
      · have smaller := Condition.sizeOf_leaf condition first
        omega
      · have smaller := Condition.sizeOf_leafAll conditions later
        omega

end

theorem DecisionSet.sizeOf_leaf {leaf : Expression} (set : DecisionSet)
    (member : leaf ∈ set.leaves) : sizeOf leaf < sizeOf set := by
  obtain ⟨row, among, inside⟩ := List.mem_flatMap.mp member
  have inner := Conditional.sizeOf_leaf row.antecedent inside
  have outer := List.sizeOf_lt_of_mem among
  cases set with
  | mk rows =>
      cases row
      simp only [DecisionRow.mk.sizeOf_spec, DecisionSet.mk.sizeOf_spec] at *
      omega

theorem ScoreSet.sizeOf_leaf {leaf : Expression} (set : ScoreSet)
    (member : leaf ∈ set.leaves) : sizeOf leaf < sizeOf set := by
  obtain ⟨row, among, inside⟩ := List.mem_flatMap.mp member
  have inner := Conditional.sizeOf_leaf row.antecedent inside
  have outer := List.sizeOf_lt_of_mem among
  cases set with
  | mk rows weight =>
      cases row
      simp only [ScoreRow.mk.sizeOf_spec, ScoreSet.mk.sizeOf_spec] at *
      omega

namespace Rule

theorem sizeOf_leaf {leaf : Expression} :
    (rule : Rule) → leaf ∈ rule.leaves → sizeOf leaf < sizeOf rule
  | .decision ⟨ruleset, _⟩, member => by
      have inner := ruleset.sizeOf_leaf member
      simp only [Rule.decision.sizeOf_spec, DecisionRule.mk.sizeOf_spec]
      omega
  | .score ⟨rulesets, _⟩, member => by
      obtain ⟨set, among, inside⟩ := List.mem_flatMap.mp member
      have inner := set.sizeOf_leaf inside
      have outer : sizeOf set < sizeOf rulesets := List.sizeOf_lt_of_mem among
      simp only [Rule.score.sizeOf_spec, ScoreRule.mk.sizeOf_spec]
      omega

/-- A rule that a rule's own token embeds is smaller. -/
theorem sizeOf_embedded {rule embedded : Rule} {label : String} {object : Nat}
    {kind : ValueKind}
    (member : Token.rule label object kind embedded ∈ rule.tokens) :
    sizeOf embedded < sizeOf rule := by
  obtain ⟨⟨token, operator⟩, among, same⟩ := List.mem_map.mp member
  have smaller := rule.sizeOf_leaf among
  subst same
  simp only [Expression.mk.sizeOf_spec, Token.rule.sizeOf_spec] at smaller
  omega

/-- What every rule has if the rules embedded in its own tests have it, all
rules have. -/
theorem embedding_induction {motive : Rule → Prop}
    (step : ∀ rule, (∀ label object kind embedded,
      Token.rule label object kind embedded ∈ rule.tokens → motive embedded) →
        motive rule)
    (rule : Rule) : motive rule :=
  step rule fun _ _ _ embedded member =>
    have := sizeOf_embedded member
    embedding_induction step embedded
termination_by sizeOf rule

end Rule

namespace Token

variable {tokens : List Token}

theorem OccursIn.sizeOf_embedded {rule embedded : Rule} {label : String}
    {object : Nat} {kind : ValueKind}
    (occurs : (Token.rule label object kind embedded).OccursIn rule.tokens) :
    sizeOf embedded < sizeOf rule := by
  induction rule using Rule.embedding_induction with
  | step rule ih =>
      cases occurs with
      | among member => exact Rule.sizeOf_embedded member
      | within member inside =>
          exact Nat.lt_trans (ih _ _ _ _ member inside)
            (Rule.sizeOf_embedded member)

/-- Tokens with the number of one rule object embed one rule. -/
def Coherent (tokens : List Token) : Prop :=
  ∀ firstLabel secondLabel object firstKind secondKind first second,
    (Token.rule firstLabel object firstKind first).OccursIn tokens →
    (Token.rule secondLabel object secondKind second).OccursIn tokens →
      first = second

/-- The rules that are embedded below some tokens are those of a table of all
rule objects. -/
def HeldBy (objects : Nat → Rule) (tokens : List Token) : Prop :=
  ∀ label object kind rule,
    (Token.rule label object kind rule).OccursIn tokens →
      objects object = rule

namespace HeldBy

variable {objects : Nat → Rule} {more : List Token}

theorem mono (held : HeldBy objects more) (subset : tokens ⊆ more) :
    HeldBy objects tokens :=
  fun label object kind rule occurs =>
    held label object kind rule (occurs.mono subset)

theorem coherent (held : HeldBy objects tokens) : Coherent tokens := by
  intro _ _ _ _ _ _ _ one other
  rw [← held _ _ _ _ one, ← held _ _ _ _ other]

end HeldBy

namespace Coherent

/-- Tokens that embed one rule only are coherent. -/
theorem of_only (whole : Rule)
    (only : ∀ label object kind rule,
      (Token.rule label object kind rule).OccursIn tokens → rule = whole) :
    Coherent tokens :=
  HeldBy.coherent fun label object kind rule occurs =>
    (only label object kind rule occurs).symm

/-- Coherent tokens have a table of their rule objects. -/
theorem exists_table (coherent : Coherent tokens) :
    ∃ objects, HeldBy objects tokens := by
  have known : ∀ object, ∃ rule, ∀ label kind embedded,
      (Token.rule label object kind embedded).OccursIn tokens →
        rule = embedded := by
    intro object
    by_cases used : object ∈ embeddedObjects tokens
    · obtain ⟨label, kind, rule, occurs⟩ := used
      exact ⟨rule, fun _ _ _ other => coherent _ _ _ _ _ _ _ occurs other⟩
    · refine ⟨.score ⟨[], .initial⟩, fun label kind rule occurs => ?_⟩
      exact (used ⟨label, kind, rule, occurs⟩).elim
  choose objects held using known
  exact ⟨objects, fun label object kind rule => held object label kind rule⟩

/-- No rule object is embedded in its own rule. -/
theorem not_within {label : String} {object : Nat} {kind : ValueKind}
    {rule : Rule} (coherent : Coherent tokens)
    (occurs : (Token.rule label object kind rule).OccursIn tokens) :
    object ∉ embeddedObjects rule.tokens := by
  rintro ⟨_, _, inner, inside⟩
  -- Its own rule would be embedded in itself, which its size rules out.
  have same : inner = rule :=
    coherent _ _ _ _ _ _ _ (occurs.inside inside) occurs
  have smaller := inside.sizeOf_embedded
  rw [same] at smaller
  exact Nat.lt_irrefl _ smaller

end Coherent

end Token

end Rulebook
