import Rulebook.Proofs.FirstContact
import Rulebook.Proofs.Reading
import Rulebook.Proofs.Relabelling
import Rulebook.Proofs.Substitution

/-!
# Which facts are required

The requirements of a rule are merged from those of the rules that it embeds, not
collected from the expanded tree.  They are exact all the same: they hold the fact
tokens that occur in the tree, each name once and in increasing order, and nothing
else.  What the rule tokens are called does not show in them, since an obtainable
rule under other labels is a rule that the constructors make, with the same
requirements (`Item.Constructed.rename`).
-/

namespace Rulebook

namespace Item

variable {rule : Rule} (label : String → String) (number : Nat → Nat)

/-- A test passes the constructor's checks under other labels and numbers, if the
rule that it embeds can be constructed under them. -/
theorem Constructed.expression_rename {tested : Expression}
    (constructed : Constructed (.expression tested))
    (inside : ∀ name object kind embedded,
      tested.token = .rule name object kind embedded →
        Constructed (.rule (embedded.rename label number))) :
    Constructed (.expression
      (tested.mapToken (Token.rename label number))) := by
  obtain ⟨token, operator⟩ := tested
  cases token with
  | fact name kind =>
      rw [Expression.mapToken, Token.rename]
      exact constructed
  | rule name object kind embedded =>
      obtain ⟨made, fits, checked⟩ := constructed_expression_iff.mp constructed
      obtain ⟨_, output, shallow⟩ := constructed_rule_iff.mp made
      rw [Expression.mapToken, Token.rename]
      refine constructed_expression_iff.mpr ⟨?_, fits, ?_⟩
      · rw [constructed_rule_iff, embedded.outputKind_rename,
          embedded.chainDepth_rename]
        exact ⟨inside name object kind embedded rfl, output, shallow⟩
      · rcases checked with valid | ⟨_, _, _, fact⟩
        · exact .inl valid
        · cases fact

/-- The constructors make a rule under other labels and numbers too. -/
theorem Constructed.rename (constructed : Constructed (.rule rule)) :
    Constructed (.rule (rule.rename label number)) := by
  induction rule using Rule.embedding_induction with
  | step rule ih =>
      have tests : ∀ leaf ∈
          rule.leaves.map (Expression.mapToken (Token.rename label number)),
            Constructed (.expression leaf) := by
        refine List.forall_mem_map.mpr fun leaf member => ?_
        refine (constructed.leaf member).expression_rename label number ?_
        intro name object kind embedded token
        have own : Token.rule name object kind embedded ∈ rule.tokens :=
          List.mem_map.mpr ⟨leaf, member, token⟩
        exact ih name object kind embedded own
          (constructed.embedded (.among own))
      have collected := (Profile.ofLeaves_rename label number rule.leaves).trans
        constructed.profile
      cases rule with
      | decision rule =>
          rw [Rule.rename_decision]
          exact (@Rule.decision_withTokens _ _ rule.profile _ tests
            collected).2
      | score rule =>
          obtain ⟨rulesets, profile⟩ := rule
          rw [Rule.rename_score]
          exact (Rule.score_withTokens constructed tests collected).2

end Item

namespace Rule

variable {rule : Rule}

theorem mem_requirements_iff (constructed : Item.Constructed (.rule rule))
    {name : String} {kind : ValueKind} :
    (name, kind) ∈ rule.requirements.entries ↔
      (Token.fact name kind).OccursIn rule.tokens := by
  rw [← NameMap.get?_eq_some_iff, requirements_get?_eq_some_iff constructed]

theorem requirements_increasing (rule : Rule) :
    rule.requirements.names.Pairwise (· < ·) :=
  List.pairwise_map.mpr rule.requirements.increasing

/-- Exactly the facts are required that a test of the rule or of a rule embedded
at any depth asks for.  They are listed by name in increasing order, each name
once, and they stay what they are when the rule tokens get other labels. -/
theorem requirements_exact (obtainable : Item.Obtainable (.rule rule)) :
    (∀ name kind, (name, kind) ∈ rule.requirements.entries ↔
        (Token.fact name kind).OccursIn rule.tokens) ∧
      rule.requirements.names.Pairwise (· < ·) ∧
      rule.requirements.names.Nodup ∧
      ∀ label : String → String,
        Item.Constructed (.rule (rule.rename label id)) ∧
          (rule.rename label id).requirements = rule.requirements := by
  have constructed := obtainable.constructed
  have increasing := rule.requirements_increasing
  refine ⟨fun _ _ => mem_requirements_iff constructed, increasing, ?_, ?_⟩
  · refine increasing.imp fun below => ?_
    rintro rfl
    exact String.lt_irrefl _ below
  · exact fun label => ⟨constructed.rename label id,
      rule.requirements_rename label id⟩

/-- A gate requires the level, which only the rule embedded in it asks for.  Its
rule token resolves to a truth value.  When the token is called "pet" like a fact
that the gate asks for as a text, the requirements are the same. -/
theorem requirements_exact_gated :
    (Token.fact "level" .numeric).OccursIn (gated 0).tokens ∧
      Token.rule "pet" 0 .boolean positive ∈
        ((gated 0).rename (fun _ => "pet") id).tokens ∧
      ((gated 0).rename (fun _ => "pet") id).requirements.entries =
        [("level", .numeric), ("pet", .string)] := by
  have law := requirements_exact
    (Item.Obtainable.of_constructed (gated_constructed 0))
  have entries : (gated 0).requirements.entries =
      [("level", .numeric), ("pet", .string)] := by
    decide
  refine ⟨(law.1 "level" .numeric).mp ?_, List.mem_cons_self .., ?_⟩
  · rw [entries]
    exact List.mem_cons_self ..
  · rw [(law.2.2.2 fun _ => "pet").2, entries]

end Rule

end Rulebook
