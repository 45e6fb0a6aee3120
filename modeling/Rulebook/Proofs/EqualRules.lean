import Rulebook.Proofs.Coincidence
import Rulebook.Proofs.Transparency
import Rulebook.Proofs.WellFormed

/-!
# Equal rules behave equally

Equality of rules does not look into a rule object that both sides share, so that
such a rule may even hold NaN.  A shared rule resolves to the very same value on
both sides, though, and rules that are compared by content resolve to equal
values.  So equal tests of two rules come out the same, by induction over the
embedded rules, and the two rules have equal outcomes and the same matched rows.
-/

namespace Rulebook

/-- Reports on equal outcomes that name the same rows. -/
structure Report.Alike (first second : Report) : Prop where
  outcome : first.outcome == second.outcome
  rows : first.rulesets.map SetReport.row? =
    second.rulesets.map SetReport.row?

/-- Reports that name the same rows have the same rulesets without one. -/
theorem Report.Alike.unmatched {first second : Report}
    (alike : first.Alike second) : first.unmatched = second.unmatched := by
  have places (place : Nat) (reports others : List SetReport)
      (same : reports.map SetReport.row? = others.map SetReport.row?) :
      unmatchedFrom place reports = unmatchedFrom place others := by
    induction reports generalizing place others with
    | nil => rw [List.map_eq_nil_iff.mp same.symm]
    | cons report reports ih =>
        cases others with
        | nil => cases same
        | cons other others =>
            rw [List.map_cons, List.map_cons, List.cons.injEq] at same
            rw [unmatchedFrom, unmatchedFrom, same.1,
              ih (place + 1) others same.2]
  exact places 0 _ _ alike.rows

/-- Equal outcomes resolve alike. -/
theorem Outcome.resolved?_alike {outcome other : Outcome}
    (equal : outcome == other) :
    Resolved.Alike outcome.resolved? other.resolved? := by
  cases outcome <;> cases other <;> try exact absurd equal Bool.false_ne_true
  case noMatch.noMatch => exact .same none
  case score.score => exact .number equal
  case decision.decision concluded against =>
      cases concluded <;> cases against <;>
        try exact absurd equal Bool.false_ne_true
      case number.number => exact .number equal
      case text.text text other =>
          have same : text = other := LawfulBEq.eq_of_beq equal
          subst same
          exact .same _
      case boolean.boolean truth other =>
          have same : truth = other := LawfulBEq.eq_of_beq equal
          subst same
          exact .same _
      case list.list => exact .same none
      case map.map => exact .same none

namespace Rule

variable {first second : Rule} {facts : Facts}

/-- Equal rules are of one type, with equal rulesets and equal profiles. -/
theorem beq_cases (equal : first.beq second = true) :
    (∃ set other profile known, first = .decision ⟨set, profile⟩ ∧
        second = .decision ⟨other, known⟩ ∧ set.beq other = true ∧
        profile == known) ∨
      ∃ sets others profile known, first = .score ⟨sets, profile⟩ ∧
        second = .score ⟨others, known⟩ ∧
        ScoreSet.beqAll sets others = true ∧ profile == known := by
  cases first with
  | decision rule =>
      cases second with
      | score other => simp [beq] at equal
      | decision other =>
          obtain ⟨set, profile⟩ := rule
          obtain ⟨against, known⟩ := other
          rw [beq, DecisionRule.beq, Bool.and_eq_true] at equal
          exact .inl ⟨_, _, _, _, rfl, rfl, equal⟩
  | score rule =>
      cases second with
      | decision other => simp [beq] at equal
      | score other =>
          obtain ⟨sets, profile⟩ := rule
          obtain ⟨others, known⟩ := other
          rw [beq, ScoreRule.beq, Bool.and_eq_true] at equal
          exact .inr ⟨_, _, _, _, rfl, rfl, equal⟩

theorem report_coincide (constructed : Item.Constructed (.rule first))
    (equal : first.beq second = true)
    (tests : (Interpreter.plain facts).Respects first.leaves second.leaves) :
    Coincide Report.Alike (first.interpretReport (.plain facts))
      (second.interpretReport (.plain facts)) := by
  rcases beq_cases equal with
    ⟨set, other, profile, known, rfl, rfl, rows, _⟩ |
      ⟨sets, others, profile, known, rfl, rfl, rulesets, _⟩
  · refine (DecisionSet.interpret_coincide rows tests).map ?_
    intro matched found alike
    cases alike with
    | nothing => exact ⟨rfl, rfl⟩
    | row place same => exact ⟨same, rfl⟩
  · have formed := constructed.wellFormed
    have checked (set : ScoreSet) (member : set ∈ sets) :=
      And.intro (formed.scores set member) (formed.weights set member)
    have zero : (0 : Float) == 0 := by decide
    refine (ScoreSet.interpretReports_coincide checked
      (ScoreSet.forall₂_of_beq rulesets) tests zero).map ?_
    exact fun found against related => ⟨related.1, related.2⟩

/-- Without a cache nothing is logged, so a detailed reading is a report. -/
theorem interpretDetailed_plain (rule : Rule) :
    rule.interpretDetailed (.plain facts) =
      rule.interpretReport (.plain facts) := by
  rw [interpretDetailed]
  cases rule.interpretReport (.plain facts) <;> rfl

theorem meaning_coincide (constructed : Item.Constructed (.rule first))
    (equal : first.beq second = true)
    (tests : (Interpreter.plain facts).Respects first.leaves second.leaves) :
    Coincide (· == ·) (first.meaning facts) (second.meaning facts) := by
  have told (rule : Rule) : rule.meaning facts =
      Report.outcome <$> rule.interpretReport (.plain facts) := by
    rw [rule.meaning_eq_interpret, ← rule.interpretDetailed_plain,
      rule.interpretDetailed_map_outcome (.plain facts) fun _ => rfl]
  rw [told first, told second]
  exact (report_coincide constructed equal tests).map
    fun _ _ alike => alike.outcome

end Rule

/-- Tests of tokens that resolve alike by equal operators come out the same. -/
theorem Expression.interpret_alike {leaf other : Expression} {facts : Facts}
    (operators : leaf.operator == other.operator)
    (tokens : Coincide Resolved.Alike (leaf.token.meaning facts)
      (other.token.meaning facts)) :
    leaf.interpret (.plain facts) = other.interpret (.plain facts) := by
  change (leaf.token.meaning facts >>= _) = (other.token.meaning facts >>= _)
  generalize leaf.token.meaning facts = one,
    other.token.meaning facts = another at tokens
  cases tokens with
  | ok alike => exact congrArg Except.ok (Operator.accepts_alike operators alike)
  | error defect => rfl

namespace Rule

variable {first second : Rule} {facts : Facts} {objects : Nat → Rule}

/-- If one table holds the rule objects of two rules, equal tests of the two
rules come out the same. -/
theorem respects (constructed : Item.Constructed (.rule first))
    (held : Token.HeldBy objects first.tokens)
    (also : Token.HeldBy objects second.tokens) :
    (Interpreter.plain facts).Respects first.leaves second.leaves := by
  induction first using Rule.embedding_induction generalizing second with
  | step first ih =>
      rintro ⟨token, operator⟩ member ⟨other, against⟩ among equal
      have own : token ∈ first.tokens := List.mem_map_of_mem member
      have its : other ∈ second.tokens := List.mem_map_of_mem among
      change Expression.beq _ _ = true at equal
      rw [Expression.beq, Bool.and_eq_true] at equal
      refine Expression.interpret_alike equal.2 ?_
      have tokens := equal.1
      cases token with
      | fact name kind =>
          cases other with
          | rule => simp [Token.beq] at tokens
          | fact otherName otherKind =>
              rw [Token.beq, Bool.and_eq_true, beq_iff_eq, beq_iff_eq] at tokens
              obtain ⟨rfl, rfl⟩ := tokens
              exact .of_eq .same rfl
      | rule label object kind embedded =>
          cases other with
          | fact => simp [Token.beq] at tokens
          | rule otherLabel otherObject otherKind otherEmbedded =>
              rw [Token.beq, Bool.and_eq_true, Bool.or_eq_true,
                beq_iff_eq] at tokens
              rw [Token.meaning, Token.meaning]
              rcases tokens.2 with shared | content
              · -- A shared object is one rule, whatever numbers it holds.
                have shared : object = otherObject := LawfulBEq.eq_of_beq shared
                have same : embedded = otherEmbedded := by
                  rw [← held _ _ _ _ (.among own), shared]
                  exact also _ _ _ _ (.among its)
                rw [same]
                exact .of_eq .same rfl
              · have built := constructed.embedded (.among own)
                refine (meaning_coincide built content (ih _ _ _ _ own built
                  ?_ ?_)).bind fun outcome found same =>
                    .ok (Outcome.resolved?_alike same)
                · exact fun _ _ _ _ occurs =>
                    held _ _ _ _ (.within own occurs)
                · exact fun _ _ _ _ occurs =>
                    also _ _ _ _ (.within its occurs)

/-- Coherent rules are reported on as without a cache. -/
theorem executeDetailed_eq_interpretReport {rule : Rule}
    (coherent : Token.Coherent rule.tokens) (facts : Facts) :
    rule.executeDetailed facts = rule.interpretReport (.plain facts) := by
  obtain ⟨objects, held⟩ := coherent.exists_table
  rw [← rule.interpretDetailed_plain]
  exact (Walk.Means.detailed held .empty Cache.correct_empty).1

/-- Equal rules recorded the same of their tokens. -/
theorem profile_of_beq (equal : first.beq second = true) :
    first.requirements = second.requirements ∧
      first.chainDepth = second.chainDepth := by
  have recorded {profile other : Profile} (same : (profile == other) = true) :
      profile.requirements = other.requirements ∧
        profile.depth = other.depth := by
    change (_ && _) = true at same
    rw [Bool.and_eq_true] at same
    exact ⟨NameMap.eq_of_beq same.1, LawfulBEq.eq_of_beq same.2⟩
  rcases beq_cases equal with
    ⟨_, _, _, _, rfl, rfl, _, same⟩ | ⟨_, _, _, _, rfl, rfl, _, same⟩
  · exact recorded same
  · exact recorded same

/-- Equal rules have the same kind of output. -/
theorem outputKind_of_beq (equal : first.beq second = true) :
    first.outputKind = second.outputKind := by
  have kinds {decision other : Decision} (same : decision == other) :
      decision.kind = other.kind := by
    cases decision <;> cases other <;>
      first | rfl | exact absurd same Bool.false_ne_true
  rcases beq_cases equal with
    ⟨⟨rows⟩, ⟨others⟩, _, _, rfl, rfl, sets, _⟩ | ⟨_, _, _, _, rfl, rfl, _, _⟩
  · rw [DecisionSet.beq] at sets
    have same : DecisionSet.kinds ⟨rows⟩ = DecisionSet.kinds ⟨others⟩ := by
      rw [DecisionSet.kinds, DecisionSet.kinds, ← List.forall₂_eq_eq_eq,
        List.forall₂_map_left_iff, List.forall₂_map_right_iff]
      exact (DecisionRow.forall₂_of_beq sets).imp
        fun _ _ alike => kinds alike.2
    rw [outputKind, outputKind, DecisionSet.outputKind,
      DecisionSet.outputKind, same]
  · rfl

end Rule

section Sample

/-- A rule that concludes what is not a number, so it does not equal itself. -/
def Rule.undefined : Rule :=
  .decision ⟨⟨[⟨⟨.all, []⟩, .number (0 / 0)⟩]⟩, .initial⟩

/-- A rule that concludes a zero if a ratio is not that zero, where the rule
object that tells the ratio has the given number. -/
def Rule.zeroed (object : Nat) (zero : Float) : Rule :=
  .decision
    ⟨⟨[⟨⟨.any,
      [.test ⟨.rule "ratio" object .numeric .undefined,
        .numeric (.notEq zero)⟩]⟩, .number zero⟩]⟩, ⟨.empty, 2⟩⟩

theorem Rule.zeroed_constructed (object : Nat) :
    Item.Constructed (.rule (.zeroed object 0)) := by
  have ratio : Item.Constructed (.rule .undefined) :=
    Item.constructed_decision_iff.mpr ⟨by nofun, rfl⟩
  have test : Item.Constructed (.expression
      ⟨.rule "ratio" object .numeric .undefined, .numeric (.notEq 0)⟩) :=
    Item.constructed_expression_iff.mpr ⟨Item.constructed_rule_iff.mpr
      ⟨ratio, rfl, by decide⟩, rfl, .inl rfl⟩
  exact Item.constructed_decision_iff.mpr
    ⟨List.forall_mem_singleton.mpr test, rfl⟩

theorem Rule.zeroed_coherent (object : Nat) (zero other : Float) :
    Token.Coherent
      ((zeroed object zero).tokens ++ (zeroed object other).tokens) := by
  refine .of_only undefined fun label number kind rule occurs => ?_
  have own (zero : Float) : (zeroed object zero).tokens =
      [.rule "ratio" object .numeric undefined] :=
    rfl
  have none : undefined.tokens = [] := rfl
  rw [own, own, Token.occursIn_append, or_self, Token.occursIn_rule,
    none] at occurs
  rcases occurs with ⟨⟨⟩⟩ | inside
  · rfl
  · exact absurd inside Token.not_occursIn_nil

end Sample

namespace Rule

variable {first second : Rule}

/-- Two equal rules that may share rule objects fail with the same defect or come
to equal outcomes, whatever the facts are.  They report the same rows and the
same rulesets without one, they require the same facts, and they have the same
depth and the same kind of output. -/
theorem coincide_of_beq (obtainable : Item.Obtainable (.rule first))
    (coherent : Token.Coherent (first.tokens ++ second.tokens))
    (equal : first == second) :
    (∀ facts,
      Coincide (· == ·) (first.execute facts) (second.execute facts) ∧
        Coincide (fun report other => report.outcome == other.outcome ∧
            report.rulesets.map SetReport.row? =
              other.rulesets.map SetReport.row? ∧
            report.unmatched = other.unmatched)
          (first.executeDetailed facts) (second.executeDetailed facts)) ∧
      first.requirements = second.requirements ∧
      first.chainDepth = second.chainDepth ∧
      first.outputKind = second.outputKind := by
  have constructed := obtainable.constructed
  obtain ⟨objects, held⟩ := coherent.exists_table
  have firstHeld := held.mono (List.subset_append_left _ _)
  have secondHeld := held.mono (List.subset_append_right _ _)
  refine ⟨fun facts => ?_, (profile_of_beq equal).1, (profile_of_beq equal).2,
    outputKind_of_beq equal⟩
  have tests : (Interpreter.plain facts).Respects first.leaves second.leaves :=
    respects constructed firstHeld secondHeld
  constructor
  · rw [execute_eq_meaning firstHeld.coherent,
      execute_eq_meaning secondHeld.coherent]
    exact meaning_coincide constructed equal tests
  · rw [executeDetailed_eq_interpretReport firstHeld.coherent,
      executeDetailed_eq_interpretReport secondHeld.coherent]
    have coincide := report_coincide constructed equal tests
    exact coincide.mono fun _ _ alike =>
      ⟨alike.outcome, alike.rows, alike.unmatched⟩

/-- Two rules with different zeros are equal if they share the rule object that
tells the ratio, although its rule does not equal itself.  Each of them concludes
its own zero. -/
theorem coincide_of_beq_zeroed :
    let rule := zeroed 0 0
    let other := zeroed 0 (-0.0)
    (undefined == undefined) = false ∧
      (rule == other) = true ∧
      rule.execute .empty = .ok (.decision (.number 0)) ∧
      other.execute .empty = .ok (.decision (.number (-0.0))) ∧
      Coincide (· == ·) (rule.execute .empty) (other.execute .empty) ∧
      rule.chainDepth = other.chainDepth := by
  intro rule other
  have equal : (rule == other) = true := by with_unfolding_all rfl
  have law := coincide_of_beq (.of_constructed (zeroed_constructed 0))
    (zeroed_coherent 0 0 (-0.0)) equal
  exact ⟨by with_unfolding_all rfl, equal, by with_unfolding_all rfl,
    by with_unfolding_all rfl, (law.1 .empty).1, law.2.2.1⟩

end Rule

end Rulebook
