import Rulebook.Proofs.Call
import Rulebook.Proofs.Collected
import Rulebook.Proofs.Reading

/-!
# The check foresees every error

The only way for a walk to fail is a fact token that meets a value of another
kind.  That token occurs in the expanded tree, so its fact is required with its
kind, and the check of the requirements fails too: at this fact, or at one whose
name comes before it.
-/

namespace Rulebook

namespace Facts

theorem kind?_eq_some_iff {facts : Facts} {name : String} {kind : ValueKind} :
    facts.kind? name = some kind ↔
      ∃ value, facts.get? name = some value ∧ value.kind = some kind :=
  Option.bind_eq_some_iff

/-- A fact token fails on a value of another kind, and on nothing else. -/
theorem resolve_eq_error_iff {facts : Facts} {name : String}
    {expected : ValueKind} {defect : EvalError} :
    facts.resolve name expected = .error defect ↔
      ∃ found, facts.kind? name = some found ∧ found ≠ expected ∧
        defect = .typeMismatch name expected found := by
  unfold resolve kind?
  cases facts.get? name with
  | none => simp
  | some value =>
      cases kind : value.kind with
      | none => simp [kind]
      | some found =>
          by_cases fits : found = expected
          · simp [kind, fits]
          · simp only [Option.bind_some, kind, fits, if_false]
            constructor
            · rintro ⟨⟩
              exact ⟨found, rfl, fits, rfl⟩
            · rintro ⟨_, ⟨⟩, _, rfl⟩
              rfl

end Facts

namespace Requirements

/-- The check fails at the first entry that does not fit, so not after any other
one that does not fit. -/
theorem checkEntries_eq_error {facts : Facts}
    {entries : List (String × ValueKind)} {name : String}
    {expected found : ValueKind}
    (increasing : entries.Pairwise fun first second => first.1 < second.1)
    (member : (name, expected) ∈ entries)
    (present : facts.kind? name = some found) (differs : found ≠ expected) :
    ∃ first wanted other,
      checkEntries facts entries = .error (.typeMismatch first wanted other) ∧
        first ≤ name := by
  induction entries with
  | nil => simp at member
  | cons entry entries ih =>
      obtain ⟨first, wanted⟩ := entry
      rw [List.pairwise_cons] at increasing
      rw [checkEntries]
      rcases List.mem_cons.mp member with same | later
      · cases same
        simp only [present, differs, if_false]
        exact ⟨name, expected, found, rfl, String.le_refl name⟩
      · have below : first < name := increasing.1 _ later
        have rest := ih increasing.2 later
        cases kind : facts.kind? first with
        | none => exact rest
        | some other =>
            by_cases fits : other = wanted
            · simp only [fits, if_true]
              exact rest
            · simp only [fits, if_false]
              exact ⟨first, wanted, other, rfl, Std.le_of_lt below⟩

end Requirements

/-- Every failure of the walk is the failure of a fact token below some
tokens. -/
def Walk.FailsAtFact (facts : Facts) (tokens : List Token) (α : Type)
    (walk : Walk α) : Prop :=
  ∀ cache defect, (walk cache).result = .error defect →
    ∃ name kind, (Token.fact name kind).OccursIn tokens ∧
      facts.resolve name kind = .error defect

namespace Walk.FailsAtFact

variable {facts : Facts} {tokens : List Token}

theorem bind {α β : Type} {walk : Walk α} {next : α → Walk β}
    (first : FailsAtFact facts tokens α walk)
    (second : ∀ value, FailsAtFact facts tokens β (next value)) :
    FailsAtFact facts tokens β (walk >>= next) := by
  intro cache defect failed
  cases result : (walk cache).result with
  | error earlier =>
      rw [bind_apply_of_error next result] at failed
      cases failed
      exact first cache defect result
  | ok value =>
      rw [bind_apply_of_ok next result] at failed
      exact second value _ defect failed

theorem compatible :
    Compatible (.cached facts) (.cached facts)
      fun α walk _ => FailsAtFact facts tokens α walk where
  pure := fun _ _ _ failed => nomatch failed
  bind := bind
  log := fun _ _ _ _ failed => nomatch failed

/-- A token that embeds a rule fails only if the run of its rule fails. -/
theorem embed {label : String} {object : Nat} (kind : ValueKind) {rule : Rule}
    (inner : FailsAtFact facts tokens _ (rule.walk facts)) :
    FailsAtFact facts tokens _
      ((Token.rule label object kind rule).walk facts) := by
  intro cache defect failed
  rcases Token.walk_rule_cases label object kind rule cache with
    ⟨output, _, step⟩ | ⟨_, ⟨earlier, result, step⟩ | ⟨outcome, _, step⟩⟩
  · rw [step] at failed
    cases failed
  · rw [step] at failed
    cases failed
    exact inner cache defect result
  · rw [step] at failed
    cases failed

theorem tests (leaves : List Expression) :
    (Interpreter.cached facts).RelatedAt (.cached facts)
      (fun α walk _ => FailsAtFact facts (leaves.map (·.token)) α walk)
      leaves := by
  refine compatible.tests ?_ ?_
  · intro name kind occurs cache defect failed
    refine ⟨name, kind, occurs, ?_⟩
    change ((Token.fact name kind).walk facts cache).result = _ at failed
    rw [Token.walk] at failed
    exact failed
  · intro label object kind rule _ inner
    rw [← rule.walk_eq_interpret] at inner
    exact embed kind inner

theorem rule (rule : Rule) :
    FailsAtFact facts rule.tokens _ (rule.walk facts) := by
  rw [rule.walk_eq_interpret]
  exact compatible.rule rule (tests rule.leaves)

theorem detailed (rule : Rule) :
    FailsAtFact facts rule.tokens _ (rule.walkDetailed facts) := by
  rw [rule.walkDetailed_eq_interpretDetailed]
  exact compatible.detailed rule (tests rule.leaves)

end Walk.FailsAtFact

namespace Rule

/-- An error of a rule is one that the check of its requirements foresees. -/
structure Foreseen (rule : Rule) (facts : Facts) (fact : String)
    (expected found : ValueKind) : Prop where
  required : rule.requirements.get? fact = some expected
  /-- The fact has a value of the kind that was found, so not null. -/
  present : ∃ value, facts.get? fact = some value ∧ value ≠ .null ∧
    value.kind = some found
  differs : found ≠ expected
  /-- The check fails too, at the same fact or before it. -/
  checked : ∃ first wanted other,
    rule.requirements.check facts = .error (.typeMismatch first wanted other) ∧
      first ≤ fact

theorem foreseen_of_resolve {rule : Rule} {facts : Facts} {name fact : String}
    {kind expected found : ValueKind}
    (constructed : Item.Constructed (.rule rule))
    (occurs : (Token.fact name kind).OccursIn rule.tokens)
    (failed : facts.resolve name kind =
      .error (.typeMismatch fact expected found)) :
    rule.Foreseen facts fact expected found := by
  obtain ⟨other, present, differs, same⟩ :=
    Facts.resolve_eq_error_iff.mp failed
  cases same
  have required := (requirements_get?_eq_some_iff constructed).mpr occurs
  obtain ⟨value, held, kind⟩ := Facts.kind?_eq_some_iff.mp present
  have notNull : value ≠ .null := by
    rintro rfl
    cases kind
  exact ⟨required, ⟨value, held, notNull, kind⟩, differs,
    Requirements.checkEntries_eq_error rule.requirements.increasing
      (rule.requirements.get?_eq_some_iff.mp required) present differs⟩

/-- A passed check rules out errors, and every error is one that the check
foresees. -/
theorem check_foresees {rule : Rule} (obtainable : Item.Obtainable (.rule rule))
    (facts : Facts) :
    (rule.requirements.check facts = .ok () →
        (∃ outcome, rule.execute facts = .ok outcome) ∧
          ∃ report, rule.executeDetailed facts = .ok report) ∧
      ∀ fact expected found,
        rule.execute facts = .error (.typeMismatch fact expected found) ∨
            rule.executeDetailed facts =
              .error (.typeMismatch fact expected found) →
          rule.Foreseen facts fact expected found := by
  have foreseen (fact : String) (expected found : ValueKind)
      (failed : rule.execute facts = .error (.typeMismatch fact expected found) ∨
        rule.executeDetailed facts =
          .error (.typeMismatch fact expected found)) :
      rule.Foreseen facts fact expected found := by
    obtain ⟨name, kind, occurs, token⟩ : ∃ name kind,
        (Token.fact name kind).OccursIn rule.tokens ∧
          facts.resolve name kind =
            .error (.typeMismatch fact expected found) := by
      rcases failed with plain | detailed
      · exact Walk.FailsAtFact.rule rule .empty _ plain
      · exact Walk.FailsAtFact.detailed rule .empty _ detailed
    exact foreseen_of_resolve obtainable.constructed occurs token
  refine ⟨fun passed => ⟨?_, ?_⟩, foreseen⟩
  · cases result : rule.execute facts with
    | ok outcome => exact ⟨outcome, rfl⟩
    | error defect =>
        obtain ⟨fact, expected, found⟩ := defect
        obtain ⟨_, _, _, failed, _⟩ :=
          (foreseen fact expected found (.inl result)).checked
        rw [passed] at failed
        cases failed
  · cases result : rule.executeDetailed facts with
    | ok report => exact ⟨report, rfl⟩
    | error defect =>
        obtain ⟨fact, expected, found⟩ := defect
        obtain ⟨_, _, _, failed, _⟩ :=
          (foreseen fact expected found (.inr result)).checked
        rw [passed] at failed
        cases failed

/-- A number passes the check, and the rule runs.  A truth value in its place is
an error that the check foresees. -/
theorem check_foresees_twice :
    (∃ outcome,
        (twice 0 0).execute (.ofList [("level", .int 3)]) = .ok outcome) ∧
      (twice 0 0).Foreseen (.ofList [("level", .boolean true)]) "level"
        .numeric .boolean := by
  have law := check_foresees
    (Item.Obtainable.of_constructed (twice_constructed 0 0))
  exact ⟨((law (.ofList [("level", .int 3)])).1 rfl).1,
    (law (.ofList [("level", .boolean true)])).2 "level" .numeric .boolean
      (.inl rfl)⟩

end Rule

end Rulebook
