import Rulebook.Proofs.Call
import Rulebook.Proofs.Collected
import Rulebook.Proofs.Comparison
import Rulebook.Proofs.Reading

/-!
# Only required facts matter

Two values look alike to a rule if both are missing, if they are the same text or
the same truth value, or if they stand for equal numbers.  No test tells them
apart, so a rule runs alike against facts that look alike where the rule
requires them: same results, same reports and same events.  A fact that is not
required never matters, whatever labels the rule tokens have.
-/

namespace Rulebook

/-- Two values that no test tells apart.  Either of them may be absent. -/
inductive Value.LookAlike : Option Value → Option Value → Prop
  | missing {first second : Option Value} :
      Value.ofOption first = .null → Value.ofOption second = .null →
        LookAlike first second
  | boolean (truth : Bool) :
      LookAlike (some (.boolean truth)) (some (.boolean truth))
  | text (content : String) :
      LookAlike (some (.text content)) (some (.text content))
  | number {first second : Value} {one other : Float} :
      first.number? = some one → second.number? = some other →
        one = other ∨ one == other →
          LookAlike (some first) (some second)

namespace Value

theorem LookAlike.refl (value : Option Value) : LookAlike value value := by
  cases value with
  | none => exact .missing rfl rfl
  | some value =>
      cases value with
      | int number => exact .number rfl rfl (.inl rfl)
      | float number => exact .number rfl rfl (.inl rfl)
      | boolean truth => exact .boolean truth
      | text content => exact .text content
      | null => exact .missing rfl rfl

/-- A value that stands for a number is numeric and resolves to the number. -/
theorem of_number? {value : Value} {number : Float}
    (stands : value.number? = some number) :
    value.kind = some .numeric ∧ value.resolved? = some (.number number) := by
  cases value <;> cases stands <;> exact ⟨rfl, rfl⟩

end Value

theorem Operator.accepts_number_congr {one other : Float}
    (same : one = other ∨ one == other) (operator : Operator) :
    operator.accepts (some (.number one)) =
      operator.accepts (some (.number other)) := by
  cases operator with
  | numeric test =>
      rcases same with rfl | equal
      · rfl
      · exact test.accepts_congr equal
  | string test => rfl
  | boolean test => rfl

namespace Facts

theorem resolve_of_null {facts : Facts} {name : String}
    (missing : Value.ofOption (facts.get? name) = .null) (kind : ValueKind) :
    facts.resolve name kind = .ok none := by
  unfold resolve
  cases value : facts.get? name with
  | none => rfl
  | some found =>
      rw [value] at missing
      change found = .null at missing
      rw [missing]
      rfl

theorem resolve_of_number {facts : Facts} {name : String} {value : Value}
    {number : Float} (found : facts.get? name = some value)
    (stands : value.number? = some number) (kind : ValueKind) :
    facts.resolve name kind =
      if .numeric = kind then .ok (some (.number number))
      else .error (.typeMismatch name kind .numeric) := by
  obtain ⟨numeric, resolved⟩ := Value.of_number? stands
  simp only [resolve, found, numeric, resolved]

/-- Where facts look alike, they resolve alike as far as operators can tell. -/
theorem accepts_resolve {first second : Facts} {name : String}
    (alike : Value.LookAlike (first.get? name) (second.get? name))
    (kind : ValueKind) (operator : Operator) :
    operator.accepts <$> first.resolve name kind =
      operator.accepts <$> second.resolve name kind := by
  generalize one : first.get? name = value, other : second.get? name = found
    at alike
  cases alike with
  | missing absent otherAbsent =>
      rw [← one] at absent
      rw [← other] at otherAbsent
      rw [resolve_of_null absent, resolve_of_null otherAbsent]
  | boolean truth => simp only [resolve, one, other]
  | text content => simp only [resolve, one, other]
  | number stands otherStands same =>
      rw [resolve_of_number one stands, resolve_of_number other otherStands]
      split
      · exact congrArg Except.ok (operator.accepts_number_congr same)
      · rfl

end Facts

section Walking

variable {first second : Facts}

/-- Equal walks are kept by everything that does not look at the facts. -/
theorem Compatible.equal :
    Compatible (.cached first) (.cached second)
      fun _ walk other => walk = other where
  pure := fun _ => rfl
  bind := by
    rintro _ _ walk _ next otherNext rfl same
    exact congrArg (walk >>= ·) (funext same)
  log := fun _ _ => rfl

theorem Expression.interpret_fact_congr {name : String} {kind : ValueKind}
    {operator : Operator}
    (alike : Value.LookAlike (first.get? name) (second.get? name)) :
    (Expression.mk (.fact name kind) operator).interpret (.cached first) =
      (Expression.mk (.fact name kind) operator).interpret (.cached second) := by
  have interpreted (facts : Facts) :
      (Expression.mk (.fact name kind) operator).interpret (.cached facts) =
        operator.accepts <$> Walk.ofExcept (facts.resolve name kind) := by
    rw [map_eq_pure_bind]
    rfl
  funext cache
  rw [interpreted, interpreted, Walk.map_apply, Walk.map_apply,
    Walk.ofExcept_apply, Walk.ofExcept_apply, Facts.accepts_resolve alike]

/-- Where two sets of facts look alike at all fact tokens below a rule, the tests
of the rule have the same walks. -/
theorem Rule.relatedAt_leaves (rule : Rule)
    (alike : ∀ name kind, (Token.fact name kind).OccursIn rule.tokens →
      Value.LookAlike (first.get? name) (second.get? name)) :
    (Interpreter.cached first).RelatedAt (.cached second)
      (fun _ walk other => walk = other) rule.leaves := by
  induction rule using Rule.embedding_induction with
  | step rule ih =>
      rintro ⟨token, operator⟩ member
      have own : token ∈ rule.tokens := List.mem_map_of_mem member
      cases token with
      | fact name kind =>
          exact Expression.interpret_fact_congr
            (alike name kind (.among own))
      | rule label object kind embedded =>
          have inner := ih label object kind embedded own
            fun name kind occurs => alike name kind (.within own occurs)
          have walks := Compatible.equal.rule embedded inner
          rw [← embedded.walk_eq_interpret, ← embedded.walk_eq_interpret]
            at walks
          refine Compatible.equal.test ?_
          change Token.walk first _ = Token.walk second _
          rw [Token.walk, Token.walk, walks]

end Walking

namespace Rule

/-- A rule runs alike against two sets of facts. -/
structure RunsAlike (rule : Rule) (first second : Facts) : Prop where
  execute : rule.execute first = rule.execute second
  executeDetailed : rule.executeDetailed first = rule.executeDetailed second
  trace : rule.trace first = rule.trace second
  traceDetailed : rule.traceDetailed first = rule.traceDetailed second

theorem runsAlike_of_lookAlike {rule : Rule} {first second : Facts}
    (constructed : Item.Constructed (.rule rule))
    (alike : ∀ name ∈ rule.requirements.names,
      Value.LookAlike (first.get? name) (second.get? name)) :
    rule.RunsAlike first second := by
  have tests := rule.relatedAt_leaves fun name kind occurs =>
    alike name (NameMap.mem_names_of_get?
      ((requirements_get?_eq_some_iff constructed).mpr occurs))
  have plain := Compatible.equal.rule rule tests
  have detailed := Compatible.equal.detailed rule tests
  rw [← rule.walk_eq_interpret, ← rule.walk_eq_interpret] at plain
  rw [← rule.walkDetailed_eq_interpretDetailed,
    ← rule.walkDetailed_eq_interpretDetailed] at detailed
  constructor
  · rw [execute, execute, plain]
  · rw [executeDetailed, executeDetailed, detailed]
  · rw [trace, trace, plain]
  · rw [traceDetailed, traceDetailed, detailed]

/-- An obtainable rule runs alike against facts that look alike wherever it
requires a fact.  So a fact that it does not require may be added or replaced. -/
theorem only_requirements_matter {rule : Rule}
    (obtainable : Item.Obtainable (.rule rule)) :
    (∀ first second : Facts,
      (∀ name ∈ rule.requirements.names,
        Value.LookAlike (first.get? name) (second.get? name)) →
          rule.RunsAlike first second) ∧
      ∀ (facts : Facts) (name : String) (value : Value),
        name ∉ rule.requirements.names →
          rule.RunsAlike facts (facts.insert name value) := by
  have constructed := obtainable.constructed
  constructor
  · exact fun first second => runsAlike_of_lookAlike constructed
  · intro facts name value free
    refine runsAlike_of_lookAlike constructed fun required member => ?_
    have other : required ≠ name := by
      rintro rfl
      exact free member
    rw [NameMap.get?_insert, if_neg other]
    exact .refl _

/-- A whole number and the double of the same value look alike, and a fact that
has the name of a label does not matter. -/
theorem only_requirements_matter_twice :
    (twice 0 0).RunsAlike (.ofList [("level", .int 3)])
        (.ofList [("level", .float 3)]) ∧
      (twice 0 0).RunsAlike (.ofList [("level", .int 3)])
        (NameMap.insert (.ofList [("level", .int 3)]) "left" (.text "up")) := by
  have law := only_requirements_matter
    (Item.Obtainable.of_constructed (twice_constructed 0 0))
  refine ⟨law.1 _ _ ?_, law.2 _ "left" _ (by decide)⟩
  intro name member
  have only : name ∈ ["level"] := member
  rw [List.mem_singleton.mp only]
  exact .number rfl rfl (.inl rfl)

end Rule

end Rulebook
