import Rulebook.Proofs.Foresight
import Rulebook.Proofs.Parts

/-!
# A mismatch is reported on first contact

A rule asks for a fact with one kind only, so the first token that meets a fact of
another kind reports it.  Until then the value of the fact played no part: whatever
value takes its place, an evaluation begins with the same events.

`Walk.Precedes` is the relation between the two walks.  They go alike until the
first one stops, and what the second one logs after that is added to what both have
logged.
-/

namespace Rulebook

/-- From every cache two walks go alike, or the first one fails and the second one
logs the same events and perhaps more. -/
def Walk.Precedes (α : Type) (walk other : Walk α) : Prop :=
  ∀ cache, walk cache = other cache ∨
    (∃ defect, (walk cache).result = .error defect) ∧
      (walk cache).events <+: (other cache).events

namespace Walk.Precedes

variable {α β : Type} {first second : Facts}

theorem refl (walk : Walk α) : Precedes α walk walk :=
  fun _ => .inl rfl

/-- Once the first walk has failed, the second one may go on. -/
theorem bind {walk other : Walk α} {next otherNext : α → Walk β}
    (before : Precedes α walk other)
    (after : ∀ value, Precedes β (next value) (otherNext value)) :
    Precedes β (walk >>= next) (other >>= otherNext) := by
  intro cache
  rcases before cache with same | ⟨⟨defect, failed⟩, events⟩
  · cases result : (walk cache).result with
    | error defect =>
        rw [bind_apply_of_error next result,
          bind_apply_of_error otherNext (same ▸ result), same]
        exact .inl rfl
    | ok value =>
        have otherResult : (other cache).result = .ok value := same ▸ result
        rw [bind_apply_of_ok next result,
          bind_apply_of_ok otherNext otherResult, same]
        rcases after value (other cache).cache with
          alike | ⟨⟨defect, failed⟩, events⟩
        · rw [alike]
          exact .inl rfl
        · exact .inr ⟨⟨defect, failed⟩,
            (List.prefix_append_right_inj _).mpr events⟩
  · rw [bind_apply_of_error next failed]
    refine .inr ⟨⟨defect, rfl⟩, ?_⟩
    cases result : (other cache).result with
    | error later =>
        rw [bind_apply_of_error otherNext result]
        exact events
    | ok value =>
        rw [bind_apply_of_ok otherNext result]
        exact events.trans (List.prefix_append _ _)

theorem compatible :
    Compatible (.cached first) (.cached second) Precedes where
  pure := fun value => refl (Pure.pure value)
  bind := bind
  log := fun event _ => refl (Walk.log event)

/-- A fact is resolved alike, or the first facts give it a value of another
kind. -/
theorem fact {name : String} {kind : ValueKind}
    (meets : first.resolve name kind = second.resolve name kind ∨
      ∃ defect, first.resolve name kind = .error defect) :
    Precedes _ ((Token.fact name kind).walk first)
      ((Token.fact name kind).walk second) := by
  intro cache
  rw [Token.walk, Token.walk, ofExcept_apply, ofExcept_apply]
  rcases meets with same | failed
  · rw [same]
    exact .inl rfl
  · exact .inr ⟨failed, List.nil_prefix⟩

/-- Both walks find the same in the cache and else run the embedded rule. -/
theorem embed (label : String) (object : Nat) (kind : ValueKind) {rule : Rule}
    (inner : Precedes _ (rule.walk first) (rule.walk second)) :
    Precedes _ ((Token.rule label object kind rule).walk first)
      ((Token.rule label object kind rule).walk second) := by
  rw [Token.walk, Token.walk]
  refine (refl _).bind fun found => ?_
  cases found with
  | some value => exact refl _
  | none => exact (refl _).bind fun _ => inner.bind fun outcome => refl _

theorem rule {rule : Rule}
    (meets : ∀ name kind, (Token.fact name kind).OccursIn rule.tokens →
      first.resolve name kind = second.resolve name kind ∨
        ∃ defect, first.resolve name kind = .error defect) :
    Precedes _ (rule.walk first) (rule.walk second) := by
  rw [rule.walk_eq_interpret, rule.walk_eq_interpret]
  refine compatible.rule rule (compatible.tests ?_ ?_)
  · intro name kind occurs
    exact fact (meets name kind occurs)
  · intro label object kind embedded _ inner
    rw [← embedded.walk_eq_interpret, ← embedded.walk_eq_interpret] at inner
    exact embed label object kind inner

/-- A walk that precedes another one leaves a part of its events. -/
theorem events_prefix {walk other : Walk α} (precedes : Precedes α walk other) :
    walk.start.events <+: other.start.events := by
  rcases precedes .empty with same | ⟨_, events⟩
  · have equal : walk.start = other.start := same
    exact equal ▸ List.prefix_rfl
  · exact events

end Walk.Precedes

section Sample

/-- A rule that lets a dog through where the level is positive.  The rule object
that tells the sign of the level has the given number. -/
def Rule.gated (object : Nat) : Rule :=
  .decision
    ⟨⟨[⟨⟨.all,
      [.test ⟨.rule "sign" object .boolean .positive, .boolean (.is true)⟩,
        .test (.onFact "pet" (.string (.equals "dog")))]⟩,
      .text "GO"⟩]⟩,
      ⟨.ofList [("level", .numeric), ("pet", .string)], 2⟩⟩

theorem Rule.gated_constructed (object : Nat) :
    Item.Constructed (.rule (.gated object)) := by
  refine Item.constructed_decision_iff.mpr ⟨?_, rfl⟩
  change ∀ leaf ∈ [_, _], _
  rw [List.forall_mem_cons, List.forall_mem_singleton]
  exact ⟨Expression.sign_constructed "sign" object, .onFact "pet" rfl⟩

/-- Only the rule that tells the sign is embedded, in whatever order the tokens
stand. -/
theorem Rule.gate_coherent {object : Nat} {tokens : List Token}
    (among : tokens ⊆ [.rule "sign" object .boolean .positive,
      .fact "pet" .string]) : Token.Coherent tokens := by
  refine .of_only positive fun label number kind rule occurs => ?_
  have inside := occurs.mono among
  have one : positive.tokens = [.fact "level" .numeric] := rfl
  rw [Token.occursIn_cons, Token.occursIn_rule, Token.occursIn_fact, one,
    Token.occursIn_fact] at inside
  rcases inside with (⟨⟨⟩⟩ | ⟨⟨⟩⟩) | ⟨⟨⟩⟩
  rfl

end Sample

namespace Rule

variable {rule : Rule} {facts : Facts} {fact : String}
  {expected found : ValueKind}

/-- A rule that fails was foreseen to fail. -/
theorem foreseen_of_execute (constructed : Item.Constructed (.rule rule))
    (failed : rule.execute facts =
      .error (.typeMismatch fact expected found)) :
    rule.Foreseen facts fact expected found := by
  obtain ⟨name, kind, occurs, token⟩ :=
    Walk.FailsAtFact.rule rule .empty _ failed
  exact foreseen_of_resolve constructed occurs token

/-- The facts that a rule failed on differ from other facts in the reported fact
only.  Then the rule begins on the other facts with all the events of the failed
execution, the written ones included.  If the fact is missing there or has the
kind that was expected, no error is about it. -/
theorem mismatch_on_first_contact {first second : Facts}
    (obtainable : Item.Obtainable (.rule rule))
    (failed : rule.execute first = .error (.typeMismatch fact expected found))
    (alike : ∀ name, name ≠ fact → second.get? name = first.get? name) :
    rule.trace first <+: rule.trace second ∧
      (rule.trace first).filterMap Event.entry? <+:
        (rule.trace second).filterMap Event.entry? ∧
      (second.kind? fact = none ∨ second.kind? fact = some expected →
        ∀ other wanted present,
          rule.execute second = .error (.typeMismatch other wanted present) →
            other ≠ fact) := by
  have constructed := obtainable.constructed
  have foreseen := foreseen_of_execute constructed failed
  have events : rule.trace first <+: rule.trace second := by
    refine Walk.Precedes.events_prefix (.rule fun name kind occurs => ?_)
    by_cases same : name = fact
    · subst same
      -- The fact has one kind in the whole tree, so this token is the first
      -- to fail.
      have asked := (requirements_get?_eq_some_iff constructed).mpr occurs
      have kinds : expected = kind :=
        Option.some.inj (foreseen.required.symm.trans asked)
      subst kinds
      obtain ⟨value, there, _, other⟩ := foreseen.present
      exact .inr ⟨_, Facts.resolve_eq_error_iff.mpr
        ⟨found, Facts.kind?_eq_some_iff.mpr ⟨value, there, other⟩,
          foreseen.differs, rfl⟩⟩
    · refine .inl ?_
      rw [Facts.resolve, Facts.resolve, alike name same]
  refine ⟨events, events.filterMap _, ?_⟩
  rintro fits _ wanted present again rfl
  have second := foreseen_of_execute constructed again
  obtain ⟨value, there, _, other⟩ := second.present
  have kind := Facts.kind?_eq_some_iff.mpr ⟨value, there, other⟩
  rcases fits with missing | fitting
  · rw [missing] at kind
    cases kind
  · have same : expected = wanted :=
      Option.some.inj (foreseen.required.symm.trans second.required)
    rw [fitting, same] at kind
    exact second.differs (Option.some.inj kind).symm

/-- A truth value in the place of the pet is reported after the sign of the level
was found out.  With a dog in its place, the rule goes on from there. -/
theorem mismatch_on_first_contact_gated :
    let first : Facts := .ofList [("level", .int 3), ("pet", .boolean true)]
    let second : Facts := first.insert "pet" (.text "dog")
    (gated 0).execute first = .error (.typeMismatch "pet" .string .boolean) ∧
      (gated 0).trace first =
        [.started "sign" 0, .decisionRowMatched 0 (.boolean true),
          .decisionExecuted (some (.boolean true)),
          .resolved "sign" 0 (some (.boolean true))] ∧
      (gated 0).trace first <+: (gated 0).trace second ∧
      (gated 0).execute second = .ok (.decision (.text "GO")) := by
  intro first second
  have failed : (gated 0).execute first =
      .error (.typeMismatch "pet" .string .boolean) := by
    with_unfolding_all rfl
  have alike (name : String) (other : name ≠ "pet") :
      second.get? name = first.get? name := by
    rw [NameMap.get?_insert, if_neg other]
  have law := mismatch_on_first_contact
    (.of_constructed (gated_constructed 0)) failed alike
  exact ⟨failed, by with_unfolding_all rfl, law.1,
    by with_unfolding_all rfl⟩

end Rule

end Rulebook
