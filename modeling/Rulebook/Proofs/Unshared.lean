import Rulebook.Proofs.Compatibility
import Rulebook.Proofs.Forgetting

/-!
# Evaluating without sharing

The unshared evaluator runs the embedded rule at every rule token, whether its
rule object was run before or not, and logs these runs.  It uses no cache and
gives every rule object the number zero, so what it logs does not depend on how an
item shares its rule objects (`Rule.interpret_unshared_forget`).
-/

namespace Rulebook

/-- The event without the number of its rule object. -/
def Event.forget : Event → Event
  | .started label _ => .started label 0
  | .resolved label _ value => .resolved label 0 value
  | .reused label _ value => .reused label 0 value
  | event => event

/-- An event that is not about a rule token has nothing to forget. -/
theorem Event.forget_eq_self {event : Event} (silent : event.object? = none) :
    event.forget = event := by
  cases event with
  | started | resolved | reused => cases silent
  | _ => rfl

/-- Without the numbers, the written form of an event is the same. -/
theorem Event.entry?_forget (event : Event) :
    event.forget.entry? = event.entry? := by
  cases event <;> rfl

section Mapped

variable {m : Type → Type} [Monad m] (interpreter : Interpreter m)
  (function : Token → Token)

/-- The interpreter that resolves another token in the place of each token. -/
def Interpreter.through : Interpreter m :=
  ⟨fun token => interpreter.resolve (function token), interpreter.log⟩

mutual

theorem Condition.interpret_mapTokens : (condition : Condition) →
    (condition.mapTokens function).interpret interpreter =
      condition.interpret (interpreter.through function)
  | .test expression => by
      rw [Condition.mapTokens, Condition.interpret, Condition.interpret]
      rfl
  | .nested conditional => by
      rw [Condition.mapTokens, Condition.interpret, Condition.interpret,
        conditional.interpret_mapTokens]

theorem Conditional.interpret_mapTokens : (conditional : Conditional) →
    (conditional.mapTokens function).interpret interpreter =
      conditional.interpret (interpreter.through function)
  | ⟨junction, conditions⟩ => by
      rw [Conditional.mapTokens, Conditional.interpret, Conditional.interpret,
        Condition.interpretAll_mapTokens junction conditions]

theorem Condition.interpretAll_mapTokens (junction : Junction) :
    (conditions : List Condition) →
      Condition.interpretAll interpreter junction
          (Condition.mapTokensAll function conditions) =
        Condition.interpretAll (interpreter.through function) junction conditions
  | [] => by
      rw [Condition.mapTokensAll, Condition.interpretAll,
        Condition.interpretAll]
  | condition :: conditions => by
      rw [Condition.mapTokensAll, Condition.interpretAll,
        Condition.interpretAll, condition.interpret_mapTokens,
        Condition.interpretAll_mapTokens junction conditions]

end

variable [LawfulMonad m]

/-- Interpreters that agree on the own tokens of a rule agree on the rule. -/
theorem Rule.interpret_congr {first second : Interpreter m} {rule : Rule}
    (log : first.log = second.log)
    (tokens : ∀ token ∈ rule.tokens,
      first.resolve token = second.resolve token) :
    rule.interpret first = rule.interpret second := by
  have compatible : Compatible first second fun _ one other => one = other := by
    refine ⟨fun _ => rfl, ?_, fun _ _ => by rw [log]⟩
    rintro _ _ _ _ one other rfl same
    exact bind_congr same
  exact compatible.rule rule fun leaf member =>
    compatible.test (tokens _ (List.mem_map_of_mem member))

/-- A search through rows with other tokens finds the row in the same place. -/
theorem Interpreter.search_mapTokens {Row : Type} {change : Row → Row}
    {antecedent : Row → Conditional} {matched : Nat → Row → Event}
    (tested : ∀ row,
      antecedent (change row) = (antecedent row).mapTokens function)
    (logged : ∀ place row, matched place (change row) = matched place row)
    (place : Nat) (rows : List Row) :
    interpreter.search antecedent matched place (rows.map change) =
      Option.map (Prod.map id change) <$>
        (interpreter.through function).search antecedent matched place rows := by
  induction rows generalizing place with
  | nil => simp [search]
  | cons row rows ih =>
      rw [List.map_cons, search, search, tested, logged,
        Conditional.interpret_mapTokens, ih, map_bind]
      refine bind_congr fun applies => ?_
      cases applies <;> simp [through]

theorem DecisionSet.interpret_mapTokens (set : DecisionSet) :
    (set.mapTokens function).interpret interpreter =
      Option.map (Prod.map id (DecisionRow.mapTokens function)) <$>
        set.interpret (interpreter.through function) := by
  rw [interpret, interpret, DecisionRow.interpretAll_eq_search,
    DecisionRow.interpretAll_eq_search]
  refine interpreter.search_mapTokens function ?_ ?_ 0 set.rows
  · exact fun _ => rfl
  · exact fun _ _ => rfl

theorem ScoreSet.interpret_mapTokens (set : ScoreSet) :
    (set.mapTokens function).interpret interpreter =
      Option.map (Prod.map id (ScoreRow.mapTokens function)) <$>
        set.interpret (interpreter.through function) := by
  rw [interpret, interpret, ScoreRow.interpretAll_eq_search,
    ScoreRow.interpretAll_eq_search]
  refine interpreter.search_mapTokens function ?_ ?_ 0 set.rows
  · exact fun _ => rfl
  · exact fun _ _ => rfl

theorem ScoreSet.interpretAll_mapTokens (total : Float)
    (sets : List ScoreSet) :
    ScoreSet.interpretAll interpreter total (sets.map (mapTokens function)) =
      ScoreSet.interpretAll (interpreter.through function) total sets := by
  induction sets generalizing total with
  | nil => rfl
  | cons set sets ih =>
      rw [List.map_cons, interpretAll, interpretAll, set.interpret_mapTokens,
        bind_map_left]
      refine bind_congr fun matched => ?_
      rw [ih]
      cases matched <;> rfl

/-- Forgetting the numbers in a rule is reading it with other tokens. -/
theorem Rule.interpret_forget (rule : Rule) :
    rule.forget.interpret interpreter =
      rule.interpret (interpreter.through Token.forget) := by
  cases rule with
  | decision rule =>
      rw [forget_decision, interpret, interpret, DecisionRule.interpret,
        DecisionRule.interpret, DecisionRule.forget, DecisionSet.forget,
        DecisionSet.interpret_mapTokens, bind_map_left]
      congr 2
      funext matched
      cases matched <;> rfl
  | score rule =>
      rw [forget_score, interpret, interpret, ScoreRule.interpret,
        ScoreRule.interpret, ScoreRule.forget]
      simp only [List.length_map]
      rw [← ScoreSet.interpretAll_mapTokens]
      rfl

end Mapped

/-- What a token resolves to if no output is ever reused.  The embedded rule is
interpreted with the tokens inside it, which are smaller. -/
noncomputable def Token.unshared (facts : Facts) (token : Token) :
    Walk (Option Resolved) :=
  match token with
  | .fact name kind => Walk.ofExcept (facts.resolve name kind)
  | .rule label object kind embedded => do
      Walk.log (.started label 0)
      let outcome ← embedded.interpret
        ⟨fun inner =>
          if _smaller :
              sizeOf inner < sizeOf (Token.rule label object kind embedded) then
            inner.unshared facts
          else
            return none, Walk.log⟩
      Walk.log (.resolved label 0 outcome.resolved?)
      return outcome.resolved?
termination_by sizeOf token

section Unshared

variable (facts : Facts)

/-- The evaluator without sharing, as an interpreter. -/
noncomputable def Interpreter.unshared : Interpreter Walk :=
  ⟨Token.unshared facts, Walk.log⟩

/-- All tokens of an embedded rule are smaller than the token around it. -/
theorem Token.unshared_rule (label : String) (object : Nat) (kind : ValueKind)
    (embedded : Rule) :
    (Token.rule label object kind embedded).unshared facts = do
      Walk.log (.started label 0)
      let outcome ← embedded.interpret (.unshared facts)
      Walk.log (.resolved label 0 outcome.resolved?)
      return outcome.resolved? := by
  rw [unshared]
  refine bind_congr fun _ => congrArg (· >>= _) ?_
  refine Rule.interpret_congr rfl fun token member => dif_pos ?_
  obtain ⟨leaf, among, rfl⟩ := List.mem_map.mp member
  have inside := embedded.sizeOf_leaf among
  cases leaf
  simp only [Expression.mk.sizeOf_spec, Token.rule.sizeOf_spec] at inside ⊢
  omega

section Steps

variable {facts} {rule : Rule} {cache : Cache} (label : String) (object : Nat)
  (kind : ValueKind)

theorem Token.unshared_of_ok {outcome : Outcome}
    (ended : (rule.interpret (.unshared facts) cache).result = .ok outcome) :
    (Token.rule label object kind rule).unshared facts cache =
      ⟨.ok outcome.resolved?, (rule.interpret (.unshared facts) cache).cache,
        .started label 0 :: ((rule.interpret (.unshared facts) cache).events ++
          [.resolved label 0 outcome.resolved?])⟩ := by
  rw [unshared_rule, Walk.log_bind, Walk.bind_apply_of_ok _ ended,
    Walk.log_bind]
  rfl

theorem Token.unshared_of_error {defect : EvalError}
    (failed : (rule.interpret (.unshared facts) cache).result =
      .error defect) :
    (Token.rule label object kind rule).unshared facts cache =
      ⟨.error defect, (rule.interpret (.unshared facts) cache).cache,
        .started label 0 ::
          (rule.interpret (.unshared facts) cache).events⟩ := by
  rw [unshared_rule, Walk.log_bind, Walk.bind_apply_of_error _ failed]

end Steps

/-- What the unshared evaluator makes of a rule does not depend on numbers. -/
theorem Rule.interpret_unshared_forget (rule : Rule) :
    rule.forget.interpret (.unshared facts) =
      rule.interpret (.unshared facts) := by
  induction rule using Rule.embedding_induction with
  | step rule ih =>
      rw [interpret_forget]
      refine interpret_congr rfl fun token member => ?_
      change token.forget.unshared facts = token.unshared facts
      cases token with
      | fact name kind => rw [Token.forget_fact]
      | rule label object kind embedded =>
          rw [Token.forget_rule, Token.unshared_rule, Token.unshared_rule,
            ih _ _ _ _ member]

/-- Rules that differ in sharing only are the same to the unshared evaluator. -/
theorem Rule.interpret_unshared_eq {first second : Rule}
    (same : first.forget = second.forget) :
    first.interpret (.unshared facts) = second.interpret (.unshared facts) := by
  rw [← first.interpret_unshared_forget, same, interpret_unshared_forget]

end Unshared

end Rulebook
