import Rulebook.Proofs.Rebuilding
import Rulebook.Proofs.Unfolding

/-!
# Separate rule objects

Tokens are apart when no rule object is embedded twice below them, at whatever
depth: the numbers were given out one after the other, those of an embedded rule
before the number of its own rule object.  What is read from a stored form is
apart, as reading makes a new rule object for every token
(`Rule.decode_separates`).  Where tokens are apart, no output is ever reused
(`Rule.trace_of_apart`).
-/

namespace Rulebook

namespace Token

/-- While numbers were given out from the first to the next one, each rule token
among some tokens, and below them, got a rule object of its own. -/
inductive Apart : Nat → List Token → Nat → Prop
  | nil (first : Nat) : Apart first [] first
  | fact {first next : Nat} {tokens : List Token} (name : String)
      (kind : ValueKind) :
      Apart first tokens next → Apart first (.fact name kind :: tokens) next
  | rule {first object next : Nat} {tokens : List Token} {embedded : Rule}
      (label : String) (kind : ValueKind) :
      Apart first embedded.tokens object →
        Apart (object + 1) tokens next →
          Apart first (.rule label object kind embedded :: tokens) next

namespace Apart

variable {first middle next : Nat} {tokens more : List Token}

theorem le (apart : Apart first tokens next) : first ≤ next := by
  induction apart with
  | nil => exact Nat.le_refl _
  | fact _ _ _ ih => exact ih
  | rule _ _ _ _ inside later => omega

theorem append (one : Apart first tokens middle)
    (other : Apart middle more next) : Apart first (tokens ++ more) next := by
  induction one with
  | nil => exact other
  | fact name kind _ ih => exact .fact name kind (ih other)
  | rule label kind inside _ _ ih => exact .rule label kind inside (ih other)

theorem split (apart : Apart first (tokens ++ more) next) :
    ∃ middle, Apart first tokens middle ∧ Apart middle more next := by
  induction tokens generalizing first with
  | nil => exact ⟨first, .nil first, apart⟩
  | cons token tokens ih =>
      cases apart with
      | fact name kind later =>
          obtain ⟨middle, one, other⟩ := ih later
          exact ⟨middle, .fact name kind one, other⟩
      | rule label kind inside later =>
          obtain ⟨middle, one, other⟩ := ih later
          exact ⟨middle, .rule label kind inside one, other⟩

end Apart

end Token

/-! ## Nothing is reused -/

/-- On tokens that are apart, a walk that knows none of their rule objects reuses
nothing, and it learns of no other rule objects. -/
def Walk.Fresh (tokens : List Token) {α : Type} (walk : Walk α) : Prop :=
  ∀ first next cache, Token.Apart first tokens next →
    (∀ object, first ≤ object → object < next →
      cache.find? object = none) →
    (∀ event ∈ (walk cache).events, event.isReused = false) ∧
      ∀ object, object < first ∨ next ≤ object →
        (walk cache).cache.find? object = cache.find? object

namespace Walk.Fresh

variable {α β : Type} {facts : Facts}

theorem ofExcept (tokens : List Token) (result : Except EvalError α) :
    Fresh tokens (Walk.ofExcept result) := by
  intro first next cache apart unknown
  exact ⟨fun event member => absurd member List.not_mem_nil,
    fun _ _ => rfl⟩

theorem pure (tokens : List Token) (value : α) :
    Fresh tokens (Pure.pure value : Walk α) :=
  ofExcept tokens (.ok value)

theorem log {event : Event} (silent : event.object? = none) :
    Fresh [] (Walk.log event) := by
  intro first next cache apart unknown
  refine ⟨List.forall_mem_singleton.mpr ?_, fun _ _ => rfl⟩
  cases event with
  | reused => cases silent
  | _ => rfl

theorem bind {before after : List Token} {walk : Walk α} {rest : α → Walk β}
    (one : Fresh before walk) (other : ∀ value, Fresh after (rest value)) :
    Fresh (before ++ after) (walk >>= rest) := by
  intro first next cache apart unknown
  obtain ⟨middle, early, late⟩ := apart.split
  have lower := early.le
  have upper := late.le
  obtain ⟨once, kept⟩ := one first middle cache early
    fun object above below => unknown object above (by omega)
  cases ended : (walk cache).result with
  | error defect =>
      rw [bind_apply_of_error rest ended]
      exact ⟨once, fun object away => kept object (by omega)⟩
  | ok value =>
      obtain ⟨onceNext, keptNext⟩ :=
        other value middle next (walk cache).cache late <| by
          intro object above below
          rw [kept object (by omega)]
          exact unknown object (by omega) below
      rw [bind_apply_of_ok rest ended]
      refine ⟨List.forall_mem_append.mpr ⟨once, onceNext⟩, ?_⟩
      intro object away
      exact (keptNext object (by omega)).trans (kept object (by omega))

theorem graded :
    Graded fun tokens α (walk : Walk α) (_ : Walk α) => Fresh tokens walk where
  pure := pure
  bind := bind

theorem fact (name : String) (kind : ValueKind) :
    Fresh [.fact name kind] ((Token.fact name kind).walk facts) := by
  rw [Token.walk]
  exact ofExcept [.fact name kind] (facts.resolve name kind)

/-- The rule object of a token is not known before, so its rule is run. -/
theorem embed {label : String} {object : Nat} {kind : ValueKind} {rule : Rule}
    (inside : Fresh rule.tokens (rule.walk facts)) :
    Fresh [.rule label object kind rule]
      ((Token.rule label object kind rule).walk facts) := by
  intro first next cache apart unknown
  cases apart with
  | rule _ _ inner later =>
      have lower := inner.le
      have upper := later.le
      obtain ⟨once, kept⟩ := inside first object cache inner
        fun number above below => unknown number above (by omega)
      rcases Token.walk_rule_cases label object kind rule cache with
        ⟨output, found, _⟩ |
          ⟨_, ⟨defect, failed, step⟩ | ⟨outcome, ended, step⟩⟩
      · rw [unknown object lower (by omega)] at found
        cases found
      · rw [step]
        refine ⟨List.forall_mem_cons.mpr ⟨rfl, once⟩, ?_⟩
        exact fun number away => kept number (by omega)
      · rw [step]
        refine ⟨List.forall_mem_cons.mpr ⟨rfl, ?_⟩, ?_⟩
        · exact List.forall_mem_append.mpr
            ⟨once, List.forall_mem_singleton.mpr rfl⟩
        · intro number away
          have other : number ≠ object := by omega
          rw [Cache.find?_add, if_neg other]
          exact kept number (by omega)

theorem rule (rule : Rule) : Fresh rule.tokens (rule.walk facts) := by
  induction rule using Rule.embedding_induction with
  | step rule ih =>
      have token (token : Token) (own : token ∈ rule.tokens) :
          Fresh [token] (token.walk facts) := by
        cases token with
        | fact name kind => exact fact name kind
        | rule label object kind embedded => exact embed (ih _ _ _ _ own)
      rw [rule.walk_eq_interpret]
      refine @Graded.rule _ _ _ _ (.cached facts) (.cached facts) _ graded
        (fun _ silent => log silent) _ _ rule fun leaf member => ?_
      exact @Graded.test _ _ _ _ (.cached facts) (.cached facts) _ graded leaf
        (token _ (List.mem_map_of_mem member))

end Walk.Fresh

/-- A rule whose tokens are apart reuses nothing. -/
theorem Rule.trace_of_apart {rule : Rule} {first next : Nat}
    (apart : Token.Apart first rule.tokens next) (facts : Facts) :
    ∀ event ∈ rule.trace facts, event.isReused = false :=
  (Walk.Fresh.rule rule first next .empty apart fun _ _ _ => rfl).1

/-! ## What is read is apart -/

/-- The tokens of the items that a computation comes to are apart. -/
def Numbering.Separates {ε α : Type} (computation : Numbering ε α)
    (items : α → List Item) : Prop :=
  ∀ first, computation.Yields first fun value next =>
    Token.Apart first ((items value).flatMap Item.tokens) next

namespace Numbering.Separates

variable {ε α β : Type} {computation : Numbering ε α} {items : α → List Item}
  {wholes : β → List Item}

/-- A computation with the same tokens in the end. -/
theorem finish {rest : α → Numbering ε β}
    (separates : computation.Separates items)
    (same : ∀ value first, (rest value).Yields first fun whole next =>
      next = first ∧ (wholes whole).flatMap Item.tokens =
        (items value).flatMap Item.tokens) :
    (computation >>= rest).Separates wholes := by
  intro first
  refine (separates first).bind fun value middle apart => ?_
  refine (same value middle).mono ?_
  rintro whole _ ⟨rfl, tokens⟩
  rw [tokens]
  exact apart

theorem check {δ : Type} {wrap : δ → ε} {result : α → Except δ β}
    (separates : computation.Separates items)
    (same : ∀ value whole, result value = .ok whole →
      (wholes whole).flatMap Item.tokens = (items value).flatMap Item.tokens) :
    (computation >>= fun value => check wrap (result value)).Separates wholes :=
  separates.finish fun value _ => .check fun whole accepted =>
    ⟨rfl, same value whole accepted⟩

theorem map {function : α → β} (separates : computation.Separates items)
    (same : ∀ value, (wholes (function value)).flatMap Item.tokens =
      (items value).flatMap Item.tokens) :
    (function <$> computation).Separates wholes := by
  rw [map_eq_pure_bind]
  exact separates.finish fun value _ => .pure ⟨rfl, same value⟩

theorem nil {item : α → Item} :
    (Pure.pure [] : Numbering ε (List α)).Separates
      fun values => values.map item :=
  fun first => .pure (.nil first)

/-- Items that are read one after the other are apart. -/
theorem cons {item : α → Item} {rest : Numbering ε (List α)}
    (head : computation.Separates fun value => [item value])
    (tail : rest.Separates fun values => values.map item) :
    (do return (← computation) :: (← rest)).Separates
      fun values => values.map item := by
  intro first
  refine (head first).bind fun value middle one => ?_
  refine (tail middle).bind fun values next others => .pure ?_
  rw [List.flatMap_singleton] at one
  exact one.append others

end Numbering.Separates

/-- A rule that was read gets the next number, which no rule object inside it
has. -/
theorem Token.own_separates {embedded : Rule} {first middle : Nat}
    (apart : Token.Apart first embedded.tokens middle) (label : String) :
    (Token.own label embedded).Yields middle fun token next =>
      Token.Apart first [token] next := by
  have given : (Numbering.fresh : Decoder Nat).Yields middle fun number next =>
      number = middle ∧ next = middle + 1 :=
    .fresh ⟨rfl, rfl⟩
  refine given.bind ?_
  rintro _ _ ⟨rfl, rfl⟩
  refine .check fun token accepted => ?_
  obtain ⟨kind, _, _, rfl⟩ := Token.embed_eq_ok_iff.mp accepted
  exact .rule label kind apart (.nil _)

mutual

theorem Token.decode_separates : (token : Token) →
    (Token.decode token.encode).Separates fun copy => [.token copy]
  | .fact name kind => by
      intro first
      cases kind <;>
        rw [Token.encode, ValueKind.tag, Document.tagged, Token.decode] <;>
        exact .map (.check fun text _ => .fact text _ (.nil first))
  | .rule label object kind embedded => by
      rw [Token.decode_rule]
      intro first
      refine (embedded.decode_separates first).bind fun copy middle apart => ?_
      rw [List.flatMap_singleton] at apart
      exact Token.own_separates apart label

theorem Expression.decode_separates : (expression : Expression) →
    (Expression.decode expression.encode).Separates
      fun copy => [.expression copy]
  | ⟨token, operator⟩ => by
      rw [Expression.decode_mk]
      intro first
      refine .afterCheck fun read _ => ?_
      refine token.decode_separates.check ?_ first
      intro copy whole accepted
      obtain ⟨_, _, rfl⟩ := Expression.make_eq_ok_iff.mp accepted
      rfl

theorem Condition.decode_separates : (condition : Condition) →
    (Condition.decode condition.encode).Separates fun copy => [.condition copy]
  | .test expression => by
      rw [Condition.encode, Document.tagged, Condition.decode]
      refine expression.decode_separates.map fun copy => ?_
      simp [Item.tokens_test]
  | .nested conditional => by
      rw [Condition.encode, Document.tagged, Condition.decode]
      refine conditional.decode_separates.map fun copy => ?_
      simp [Item.tokens_nested]

theorem Conditional.decode_separates : (conditional : Conditional) →
    (Conditional.decode conditional.encode).Separates
      fun copy => [.conditional copy]
  | ⟨junction, conditions⟩ => by
      rw [Conditional.decode_mk]
      refine (Condition.decodeAll_separates conditions).map fun copies => ?_
      rw [List.flatMap_singleton, Item.tokens_conditional]

theorem Condition.decodeAll_separates : (conditions : List Condition) →
    (Condition.decodeAll (Condition.encodeAll conditions)).Separates
      fun copies => copies.map .condition
  | [] => by
      rw [Condition.encodeAll, Condition.decodeAll]
      exact .nil
  | condition :: conditions => by
      rw [Condition.encodeAll, Condition.decodeAll]
      exact condition.decode_separates.cons
        (Condition.decodeAll_separates conditions)

theorem DecisionRow.decode_separates : (row : DecisionRow) →
    (DecisionRow.decode row.encode).Separates fun copy => [.decisionRow copy]
  | ⟨antecedent, consequent⟩ => by
      rw [DecisionRow.decode_mk]
      exact antecedent.decode_separates.finish fun copy _ =>
        .afterCheck fun read _ => .pure ⟨rfl, rfl⟩

theorem DecisionRow.decodeAll_separates : (rows : List DecisionRow) →
    (DecisionRow.decodeAll (DecisionRow.encodeAll rows)).Separates
      fun copies => copies.map .decisionRow
  | [] => by
      rw [DecisionRow.encodeAll, DecisionRow.decodeAll]
      exact .nil
  | row :: rows => by
      rw [DecisionRow.encodeAll, DecisionRow.decodeAll]
      exact row.decode_separates.cons (DecisionRow.decodeAll_separates rows)

theorem ScoreRow.decode_separates : (row : ScoreRow) →
    (ScoreRow.decode row.encode).Separates fun copy => [.scoreRow copy]
  | ⟨antecedent, score⟩ => by
      rw [ScoreRow.decode_mk]
      refine antecedent.decode_separates.finish fun copy _ =>
        .afterCheck fun read _ => .check ?_
      intro row accepted
      obtain ⟨_, rfl⟩ := ScoreRow.make_eq_ok_iff.mp accepted
      exact ⟨rfl, rfl⟩

theorem ScoreRow.decodeAll_separates : (rows : List ScoreRow) →
    (ScoreRow.decodeAll (ScoreRow.encodeAll rows)).Separates
      fun copies => copies.map .scoreRow
  | [] => by
      rw [ScoreRow.encodeAll, ScoreRow.decodeAll]
      exact .nil
  | row :: rows => by
      rw [ScoreRow.encodeAll, ScoreRow.decodeAll]
      exact row.decode_separates.cons (ScoreRow.decodeAll_separates rows)

theorem DecisionSet.decode_separates : (set : DecisionSet) →
    (DecisionSet.decode set.encode).Separates fun copy => [.decisionSet copy]
  | ⟨rows⟩ => by
      rw [DecisionSet.decode_mk]
      refine (DecisionRow.decodeAll_separates rows).map fun copies => ?_
      rw [List.flatMap_singleton, Item.tokens_decisionSet]

theorem ScoreSet.decode_separates : (set : ScoreSet) →
    (ScoreSet.decode set.encode).Separates fun copy => [.scoreSet copy]
  | ⟨rows, weight⟩ => by
      rw [ScoreSet.decode_mk]
      refine (ScoreRow.decodeAll_separates rows).finish fun copies _ =>
        .afterCheck fun read _ => .check ?_
      intro set accepted
      obtain ⟨_, rfl⟩ := ScoreSet.make_eq_ok_iff.mp accepted
      exact ⟨rfl, by rw [List.flatMap_singleton, Item.tokens_scoreSet]⟩

theorem ScoreSet.decodeAll_separates : (sets : List ScoreSet) →
    (ScoreSet.decodeAll (ScoreSet.encodeAll sets)).Separates
      fun copies => copies.map .scoreSet
  | [] => by
      rw [ScoreSet.encodeAll, ScoreSet.decodeAll]
      exact .nil
  | set :: sets => by
      rw [ScoreSet.encodeAll, ScoreSet.decodeAll]
      exact set.decode_separates.cons (ScoreSet.decodeAll_separates sets)

theorem Rule.decode_separates : (rule : Rule) →
    (Rule.decode rule.encode).Separates fun copy => [.rule copy]
  | .decision ⟨ruleset, profile⟩ => by
      rw [Rule.decode_decision]
      refine ruleset.decode_separates.finish fun copy _ => .map (.check ?_)
      intro rule accepted
      obtain ⟨_, _, rfl⟩ := DecisionRule.make_eq_ok_iff.mp accepted
      exact ⟨rfl, rfl⟩
  | .score ⟨rulesets, profile⟩ => by
      rw [Rule.decode_score]
      refine (ScoreSet.decodeAll_separates rulesets).finish
        fun copies _ => .map (.check ?_)
      intro rule accepted
      obtain ⟨_, _, rfl⟩ := ScoreRule.make_eq_ok accepted
      exact ⟨rfl, by rw [List.flatMap_singleton, Item.tokens_score]⟩

end

end Rulebook
