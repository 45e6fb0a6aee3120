import Rulebook.Draft.Build
import Rulebook.Proofs.Sameness
import Rulebook.Proofs.WellFormed

/-!
# Reading is building

Any rule, well formed or not, can be written down as a draft that tells how to put
it together with the checked constructors.  Reading the stored form of the rule
goes through the same checks in the same order.  So both are accepted, and come to
rules that differ in the numbers of rule objects only, or both are rejected for
the same defect.  This is `Decoder.Follows`, a relation between a reader and a
builder.  It also says that a reader fails on what holds an infinite number or
NaN, which has no stored form.
-/

namespace Rulebook

def Operator.draft : Operator → OperatorDraft
  | .numeric (.between floor ceiling) => .between floor ceiling
  | operator => .plain operator

mutual

/-- How to put a token together, whose kind is left to the constructor. -/
def Token.draft : Token → TokenDraft
  | .fact name kind => .fact name kind
  | .rule label _ _ embedded => .rule label embedded.draft

def Expression.draft : Expression → ExpressionDraft
  | ⟨token, operator⟩ => .pair token.draft operator.draft

def Condition.draft : Condition → ConditionDraft
  | .test expression => .test expression.draft
  | .nested conditional => .nested conditional.draft

def Conditional.draft : Conditional → ConditionalDraft
  | ⟨junction, conditions⟩ => ⟨junction, Condition.draftAll conditions⟩

def Condition.draftAll : List Condition → List ConditionDraft
  | [] => []
  | condition :: conditions => condition.draft :: Condition.draftAll conditions

def DecisionRow.draft : DecisionRow → DecisionRowDraft
  | ⟨antecedent, consequent⟩ => ⟨antecedent.draft, consequent⟩

def DecisionRow.draftAll : List DecisionRow → List DecisionRowDraft
  | [] => []
  | row :: rows => row.draft :: DecisionRow.draftAll rows

def ScoreRow.draft : ScoreRow → ScoreRowDraft
  | ⟨antecedent, score⟩ => ⟨antecedent.draft, score⟩

def ScoreRow.draftAll : List ScoreRow → List ScoreRowDraft
  | [] => []
  | row :: rows => row.draft :: ScoreRow.draftAll rows

def DecisionSet.draft : DecisionSet → DecisionSetDraft
  | ⟨rows⟩ => ⟨DecisionRow.draftAll rows⟩

def ScoreSet.draft : ScoreSet → ScoreSetDraft
  | ⟨rows, weight⟩ => ⟨ScoreRow.draftAll rows, weight, false⟩

def ScoreSet.draftAll : List ScoreSet → List ScoreSetDraft
  | [] => []
  | set :: sets => set.draft :: ScoreSet.draftAll sets

/-- How to put a rule together, whose profile is left to the constructor. -/
def Rule.draft : Rule → RuleDraft
  | .decision ⟨ruleset, _⟩ => .decision ruleset.draft
  | .score ⟨rulesets, _⟩ => .score (ScoreSet.draftAll rulesets)

end

/-- What is read as a copy of an item holds the same, and only numbers of rule
objects tell it from what is built as a copy. -/
structure Copies {α β : Type} (forget : α → β) (contents : α → List Content)
    (item read built : α) : Prop where
  alike : forget read = forget built
  holds : contents read = contents item

/-- Reading and building come to related items, or they meet the same defect. -/
inductive Agree {α β : Type} (related : α → β → Prop) :
    Except DecodeError (α × Nat) → Except BuildError (β × Nat) → Prop
  | accepted {read : α} {built : β} {next later : Nat} :
      related read built → Agree related (.ok (read, next)) (.ok (built, later))
  | rejected (defect : ConfigError) :
      Agree related (.error (.config defect)) (.error (.config defect))

/-- Two results that become the same when something is forgotten are one defect,
or items that become the same. -/
theorem eq_of_map_eq {ε α β : Type} {forget : α → β} {one other : Except ε α}
    (same : forget <$> one = forget <$> other) :
    (∃ defect, one = .error defect ∧ other = .error defect) ∨
      ∃ first second, one = .ok first ∧ other = .ok second ∧
        forget first = forget second := by
  cases one with
  | error defect =>
      cases other with
      | error otherDefect =>
          cases same
          exact .inl ⟨defect, rfl, rfl⟩
      | ok second => cases same
  | ok first =>
      cases other with
      | error defect => cases same
      | ok second => exact .inr ⟨first, second, rfl, rfl, Except.ok.inj same⟩

theorem Agree.check {α β : Type} {forget : α → β} {contents : α → List Content}
    {item : α} {one other : Except ConfigError α}
    (same : forget <$> one = forget <$> other)
    (holds : ∀ read, one = .ok read → contents read = contents item)
    (first second : Nat) :
    Agree (Copies forget contents item) ((Decoder.check one).run first)
      ((Builder.check other).run second) := by
  rcases eq_of_map_eq same with ⟨defect, rfl, rfl⟩ | ⟨read, built, rfl, rfl, alike⟩
  · exact .rejected defect
  · exact .accepted ⟨alike, holds read rfl⟩

/-- The reader of something with the given contents follows the builder of the
same, from whatever numbers they start.  It fails if a number in the contents is
infinite or NaN. -/
structure Decoder.Follows {α β : Type} (contents : List Content)
    (reader : Decoder α) (builder : Builder β) (related : α → β → Prop) :
    Prop where
  finite : Finite contents → ∀ first second,
    Agree related (reader.run first) (builder.run second)
  infinite : ¬ Finite contents → ∀ first,
    ∃ defect, reader.run first = .error defect

namespace Decoder.Follows

variable {α β γ δ : Type} {contents others : List Content}
  {reader : Decoder α} {builder : Builder β} {related : α → β → Prop}

theorem agree (agree : ∀ first second,
    Agree related (reader.run first) (builder.run second)) :
    Follows [] reader builder related :=
  ⟨fun _ => agree, fun absurd => (absurd finite_nil).elim⟩

theorem pure {read : α} {built : β} (holds : related read built) :
    Follows [] (Pure.pure read) (Pure.pure built) related :=
  agree fun _ _ => .accepted holds

theorem check {forget : α → γ} {holds : α → List Content} {item : α}
    {one other : Except ConfigError α}
    (same : forget <$> one = forget <$> other)
    (kept : ∀ read, one = .ok read → holds read = holds item) :
    Follows [] (Decoder.check one) (Builder.check other)
      (Copies forget holds item) :=
  agree (.check same kept)

/-- The reader fails as soon as its first part fails. -/
theorem bind {relatedNext : γ → δ → Prop} {readNext : α → Decoder γ}
    {buildNext : β → Builder δ}
    (follows : Follows contents reader builder related)
    (next : ∀ read built, related read built →
      Follows others (readNext read) (buildNext built) relatedNext) :
    Follows (contents ++ others) (reader >>= readNext) (builder >>= buildNext)
      relatedNext := by
  constructor
  · intro finite first second
    obtain ⟨here, later⟩ := finite_append.mp finite
    have agreed := follows.finite here first second
    rw [StateT.run_bind, StateT.run_bind]
    generalize reader.run first = read, builder.run second = built at agreed ⊢
    cases agreed with
    | accepted holds => exact (next _ _ holds).finite later _ _
    | rejected defect => exact .rejected defect
  · intro infinite first
    rw [StateT.run_bind]
    by_cases here : Finite contents
    · have later : ¬ Finite others := fun later =>
        infinite (finite_append.mpr ⟨here, later⟩)
      have agreed := follows.finite here first 0
      generalize reader.run first = read, builder.run 0 = built at agreed ⊢
      cases agreed with
      | accepted holds => exact (next _ _ holds).infinite later _
      | rejected defect => exact ⟨_, rfl⟩
    · obtain ⟨defect, failed⟩ := follows.infinite here first
      rw [failed]
      exact ⟨defect, rfl⟩

theorem map {relatedNext : γ → δ → Prop} {function : α → γ} {other : β → δ}
    (follows : Follows contents reader builder related)
    (next : ∀ read built, related read built →
      relatedNext (function read) (other built)) :
    Follows contents (function <$> reader) (other <$> builder) relatedNext := by
  rw [map_eq_pure_bind, map_eq_pure_bind, ← List.append_nil contents]
  exact follows.bind fun read built holds => pure (next read built holds)

/-- What is read without making rule objects stands in a draft as it is. -/
theorem plain {content : Content} {item : γ} {result : Except DecodeError γ}
    {readNext : γ → Decoder α}
    (reads : ReadsBack content.numbers result item)
    (next : Follows contents (readNext item) builder related) :
    Follows (content :: contents) (Decoder.plain result >>= readNext) builder
      related := by
  constructor
  · intro finite first second
    obtain ⟨here, later⟩ := finite_cons.mp finite
    rw [reads.finite here]
    exact next.finite later first second
  · intro infinite first
    by_cases here : AllFinite content.numbers
    · rw [reads.finite here]
      exact next.infinite
        (fun later => infinite (finite_cons.mpr ⟨here, later⟩)) first
    · obtain ⟨defect, failed⟩ := reads.infinite here
      rw [failed]
      exact ⟨defect, rfl⟩

/-- Items that are read and built one after the other make copied lists. -/
theorem cons {forget : α → γ} {holds : α → List Content}
    {holdsAll : List α → List Content} {item : α} {items : List α}
    {reader : Decoder α} {builder : Builder α}
    {readers : Decoder (List α)} {builders : Builder (List α)}
    (split : ∀ head tail, holdsAll (head :: tail) = holds head ++ holdsAll tail)
    (first : Follows contents reader builder (Copies forget holds item))
    (rest : Follows others readers builders
      (Copies (List.map forget) holdsAll items)) :
    Follows (contents ++ others) (do return (← reader) :: (← readers))
      (do return (← builder) :: (← builders))
      (Copies (List.map forget) holdsAll (item :: items)) := by
  refine first.bind fun read built copy => ?_
  rw [← List.append_nil others]
  refine rest.bind fun readRest builtRest copies => pure ⟨?_, ?_⟩
  · rw [List.map_cons, List.map_cons, copy.alike, copies.alike]
  · rw [split, split, copy.holds, copies.holds]

end Decoder.Follows

/-! ## What readers do with stored items -/

theorem Token.decode_rule (label : String) (object : Nat) (kind : ValueKind)
    (embedded : Rule) :
    Token.decode (Token.rule label object kind embedded).encode =
      Rule.decode embedded.encode >>= Token.own label := by
  rw [Token.encode, Document.tagged, Token.decode, Token.decodeMembers,
    Token.decodeMembers, Token.decodeMembers]
  simp only [bind_assoc, pure_bind]
  rfl

theorem Expression.decode_mk (token : Token) (operator : Operator) :
    Expression.decode (Expression.mk token operator).encode = (do
      let operator ← Decoder.plain (Operator.decode operator.encode)
      let token ← Token.decode token.encode
      Decoder.check (Expression.make token operator)) := by
  rw [Expression.encode, Expression.decode, Expression.decodeMembers,
    Expression.decodeMembers, Expression.decodeMembers]
  simp only [bind_assoc, pure_bind]
  rfl

theorem Conditional.decode_mk (junction : Junction)
    (conditions : List Condition) :
    Conditional.decode (Conditional.mk junction conditions).encode =
      Conditional.mk junction <$>
        Condition.decodeAll (Condition.encodeAll conditions) := by
  cases junction <;>
    rw [Conditional.encode, Junction.tag, Document.tagged, Conditional.decode]

theorem DecisionRow.decode_mk (antecedent : Conditional)
    (consequent : Decision) :
    DecisionRow.decode (DecisionRow.mk antecedent consequent).encode = (do
      let antecedent ← Conditional.decode antecedent.encode
      let consequent ← Decoder.plain (Decision.decode consequent.encode)
      return ⟨antecedent, consequent⟩) := by
  rw [DecisionRow.encode, DecisionRow.decode, DecisionRow.decodeMembers,
    DecisionRow.decodeMembers, DecisionRow.decodeMembers]
  simp only [bind_assoc, pure_bind]
  rfl

theorem ScoreRow.decode_mk (antecedent : Conditional) (score : Float) :
    ScoreRow.decode (ScoreRow.mk antecedent score).encode = (do
      let antecedent ← Conditional.decode antecedent.encode
      let score ← Decoder.plain (Document.ofFloat score).toFloat
      Decoder.check (ScoreRow.make antecedent score)) := by
  rw [ScoreRow.encode, ScoreRow.decode, ScoreRow.decodeMembers,
    ScoreRow.decodeMembers, ScoreRow.decodeMembers]
  simp only [bind_assoc, pure_bind]
  rfl

theorem DecisionSet.decode_mk (rows : List DecisionRow) :
    DecisionSet.decode (DecisionSet.mk rows).encode =
      DecisionSet.mk <$> DecisionRow.decodeAll (DecisionRow.encodeAll rows) := by
  rw [DecisionSet.encode, DecisionSet.decode, DecisionSet.decodeMembers]

theorem ScoreSet.decode_mk (rows : List ScoreRow) (weight : Float) :
    ScoreSet.decode (ScoreSet.mk rows weight).encode = (do
      let rows ← ScoreRow.decodeAll (ScoreRow.encodeAll rows)
      let weight ← Decoder.plain (Document.ofFloat weight).toFloat
      Decoder.check (ScoreSet.make rows weight)) := by
  rw [ScoreSet.encode, ScoreSet.decode, ScoreSet.decodeMembers,
    ScoreSet.decodeMembers, ScoreSet.decodeMembers]
  simp only [bind_assoc, pure_bind]
  rfl

theorem Rule.decode_decision (ruleset : DecisionSet) (profile : Profile) :
    Rule.decode (Rule.decision ⟨ruleset, profile⟩).encode = (do
      let ruleset ← DecisionSet.decode ruleset.encode
      Rule.decision <$> Decoder.check (DecisionRule.make ruleset)) := by
  rw [Rule.encode, Document.tagged, Rule.decode, DecisionRule.encode,
    DecisionRule.decode, DecisionRule.decodeMembers]
  simp only [map_bind]

theorem Rule.decode_score (rulesets : List ScoreSet) (profile : Profile) :
    Rule.decode (Rule.score ⟨rulesets, profile⟩).encode = (do
      let rulesets ← ScoreSet.decodeAll (ScoreSet.encodeAll rulesets)
      Rule.score <$> Decoder.check (ScoreRule.make rulesets)) := by
  rw [Rule.encode, Document.tagged, Rule.decode, ScoreRule.encode,
    ScoreRule.decode, ScoreRule.decodeMembers]
  simp only [map_bind]

/-! ## Reading follows building -/

/-- A range that is checked when it is written down is not rejected for another
defect than the test around it would be. -/
theorem Operator.build_draft_bind (operator : Operator) (token : Token) :
    (operator.draft.build >>= fun operator =>
        Builder.check (Expression.make token operator)) =
      Builder.check (Expression.make token operator) := by
  cases operator with
  | string test => rfl
  | boolean test => rfl
  | numeric test =>
      cases test with
      | between floor ceiling =>
          have checked : Operator.between floor ceiling =
              (do (numeric (.between floor ceiling)).validate
                  return numeric (.between floor ceiling)) :=
            rfl
          rw [draft, OperatorDraft.build, checked]
          cases valid : (numeric (.between floor ceiling)).validate with
          | ok _ => rfl
          | error defect =>
              rw [Expression.make, valid]
              rfl
      | _ => rfl

/-- A rule that is read follows a rule object that is built. -/
theorem Decoder.Follows.numbered {α : Type} {forget : α → α}
    {one other : Except ConfigError α} {finish : α → Rule} {rule : Rule}
    (commutes : ∀ item, (finish item).forget = finish (forget item))
    (same : forget <$> one = forget <$> other)
    (kept : ∀ read, one = .ok read → (finish read).contents = rule.contents) :
    Follows [] (finish <$> Decoder.check one)
      (Builder.check other >>= fun item => (finish item).number)
      fun read object => Copies Rule.forget Rule.contents rule read
        object.rule := by
  refine agree fun first second => ?_
  rcases eq_of_map_eq same with ⟨defect, rfl, rfl⟩ | ⟨read, built, rfl, rfl, alike⟩
  · exact .rejected defect
  · refine .accepted ⟨?_, kept read rfl⟩
    change (finish read).forget = (finish built).forget
    rw [commutes, commutes, alike]

theorem Token.own_follows {label : String} {item : Token} {rule read : Rule}
    {object : RuleObject}
    (copy : Copies Rule.forget Rule.contents rule read object.rule)
    (whole : item.contents = rule.contents) :
    Decoder.Follows [] (Token.own label read)
      (Builder.check (Token.embed label object))
      (Copies Token.forget Token.contents item) := by
  refine .agree fun first second => ?_
  refine .check ?_ ?_ (first + 1) second
  · rw [Token.embed_forget, Token.embed_forget, copy.alike]
  · intro token accepted
    obtain ⟨kind, _, _, rfl⟩ := Token.embed_eq_ok_iff.mp accepted
    rw [Token.contents, copy.holds, whole]

section Items

variable (definitions : Definitions)

mutual

theorem Token.decode_follows : (token : Token) →
    Decoder.Follows token.contents (Token.decode token.encode)
      (token.draft.build definitions)
      (Copies Token.forget Token.contents token)
  | .fact name kind => by
      rw [Token.contents, Token.draft, TokenDraft.build]
      cases kind <;>
        rw [Token.encode, ValueKind.tag, Document.tagged, Token.decode] <;>
        exact .pure ⟨rfl, rfl⟩
  | .rule label object kind embedded => by
      rw [Token.contents, Token.decode_rule, Token.draft, TokenDraft.build,
        ← List.append_nil embedded.contents]
      refine embedded.decode_follows.bind fun read object copy => ?_
      exact Token.own_follows copy (by rw [Token.contents])

theorem Expression.decode_follows : (expression : Expression) →
    Decoder.Follows expression.contents (Expression.decode expression.encode)
      (expression.draft.build definitions)
      (Copies Expression.forget Expression.contents expression)
  | ⟨token, operator⟩ => by
      rw [Expression.contents, Expression.decode_mk, Expression.draft,
        ExpressionDraft.build]
      simp only [Operator.build_draft_bind]
      refine .plain operator.readsBack ?_
      rw [← List.append_nil token.contents]
      refine token.decode_follows.bind fun read built copy => .check ?_ ?_
      · rw [Expression.make_forget, Expression.make_forget, copy.alike]
      · intro tested accepted
        obtain ⟨_, _, rfl⟩ := Expression.make_eq_ok_iff.mp accepted
        rw [Expression.contents, Expression.contents, copy.holds]

theorem Condition.decode_follows : (condition : Condition) →
    Decoder.Follows condition.contents (Condition.decode condition.encode)
      (condition.draft.build definitions)
      (Copies Condition.forget Condition.contents condition)
  | .test expression => by
      rw [Condition.contents, Condition.encode, Document.tagged,
        Condition.decode, Condition.draft, ConditionDraft.build]
      refine expression.decode_follows.map fun read built copy => ⟨?_, ?_⟩
      · rw [Condition.forget_test, Condition.forget_test, copy.alike]
      · rw [Condition.contents, Condition.contents, copy.holds]
  | .nested conditional => by
      rw [Condition.contents, Condition.encode, Document.tagged,
        Condition.decode, Condition.draft, ConditionDraft.build]
      refine conditional.decode_follows.map fun read built copy => ⟨?_, ?_⟩
      · rw [Condition.forget_nested, Condition.forget_nested, copy.alike]
      · rw [Condition.contents, Condition.contents, copy.holds]

theorem Conditional.decode_follows : (conditional : Conditional) →
    Decoder.Follows conditional.contents
      (Conditional.decode conditional.encode)
      (conditional.draft.build definitions)
      (Copies Conditional.forget Conditional.contents conditional)
  | ⟨junction, conditions⟩ => by
      rw [Conditional.contents, Conditional.decode_mk, Conditional.draft,
        ConditionalDraft.build]
      refine (Condition.decodeAll_follows conditions).map
        fun read built copy => ⟨?_, ?_⟩
      · rw [Conditional.forget_mk, Conditional.forget_mk, copy.alike]
      · rw [Conditional.contents, Conditional.contents, copy.holds]

theorem Condition.decodeAll_follows : (conditions : List Condition) →
    Decoder.Follows (Condition.contentsAll conditions)
      (Condition.decodeAll (Condition.encodeAll conditions))
      (ConditionDraft.buildAll definitions (Condition.draftAll conditions))
      (Copies (List.map Condition.forget) Condition.contentsAll conditions)
  | [] => by
      rw [Condition.contentsAll, Condition.encodeAll, Condition.decodeAll,
        Condition.draftAll, ConditionDraft.buildAll]
      exact .pure ⟨rfl, rfl⟩
  | condition :: conditions => by
      rw [Condition.contentsAll, Condition.encodeAll, Condition.decodeAll,
        Condition.draftAll, ConditionDraft.buildAll]
      exact .cons (fun _ _ => by rw [Condition.contentsAll])
        condition.decode_follows (Condition.decodeAll_follows conditions)

theorem DecisionRow.decode_follows : (row : DecisionRow) →
    Decoder.Follows row.contents (DecisionRow.decode row.encode)
      (row.draft.build definitions)
      (Copies DecisionRow.forget DecisionRow.contents row)
  | ⟨antecedent, consequent⟩ => by
      rw [DecisionRow.contents, DecisionRow.decode_mk, DecisionRow.draft,
        DecisionRowDraft.build, map_eq_pure_bind]
      refine antecedent.decode_follows.bind fun read built copy => ?_
      refine .plain consequent.readsBack (.pure ⟨?_, ?_⟩)
      · rw [DecisionRow.forget_mk, DecisionRow.forget_mk, copy.alike]
      · rw [DecisionRow.contents, DecisionRow.contents, copy.holds]

theorem DecisionRow.decodeAll_follows : (rows : List DecisionRow) →
    Decoder.Follows (DecisionRow.contentsAll rows)
      (DecisionRow.decodeAll (DecisionRow.encodeAll rows))
      (DecisionRowDraft.buildAll definitions (DecisionRow.draftAll rows))
      (Copies (List.map DecisionRow.forget) DecisionRow.contentsAll rows)
  | [] => by
      rw [DecisionRow.contentsAll, DecisionRow.encodeAll, DecisionRow.decodeAll,
        DecisionRow.draftAll, DecisionRowDraft.buildAll]
      exact .pure ⟨rfl, rfl⟩
  | row :: rows => by
      rw [DecisionRow.contentsAll, DecisionRow.encodeAll, DecisionRow.decodeAll,
        DecisionRow.draftAll, DecisionRowDraft.buildAll]
      exact .cons (fun _ _ => by rw [DecisionRow.contentsAll])
        row.decode_follows (DecisionRow.decodeAll_follows rows)

theorem ScoreRow.decode_follows : (row : ScoreRow) →
    Decoder.Follows row.contents (ScoreRow.decode row.encode)
      (row.draft.build definitions)
      (Copies ScoreRow.forget ScoreRow.contents row)
  | ⟨antecedent, score⟩ => by
      rw [ScoreRow.contents, ScoreRow.decode_mk, ScoreRow.draft,
        ScoreRowDraft.build]
      refine antecedent.decode_follows.bind fun read built copy => ?_
      refine .plain (.float score) (.check ?_ ?_)
      · rw [ScoreRow.make_forget, ScoreRow.make_forget, copy.alike]
      · intro row accepted
        obtain ⟨_, rfl⟩ := ScoreRow.make_eq_ok_iff.mp accepted
        rw [ScoreRow.contents, ScoreRow.contents, copy.holds]

theorem ScoreRow.decodeAll_follows : (rows : List ScoreRow) →
    Decoder.Follows (ScoreRow.contentsAll rows)
      (ScoreRow.decodeAll (ScoreRow.encodeAll rows))
      (ScoreRowDraft.buildAll definitions (ScoreRow.draftAll rows))
      (Copies (List.map ScoreRow.forget) ScoreRow.contentsAll rows)
  | [] => by
      rw [ScoreRow.contentsAll, ScoreRow.encodeAll, ScoreRow.decodeAll,
        ScoreRow.draftAll, ScoreRowDraft.buildAll]
      exact .pure ⟨rfl, rfl⟩
  | row :: rows => by
      rw [ScoreRow.contentsAll, ScoreRow.encodeAll, ScoreRow.decodeAll,
        ScoreRow.draftAll, ScoreRowDraft.buildAll]
      exact .cons (fun _ _ => by rw [ScoreRow.contentsAll])
        row.decode_follows (ScoreRow.decodeAll_follows rows)

theorem DecisionSet.decode_follows : (set : DecisionSet) →
    Decoder.Follows set.contents (DecisionSet.decode set.encode)
      (set.draft.build definitions)
      (Copies DecisionSet.forget DecisionSet.contents set)
  | ⟨rows⟩ => by
      rw [DecisionSet.contents, DecisionSet.decode_mk, DecisionSet.draft,
        DecisionSetDraft.build]
      refine (DecisionRow.decodeAll_follows rows).map
        fun read built copy => ⟨?_, ?_⟩
      · rw [DecisionSet.forget_mk, DecisionSet.forget_mk, copy.alike]
      · rw [DecisionSet.contents, DecisionSet.contents, copy.holds]

theorem ScoreSet.decode_follows : (set : ScoreSet) →
    Decoder.Follows set.contents (ScoreSet.decode set.encode)
      (set.draft.build definitions)
      (Copies ScoreSet.forget ScoreSet.contents set)
  | ⟨rows, weight⟩ => by
      rw [ScoreSet.contents, ScoreSet.decode_mk, ScoreSet.draft,
        ScoreSetDraft.build]
      refine (ScoreRow.decodeAll_follows rows).bind fun read built copy => ?_
      refine .plain (.float weight) (.check ?_ ?_)
      · rw [ScoreSet.make_forget, ScoreSet.make_forget, copy.alike]
      · intro set accepted
        obtain ⟨_, rfl⟩ := ScoreSet.make_eq_ok_iff.mp accepted
        rw [ScoreSet.contents, ScoreSet.contents, copy.holds]

theorem ScoreSet.decodeAll_follows : (sets : List ScoreSet) →
    Decoder.Follows (ScoreSet.contentsAll sets)
      (ScoreSet.decodeAll (ScoreSet.encodeAll sets))
      (ScoreSetDraft.buildAll definitions (ScoreSet.draftAll sets))
      (Copies (List.map ScoreSet.forget) ScoreSet.contentsAll sets)
  | [] => by
      rw [ScoreSet.contentsAll, ScoreSet.encodeAll, ScoreSet.decodeAll,
        ScoreSet.draftAll, ScoreSetDraft.buildAll]
      exact .pure ⟨rfl, rfl⟩
  | set :: sets => by
      rw [ScoreSet.contentsAll, ScoreSet.encodeAll, ScoreSet.decodeAll,
        ScoreSet.draftAll, ScoreSetDraft.buildAll]
      exact .cons (fun _ _ => by rw [ScoreSet.contentsAll])
        set.decode_follows (ScoreSet.decodeAll_follows sets)

theorem Rule.decode_follows : (rule : Rule) →
    Decoder.Follows rule.contents (Rule.decode rule.encode)
      (rule.draft.build definitions)
      fun read object => Copies Rule.forget Rule.contents rule read object.rule
  | .decision ⟨ruleset, profile⟩ => by
      rw [Rule.decode_decision, Rule.draft, RuleDraft.build]
      have parts : (Rule.decision ⟨ruleset, profile⟩).contents =
          ruleset.contents ++ [] := by
        rw [Rule.contents, List.append_nil]
      rw [parts]
      refine ruleset.decode_follows.bind fun read built copy => ?_
      refine .numbered Rule.forget_decision ?_ ?_
      · rw [DecisionRule.make_forget, DecisionRule.make_forget, copy.alike]
      · intro rule accepted
        obtain ⟨_, _, rfl⟩ := DecisionRule.make_eq_ok_iff.mp accepted
        rw [Rule.contents, Rule.contents, copy.holds]
  | .score ⟨rulesets, profile⟩ => by
      rw [Rule.decode_score, Rule.draft, RuleDraft.build]
      have parts : (Rule.score ⟨rulesets, profile⟩).contents =
          ScoreSet.contentsAll rulesets ++ [] := by
        rw [Rule.contents, List.append_nil]
      rw [parts]
      refine (ScoreSet.decodeAll_follows rulesets).bind
        fun read built copy => ?_
      refine .numbered Rule.forget_score ?_ ?_
      · rw [ScoreRule.make_forget, ScoreRule.make_forget, copy.alike]
      · intro rule accepted
        obtain ⟨_, _, rfl⟩ := ScoreRule.make_eq_ok accepted
        rw [Rule.contents, Rule.contents, copy.holds]

end

end Items

section Sample

theorem Rule.rated_finite (object : Nat) : Finite (rated object).contents := by
  have numbers : ∀ number ∈ [(0 : Float), 80, 0.6, 5, 1, 10, 0.4],
      number.isFinite = true := by
    decide
  exact numbers

end Sample

/-- Reading the stored form of a description agrees with building the description
by the checked constructors.  The description may be defective in every way that a
check can find.  The kinds of its rule tokens, the numbers of its rule objects and
its profiles play no part. -/
theorem Rule.decode_agrees_with_build (description : Rule)
    (finite : Finite description.contents) (definitions : Definitions)
    (first second : Nat) :
    Agree
      (fun read object => (read == object.rule) = true ∧
        read.requirements = object.rule.requirements ∧
        read.chainDepth = object.rule.chainDepth)
      ((Rule.decode description.encode).run first)
      ((description.draft.build definitions).run second) := by
  have agreed := (description.decode_follows definitions).finite finite first second
  generalize (Rule.decode description.encode).run first = read,
    (description.draft.build definitions).run second = built at agreed ⊢
  cases agreed with
  | rejected defect => exact .rejected defect
  | @accepted read object _ _ copy =>
      have finiteRead : Finite read.contents := by
        rw [copy.holds]
        exact finite
      refine .accepted
        ⟨read.beq_of_forget_eq object.rule finiteRead copy.alike, ?_, ?_⟩
      · rw [← read.requirements_forget, copy.alike, requirements_forget]
      · rw [← read.chainDepth_forget, copy.alike, chainDepth_forget]

/-- A rating is read as it is built.  A description with too great a weight is
rejected by both, for its weight. -/
theorem Rule.decode_agrees_with_build_rated :
    Agree
        (fun read object => (read == object.rule) = true ∧
          read.requirements = object.rule.requirements ∧
          read.chainDepth = object.rule.chainDepth)
        ((Rule.decode (rated 0).encode).run 0)
        (((rated 0).draft.build .empty).run 7) ∧
      (Rule.decode (Rule.score ⟨[⟨[], 2⟩], .initial⟩).encode).run 0 =
        .error (.config (.weightOutOfRange 2)) := by
  refine ⟨decode_agrees_with_build (rated 0) (rated_finite 0) .empty 0 7, ?_⟩
  have heavy : (2 : Float).isFinite = true := rfl
  have law := decode_agrees_with_build (.score ⟨[⟨[], 2⟩], .initial⟩)
    (List.forall_mem_singleton.mpr heavy) .empty 0 0
  have rejected : ((Rule.score ⟨[⟨[], 2⟩], .initial⟩).draft.build .empty).run 0 =
      .error (.config (.weightOutOfRange 2)) :=
    rfl
  rw [rejected] at law
  generalize (Rule.decode _).run 0 = read at law ⊢
  cases law
  rfl

end Rulebook
