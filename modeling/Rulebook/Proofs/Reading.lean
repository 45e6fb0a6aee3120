import Rulebook.Proofs.Accepted
import Rulebook.Proofs.Numbering
import Rulebook.Proofs.Obtainable

/-!
# What is read is constructed

Reading a document goes through the constructors, so whatever is read could have
been made by the constructors alone, and everything that can be obtained can be
constructed (`Item.Obtainable.constructed`).  Each rule token that is read gets
a rule object of its own, so what is read is coherent.

Both facts are `Item.Built`, which every reader keeps up: `Numbering.Builds`
says it of a reader, and there is one lemma for each of them.  They recurse into
the members of a document, which are smaller; `Document.readsSoundly` ties them
together.
-/

namespace Rulebook

namespace Item

/-- Items that were constructed while numbers of rule objects were given out
from `first` to `next`. -/
structure Built (objects : Nat → Rule) (first : Nat) (items : List Item)
    (next : Nat) : Prop where
  constructed : ∀ item ∈ items, item.Constructed
  numbered : Token.Numbered objects first (items.flatMap tokens) next

namespace Built

variable {objects : Nat → Rule} {first next later : Nat} {items : List Item}

theorem whole {item : Item} (built : Built objects first items next)
    (constructed : item.Constructed)
    (subset : item.tokens ⊆ items.flatMap tokens) :
    Built objects first [item] next where
  constructed := by simpa using constructed
  numbered := built.numbered.mono (by simpa using subset)

theorem one {item : Item} (built : Built objects first [item] next) :
    item.Constructed :=
  built.constructed item (by simp)

theorem widen (built : Built objects first items next) (le : next ≤ later) :
    Built objects first items later :=
  ⟨built.constructed, built.numbered.widen le⟩

theorem nil (objects : Nat → Rule) (first : Nat) :
    Built objects first [] first :=
  ⟨by simp, .of_known (.nil objects first)⟩

theorem fact (objects : Nat → Rule) (first : Nat) (name : String)
    (kind : ValueKind) : Built objects first [.token (.fact name kind)] first := by
  refine ⟨?_, .of_known ⟨?_, ?_⟩⟩
  · rw [List.forall_mem_singleton]
    exact .fact name kind
  · intro label object other rule occurs
    cases Token.occursIn_fact.mp occurs
  · rintro object ⟨label, other, rule, occurs⟩
    cases Token.occursIn_fact.mp occurs

/-- A rule that gets the next free number becomes a token. -/
theorem embed {label : String} {embedded : Rule} {token : Token}
    (built : Built objects first [.rule embedded] next)
    (accepted : Token.embed label ⟨next, embedded⟩ = .ok token) :
    Built objects first [.token token] (next + 1) := by
  obtain ⟨kind, _, _, rfl⟩ := Token.embed_eq_ok_iff.mp accepted
  have own : Token.Numbered objects first embedded.tokens next := by
    simpa [Item.tokens, Item.leaves, Rule.tokens] using built.numbered
  refine ⟨?_, ?_⟩
  · rw [List.forall_mem_singleton]
    exact .embed built.one accepted
  · simpa [Item.tokens] using own.object label kind

theorem expression {token : Token} {operator : Operator}
    {expression : Expression} (built : Built objects first [.token token] next)
    (accepted : Expression.make token operator = .ok expression) :
    Built objects first [.expression expression] next := by
  refine built.whole (.expression built.one accepted) ?_
  obtain ⟨_, _, rfl⟩ := Expression.make_eq_ok_iff.mp accepted
  simp [Item.tokens, Item.leaves]

theorem onFact (objects : Nat → Rule) (first : Nat) (name : String)
    {operator : Operator} (inRange : operator.checkRange = .ok ()) :
    Built objects first [.expression (.onFact name operator)] first := by
  refine (fact objects first name operator.kind).whole
    (.onFact name inRange) ?_
  simp [Item.tokens, Item.leaves, Expression.onFact]

theorem test {expression : Expression}
    (built : Built objects first [.expression expression] next) :
    Built objects first [.condition (.test expression)] next :=
  built.whole (.test built.one) (by simp [tokens_test])

theorem nested {conditional : Conditional}
    (built : Built objects first [.conditional conditional] next) :
    Built objects first [.condition (.nested conditional)] next :=
  built.whole (.nested built.one) (by simp [tokens_nested])

theorem conditional (junction : Junction) {conditions : List Condition}
    (built : Built objects first (conditions.map .condition) next) :
    Built objects first [.conditional ⟨junction, conditions⟩] next := by
  refine built.whole (.conditional junction ?_) ?_
  · intro condition member
    exact built.constructed _ (List.mem_map_of_mem member)
  · rw [tokens_conditional]
    exact List.Subset.refl _

theorem decisionRow {antecedent : Conditional} (consequent : Decision)
    (built : Built objects first [.conditional antecedent] next) :
    Built objects first [.decisionRow ⟨antecedent, consequent⟩] next :=
  built.whole (.decisionRow consequent built.one)
    (by simp [Item.tokens, Item.leaves])

theorem scoreRow {antecedent : Conditional} {score : Float} {row : ScoreRow}
    (built : Built objects first [.conditional antecedent] next)
    (accepted : ScoreRow.make antecedent score = .ok row) :
    Built objects first [.scoreRow row] next := by
  refine built.whole (.scoreRow built.one accepted) ?_
  obtain ⟨_, rfl⟩ := ScoreRow.make_eq_ok_iff.mp accepted
  simp [Item.tokens, Item.leaves]

theorem decisionSet {rows : List DecisionRow}
    (built : Built objects first (rows.map .decisionRow) next) :
    Built objects first [.decisionSet ⟨rows⟩] next := by
  refine built.whole (.decisionSet ?_) ?_
  · intro row member
    exact built.constructed _ (List.mem_map_of_mem member)
  · rw [tokens_decisionSet]
    exact List.Subset.refl _

theorem scoreSet {rows : List ScoreRow} {weight : Float} {set : ScoreSet}
    (built : Built objects first (rows.map .scoreRow) next)
    (accepted : ScoreSet.make rows weight = .ok set) :
    Built objects first [.scoreSet set] next := by
  refine built.whole (.scoreSet ?_ accepted) ?_
  · intro row member
    exact built.constructed _ (List.mem_map_of_mem member)
  · obtain ⟨_, rfl⟩ := ScoreSet.make_eq_ok_iff.mp accepted
    rw [tokens_scoreSet]
    exact List.Subset.refl _

theorem scorePairs {pairs : List (Conditional × Float)} {weight : Float}
    {set : ScoreSet}
    (built : Built objects first
      (pairs.map fun pair => .conditional pair.1) next)
    (accepted : ScoreSet.ofPairs pairs weight = .ok set) :
    Built objects first [.scoreSet set] next := by
  refine built.whole (.scorePairs ?_ accepted) ?_
  · intro pair member
    exact built.constructed _ (List.mem_map_of_mem member)
  · rw [ScoreSet.ofPairs_eq_ok accepted, tokens_scoreSet, List.map_map]
    simp [List.flatMap_map, Item.tokens, Item.leaves]

theorem decision {ruleset : DecisionSet} {rule : DecisionRule}
    (built : Built objects first [.decisionSet ruleset] next)
    (accepted : DecisionRule.make ruleset = .ok rule) :
    Built objects first [.rule (.decision rule)] next := by
  refine built.whole (.decision built.one accepted) ?_
  obtain ⟨profile, _, rfl⟩ := DecisionRule.make_eq_ok_iff.mp accepted
  simp [Item.tokens, Item.leaves, Rule.leaves]

theorem decisions {rulesets : List DecisionSet} {rule : DecisionRule}
    (built : Built objects first (rulesets.map .decisionSet) next)
    (accepted : DecisionRule.ofSets rulesets = .ok rule) :
    Built objects first [.rule (.decision rule)] next := by
  obtain ⟨ruleset, rfl, made⟩ := DecisionRule.ofSets_eq_ok_iff.mp accepted
  exact built.decision made

theorem score {rulesets : List ScoreSet} {rule : ScoreRule}
    (built : Built objects first (rulesets.map .scoreSet) next)
    (accepted : ScoreRule.make rulesets = .ok rule) :
    Built objects first [.rule (.score rule)] next := by
  refine built.whole (.score ?_ accepted) ?_
  · intro ruleset member
    exact built.constructed _ (List.mem_map_of_mem member)
  · obtain ⟨profile, _, rfl⟩ := ScoreRule.make_eq_ok accepted
    rw [tokens_score]
    exact List.Subset.refl _

end Built

end Item

namespace Numbering

variable {ε α β : Type}

/-- Whenever the rule objects below existing tokens are known, a computation
builds some items. -/
def Builds (existing : List Token) (computation : Numbering ε α)
    (items : α → List Item) : Prop :=
  ∀ objects first, Token.Known objects first existing →
    computation.Yields first
      fun value next => Item.Built objects first (items value) next

namespace Builds

variable {existing : List Token} {computation : Numbering ε α}
  {items : α → List Item}

theorem bind {rest : α → Numbering ε β} {wholes : β → List Item}
    (builds : computation.Builds existing items)
    (after : ∀ value objects first middle,
      Item.Built objects first (items value) middle →
        (rest value).Yields middle
          fun whole next => Item.Built objects first (wholes whole) next) :
    (computation >>= rest).Builds existing wholes :=
  fun objects first known => (builds objects first known).bind
    fun value middle built => after value objects first middle built

theorem map {function : α → β} {wholes : β → List Item}
    (builds : computation.Builds existing items)
    (after : ∀ value objects first next,
      Item.Built objects first (items value) next →
        Item.Built objects first (wholes (function value)) next) :
    (function <$> computation).Builds existing wholes :=
  fun objects first known => .map <|
    (builds objects first known).mono
      fun value next built => after value objects first next built

theorem throw {defect : ε} :
    (throw defect : Numbering ε α).Builds existing items :=
  fun _ _ _ => .throw

theorem nil {item : α → Item} :
    (Pure.pure [] : Numbering ε (List α)).Builds existing
      fun values => values.map item := by
  intro objects first _
  refine .pure ⟨by simp, ?_⟩
  exact .of_known (.nil objects first)

theorem cons {item : β → Item} {finish : α → β}
    {rest : Numbering ε (List β)}
    (head : computation.Builds existing fun value => [item (finish value)])
    (tail : rest.Builds existing fun values => values.map item) :
    (do
      let value ← computation
      let values ← rest
      return finish value :: values : Numbering ε (List β)).Builds existing
        fun values => values.map item := by
  intro objects first known
  refine (head objects first known).bind ?_
  intro value middle built
  -- The rest is read against a table that holds the first item's objects too.
  obtain ⟨early, keeps, holds⟩ := built.numbered.table
  have le := built.numbered.le
  refine (tail early middle (known.extend keeps le)).bind ?_
  intro values next later
  refine .pure ⟨?_, ?_⟩
  · rintro other member
    rcases List.mem_cons.mp member with rfl | member
    · exact built.one
    · exact later.constructed other member
  · have together := Token.Numbered.append le keeps holds later.numbered
    simpa using together

/-- What follows a checked result builds what it builds for that result. -/
theorem afterCheck {δ : Type} {wrap : δ → ε} {result : Except δ α}
    {rest : α → Numbering ε β} {wholes : β → List Item}
    (after : ∀ value, (rest value).Builds existing wholes) :
    (Numbering.check wrap result >>= rest).Builds existing wholes :=
  fun objects first known => .afterCheck fun value _ =>
    after value objects first known

/-- A failure builds nothing, whatever was built before it. -/
theorem dead {defect : ε} {wholes : β → List Item} :
    (computation >>= fun _ =>
      (MonadExcept.throw defect : Numbering ε β)).Builds existing wholes := by
  intro objects first _
  have any : computation.Yields first fun _ _ => True :=
    fun _ _ _ => trivial
  exact any.bind fun _ _ _ => .throw

/-- Numbers that are given out after some items were built are not used by
them. -/
theorem keep {γ : Type} {later : Numbering ε β} {others : β → List Item}
    {finish : α → β → γ} {wholes : γ → List Item}
    (builds : computation.Builds existing items)
    (after : later.Builds existing others)
    (same : ∀ value other, wholes (finish value other) = items value) :
    (computation >>= fun value => later >>= fun other =>
      (Pure.pure (finish value other) : Numbering ε γ)).Builds existing
        wholes := by
  intro objects first known
  refine (builds objects first known).bind ?_
  intro value middle built
  obtain ⟨early, keeps, holds⟩ := built.numbered.table
  refine (after early middle (known.extend keeps built.numbered.le)).bind ?_
  intro other next later
  refine .pure ?_
  rw [same]
  exact built.widen later.numbered.le

/-- What is built on known rule objects is constructed, and its tokens are
coherent. -/
theorem sound {objects : Nat → Rule} {value : α} {first next : Nat}
    (builds : computation.Builds existing items)
    (known : Token.Known objects first existing)
    (ran : computation.run first = .ok (value, next)) :
    (∀ item ∈ items value, item.Constructed) ∧
      Token.Coherent ((items value).flatMap Item.tokens) := by
  have built := builds objects first known value next ran
  obtain ⟨later, _, holds⟩ := built.numbered.table
  exact ⟨built.constructed, holds.coherent⟩

end Builds

end Numbering

/-- Whatever the document is read as was constructed. -/
structure Document.ReadsSoundly (document : Document) : Prop where
  token : (Token.decode document).Builds [] fun token => [.token token]
  expression : (Expression.decode document).Builds []
    fun expression => [.expression expression]
  condition : (Condition.decode document).Builds []
    fun condition => [.condition condition]
  conditional : (Conditional.decode document).Builds []
    fun conditional => [.conditional conditional]
  decisionRow : (DecisionRow.decode document).Builds []
    fun row => [.decisionRow row]
  scoreRow : (ScoreRow.decode document).Builds [] fun row => [.scoreRow row]
  decisionSet : (DecisionSet.decode document).Builds []
    fun set => [.decisionSet set]
  scoreSet : (ScoreSet.decode document).Builds [] fun set => [.scoreSet set]
  decisionRule : (DecisionRule.decode document).Builds []
    fun rule => [.rule (.decision rule)]
  scoreRule : (ScoreRule.decode document).Builds []
    fun rule => [.rule (.score rule)]
  rule : (Rule.decode document).Builds [] fun rule => [.rule rule]

/-- All documents below a size are read as what was constructed. -/
def Document.SoundBelow (size : Nat) : Prop :=
  ∀ document : Document, sizeOf document < size → document.ReadsSoundly

theorem Document.SoundBelow.mono {size smaller : Nat}
    (sound : SoundBelow size) (le : smaller ≤ size) : SoundBelow smaller :=
  fun document below => sound document (Nat.lt_of_lt_of_le below le)

namespace Document.SoundBelow

variable {name : String} {document : Document} {documents more : List Document}
  {member : String × Document} {members : List (String × Document)}

theorem list (sound : SoundBelow (sizeOf (Document.list documents))) :
    SoundBelow (sizeOf documents) := by
  refine sound.mono ?_
  rw [Document.list.sizeOf_spec]
  omega

theorem head (sound : SoundBelow (sizeOf (document :: documents))) :
    document.ReadsSoundly := by
  refine sound document ?_
  rw [List.cons.sizeOf_spec]
  omega

theorem tail (sound : SoundBelow (sizeOf (document :: documents))) :
    SoundBelow (sizeOf documents) := by
  refine sound.mono ?_
  rw [List.cons.sizeOf_spec]
  omega

theorem record (sound : SoundBelow (sizeOf (Document.record members))) :
    SoundBelow (sizeOf members) := by
  refine sound.mono ?_
  rw [Document.record.sizeOf_spec]
  omega

theorem content (sound : SoundBelow (sizeOf ((name, document) :: members))) :
    document.ReadsSoundly := by
  refine sound document ?_
  rw [List.cons.sizeOf_spec, Prod.mk.sizeOf_spec]
  omega

theorem inside (sound : SoundBelow (sizeOf ((name, document) :: members))) :
    SoundBelow (sizeOf document) := by
  refine sound.mono ?_
  rw [List.cons.sizeOf_spec, Prod.mk.sizeOf_spec]
  omega

theorem inList
    (sound : SoundBelow (sizeOf (Document.list documents :: more))) :
    SoundBelow (sizeOf documents) := by
  refine sound.mono ?_
  rw [List.cons.sizeOf_spec, Document.list.sizeOf_spec]
  omega

theorem others (sound : SoundBelow (sizeOf (member :: members))) :
    SoundBelow (sizeOf members) := by
  refine sound.mono ?_
  rw [List.cons.sizeOf_spec]
  omega

end Document.SoundBelow

section Lists

variable {documents : List Document}
  (sound : Document.SoundBelow (sizeOf documents))
include sound

theorem Condition.decodeAll_builds :
    (Condition.decodeAll documents).Builds []
      fun conditions => conditions.map .condition := by
  induction documents with
  | nil =>
      rw [Condition.decodeAll]
      exact .nil
  | cons document documents ih =>
      rw [Condition.decodeAll]
      exact .cons sound.head.condition (ih sound.tail)

theorem DecisionRow.decodeAll_builds :
    (DecisionRow.decodeAll documents).Builds []
      fun rows => rows.map .decisionRow := by
  induction documents with
  | nil =>
      rw [DecisionRow.decodeAll]
      exact .nil
  | cons document documents ih =>
      rw [DecisionRow.decodeAll]
      exact .cons sound.head.decisionRow (ih sound.tail)

theorem ScoreRow.decodeAll_builds :
    (ScoreRow.decodeAll documents).Builds []
      fun rows => rows.map .scoreRow := by
  induction documents with
  | nil =>
      rw [ScoreRow.decodeAll]
      exact .nil
  | cons document documents ih =>
      rw [ScoreRow.decodeAll]
      exact .cons sound.head.scoreRow (ih sound.tail)

theorem ScoreSet.decodeAll_builds :
    (ScoreSet.decodeAll documents).Builds []
      fun sets => sets.map .scoreSet := by
  induction documents with
  | nil =>
      rw [ScoreSet.decodeAll]
      exact .nil
  | cons document documents ih =>
      rw [ScoreSet.decodeAll]
      exact .cons sound.head.scoreSet (ih sound.tail)

end Lists

section Members

variable {members : List (String × Document)}
  (sound : Document.SoundBelow (sizeOf members))
include sound

theorem Token.decodeMembers_builds :
    (Token.decodeMembers members).Builds []
      fun found => found.2.toList.map .rule := by
  induction members with
  | nil =>
      rw [Token.decodeMembers]
      exact fun objects first _ => .pure (.nil objects first)
  | cons member members ih =>
      have rest := ih sound.others
      unfold Token.decodeMembers
      split
      · next same => cases same
      · next same =>
          cases same
          exact .afterCheck fun label =>
            rest.bind fun _ _ _ _ built => .pure built
      · next same =>
          cases same
          exact sound.content.rule.keep rest fun _ _ => rfl
      · next same =>
          cases same
          exact rest

theorem Expression.decodeMembers_builds :
    (Expression.decodeMembers members).Builds []
      fun found => found.1.toList.map .token := by
  induction members with
  | nil =>
      rw [Expression.decodeMembers]
      exact fun objects first _ => .pure (.nil objects first)
  | cons member members ih =>
      have rest := ih sound.others
      unfold Expression.decodeMembers
      split
      · next same => cases same
      · next same =>
          cases same
          exact sound.content.token.keep rest fun _ _ => rfl
      · next same =>
          cases same
          exact .afterCheck fun operator =>
            rest.bind fun _ _ _ _ built => .pure built
      · next same =>
          cases same
          exact rest

theorem DecisionRow.decodeMembers_builds :
    (DecisionRow.decodeMembers members).Builds []
      fun found => found.1.toList.map .conditional := by
  induction members with
  | nil =>
      rw [DecisionRow.decodeMembers]
      exact fun objects first _ => .pure (.nil objects first)
  | cons member members ih =>
      have rest := ih sound.others
      unfold DecisionRow.decodeMembers
      split
      · next same => cases same
      · next same =>
          cases same
          exact sound.content.conditional.keep rest fun _ _ => rfl
      · next same =>
          cases same
          exact .afterCheck fun consequent =>
            rest.bind fun _ _ _ _ built => .pure built
      · next same =>
          cases same
          exact rest

theorem ScoreRow.decodeMembers_builds :
    (ScoreRow.decodeMembers members).Builds []
      fun found => found.1.toList.map .conditional := by
  induction members with
  | nil =>
      rw [ScoreRow.decodeMembers]
      exact fun objects first _ => .pure (.nil objects first)
  | cons member members ih =>
      have rest := ih sound.others
      unfold ScoreRow.decodeMembers
      split
      · next same => cases same
      · next same =>
          cases same
          exact sound.content.conditional.keep rest fun _ _ => rfl
      · next same =>
          cases same
          exact .afterCheck fun score =>
            rest.bind fun _ _ _ _ built => .pure built
      · next same =>
          cases same
          exact rest

theorem DecisionSet.decodeMembers_builds :
    (DecisionSet.decodeMembers members).Builds []
      fun set => [.decisionSet set] := by
  induction members with
  | nil =>
      rw [DecisionSet.decodeMembers]
      exact .throw
  | cons member members ih =>
      unfold DecisionSet.decodeMembers
      split
      · next same =>
          cases same
          exact (DecisionRow.decodeAll_builds sound.inside.list).map
            fun _ _ _ _ built => built.decisionSet
      · exact .throw
      · next same => cases same
      · next same =>
          cases same
          exact ih sound.others

theorem ScoreSet.decodeMembers_builds :
    (ScoreSet.decodeMembers members).Builds []
      fun found => (found.1.getD []).map .scoreRow := by
  induction members with
  | nil =>
      rw [ScoreSet.decodeMembers]
      exact fun objects first _ => .pure (.nil objects first)
  | cons member members ih =>
      have rest := ih sound.others
      unfold ScoreSet.decodeMembers
      split
      · next same => cases same
      · next same =>
          cases same
          exact (ScoreRow.decodeAll_builds sound.inside.list).keep rest
            fun _ _ => rfl
      · exact .throw
      · next same =>
          cases same
          exact .afterCheck fun weight =>
            rest.bind fun _ _ _ _ built => .pure built
      · next same =>
          cases same
          exact rest

theorem DecisionRule.decodeMembers_builds :
    (DecisionRule.decodeMembers members).Builds []
      fun set => [.decisionSet set] := by
  induction members with
  | nil =>
      rw [DecisionRule.decodeMembers]
      exact .throw
  | cons member members ih =>
      unfold DecisionRule.decodeMembers
      split
      · next same => cases same
      · next same =>
          cases same
          exact sound.content.decisionSet
      · next same =>
          cases same
          exact ih sound.others

theorem ScoreRule.decodeMembers_builds :
    (ScoreRule.decodeMembers members).Builds []
      fun sets => sets.map .scoreSet := by
  induction members with
  | nil =>
      rw [ScoreRule.decodeMembers]
      exact .throw
  | cons member members ih =>
      unfold ScoreRule.decodeMembers
      split
      · next same =>
          cases same
          exact ScoreSet.decodeAll_builds sound.inside.list
      · exact .throw
      · next same => cases same
      · next same =>
          cases same
          exact ih sound.others

end Members

section Documents

variable {α β γ : Type} {existing : List Token}

/-- The two members of a record that are read are put together. -/
theorem Numbering.Builds.both {pairs : Decoder (Option α × Option β)}
    {finish : α → β → Decoder γ} {parts : Option α × Option β → List Item}
    {whole : γ → Item} (builds : pairs.Builds existing parts)
    (after : ∀ one other objects first middle,
      Item.Built objects first (parts (some one, some other)) middle →
        (finish one other).Yields middle
          fun made next => Item.Built objects first [whole made] next) :
    (pairs >>= Decoder.both finish).Builds existing
      fun made => [whole made] := by
  refine builds.bind ?_
  rintro ⟨one, other⟩ objects first middle built
  cases one with
  | none => exact .throw
  | some one =>
      cases other with
      | none => exact .throw
      | some other => exact after one other objects first middle built

theorem Token.own_builds {label : String} {embedded : Rule}
    {objects : Nat → Rule} {first middle : Nat}
    (built : Item.Built objects first [.rule embedded] middle) :
    (Token.own label embedded).Yields middle
      fun token next => Item.Built objects first [.token token] next := by
  have fresh : (Numbering.fresh : Decoder Nat).Yields middle
      fun number next => number = middle ∧ next = middle + 1 :=
    .fresh ⟨rfl, rfl⟩
  refine fresh.bind ?_
  rintro _ _ ⟨rfl, rfl⟩
  exact .check fun token accepted => built.embed accepted

variable {document : Document}
  (sound : Document.SoundBelow (sizeOf document))
include sound

theorem Token.decode_builds :
    (Token.decode document).Builds [] fun token => [.token token] := by
  have fact (kind : ValueKind) (name : Document) :
      ((Token.fact · kind) <$> Decoder.plain name.toText).Builds []
        fun token => [.token token] := by
    rw [map_eq_pure_bind]
    exact .afterCheck fun name objects first _ =>
      .pure (.fact objects first name kind)
  unfold Token.decode
  split
  · exact fact .numeric _
  · exact fact .string _
  · exact fact .boolean _
  · exact (Token.decodeMembers_builds sound.record.inside.record).both
      fun label embedded objects first middle built => Token.own_builds built
  · exact .afterCheck fun label =>
      sound.record.inside.list.tail.head.rule.bind
        fun embedded objects first middle built => Token.own_builds built
  · exact .afterCheck fun label => .dead
  · exact .throw

theorem Expression.decode_builds :
    (Expression.decode document).Builds []
      fun expression => [.expression expression] := by
  unfold Expression.decode
  split
  · exact (Expression.decodeMembers_builds sound.record).both
      fun token operator objects first middle built =>
        .check fun expression accepted => built.expression accepted
  · exact sound.list.head.token.bind
      fun token objects first middle built => .afterCheck fun operator _ =>
        .check fun expression accepted => built.expression accepted
  · exact .dead
  · exact .throw

theorem Condition.decode_builds :
    (Condition.decode document).Builds []
      fun condition => [.condition condition] := by
  unfold Condition.decode
  split
  · exact sound.record.content.expression.map
      fun expression objects first next built => built.test
  · exact sound.record.content.conditional.map
      fun conditional objects first next built => built.nested
  · exact .throw

theorem Conditional.decode_builds :
    (Conditional.decode document).Builds []
      fun conditional => [.conditional conditional] := by
  unfold Conditional.decode
  split
  · exact (Condition.decodeAll_builds sound.record.inside.list).map
      fun conditions objects first next built => built.conditional .all
  · exact (Condition.decodeAll_builds sound.record.inside.list).map
      fun conditions objects first next built => built.conditional .any
  · exact .throw

theorem DecisionRow.decode_builds :
    (DecisionRow.decode document).Builds []
      fun row => [.decisionRow row] := by
  unfold DecisionRow.decode
  split
  · exact (DecisionRow.decodeMembers_builds sound.record).both
      fun antecedent consequent objects first middle built =>
        .pure (built.decisionRow consequent)
  · exact sound.list.head.conditional.bind
      fun antecedent objects first middle built => .afterCheck
        fun consequent _ => .pure (built.decisionRow consequent)
  · exact .dead
  · exact .throw

theorem ScoreRow.decode_builds :
    (ScoreRow.decode document).Builds [] fun row => [.scoreRow row] := by
  unfold ScoreRow.decode
  split
  · exact (ScoreRow.decodeMembers_builds sound.record).both
      fun antecedent score objects first middle built =>
        .check fun row accepted => built.scoreRow accepted
  · exact sound.list.head.conditional.bind
      fun antecedent objects first middle built => .afterCheck fun score _ =>
        .check fun row accepted => built.scoreRow accepted
  · exact .dead
  · exact .throw

theorem DecisionSet.decode_builds :
    (DecisionSet.decode document).Builds []
      fun set => [.decisionSet set] := by
  unfold DecisionSet.decode
  split
  · exact DecisionSet.decodeMembers_builds sound.record
  · exact (DecisionRow.decodeAll_builds sound.list.inList).map
      fun rows objects first next built => built.decisionSet
  · exact .dead
  · exact .throw

theorem ScoreSet.decode_builds :
    (ScoreSet.decode document).Builds [] fun set => [.scoreSet set] := by
  unfold ScoreSet.decode
  split
  · exact (ScoreSet.decodeMembers_builds sound.record).both
      fun rows weight objects first middle built =>
        .check fun set accepted => built.scoreSet accepted
  · exact (ScoreRow.decodeAll_builds sound.list.inList).bind
      fun rows objects first middle built => .afterCheck fun weight _ =>
        .check fun set accepted => built.scoreSet accepted
  · exact .dead
  · exact .throw

theorem DecisionRule.decode_builds :
    (DecisionRule.decode document).Builds []
      fun rule => [.rule (.decision rule)] := by
  unfold DecisionRule.decode
  split
  · exact (DecisionRule.decodeMembers_builds sound.record).bind
      fun ruleset objects first middle built =>
        .check fun rule accepted => built.decision accepted
  · exact sound.list.head.decisionSet.bind
      fun ruleset objects first middle built =>
        .check fun rule accepted => built.decision accepted
  · exact .dead
  · exact .throw

theorem ScoreRule.decode_builds :
    (ScoreRule.decode document).Builds []
      fun rule => [.rule (.score rule)] := by
  unfold ScoreRule.decode
  split
  · exact (ScoreRule.decodeMembers_builds sound.record).bind
      fun rulesets objects first middle built =>
        .check fun rule accepted => built.score accepted
  · exact (ScoreSet.decodeAll_builds sound.list.inList).bind
      fun rulesets objects first middle built =>
        .check fun rule accepted => built.score accepted
  · exact .dead
  · exact .throw

theorem Rule.decode_builds :
    (Rule.decode document).Builds [] fun rule => [.rule rule] := by
  unfold Rule.decode
  split
  · exact sound.record.content.decisionRule.map
      fun rule objects first next built => built
  · exact sound.record.content.scoreRule.map
      fun rule objects first next built => built
  · exact .throw

end Documents

theorem Document.readsSoundly (document : Document) :
    document.ReadsSoundly :=
  have sound : SoundBelow (sizeOf document) :=
    fun part _ => part.readsSoundly
  { token := Token.decode_builds sound
    expression := Expression.decode_builds sound
    condition := Condition.decode_builds sound
    conditional := Conditional.decode_builds sound
    decisionRow := DecisionRow.decode_builds sound
    scoreRow := ScoreRow.decode_builds sound
    decisionSet := DecisionSet.decode_builds sound
    scoreSet := ScoreSet.decode_builds sound
    decisionRule := DecisionRule.decode_builds sound
    scoreRule := ScoreRule.decode_builds sound
    rule := Rule.decode_builds sound }
termination_by sizeOf document

namespace Item

theorem constructed_of_run {ε α : Type} {computation : Numbering ε α}
    (item : α → Item) {value : α} {first next : Nat}
    (builds : computation.Builds [] fun value => [item value])
    (ran : computation.run first = .ok (value, next)) :
    (item value).Constructed ∧ Token.Coherent (item value).tokens := by
  have none : Token.Known (fun _ => .score ⟨[], .initial⟩) first [] :=
    .nil _ first
  have built := builds.sound none ran
  simpa using built

/-- Whatever a document is read as was constructed, and its tokens are
coherent. -/
theorem Read.sound {item : Item} (read : item.Read) :
    item.Constructed ∧ Token.Coherent item.tokens := by
  cases read with
  | @token document _ _ _ ran =>
      exact constructed_of_run .token document.readsSoundly.token ran
  | @expression document _ _ _ ran =>
      exact constructed_of_run .expression document.readsSoundly.expression ran
  | @condition document _ _ _ ran =>
      exact constructed_of_run .condition document.readsSoundly.condition ran
  | @conditional document _ _ _ ran =>
      exact constructed_of_run .conditional document.readsSoundly.conditional ran
  | @decisionRow document _ _ _ ran =>
      exact constructed_of_run .decisionRow document.readsSoundly.decisionRow ran
  | @scoreRow document _ _ _ ran =>
      exact constructed_of_run .scoreRow document.readsSoundly.scoreRow ran
  | @decisionSet document _ _ _ ran =>
      exact constructed_of_run .decisionSet document.readsSoundly.decisionSet ran
  | @scoreSet document _ _ _ ran =>
      exact constructed_of_run .scoreSet document.readsSoundly.scoreSet ran
  | @decisionRule document _ _ _ ran =>
      exact constructed_of_run (.rule <| .decision ·)
        document.readsSoundly.decisionRule ran
  | @scoreRule document _ _ _ ran =>
      exact constructed_of_run (.rule <| .score ·)
        document.readsSoundly.scoreRule ran
  | @rule document _ _ _ ran =>
      exact constructed_of_run .rule document.readsSoundly.rule ran

/-- Reading adds nothing to what can be constructed. -/
theorem Obtainable.constructed {item : Item} (obtainable : item.Obtainable) :
    item.Constructed :=
  Made.trans obtainable fun read => read.sound.1

end Item

end Rulebook
