import Rulebook.Proofs.Collected
import Rulebook.Proofs.Reading
import Rulebook.Proofs.Transparency
import Rulebook.Session

/-!
# What is built is constructed

Building a draft goes through the constructors as reading a document does, but a
draft may refer to rules that were defined before, so what is built may share
rule objects.  It is coherent all the same: the tables of rule objects that
`Token.Numbered` speaks of start from one that holds the definitions.

A session keeps such a table through every request (`Session.Sound`), so in
every session that requests lead to, whatever is defined, built or read is
constructed and coherent.
-/

namespace Rulebook

def RuleObject.token (object : RuleObject) : Token :=
  .rule "" object.number .numeric object.rule

def Definitions.tokens (definitions : Definitions) : List Token :=
  definitions.entries.map fun entry => entry.2.token

/-- A rule object that was constructed while numbers were given out. -/
structure RuleObject.Built (objects : Nat → Rule) (first : Nat)
    (object : RuleObject) (next : Nat) : Prop where
  constructed : Item.Constructed (.rule object.rule)
  numbered : Token.Numbered objects first [object.token] next

def Definitions.Constructed (definitions : Definitions) : Prop :=
  ∀ name object, definitions.get? name = some object →
    Item.Constructed (.rule object.rule)

namespace RuleObject.Built

variable {objects : Nat → Rule} {first middle next : Nat}

theorem number {ε : Type} {rule : Rule}
    (built : Item.Built objects first [.rule rule] middle) :
    (do return ⟨← Numbering.fresh, rule⟩ : Numbering ε RuleObject).Yields middle
      fun object next => RuleObject.Built objects first object next := by
  have own : Token.Numbered objects first rule.tokens middle := by
    simpa [Item.tokens, Item.leaves, Rule.tokens] using built.numbered
  have fresh : (Numbering.fresh : Numbering ε Nat).Yields middle
      fun number next => number = middle ∧ next = middle + 1 :=
    .fresh ⟨rfl, rfl⟩
  refine fresh.bind ?_
  rintro _ _ ⟨rfl, rfl⟩
  exact .pure ⟨built.one, own.object "" .numeric⟩

/-- The token of a rule object has the rule objects of the object itself. -/
theorem embed {object : RuleObject} {label : String} {token : Token}
    (built : RuleObject.Built objects first object next)
    (accepted : Token.embed label object = .ok token) :
    Item.Built objects first [.token token] next where
  constructed := by
    rw [List.forall_mem_singleton]
    exact .embed built.constructed accepted
  numbered := by
    obtain ⟨kind, _, _, rfl⟩ := Token.embed_eq_ok_iff.mp accepted
    simpa [Item.tokens] using built.numbered.relabel label kind

/-- The rule of an object has no other rule objects than the object. -/
theorem rule {object : RuleObject}
    (built : RuleObject.Built objects first object next) :
    Item.Built objects first [.rule object.rule] next where
  constructed := by
    rw [List.forall_mem_singleton]
    exact built.constructed
  numbered := by
    obtain ⟨known, keeps, holds⟩ := built.numbered.table
    have inside : Token.Known known next object.rule.tokens :=
      holds.inside
    simpa [Item.tokens, Item.leaves, Rule.tokens] using
      (⟨built.numbered.le, known, keeps, inside⟩ : Token.Numbered objects
        first object.rule.tokens next)

end RuleObject.Built

theorem OperatorDraft.build_yields (draft : OperatorDraft) (first : Nat) :
    (draft.build).Yields first fun _ next => next = first := by
  cases draft with
  | plain operator => exact .pure rfl
  | between floor ceiling => exact .check fun _ _ => rfl

section Drafts

variable {definitions : Definitions}

theorem Definitions.find_yields (sound : definitions.Constructed)
    (name : String) {objects : Nat → Rule} {first : Nat}
    (known : Token.Known objects first definitions.tokens) :
    (definitions.find name).Yields first
      fun object next => RuleObject.Built objects first object next := by
  unfold find
  cases found : definitions.get? name with
  | none => exact .throw
  | some object =>
      have entry := definitions.get?_eq_some_iff.mp found
      have own : [object.token] ⊆ definitions.tokens := by
        rw [List.cons_subset]
        exact ⟨List.mem_map_of_mem entry, List.nil_subset _⟩
      exact .pure ⟨sound name object found, .of_known (known.mono own)⟩

mutual

theorem TokenDraft.build_builds (sound : definitions.Constructed) :
    (draft : TokenDraft) →
      (draft.build definitions).Builds definitions.tokens
        fun token => [.token token]
  | .fact name kind => by
      rw [TokenDraft.build]
      exact fun objects first _ => .pure (.fact objects first name kind)
  | .rule label embedded => by
      rw [TokenDraft.build]
      intro objects first known
      refine (RuleDraft.build_yields sound embedded objects first known).bind ?_
      intro object middle built
      exact .check fun token accepted => built.embed accepted

theorem ExpressionDraft.build_builds (sound : definitions.Constructed) :
    (draft : ExpressionDraft) →
      (draft.build definitions).Builds definitions.tokens
        fun expression => [.expression expression]
  | .pair token operator => by
      rw [ExpressionDraft.build]
      refine (TokenDraft.build_builds sound token).bind ?_
      intro token objects first middle built
      refine .bind (OperatorDraft.build_yields operator middle) ?_
      rintro operator _ rfl
      exact .check fun expression accepted => built.expression accepted
  | .onFact name operator => by
      rw [ExpressionDraft.build]
      intro objects first _
      refine .bind (OperatorDraft.build_yields operator first) ?_
      rintro operator _ rfl
      refine .afterCheck fun _ inRange => ?_
      exact .pure (.onFact objects _ name inRange)

theorem ConditionDraft.build_builds (sound : definitions.Constructed) :
    (draft : ConditionDraft) →
      (draft.build definitions).Builds definitions.tokens
        fun condition => [.condition condition]
  | .test expression => by
      rw [ConditionDraft.build]
      exact (ExpressionDraft.build_builds sound expression).map
        fun expression objects first next built => built.test
  | .nested conditional => by
      rw [ConditionDraft.build]
      exact (ConditionalDraft.build_builds sound conditional).map
        fun conditional objects first next built => built.nested

theorem ConditionalDraft.build_builds (sound : definitions.Constructed) :
    (draft : ConditionalDraft) →
      (draft.build definitions).Builds definitions.tokens
        fun conditional => [.conditional conditional]
  | ⟨junction, conditions⟩ => by
      rw [ConditionalDraft.build]
      exact (ConditionDraft.buildAll_builds sound conditions).map
        fun conditions objects first next built => built.conditional junction

theorem ConditionDraft.buildAll_builds (sound : definitions.Constructed) :
    (drafts : List ConditionDraft) →
      (ConditionDraft.buildAll definitions drafts).Builds definitions.tokens
        fun conditions => conditions.map .condition
  | [] => by
      rw [ConditionDraft.buildAll]
      exact .nil
  | draft :: drafts => by
      rw [ConditionDraft.buildAll]
      exact .cons (ConditionDraft.build_builds sound draft)
        (ConditionDraft.buildAll_builds sound drafts)

theorem DecisionRowDraft.build_builds (sound : definitions.Constructed) :
    (draft : DecisionRowDraft) →
      (draft.build definitions).Builds definitions.tokens
        fun row => [.decisionRow row]
  | ⟨antecedent, consequent⟩ => by
      rw [DecisionRowDraft.build]
      exact (ConditionalDraft.build_builds sound antecedent).map
        fun antecedent objects first next built =>
          built.decisionRow consequent

theorem DecisionRowDraft.buildAll_builds (sound : definitions.Constructed) :
    (drafts : List DecisionRowDraft) →
      (DecisionRowDraft.buildAll definitions drafts).Builds definitions.tokens
        fun rows => rows.map .decisionRow
  | [] => by
      rw [DecisionRowDraft.buildAll]
      exact .nil
  | draft :: drafts => by
      rw [DecisionRowDraft.buildAll]
      exact .cons (DecisionRowDraft.build_builds sound draft)
        (DecisionRowDraft.buildAll_builds sound drafts)

theorem ScoreRowDraft.build_builds (sound : definitions.Constructed) :
    (draft : ScoreRowDraft) →
      (draft.build definitions).Builds definitions.tokens
        fun row => [.scoreRow row]
  | ⟨antecedent, score⟩ => by
      rw [ScoreRowDraft.build]
      refine (ConditionalDraft.build_builds sound antecedent).bind ?_
      intro antecedent objects first middle built
      exact .check fun row accepted => built.scoreRow accepted

theorem ScoreRowDraft.buildAll_builds (sound : definitions.Constructed) :
    (drafts : List ScoreRowDraft) →
      (ScoreRowDraft.buildAll definitions drafts).Builds definitions.tokens
        fun rows => rows.map .scoreRow
  | [] => by
      rw [ScoreRowDraft.buildAll]
      exact .nil
  | draft :: drafts => by
      rw [ScoreRowDraft.buildAll]
      exact .cons (ScoreRowDraft.build_builds sound draft)
        (ScoreRowDraft.buildAll_builds sound drafts)

theorem ScoreRowDraft.buildPairs_builds (sound : definitions.Constructed) :
    (drafts : List ScoreRowDraft) →
      (ScoreRowDraft.buildPairs definitions drafts).Builds definitions.tokens
        fun pairs => pairs.map fun pair => .conditional pair.1
  | [] => by
      rw [ScoreRowDraft.buildPairs]
      exact .nil
  | ⟨antecedent, score⟩ :: drafts => by
      rw [ScoreRowDraft.buildPairs]
      exact .cons (ConditionalDraft.build_builds sound antecedent)
        (ScoreRowDraft.buildPairs_builds sound drafts)

theorem DecisionSetDraft.build_builds (sound : definitions.Constructed) :
    (draft : DecisionSetDraft) →
      (draft.build definitions).Builds definitions.tokens
        fun set => [.decisionSet set]
  | ⟨rows⟩ => by
      rw [DecisionSetDraft.build]
      exact (DecisionRowDraft.buildAll_builds sound rows).map
        fun rows objects first next built => built.decisionSet

theorem DecisionSetDraft.buildAll_builds (sound : definitions.Constructed) :
    (drafts : List DecisionSetDraft) →
      (DecisionSetDraft.buildAll definitions drafts).Builds definitions.tokens
        fun sets => sets.map .decisionSet
  | [] => by
      rw [DecisionSetDraft.buildAll]
      exact .nil
  | draft :: drafts => by
      rw [DecisionSetDraft.buildAll]
      exact .cons (DecisionSetDraft.build_builds sound draft)
        (DecisionSetDraft.buildAll_builds sound drafts)

theorem ScoreSetDraft.build_builds (sound : definitions.Constructed) :
    (draft : ScoreSetDraft) →
      (draft.build definitions).Builds definitions.tokens
        fun set => [.scoreSet set]
  | ⟨rows, weight, true⟩ => by
      rw [ScoreSetDraft.build]
      refine (ScoreRowDraft.buildPairs_builds sound rows).bind ?_
      intro pairs objects first middle built
      exact .check fun set accepted => built.scorePairs accepted
  | ⟨rows, weight, false⟩ => by
      rw [ScoreSetDraft.build]
      refine (ScoreRowDraft.buildAll_builds sound rows).bind ?_
      intro rows objects first middle built
      exact .check fun set accepted => built.scoreSet accepted

theorem ScoreSetDraft.buildAll_builds (sound : definitions.Constructed) :
    (drafts : List ScoreSetDraft) →
      (ScoreSetDraft.buildAll definitions drafts).Builds definitions.tokens
        fun sets => sets.map .scoreSet
  | [] => by
      rw [ScoreSetDraft.buildAll]
      exact .nil
  | draft :: drafts => by
      rw [ScoreSetDraft.buildAll]
      exact .cons (ScoreSetDraft.build_builds sound draft)
        (ScoreSetDraft.buildAll_builds sound drafts)

theorem RuleDraft.build_yields (sound : definitions.Constructed) :
    (draft : RuleDraft) → ∀ objects first,
      Token.Known objects first definitions.tokens →
        (draft.build definitions).Yields first
          fun object next => RuleObject.Built objects first object next
  | .decision ruleset, objects, first, known => by
      rw [RuleDraft.build]
      refine (DecisionSetDraft.build_builds sound ruleset objects first
        known).bind ?_
      intro ruleset middle built
      exact .bind (.check fun rule accepted => built.decision accepted)
        fun rule middle whole => RuleObject.Built.number whole
  | .decisions rulesets, objects, first, known => by
      rw [RuleDraft.build]
      refine (DecisionSetDraft.buildAll_builds sound rulesets objects first
        known).bind ?_
      intro rulesets middle built
      exact .bind (.check fun rule accepted => built.decisions accepted)
        fun rule middle whole => RuleObject.Built.number whole
  | .score rulesets, objects, first, known => by
      rw [RuleDraft.build]
      refine (ScoreSetDraft.buildAll_builds sound rulesets objects first
        known).bind ?_
      intro rulesets middle built
      exact .bind (.check fun rule accepted => built.score accepted)
        fun rule middle whole => RuleObject.Built.number whole
  | .reference name, objects, first, known => by
      rw [RuleDraft.build]
      exact definitions.find_yields sound name known
  | .copy name, objects, first, known => by
      rw [RuleDraft.build]
      refine (definitions.find_yields sound name known).bind ?_
      intro object middle built
      exact RuleObject.Built.number built.rule

end

end Drafts

namespace Session

/-- The definitions were constructed, and a table holds their rule objects, all
of which have numbers that were given out. -/
structure Sound (session : Session) : Prop where
  constructed : session.definitions.Constructed
  known : ∃ objects,
    Token.Known objects session.nextNumber session.definitions.tokens

/-- Sessions that requests lead to. -/
inductive Reachable : Session → Prop
  | empty : Reachable .empty
  | withFacts {session : Session} (facts : Facts) :
      Reachable session → Reachable (session.withFacts facts)
  | defineDraft {session later : Session} {name : String} {draft : RuleDraft}
      {object : RuleObject} :
      Reachable session →
        session.defineDraft name draft = .ok (object, later) →
          Reachable later
  | defineDocument {session later : Session} {name : String}
      {document : Document} {object : RuleObject} :
      Reachable session →
        session.defineDocument name document = .ok (object, later) →
          Reachable later

/-- A computation within a session leaves its definitions alone. -/
theorem run_eq_ok {ε α : Type} {session later : Session}
    {computation : Numbering ε α} {value : α}
    (ran : session.run computation = .ok (value, later)) :
    ∃ next, computation.run session.nextNumber = .ok (value, next) ∧
      later = { session with nextNumber := next } := by
  obtain ⟨⟨found, next⟩, computed, same⟩ := bind_eq_ok_iff.mp ran
  cases same
  exact ⟨next, computed, rfl⟩

namespace Sound

theorem empty : Sound .empty where
  constructed := fun _ _ found => nomatch found
  known := ⟨fun _ => .score ⟨[], .initial⟩, .nil _ _⟩

/-- A rule object that was built within a session may be defined in it. -/
theorem define {session : Session} (sound : session.Sound) {name : String}
    {object : RuleObject} {next : Nat}
    (built : ∀ objects,
      Token.Known objects session.nextNumber session.definitions.tokens →
        RuleObject.Built objects session.nextNumber object next) :
    (Session.define { session with nextNumber := next } name object).Sound := by
  obtain ⟨objects, known⟩ := sound.known
  obtain ⟨made, numbered⟩ := built objects known
  obtain ⟨later, keeps, holds⟩ := numbered.table
  constructor
  · intro wanted found there
    change (session.definitions.insert name object).get? wanted = _ at there
    rw [NameMap.get?_insert] at there
    split at there
    · cases there
      exact made
    · exact sound.constructed wanted found there
  · refine ⟨later, (holds.append (known.extend keeps numbered.le)).mono ?_⟩
    intro token member
    obtain ⟨entry, among, rfl⟩ := List.mem_map.mp member
    rcases NameMap.eq_or_mem_of_mem_place among with rfl | earlier
    · exact List.mem_append_left _ (List.mem_singleton_self _)
    · exact List.mem_append_right _ (List.mem_map_of_mem earlier)

theorem defineDraft {session later : Session} (sound : session.Sound)
    {name : String} {draft : RuleDraft} {object : RuleObject}
    (defined : session.defineDraft name draft = .ok (object, later)) :
    later.Sound := by
  obtain ⟨⟨found, between⟩, ran, same⟩ := bind_eq_ok_iff.mp defined
  obtain ⟨next, computed, rfl⟩ := run_eq_ok ran
  cases same
  exact sound.define fun objects known =>
    RuleDraft.build_yields sound.constructed draft objects _ known _ _ computed

theorem defineDocument {session later : Session} (sound : session.Sound)
    {name : String} {document : Document} {object : RuleObject}
    (defined : session.defineDocument name document = .ok (object, later)) :
    later.Sound := by
  obtain ⟨⟨found, between⟩, ran, same⟩ := bind_eq_ok_iff.mp defined
  obtain ⟨next, computed, rfl⟩ := run_eq_ok ran
  cases same
  refine sound.define fun objects known => ?_
  have read := document.readsSoundly.rule objects session.nextNumber
    (.nil objects _)
  exact (read.bind fun rule middle built => RuleObject.Built.number built)
    _ _ computed

end Sound

/-- Every request keeps a session sound. -/
theorem Reachable.sound {session : Session} (reachable : session.Reachable) :
    session.Sound := by
  induction reachable with
  | empty => exact .empty
  | withFacts facts _ ih => exact ⟨ih.constructed, ih.known⟩
  | defineDraft _ defined ih => exact ih.defineDraft defined
  | defineDocument _ defined ih => exact ih.defineDocument defined

/-- A rule that was defined in a session that requests lead to was constructed,
and its tokens are coherent. -/
theorem Reachable.definition {session : Session}
    (reachable : session.Reachable) {name : String} {object : RuleObject}
    (found : session.definitions.get? name = some object) :
    Item.Constructed (.rule object.rule) ∧
      Token.Coherent object.rule.tokens := by
  obtain ⟨constructed, objects, known⟩ := reachable.sound
  refine ⟨constructed name object found, ?_⟩
  have entry := session.definitions.get?_eq_some_iff.mp found
  have own : [object.token] ⊆ session.definitions.tokens := by
    rw [List.cons_subset]
    exact ⟨List.mem_map_of_mem entry, List.nil_subset _⟩
  exact (known.mono own).inside.coherent

/-- So was whatever is built or read in such a session. -/
theorem Reachable.built {session later : Session}
    (reachable : session.Reachable) {ε α : Type}
    {computation : Numbering ε α} {items : α → List Item} {value : α}
    (builds : computation.Builds session.definitions.tokens items)
    (ran : session.run computation = .ok (value, later)) :
    (∀ item ∈ items value, item.Constructed) ∧
      Token.Coherent ((items value).flatMap Item.tokens) := by
  obtain ⟨_, objects, known⟩ := reachable.sound
  obtain ⟨next, computed, _⟩ := run_eq_ok ran
  exact builds.sound known computed

/-- Calls of a defined rule answer with their meaning, whatever rule objects the
definitions share. -/
theorem Reachable.answer_eq_meaning {session : Session}
    (reachable : session.Reachable) {name : String} {object : RuleObject}
    (found : session.definitions.get? name = some object) {call : Call}
    (about : call.item = .rule object.rule) (facts : Facts) :
    call.answer facts = call.meaning facts := by
  refine Call.answer_eq_meaning facts ?_
  rw [Call.tokens, about]
  exact (reachable.definition found).2

end Session

end Rulebook
