import Rulebook.Proofs.Accepted
import Rulebook.Proofs.Obtainable

/-!
# Collecting requirements

The constructor of a rule records what the rule's own tests ask for, and of an
embedded rule it records what that rule recorded.  The requirements of a
constructed rule are therefore the facts that occur anywhere in its expanded
tree (`Rule.requirements_get?_eq_some_iff`), because every rule that is embedded
in something constructed was constructed itself.
-/

namespace Rulebook

namespace NameMap

variable {α : Type} {name : String} {value : α}

/-- In an increasing list a name is looked up where it stands. -/
theorem lookup_eq_some_iff {entries : List (String × α)}
    (increasing : entries.Pairwise fun first second => first.1 < second.1) :
    entries.lookup name = some value ↔ (name, value) ∈ entries := by
  induction entries with
  | nil => simp
  | cons head rest ih =>
      rw [List.pairwise_cons] at increasing
      obtain ⟨first, kept⟩ := head
      rw [List.lookup_cons, List.mem_cons]
      by_cases same : name = first
      · subst same
        have notLater : (name, value) ∉ rest := fun later =>
          String.lt_irrefl name (increasing.1 _ later)
        simp [notLater, eq_comm]
      · simp [same, beq_false_of_ne same, ih increasing.2]

theorem get?_eq_some_iff (map : NameMap α) :
    map.get? name = some value ↔ (name, value) ∈ map.entries :=
  lookup_eq_some_iff map.increasing

theorem mem_names_of_get? {map : NameMap α}
    (found : map.get? name = some value) : name ∈ map.names :=
  List.mem_map_of_mem (map.get?_eq_some_iff.mp found)

end NameMap

namespace Requirements

variable {before after : Requirements} {name : String} {kind : ValueKind}

/-- Recording a fact adds that fact and nothing else. -/
theorem record_get? {asked : String} {wanted : ValueKind}
    (accepted : before.record asked wanted = .ok after) :
    after.get? name = some kind ↔
      before.get? name = some kind ∨ (name, kind) = (asked, wanted) := by
  rw [Prod.mk.injEq]
  unfold record at accepted
  cases known : before.get? asked with
  | none =>
      simp only [known, Except.ok.injEq] at accepted
      rw [← accepted, NameMap.get?_insert]
      by_cases same : name = asked
      · subst same
        simp [known, eq_comm]
      · simp [same]
  | some first =>
      by_cases fits : first = wanted
      · simp only [known, fits, if_true, Except.ok.injEq] at accepted
        subst accepted
        constructor
        · exact .inl
        · rintro (there | ⟨rfl, rfl⟩)
          · exact there
          · rw [known, fits]
      · simp [known, fits] at accepted

theorem recordAll_get? {requests : List (String × ValueKind)}
    (accepted : before.recordAll requests = .ok after) :
    after.get? name = some kind ↔
      before.get? name = some kind ∨ (name, kind) ∈ requests := by
  induction requests generalizing before with
  | nil =>
      cases accepted
      simp
  | cons request requests ih =>
      unfold recordAll at accepted
      rw [List.foldlM_cons, bind_eq_ok_iff] at accepted
      obtain ⟨between, first, rest⟩ := accepted
      rw [ih rest, record_get? first, List.mem_cons, or_assoc]

end Requirements

namespace Profile

variable {name : String} {kind : ValueKind}

theorem addLeaf_get? {before after : Profile} {leaf : Expression}
    (accepted : before.addLeaf leaf = .ok after) :
    after.requirements.get? name = some kind ↔
      before.requirements.get? name = some kind ∨
        (name, kind) ∈ leaf.token.requests := by
  simp only [addLeaf, bind_eq_ok_iff, pure_eq_ok_iff] at accepted
  obtain ⟨_, _, requirements, recorded, rfl⟩ := accepted
  exact Requirements.recordAll_get? recorded

theorem foldlM_addLeaf_get? {before after : Profile}
    {leaves : List Expression}
    (accepted : leaves.foldlM addLeaf before = .ok after) :
    after.requirements.get? name = some kind ↔
      before.requirements.get? name = some kind ∨
        ∃ leaf ∈ leaves, (name, kind) ∈ leaf.token.requests := by
  induction leaves generalizing before with
  | nil =>
      cases accepted
      simp
  | cons leaf leaves ih =>
      rw [List.foldlM_cons, bind_eq_ok_iff] at accepted
      obtain ⟨between, first, rest⟩ := accepted
      rw [ih rest, addLeaf_get? first, or_assoc]
      simp only [List.mem_cons, exists_eq_or_imp]

/-- The requirements of a profile are what the tests ask for. -/
theorem ofLeaves_get? {profile : Profile} {leaves : List Expression}
    (accepted : ofLeaves leaves = .ok profile) :
    profile.requirements.get? name = some kind ↔
      ∃ leaf ∈ leaves, (name, kind) ∈ leaf.token.requests := by
  rw [foldlM_addLeaf_get? accepted]
  simp [initial]

end Profile

namespace Item

theorem mem_tokens_map {α : Type} {parts : List α} {item : α → Item}
    {token : Token} :
    token ∈ (parts.map item).flatMap tokens ↔
      ∃ part ∈ parts, token ∈ (item part).tokens := by
  simp [List.flatMap_map]

/-- Every token of a constructed item was constructed. -/
theorem Constructed.token {item : Item} (constructed : item.Constructed)
    {token : Token} (member : token ∈ item.tokens) :
    Constructed (.token token) := by
  induction constructed with
  | given holds => exact holds.elim
  | fact name kind =>
      rw [List.mem_singleton.mp member]
      exact .fact name kind
  | embed rule accepted =>
      rw [List.mem_singleton.mp member]
      exact .embed rule accepted
  | expression made accepted =>
      obtain ⟨_, _, rfl⟩ := Expression.make_eq_ok_iff.mp accepted
      rw [List.mem_singleton.mp member]
      exact made
  | onFact name inRange =>
      rw [List.mem_singleton.mp member]
      exact .fact name _
  | test _ ih =>
      rw [tokens_test] at member
      exact ih member
  | nested _ ih =>
      rw [tokens_nested] at member
      exact ih member
  | conditional junction _ ih =>
      rw [tokens_conditional, mem_tokens_map] at member
      obtain ⟨condition, among, inside⟩ := member
      exact ih condition among inside
  | decisionRow consequent _ ih => exact ih member
  | scoreRow _ accepted ih =>
      obtain ⟨_, rfl⟩ := ScoreRow.make_eq_ok_iff.mp accepted
      exact ih member
  | decisionSet _ ih =>
      rw [tokens_decisionSet, mem_tokens_map] at member
      obtain ⟨row, among, inside⟩ := member
      exact ih row among inside
  | scoreSet _ accepted ih =>
      obtain ⟨_, rfl⟩ := ScoreSet.make_eq_ok_iff.mp accepted
      rw [tokens_scoreSet, mem_tokens_map] at member
      obtain ⟨row, among, inside⟩ := member
      exact ih row among inside
  | scorePairs _ accepted ih =>
      rw [ScoreSet.ofPairs_eq_ok accepted, tokens_scoreSet, List.map_map,
        mem_tokens_map] at member
      obtain ⟨pair, among, inside⟩ := member
      exact ih pair among inside
  | decision _ accepted ih =>
      obtain ⟨_, _, rfl⟩ := DecisionRule.make_eq_ok_iff.mp accepted
      exact ih member
  | decisions _ accepted ih =>
      obtain ⟨ruleset, rfl, made⟩ := DecisionRule.ofSets_eq_ok_iff.mp accepted
      obtain ⟨_, _, rfl⟩ := DecisionRule.make_eq_ok_iff.mp made
      exact ih ruleset (List.mem_singleton_self ruleset) member
  | score _ accepted ih =>
      obtain ⟨_, _, rfl⟩ := ScoreRule.make_eq_ok accepted
      rw [tokens_score, mem_tokens_map] at member
      obtain ⟨ruleset, among, inside⟩ := member
      exact ih ruleset among inside

/-- Every rule that is embedded in a constructed item was constructed. -/
theorem Constructed.embedded {item : Item} (constructed : item.Constructed)
    {label : String} {object : Nat} {kind : ValueKind} {rule : Rule}
    (occurs : (Token.rule label object kind rule).OccursIn item.tokens) :
    Constructed (.rule rule) := by
  have made {label : String} {object : Nat} {kind : ValueKind} {rule : Rule}
      (token : Constructed (.token (.rule label object kind rule))) :
      Constructed (.rule rule) := by
    cases token with
    | given holds => exact holds.elim
    | embed whole accepted =>
        obtain ⟨_, _, _, same⟩ := Token.embed_eq_ok_iff.mp accepted
        cases same
        exact whole
  generalize same : item.tokens = tokens at occurs
  induction occurs generalizing item with
  | among member =>
      subst same
      exact made (constructed.token member)
  | within member _ ih =>
      subst same
      exact ih (made (constructed.token member)) rfl

/-- The profile of a constructed rule is computed from its own tests. -/
theorem Constructed.profile {rule : Rule}
    (constructed : Constructed (.rule rule)) :
    Profile.ofLeaves rule.leaves = .ok rule.profile := by
  cases constructed with
  | given holds => exact holds.elim
  | decision _ accepted =>
      obtain ⟨_, made, rfl⟩ := DecisionRule.make_eq_ok_iff.mp accepted
      exact made
  | decisions _ accepted =>
      obtain ⟨_, _, single⟩ := DecisionRule.ofSets_eq_ok_iff.mp accepted
      obtain ⟨_, made, rfl⟩ := DecisionRule.make_eq_ok_iff.mp single
      exact made
  | score _ accepted =>
      obtain ⟨_, made, rfl⟩ := ScoreRule.make_eq_ok accepted
      exact made

end Item

/-- A constructed rule requires the facts that occur in its expanded tree, each
with its one kind. -/
theorem Rule.requirements_get?_eq_some_iff {rule : Rule}
    (constructed : Item.Constructed (.rule rule)) {name : String}
    {kind : ValueKind} :
    rule.requirements.get? name = some kind ↔
      (Token.fact name kind).OccursIn rule.tokens := by
  induction rule using Rule.embedding_induction with
  | step rule ih =>
      have collected : rule.requirements.get? name = some kind ↔
          ∃ token ∈ rule.tokens, (name, kind) ∈ token.requests := by
        rw [Rule.requirements, Profile.ofLeaves_get? constructed.profile]
        simp [Rule.tokens]
      have inner {label : String} {object : Nat} {other : ValueKind}
          {embedded : Rule}
          (member : Token.rule label object other embedded ∈ rule.tokens) :
          (name, kind) ∈ embedded.requirements.entries ↔
            (Token.fact name kind).OccursIn embedded.tokens := by
        rw [← NameMap.get?_eq_some_iff]
        exact ih _ _ _ _ member (constructed.embedded (.among member))
      rw [collected]
      constructor
      · rintro ⟨token, member, asks⟩
        cases token with
        | fact asked wanted =>
            rw [Token.requests, List.mem_singleton, Prod.mk.injEq] at asks
            rw [← asks.1, ← asks.2] at member
            exact .among member
        | rule label object other embedded =>
            exact .within member ((inner member).mp asks)
      · intro occurs
        cases occurs with
        | among member =>
            exact ⟨_, member, List.mem_singleton_self _⟩
        | within member inside =>
            exact ⟨_, member, (inner member).mpr inside⟩

end Rulebook
