import Mathlib.Data.List.Infix
import Mathlib.Order.Bounds.Basic
import Rulebook.Proofs.WellFormed

/-!
# Chain depth

A path of rule tokens goes from a rule to a rule that one of its own tokens
embeds, and on from there.  The depth that is recorded while a rule is put
together is the number of rules on its longest path.  It looks at the embedded
rules only through what was recorded of them, and it is the same number however
the tests are spread over conditionals, rows and rulesets.

While a rule is evaluated, the rule objects that are being run are those of such
a path.  So there are never more runs at a time than the depth says.
-/

namespace Rulebook

/-- A token stands in an item if some test of the item has it.  The test may be
nested in conditionals, rows and rulesets, but not in another rule. -/
inductive Token.StandsIn (token : Token) : Item → Prop
  | tested {expression : Expression} :
      expression.token = token → token.StandsIn (.expression expression)
  | test {expression : Expression} :
      token.StandsIn (.expression expression) →
        token.StandsIn (.condition (.test expression))
  | nested {inner : Conditional} :
      token.StandsIn (.conditional inner) →
        token.StandsIn (.condition (.nested inner))
  | conditional {junction : Junction} {conditions : List Condition}
      {condition : Condition} :
      condition ∈ conditions → token.StandsIn (.condition condition) →
        token.StandsIn (.conditional ⟨junction, conditions⟩)
  | decisionRow {row : DecisionRow} :
      token.StandsIn (.conditional row.antecedent) →
        token.StandsIn (.decisionRow row)
  | scoreRow {row : ScoreRow} :
      token.StandsIn (.conditional row.antecedent) →
        token.StandsIn (.scoreRow row)
  | decisionSet {set : DecisionSet} {row : DecisionRow} :
      row ∈ set.rows → token.StandsIn (.decisionRow row) →
        token.StandsIn (.decisionSet set)
  | scoreSet {set : ScoreSet} {row : ScoreRow} :
      row ∈ set.rows → token.StandsIn (.scoreRow row) →
        token.StandsIn (.scoreSet set)
  | decision {rule : DecisionRule} :
      token.StandsIn (.decisionSet rule.ruleset) →
        token.StandsIn (.rule (.decision rule))
  | score {rule : ScoreRule} {set : ScoreSet} :
      set ∈ rule.rulesets → token.StandsIn (.scoreSet set) →
        token.StandsIn (.rule (.score rule))

namespace Token

variable {token : Token}

/-- What stands in an item is the token of one of its tests. -/
theorem StandsIn.exists_leaf {item : Item} (stands : token.StandsIn item) :
    ∃ leaf ∈ item.leaves, leaf.token = token := by
  induction stands with
  | tested same => exact ⟨_, List.mem_singleton_self _, same⟩
  | test _ ih =>
      rw [Item.leaves, Condition.leaves]
      exact ih
  | nested _ ih =>
      rw [Item.leaves, Condition.leaves]
      exact ih
  | conditional among _ ih =>
      obtain ⟨leaf, inside, same⟩ := ih
      rw [Item.leaves, Conditional.leaves, Condition.leavesAll_eq_flatMap]
      exact ⟨leaf, List.mem_flatMap.mpr ⟨_, among, inside⟩, same⟩
  | decisionRow _ ih => exact ih
  | scoreRow _ ih => exact ih
  | decisionSet among _ ih =>
      obtain ⟨leaf, inside, same⟩ := ih
      exact ⟨leaf, List.mem_flatMap.mpr ⟨_, among, inside⟩, same⟩
  | scoreSet among _ ih =>
      obtain ⟨leaf, inside, same⟩ := ih
      exact ⟨leaf, List.mem_flatMap.mpr ⟨_, among, inside⟩, same⟩
  | decision _ ih => exact ih
  | score among _ ih =>
      obtain ⟨leaf, inside, same⟩ := ih
      exact ⟨leaf, List.mem_flatMap.mpr ⟨_, among, inside⟩, same⟩

mutual

theorem standsIn_condition {leaf : Expression} :
    (condition : Condition) → leaf ∈ condition.leaves →
      leaf.token.StandsIn (.condition condition)
  | .test expression, member => by
      rw [Condition.leaves, List.mem_singleton] at member
      subst member
      exact .test (.tested rfl)
  | .nested inner, member => by
      rw [Condition.leaves] at member
      exact .nested (standsIn_conditional inner member)

theorem standsIn_conditional {leaf : Expression} :
    (whole : Conditional) → leaf ∈ whole.leaves →
      leaf.token.StandsIn (.conditional whole)
  | ⟨junction, conditions⟩, member => by
      rw [Conditional.leaves] at member
      obtain ⟨condition, among, stands⟩ :=
        standsIn_conditions conditions member
      exact .conditional among stands

theorem standsIn_conditions {leaf : Expression} :
    (conditions : List Condition) → leaf ∈ Condition.leavesAll conditions →
      ∃ condition ∈ conditions, leaf.token.StandsIn (.condition condition)
  | [], member => by simp [Condition.leavesAll] at member
  | condition :: conditions, member => by
      rw [Condition.leavesAll, List.mem_append] at member
      rcases member with first | later
      · exact ⟨condition, List.mem_cons_self,
          standsIn_condition condition first⟩
      · obtain ⟨other, among, stands⟩ := standsIn_conditions conditions later
        exact ⟨other, List.mem_cons_of_mem _ among, stands⟩

end

theorem standsIn_scoreSet {leaf : Expression} {set : ScoreSet}
    (member : leaf ∈ set.leaves) : leaf.token.StandsIn (.scoreSet set) := by
  obtain ⟨row, among, inside⟩ := List.mem_flatMap.mp member
  exact .scoreSet among (.scoreRow (standsIn_conditional _ inside))

theorem standsIn_rule_iff {rule : Rule} :
    token.StandsIn (.rule rule) ↔ token ∈ rule.tokens := by
  constructor
  · intro stands
    exact List.mem_map.mpr stands.exists_leaf
  · intro own
    obtain ⟨leaf, member, rfl⟩ := List.mem_map.mp own
    cases rule with
    | decision rule =>
        obtain ⟨row, among, inside⟩ := List.mem_flatMap.mp member
        exact .decision (.decisionSet among
          (.decisionRow (standsIn_conditional _ inside)))
    | score rule =>
        obtain ⟨set, among, inside⟩ := List.mem_flatMap.mp member
        exact .score among (standsIn_scoreSet inside)

end Token

namespace Rule

/-- The rule objects on a path of rule tokens that starts at a rule.  A token of
the rule embeds the first one, and a token of each of them embeds the next. -/
inductive Path : Rule → List RuleObject → Prop
  | stop (rule : Rule) : Path rule []
  | step {rule : Rule} {label : String} {kind : ValueKind}
      {object : RuleObject} {path : List RuleObject} :
      (Token.rule label object.number kind object.rule).StandsIn (.rule rule) →
        Path object.rule path → Path rule (object :: path)

/-- The numbers of rules on the paths that start at a rule, which is one of
them itself. -/
def pathLengths (rule : Rule) : Set Nat :=
  {length | ∃ path, rule.Path path ∧ path.length + 1 = length}

variable {rule : Rule}

/-- A rule is deeper than every rule that a token of it embeds. -/
theorem chainDepth_lt {label : String} {object : Nat} {kind : ValueKind}
    {embedded : Rule} (constructed : Item.Constructed (.rule rule))
    (own : Token.rule label object kind embedded ∈ rule.tokens) :
    embedded.chainDepth < rule.chainDepth := by
  obtain ⟨leaf, member, token⟩ := List.mem_map.mp own
  have bounded := (Profile.ofLeaves_depth_le_iff constructed.profile).mp le_rfl
  have below := bounded.2 leaf member
  rw [token] at below
  exact below

/-- Unless no rule is embedded in a rule, it is one deeper than some rule that a
token of it embeds. -/
theorem chainDepth_cases (constructed : Item.Constructed (.rule rule)) :
    rule.chainDepth = 1 ∨
      ∃ label object kind embedded,
        Token.rule label object kind embedded ∈ rule.tokens ∧
          rule.chainDepth = embedded.chainDepth + 1 := by
  have least {bound : Nat} : rule.chainDepth ≤ bound ↔
      1 ≤ bound ∧ ∀ leaf ∈ rule.leaves, leaf.token.depth < bound :=
    Profile.ofLeaves_depth_le_iff constructed.profile
  have positive : 1 ≤ rule.chainDepth := (least.mp le_rfl).1
  by_cases one : rule.chainDepth = 1
  · exact .inl one
  · -- One less is not a bound, so a token reaches as deep.
    have notBelow : ¬ rule.chainDepth ≤ rule.chainDepth - 1 := by omega
    rw [least, not_and, not_forall₂] at notBelow
    obtain ⟨leaf, member, deep⟩ := notBelow (by omega)
    have own : leaf.token ∈ rule.tokens := List.mem_map_of_mem member
    cases token : leaf.token with
    | fact name kind =>
        rw [token, Token.depth] at deep
        omega
    | rule label object kind embedded =>
        rw [token] at deep own
        have below := chainDepth_lt constructed own
        rw [Token.depth] at deep
        exact .inr ⟨label, object, kind, embedded, own, by omega⟩

theorem Path.length_lt {path : List RuleObject} (along : rule.Path path)
    (constructed : Item.Constructed (.rule rule)) :
    path.length < rule.chainDepth := by
  induction along with
  | stop rule =>
      exact ((Profile.ofLeaves_depth_le_iff constructed.profile).mp le_rfl).1
  | step stands _ ih =>
      have own := Token.standsIn_rule_iff.mp stands
      have inner := ih (constructed.embedded (.among own))
      have outer := chainDepth_lt constructed own
      rw [List.length_cons]
      omega

theorem exists_path (constructed : Item.Constructed (.rule rule)) :
    ∃ path, rule.Path path ∧ path.length + 1 = rule.chainDepth := by
  induction rule using Rule.embedding_induction with
  | step rule ih =>
      rcases chainDepth_cases constructed with
        one | ⟨label, object, kind, embedded, own, deeper⟩
      · exact ⟨[], .stop rule, one.symm⟩
      · obtain ⟨path, along, length⟩ := ih _ _ _ _ own
          (constructed.embedded (.among own))
        refine ⟨⟨object, embedded⟩ :: path,
          .step (Token.standsIn_rule_iff.mpr own) along, ?_⟩
        rw [List.length_cons, length, deeper]

/-- The recorded depth is the number of rules on the longest path. -/
theorem chainDepth_isGreatest (constructed : Item.Constructed (.rule rule)) :
    IsGreatest rule.pathLengths rule.chainDepth := by
  refine ⟨exists_path constructed, ?_⟩
  rintro _ ⟨path, along, rfl⟩
  exact along.length_lt constructed

end Rule

/-- The rule objects that are being run, the innermost first, after one more
event. -/
def Event.track (running : List Nat) : Event → List Nat
  | .started _ object => object :: running
  | .resolved _ _ _ => running.tail
  | _ => running

/-- The rule objects that are being run after some events, the innermost
first.  The rule that is evaluated is not among them. -/
def Event.inProgress (events : List Event) : List Nat :=
  events.foldl track []

namespace Event

/-- What is not about a rule token neither starts nor ends a run. -/
theorem track_quiet {event : Event} (silent : event.object? = none)
    (running : List Nat) : event.track running = running := by
  cases event with
  | started | resolved | reused => cases silent
  | _ => rfl

theorem foldl_track_quiet {events : List Event} {running : List Nat}
    (quiet : ∀ event ∈ events, event.track running = running) :
    events.foldl track running = running := by
  induction events with
  | nil => rfl
  | cons event events ih =>
      rw [List.forall_mem_cons] at quiet
      rw [List.foldl_cons, quiet.1, ih quiet.2]

/-- Runs that are started and not resolved are all in progress. -/
theorem foldl_track_started (label : String) (objects running : List Nat) :
    (objects.map (started label)).foldl track running =
      objects.reverse ++ running := by
  induction objects generalizing running with
  | nil => rfl
  | cons object objects ih =>
      rw [List.map_cons, List.foldl_cons, ih, List.reverse_cons, List.append_assoc]
      rfl

end Event

/-- What a walk logs stands before what is logged after it. -/
theorem Walk.events_prefix_bind {α β : Type} (walk : Walk α) (next : α → Walk β)
    (cache : Cache) : (walk cache).events <+: ((walk >>= next) cache).events := by
  cases result : (walk cache).result with
  | error defect =>
      rw [bind_apply_of_error next result]
  | ok value =>
      rw [bind_apply_of_ok next result]
      exact List.prefix_append _ _

/-- A token whose rule object has no output yet starts a run. -/
theorem Token.started_prefix (label : String) {object : Nat} (kind : ValueKind)
    (rule : Rule) {facts : Facts} {cache : Cache}
    (unknown : cache.find? object = none) :
    .started label object :: (rule.walk facts cache).events <+:
      ((Token.rule label object kind rule).walk facts cache).events := by
  rcases Token.walk_rule_cases label object kind rule cache with
    ⟨output, known, _⟩ | ⟨_, ⟨defect, _, step⟩ | ⟨outcome, _, step⟩⟩
  · rw [unknown] at known
    cases known
  · rw [step]
  · rw [step, ← List.cons_append]
    exact List.prefix_append _ _

/-- From every cache, and whatever is being run before, the rule objects that are
run in addition are those of a path that starts at the rule.  If the walk does
not fail, they have all come to their end by then. -/
def Walk.Nests {α : Type} (rule : Rule) (walk : Walk α) : Prop :=
  ∀ cache running,
    (∀ before, before <+: (walk cache).events →
      ∃ path, rule.Path path ∧
        before.foldl Event.track running =
          (path.map RuleObject.number).reverse ++ running) ∧
    ∀ value, (walk cache).result = .ok value →
      (walk cache).events.foldl Event.track running = running

/-- Walks that nest in every rule in which the tokens stand that they read. -/
def Walk.NestsWhere (tokens : List Token) (α : Type) (walk _ : Walk α) : Prop :=
  ∀ rule : Rule, tokens ⊆ rule.tokens → walk.Nests rule

namespace Walk.Nests

variable {α β : Type} {rule : Rule} {facts : Facts}

/-- Walks that only log what neither starts nor ends a run. -/
theorem of_quiet {walk : Walk α}
    (quiet : ∀ cache running, ∀ event ∈ (walk cache).events,
      event.track running = running) : Nests rule walk :=
  fun cache running =>
    ⟨fun _ within => ⟨[], .stop rule,
      Event.foldl_track_quiet fun event member =>
        quiet cache running event (within.mem member)⟩,
    fun _ _ => Event.foldl_track_quiet (quiet cache running)⟩

theorem bind {walk : Walk α} {next : α → Walk β} (first : Nests rule walk)
    (second : ∀ value, Nests rule (next value)) :
    Nests rule (walk >>= next) := by
  intro cache running
  obtain ⟨along, restores⟩ := first cache running
  cases result : (walk cache).result with
  | error defect =>
      rw [bind_apply_of_error next result]
      exact ⟨along, fun _ ended => nomatch ended⟩
  | ok value =>
      have restored := restores value result
      obtain ⟨further, restoresNext⟩ := second value (walk cache).cache running
      rw [bind_apply_of_ok next result]
      refine ⟨?_, fun last ended => ?_⟩
      · rintro before ⟨after, whole⟩
        rcases List.append_eq_append_iff.mp whole with
          ⟨rest, inside, _⟩ | ⟨more, beyond, inside⟩
        · exact along before ⟨rest, inside.symm⟩
        · obtain ⟨path, stands, same⟩ := further more ⟨after, inside.symm⟩
          refine ⟨path, stands, ?_⟩
          rw [beyond, List.foldl_append, restored, same]
      · rw [List.foldl_append, restored, restoresNext last ended]

theorem graded : Graded NestsWhere where
  pure := fun _ _ _ _ => of_quiet fun _ _ _ member => nomatch member
  bind := fun first second rule own =>
    (first rule (List.append_subset.mp own).1).bind fun value =>
      second value rule (List.append_subset.mp own).2

/-- While the rule of a token is run, its rule object is the first one on the
path. -/
theorem embed {label : String} {object : Nat} {kind : ValueKind}
    {embedded : Rule}
    (own : Token.rule label object kind embedded ∈ rule.tokens)
    (inner : Nests embedded (embedded.walk facts)) :
    Nests rule ((Token.rule label object kind embedded).walk facts) := by
  intro cache running
  obtain ⟨along, restores⟩ := inner cache (object :: running)
  -- What is run in the embedded rule is run one rule further down.
  have within (before : List Event) (early : before <+:
      .started label object :: (embedded.walk facts cache).events) :
      ∃ path, rule.Path path ∧
        before.foldl Event.track running =
          (path.map RuleObject.number).reverse ++ running := by
    rcases List.prefix_cons_iff.mp early with rfl | ⟨rest, rfl, inside⟩
    · exact ⟨[], .stop rule, rfl⟩
    · obtain ⟨path, stands, same⟩ := along rest inside
      refine ⟨⟨object, embedded⟩ :: path,
        .step (Token.standsIn_rule_iff.mpr own) stands, ?_⟩
      rw [List.foldl_cons, Event.track, same, List.map_cons,
        List.reverse_cons, List.append_assoc]
      rfl
  rcases Token.walk_rule_cases label object kind embedded cache with
    ⟨output, _, step⟩ | ⟨_, ⟨defect, _, step⟩ | ⟨outcome, ended, step⟩⟩
  · rw [step]
    refine ⟨fun before early => ⟨[], .stop rule, ?_⟩, fun _ _ => rfl⟩
    refine Event.foldl_track_quiet fun event member => ?_
    rw [List.mem_singleton.mp (early.mem member)]
    rfl
  · rw [step]
    exact ⟨within, fun _ ended => nomatch ended⟩
  · have restored : (Event.started label object ::
        ((embedded.walk facts cache).events ++
          [.resolved label object outcome.resolved?])).foldl Event.track
            running = running := by
      rw [List.foldl_cons, List.foldl_append, Event.track,
        restores outcome ended]
      rfl
    rw [step]
    refine ⟨fun before early => ?_, fun _ _ => restored⟩
    rw [← List.cons_append] at early
    rcases List.prefix_concat_iff.mp early with rfl | early
    · exact ⟨[], .stop rule, restored⟩
    · exact within before early

theorem log {event : Event} (silent : event.object? = none) :
    NestsWhere [] Unit (Walk.log event) (Walk.log event) := by
  refine fun rule _ => of_quiet fun _ running _ logged => ?_
  rw [List.mem_singleton.mp logged]
  exact Event.track_quiet silent running

theorem tests (rule : Rule) :
    (Interpreter.cached facts).GradedAt (.cached facts) NestsWhere
      rule.leaves := by
  intro leaf member
  refine graded.test (graded.token (fun _ => log) ?_ ?_
    (.among (List.mem_map_of_mem member)))
  · intro name kind _ rule _
    refine of_quiet fun cache _ _ logged => ?_
    change _ ∈ ((Token.fact name kind).walk facts cache).events at logged
    rw [Token.walk] at logged
    cases logged
  · intro label object kind embedded _ inner rule own
    refine embed (own (List.mem_singleton_self _)) ?_
    rw [embedded.walk_eq_interpret]
    exact inner embedded (List.Subset.refl _)

/-- What is run at any moment of an evaluation are the rule objects on a path. -/
theorem exists_path {walk : Walk α} (nests : Nests rule walk)
    {before : List Event} (early : before <+: walk.start.events) :
    ∃ path, rule.Path path ∧
      Event.inProgress before = (path.map RuleObject.number).reverse := by
  obtain ⟨path, along, same⟩ := (nests .empty []).1 before early
  exact ⟨path, along, same.trans (List.append_nil _)⟩

end Walk.Nests

section Sample

/-- A chain of rules, of which each one but the first repeats what the one before
tells.  The first one tells whether a level is positive. -/
def Rule.chain : Nat → Rule
  | 0 => .positive
  | below + 1 =>
      .decision
        ⟨⟨[⟨⟨.any,
          [.test ⟨.rule "below" below .boolean (.chain below),
            .boolean (.is true)⟩]⟩, .boolean true⟩]⟩,
          ⟨.ofList [("level", .numeric)], below + 2⟩⟩

theorem Rule.chainDepth_chain (below : Nat) :
    (chain below).chainDepth = below + 1 := by
  cases below <;> rfl

theorem Rule.chain_constructed {below : Nat} (short : below < maxChainDepth) :
    Item.Constructed (.rule (.chain below)) := by
  induction below with
  | zero => exact positive_constructed
  | succ below ih =>
      have inner := ih (Nat.lt_of_succ_lt short)
      have output : (chain below).outputKind = some .boolean := by
        cases below <;> rfl
      have depth := chainDepth_chain below
      have requests : (chain below).requirements.entries =
          [("level", .numeric)] := by
        cases below <;> rfl
      have test : Item.Constructed (.expression
          ⟨.rule "below" below .boolean (.chain below),
            .boolean (.is true)⟩) :=
        Item.constructed_expression_iff.mpr ⟨Item.constructed_rule_iff.mpr
          ⟨inner, output, by rw [depth]; exact short⟩, rfl, .inl rfl⟩
      refine Item.constructed_decision_iff.mpr
        ⟨List.forall_mem_singleton.mpr test, ?_⟩
      refine bind_eq_ok_iff.mpr ⟨_, Profile.addLeaf_eq_ok_iff.mpr
        ⟨rfl, .ofList [("level", .numeric)], ?_, rfl⟩, ?_⟩
      · rw [Token.requests, requests]
        rfl
      · have deeper : max Profile.initial.depth (below + 1 + 1) = below + 2 :=
          Nat.max_eq_right (Nat.succ_le_succ (Nat.zero_le _))
        rw [Token.depth, depth, deeper]
        rfl

/-- A rule of the chain walks through its only token first. -/
theorem Rule.exists_walk_chain (below : Nat) (facts : Facts) :
    ∃ rest : Option Resolved → Walk Outcome, (chain (below + 1)).walk facts =
      (Token.rule "below" below .boolean (chain below)).walk facts >>= rest := by
  rw [chain, Rule.walk, DecisionRule.walk, DecisionSet.walk, DecisionRow.walkAll,
    Conditional.walk, Condition.walkAll, Condition.walk, Expression.walk]
  simp only [bind_assoc]
  exact ⟨_, rfl⟩

/-- A chain starts all runs, from the top to the bottom, before it logs anything
else. -/
theorem Rule.chain_starts (below : Nat) {facts : Facts} {cache : Cache}
    (unknown : ∀ object < below, cache.find? object = none) :
    (List.range below).reverse.map (Event.started "below") <+:
      ((chain below).walk facts cache).events := by
  induction below with
  | zero => exact List.nil_prefix
  | succ below ih =>
      obtain ⟨rest, first⟩ := exists_walk_chain below facts
      have inner := ih fun object lower => unknown object (Nat.lt_succ_of_lt lower)
      have run : .started "below" below :: ((chain below).walk facts cache).events <+:
          ((Token.rule "below" below .boolean (chain below)).walk facts cache).events :=
        Token.started_prefix _ _ _ (unknown below (Nat.lt_succ_self below))
      rw [List.range_succ, List.reverse_append, List.reverse_singleton,
        List.singleton_append, List.map_cons, first]
      exact (List.cons_prefix_cons.mpr ⟨rfl, inner⟩).trans
        (run.trans (Walk.events_prefix_bind _ rest cache))

theorem Rule.chain_trace (below : Nat) (facts : Facts) :
    (List.range below).reverse.map (Event.started "below") <+:
      (chain below).trace facts :=
  chain_starts below fun object _ => Cache.find?_empty object

end Sample

namespace Rule

variable {rule : Rule} {facts : Facts}

theorem walk_nests (rule : Rule) : Walk.Nests rule (rule.walk facts) := by
  rw [rule.walk_eq_interpret]
  exact Walk.Nests.graded.rule (fun _ => Walk.Nests.log) rule
    (Walk.Nests.tests rule) rule (List.Subset.refl _)

theorem walkDetailed_nests (rule : Rule) :
    Walk.Nests rule (rule.walkDetailed facts) := by
  rw [rule.walkDetailed_eq_interpretDetailed]
  exact Walk.Nests.graded.detailed (fun _ => Walk.Nests.log) rule
    (Walk.Nests.tests rule) rule (List.Subset.refl _)

/-- A rule can be embedded unless its own depth is the greatest that is
allowed. -/
theorem embed_cases {kind : ValueKind} (label : String) (number : Nat)
    (shallow : rule.chainDepth ≤ maxChainDepth)
    (output : rule.outputKind = some kind) :
    Token.embed label ⟨number, rule⟩ =
      if rule.chainDepth = maxChainDepth then
        .error (.chainTooDeep label (maxChainDepth + 1) maxChainDepth)
      else
        .ok (.rule label number kind rule) := by
  unfold Token.embed
  rw [output]
  dsimp only
  by_cases greatest : rule.chainDepth = maxChainDepth
  · rw [greatest, if_pos (Nat.lt_succ_self _), if_pos rfl]
  · rw [if_neg greatest, if_neg (by omega)]

/-- The depth of a rule is the number of rules on its longest path of rule
tokens, and no rule is deeper than the greatest depth that is allowed.  A rule of
that depth, and no other rule with a kind of output, is too deep to be embedded.
While the rule is evaluated, there are never more runs in progress than the depth
says, its own one included. -/
theorem chainDepth_exact (obtainable : Item.Obtainable (.rule rule)) :
    IsGreatest rule.pathLengths rule.chainDepth ∧
      rule.chainDepth ≤ maxChainDepth ∧
      (∀ label number kind, rule.outputKind = some kind →
        ((∃ depth most, Token.embed label ⟨number, rule⟩ =
            .error (.chainTooDeep label depth most)) ↔
          IsGreatest rule.pathLengths maxChainDepth) ∧
        (Token.embed label ⟨number, rule⟩ =
            .ok (.rule label number kind rule) ↔
          ¬ IsGreatest rule.pathLengths maxChainDepth)) ∧
      ∀ facts before,
        before <+: rule.trace facts ∨ before <+: rule.traceDetailed facts →
          (Event.inProgress before).length + 1 ≤ rule.chainDepth := by
  have constructed := obtainable.constructed
  have exact := chainDepth_isGreatest constructed
  have shallow := constructed.chainDepth_le
  have longest : IsGreatest rule.pathLengths maxChainDepth ↔
      rule.chainDepth = maxChainDepth :=
    ⟨exact.unique, fun same => same ▸ exact⟩
  refine ⟨exact, shallow, ?_, ?_⟩
  · intro label number kind output
    rw [longest, embed_cases label number shallow output]
    split
    · next greatest => simp [greatest]
    · next smaller => simp [smaller]
  · intro facts before early
    obtain ⟨path, along, same⟩ : ∃ path, rule.Path path ∧
        Event.inProgress before = (path.map RuleObject.number).reverse := by
      rcases early with plain | detailed
      · exact (walk_nests rule).exists_path plain
      · exact (walkDetailed_nests rule).exists_path detailed
    rw [same, List.length_reverse, List.length_map]
    exact along.length_lt constructed

/-- The longest chain cannot be embedded in another rule.  There is a moment at
which all its rules are being run. -/
theorem chainDepth_exact_chain :
    let whole := chain 31
    let before := (List.range 31).reverse.map (Event.started "below")
    IsGreatest whole.pathLengths 32 ∧
      Token.embed "above" ⟨31, whole⟩ =
        .error (.chainTooDeep "above" 33 32) ∧
      before <+: whole.trace (.ofList [("level", .int 7)]) ∧
      (Event.inProgress before).length + 1 = whole.chainDepth := by
  intro whole before
  have depth : whole.chainDepth = 32 := chainDepth_chain 31
  have law := chainDepth_exact
    (.of_constructed (chain_constructed (by decide : 31 < maxChainDepth)))
  refine ⟨depth ▸ law.1, rfl, chain_trace 31 _, ?_⟩
  rw [depth, Event.inProgress, Event.foldl_track_started, List.reverse_reverse,
    List.append_nil, List.length_range]

end Rule

end Rulebook
