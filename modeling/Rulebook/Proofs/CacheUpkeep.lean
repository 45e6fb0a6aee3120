import Rulebook.Proofs.ChainDepth
import Rulebook.Proofs.FirstContact
import Rulebook.Proofs.SingleRun
import Rulebook.Proofs.Transparency

/-!
# The cache is kept in order

An evaluation walks through stages, from whole rules down to single tokens, and
hands its cache on from stage to stage.  Every stage keeps a correct cache correct
and takes nothing out of it, whether it has a result or fails.

A stage that fails breaks off the runs that are in progress by then.  The rule
objects of these runs fail with the same defect on their own (`Walk.BreaksOff`), so
a correct cache has no output for them.  What surrounds the stage is no part of it,
and a rule object that is not embedded in a stage gets no output there.
-/

namespace Rulebook

open Event

/-! ## Rule objects without an output -/

/-- A rule object that fails has no output in a correct cache. -/
theorem Cache.Correct.find?_eq_none {objects : Nat → Rule} {facts : Facts}
    {cache : Cache} (correct : cache.Correct objects facts) {object : Nat}
    {defect : EvalError}
    (fails : (objects object).meaning facts = .error defect) :
    cache.find? object = none := by
  cases found : cache.find? object with
  | none => rfl
  | some output =>
      have means := correct object output found
      rw [fails] at means
      cases means

/-- A rule object that is not run has the output that it had before, if any. -/
theorem Step.Orderly.find?_of_not_started {α : Type} {cache : Cache}
    {step : Step α} (orderly : step.Orderly cache) {object : Nat}
    (notRun : object ∉ starts step.events) :
    step.cache.find? object = cache.find? object := by
  have notFound : ((outputs step.events).reverse).lookup object = none := by
    rw [List.lookup_eq_none_iff]
    intro output member
    rw [bne_iff_ne]
    rintro rfl
    exact notRun (orderly.ends.subset
      (List.mem_map_of_mem (List.mem_reverse.mp member)))
  rw [Cache.find?, orderly.grows, List.lookup_append, notFound, Option.none_or,
    Cache.find?]

/-- A call gives no output to rule objects that are not embedded in what it
evaluates. -/
theorem Call.find?_walk {call : Call} (coherent : Token.Coherent call.tokens)
    (facts : Facts) (cache : Cache) {object : Nat}
    (outside : object ∉ Token.embeddedObjects call.tokens) :
    (call.walk facts cache).cache.find? object = cache.find? object := by
  refine (Walk.Orderly.call coherent cache).find?_of_not_started fun started => ?_
  obtain ⟨event, logged, about⟩ := object?_of_mem_starts started
  exact outside (Walk.Within.call call cache event logged object about)

/-! ## Runs that are broken off -/

/-- The runs that a step leaves in progress are those of the given rule objects,
the innermost first.  All of them fail with the defect of the step. -/
structure Step.LeavesOpen {α : Type} (objects : Nat → Rule) (facts : Facts)
    (opened : List Nat) (step : Step α) : Prop where
  tracked : ∀ running, step.events.foldl track running = opened ++ running
  fails : ∀ object ∈ opened, ∃ defect, step.result = .error defect ∧
    (objects object).meaning facts = .error defect

namespace Step.LeavesOpen

variable {objects : Nat → Rule} {facts : Facts} {α : Type} {step : Step α}
  {opened : List Nat}

/-- A step that neither starts nor ends a run. -/
theorem of_quiet (quiet : ∀ running, ∀ event ∈ step.events,
    event.track running = running) : LeavesOpen objects facts [] step :=
  ⟨fun running => foldl_track_quiet (quiet running),
    fun _ absurd => nomatch absurd⟩

/-- A step that has a result has ended its runs. -/
theorem eq_nil (leaves : LeavesOpen objects facts opened step) {value : α}
    (ok : step.result = .ok value) : opened = [] := by
  refine List.eq_nil_iff_forall_not_mem.mpr fun object member => ?_
  obtain ⟨defect, failed, _⟩ := leaves.fails object member
  cases ok.symm.trans failed

theorem meaning_eq (leaves : LeavesOpen objects facts opened step)
    {defect : EvalError} (failed : step.result = .error defect) :
    ∀ object ∈ opened, (objects object).meaning facts = .error defect := by
  intro object member
  obtain ⟨other, same, meaning⟩ := leaves.fails object member
  cases failed.symm.trans same
  exact meaning

end Step.LeavesOpen

/-- From every correct cache, the walk comes to the result and keeps the cache in
order, and if it breaks off runs, it breaks off those of failing rule objects. -/
structure Walk.BreaksOff (objects : Nat → Rule) (facts : Facts) (α : Type)
    (walk : Walk α) (result : Except EvalError α) : Prop where
  means : Means objects facts α walk result
  leaves : ∀ cache : Cache, cache.Correct objects facts →
    ∃ opened, (walk cache).LeavesOpen objects facts opened

namespace Walk.BreaksOff

variable {objects : Nat → Rule} {facts : Facts} {α β : Type}

theorem of_quiet {walk : Walk α} {result : Except EvalError α}
    (means : Means objects facts α walk result)
    (quiet : ∀ cache running, ∀ event ∈ (walk cache).events,
      event.track running = running) : BreaksOff objects facts α walk result :=
  ⟨means, fun cache _ => ⟨[], .of_quiet (quiet cache)⟩⟩

/-- A walk that goes on to another one has no run in progress by then. -/
theorem bind {walk : Walk α} {result : Except EvalError α}
    {next : α → Walk β} {rest : α → Except EvalError β}
    (first : BreaksOff objects facts α walk result)
    (after : ∀ value, BreaksOff objects facts β (next value) (rest value)) :
    BreaksOff objects facts β (walk >>= next) (result >>= rest) := by
  refine ⟨first.means.bind fun value => (after value).means, ?_⟩
  intro cache correct
  obtain ⟨opened, leaves⟩ := first.leaves cache correct
  cases ended : (walk cache).result with
  | error defect =>
      rw [bind_apply_of_error next ended]
      exact ⟨opened, leaves.tracked, fun object member =>
        ⟨defect, rfl, leaves.meaning_eq ended object member⟩⟩
  | ok value =>
      obtain ⟨further, later⟩ :=
        (after value).leaves _ (first.means cache correct).2.1
      have restored := leaves.tracked
      rw [leaves.eq_nil ended] at restored
      rw [bind_apply_of_ok next ended]
      refine ⟨further, fun running => ?_, later.fails⟩
      rw [List.foldl_append, restored, List.nil_append, later.tracked]

theorem compatible :
    Compatible (.cached facts) (.plain facts) (BreaksOff objects facts) where
  pure := fun value => of_quiet (.pure value) fun _ _ _ member => nomatch member
  bind := bind
  log := fun event silent => of_quiet (.log event) fun _ running _ member => by
    rw [List.mem_singleton.mp member]
    exact track_quiet silent running

theorem fact (name : String) (kind : ValueKind) :
    BreaksOff objects facts _ ((Token.fact name kind).walk facts)
      ((Token.fact name kind).meaning facts) := by
  refine of_quiet (.fact name kind) fun cache running event member => ?_
  rw [Token.walk, ofExcept_apply] at member
  cases member

/-- If the rule of a token fails, the run of its rule object is broken off, and
so are the runs that were in progress inside. -/
theorem embed (label : String) {object : Nat} (kind : ValueKind) {rule : Rule}
    (held : objects object = rule)
    (inner : BreaksOff objects facts _ (rule.walk facts) (rule.meaning facts)) :
    BreaksOff objects facts _ ((Token.rule label object kind rule).walk facts)
      ((Token.rule label object kind rule).meaning facts) := by
  refine ⟨.embed label kind held inner.means, fun cache correct => ?_⟩
  obtain ⟨opened, leaves⟩ := inner.leaves cache correct
  rcases Token.walk_rule_cases label object kind rule cache with
    ⟨output, _, step⟩ | ⟨_, ⟨defect, failed, step⟩ | ⟨outcome, ended, step⟩⟩
  · rw [step]
    exact ⟨[], fun running => rfl, fun _ absurd => nomatch absurd⟩
  · have own : (objects object).meaning facts = .error defect := by
      rw [held, ← (inner.means cache correct).1, failed]
    rw [step]
    refine ⟨opened ++ [object], fun running => ?_, fun other member => ?_⟩
    · rw [List.foldl_cons, track, leaves.tracked, List.append_assoc]
      rfl
    · refine ⟨defect, rfl, ?_⟩
      rcases List.mem_append.mp member with inside | last
      · exact leaves.meaning_eq failed other inside
      · rw [List.mem_singleton.mp last]
        exact own
  · rw [step]
    refine ⟨[], fun running => ?_, fun _ absurd => nomatch absurd⟩
    rw [List.foldl_cons, List.foldl_append, track, leaves.tracked,
      leaves.eq_nil ended]
    rfl

/-- If a table holds the rule objects below a call, the call breaks off the runs
of failing rule objects only. -/
theorem call {call : Call} (held : Token.HeldBy objects call.tokens) :
    BreaksOff objects facts _ (call.walk facts) (call.meaning facts) := by
  rw [call.walk_eq_interpret, call.meaning_eq_interpret]
  refine compatible.call (fun name kind _ => fact name kind) ?_
  intro label object kind rule occurs inner
  rw [← rule.walk_eq_interpret, ← rule.meaning_eq_interpret] at inner
  exact embed label kind (held _ _ _ _ occurs) inner

end Walk.BreaksOff

/-! ## Stages -/

/-- What an evaluation walks through. -/
inductive Stage where
  | token (token : Token)
  | expression (expression : Expression)
  | condition (condition : Condition)
  | conditional (conditional : Conditional)
  | decisionSet (set : DecisionSet)
  | scoreSet (set : ScoreSet)
  | decisionRule (rule : DecisionRule)
  | scoreRule (rule : ScoreRule)
  | rule (rule : Rule)

namespace Stage

def item : Stage → Item
  | token whole => .token whole
  | expression tested => .expression tested
  | condition part => .condition part
  | conditional whole => .conditional whole
  | decisionSet set => .decisionSet set
  | scoreSet set => .scoreSet set
  | decisionRule whole => .rule (.decision whole)
  | scoreRule whole => .rule (.score whole)
  | rule whole => .rule whole

def tokens (stage : Stage) : List Token :=
  stage.item.tokens

/-- What walking through a stage results in. -/
def Result : Stage → Type
  | token _ => Option Resolved
  | expression _ | condition _ | conditional _ => Bool
  | decisionSet _ => Option (Nat × DecisionRow)
  | scoreSet _ => Option (Nat × ScoreRow)
  | decisionRule _ => Option Decision
  | scoreRule _ => Float
  | rule _ => Outcome

def walk (facts : Facts) : (stage : Stage) → Walk stage.Result
  | token whole => whole.walk facts
  | expression tested => tested.walk facts
  | condition part => part.walk facts
  | conditional whole => whole.walk facts
  | decisionSet set => set.walk facts
  | scoreSet set => set.walk facts
  | decisionRule whole => whole.walk facts
  | scoreRule whole => whole.walk facts
  | rule whole => whole.walk facts

/-- The call that goes through a stage. -/
def call : Stage → Call
  | token whole => .resolve whole
  | expression tested | condition (.test tested) => .test tested
  | conditional whole | condition (.nested whole) => .combine whole
  | decisionSet set => .decide set
  | scoreSet set => .contribute set
  | decisionRule whole => .execute (.decision whole)
  | scoreRule whole => .execute (.score whole)
  | rule whole => .execute whole

theorem tokens_call (stage : Stage) : stage.call.tokens = stage.tokens := by
  cases stage with
  | condition part =>
      cases part with
      | test tested => exact (Item.tokens_test tested).symm
      | nested whole => exact (Item.tokens_nested whole).symm
  | _ => rfl

/-- A call goes through its stage and does something with the result. -/
theorem exists_walk_call (facts : Facts) (stage : Stage) :
    ∃ finish : stage.Result → Answer,
      stage.call.walk facts = finish <$> stage.walk facts := by
  cases stage with
  | condition part =>
      cases part with
      | test tested =>
          refine ⟨.truth, ?_⟩
          rw [walk, Condition.walk]
          rfl
      | nested whole =>
          refine ⟨.truth, ?_⟩
          rw [walk, Condition.walk]
          rfl
  | decisionRule whole =>
      refine ⟨fun decision => .outcome (.ofDecision? decision), ?_⟩
      rw [call, Call.walk, Rule.walk, walk]
      simp only [map_eq_pure_bind, bind_assoc, pure_bind]
      rfl
  | scoreRule whole =>
      refine ⟨fun total => .outcome (.score total), ?_⟩
      rw [call, Call.walk, Rule.walk, walk]
      simp only [map_eq_pure_bind, bind_assoc, pure_bind]
      rfl
  | _ => exact ⟨_, rfl⟩

variable {objects : Nat → Rule} {facts : Facts} {stage : Stage} {cache : Cache}

/-- A stage stands inside a rule if its tokens occur there.  A rule stands inside
itself. -/
def Inside (stage : Stage) (rule : Rule) : Prop :=
  ∀ token ∈ stage.tokens, token.OccursIn rule.tokens

/-- What a stage makes of a cache, whether it fails or not. -/
structure LeavesInOrder (objects : Nat → Rule) (facts : Facts) (cache : Cache)
    (stage : Stage) : Prop where
  /-- Each output in the cache is what its rule object means. -/
  correct : (stage.walk facts cache).cache.Correct objects facts
  /-- What was in the cache is there unchanged. -/
  keeps : cache.Keeps (stage.walk facts cache).cache
  /-- If the stage fails, the rule objects that are being run by then fail with
  it.  They had no output and have got none. -/
  broken : ∀ defect, (stage.walk facts cache).result = .error defect →
    ∀ object ∈ inProgress (stage.walk facts cache).events,
      (objects object).meaning facts = .error defect ∧
        cache.find? object = none ∧
        (stage.walk facts cache).cache.find? object = none
  /-- A rule object around the stage has got no output. -/
  around : ∀ object, stage.Inside (objects object) →
    (stage.walk facts cache).cache.find? object = cache.find? object

/-- No rule object around a stage is embedded in it. -/
theorem Inside.not_embedded {object : Nat} (inside : stage.Inside (objects object))
    (held : Token.HeldBy objects stage.tokens) :
    object ∉ Token.embeddedObjects stage.tokens := by
  rintro ⟨label, kind, rule, occurs⟩
  have around : (Token.rule label object kind rule).OccursIn
      (objects object).tokens := by
    cases occurs with
    | among member => exact inside _ member
    | within member inner => exact (inside _ member).inside inner
  have smaller := around.sizeOf_embedded
  rw [held _ _ _ _ occurs] at smaller
  exact Nat.lt_irrefl _ smaller

/-- A stage leaves a correct cache in order.  This is one law for tokens, tests,
conditions, conditionals, rulesets and rules, since a call goes through each of
them. -/
theorem keeps_cache_correct (held : Token.HeldBy objects stage.tokens)
    (correct : cache.Correct objects facts) :
    stage.LeavesInOrder objects facts cache := by
  obtain ⟨finish, through⟩ := stage.exists_walk_call facts
  have below : Token.HeldBy objects stage.call.tokens := by
    rw [stage.tokens_call]
    exact held
  have whole : stage.call.walk facts cache =
      ⟨finish <$> (stage.walk facts cache).result,
        (stage.walk facts cache).cache, (stage.walk facts cache).events⟩ := by
    rw [through, Walk.map_apply]
  have breaks : Walk.BreaksOff objects facts _ (stage.call.walk facts)
      (stage.call.meaning facts) :=
    .call below
  obtain ⟨_, stays, keeps⟩ := breaks.means cache correct
  obtain ⟨opened, leaves⟩ := breaks.leaves cache correct
  rw [whole] at stays keeps leaves
  refine ⟨stays, keeps, fun defect failed object running => ?_,
    fun object inside => ?_⟩
  · have running : object ∈ opened := by
      rwa [inProgress, leaves.tracked, List.append_nil] at running
    have fails : (objects object).meaning facts = .error defect := by
      refine leaves.meaning_eq ?_ object running
      rw [failed]
      rfl
    exact ⟨fails, correct.find?_eq_none fails, stays.find?_eq_none fails⟩
  · have outside := inside.not_embedded held
    rw [← stage.tokens_call] at outside
    have same := Call.find?_walk below.coherent facts cache outside
    rwa [whole] at same

/-- A rule object that asks for the sign of a level fails after the sign was found
out.  The sign is in the cache then, and of the failing rule object there is
nothing. -/
theorem keeps_cache_correct_gated :
    let facts : Facts := .ofList [("level", .int 3), ("pet", .boolean true)]
    let objects : Nat → Rule := fun object =>
      if object = 0 then .positive else .gated 0
    let stage : Stage := .token (.rule "gate" 1 .string (.gated 0))
    Token.HeldBy objects stage.tokens ∧
      Cache.empty.Correct objects facts ∧
      (stage.walk facts .empty).result =
        .error (.typeMismatch "pet" .string .boolean) ∧
      inProgress (stage.walk facts .empty).events = [1] ∧
      (stage.walk facts .empty).cache.find? 0 = some (some (.boolean true)) ∧
      (stage.walk facts .empty).cache.find? 1 = none := by
  intro facts objects stage
  have held : Token.HeldBy objects stage.tokens := by
    intro label object kind rule occurs
    have sign : (Rule.gated 0).tokens =
        [.rule "sign" 0 .boolean .positive] ++ [.fact "pet" .string] :=
      rfl
    have level : Rule.positive.tokens = [.fact "level" .numeric] := rfl
    rcases Token.occursIn_rule.mp occurs with ⟨⟨⟩⟩ | inner
    · rfl
    · rw [sign, Token.occursIn_append, Token.occursIn_rule, level,
        Token.occursIn_fact, Token.occursIn_fact] at inner
      rcases inner with (⟨⟨⟩⟩ | ⟨⟨⟩⟩) | ⟨⟨⟩⟩
      rfl
  have empty : Cache.empty.Correct objects facts := Cache.correct_empty
  have failed : (stage.walk facts .empty).result =
      .error (.typeMismatch "pet" .string .boolean) := by
    with_unfolding_all rfl
  have running : inProgress (stage.walk facts .empty).events = [1] := by
    with_unfolding_all rfl
  have law := keeps_cache_correct held empty
  refine ⟨held, empty, failed, running, by with_unfolding_all rfl, ?_⟩
  exact (law.broken _ failed 1 (running ▸ List.mem_singleton_self 1)).2.2

end Stage

end Rulebook
