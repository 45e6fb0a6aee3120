import Rulebook.Proofs.SingleRun
import Rulebook.Proofs.Unshared

/-!
# Sharing folds the trace

A trace can be unfolded: from the left to the right, each reuse of an output is
replaced by the events of the earlier run that the output comes from, between a
start and a resolution.  The unfolded trace of an evaluation with a cache is what
the unshared evaluator logs (`Rule.unfold_trace`).

The invariant that carries this is `Cache.Told`: for every rule object in the
cache, the earlier events hold its run, and the run is the one of the unshared
evaluator.  An object that is not in the cache was not told about before, so its
run will be the first one.
-/

namespace Rulebook

namespace Event

/-- Whether an event is the start of a run of a rule object. -/
def begins (object : Nat) : Event → Bool
  | .started _ other => other = object
  | _ => false

/-- The events inside the first run of a rule object. -/
def run (object : Nat) (events : List Event) : List Event :=
  ((events.dropWhile fun event => !event.begins object).drop 1).takeWhile
    fun event => !event.resolves object

/-- Unfold events after earlier ones that were unfolded before.  In the place of
a reuse stands the earlier run of its rule object, which has the label and the
value of the reuse now. -/
def unfold (earlier : List Event) : List Event → List Event
  | [] => earlier
  | .reused label object value :: events =>
      unfold (earlier ++ .started label object ::
        (run object earlier ++ [.resolved label object value])) events
  | event :: events => unfold (earlier ++ [event]) events

/-- Whether an event is a reuse. -/
def isReused : Event → Bool
  | .reused _ _ _ => true
  | _ => false

theorem unfold_append (earlier first second : List Event) :
    unfold earlier (first ++ second) = unfold (unfold earlier first) second := by
  induction first generalizing earlier with
  | nil => rfl
  | cons event events ih => cases event <;> exact ih _

theorem unfold_singleton {event : Event} (once : event.isReused = false)
    (earlier : List Event) : unfold earlier [event] = earlier ++ [event] := by
  cases event with
  | reused => cases once
  | _ => rfl

theorem unfold_started (earlier events : List Event) (label : String)
    (object : Nat) :
    unfold earlier (.started label object :: events) =
      unfold (earlier ++ [.started label object]) events :=
  rfl

/-- Where nothing is reused there is nothing to unfold. -/
theorem unfold_eq_append {events : List Event}
    (once : ∀ event ∈ events, event.isReused = false)
    (earlier : List Event) : unfold earlier events = earlier ++ events := by
  induction events generalizing earlier with
  | nil => exact (List.append_nil earlier).symm
  | cons event events ih =>
      rw [List.forall_mem_cons] at once
      rw [← List.singleton_append, unfold_append, unfold_singleton once.1,
        ih once.2, List.append_assoc]

theorem begins_eq_false {event : Event} {object : Nat}
    (other : event.object? ≠ some object) : event.begins object = false := by
  cases event with
  | started label number =>
      exact decide_eq_false fun same => other (congrArg some same)
  | _ => rfl

theorem resolves_eq_false {event : Event} {object : Nat}
    (other : event.object? ≠ some object) : event.resolves object = false := by
  cases event with
  | resolved label number value =>
      exact decide_eq_false fun same => other (congrArg some same)
  | _ => rfl

/-- A rule object was run with some events inside the run, which tell of other
rule objects, as do the events before the run. -/
def Ran (object : Nat) (inside events : List Event) : Prop :=
  ∃ before label last value after,
    events = before ++ .started label object ::
      (inside ++ .resolved last object value :: after) ∧
    (∀ event ∈ before, event.object? ≠ some object) ∧
    ∀ event ∈ inside, event.object? ≠ some object

namespace Ran

variable {object : Nat} {inside events : List Event}

theorem run_eq (ran : Ran object inside events) :
    run object events = inside := by
  obtain ⟨before, label, last, value, after, rfl, others, own⟩ := ran
  rw [run, List.dropWhile_append_of_pos,
    List.dropWhile_cons_of_neg (by simp [begins]), List.drop_one,
    List.tail_cons, List.takeWhile_append_of_pos,
    List.takeWhile_cons_of_neg (by simp [resolves]), List.append_nil]
  · intro event member
    rw [resolves_eq_false (own event member)]
    rfl
  · intro event member
    rw [begins_eq_false (others event member)]
    rfl

theorem append (ran : Ran object inside events) (more : List Event) :
    Ran object inside (events ++ more) := by
  obtain ⟨before, label, last, value, after, rfl, others, own⟩ := ran
  refine ⟨before, label, last, value, after ++ more, ?_, others, own⟩
  simp

theorem subset (ran : Ran object inside events) : inside ⊆ events := by
  obtain ⟨before, label, last, value, after, rfl, _, _⟩ := ran
  intro event member
  simp [member]

end Ran

/-- What holds of a rule object and of everything that its run tells of holds of
everything that the events of the run tell of, from start to end. -/
theorem tells_of_run {label last : String} {object : Nat}
    {value : Option Resolved} {inside : List Event} {holds : Nat → Prop}
    (own : holds object)
    (inner : ∀ event ∈ inside, ∀ number, event.object? = some number →
      holds number) :
    ∀ event ∈ Event.started label object ::
        (inside ++ [.resolved last object value]),
      ∀ number, event.object? = some number → holds number := by
  intro event member number tells
  simp only [List.mem_cons, List.mem_append, List.not_mem_nil,
    or_false] at member
  rcases member with rfl | there | rfl
  · cases tells
    exact own
  · exact inner event there number tells
  · cases tells
    exact own

end Event

open Event

/-! ## What earlier events tell of the cache -/

section Telling

variable (objects : Nat → Rule) (facts : Facts)

/-- Earlier events hold the run of a rule object that has the given output.  The
unshared evaluator comes to the same output with the same events. -/
structure Event.Tell (object : Nat) (output : Option Resolved)
    (inside earlier : List Event) : Prop where
  ran : Ran object inside earlier
  inner : ∀ event ∈ inside, ∀ number, event.object? = some number →
    number ∈ Token.embeddedObjects (objects object).tokens
  again : ∃ outcome, outcome.resolved? = output ∧ ∀ cache,
    ((objects object).interpret (.unshared facts) cache).result = .ok outcome ∧
      ((objects object).interpret (.unshared facts) cache).events =
        inside.map forget

/-- Earlier events tell of everything that is in the cache. -/
def Cache.Told (cache : Cache) (earlier : List Event) : Prop :=
  ∀ object output, cache.find? object = some output →
    ∃ inside, Tell objects facts object output inside earlier

/-- Earlier events tell of nothing below some tokens but what is in the
cache. -/
def Cache.Covers (cache : Cache) (tokens : List Token) (earlier : List Event) :
    Prop :=
  ∀ event ∈ earlier, ∀ object ∈ Token.embeddedObjects tokens,
    event.object? = some object → cache.find? object ≠ none

/-- After earlier events, a step logs what unfolds to more events.  These are
the events of a plain walk that comes to the same result. -/
structure Step.Unfolds {α : Type} (tokens : List Token) (cache : Cache)
    (earlier : List Event) (step : Step α) (plain : Walk α)
    (more : List Event) : Prop where
  result : ∀ other, (plain other).result = step.result
  events : ∀ other, (plain other).events = more.map forget
  unfold : Event.unfold earlier step.events = earlier ++ more
  inner : ∀ event ∈ more, ∀ object, event.object? = some object →
    object ∈ Token.embeddedObjects tokens
  keeps : ∀ object, cache.find? object ≠ none →
    step.cache.find? object ≠ none
  told : ∀ value, step.result = .ok value →
    step.cache.Told objects facts (earlier ++ more)
  covered : ∀ value, step.result = .ok value →
    ∀ event ∈ more, ∀ object, event.object? = some object →
      step.cache.find? object ≠ none

/-- A walk unfolds to a plain walk, from every cache that earlier events tell
of. -/
def Walk.Unfolds (tokens : List Token) (α : Type) (walk plain : Walk α) :
    Prop :=
  ∀ cache earlier, cache.Told objects facts earlier →
    cache.Covers tokens earlier →
      ∃ more, (walk cache).Unfolds objects facts tokens cache earlier plain more

end Telling

variable {objects : Nat → Rule} {facts : Facts}

theorem Event.Tell.append {object : Nat} {output : Option Resolved}
    {inside earlier : List Event}
    (tell : Tell objects facts object output inside earlier)
    (more : List Event) :
    Tell objects facts object output inside (earlier ++ more) :=
  ⟨tell.ran.append more, tell.inner, tell.again⟩

namespace Cache

variable {cache : Cache} {earlier : List Event}

theorem Told.append (told : cache.Told objects facts earlier)
    (more : List Event) : cache.Told objects facts (earlier ++ more) := by
  intro object output found
  obtain ⟨inside, tell⟩ := told object output found
  exact ⟨inside, tell.append more⟩

theorem Covers.mono {tokens fewer : List Token}
    (covers : cache.Covers tokens earlier)
    (subset : Token.embeddedObjects fewer ⊆ Token.embeddedObjects tokens) :
    cache.Covers fewer earlier :=
  fun event member object inside => covers event member object (subset inside)

/-- Nothing that is not in the cache was told about. -/
theorem Covers.untold {tokens : List Token} {object : Nat}
    (covers : cache.Covers tokens earlier)
    (inside : object ∈ Token.embeddedObjects tokens)
    (unused : cache.find? object = none) :
    ∀ event ∈ earlier, event.object? ≠ some object :=
  fun event member about => covers event member object inside about unused

/-- An output that was added is in the cache. -/
theorem find?_add_own (cache : Cache) (object : Nat)
    (output : Option Resolved) :
    (cache.add object output).find? object ≠ none := by
  rw [find?_add, if_pos rfl]
  nofun

/-- What is in the cache stays there when an output is added. -/
theorem find?_add_keeps {number : Nat} (known : cache.find? number ≠ none)
    (object : Nat) (output : Option Resolved) :
    (cache.add object output).find? number ≠ none := by
  rw [find?_add]
  split
  · nofun
  · exact known

/-- An output may be added once earlier events tell of it. -/
theorem Told.add (told : cache.Told objects facts earlier) {object : Nat}
    {output : Option Resolved} {inside : List Event}
    (tell : Tell objects facts object output inside earlier) :
    (cache.add object output).Told objects facts earlier := by
  intro number other found
  rw [find?_add] at found
  split at found
  · next same =>
      cases found
      subst same
      exact ⟨inside, tell⟩
  · exact told number other found

end Cache

namespace Token

variable {tokens more : List Token}

theorem embeddedObjects_mono (subset : tokens ⊆ more) :
    embeddedObjects tokens ⊆ embeddedObjects more := by
  rintro object ⟨label, kind, rule, occurs⟩
  exact ⟨label, kind, rule, occurs.mono subset⟩

theorem mem_embeddedObjects_own (label : String) (object : Nat)
    (kind : ValueKind) (rule : Rule) :
    object ∈ embeddedObjects [.rule label object kind rule] :=
  ⟨label, kind, rule, .among (List.mem_singleton_self _)⟩

theorem embeddedObjects_inside (label : String) (object : Nat)
    (kind : ValueKind) (rule : Rule) :
    embeddedObjects rule.tokens ⊆
      embeddedObjects [.rule label object kind rule] := by
  rintro number ⟨other, otherKind, embedded, occurs⟩
  exact ⟨other, otherKind, embedded, occursIn_rule.mpr (.inr occurs)⟩

end Token

namespace Walk.Unfolds

/-- A result that is given without any event unfolds to itself. -/
theorem ofExcept (tokens : List Token) {α : Type}
    (result : Except EvalError α) :
    Unfolds objects facts tokens α (Walk.ofExcept result)
      (Walk.ofExcept result) := by
  intro cache earlier told covers
  refine ⟨[], fun _ => rfl, fun _ => rfl, ?_, ?_, fun _ => id, ?_, ?_⟩
  · exact (List.append_nil earlier).symm
  · exact fun event member => absurd member List.not_mem_nil
  · intro _ _
    rw [List.append_nil]
    exact told
  · exact fun _ _ event member => absurd member List.not_mem_nil

theorem pure (tokens : List Token) {α : Type} (value : α) :
    Unfolds objects facts tokens α (Pure.pure value) (Pure.pure value) :=
  ofExcept tokens (.ok value)

theorem log {event : Event} (silent : event.object? = none) :
    Unfolds objects facts [] Unit (Walk.log event) (Walk.log event) := by
  intro cache earlier told covers
  have once : event.isReused = false := by
    cases event with
    | reused => cases silent
    | _ => rfl
  have nothing (number : Nat) : event.object? ≠ some number := by
    rw [silent]
    nofun
  refine ⟨[event], fun _ => rfl, ?_, unfold_singleton once earlier, ?_,
    fun _ => id, fun _ _ => told.append [event], ?_⟩
  · intro _
    rw [List.map_singleton, forget_eq_self silent]
    rfl
  · rw [List.forall_mem_singleton]
    exact fun number about => (nothing number about).elim
  · intro _ _
    rw [List.forall_mem_singleton]
    exact fun number about => (nothing number about).elim

section Following

variable {α β : Type} {before after : List Token} {cache : Cache}
  {earlier more : List Event} {plain : Walk α}

/-- Where the first walk fails, nothing follows. -/
theorem stop {step : Step α} {defect : EvalError}
    (one : step.Unfolds objects facts before cache earlier plain more)
    (failed : step.result = .error defect) (plainNext : α → Walk β) :
    (⟨.error defect, step.cache, step.events⟩ : Step β).Unfolds objects facts
      (before ++ after) cache earlier (plain >>= plainNext) more := by
  have again (other : Cache) : (plain other).result = .error defect :=
    (one.result other).trans failed
  refine ⟨?_, ?_, one.unfold, ?_, one.keeps, nofun, nofun⟩
  · intro other
    rw [bind_apply_of_error plainNext (again other)]
  · intro other
    rw [bind_apply_of_error plainNext (again other)]
    exact one.events other
  · intro event member object about
    exact Token.embeddedObjects_mono (List.subset_append_left before after)
      (one.inner event member object about)

/-- What the first walk told about below the later tokens is in its cache. -/
theorem covers_after {step : Step α} {value : α}
    (one : step.Unfolds objects facts before cache earlier plain more)
    (ended : step.result = .ok value) (covers : cache.Covers after earlier) :
    step.cache.Covers after (earlier ++ more) := by
  intro event member object inside about
  rcases List.mem_append.mp member with old | new
  · exact one.keeps object (covers event old object inside about)
  · exact one.covered value ended event new object about

/-- Where the first walk has a result, what the second walk unfolds to
follows. -/
theorem follow {step : Step α} {last : Step β} {value : α}
    {plainNext : α → Walk β} {others : List Event}
    (one : step.Unfolds objects facts before cache earlier plain more)
    (ended : step.result = .ok value)
    (two : last.Unfolds objects facts after step.cache (earlier ++ more)
      (plainNext value) others) :
    (⟨last.result, last.cache, step.events ++ last.events⟩ : Step β).Unfolds
      objects facts (before ++ after) cache earlier (plain >>= plainNext)
        (more ++ others) := by
  have again (other : Cache) : (plain other).result = .ok value :=
    (one.result other).trans ended
  refine ⟨?_, ?_, ?_, ?_, ?_, ?_, ?_⟩
  · intro other
    rw [bind_apply_of_ok plainNext (again other)]
    exact two.result _
  · intro other
    rw [bind_apply_of_ok plainNext (again other), List.map_append, one.events,
      two.events]
  · rw [unfold_append, one.unfold, two.unfold, List.append_assoc]
  · intro event member object about
    rcases List.mem_append.mp member with old | new
    · exact Token.embeddedObjects_mono (List.subset_append_left before after)
        (one.inner event old object about)
    · exact Token.embeddedObjects_mono (List.subset_append_right before after)
        (two.inner event new object about)
  · exact fun object known => two.keeps object (one.keeps object known)
  · intro result ok
    rw [← List.append_assoc]
    exact two.told result ok
  · intro result ok event member object about
    rcases List.mem_append.mp member with old | new
    · exact two.keeps object (one.covered value ended event old object about)
    · exact two.covered result ok event new object about

theorem bind {walk : Walk α} {next plainNext : α → Walk β}
    (first : Unfolds objects facts before α walk plain)
    (second : ∀ value,
      Unfolds objects facts after β (next value) (plainNext value)) :
    Unfolds objects facts (before ++ after) β (walk >>= next)
      (plain >>= plainNext) := by
  intro cache earlier told covers
  obtain ⟨more, one⟩ := first cache earlier told
    (covers.mono (Token.embeddedObjects_mono (List.subset_append_left _ _)))
  cases ended : (walk cache).result with
  | error defect =>
      rw [bind_apply_of_error next ended]
      exact ⟨more, stop one ended plainNext⟩
  | ok value =>
      have coversNext := covers_after one ended
        (covers.mono (Token.embeddedObjects_mono (List.subset_append_right _ _)))
      obtain ⟨others, two⟩ :=
        second value _ _ (one.told value ended) coversNext
      rw [bind_apply_of_ok next ended]
      exact ⟨more ++ others, follow one ended two⟩

end Following

theorem graded : Graded (Unfolds objects facts) where
  pure := fun tokens value => pure tokens value
  bind := bind

theorem fact (name : String) (kind : ValueKind) :
    Unfolds objects facts [.fact name kind] _
      ((Token.fact name kind).walk facts)
      ((Token.fact name kind).unshared facts) := by
  rw [Token.walk, Token.unshared]
  exact ofExcept [.fact name kind] (facts.resolve name kind)

section Embedding

variable {label : String} {object : Nat} {kind : ValueKind} {rule : Rule}
  {cache : Cache} {earlier : List Event}

/-- An output that is reused unfolds to the run that it comes from. -/
theorem reuse (held : objects object = rule)
    (told : cache.Told objects facts earlier)
    (covers : cache.Covers [.rule label object kind rule] earlier)
    {output : Option Resolved} (found : cache.find? object = some output) :
    ∃ more, (⟨.ok output, cache, [.reused label object output]⟩ :
      Step _).Unfolds objects facts [.rule label object kind rule] cache earlier
        ((Token.rule label object kind rule).unshared facts) more := by
  obtain ⟨inside, ran, inner, outcome, rfl, again⟩ := told object output found
  rw [held] at again inner
  have below := Token.embeddedObjects_inside label object kind rule
  have own := Token.mem_embeddedObjects_own label object kind rule
  have cached : cache.find? object ≠ none := by
    rw [found]
    nofun
  refine ⟨.started label object ::
    (inside ++ [.resolved label object outcome.resolved?]), ?_, ?_, ?_,
    tells_of_run own fun event there number tells =>
      below (inner event there number tells),
    fun _ => id, fun _ _ => told.append _,
    fun _ _ => tells_of_run cached fun event there number tells =>
      covers event (ran.subset there) number
        (below (inner event there number tells)) tells⟩
  · intro other
    rw [Token.unshared_of_ok label object kind (again other).1]
  · intro other
    rw [Token.unshared_of_ok label object kind (again other).1,
      (again other).2]
    simp [Event.forget]
  · rw [unfold, ran.run_eq]
    rfl

variable (outside : object ∉ Token.embeddedObjects rule.tokens)

include outside in
/-- Once the run has started, its rule object is told about.  It does not occur
in its own rule, so the run goes on as if it were not. -/
theorem start (inside : Unfolds objects facts rule.tokens _ (rule.walk facts)
      (rule.interpret (.unshared facts)))
    (told : cache.Told objects facts earlier)
    (covers : cache.Covers [.rule label object kind rule] earlier) :
    ∃ more, (rule.walk facts cache).Unfolds objects facts rule.tokens cache
      (earlier ++ [.started label object]) (rule.interpret (.unshared facts))
      more := by
  refine inside cache _ (told.append _) ?_
  intro event member number among about
  rcases List.mem_append.mp member with old | new
  · have below := Token.embeddedObjects_inside label object kind rule
    exact covers event old number (below among) about
  · rw [List.mem_singleton] at new
    subst new
    cases about
    exact (outside among).elim

/-- A run that fails unfolds to a run that fails. -/
theorem fail {step : Step Outcome} {more : List Event} {defect : EvalError}
    (inner : step.Unfolds objects facts rule.tokens cache
      (earlier ++ [.started label object]) (rule.interpret (.unshared facts))
      more)
    (failed : step.result = .error defect) :
    (⟨.error defect, step.cache, .started label object :: step.events⟩ :
      Step (Option Resolved)).Unfolds objects facts
        [.rule label object kind rule] cache earlier
        ((Token.rule label object kind rule).unshared facts)
        (.started label object :: more) := by
  have again (other : Cache) :
      (rule.interpret (.unshared facts) other).result = .error defect :=
    (inner.result other).trans failed
  refine ⟨?_, ?_, ?_, ?_, inner.keeps, nofun, nofun⟩
  · intro other
    rw [Token.unshared_of_error label object kind (again other)]
  · intro other
    rw [Token.unshared_of_error label object kind (again other),
      inner.events other]
    rfl
  · rw [unfold_started, inner.unfold, List.append_assoc]
    rfl
  · intro event member number about
    rcases List.mem_cons.mp member with rfl | there
    · cases about
      exact Token.mem_embeddedObjects_own label object kind rule
    · exact Token.embeddedObjects_inside label object kind rule
        (inner.inner event there number about)

include outside in
/-- A run that comes to its end is the first one of its rule object. -/
theorem finish {step : Step Outcome} {more : List Event} {outcome : Outcome}
    (held : objects object = rule)
    (inner : step.Unfolds objects facts rule.tokens cache
      (earlier ++ [.started label object]) (rule.interpret (.unshared facts))
      more)
    (ended : step.result = .ok outcome)
    (untold : ∀ event ∈ earlier, event.object? ≠ some object) :
    (⟨.ok outcome.resolved?, step.cache.add object outcome.resolved?,
      .started label object ::
        (step.events ++ [.resolved label object outcome.resolved?])⟩ :
      Step _).Unfolds objects facts [.rule label object kind rule] cache earlier
        ((Token.rule label object kind rule).unshared facts)
        (.started label object ::
          (more ++ [.resolved label object outcome.resolved?])) := by
  have again (other : Cache) :
      (rule.interpret (.unshared facts) other).result = .ok outcome :=
    (inner.result other).trans ended
  have below := Token.embeddedObjects_inside label object kind rule
  have own := Token.mem_embeddedObjects_own label object kind rule
  have whole : earlier ++ .started label object ::
      (more ++ [.resolved label object outcome.resolved?]) =
        earlier ++ [.started label object] ++ more ++
          [.resolved label object outcome.resolved?] := by
    simp
  have tell : Tell objects facts object outcome.resolved? more
      (earlier ++ .started label object ::
        (more ++ [.resolved label object outcome.resolved?])) := by
    refine ⟨⟨earlier, label, label, _, [], rfl, untold, ?_⟩, ?_, outcome, rfl,
      ?_⟩
    · intro event member about
      exact outside (inner.inner event member _ about)
    · rw [held]
      exact inner.inner
    · rw [held]
      exact fun other => ⟨again other, inner.events other⟩
  refine ⟨?_, ?_, ?_, ?_, ?_, ?_, ?_⟩
  · intro other
    rw [Token.unshared_of_ok label object kind (again other)]
  · intro other
    rw [Token.unshared_of_ok label object kind (again other),
      inner.events other]
    simp [Event.forget]
  · rw [unfold_started, unfold_append, inner.unfold, unfold_singleton rfl,
      whole]
  · exact tells_of_run own fun event there number tells =>
      below (inner.inner event there number tells)
  · exact fun number known =>
      Cache.find?_add_keeps (inner.keeps number known) object _
  · intro _ _
    refine Cache.Told.add ?_ tell
    rw [whole]
    exact (inner.told outcome ended).append _
  · intro _ _
    exact tells_of_run (step.cache.find?_add_own object _)
      fun event there number tells =>
        Cache.find?_add_keeps
          (inner.covered outcome ended event there number tells) object _

include outside in
/-- A rule token unfolds to its unshared evaluation. -/
theorem embed (held : objects object = rule)
    (inside : Unfolds objects facts rule.tokens _ (rule.walk facts)
      (rule.interpret (.unshared facts))) :
    Unfolds objects facts [.rule label object kind rule] _
      ((Token.rule label object kind rule).walk facts)
      ((Token.rule label object kind rule).unshared facts) := by
  intro cache earlier told covers
  rcases Token.walk_rule_cases label object kind rule cache with
    ⟨output, found, step⟩ |
      ⟨unused, ⟨defect, failed, step⟩ | ⟨outcome, ended, step⟩⟩
  · rw [step]
    exact reuse held told covers found
  · obtain ⟨more, inner⟩ := start outside inside told covers
    rw [step]
    exact ⟨_, fail inner failed⟩
  · obtain ⟨more, inner⟩ := start outside inside told covers
    rw [step]
    have own := Token.mem_embeddedObjects_own label object kind rule
    exact ⟨_, finish outside held inner ended (covers.untold own unused)⟩

end Embedding

/-- The walk of a rule unfolds to its unshared evaluation. -/
theorem rule {rule : Rule} (coherent : Token.Coherent rule.tokens)
    (held : Token.HeldBy objects rule.tokens) :
    Unfolds objects facts rule.tokens _ (rule.walk facts)
      (rule.interpret (.unshared facts)) := by
  rw [rule.walk_eq_interpret]
  refine graded.rule (fun _ silent => log silent) rule fun leaf member =>
    graded.test (graded.token (fun _ silent => log silent) ?_ ?_
      (.among (List.mem_map_of_mem member)))
  · exact fun name kind _ => fact name kind
  · intro label object kind embedded occurs inside
    rw [← embedded.walk_eq_interpret] at inside
    exact embed (coherent.not_within occurs) (held _ _ _ _ occurs) inside

end Walk.Unfolds

namespace Rule

/-- The unfolded trace of a rule is what the unshared evaluator logs. -/
theorem unfold_trace {rule : Rule} (coherent : Token.Coherent rule.tokens)
    (facts : Facts) :
    (Event.unfold [] (rule.trace facts)).map Event.forget =
      (rule.interpret (.unshared facts)).start.events := by
  obtain ⟨objects, held⟩ := coherent.exists_table
  obtain ⟨more, unfolds⟩ := Walk.Unfolds.rule coherent held .empty []
    (fun _ _ found => nomatch found) (fun _ => nofun)
  rw [trace, Walk.start, unfolds.unfold, List.nil_append]
  exact (unfolds.events .empty).symm

/-- Rules that differ in sharing only have the same unfolded trace. -/
theorem unfold_trace_eq {first second : Rule}
    (one : Token.Coherent first.tokens) (other : Token.Coherent second.tokens)
    (same : first.forget = second.forget) (facts : Facts) :
    (Event.unfold [] (first.trace facts)).map Event.forget =
      (Event.unfold [] (second.trace facts)).map Event.forget := by
  rw [unfold_trace one, unfold_trace other, interpret_unshared_eq facts same]

end Rule

end Rulebook
