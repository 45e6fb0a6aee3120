import Mathlib.Data.List.Perm.Subperm
import Mathlib.Data.Set.Card
import Rulebook.Proofs.Call

/-!
# Rule objects run once

The events of a walk tell which rule objects were run and with which outputs.
`Step.Orderly` is what every walk keeps up from every cache: it runs no rule
object twice and none whose output is in the cache, the cache grows by the
outputs of the runs that came to their end, and an output is only reused after
the run that it comes from.  A rule object is not embedded in its own rule, so
the run of an embedded rule leaves the object of that rule alone; this is where
coherence comes in.
-/

namespace Rulebook

namespace Event

def started? : Event → Option Nat
  | .started _ object => some object
  | _ => none

/-- The rule object that was run, with its output. -/
def resolved? : Event → Option (Nat × Option Resolved)
  | .resolved _ object value => some (object, value)
  | _ => none

/-- The rule objects that are run, in the order in which their runs start. -/
def starts (events : List Event) : List Nat :=
  events.filterMap started?

/-- The outputs of the runs that come to their end, in that order. -/
def outputs (events : List Event) : List (Nat × Option Resolved) :=
  events.filterMap resolved?

/-- Every output that is reused is the latest one that its rule object has by
then, be it known before or found out on the way. -/
def Reuses (known : List (Nat × Option Resolved)) : List Event → Prop
  | [] => True
  | .reused _ object value :: events =>
      known.lookup object = some value ∧ Reuses known events
  | .resolved _ object value :: events =>
      Reuses ((object, value) :: known) events
  | _ :: events => Reuses known events

@[simp]
theorem starts_append (first second : List Event) :
    starts (first ++ second) = starts first ++ starts second :=
  List.filterMap_append

@[simp]
theorem outputs_append (first second : List Event) :
    outputs (first ++ second) = outputs first ++ outputs second :=
  List.filterMap_append

theorem reuses_append {known : List (Nat × Option Resolved)}
    {first second : List Event} :
    Reuses known (first ++ second) ↔
      Reuses known first ∧
        Reuses ((outputs first).reverse ++ known) second := by
  induction first generalizing known with
  | nil => simp [Reuses, outputs]
  | cons event events ih =>
      cases event <;>
        simp [Reuses, ih, outputs, resolved?, List.filterMap_cons, and_assoc]

/-- An output that is reused was found out before, or it was known. -/
theorem Reuses.lookup_eq {known : List (Nat × Option Resolved)}
    {before after : List Event} {label : String} {object : Nat}
    {value : Option Resolved}
    (reuses : Reuses known (before ++ .reused label object value :: after)) :
    ((outputs before).reverse ++ known).lookup object = some value :=
  (reuses_append.mp reuses).2.1

/-- What is not about a rule token neither runs nor reuses anything. -/
theorem quiet {event : Event} (silent : event.object? = none) :
    starts [event] = [] ∧ outputs [event] = [] ∧ ∀ known, Reuses known [event] := by
  cases event with
  | started | resolved | reused => cases silent
  | _ => exact ⟨rfl, rfl, fun _ => trivial⟩

end Event

open Event

/-- What every walk keeps up, from a cache to its step. -/
structure Step.Orderly {α : Type} (cache : Cache) (step : Step α) : Prop where
  /-- The cache grows by the outputs of the runs that came to their end. -/
  grows : step.cache.outputs = (outputs step.events).reverse ++ cache.outputs
  /-- No rule object is run whose output is in the cache. -/
  unused : ∀ object ∈ starts step.events, cache.find? object = none
  /-- No rule object is run twice. -/
  once : (starts step.events).Nodup
  /-- Only runs that started come to their end. -/
  ends : ((outputs step.events).map Prod.fst).Subperm (starts step.events)
  /-- If the walk does not fail, all its runs come to their end. -/
  complete : ∀ value, step.result = .ok value →
    (starts step.events).Perm ((outputs step.events).map Prod.fst)
  /-- Outputs are reused as they are in the cache by then. -/
  reuses : Reuses cache.outputs step.events

namespace Cache

variable {earlier later : Cache} {found : List (Nat × Option Resolved)}
  {object : Nat}

theorem find?_eq_none_iff {cache : Cache} :
    cache.find? object = none ↔ object ∉ cache.outputs.map Prod.fst := by
  simp only [find?, List.lookup_eq_none_iff, bne_iff_ne, ne_eq,
    List.mem_map, Prod.exists, exists_and_right, exists_eq_right, not_exists]
  constructor
  · intro absent output member
    exact absent (object, output) member rfl
  · rintro absent ⟨_, output⟩ member rfl
    exact absent output member

/-- What a larger cache does not hold a smaller one does not hold. -/
theorem find?_eq_none_of_grows (grows : later.outputs = found ++ earlier.outputs)
    (unused : later.find? object = none) : earlier.find? object = none := by
  rw [find?_eq_none_iff, grows, List.map_append, List.mem_append] at unused
  rw [find?_eq_none_iff]
  exact fun member => unused (.inr member)

end Cache

namespace Step.Orderly

variable {α β : Type} {cache : Cache} {value : α} {defect : EvalError}

theorem still (cache : Cache) (result : Except EvalError α) :
    Orderly cache (⟨result, cache, []⟩ : Step α) where
  grows := rfl
  unused := fun _ member => nomatch member
  once := .nil
  ends := .refl []
  complete := fun _ _ => .nil
  reuses := trivial

theorem log {event : Event} (silent : event.object? = none) (cache : Cache) :
    Orderly cache (Walk.log event cache) := by
  obtain ⟨noStart, noOutput, reuses⟩ := quiet silent
  refine ⟨?_, ?_, ?_, ?_, ?_, reuses _⟩
  · rw [Walk.log, noOutput]
    rfl
  · rw [Walk.log, noStart]
    exact fun _ member => nomatch member
  · rw [Walk.log, noStart]
    exact .nil
  · rw [Walk.log, noOutput, noStart]
    exact .refl []
  · rw [Walk.log, noOutput, noStart]
    exact fun _ _ => .nil

/-- A rule object that was run is in the cache afterwards, so the next walk
does not run it again. -/
theorem bind {walk : Walk α} {next : α → Walk β}
    (first : Orderly cache (walk cache))
    (second : ∀ value, (walk cache).result = .ok value →
      Orderly (walk cache).cache (next value (walk cache).cache)) :
    Orderly cache ((walk >>= next) cache) := by
  cases result : (walk cache).result with
  | error defect =>
      rw [Walk.bind_apply_of_error next result]
      exact ⟨first.grows, first.unused, first.once, first.ends,
        (fun _ ok => nomatch ok), first.reuses⟩
  | ok value =>
      have later := second value result
      have all := first.complete value result
      rw [Walk.bind_apply_of_ok next result]
      -- This is why the two parts of the walk have no run in common.
      have run (object : Nat) (member : object ∈ starts (walk cache).events) :
          (walk cache).cache.find? object ≠ none := by
        rw [ne_eq, Cache.find?_eq_none_iff, not_not, first.grows,
          List.map_append, List.mem_append, List.map_reverse, List.mem_reverse]
        exact .inl (all.subset member)
      refine ⟨?_, ?_, ?_, ?_, ?_, ?_⟩
      · simp only [outputs_append, List.reverse_append, List.append_assoc]
        rw [later.grows, first.grows]
      · intro object member
        rw [starts_append, List.mem_append] at member
        rcases member with early | late
        · exact first.unused object early
        · exact Cache.find?_eq_none_of_grows first.grows
            (later.unused object late)
      · rw [starts_append, List.nodup_append]
        refine ⟨first.once, later.once, ?_⟩
        rintro object early _ late rfl
        exact run object early (later.unused object late)
      · rw [starts_append, outputs_append, List.map_append]
        exact first.ends.append later.ends
      · intro last ok
        rw [starts_append, outputs_append, List.map_append]
        exact all.append (later.complete last ok)
      · rw [reuses_append, ← first.grows]
        exact ⟨first.reuses, later.reuses⟩

/-- The rule object is in the cache, and nothing is run. -/
theorem reuse {label : String} {object : Nat} {output : Option Resolved}
    (found : cache.find? object = some output) :
    Orderly cache
      (⟨.ok output, cache, [.reused label object output]⟩ : Step _) where
  grows := rfl
  unused := fun _ member => nomatch member
  once := .nil
  ends := .refl []
  complete := fun _ _ => .nil
  reuses := ⟨found, trivial⟩

theorem fail {step : Step α} {label : String} {object : Nat}
    (orderly : Orderly cache step) (unused : cache.find? object = none)
    (others : object ∉ starts step.events) :
    Orderly cache
      (⟨.error defect, step.cache, .started label object :: step.events⟩ :
        Step β) where
  grows := orderly.grows
  unused := by
    intro started member
    rcases List.mem_cons.mp member with rfl | inside
    · exact unused
    · exact orderly.unused started inside
  once := List.nodup_cons.mpr ⟨others, orderly.once⟩
  ends := orderly.ends.trans (List.sublist_cons_self _ _).subperm
  complete := fun _ ok => nomatch ok
  reuses := orderly.reuses

theorem run {step : Step α} {label : String} {object : Nat}
    {output : Option Resolved} (orderly : Orderly cache step)
    (ok : step.result = .ok value) (unused : cache.find? object = none)
    (others : object ∉ starts step.events) :
    Orderly cache
      (⟨.ok output, step.cache.add object output,
        .started label object :: (step.events ++
          [.resolved label object output])⟩ : Step _) := by
  have newStarts :
      starts (.started label object :: (step.events ++
        [.resolved label object output])) = object :: starts step.events := by
    simp [starts, List.filterMap_cons, started?]
  have newOutputs :
      outputs (.started label object :: (step.events ++
        [.resolved label object output])) =
          outputs step.events ++ [(object, output)] := by
    simp [outputs, List.filterMap_cons, resolved?]
  have all : (object :: starts step.events).Perm
      ((outputs step.events ++ [(object, output)]).map Prod.fst) := by
    rw [List.map_append]
    exact ((orderly.complete value ok).cons object).trans
      (List.perm_append_singleton object _).symm
  refine ⟨?_, ?_, ?_, ?_, ?_, ?_⟩
  · rw [newOutputs]
    simp [Cache.add, orderly.grows]
  · intro started member
    rw [newStarts] at member
    rcases List.mem_cons.mp member with rfl | inside
    · exact unused
    · exact orderly.unused started inside
  · rw [newStarts]
    exact List.nodup_cons.mpr ⟨others, orderly.once⟩
  · rw [newStarts, newOutputs]
    exact all.symm.subperm
  · intro _ _
    rw [newStarts, newOutputs]
    exact all
  · change Reuses cache.outputs (step.events ++ [_])
    rw [reuses_append]
    exact ⟨orderly.reuses, trivial⟩

end Step.Orderly

/-- From every cache, what a walk logs about rule tokens is about rule objects of
a set. -/
def Walk.Within (objects : Set Nat) (α : Type) (walk : Walk α) : Prop :=
  ∀ cache, ∀ event ∈ (walk cache).events, ∀ object,
    event.object? = some object → object ∈ objects

namespace Walk.Within

variable {objects : Set Nat} {facts : Facts} {α β : Type}

theorem bind {walk : Walk α} {next : α → Walk β}
    (first : Within objects α walk)
    (second : ∀ value, Within objects β (next value)) :
    Within objects β (walk >>= next) := by
  intro cache event member object about
  cases result : (walk cache).result with
  | error defect =>
      rw [bind_apply_of_error next result] at member
      exact first cache event member object about
  | ok value =>
      rw [bind_apply_of_ok next result] at member
      rcases List.mem_append.mp member with early | late
      · exact first cache event early object about
      · exact second value _ event late object about

theorem compatible :
    Compatible (.cached facts) (.cached facts)
      fun α walk _ => Within objects α walk where
  pure := fun _ _ _ member => nomatch member
  bind := bind
  log := by
    intro event silent cache logged member object about
    rw [List.mem_singleton.mp member, silent] at about
    cases about

theorem embed {label : String} {object : Nat} (kind : ValueKind) {rule : Rule}
    (own : object ∈ objects) (inside : Within objects _ (rule.walk facts)) :
    Within objects _ ((Token.rule label object kind rule).walk facts) := by
  intro cache event member about same
  rcases Token.walk_rule_cases label object kind rule cache with
    ⟨output, _, step⟩ | ⟨_, ⟨defect, _, step⟩ | ⟨outcome, _, step⟩⟩
  · rw [step] at member
    cases List.mem_singleton.mp member
    cases same
    exact own
  · rw [step] at member
    rcases List.mem_cons.mp member with rfl | inner
    · cases same
      exact own
    · exact inside cache event inner about same
  · rw [step] at member
    simp only [List.mem_cons, List.mem_append, List.not_mem_nil,
      or_false] at member
    rcases member with rfl | inner | rfl
    · cases same
      exact own
    · exact inside cache event inner about same
    · cases same
      exact own

/-- Whatever is logged about rule tokens is about embedded rule objects. -/
theorem call (call : Call) :
    Within (Token.embeddedObjects call.tokens) _ (call.walk facts) := by
  rw [call.walk_eq_interpret]
  refine compatible.call ?_ ?_
  · intro name kind _ cache event member
    change event ∈ ((Token.fact name kind).walk facts cache).events at member
    rw [Token.walk, ofExcept_apply] at member
    cases member
  · intro label object kind rule occurs inside
    rw [← rule.walk_eq_interpret] at inside
    exact embed kind ⟨label, kind, rule, occurs⟩ inside

end Walk.Within

theorem Event.object?_of_mem_starts {events : List Event} {object : Nat}
    (member : object ∈ starts events) :
    ∃ event ∈ events, event.object? = some object := by
  obtain ⟨event, logged, started⟩ := List.mem_filterMap.mp member
  refine ⟨event, logged, ?_⟩
  cases event <;> cases started
  rfl

/-- The run of a rule starts embedded rule objects only. -/
theorem Rule.mem_embeddedObjects_of_mem_starts {rule : Rule} {facts : Facts}
    {cache : Cache} {object : Nat}
    (member : object ∈ starts (rule.walk facts cache).events) :
    object ∈ Token.embeddedObjects rule.tokens := by
  obtain ⟨event, logged, about⟩ := object?_of_mem_starts member
  have mapped : event ∈ ((Call.execute rule).walk facts cache).events := by
    rw [Call.walk, Walk.map_apply]
    exact logged
  exact Walk.Within.call (.execute rule) cache event mapped object about

def Walk.Orderly (α : Type) (walk : Walk α) : Prop :=
  ∀ cache, (walk cache).Orderly cache

namespace Walk.Orderly

variable {facts : Facts}

theorem compatible :
    Compatible (.cached facts) (.cached facts)
      fun α walk _ => Orderly α walk where
  pure := fun _ cache => .still cache _
  bind := fun first second cache =>
    .bind (first cache) fun value _ => second value _
  log := fun _ silent cache => .log silent cache

/-- The run of a rule object that is not embedded in its own rule. -/
theorem embed {label : String} {object : Nat} (kind : ValueKind) {rule : Rule}
    (outside : object ∉ Token.embeddedObjects rule.tokens)
    (orderly : Orderly _ (rule.walk facts)) :
    Orderly _ ((Token.rule label object kind rule).walk facts) := by
  intro cache
  have others : object ∉ starts (rule.walk facts cache).events :=
    fun member => outside (Rule.mem_embeddedObjects_of_mem_starts member)
  rcases Token.walk_rule_cases label object kind rule cache with
    ⟨output, found, step⟩ |
      ⟨unused, ⟨defect, failed, step⟩ | ⟨outcome, ended, step⟩⟩
  · rw [step]
    exact .reuse found
  · rw [step]
    exact .fail (orderly cache) unused others
  · rw [step]
    exact .run (orderly cache) ended unused others

/-- The walk of a call is orderly if its tokens are coherent. -/
theorem call {call : Call} (coherent : Token.Coherent call.tokens) :
    Orderly _ (call.walk facts) := by
  rw [call.walk_eq_interpret]
  refine compatible.call ?_ ?_
  · intro name kind _ cache
    change ((Token.fact name kind).walk facts cache).Orderly cache
    rw [Token.walk, ofExcept_apply]
    exact .still cache _
  · intro label object kind rule occurs orderly
    rw [← rule.walk_eq_interpret] at orderly
    exact embed kind (coherent.not_within occurs) orderly

end Walk.Orderly

/-- Finitely many rule objects are embedded below some tokens. -/
theorem Token.embeddedObjects_finite (tokens : List Token) :
    (embeddedObjects tokens).Finite := by
  -- The tokens are a list of trees: an induction on the list, within one on the
  -- rules that are embedded.
  have ofRules (tokens : List Token)
      (rules : ∀ label object kind rule,
        Token.rule label object kind rule ∈ tokens →
          (embeddedObjects rule.tokens).Finite) :
      (embeddedObjects tokens).Finite := by
    induction tokens with
    | nil =>
        refine Set.finite_empty.subset ?_
        rintro object ⟨_, _, _, occurs⟩
        exact (not_occursIn_nil occurs).elim
    | cons token tokens ih =>
        have later := ih fun label object kind rule member =>
          rules label object kind rule (List.mem_cons_of_mem token member)
        cases token with
        | fact name kind =>
            refine later.subset ?_
            rintro object ⟨label, other, rule, occurs⟩
            rcases occursIn_cons.mp occurs with here | there
            · cases occursIn_fact.mp here
            · exact ⟨label, other, rule, there⟩
        | rule label object kind rule =>
            have inner := rules label object kind rule List.mem_cons_self
            refine ((inner.union later).insert object).subset ?_
            rintro number ⟨other, otherKind, embedded, occurs⟩
            rcases occursIn_cons.mp occurs with here | there
            · rcases occursIn_rule.mp here with same | inside
              · cases same
                exact .inl rfl
              · exact .inr (.inl ⟨other, otherKind, embedded, inside⟩)
            · exact .inr (.inr ⟨other, otherKind, embedded, there⟩)
  have ofRule (rule : Rule) : (embeddedObjects rule.tokens).Finite := by
    induction rule using Rule.embedding_induction with
    | step rule ih => exact ofRules rule.tokens ih
  exact ofRules tokens fun _ _ _ rule _ => ofRule rule

namespace Event

def resolves (object : Nat) : Event → Bool
  | .resolved _ other _ => other = object
  | _ => false

theorem mem_outputs_iff {events : List Event} {object : Nat}
    {value : Option Resolved} :
    (object, value) ∈ outputs events ↔
      ∃ label, .resolved label object value ∈ events := by
  constructor
  · intro member
    obtain ⟨event, logged, resolved⟩ := List.mem_filterMap.mp member
    cases event <;> cases resolved
    exact ⟨_, logged⟩
  · rintro ⟨label, logged⟩
    exact List.mem_filterMap.mpr ⟨_, logged, rfl⟩

theorem filter_resolves_eq_nil {events : List Event} {object : Nat}
    (absent : object ∉ (outputs events).map Prod.fst) :
    events.filter (resolves object) = [] := by
  rw [List.filter_eq_nil_iff]
  intro event logged about
  cases event with
  | resolved label other value =>
      rw [resolves, decide_eq_true_eq] at about
      refine absent (List.mem_map.mpr ⟨(other, value), ?_, about⟩)
      exact mem_outputs_iff.mpr ⟨label, logged⟩
  | _ => cases about

/-- If no two runs of one rule object come to their end, a resolution is the
only one of its rule object. -/
theorem filter_resolves {events : List Event} {label : String} {object : Nat}
    {value : Option Resolved} (once : ((outputs events).map Prod.fst).Nodup)
    (logged : .resolved label object value ∈ events) :
    events.filter (resolves object) = [.resolved label object value] := by
  obtain ⟨before, after, rfl⟩ := List.append_of_mem logged
  have parts : outputs (before ++ .resolved label object value :: after) =
      outputs before ++ (object, value) :: outputs after := by
    simp [outputs, resolved?]
  rw [parts, List.map_append, List.map_cons, List.nodup_middle] at once
  have absent := (List.nodup_cons.mp once).1
  rw [List.mem_append, not_or] at absent
  rw [List.filter_append, filter_resolves_eq_nil absent.1,
    List.filter_cons_of_pos (by simp [resolves]),
    filter_resolves_eq_nil absent.2, List.nil_append]

end Event

namespace Step.Orderly

variable {α : Type} {cache : Cache} {step : Step α}

theorem nodup_outputs (orderly : step.Orderly cache) :
    ((outputs step.events).map Prod.fst).Nodup := by
  obtain ⟨kept, same, sublist⟩ := orderly.ends
  exact same.nodup_iff.mp (orderly.once.sublist sublist)

/-- From the empty cache, an output that is reused was found out before. -/
theorem resolved_before (orderly : step.Orderly .empty)
    {before after : List Event} {label : String} {object : Nat}
    {value : Option Resolved}
    (split : step.events = before ++ .reused label object value :: after) :
    ∃ first, .resolved first object value ∈ before := by
  have reuses := orderly.reuses
  rw [split] at reuses
  have found := reuses.lookup_eq
  rw [Cache.empty, List.append_nil, List.lookup_eq_some_iff] at found
  obtain ⟨earlier, later, there, _⟩ := found
  have member : (object, value) ∈ (outputs before).reverse := by
    rw [there]
    exact List.mem_append_right _ List.mem_cons_self
  exact mem_outputs_iff.mp (List.mem_reverse.mp member)

/-- If the step did not fail, every rule object that it reached was run to its
end. -/
theorem reached_iff (orderly : step.Orderly .empty) {value : α}
    (ok : step.result = .ok value) {object : Nat} :
    object ∈ (outputs step.events).map Prod.fst ↔
      ∃ event ∈ step.events, event.object? = some object := by
  have all := orderly.complete value ok
  constructor
  · intro member
    exact object?_of_mem_starts (all.symm.subset member)
  · rintro ⟨event, logged, about⟩
    cases event with
    | started label other =>
        cases about
        exact all.subset (List.mem_filterMap.mpr ⟨_, logged, rfl⟩)
    | resolved label other output =>
        cases about
        exact List.mem_map_of_mem (mem_outputs_iff.mpr ⟨label, logged⟩)
    | reused label other output =>
        cases about
        obtain ⟨before, after, split⟩ := List.append_of_mem logged
        obtain ⟨first, earlier⟩ := orderly.resolved_before split
        have inside := mem_outputs_iff.mpr ⟨first, earlier⟩
        rw [split, outputs_append, List.map_append, List.mem_append]
        exact .inl (List.mem_map_of_mem inside)
    | _ => cases about

end Step.Orderly

namespace Call

/-- One if the call executes a whole rule by itself. -/
def ownExecutions : Call → Nat
  | execute _ | report _ => 1
  | _ => 0

/-- How many rules a call executes: its own one, if it has one, and the embedded
rule objects that are run. -/
def executions (facts : Facts) (call : Call) : Nat :=
  call.ownExecutions + (starts (call.walk facts).start.events).length

/-- What sharing promises of a call, whether it returns a result or an error. -/
structure RunsOnce (facts : Facts) (call : Call) : Prop where
  /-- No embedded rule object is run twice. -/
  once : (starts (call.walk facts).start.events).Nodup
  /-- Only embedded rule objects are run. -/
  embedded : ∀ object ∈ starts (call.walk facts).start.events,
    object ∈ Token.embeddedObjects call.tokens
  /-- If the call does not fail, the cache ends with one entry for each rule
  object that was reached. -/
  entries : ∀ answer, call.answer facts = .ok answer →
    ((call.walk facts).start.cache.outputs.map Prod.fst).Nodup ∧
      ∀ object, object ∈ (call.walk facts).start.cache.outputs.map Prod.fst ↔
        ∃ event ∈ (call.walk facts).start.events, event.object? = some object
  /-- Besides the rule itself, no more rules are executed than there are
  embedded rule objects. -/
  bounded :
    call.executions facts ≤ 1 + (Token.embeddedObjects call.tokens).ncard
  /-- Every reuse of an output comes after the only resolution of the same rule
  object, and has the same value. -/
  reused : ∀ before label object value after,
    (call.walk facts).start.events =
        before ++ .reused label object value :: after →
      ∃ first, .resolved first object value ∈ before ∧
        (call.walk facts).start.events.filter (resolves object) =
          [.resolved first object value]

theorem mem_embeddedObjects {facts : Facts} {call : Call} {object : Nat}
    (member : object ∈ starts (call.walk facts).start.events) :
    object ∈ Token.embeddedObjects call.tokens := by
  obtain ⟨event, logged, about⟩ := object?_of_mem_starts member
  exact Walk.Within.call call .empty event logged object about

theorem executions_le {facts : Facts} {call : Call}
    (once : (starts (call.walk facts).start.events).Nodup) :
    call.executions facts ≤ 1 + (Token.embeddedObjects call.tokens).ncard := by
  have own : call.ownExecutions ≤ 1 := by
    cases call <;> simp [ownExecutions]
  have subset : ((starts (call.walk facts).start.events).toFinset : Set Nat) ⊆
      Token.embeddedObjects call.tokens := by
    intro object member
    rw [Finset.mem_coe, List.mem_toFinset] at member
    exact mem_embeddedObjects member
  have bound := Set.ncard_le_ncard subset
    (Token.embeddedObjects_finite call.tokens)
  rw [Set.ncard_coe_finset, List.toFinset_card_of_nodup once] at bound
  rw [executions]
  omega

/-- Every rule object is run at most once in a call, however many tokens reach
it and wherever they stand. -/
theorem runs_once {call : Call} (facts : Facts)
    (coherent : Token.Coherent call.tokens) : call.RunsOnce facts := by
  have orderly : (call.walk facts).start.Orderly .empty :=
    Walk.Orderly.call coherent .empty
  have keys : (call.walk facts).start.cache.outputs.map Prod.fst =
      ((outputs (call.walk facts).start.events).map Prod.fst).reverse := by
    rw [orderly.grows, Cache.empty, List.append_nil, List.map_reverse]
  refine ⟨orderly.once, fun _ => mem_embeddedObjects, ?_,
    executions_le orderly.once, ?_⟩
  · intro answer ok
    rw [answer_eq_result] at ok
    rw [keys, List.nodup_reverse]
    refine ⟨orderly.nodup_outputs, fun object => ?_⟩
    rw [List.mem_reverse]
    exact orderly.reached_iff ok
  · intro before label object value after split
    obtain ⟨first, earlier⟩ := orderly.resolved_before split
    refine ⟨first, earlier, filter_resolves orderly.nodup_outputs ?_⟩
    rw [split]
    exact List.mem_append_left _ earlier

/-- Two tokens reach the rule object, which is run once. -/
theorem runs_once_twice :
    let facts : Facts := .ofList [("level", .int 3)]
    (execute (.twice 0 0)).RunsOnce facts ∧
      (execute (.twice 0 0)).executions facts = 2 :=
  ⟨runs_once _ (Rule.twice_coherent 0 0), rfl⟩

end Call

end Rulebook
