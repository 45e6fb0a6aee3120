import Rulebook.Proofs.Restoring
import Rulebook.Proofs.Separate

/-!
# The trace of a copy

A rule that is read back from its stored form is a copy that shares nothing.  It
logs what the original logs, unfolded: where the original reuses an output, the
copy runs the rule once more (`Rule.trace_unfolds`).  This holds up to the point
where an evaluation fails, too.
-/

namespace Rulebook

open Event

namespace Rule

/-- A constructed rule with finite numbers is read back as a rule that differs
from it in the numbers of rule objects only. -/
theorem decode_encode {rule : Rule}
    (constructed : Item.Constructed (.rule rule))
    (finite : Finite rule.contents) (first : Nat) :
    ∃ copy next, (Rule.decode rule.encode).run first = .ok (copy, next) ∧
      copy.forget = rule.forget := by
  obtain ⟨built, _, ran, same⟩ := rule.build_draft .empty constructed 0
  have agreed := (rule.decode_follows .empty).finite finite first 0
  rw [ran] at agreed
  generalize (Rule.decode rule.encode).run first = read at agreed ⊢
  cases agreed with
  | accepted copies => exact ⟨_, _, rfl, copies.alike.trans same⟩

/-- What the trace of a rule and the trace of its copy have to do with each
other. -/
structure TraceUnfolds (facts : Facts) (rule copy : Rule) : Prop where
  /-- The copy reuses no output. -/
  fresh : ∀ event ∈ copy.trace facts, event.isReused = false
  /-- The rule itself runs no rule object twice. -/
  once : (starts (rule.trace facts)).Nodup
  /-- Every output that the rule reuses comes from an earlier run. -/
  earlier : ∀ before label object value after,
    rule.trace facts = before ++ .reused label object value :: after →
      ∃ first, .resolved first object value ∈ before
  /-- The copy logs what the rule logs, unfolded, but for the numbers of rule
  objects. -/
  unfolded : (copy.trace facts).map Event.forget =
    (Event.unfold [] (rule.trace facts)).map Event.forget
  /-- Numbers are not written, so the same is written. -/
  written : (copy.trace facts).filterMap entry? =
    (Event.unfold [] (rule.trace facts)).filterMap entry?

/-- Events that are the same without numbers are written alike. -/
theorem filterMap_entry?_eq {first second : List Event}
    (same : first.map Event.forget = second.map Event.forget) :
    first.filterMap entry? = second.filterMap entry? := by
  have forgotten (events : List Event) :
      (events.map Event.forget).filterMap entry? = events.filterMap entry? := by
    rw [List.filterMap_map]
    exact List.filterMap_congr fun event _ => event.entry?_forget
  rw [← forgotten first, same, forgotten second]

/-- The events of a rule are those of the call that executes it. -/
theorem events_execute (rule : Rule) (facts : Facts) :
    ((Call.execute rule).walk facts).start.events = rule.trace facts := by
  rw [Call.walk, Walk.start, Walk.map_apply]
  rfl

/-- A rule that is read back from its stored form has a rule object of its own
for each of its tokens.  It logs what the original logs, where the events of the
earlier run stand in the place of each reuse. -/
theorem trace_unfolds {rule : Rule} (obtainable : Item.Obtainable (.rule rule))
    (coherent : Token.Coherent rule.tokens) (finite : Finite rule.contents)
    (facts : Facts) (first : Nat) :
    ∃ copy next, (Rule.decode rule.encode).run first = .ok (copy, next) ∧
      Token.Apart first copy.tokens next ∧ rule.TraceUnfolds facts copy := by
  obtain ⟨copy, next, ran, alike⟩ :=
    decode_encode obtainable.constructed finite first
  have apart : Token.Apart first copy.tokens next := by
    have separate : Token.Apart first ([Item.rule copy].flatMap Item.tokens)
        next :=
      rule.decode_separates first copy next ran
    rwa [List.flatMap_singleton] at separate
  have coherentCopy : Token.Coherent copy.tokens :=
    (Item.Read.rule ran).sound.2
  have fresh := trace_of_apart apart facts
  have unfolded : (copy.trace facts).map Event.forget =
      (Event.unfold [] (rule.trace facts)).map Event.forget := by
    rw [← unfold_trace_eq coherentCopy coherent alike facts,
      unfold_eq_append fresh, List.nil_append]
  have orderly : ((Call.execute rule).walk facts).start.Orderly .empty :=
    @Walk.Orderly.call facts (.execute rule) coherent .empty
  refine ⟨copy, next, ran, apart, fresh, ?_, ?_, unfolded,
    filterMap_entry?_eq unfolded⟩
  · rw [← rule.events_execute facts]
    exact orderly.once
  · intro before label object value after split
    exact orderly.resolved_before ((rule.events_execute facts).trans split)

section Sample

theorem twice_finite (first second : Nat) :
    Finite (twice first second).contents := by
  have numbers : ∀ number ∈ [(0 : Float), 0], number.isFinite = true := by
    decide
  exact numbers

end Sample

/-- The rule that asks another one twice reuses the output of the other one, and
its copy runs the other one twice.  On a level that is no number both stop at the
same point. -/
theorem trace_unfolds_twice :
    let facts : Facts := .ofList [("level", .int 3)]
    let wrong : Facts := .ofList [("level", .text "high")]
    (∃ event ∈ (twice 0 0).trace facts, event.isReused = true) ∧
      (∃ copy next, (Rule.decode (twice 0 0).encode).run 5 = .ok (copy, next) ∧
        Token.Apart 5 copy.tokens next ∧
        (twice 0 0).TraceUnfolds facts copy) ∧
      ∃ copy next, (Rule.decode (twice 0 0).encode).run 5 = .ok (copy, next) ∧
        Token.Apart 5 copy.tokens next ∧
        (twice 0 0).TraceUnfolds wrong copy := by
  intro facts wrong
  have obtainable : Item.Obtainable (.rule (.twice 0 0)) :=
    .of_constructed (twice_constructed 0 0)
  have unfolds (facts : Facts) := trace_unfolds obtainable (twice_coherent 0 0)
    (twice_finite 0 0) facts 5
  have reuses : (twice 0 0).trace facts =
      [.started "left" 0, .decisionRowMatched 0 (.boolean true),
        .decisionExecuted (some (.boolean true)),
        .resolved "left" 0 (some (.boolean true)),
        .reused "right" 0 (some (.boolean true)),
        .decisionRowMatched 0 (.text "on"),
        .decisionExecuted (some (.text "on"))] := by
    with_unfolding_all rfl
  refine ⟨⟨.reused "right" 0 (some (.boolean true)), ?_, rfl⟩,
    unfolds facts, unfolds wrong⟩
  rw [reuses]
  simp

end Rule

end Rulebook
