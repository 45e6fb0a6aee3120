import Rulebook.Proofs.Call

/-!
# The cache is transparent

A cache is correct for given facts if each of its outputs is what the rule
object means.  Every walk keeps the cache correct and keeps what it holds, and
comes to the meaning of what it walks through, also where that is a defect of
the facts.  This is `Walk.Means`, a relation between walks and results that
`Compatible` reduces to the two cases of a token that embeds a rule: its rule
object was run before, or it is run now.

Every call therefore answers with its meaning, in which neither labels nor
sharing occur.
-/

namespace Rulebook

/-- Each output in the cache is what its rule object means. -/
def Cache.Correct (objects : Nat → Rule) (facts : Facts) (cache : Cache) :
    Prop :=
  ∀ object output, cache.find? object = some output →
    Outcome.resolved? <$> (objects object).meaning facts = .ok output

/-- Each output in the earlier cache is in the later one. -/
def Cache.Keeps (earlier later : Cache) : Prop :=
  ∀ object output, earlier.find? object = some output →
    later.find? object = some output

namespace Cache

variable {objects : Nat → Rule} {facts : Facts} {cache : Cache}

theorem correct_empty : Correct objects facts .empty := by
  intro object output found
  rw [find?_empty] at found
  cases found

theorem Correct.add (correct : cache.Correct objects facts) {object : Nat}
    {output : Option Resolved}
    (means : Outcome.resolved? <$> (objects object).meaning facts =
      .ok output) :
    (cache.add object output).Correct objects facts := by
  intro wanted found
  rw [find?_add]
  split
  · next same =>
      rintro ⟨⟩
      rw [same]
      exact means
  · exact correct wanted found

theorem Keeps.refl (cache : Cache) : cache.Keeps cache :=
  fun _ _ found => found

theorem Keeps.trans {earlier middle later : Cache}
    (first : earlier.Keeps middle) (second : middle.Keeps later) :
    earlier.Keeps later :=
  fun object output found => second object output (first object output found)

/-- An output that is found out again is the same output. -/
theorem Correct.keeps_add (correct : cache.Correct objects facts)
    {object : Nat} {output : Option Resolved}
    (means : Outcome.resolved? <$> (objects object).meaning facts =
      .ok output) :
    cache.Keeps (cache.add object output) := by
  intro wanted kept found
  rw [find?_add]
  split
  · next same =>
      -- Both outputs are what the rule object means.
      have earlier := correct wanted kept found
      rw [same, means] at earlier
      cases earlier
      rfl
  · exact found

end Cache

/-- From every correct cache, the walk comes to the result, keeps the cache
correct and keeps what is in it. -/
def Walk.Means (objects : Nat → Rule) (facts : Facts) (α : Type)
    (walk : Walk α) (result : Except EvalError α) : Prop :=
  ∀ cache : Cache, cache.Correct objects facts →
    (walk cache).result = result ∧
      (walk cache).cache.Correct objects facts ∧
      cache.Keeps (walk cache).cache

namespace Walk.Means

variable {objects : Nat → Rule} {facts : Facts} {α β : Type}

theorem pure (value : α) :
    Means objects facts α (Pure.pure value) (Pure.pure value) :=
  fun cache correct => ⟨rfl, correct, .refl cache⟩

theorem log (event : Event) :
    Means objects facts Unit (Walk.log event) (.ok ()) :=
  fun cache correct => ⟨rfl, correct, .refl cache⟩

theorem bind {walk : Walk α} {result : Except EvalError α}
    {next : α → Walk β} {rest : α → Except EvalError β}
    (means : Means objects facts α walk result)
    (after : ∀ value, Means objects facts β (next value) (rest value)) :
    Means objects facts β (walk >>= next) (result >>= rest) := by
  intro cache correct
  obtain ⟨same, stays, keeps⟩ := means cache correct
  cases result with
  | error defect =>
      rw [bind_apply_of_error next same]
      exact ⟨rfl, stays, keeps⟩
  | ok value =>
      obtain ⟨last, kept, further⟩ := after value _ stays
      rw [bind_apply_of_ok next same]
      exact ⟨last, kept, keeps.trans further⟩

theorem compatible :
    Compatible (.cached facts) (.plain facts) (Means objects facts) where
  pure := pure
  bind := bind
  log := fun event _ => log event

theorem fact (name : String) (kind : ValueKind) :
    Means objects facts _ ((Token.fact name kind).walk facts)
      ((Token.fact name kind).meaning facts) := by
  intro cache correct
  rw [Token.walk, Token.meaning, ofExcept_apply]
  exact ⟨rfl, correct, .refl cache⟩

/-- The rule object is in the cache already or it is run now.  In both cases
the table of rule objects tells its rule. -/
theorem embed (label : String) {object : Nat} (kind : ValueKind) {rule : Rule}
    (held : objects object = rule)
    (means : Means objects facts _ (rule.walk facts) (rule.meaning facts)) :
    Means objects facts _ ((Token.rule label object kind rule).walk facts)
      ((Token.rule label object kind rule).meaning facts) := by
  intro cache correct
  rw [Token.meaning]
  change _ = Outcome.resolved? <$> rule.meaning facts ∧ _
  obtain ⟨same, stays, keeps⟩ := means cache correct
  rcases Token.walk_rule_cases label object kind rule cache with
    ⟨output, found, step⟩ | ⟨_, ⟨defect, failed, step⟩ | ⟨outcome, ended, step⟩⟩
  · have cached := correct object output found
    rw [held] at cached
    rw [step, cached]
    exact ⟨rfl, correct, .refl cache⟩
  · rw [step, ← same, failed]
    exact ⟨rfl, stays, keeps⟩
  · have new : Outcome.resolved? <$> (objects object).meaning facts =
        .ok outcome.resolved? := by
      rw [held, ← same, ended]
      rfl
    rw [step, ← same, ended]
    exact ⟨rfl, stays.add new, keeps.trans (stays.keeps_add new)⟩

/-- The table of some tokens tells the rule of every token below them. -/
theorem embed_below {root : List Token} (held : Token.HeldBy objects root)
    (label : String) (object : Nat) (kind : ValueKind) (rule : Rule)
    (occurs : (Token.rule label object kind rule).OccursIn root)
    (means : Means objects facts _ (rule.interpret (.cached facts))
      (rule.interpret (.plain facts))) :
    Means objects facts _ ((Token.rule label object kind rule).walk facts)
      ((Token.rule label object kind rule).meaning facts) := by
  rw [← rule.walk_eq_interpret, ← rule.meaning_eq_interpret] at means
  exact embed label kind (held _ _ _ _ occurs) means

/-- If a table holds the rule objects below a call, the walk of the call comes
to the meaning of the call. -/
theorem call {call : Call} (held : Token.HeldBy objects call.tokens) :
    Means objects facts _ (call.walk facts) (call.meaning facts) := by
  rw [call.walk_eq_interpret, call.meaning_eq_interpret]
  exact compatible.call (fun name kind _ => fact name kind) (embed_below held)

theorem detailed {rule : Rule} (held : Token.HeldBy objects rule.tokens) :
    Means objects facts _ (rule.walkDetailed facts)
      (rule.interpretDetailed (.plain facts)) := by
  rw [rule.walkDetailed_eq_interpretDetailed]
  exact compatible.detailed rule <|
    compatible.tests (fun name kind _ => fact name kind) (embed_below held)

end Walk.Means

namespace Call

/-- From the empty cache, a call answers with its meaning. -/
theorem answer_eq_meaning {call : Call} (facts : Facts)
    (coherent : Token.Coherent call.tokens) :
    call.answer facts = call.meaning facts := by
  obtain ⟨objects, held⟩ := coherent.exists_table
  rw [call.answer_eq_result]
  exact (Walk.Means.call held .empty Cache.correct_empty).1

/-- The cache changes no answer: a call returns the very result or error that
the evaluator without a cache returns, which executes the embedded rule at every
rule token.  Calls that some renaming of labels and of rule objects makes equal
answer alike, however differently they share. -/
theorem cache_transparent {call : Call} (facts : Facts)
    (coherent : Token.Coherent call.tokens) :
    call.answer facts = call.meaning facts ∧
      ∀ (other : Call) (label : String → String) (number : Nat → Nat),
        Token.Coherent other.tokens →
          call.rename label number = other.rename label number →
            other.answer facts = call.answer facts := by
  refine ⟨answer_eq_meaning facts coherent, ?_⟩
  intro other label number otherCoherent same
  calc
    other.answer facts = other.meaning facts :=
      answer_eq_meaning facts otherCoherent
    _ = (other.rename label number).meaning facts :=
      (other.meaning_rename facts label number).symm
    _ = (call.rename label number).meaning facts := by rw [same]
    _ = call.meaning facts := call.meaning_rename facts label number
    _ = call.answer facts := (answer_eq_meaning facts coherent).symm

/-- One rule object under two labels gives the same answer as two objects with
the same rule. -/
theorem cache_transparent_twice :
    let facts : Facts := .ofList [("level", .int 3)]
    (execute (.twice 0 0)).answer facts =
        .ok (.outcome (.decision (.text "on"))) ∧
      (execute (.twice 0 0)).answer facts =
        (execute (.twice 0 0)).meaning facts ∧
      (execute (.twice 0 1)).answer facts =
        (execute (.twice 0 0)).answer facts := by
  intro facts
  have coherent (second : Nat) :
      Token.Coherent (execute (.twice 0 second)).tokens :=
    Rule.twice_coherent 0 second
  have transparent := cache_transparent facts (coherent 0)
  refine ⟨by with_unfolding_all rfl, transparent.1, ?_⟩
  exact transparent.2 _ id (fun _ => 0) (coherent 1) rfl

end Call

/-- A rule executes to its meaning. -/
theorem Rule.execute_eq_meaning {rule : Rule}
    (coherent : Token.Coherent rule.tokens) (facts : Facts) :
    rule.execute facts = rule.meaning facts := by
  have answers := @Call.answer_eq_meaning (.execute rule) facts coherent
  rw [Call.answer, Call.meaning] at answers
  generalize rule.execute facts = result, rule.meaning facts = meaning
    at answers ⊢
  cases result <;> cases meaning <;> cases answers <;> rfl

end Rulebook
