import Rulebook.Proofs.Deciding
import Rulebook.Proofs.FirstContact

/-!
# What is not reached does not matter

A conditional stops at the first condition that settles it, and a ruleset at the
first row that applies.  A defect of the facts stops either.  What follows may ask
for facts of the wrong kind, fail, or embed other rules under numbers that are in
use: it is not reached, so it changes neither the answer nor the events.

`SameReached` relates an item to every item that differs from it only in what is
not reached, at any depth.  Its cases follow the evaluator, and the walks of related
items go alike from every correct cache (`Walk.Alike`).  Only the first of the two
items has to be coherent.
-/

namespace Rulebook

section Relation

variable (facts : Facts)

mutual

/-- Two conditions that differ at most where evaluating the first one does not
get. -/
inductive Condition.SameReached : Condition → Condition → Prop
  | same (condition : Condition) : condition.SameReached condition
  | embedded {first second : Rule} (label : String) (object : Nat)
      (kind otherKind : ValueKind) (operator : Operator) :
      first.SameReached second →
        Condition.SameReached
          (.test ⟨.rule label object kind first, operator⟩)
          (.test ⟨.rule label object otherKind second, operator⟩)
  | nested {first second : Conditional} :
      first.SameReached second →
        Condition.SameReached (.nested first) (.nested second)

inductive Conditional.SameReached : Conditional → Conditional → Prop
  | mk {junction : Junction} {conditions others : List Condition} :
      Condition.SameReachedAll junction conditions others →
        Conditional.SameReached ⟨junction, conditions⟩ ⟨junction, others⟩

/-- After a condition that settles the conditional, the conditions may be any. -/
inductive Condition.SameReachedAll :
    Junction → List Condition → List Condition → Prop
  | nil (junction : Junction) : Condition.SameReachedAll junction [] []
  | cons {junction : Junction} {first second : Condition}
      {later others : List Condition} :
      first.SameReached second →
        Condition.SameReachedAll junction later others →
          Condition.SameReachedAll junction (first :: later) (second :: others)
  | settled {junction : Junction} {first second : Condition}
      (later others : List Condition) :
      first.SameReached second →
        Settles junction.decisive (first.evaluate facts) →
          Condition.SameReachedAll junction (first :: later) (second :: others)

/-- After a row that applies or fails, the rows may be any. -/
inductive DecisionRow.SameReachedAll :
    List DecisionRow → List DecisionRow → Prop
  | nil : DecisionRow.SameReachedAll [] []
  | cons {first second : Conditional} {later others : List DecisionRow}
      (consequent : Decision) :
      first.SameReached second →
        DecisionRow.SameReachedAll later others →
          DecisionRow.SameReachedAll (⟨first, consequent⟩ :: later)
            (⟨second, consequent⟩ :: others)
  | settled {first second : Conditional} (consequent : Decision)
      (later others : List DecisionRow) :
      first.SameReached second →
        Settles true (first.evaluate facts) →
          DecisionRow.SameReachedAll (⟨first, consequent⟩ :: later)
            (⟨second, consequent⟩ :: others)

inductive ScoreRow.SameReachedAll : List ScoreRow → List ScoreRow → Prop
  | nil : ScoreRow.SameReachedAll [] []
  | cons {first second : Conditional} {later others : List ScoreRow}
      (score : Float) :
      first.SameReached second →
        ScoreRow.SameReachedAll later others →
          ScoreRow.SameReachedAll (⟨first, score⟩ :: later)
            (⟨second, score⟩ :: others)
  | settled {first second : Conditional} (score : Float)
      (later others : List ScoreRow) :
      first.SameReached second →
        Settles true (first.evaluate facts) →
          ScoreRow.SameReachedAll (⟨first, score⟩ :: later)
            (⟨second, score⟩ :: others)

inductive ScoreSet.SameReachedAll : List ScoreSet → List ScoreSet → Prop
  | nil : ScoreSet.SameReachedAll [] []
  | cons {rows others : List ScoreRow} {sets more : List ScoreSet}
      (weight : Float) :
      ScoreRow.SameReachedAll rows others →
        ScoreSet.SameReachedAll sets more →
          ScoreSet.SameReachedAll (⟨rows, weight⟩ :: sets)
            (⟨others, weight⟩ :: more)

/-- What is recorded of the requirements and the depth may differ too. -/
inductive Rule.SameReached : Rule → Rule → Prop
  | decision {rows others : List DecisionRow} (profile other : Profile) :
      DecisionRow.SameReachedAll rows others →
        Rule.SameReached (.decision ⟨⟨rows⟩, profile⟩)
          (.decision ⟨⟨others⟩, other⟩)
  | score {sets others : List ScoreSet} (profile other : Profile) :
      ScoreSet.SameReachedAll sets others →
        Rule.SameReached (.score ⟨sets, profile⟩) (.score ⟨others, other⟩)

end

end Relation

/-! ## Walks that go alike -/

/-- From every correct cache, two walks go alike to the end. -/
def Walk.Alike (objects : Nat → Rule) (facts : Facts) {α : Type}
    (walk other : Walk α) : Prop :=
  ∀ cache : Cache, cache.Correct objects facts → walk cache = other cache

namespace Walk

variable {objects : Nat → Rule} {facts : Facts} {α β : Type}

namespace Alike

theorem refl (walk : Walk α) : Alike objects facts walk walk :=
  fun _ _ => rfl

/-- Only the first walk has to keep the cache correct.  After a defect the two
walks may go on as they like, since neither of them does. -/
theorem bind {walk other : Walk α} {result : Except EvalError α}
    {next otherNext : α → Walk β} (alike : Alike objects facts walk other)
    (means : Means objects facts α walk result)
    (after : ∀ value, result = .ok value →
      Alike objects facts (next value) (otherNext value)) :
    Alike objects facts (walk >>= next) (other >>= otherNext) := by
  intro cache correct
  obtain ⟨ended, stays, _⟩ := means cache correct
  have same := alike cache correct
  have also : (other cache).result = result := by
    rw [← same]
    exact ended
  cases result with
  | error defect =>
      rw [bind_apply_of_error next ended, bind_apply_of_error otherNext also,
        same]
  | ok value =>
      rw [bind_apply_of_ok next ended, bind_apply_of_ok otherNext also,
        ← same, after value rfl _ stays]

/-- Walks that go alike go on alike. -/
theorem before {walk other : Walk α} (alike : Alike objects facts walk other)
    (next : α → Walk β) :
    Alike objects facts (walk >>= next) (other >>= next) := by
  intro cache correct
  simp only [Bind.bind, Walk.bind, alike cache correct]

theorem map {walk other : Walk α} (alike : Alike objects facts walk other)
    (function : α → β) :
    Alike objects facts (function <$> walk) (function <$> other) := by
  rw [map_eq_pure_bind, map_eq_pure_bind]
  exact alike.before _

/-- What is in the cache is reused alike, and what is not is run alike. -/
theorem embed (label : String) (object : Nat) (kind otherKind : ValueKind)
    {rule other : Rule}
    (alike : Alike objects facts (rule.walk facts) (other.walk facts)) :
    Alike objects facts ((Token.rule label object kind rule).walk facts)
      ((Token.rule label object otherKind other).walk facts) := by
  intro cache correct
  rw [Token.walk, Token.walk, lookUp_bind, lookUp_bind]
  cases cache.find? object with
  | some output => rfl
  | none =>
      dsimp only
      rw [log_bind, log_bind, alike.before _ cache correct]

end Alike

namespace Means

theorem map {walk : Walk α} {result : Except EvalError α} (function : α → β)
    (means : Means objects facts α walk result) :
    Means objects facts β (function <$> walk) (function <$> result) := by
  rw [map_eq_pure_bind, map_eq_pure_bind]
  exact means.bind fun value => .pure (function value)

theorem condition {condition : Condition}
    (held : Token.HeldBy objects (condition.leaves.map (·.token))) :
    Means objects facts _ (condition.walk facts) (condition.meaning facts) := by
  rw [condition.walk_eq_interpret, condition.meaning_eq_interpret]
  exact compatible.graded.condition condition
    (compatible.tests (fun name kind _ => fact name kind) (embed_below held))

theorem conditional {conditional : Conditional}
    (held : Token.HeldBy objects (conditional.leaves.map (·.token))) :
    Means objects facts _ (conditional.walk facts)
      (conditional.meaning facts) := by
  rw [conditional.walk_eq_interpret, conditional.meaning_eq_interpret]
  exact compatible.conditional conditional
    (compatible.tests (fun name kind _ => fact name kind) (embed_below held))

theorem contribution {set : ScoreSet}
    (held : Token.HeldBy objects (set.leaves.map (·.token))) :
    Means objects facts _ (set.contribution <$> set.walk facts)
      (set.meaning facts) := by
  rw [set.walk_eq_interpret, set.meaning_eq_interpret]
  exact (compatible.scoreSet set (compatible.tests
    (fun name kind _ => fact name kind) (embed_below held))).map _

end Means

end Walk

/-! ## Parts with the same reached parts -/

theorem Settles.eq_decisive {decisive value : Bool}
    {result : Except EvalError Bool} (settles : Settles decisive result)
    (ended : result = .ok value) : value = decisive := by
  subst ended
  rcases settles with same | ⟨defect, failed⟩
  · exact Except.ok.inj same
  · cases failed

/-- The decision that a search among rows leads to. -/
def DecisionRow.concluded (found : Option (Nat × DecisionRow)) :
    Option Decision :=
  found.map (·.2.consequent)

section Parts

variable {facts : Facts} {objects : Nat → Rule}

/-! Walking on from a ruleset, only what it comes to is looked at. -/

theorem ScoreSet.walkAll_cons (total : Float) (set : ScoreSet)
    (sets : List ScoreSet) :
    walkAll facts total (set :: sets) =
      set.contribution <$> set.walk facts >>= fun contribution =>
        walkAll facts (total + contribution) sets := by
  rw [walkAll, bind_map_left]

theorem DecisionRule.walk_mk (ruleset : DecisionSet) (profile : Profile) :
    (DecisionRule.mk ruleset profile).walk facts =
      DecisionRow.concluded <$> ruleset.walk facts >>= fun decision => do
        Walk.log (.decisionExecuted decision)
        return decision := by
  rw [walk, bind_map_left]
  rfl

theorem ScoreSet.SameReachedAll.length_eq : {sets others : List ScoreSet} →
    ScoreSet.SameReachedAll facts sets others → sets.length = others.length
  | _, _, .nil => rfl
  | _, _, .cons _ _ later => congrArg (· + 1) later.length_eq

/-! Related items have walks that go alike.  The induction is on how they are
related, and the table of rule objects is that of the first item. -/

mutual

theorem Condition.SameReached.alike : {first second : Condition} →
    first.SameReached facts second →
      Token.HeldBy objects (first.leaves.map (·.token)) →
        Walk.Alike objects facts (first.walk facts) (second.walk facts)
  | _, _, .same condition, _ => .refl _
  | _, _, .embedded label object kind otherKind operator same, held => by
      rw [Condition.leaves] at held
      have inside := same.alike fun _ _ _ _ occurs =>
        held _ _ _ _ (.within (List.mem_singleton_self _) occurs)
      rw [Condition.walk, Condition.walk, Expression.walk, Expression.walk]
      exact (Walk.Alike.embed label object kind otherKind inside).before _
  | _, _, .nested same, held => by
      rw [Condition.leaves] at held
      rw [Condition.walk, Condition.walk]
      exact same.alike held

theorem Conditional.SameReached.alike : {first second : Conditional} →
    first.SameReached facts second →
      Token.HeldBy objects (first.leaves.map (·.token)) →
        Walk.Alike objects facts (first.walk facts) (second.walk facts)
  | _, _, .mk same, held => by
      rw [Conditional.leaves] at held
      rw [Conditional.walk, Conditional.walk]
      exact same.alike held

theorem Condition.SameReachedAll.alike : {junction : Junction} →
    {conditions others : List Condition} →
      Condition.SameReachedAll facts junction conditions others →
        Token.HeldBy objects
            ((Condition.leavesAll conditions).map (·.token)) →
          Walk.Alike objects facts
            (Condition.walkAll facts junction conditions)
            (Condition.walkAll facts junction others)
  | _, _, _, .nil _, _ => .refl _
  | _, _, _, .cons first later, held => by
      rw [Condition.leavesAll, List.map_append] at held
      have here := held.mono (List.subset_append_left _ _)
      rw [Condition.walkAll, Condition.walkAll]
      refine (first.alike here).bind (.condition here) fun value _ => ?_
      split
      · exact .refl _
      · exact later.alike (held.mono (List.subset_append_right _ _))
  | _, _, _, .settled later others first settles, held => by
      rw [Condition.leavesAll, List.map_append] at held
      have here := held.mono (List.subset_append_left _ _)
      -- The condition settles the conditional from every correct cache, since it
      -- does so on its own.
      rw [Condition.evaluate_eq_meaning here.coherent] at settles
      rw [Condition.walkAll, Condition.walkAll]
      refine (first.alike here).bind (.condition here) fun value ended => ?_
      rw [if_pos (settles.eq_decisive ended), if_pos (settles.eq_decisive ended)]
      exact .refl _

theorem DecisionRow.SameReachedAll.alike (place : Nat) :
    {rows others : List DecisionRow} →
      DecisionRow.SameReachedAll facts rows others →
        Token.HeldBy objects ((DecisionSet.mk rows).leaves.map (·.token)) →
          Walk.Alike objects facts
            (DecisionRow.concluded <$> DecisionRow.walkAll facts place rows)
            (DecisionRow.concluded <$> DecisionRow.walkAll facts place others)
  | _, _, .nil, _ => .refl _
  | _, _, .cons consequent first later, held => by
      rw [DecisionSet.leaves, List.flatMap_cons, List.map_append] at held
      have here := held.mono (List.subset_append_left _ _)
      rw [DecisionRow.walkAll, DecisionRow.walkAll, map_bind, map_bind]
      refine (first.alike here).bind (.conditional here) fun applies _ => ?_
      cases applies with
      -- The rows found differ in their antecedents, but both log and conclude
      -- the same consequent.
      | true => exact fun _ _ => rfl
      | false =>
          exact later.alike (place + 1)
            (held.mono (List.subset_append_right _ _))
  | _, _, .settled consequent later others first settles, held => by
      rw [DecisionSet.leaves, List.flatMap_cons, List.map_append] at held
      have here := held.mono (List.subset_append_left _ _)
      rw [Conditional.evaluate_eq_meaning here.coherent] at settles
      rw [DecisionRow.walkAll, DecisionRow.walkAll, map_bind, map_bind]
      refine (first.alike here).bind (.conditional here) fun applies ended => ?_
      rw [settles.eq_decisive ended]
      exact fun _ _ => rfl

theorem ScoreRow.SameReachedAll.alike (weight : Float) (place : Nat) :
    {rows others : List ScoreRow} →
      ScoreRow.SameReachedAll facts rows others →
        Token.HeldBy objects
            ((ScoreSet.mk rows weight).leaves.map (·.token)) →
          Walk.Alike objects facts
            ((ScoreSet.mk rows weight).contribution <$>
              ScoreRow.walkAll facts weight place rows)
            ((ScoreSet.mk others weight).contribution <$>
              ScoreRow.walkAll facts weight place others)
  | _, _, .nil, _ => .refl _
  | _, _, .cons score first later, held => by
      rw [ScoreSet.leaves, List.flatMap_cons, List.map_append] at held
      have here := held.mono (List.subset_append_left _ _)
      rw [ScoreRow.walkAll, ScoreRow.walkAll, map_bind, map_bind]
      refine (first.alike here).bind (.conditional here) fun applies _ => ?_
      cases applies with
      | true => exact fun _ _ => rfl
      | false =>
          exact later.alike weight (place + 1)
            (held.mono (List.subset_append_right _ _))
  | _, _, .settled score later others first settles, held => by
      rw [ScoreSet.leaves, List.flatMap_cons, List.map_append] at held
      have here := held.mono (List.subset_append_left _ _)
      rw [Conditional.evaluate_eq_meaning here.coherent] at settles
      rw [ScoreRow.walkAll, ScoreRow.walkAll, map_bind, map_bind]
      refine (first.alike here).bind (.conditional here) fun applies ended => ?_
      rw [settles.eq_decisive ended]
      exact fun _ _ => rfl

theorem ScoreSet.SameReachedAll.alike (total : Float) :
    {sets others : List ScoreSet} →
      ScoreSet.SameReachedAll facts sets others →
        Token.HeldBy objects ((sets.flatMap ScoreSet.leaves).map (·.token)) →
          Walk.Alike objects facts (ScoreSet.walkAll facts total sets)
            (ScoreSet.walkAll facts total others)
  | _, _, .nil, _ => .refl _
  | _, _, .cons weight first later, held => by
      rw [List.flatMap_cons, List.map_append] at held
      have here := held.mono (List.subset_append_left _ _)
      rw [ScoreSet.walkAll_cons, ScoreSet.walkAll_cons, ScoreSet.walk,
        ScoreSet.walk]
      refine (first.alike weight 0 here).bind (.contribution here) ?_
      intro contribution _
      exact later.alike (total + contribution)
        (held.mono (List.subset_append_right _ _))

theorem Rule.SameReached.alike : {first second : Rule} →
    first.SameReached facts second → Token.HeldBy objects first.tokens →
      Walk.Alike objects facts (first.walk facts) (second.walk facts)
  | _, _, .decision profile other same, held => by
      rw [Rule.walk, Rule.walk, DecisionRule.walk_mk, DecisionRule.walk_mk,
        DecisionSet.walk, DecisionSet.walk]
      exact ((same.alike 0 held).before _).before _
  | _, _, .score profile other same, held => by
      rw [Rule.walk, Rule.walk, ScoreRule.walk, ScoreRule.walk,
        same.length_eq]
      exact ((same.alike 0 held).before _).before _

end

/-! Parts that follow the deciding one may be replaced. -/

theorem Condition.SameReachedAll.refl (junction : Junction)
    (conditions : List Condition) :
    Condition.SameReachedAll facts junction conditions conditions := by
  induction conditions with
  | nil => exact .nil junction
  | cons condition conditions ih => exact .cons (.same condition) ih

theorem Conditional.SameReached.refl (conditional : Conditional) :
    conditional.SameReached facts conditional := by
  obtain ⟨junction, conditions⟩ := conditional
  exact .mk (.refl junction conditions)

theorem Condition.SameReachedAll.of_settles {junction : Junction}
    {condition : Condition}
    (settles : Settles junction.decisive (condition.evaluate facts))
    (later others : List Condition) (before : List Condition) :
    Condition.SameReachedAll facts junction (before ++ condition :: later)
      (before ++ condition :: others) := by
  induction before with
  | nil => exact .settled later others (.same condition) settles
  | cons first before ih => exact .cons (.same first) ih

theorem DecisionRow.SameReachedAll.of_settles {row : DecisionRow}
    (settles : Settles true (row.applies facts))
    (later others : List DecisionRow) (before : List DecisionRow) :
    DecisionRow.SameReachedAll facts (before ++ row :: later)
      (before ++ row :: others) := by
  induction before with
  | nil =>
      obtain ⟨antecedent, consequent⟩ := row
      exact .settled consequent later others (.refl antecedent) settles
  | cons first before ih =>
      obtain ⟨antecedent, consequent⟩ := first
      exact .cons consequent (.refl antecedent) ih

theorem ScoreRow.SameReachedAll.of_settles {row : ScoreRow}
    (settles : Settles true (row.applies facts))
    (later others : List ScoreRow) (before : List ScoreRow) :
    ScoreRow.SameReachedAll facts (before ++ row :: later)
      (before ++ row :: others) := by
  induction before with
  | nil =>
      obtain ⟨antecedent, score⟩ := row
      exact .settled score later others (.refl antecedent) settles
  | cons first before ih =>
      obtain ⟨antecedent, score⟩ := first
      exact .cons score (.refl antecedent) ih

end Parts

/-! ## Calls -/

namespace Call

/-- Two calls give the same answer and log the same events. -/
structure RunsLike (facts : Facts) (call other : Call) : Prop where
  answer : call.answer facts = other.answer facts
  events : (call.walk facts).start.events = (other.walk facts).start.events

/-- Two calls of one entry point, on items that differ at most where evaluating the
first one does not get. -/
inductive SameReached (facts : Facts) : Call → Call → Prop
  | combine {first second : Conditional} :
      first.SameReached facts second →
        SameReached facts (.combine first) (.combine second)
  | decide {rows others : List DecisionRow} :
      DecisionRow.SameReachedAll facts rows others →
        SameReached facts (.decide ⟨rows⟩) (.decide ⟨others⟩)
  | contribute {rows others : List ScoreRow} (weight : Float) :
      ScoreRow.SameReachedAll facts rows others →
        SameReached facts (.contribute ⟨rows, weight⟩)
          (.contribute ⟨others, weight⟩)
  | execute {first second : Rule} :
      first.SameReached facts second →
        SameReached facts (.execute first) (.execute second)

variable {facts : Facts} {objects : Nat → Rule} {call other : Call}

theorem walk_decide (set : DecisionSet) :
    (decide set).walk facts =
      Answer.decision <$> DecisionRow.concluded <$> set.walk facts :=
  comp_map _ _ _

theorem walk_contribute (set : ScoreSet) :
    (contribute set).walk facts =
      Answer.contribution <$> set.contribution <$> set.walk facts :=
  comp_map _ _ _

theorem SameReached.alike (same : SameReached facts call other)
    (held : Token.HeldBy objects call.tokens) :
    Walk.Alike objects facts (call.walk facts) (other.walk facts) := by
  cases same with
  | combine same => exact (same.alike held).map _
  | decide same =>
      rw [walk_decide, walk_decide, DecisionSet.walk, DecisionSet.walk]
      exact (same.alike 0 held).map _
  | contribute weight same =>
      rw [walk_contribute, walk_contribute, ScoreSet.walk, ScoreSet.walk]
      exact (same.alike weight 0 held).map _
  | execute same => exact (same.alike held).map _

theorem SameReached.runsLike (same : SameReached facts call other)
    (coherent : Token.Coherent call.tokens) : RunsLike facts call other := by
  obtain ⟨objects, held⟩ := coherent.exists_table
  have start : (call.walk facts).start = (other.walk facts).start :=
    same.alike held .empty Cache.correct_empty
  constructor
  · rw [answer_eq_result, answer_eq_result, Walk.result, Walk.result, start]
  · rw [start]

/-- What is not reached does not matter.  After the first condition or row that
settles the matter on its own, whatever follows may be replaced by anything: the
answer and the events stay the same, and the answer is that of the deciding part,
also where that is a defect.  The same holds of such replacements deep inside, in
nested conditionals and in embedded rules. -/
theorem unreached_irrelevant (facts : Facts) :
    (∀ junction before condition later others,
      Token.Coherent
          (combine ⟨junction, before ++ condition :: later⟩).tokens →
        FirstToSettle junction.decisive (·.evaluate facts) before condition →
          RunsLike facts (combine ⟨junction, before ++ condition :: later⟩)
              (combine ⟨junction, before ++ condition :: others⟩) ∧
            Conditional.evaluate ⟨junction, before ++ condition :: later⟩
              facts = condition.evaluate facts) ∧
      (∀ before row later others,
        Token.Coherent (decide ⟨before ++ row :: later⟩).tokens →
          FirstToSettle true (·.applies facts) before row →
            RunsLike facts (decide ⟨before ++ row :: later⟩)
                (decide ⟨before ++ row :: others⟩) ∧
              DecisionSet.evaluate ⟨before ++ row :: later⟩ facts =
                (fun _ => some row.consequent) <$> row.applies facts) ∧
      (∀ weight before row later others,
        Token.Coherent (contribute ⟨before ++ row :: later, weight⟩).tokens →
          FirstToSettle true (·.applies facts) before row →
            RunsLike facts (contribute ⟨before ++ row :: later, weight⟩)
                (contribute ⟨before ++ row :: others, weight⟩) ∧
              ScoreSet.evaluate ⟨before ++ row :: later, weight⟩ facts =
                (fun _ => row.score * weight) <$> row.applies facts) ∧
      ∀ call other, Token.Coherent call.tokens →
        SameReached facts call other → RunsLike facts call other := by
  refine ⟨?_, ?_, ?_, fun _ _ coherent same => same.runsLike coherent⟩
  · intro junction before condition later others coherent first
    have same := Condition.SameReachedAll.of_settles first.2 later others before
    exact ⟨(SameReached.combine (.mk same)).runsLike coherent,
      Conditional.evaluate_of_settles coherent first⟩
  · intro before row later others coherent first
    have same := DecisionRow.SameReachedAll.of_settles first.2 later others before
    exact ⟨(SameReached.decide same).runsLike coherent,
      DecisionSet.evaluate_of_settles coherent first⟩
  · intro weight before row later others coherent first
    have same := ScoreRow.SameReachedAll.of_settles first.2 later others before
    exact ⟨(SameReached.contribute weight same).runsLike coherent,
      ScoreSet.evaluate_of_settles coherent first⟩

end Call

section Sample

/-- The test of a gate that asks a rule object for the sign of the level. -/
def Condition.sign (object : Nat) (embedded : Rule) : Condition :=
  .test ⟨.rule "sign" object .boolean embedded, .boolean (.is true)⟩

def Condition.dog : Condition :=
  .test (.onFact "pet" (.string (.equals "dog")))

end Sample

namespace Call

/-- Where the level is not positive, a gate does not get to the pet, which has the
wrong kind.  In its place another rule may be embedded as the same rule object, in
the conditional alone and in the gate.  Where the level has the wrong kind, the
defect is that of the sign. -/
theorem unreached_irrelevant_gated :
    let facts : Facts := .ofList [("level", .int (-1)), ("pet", .int 3)]
    let unknown : Facts := .ofList [("level", .text "up")]
    let defect : EvalError := .typeMismatch "level" .numeric .string
    let other := Condition.sign 0 (.gated 1)
    Condition.dog.evaluate facts =
        .error (.typeMismatch "pet" .string .numeric) ∧
      RunsLike facts (combine ⟨.all, [.sign 0 .positive, .dog]⟩)
        (combine ⟨.all, [.sign 0 .positive, other, other]⟩) ∧
      Conditional.evaluate ⟨.all, [.sign 0 .positive, .dog]⟩ facts = .ok false ∧
      RunsLike facts (execute (.gated 0)) (execute (.decision
        ⟨⟨[⟨⟨.all, [.sign 0 .positive, other, other]⟩, .text "GO"⟩]⟩,
          .initial⟩)) ∧
      Conditional.evaluate ⟨.all, [.sign 0 .positive, .dog]⟩ unknown =
        .error defect := by
  intro facts unknown defect other
  have coherent : Token.Coherent (execute (.gated 0)).tokens :=
    Rule.gate_coherent (List.Subset.refl _)
  have low : (Condition.sign 0 .positive).evaluate facts = .ok false := by
    with_unfolding_all rfl
  have failed : (Condition.sign 0 .positive).evaluate unknown =
      .error defect := by
    with_unfolding_all rfl
  have here := (unreached_irrelevant facts).1 .all [] (.sign 0 .positive)
    [.dog] [other, other] coherent ⟨by simp, .inl low⟩
  have there := (unreached_irrelevant unknown).1 .all [] (.sign 0 .positive)
    [.dog] [] coherent ⟨by simp, .inr ⟨defect, failed⟩⟩
  have inside : SameReached facts (execute (.gated 0)) (execute (.decision
      ⟨⟨[⟨⟨.all, [.sign 0 .positive, other, other]⟩, .text "GO"⟩]⟩,
        .initial⟩)) :=
    .execute (.decision _ _
      (.cons _ (.mk (.settled _ _ (.same _) (.inl low))) .nil))
  refine ⟨by with_unfolding_all rfl, here.1, here.2.trans low, ?_,
    there.2.trans failed⟩
  exact (unreached_irrelevant facts).2.2.2 _ _ coherent inside

end Call

end Rulebook
