import Rulebook.Proofs.Meaning
import Rulebook.Proofs.Occurrence

/-!
# Other tokens in the same tests

`mapTokens` puts another token into each of an item's own tests and leaves the
rest of the item as it is.  Embedded rules are changed only as far as their tokens
are.  The tests come out in their old order, and an item means the same as before
wherever the new tokens do.
-/

namespace Rulebook

def Expression.mapToken (function : Token → Token) (tested : Expression) :
    Expression :=
  ⟨function tested.token, tested.operator⟩

mutual

def Condition.mapTokens (function : Token → Token) : Condition → Condition
  | .test expression => .test (expression.mapToken function)
  | .nested conditional => .nested (conditional.mapTokens function)

def Conditional.mapTokens (function : Token → Token) :
    Conditional → Conditional
  | ⟨junction, conditions⟩ =>
      ⟨junction, Condition.mapTokensAll function conditions⟩

def Condition.mapTokensAll (function : Token → Token) :
    List Condition → List Condition
  | [] => []
  | condition :: conditions =>
      condition.mapTokens function ::
        Condition.mapTokensAll function conditions

end

def DecisionRow.mapTokens (function : Token → Token) (row : DecisionRow) :
    DecisionRow :=
  ⟨row.antecedent.mapTokens function, row.consequent⟩

def ScoreRow.mapTokens (function : Token → Token) (row : ScoreRow) : ScoreRow :=
  ⟨row.antecedent.mapTokens function, row.score⟩

def DecisionSet.mapTokens (function : Token → Token) (set : DecisionSet) :
    DecisionSet :=
  ⟨set.rows.map (DecisionRow.mapTokens function)⟩

def ScoreSet.mapTokens (function : Token → Token) (set : ScoreSet) : ScoreSet :=
  ⟨set.rows.map (ScoreRow.mapTokens function), set.weight⟩

section Leaves

variable (function : Token → Token)

mutual

theorem Condition.leaves_mapTokens : (condition : Condition) →
    (condition.mapTokens function).leaves =
      condition.leaves.map (Expression.mapToken function)
  | .test expression => by
      rw [Condition.mapTokens, Condition.leaves, Condition.leaves,
        List.map_singleton]
  | .nested conditional => by
      rw [Condition.mapTokens, Condition.leaves, Condition.leaves,
        conditional.leaves_mapTokens]

theorem Conditional.leaves_mapTokens : (conditional : Conditional) →
    (conditional.mapTokens function).leaves =
      conditional.leaves.map (Expression.mapToken function)
  | ⟨junction, conditions⟩ => by
      rw [Conditional.mapTokens, Conditional.leaves, Conditional.leaves,
        Condition.leavesAll_mapTokens conditions]

theorem Condition.leavesAll_mapTokens : (conditions : List Condition) →
    Condition.leavesAll (Condition.mapTokensAll function conditions) =
      (Condition.leavesAll conditions).map (Expression.mapToken function)
  | [] => by
      rw [Condition.mapTokensAll, Condition.leavesAll, List.map_nil]
  | condition :: conditions => by
      rw [Condition.mapTokensAll, Condition.leavesAll, Condition.leavesAll,
        condition.leaves_mapTokens, Condition.leavesAll_mapTokens conditions,
        List.map_append]

end

theorem DecisionSet.leaves_mapTokens (set : DecisionSet) :
    (set.mapTokens function).leaves =
      set.leaves.map (Expression.mapToken function) := by
  rw [mapTokens, leaves, leaves, List.flatMap_map, List.map_flatMap]
  exact congrArg (set.rows.flatMap ·)
    (funext fun row => row.antecedent.leaves_mapTokens function)

theorem ScoreSet.leaves_mapTokens (set : ScoreSet) :
    (set.mapTokens function).leaves =
      set.leaves.map (Expression.mapToken function) := by
  rw [mapTokens, leaves, leaves, List.flatMap_map, List.map_flatMap]
  exact congrArg (set.rows.flatMap ·)
    (funext fun row => row.antecedent.leaves_mapTokens function)

theorem ScoreSet.flatMap_leaves_mapTokens (sets : List ScoreSet) :
    (sets.map (mapTokens function)).flatMap leaves =
      (sets.flatMap leaves).map (Expression.mapToken function) := by
  rw [List.flatMap_map, List.map_flatMap]
  exact congrArg (sets.flatMap ·) (funext (leaves_mapTokens function))

/-- The weights stay as they are. -/
theorem ScoreSet.weightSum_mapTokens (sets : List ScoreSet) :
    weightSum (sets.map (mapTokens function)) = weightSum sets := by
  rw [weightSum, weightSum, List.foldl_map]
  rfl

theorem ScoreSet.forM_checkWeight_mapTokens (sets : List ScoreSet) :
    ((sets.map (mapTokens function)).forM fun set => checkWeight set.weight) =
      sets.forM fun set => checkWeight set.weight := by
  induction sets with
  | nil => rfl
  | cons set sets ih =>
      change (checkWeight set.weight >>= fun _ =>
        (sets.map (mapTokens function)).forM fun set =>
          checkWeight set.weight) = _
      rw [ih]
      rfl

end Leaves

section Meaning

variable {function : Token → Token} {first second : Facts}

/-- The new tokens of some tests mean on the second facts what the old ones mean
on the first. -/
def MeansSame (function : Token → Token) (first second : Facts)
    (leaves : List Expression) : Prop :=
  ∀ leaf ∈ leaves,
    (function leaf.token).meaning second = leaf.token.meaning first

theorem meansSame_append {leaves others : List Expression} :
    MeansSame function first second (leaves ++ others) ↔
      MeansSame function first second leaves ∧
        MeansSame function first second others :=
  List.forall_mem_append

mutual

theorem Condition.meaning_mapTokens : (condition : Condition) →
    MeansSame function first second condition.leaves →
      (condition.mapTokens function).meaning second = condition.meaning first
  | .test ⟨token, operator⟩, same => by
      rw [Condition.leaves] at same
      have token := same _ (List.mem_singleton_self _)
      rw [Condition.mapTokens, Condition.meaning, Condition.meaning,
        Expression.mapToken, Expression.meaning, Expression.meaning, token]
  | .nested conditional, same => by
      rw [Condition.leaves] at same
      rw [Condition.mapTokens, Condition.meaning, Condition.meaning,
        conditional.meaning_mapTokens same]

theorem Conditional.meaning_mapTokens : (conditional : Conditional) →
    MeansSame function first second conditional.leaves →
      (conditional.mapTokens function).meaning second =
        conditional.meaning first
  | ⟨junction, conditions⟩, same => by
      rw [Conditional.leaves] at same
      rw [Conditional.mapTokens, Conditional.meaning, Conditional.meaning,
        Condition.meaningAll_mapTokens junction conditions same]

theorem Condition.meaningAll_mapTokens (junction : Junction) :
    (conditions : List Condition) →
      MeansSame function first second (Condition.leavesAll conditions) →
        Condition.meaningAll second junction
            (Condition.mapTokensAll function conditions) =
          Condition.meaningAll first junction conditions
  | [], _ => by
      rw [Condition.mapTokensAll, Condition.meaningAll, Condition.meaningAll]
  | condition :: conditions, same => by
      rw [Condition.leavesAll, meansSame_append] at same
      rw [Condition.mapTokensAll, Condition.meaningAll, Condition.meaningAll,
        condition.meaning_mapTokens same.1,
        Condition.meaningAll_mapTokens junction conditions same.2]

end

theorem DecisionRow.meaningAll_mapTokens (rows : List DecisionRow)
    (same : MeansSame function first second (DecisionSet.mk rows).leaves) :
    DecisionRow.meaningAll second (rows.map (mapTokens function)) =
      DecisionRow.meaningAll first rows := by
  induction rows with
  | nil => rw [List.map_nil, meaningAll, meaningAll]
  | cons row rows ih =>
      obtain ⟨antecedent, consequent⟩ := row
      rw [DecisionSet.leaves, List.flatMap_cons, meansSame_append] at same
      rw [List.map_cons, mapTokens, meaningAll, meaningAll,
        antecedent.meaning_mapTokens same.1, ih same.2]

theorem ScoreRow.meaningAll_mapTokens (weight : Float) (rows : List ScoreRow)
    (same : MeansSame function first second (ScoreSet.mk rows weight).leaves) :
    ScoreRow.meaningAll second weight (rows.map (mapTokens function)) =
      ScoreRow.meaningAll first weight rows := by
  induction rows with
  | nil => rw [List.map_nil, meaningAll, meaningAll]
  | cons row rows ih =>
      obtain ⟨antecedent, score⟩ := row
      rw [ScoreSet.leaves, List.flatMap_cons, meansSame_append] at same
      rw [List.map_cons, mapTokens, meaningAll, meaningAll,
        antecedent.meaning_mapTokens same.1, ih same.2]

theorem ScoreSet.meaningAll_mapTokens (total : Float) (sets : List ScoreSet)
    (same : MeansSame function first second (sets.flatMap leaves)) :
    ScoreSet.meaningAll second total (sets.map (mapTokens function)) =
      ScoreSet.meaningAll first total sets := by
  induction sets generalizing total with
  | nil => rw [List.map_nil, meaningAll, meaningAll]
  | cons set sets ih =>
      obtain ⟨rows, weight⟩ := set
      rw [List.flatMap_cons, meansSame_append] at same
      rw [List.map_cons, mapTokens, meaningAll, meaningAll,
        ScoreRow.meaningAll_mapTokens weight rows same.1]
      exact bind_congr fun contribution => ih (total + contribution) same.2

end Meaning

end Rulebook
