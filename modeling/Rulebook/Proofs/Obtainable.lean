import Rulebook.Document.Decode
import Rulebook.Proofs.Occurrence

/-!
# Items that can be obtained

An item is a part of a rule of any type, up to a whole rule.  There are two ways
to obtain one: by a constructor, from parts that were obtained before, and by
reading a document.  `Item.Made` has one case for each constructor, and
`Item.Read` has one for each type that can be read.

No case says which numbers rule objects get, so an obtainable item may share
its embedded rules in any way.
-/

namespace Rulebook

/-- A part of a rule, or a whole rule. -/
inductive Item where
  | token (token : Token)
  | expression (expression : Expression)
  | condition (condition : Condition)
  | conditional (conditional : Conditional)
  | decisionRow (row : DecisionRow)
  | scoreRow (row : ScoreRow)
  | decisionSet (set : DecisionSet)
  | scoreSet (set : ScoreSet)
  | rule (rule : Rule)

/-- The tests of an item, without those of embedded rules.  A token alone has
none. -/
def Item.leaves : Item → List Expression
  | .token _ => []
  | .expression tested => [tested]
  | .condition part => part.leaves
  | .conditional whole => whole.leaves
  | .decisionRow row => row.antecedent.leaves
  | .scoreRow row => row.antecedent.leaves
  | .decisionSet set => set.leaves
  | .scoreSet set => set.leaves
  | .rule whole => whole.leaves

/-- The tokens of an item, without those of embedded rules. -/
def Item.tokens : Item → List Token
  | .token alone => [alone]
  | item => item.leaves.map (·.token)

namespace Item

/-! An item has the tokens of its parts. -/

theorem tokens_test (tested : Expression) :
    (Item.condition (.test tested)).tokens = (Item.expression tested).tokens := by
  simp [tokens, leaves, Condition.leaves]

theorem tokens_nested (inner : Conditional) :
    (Item.condition (.nested inner)).tokens = (Item.conditional inner).tokens := by
  simp [tokens, leaves, Condition.leaves]

theorem tokens_conditional (junction : Junction) (conditions : List Condition) :
    (Item.conditional ⟨junction, conditions⟩).tokens =
      (conditions.map Item.condition).flatMap tokens := by
  simp [tokens, leaves, Conditional.leaves, Condition.leavesAll_eq_flatMap,
    List.flatMap_map, List.map_flatMap]

theorem tokens_decisionSet (rows : List DecisionRow) :
    (Item.decisionSet ⟨rows⟩).tokens =
      (rows.map Item.decisionRow).flatMap tokens := by
  simp [tokens, leaves, DecisionSet.leaves, List.flatMap_map, List.map_flatMap]

theorem tokens_scoreSet (rows : List ScoreRow) (weight : Float) :
    (Item.scoreSet ⟨rows, weight⟩).tokens =
      (rows.map Item.scoreRow).flatMap tokens := by
  simp [tokens, leaves, ScoreSet.leaves, List.flatMap_map, List.map_flatMap]

theorem tokens_score (rulesets : List ScoreSet) (profile : Profile) :
    (Item.rule (.score ⟨rulesets, profile⟩)).tokens =
      (rulesets.map Item.scoreSet).flatMap tokens := by
  simp [tokens, leaves, Rule.leaves, List.flatMap_map, List.map_flatMap]

/-- Items that a document was read as. -/
inductive Read : Item → Prop
  | token {document : Document} {token : Token} {first next : Nat} :
      (Token.decode document).run first = .ok (token, next) →
        Read (.token token)
  | expression {document : Document} {expression : Expression}
      {first next : Nat} :
      (Expression.decode document).run first = .ok (expression, next) →
        Read (.expression expression)
  | condition {document : Document} {condition : Condition}
      {first next : Nat} :
      (Condition.decode document).run first = .ok (condition, next) →
        Read (.condition condition)
  | conditional {document : Document} {conditional : Conditional}
      {first next : Nat} :
      (Conditional.decode document).run first = .ok (conditional, next) →
        Read (.conditional conditional)
  | decisionRow {document : Document} {row : DecisionRow} {first next : Nat} :
      (DecisionRow.decode document).run first = .ok (row, next) →
        Read (.decisionRow row)
  | scoreRow {document : Document} {row : ScoreRow} {first next : Nat} :
      (ScoreRow.decode document).run first = .ok (row, next) →
        Read (.scoreRow row)
  | decisionSet {document : Document} {set : DecisionSet} {first next : Nat} :
      (DecisionSet.decode document).run first = .ok (set, next) →
        Read (.decisionSet set)
  | scoreSet {document : Document} {set : ScoreSet} {first next : Nat} :
      (ScoreSet.decode document).run first = .ok (set, next) →
        Read (.scoreSet set)
  | decisionRule {document : Document} {rule : DecisionRule}
      {first next : Nat} :
      (DecisionRule.decode document).run first = .ok (rule, next) →
        Read (.rule (.decision rule))
  | scoreRule {document : Document} {rule : ScoreRule} {first next : Nat} :
      (ScoreRule.decode document).run first = .ok (rule, next) →
        Read (.rule (.score rule))
  | rule {document : Document} {rule : Rule} {first next : Nat} :
      (Rule.decode document).run first = .ok (rule, next) →
        Read (.rule rule)

/-- Items that the constructors make from given ones.  A rule that becomes an
object may get any number. -/
inductive Made (given : Item → Prop) : Item → Prop
  | given {item : Item} : given item → Made given item
  | fact (name : String) (kind : ValueKind) :
      Made given (.token (.fact name kind))
  | embed {label : String} {number : Nat} {rule : Rule} {token : Token} :
      Made given (.rule rule) →
        Token.embed label ⟨number, rule⟩ = .ok token →
          Made given (.token token)
  | expression {token : Token} {operator : Operator}
      {expression : Expression} :
      Made given (.token token) →
        Expression.make token operator = .ok expression →
          Made given (.expression expression)
  | onFact (name : String) {operator : Operator} :
      operator.checkRange = .ok () →
        Made given (.expression (.onFact name operator))
  | test {expression : Expression} :
      Made given (.expression expression) →
        Made given (.condition (.test expression))
  | nested {conditional : Conditional} :
      Made given (.conditional conditional) →
        Made given (.condition (.nested conditional))
  | conditional (junction : Junction) {conditions : List Condition} :
      (∀ condition ∈ conditions, Made given (.condition condition)) →
        Made given (.conditional ⟨junction, conditions⟩)
  | decisionRow {antecedent : Conditional} (consequent : Decision) :
      Made given (.conditional antecedent) →
        Made given (.decisionRow ⟨antecedent, consequent⟩)
  | scoreRow {antecedent : Conditional} {score : Float} {row : ScoreRow} :
      Made given (.conditional antecedent) →
        ScoreRow.make antecedent score = .ok row →
          Made given (.scoreRow row)
  | decisionSet {rows : List DecisionRow} :
      (∀ row ∈ rows, Made given (.decisionRow row)) →
        Made given (.decisionSet ⟨rows⟩)
  | scoreSet {rows : List ScoreRow} {weight : Float} {set : ScoreSet} :
      (∀ row ∈ rows, Made given (.scoreRow row)) →
        ScoreSet.make rows weight = .ok set →
          Made given (.scoreSet set)
  | scorePairs {pairs : List (Conditional × Float)} {weight : Float}
      {set : ScoreSet} :
      (∀ pair ∈ pairs, Made given (.conditional pair.1)) →
        ScoreSet.ofPairs pairs weight = .ok set →
          Made given (.scoreSet set)
  | decision {ruleset : DecisionSet} {rule : DecisionRule} :
      Made given (.decisionSet ruleset) →
        DecisionRule.make ruleset = .ok rule →
          Made given (.rule (.decision rule))
  | decisions {rulesets : List DecisionSet} {rule : DecisionRule} :
      (∀ ruleset ∈ rulesets, Made given (.decisionSet ruleset)) →
        DecisionRule.ofSets rulesets = .ok rule →
          Made given (.rule (.decision rule))
  | score {rulesets : List ScoreSet} {rule : ScoreRule} :
      (∀ ruleset ∈ rulesets, Made given (.scoreSet ruleset)) →
        ScoreRule.make rulesets = .ok rule →
          Made given (.rule (.score rule))

/-- Items that can be obtained: the constructors make them, from nothing else
than what documents were read as. -/
def Obtainable (item : Item) : Prop :=
  item.Made Read

/-- Items that the constructors make on their own. -/
def Constructed (item : Item) : Prop :=
  item.Made fun _ => False

/-- What is made from made items could have been made at once. -/
theorem Made.trans {given earlier : Item → Prop} {item : Item}
    (made : item.Made given)
    (before : ∀ {item}, given item → item.Made earlier) :
    item.Made earlier := by
  induction made with
  | given holds => exact before holds
  | fact name kind => exact .fact name kind
  | embed _ accepted ih => exact .embed ih accepted
  | expression _ accepted ih => exact .expression ih accepted
  | onFact name inRange => exact .onFact name inRange
  | test _ ih => exact .test ih
  | nested _ ih => exact .nested ih
  | conditional junction _ ih => exact .conditional junction ih
  | decisionRow consequent _ ih => exact .decisionRow consequent ih
  | scoreRow _ accepted ih => exact .scoreRow ih accepted
  | decisionSet _ ih => exact .decisionSet ih
  | scoreSet _ accepted ih => exact .scoreSet ih accepted
  | scorePairs _ accepted ih => exact .scorePairs ih accepted
  | decision _ accepted ih => exact .decision ih accepted
  | decisions _ accepted ih => exact .decisions ih accepted
  | score _ accepted ih => exact .score ih accepted

theorem Obtainable.of_constructed {item : Item}
    (constructed : item.Constructed) : item.Obtainable :=
  Made.trans constructed fun absurd => absurd.elim

end Item

end Rulebook
