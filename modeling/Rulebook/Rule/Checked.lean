import Rulebook.Operator.Check
import Rulebook.Rule.Basic

/-!
# Checked construction

A rule is put together from its parts outwards, and each constructor here
refuses the defects that become visible at its level: a token that nests too
many rules, a test whose operator does not fit its token, a score or a weight
out of bounds.  The constructors of rules look at all tests of their rulesets
once more, in the order in which they are written: every operator has to be
valid, and no fact may be asked for with two kinds.  What they find out on the
way, the requirements and the depth of the rule, is its profile.

The profile of a rule is computed from the profiles of the rules embedded in it
and never by walking into them, so the cost of building a rule does not depend on
how large the embedded rules are.
-/

namespace Rulebook

/-- The greatest number of rules that may be nested through tokens, the
outermost one included. -/
def maxChainDepth : Nat :=
  32

/-- How far the sum of the weights of a score rule may be from one. -/
def weightTolerance : Float :=
  1e-9

mutual

/-- The tests of a condition in the order in which they are written. -/
def Condition.leaves : Condition → List Expression
  | .test expression => [expression]
  | .nested conditional => conditional.leaves

def Conditional.leaves : Conditional → List Expression
  | ⟨_, conditions⟩ => Condition.leavesAll conditions

def Condition.leavesAll : List Condition → List Expression
  | [] => []
  | condition :: conditions =>
      condition.leaves ++ Condition.leavesAll conditions

end

def DecisionSet.leaves (set : DecisionSet) : List Expression :=
  set.rows.flatMap fun row => row.antecedent.leaves

def ScoreSet.leaves (set : ScoreSet) : List Expression :=
  set.rows.flatMap fun row => row.antecedent.leaves

namespace Token

/-- The facts that a token asks for. -/
def requests : Token → List (String × ValueKind)
  | .fact name kind => [(name, kind)]
  | .rule _ _ _ embedded => embedded.requirements.entries

/-- The number of rules on the longest path of embedded rules that starts at a
token. -/
def depth : Token → Nat
  | .fact _ _ => 0
  | .rule _ _ _ embedded => embedded.chainDepth

/-- The token that embeds a rule object under a label. -/
def embed (label : String) (object : RuleObject) :
    Except ConfigError Token :=
  match object.rule.outputKind with
  | none => .error (.unembeddableRule label)
  | some kind =>
      let depth := object.rule.chainDepth + 1
      if maxChainDepth < depth then
        .error (.chainTooDeep label depth maxChainDepth)
      else
        .ok (.rule label object.number kind object.rule)

end Token

namespace Expression

/-- The test of a token by an operator, which has to be valid and to accept the
kind of the token. -/
def make (token : Token) (operator : Operator) :
    Except ConfigError Expression := do
  operator.validate
  if token.kind = operator.kind then
    return ⟨token, operator⟩
  else
    throw (.kindMismatch token.name token.kind operator.kind)

/-- The test of a fact of the very kind that an operator accepts.  Only a range
has to be checked before; whether the operator is valid is asked by the
constructor of the enclosing rule. -/
def onFact (name : String) (operator : Operator) : Expression :=
  ⟨.fact name operator.kind, operator⟩

end Expression

/-- A row that concludes a score, which has to be finite. -/
def ScoreRow.make (antecedent : Conditional) (score : Float) :
    Except ConfigError ScoreRow :=
  if score.isFinite then
    .ok ⟨antecedent, score⟩
  else
    .error (.nonFiniteScore score)

/-- A weight has to be between zero and one. -/
def checkWeight (weight : Float) : Except ConfigError Unit :=
  if 0 ≤ weight && weight ≤ 1 then
    .ok ()
  else
    .error (.weightOutOfRange weight)

namespace ScoreSet

/-- A ruleset of scores, whose weight has to be between zero and one. -/
def make (rows : List ScoreRow) (weight : Float) :
    Except ConfigError ScoreSet := do
  checkWeight weight
  return ⟨rows, weight⟩

/-- A ruleset of scores from its antecedents and scores, which are checked from
the first to the last and before the weight. -/
def ofPairs (pairs : List (Conditional × Float)) (weight : Float) :
    Except ConfigError ScoreSet := do
  let rows ← pairs.mapM fun pair => ScoreRow.make pair.1 pair.2
  make rows weight

/-- The sum of weights, from the first to the last.  It starts from negative
zero, which added to any weight leaves that weight. -/
def weightSum (sets : List ScoreSet) : Float :=
  sets.foldl (fun sum set => sum + set.weight) (-0.0)

end ScoreSet

namespace Profile

/-- The profile of a rule without tests. -/
def initial : Profile :=
  ⟨.empty, 1⟩

/-- Take one more test into account. -/
def addLeaf (profile : Profile) (leaf : Expression) :
    Except ConfigError Profile := do
  leaf.operator.validate
  let requirements ← profile.requirements.recordAll leaf.token.requests
  return ⟨requirements, max profile.depth (leaf.token.depth + 1)⟩

/-- The profile of a rule with the given tests. -/
def ofLeaves (leaves : List Expression) : Except ConfigError Profile :=
  leaves.foldlM addLeaf initial

end Profile

namespace DecisionRule

/-- The rule that decides by a ruleset. -/
def make (ruleset : DecisionSet) : Except ConfigError DecisionRule := do
  let profile ← Profile.ofLeaves ruleset.leaves
  return ⟨ruleset, profile⟩

/-- The rule that decides by the only ruleset of a list. -/
def ofSets : List DecisionSet → Except ConfigError DecisionRule
  | [ruleset] => make ruleset
  | rulesets => .error (.decisionRuleSetCount rulesets.length)

end DecisionRule

namespace ScoreRule

/-- The rule that sums up the weighted scores of one or more rulesets, whose
weights have to sum to one. -/
def make (rulesets : List ScoreSet) : Except ConfigError ScoreRule := do
  if rulesets.isEmpty then
    throw .noRuleSets
  rulesets.forM fun set => checkWeight set.weight
  let sum := ScoreSet.weightSum rulesets
  if weightTolerance < (sum - 1).abs then
    throw (.weightSum sum)
  let profile ← Profile.ofLeaves (rulesets.flatMap ScoreSet.leaves)
  return ⟨rulesets, profile⟩

end ScoreRule

end Rulebook
