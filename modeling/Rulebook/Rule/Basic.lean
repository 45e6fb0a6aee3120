import Rulebook.Decision
import Rulebook.Requirements

/-!
# Rules

A rule is a tree.  A test compares a token with an operator; a conditional
combines tests and other conditionals; a row pairs a conditional with what it
concludes; a ruleset is a list of rows of which the first one to apply counts; a
rule is one ruleset of decisions or several weighted rulesets of scores.  A
token names a fact, or it embeds another rule, whose output then stands in for
the value of a fact.

Rules are shared: several tokens may embed one and the same rule object, and
then an evaluation runs it once.  Identity is data here.  A token that embeds a
rule holds the number of the rule object besides the rule, and tokens with the
same number embed the same rule.

The types say nothing about which rules are well formed.  `Rule/Checked` has the
constructors that refuse defective ones.
-/

namespace Rulebook

/-- How a conditional combines its conditions. -/
inductive Junction where
  /-- Every condition has to hold. -/
  | all
  /-- One condition has to hold. -/
  | any
deriving DecidableEq, Repr, Inhabited

/-- The value of a condition that settles a conditional at once: a false one
settles `all`, and a true one settles `any`. -/
def Junction.decisive : Junction → Bool
  | .all => false
  | .any => true

/-- What is known of a rule's tokens when the rule is finished. -/
structure Profile where
  /-- The facts asked for by the rule and by all rules embedded in it. -/
  requirements : Requirements
  /-- The number of rules on the longest path of embedded rules, this one
  included. -/
  depth : Nat

instance : BEq Profile :=
  ⟨fun first second =>
    first.requirements == second.requirements && first.depth == second.depth⟩

mutual

/-- What an operator is applied to: a fact of a kind, or a rule object under a
label, of which the kind of the output is known. -/
inductive Token where
  | fact (name : String) (kind : ValueKind)
  | rule (label : String) (object : Nat) (kind : ValueKind) (rule : Rule)

structure Expression where
  token : Token
  operator : Operator

inductive Condition where
  | test (expression : Expression)
  | nested (conditional : Conditional)

/-- An ordered combination of conditions. -/
structure Conditional where
  junction : Junction
  conditions : List Condition

structure DecisionRow where
  antecedent : Conditional
  consequent : Decision

structure ScoreRow where
  antecedent : Conditional
  score : Float

/-- Rows of decisions, of which the first one to apply counts. -/
structure DecisionSet where
  rows : List DecisionRow

/-- Rows of scores, of which the first one to apply counts, with the weight of
its score. -/
structure ScoreSet where
  rows : List ScoreRow
  weight : Float

/-- A rule that decides by one ruleset. -/
structure DecisionRule where
  ruleset : DecisionSet
  profile : Profile

/-- A rule that sums up the weighted scores of its rulesets. -/
structure ScoreRule where
  rulesets : List ScoreSet
  profile : Profile

inductive Rule where
  | decision (rule : DecisionRule)
  | score (rule : ScoreRule)

end

namespace Token

/-- The name of the fact, or the label of the embedded rule. -/
def name : Token → String
  | .fact name _ => name
  | .rule label _ _ _ => label

/-- The kind a token resolves to. -/
def kind : Token → ValueKind
  | .fact _ kind => kind
  | .rule _ _ kind _ => kind

end Token

namespace DecisionSet

/-- The kinds of the consequents, row by row. -/
def kinds (set : DecisionSet) : List (Option ValueKind) :=
  set.rows.map fun row => row.consequent.kind

/-- The one kind that all consequents have, if there is one. -/
def outputKind (set : DecisionSet) : Option ValueKind :=
  match set.kinds with
  | some first :: rest => if rest.all (· = some first) then some first else none
  | _ => none

end DecisionSet

namespace Rule

/-- What was recorded of the rule's tokens. -/
def profile : Rule → Profile
  | .decision rule => rule.profile
  | .score rule => rule.profile

/-- The facts that have to be supplied. -/
def requirements (rule : Rule) : Requirements :=
  rule.profile.requirements

/-- The number of rules on the longest path of embedded rules. -/
def chainDepth (rule : Rule) : Nat :=
  rule.profile.depth

/-- The kind of the rule's output, if every output has the same one. -/
def outputKind : Rule → Option ValueKind
  | .decision rule => rule.ruleset.outputKind
  | .score _ => some .numeric

end Rule

/-- A rule as an object that several tokens may embed.  Objects are told apart
by their numbers. -/
structure RuleObject where
  number : Nat
  rule : Rule

end Rulebook
