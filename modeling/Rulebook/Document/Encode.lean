import Rulebook.Document.Basic
import Rulebook.Rule.Basic

/-!
# Storing items

What is stored is the tree that was written, not what was found out about it: the
requirements and the depth of a rule and the kind of a rule token are left out,
and so are the numbers of rule objects.  A rule that several tokens embed is
stored once for each of them.
-/

namespace Rulebook

/-- The tag of a kind, of a token for facts of that kind, and of an operator
that accepts it. -/
def ValueKind.tag : ValueKind → String
  | .numeric => "Numeric"
  | .string => "String"
  | .boolean => "Boolean"

def ValueKind.encode (kind : ValueKind) : Document :=
  .text kind.tag

def Value.encode : Value → Document
  | .int number => .tagged "Int" (.integer number.toInt)
  | .float number => .tagged "Float" (.ofFloat number)
  | .boolean truth => .tagged "Bool" (.boolean truth)
  | .text content => .tagged "String" (.text content)
  | .null => .text "Null"

def Facts.encode (facts : Facts) : Document :=
  .record (facts.entries.map fun entry => (entry.1, entry.2.encode))

mutual

def Decision.encode : Decision → Document
  | .number value => .tagged "Number" (.ofFloat value)
  | .text value => .tagged "Text" (.text value)
  | .boolean value => .tagged "Bool" (.boolean value)
  | .list items => .tagged "List" (.list (Decision.encodeItems items))
  | .map entries => .tagged "Map" (.record (Decision.encodeEntries entries))

def Decision.encodeItems : List Decision → List Document
  | [] => []
  | item :: items => item.encode :: Decision.encodeItems items

def Decision.encodeEntries {floor : Option String} :
    Decision.Entries floor → List (String × Document)
  | .nil => []
  | .cons name _ item rest => (name, item.encode) :: Decision.encodeEntries rest

end

def NumericTest.encode : NumericTest → Document
  | .lt baseline => .tagged "Lt" (.ofFloat baseline)
  | .lte baseline => .tagged "Lte" (.ofFloat baseline)
  | .gt baseline => .tagged "Gt" (.ofFloat baseline)
  | .gte baseline => .tagged "Gte" (.ofFloat baseline)
  | .eq baseline => .tagged "Eq" (.ofFloat baseline)
  | .notEq baseline => .tagged "NotEq" (.ofFloat baseline)
  | .between floor ceiling =>
      .tagged "Between"
        (.record [("ceiling", .ofFloat ceiling), ("floor", .ofFloat floor)])
  | .isNone => .text "IsNone"

def TextSet.encode (set : TextSet) : Document :=
  .list (set.toList.map .text)

def TextTest.encode : TextTest → Document
  | .isIn members => .tagged "In" (TextSet.encode members)
  | .notIn members => .tagged "NotIn" (TextSet.encode members)
  | .contains part => .tagged "Contains" (.text part)
  | .equals whole => .tagged "Equals" (.text whole)
  | .isNone => .text "IsNone"

def BooleanTest.encode : BooleanTest → Document
  | .is expected => .tagged "Is" (.boolean expected)
  | .isNone => .text "IsNone"

def Operator.encode (operator : Operator) : Document :=
  .tagged operator.kind.tag <|
    match operator with
    | .numeric test => test.encode
    | .string test => test.encode
    | .boolean test => test.encode

def Junction.tag : Junction → String
  | .all => "WhenAll"
  | .any => "WhenAny"

mutual

def Token.encode : Token → Document
  | .fact name kind => .tagged kind.tag (.text name)
  | .rule label _ _ embedded =>
      .tagged "Rule"
        (.record [("name", .text label), ("rule", embedded.encode)])

def Expression.encode : Expression → Document
  | ⟨token, operator⟩ =>
      .record [("operator", operator.encode), ("token", token.encode)]

def Condition.encode : Condition → Document
  | .test expression => .tagged "Expression" expression.encode
  | .nested conditional => .tagged "Conditional" conditional.encode

def Conditional.encode : Conditional → Document
  | ⟨junction, conditions⟩ =>
      .tagged junction.tag (.list (Condition.encodeAll conditions))

def Condition.encodeAll : List Condition → List Document
  | [] => []
  | condition :: conditions =>
      condition.encode :: Condition.encodeAll conditions

def DecisionRow.encode : DecisionRow → Document
  | ⟨antecedent, consequent⟩ =>
      .record [("antecedent", antecedent.encode),
        ("consequent", consequent.encode)]

def DecisionRow.encodeAll : List DecisionRow → List Document
  | [] => []
  | row :: rows => row.encode :: DecisionRow.encodeAll rows

def ScoreRow.encode : ScoreRow → Document
  | ⟨antecedent, score⟩ =>
      .record [("antecedent", antecedent.encode), ("score", .ofFloat score)]

def ScoreRow.encodeAll : List ScoreRow → List Document
  | [] => []
  | row :: rows => row.encode :: ScoreRow.encodeAll rows

def DecisionSet.encode : DecisionSet → Document
  | ⟨rows⟩ => .record [("rows", .list (DecisionRow.encodeAll rows))]

def ScoreSet.encode : ScoreSet → Document
  | ⟨rows, weight⟩ =>
      .record [("rows", .list (ScoreRow.encodeAll rows)),
        ("weight", .ofFloat weight)]

def ScoreSet.encodeAll : List ScoreSet → List Document
  | [] => []
  | set :: sets => set.encode :: ScoreSet.encodeAll sets

def DecisionRule.encode : DecisionRule → Document
  | ⟨ruleset, _⟩ => .record [("ruleset", ruleset.encode)]

def ScoreRule.encode : ScoreRule → Document
  | ⟨rulesets, _⟩ =>
      .record [("rulesets", .list (ScoreSet.encodeAll rulesets))]

def Rule.encode : Rule → Document
  | .decision rule => .tagged "Decision" rule.encode
  | .score rule => .tagged "Score" rule.encode

end

end Rulebook
