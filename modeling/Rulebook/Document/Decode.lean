import Rulebook.Document.Basic
import Rulebook.Rule.Checked
import Rulebook.Rule.Numbering

/-!
# Reading items

Reading a document goes through the checked constructors, so an item that is
read is as sound as one that is put together by hand.  What is inside is read
before what encloses it, the members of a record in their order, and the first
failure is the answer; members that are not known are passed over.  A record may
also be given as the list of its members, in the order in which the type
declares them.

Every rule token that is read owns its rule: its rule object gets a fresh
number.
-/

namespace Rulebook

/-- A reader of documents, which numbers the rule objects that it makes. -/
abbrev Decoder (α : Type) : Type :=
  Numbering DecodeError α

namespace Decoder

variable {α : Type}

/-- Fail because of the form of a document. -/
def fail : Decoder α :=
  throw .shape

/-- Go on with an item that was read without making rule objects. -/
def plain (result : Except DecodeError α) : Decoder α :=
  Numbering.check id result

/-- Go on with an item that passed the checks of its constructor. -/
def check (result : Except ConfigError α) : Decoder α :=
  Numbering.check .config result

/-- Go on with the two members of a record, which both have to be there. -/
def both {β γ : Type} (finish : α → β → Decoder γ) :
    Option α × Option β → Decoder γ
  | (some first, some second) => finish first second
  | _ => fail

end Decoder

def ValueKind.decode (document : Document) : Except DecodeError ValueKind := do
  let (tag, content) ← document.variant
  if Document.isNothing content then
    match tag with
    | "Numeric" => return .numeric
    | "String" => return .string
    | "Boolean" => return .boolean
    | _ => throw .shape
  else
    throw .shape

def Value.decode (document : Document) : Except DecodeError Value := do
  match ← document.variant with
  | ("Int", some content) => return .int (← content.toInt64)
  | ("Float", some content) => return .float (← content.toFloat)
  | ("Bool", some content) => return .boolean (← content.toBool)
  | ("String", some content) => return .text (← content.toText)
  | ("Null", content) =>
      if Document.isNothing content then return .null else throw .shape
  | _ => throw .shape

def Facts.decode : Document → Except DecodeError Facts
  | .record members => do
      let entries ← members.mapM fun member => do
        return (member.1, ← Value.decode member.2)
      return NameMap.ofList entries
  | _ => .error .shape

mutual

def Decision.decode : Document → Except DecodeError Decision
  | .record [("Number", content)] => Decision.number <$> content.toFloat
  | .record [("Text", content)] => Decision.text <$> content.toText
  | .record [("Bool", content)] => Decision.boolean <$> content.toBool
  | .record [("List", .list items)] =>
      Decision.list <$> Decision.decodeItems items
  | .record [("Map", .record members)] =>
      Decision.ofEntries <$> Decision.decodeEntries members
  | _ => .error .shape

def Decision.decodeItems : List Document → Except DecodeError (List Decision)
  | [] => .ok []
  | document :: documents => do
      let item ← Decision.decode document
      let items ← Decision.decodeItems documents
      return item :: items

def Decision.decodeEntries :
    List (String × Document) →
      Except DecodeError (List (String × Decision))
  | [] => .ok []
  | (name, document) :: members => do
      let item ← Decision.decode document
      let entries ← Decision.decodeEntries members
      return (name, item) :: entries

end

def NumericTest.decode (document : Document) :
    Except DecodeError NumericTest := do
  match ← document.variant with
  | ("Lt", some content) => return .lt (← content.toFloat)
  | ("Lte", some content) => return .lte (← content.toFloat)
  | ("Gt", some content) => return .gt (← content.toFloat)
  | ("Gte", some content) => return .gte (← content.toFloat)
  | ("Eq", some content) => return .eq (← content.toFloat)
  | ("NotEq", some content) => return .notEq (← content.toFloat)
  | ("Between", some (.record members)) =>
      let ceiling ← (← Document.member members "ceiling").toFloat
      let floor ← (← Document.member members "floor").toFloat
      return .between floor ceiling
  | ("IsNone", content) =>
      if Document.isNothing content then return .isNone else throw .shape
  | _ => throw .shape

def TextTest.decode (document : Document) : Except DecodeError TextTest := do
  match ← document.variant with
  | ("In", some content) => return .isIn (.ofList (← content.toTexts))
  | ("NotIn", some content) => return .notIn (.ofList (← content.toTexts))
  | ("Contains", some content) => return .contains (← content.toText)
  | ("Equals", some content) => return .equals (← content.toText)
  | ("IsNone", content) =>
      if Document.isNothing content then return .isNone else throw .shape
  | _ => throw .shape

def BooleanTest.decode (document : Document) :
    Except DecodeError BooleanTest := do
  match ← document.variant with
  | ("Is", some content) => return .is (← content.toBool)
  | ("IsNone", content) =>
      if Document.isNothing content then return .isNone else throw .shape
  | _ => throw .shape

def Operator.decode (document : Document) : Except DecodeError Operator := do
  match ← document.variant with
  | ("Numeric", some content) => return .numeric (← NumericTest.decode content)
  | ("String", some content) => return .string (← TextTest.decode content)
  | ("Boolean", some content) => return .boolean (← BooleanTest.decode content)
  | _ => throw .shape

/-- The token that owns a rule which was just read. -/
def Token.own (label : String) (embedded : Rule) : Decoder Token := do
  let number ← Numbering.fresh
  Decoder.check (Token.embed label ⟨number, embedded⟩)

mutual

def Token.decode : Document → Decoder Token
  | .record [("Numeric", name)] =>
      (Token.fact · .numeric) <$> Decoder.plain name.toText
  | .record [("String", name)] =>
      (Token.fact · .string) <$> Decoder.plain name.toText
  | .record [("Boolean", name)] =>
      (Token.fact · .boolean) <$> Decoder.plain name.toText
  | .record [("Rule", .record members)] => do
      Decoder.both Token.own (← Token.decodeMembers members)
  | .record [("Rule", .list [label, embedded])] => do
      let label ← Decoder.plain label.toText
      Token.own label (← Rule.decode embedded)
  | .record [("Rule", .list (label :: embedded :: _))] => do
      let _ ← Decoder.plain label.toText
      let _ ← Rule.decode embedded
      Decoder.fail
  | _ => Decoder.fail

/-- Read the label and the rule of a rule token. -/
def Token.decodeMembers :
    List (String × Document) → Decoder (Option String × Option Rule)
  | [] => return (none, none)
  | ("name", content) :: members => do
      let label ← Decoder.plain content.toText
      return (some label, (← Token.decodeMembers members).2)
  | ("rule", content) :: members => do
      let embedded ← Rule.decode content
      return ((← Token.decodeMembers members).1, some embedded)
  | _ :: members => Token.decodeMembers members

def Expression.decode : Document → Decoder Expression
  | .record members => do
      Decoder.both
        (fun token operator => Decoder.check (Expression.make token operator))
        (← Expression.decodeMembers members)
  | .list [token, operator] => do
      let token ← Token.decode token
      let operator ← Decoder.plain (Operator.decode operator)
      Decoder.check (Expression.make token operator)
  | .list (token :: _) => do
      let _ ← Token.decode token
      Decoder.fail
  | _ => Decoder.fail

/-- Read the token and the operator of a test. -/
def Expression.decodeMembers :
    List (String × Document) → Decoder (Option Token × Option Operator)
  | [] => return (none, none)
  | ("token", content) :: members => do
      let token ← Token.decode content
      return (some token, (← Expression.decodeMembers members).2)
  | ("operator", content) :: members => do
      let operator ← Decoder.plain (Operator.decode content)
      return ((← Expression.decodeMembers members).1, some operator)
  | _ :: members => Expression.decodeMembers members

def Condition.decode : Document → Decoder Condition
  | .record [("Expression", content)] =>
      Condition.test <$> Expression.decode content
  | .record [("Conditional", content)] =>
      Condition.nested <$> Conditional.decode content
  | _ => Decoder.fail

def Conditional.decode : Document → Decoder Conditional
  | .record [("WhenAll", .list conditions)] =>
      Conditional.mk .all <$> Condition.decodeAll conditions
  | .record [("WhenAny", .list conditions)] =>
      Conditional.mk .any <$> Condition.decodeAll conditions
  | _ => Decoder.fail

def Condition.decodeAll : List Document → Decoder (List Condition)
  | [] => return []
  | document :: documents => do
      let condition ← Condition.decode document
      return condition :: (← Condition.decodeAll documents)

def DecisionRow.decode : Document → Decoder DecisionRow
  | .record members => do
      Decoder.both
        (fun antecedent consequent => return ⟨antecedent, consequent⟩)
        (← DecisionRow.decodeMembers members)
  | .list [antecedent, consequent] => do
      let antecedent ← Conditional.decode antecedent
      let consequent ← Decoder.plain (Decision.decode consequent)
      return ⟨antecedent, consequent⟩
  | .list (antecedent :: _) => do
      let _ ← Conditional.decode antecedent
      Decoder.fail
  | _ => Decoder.fail

def DecisionRow.decodeMembers :
    List (String × Document) → Decoder (Option Conditional × Option Decision)
  | [] => return (none, none)
  | ("antecedent", content) :: members => do
      let antecedent ← Conditional.decode content
      return (some antecedent, (← DecisionRow.decodeMembers members).2)
  | ("consequent", content) :: members => do
      let consequent ← Decoder.plain (Decision.decode content)
      return ((← DecisionRow.decodeMembers members).1, some consequent)
  | _ :: members => DecisionRow.decodeMembers members

def DecisionRow.decodeAll : List Document → Decoder (List DecisionRow)
  | [] => return []
  | document :: documents => do
      let row ← DecisionRow.decode document
      return row :: (← DecisionRow.decodeAll documents)

def ScoreRow.decode : Document → Decoder ScoreRow
  | .record members => do
      Decoder.both
        (fun antecedent score => Decoder.check (ScoreRow.make antecedent score))
        (← ScoreRow.decodeMembers members)
  | .list [antecedent, score] => do
      let antecedent ← Conditional.decode antecedent
      let score ← Decoder.plain score.toFloat
      Decoder.check (ScoreRow.make antecedent score)
  | .list (antecedent :: _) => do
      let _ ← Conditional.decode antecedent
      Decoder.fail
  | _ => Decoder.fail

def ScoreRow.decodeMembers :
    List (String × Document) → Decoder (Option Conditional × Option Float)
  | [] => return (none, none)
  | ("antecedent", content) :: members => do
      let antecedent ← Conditional.decode content
      return (some antecedent, (← ScoreRow.decodeMembers members).2)
  | ("score", content) :: members => do
      let score ← Decoder.plain content.toFloat
      return ((← ScoreRow.decodeMembers members).1, some score)
  | _ :: members => ScoreRow.decodeMembers members

def ScoreRow.decodeAll : List Document → Decoder (List ScoreRow)
  | [] => return []
  | document :: documents => do
      let row ← ScoreRow.decode document
      return row :: (← ScoreRow.decodeAll documents)

def DecisionSet.decode : Document → Decoder DecisionSet
  | .record members => DecisionSet.decodeMembers members
  | .list [.list rows] => DecisionSet.mk <$> DecisionRow.decodeAll rows
  | .list (.list rows :: _) => do
      let _ ← DecisionRow.decodeAll rows
      Decoder.fail
  | _ => Decoder.fail

def DecisionSet.decodeMembers :
    List (String × Document) → Decoder DecisionSet
  | ("rows", .list rows) :: _ => DecisionSet.mk <$> DecisionRow.decodeAll rows
  | ("rows", _) :: _ | [] => Decoder.fail
  | _ :: members => DecisionSet.decodeMembers members

def ScoreSet.decode : Document → Decoder ScoreSet
  | .record members => do
      Decoder.both
        (fun rows weight => Decoder.check (ScoreSet.make rows weight))
        (← ScoreSet.decodeMembers members)
  | .list [.list rows, weight] => do
      let rows ← ScoreRow.decodeAll rows
      let weight ← Decoder.plain weight.toFloat
      Decoder.check (ScoreSet.make rows weight)
  | .list (.list rows :: _) => do
      let _ ← ScoreRow.decodeAll rows
      Decoder.fail
  | _ => Decoder.fail

def ScoreSet.decodeMembers :
    List (String × Document) → Decoder (Option (List ScoreRow) × Option Float)
  | [] => return (none, none)
  | ("rows", .list rows) :: members => do
      let rows ← ScoreRow.decodeAll rows
      return (some rows, (← ScoreSet.decodeMembers members).2)
  | ("rows", _) :: _ => Decoder.fail
  | ("weight", content) :: members => do
      let weight ← Decoder.plain content.toFloat
      return ((← ScoreSet.decodeMembers members).1, some weight)
  | _ :: members => ScoreSet.decodeMembers members

def ScoreSet.decodeAll : List Document → Decoder (List ScoreSet)
  | [] => return []
  | document :: documents => do
      let set ← ScoreSet.decode document
      return set :: (← ScoreSet.decodeAll documents)

def DecisionRule.decode : Document → Decoder DecisionRule
  | .record members => do
      let ruleset ← DecisionRule.decodeMembers members
      Decoder.check (DecisionRule.make ruleset)
  | .list [ruleset] => do
      let ruleset ← DecisionSet.decode ruleset
      Decoder.check (DecisionRule.make ruleset)
  | .list (ruleset :: _) => do
      let _ ← DecisionSet.decode ruleset
      Decoder.fail
  | _ => Decoder.fail

def DecisionRule.decodeMembers :
    List (String × Document) → Decoder DecisionSet
  | [] => Decoder.fail
  | ("ruleset", content) :: _ => DecisionSet.decode content
  | _ :: members => DecisionRule.decodeMembers members

def ScoreRule.decode : Document → Decoder ScoreRule
  | .record members => do
      let rulesets ← ScoreRule.decodeMembers members
      Decoder.check (ScoreRule.make rulesets)
  | .list [.list rulesets] => do
      let rulesets ← ScoreSet.decodeAll rulesets
      Decoder.check (ScoreRule.make rulesets)
  | .list (.list rulesets :: _) => do
      let _ ← ScoreSet.decodeAll rulesets
      Decoder.fail
  | _ => Decoder.fail

def ScoreRule.decodeMembers :
    List (String × Document) → Decoder (List ScoreSet)
  | ("rulesets", .list rulesets) :: _ => ScoreSet.decodeAll rulesets
  | ("rulesets", _) :: _ | [] => Decoder.fail
  | _ :: members => ScoreRule.decodeMembers members

def Rule.decode : Document → Decoder Rule
  | .record [("Decision", content)] =>
      Rule.decision <$> DecisionRule.decode content
  | .record [("Score", content)] => Rule.score <$> ScoreRule.decode content
  | _ => Decoder.fail

end

end Rulebook
