import Rulebook.NameMap
import Rulebook.Resolved

/-!
# Decisions

A decision is what a row of a decision rule concludes: a number, a text, a
truth value, or a structure of decisions.  Only the first three can be compared
by the operators of another rule, so a structured decision has no kind.

The entries of a structure by name are in increasing order of name, and there is
no way to write them down in another one: an entry has a name above that of the
entry before it.  `Decision.ofEntries` brings any list of entries into that form.
-/

namespace Rulebook

mutual

/-- What a row of a decision rule concludes. -/
inductive Decision where
  | number (value : Float)
  | text (value : String)
  | boolean (value : Bool)
  | list (items : List Decision)
  | map (entries : Decision.Entries none)

/-- Entries in increasing order of name, all of them above a floor if there is
one. -/
inductive Decision.Entries : Option String → Type where
  | nil {floor : Option String} : Decision.Entries floor
  | cons {floor : Option String} (name : String)
      (above : ∀ least ∈ floor, least < name) (item : Decision)
      (rest : Decision.Entries (some name)) : Decision.Entries floor

end

instance : Inhabited Decision :=
  ⟨.number default⟩

namespace Decision

namespace Entries

variable {floor : Option String}

/-- The entries as a list. -/
def toList {floor : Option String} : Entries floor → List (String × Decision)
  | .nil => []
  | .cons name _ item rest => (name, item) :: rest.toList

/-- What a function gives for the entries, in their order. -/
def map {Result : Type} (function : String × Decision → Result)
    (entries : Entries floor) : List Result :=
  entries.toList.map function

/-- The entries of a list that is in increasing order. -/
def ofIncreasing {floor : Option String} :
    (entries : List (String × Decision)) →
      (∀ entry ∈ entries, ∀ least ∈ floor, least < entry.1) →
        (entries.Pairwise fun first second => first.1 < second.1) → Entries floor
  | [], _, _ => .nil
  | (name, item) :: entries, above, increasing =>
      .cons name (above (name, item) List.mem_cons_self) item <|
        ofIncreasing entries
          (fun _ member _ same =>
            Option.some.inj same ▸ List.rel_of_pairwise_cons increasing member)
          increasing.of_cons

/-- The entries of a map. -/
def ofMap (map : NameMap Decision) : Entries none :=
  ofIncreasing map.entries (fun _ _ _ absurd => nomatch absurd) map.increasing

end Entries

/-- A structure by name, in which a later entry replaces an earlier one of the
same name. -/
def ofEntries (entries : List (String × Decision)) : Decision :=
  .map (Entries.ofMap (NameMap.ofList entries))

/-- The kind a rule concluding this decision resolves to. -/
def kind : Decision → Option ValueKind
  | .number _ => some .numeric
  | .text _ => some .string
  | .boolean _ => some .boolean
  | .list _ | .map _ => none

def number? : Decision → Option Float
  | .number value => some value
  | _ => none

def text? : Decision → Option String
  | .text value => some value
  | _ => none

def boolean? : Decision → Option Bool
  | .boolean value => some value
  | _ => none

mutual

/-- Equality of decisions, in which numbers are compared as numbers: a zero
equals a negative zero, and NaN differs from itself. -/
def beq : Decision → Decision → Bool
  | .number first, .number second => first == second
  | .text first, .text second => first == second
  | .boolean first, .boolean second => first == second
  | .list first, .list second => beqItems first second
  | .map first, .map second => beqEntries first second
  | _, _ => false

def beqItems : List Decision → List Decision → Bool
  | [], [] => true
  | first :: firsts, second :: seconds =>
      first.beq second && beqItems firsts seconds
  | _, _ => false

def beqEntries {floor other : Option String} :
    Entries floor → Entries other → Bool
  | .nil, .nil => true
  | .cons firstName _ first firsts, .cons secondName _ second seconds =>
      firstName == secondName && first.beq second && beqEntries firsts seconds
  | _, _ => false

end

instance : BEq Decision :=
  ⟨beq⟩

mutual

def render : Decision → String
  | .number value => Decimal.plain value
  | .text value => "\"" ++ value ++ "\""
  | .boolean value => toString value
  | .list items => "[" ++ ", ".intercalate (renderItems items) ++ "]"
  | .map entries =>
      "\x7b" ++ ", ".intercalate (renderEntries entries) ++ "\x7d"

def renderItems : List Decision → List String
  | [] => []
  | item :: items => item.render :: renderItems items

def renderEntries {floor : Option String} : Entries floor → List String
  | .nil => []
  | .cons name _ item rest =>
      (name ++ ": " ++ item.render) :: renderEntries rest

end

mutual

/-- The text of a decision that is printed for inspection. -/
def describe : Decision → String
  | .number value => (Resolved.number value).describe
  | .text value => (Resolved.text value).describe
  | .boolean value => (Resolved.boolean value).describe
  | .list items => "List([" ++ ", ".intercalate (describeItems items) ++ "])"
  | .map entries =>
      "Map(\x7b" ++ ", ".intercalate (describeEntries entries) ++ "\x7d)"

def describeItems : List Decision → List String
  | [] => []
  | item :: items => item.describe :: describeItems items

def describeEntries {floor : Option String} : Entries floor → List String
  | .nil => []
  | .cons name _ item rest =>
      (Quoting.quoted name ++ ": " ++ item.describe) :: describeEntries rest

end

end Decision

end Rulebook
