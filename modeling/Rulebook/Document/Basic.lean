import Rulebook.NameMap
import Rulebook.Error

/-!
# Documents

The stored form of a rule is a document: a tree of lists and records whose
leaves are nulls, truth values, numbers and texts.  Whole numbers are told apart
from floating-point ones.  The members of a record are in increasing order of
name, and that is the order in which they are read.

A variant of a type is stored under its tag: as a record whose only member is
named by the tag, or as the tag itself if there is nothing to store.
-/

namespace Rulebook

/-- A stored tree. -/
inductive Document where
  | null
  | boolean (truth : Bool)
  | integer (value : Int)
  | number (value : Float)
  | text (content : String)
  | list (items : List Document)
  | record (members : List (String × Document))
deriving Inhabited

/-- Why a document cannot be read as an item of some type. -/
inductive DecodeError where
  /-- The document does not have the form of such an item. -/
  | shape
  /-- The item would be defective. -/
  | config (defect : ConfigError)

namespace Document

/-- A record of the given members, of which a later one replaces an earlier one
of the same name. -/
def ofMembers (members : List (String × Document)) : Document :=
  .record (NameMap.ofList members).entries

/-- A variant with something to store. -/
def tagged (tag : String) (content : Document) : Document :=
  .record [(tag, content)]

def ofFloat (value : Float) : Document :=
  if value.isFinite then .number value else .null

def toFloat : Document → Except DecodeError Float
  | .integer whole => .ok (Float.ofInt whole)
  | .number value => .ok value
  | _ => .error .shape

def toInt64 : Document → Except DecodeError Int64
  | .integer whole =>
      if Int64.minValue.toInt ≤ whole ∧ whole ≤ Int64.maxValue.toInt then
        .ok (Int64.ofInt whole)
      else
        .error .shape
  | _ => .error .shape

def toBool : Document → Except DecodeError Bool
  | .boolean truth => .ok truth
  | _ => .error .shape

def toText : Document → Except DecodeError String
  | .text content => .ok content
  | _ => .error .shape

def toTexts : Document → Except DecodeError (List String)
  | .list items => items.mapM toText
  | _ => .error .shape

/-- The member of a record, which has to be there. -/
def member (members : List (String × Document)) (name : String) :
    Except DecodeError Document :=
  match members.lookup name with
  | some content => .ok content
  | none => .error .shape

/-- Take a variant apart: its tag, and what is stored under it. -/
def variant : Document → Except DecodeError (String × Option Document)
  | .text tag => .ok (tag, none)
  | .record [(tag, content)] => .ok (tag, some content)
  | _ => .error .shape

/-- A variant without content may store a null. -/
def isNothing : Option Document → Bool
  | none | some .null => true
  | _ => false

end Document

end Rulebook
