/-!
# Maps ordered by name

Facts, requirements, structured decisions and stored records all associate a
value with a name, and every list that the library shows of them is sorted by
name.  `NameMap` keeps its entries in strictly increasing order of name, where
names are compared code point by code point, so that two maps with the same
associations are the same list.  A `TextSet` is such a map without values.

`get?_insert` gives the meaning of insertion: the inserted name has the new
value, and every other name keeps its old one.
-/

namespace Rulebook

/-- A finite map from names to values, listed in strictly increasing order of
name. -/
structure NameMap (α : Type) where
  entries : List (String × α)
  increasing : entries.Pairwise fun first second => first.1 < second.1

namespace NameMap

variable {α : Type}

def empty : NameMap α :=
  ⟨[], .nil⟩

instance : Inhabited (NameMap α) :=
  ⟨empty⟩

instance : EmptyCollection (NameMap α) :=
  ⟨empty⟩

instance [BEq α] : BEq (NameMap α) :=
  ⟨fun first second => first.entries == second.entries⟩

/-- Put an entry at its place in an increasing list, where it takes the place
of an entry of the same name. -/
def place (name : String) (value : α) :
    List (String × α) → List (String × α)
  | [] => [(name, value)]
  | entry :: rest =>
      if name < entry.1 then
        (name, value) :: entry :: rest
      else if name = entry.1 then
        (name, value) :: rest
      else
        entry :: place name value rest

theorem eq_or_mem_of_mem_place {name : String} {value : α}
    {entry : String × α} {entries : List (String × α)}
    (member : entry ∈ place name value entries) :
    entry = (name, value) ∨ entry ∈ entries := by
  induction entries with
  | nil => simpa [place] using member
  | cons head rest ih =>
      grind [place]

theorem place_increasing {name : String} {value : α}
    {entries : List (String × α)}
    (increasing : entries.Pairwise fun first second => first.1 < second.1) :
    (place name value entries).Pairwise
      fun first second => first.1 < second.1 := by
  induction entries with
  | nil => simp [place]
  | cons head rest ih =>
      rw [List.pairwise_cons] at increasing
      rw [place]
      split
      · next below =>
          refine .cons ?_ (.cons increasing.1 increasing.2)
          intro entry member
          rcases List.mem_cons.mp member with rfl | later
          · exact below
          · exact String.lt_trans below (increasing.1 entry later)
      · next notBelow =>
          split
          · next same =>
              subst same
              exact .cons increasing.1 increasing.2
          · next different =>
              have above : head.1 < name :=
                Std.lt_of_le_of_ne (String.not_lt.mp notBelow)
                  (Ne.symm different)
              refine .cons ?_ (ih increasing.2)
              intro entry member
              rcases eq_or_mem_of_mem_place member with rfl | later
              · exact above
              · exact increasing.1 entry later

/-- The map with one entry added or replaced. -/
def insert (map : NameMap α) (name : String) (value : α) : NameMap α :=
  ⟨place name value map.entries, place_increasing map.increasing⟩

/-- The map of a list of entries, in which a later entry replaces an earlier
one of the same name. -/
def ofList (entries : List (String × α)) : NameMap α :=
  entries.foldl (fun map entry => map.insert entry.1 entry.2) empty

/-- The value of a name, if it has one. -/
def get? (map : NameMap α) (name : String) : Option α :=
  map.entries.lookup name

def contains (map : NameMap α) (name : String) : Bool :=
  (map.get? name).isSome

def names (map : NameMap α) : List String :=
  map.entries.map (·.1)

def size (map : NameMap α) : Nat :=
  map.entries.length

def isEmpty (map : NameMap α) : Bool :=
  map.entries.isEmpty

theorem lookup_place (name : String) (value : α) (wanted : String)
    (entries : List (String × α))
    (increasing : entries.Pairwise fun first second => first.1 < second.1) :
    (place name value entries).lookup wanted =
      if wanted = name then some value else entries.lookup wanted := by
  induction entries with
  | nil => grind [place]
  | cons head rest ih =>
      rw [List.pairwise_cons] at increasing
      have tail := ih increasing.2
      rw [place]
      split
      · grind
      · split
        · grind
        · grind

@[simp]
theorem get?_empty (name : String) : (empty : NameMap α).get? name = none :=
  rfl

theorem get?_insert (map : NameMap α) (name : String) (value : α)
    (wanted : String) :
    (map.insert name value).get? wanted =
      if wanted = name then some value else map.get? wanted :=
  lookup_place name value wanted map.entries map.increasing

end NameMap

/-- A finite set of texts, listed in strictly increasing order. -/
abbrev TextSet :=
  NameMap Unit

namespace TextSet

/-- The set of the members of a list, whatever their order and however often
they are repeated. -/
def ofList (texts : List String) : TextSet :=
  NameMap.ofList (texts.map fun text => (text, ()))

def toList (set : TextSet) : List String :=
  set.names

end TextSet

end Rulebook
