import Rulebook.Document.Decode
import Rulebook.Document.Encode
import Rulebook.Proofs.Doubles

/-!
# Storing what holds no rules

Kinds, values, facts, decisions and operators are read back as they were, unless
they hold a number that is infinite or NaN.  Such a number is stored as null,
which is not read as a number.  `ReadsBack` says both at once, and the readers of
parts combine to readers of wholes.
-/

namespace Rulebook

namespace NameMap

variable {α : Type}

theorem place_last {name : String} {value : α} {entries : List (String × α)}
    (above : ∀ entry ∈ entries, entry.1 < name) :
    place name value entries = entries ++ [(name, value)] := by
  induction entries with
  | nil => rfl
  | cons head rest ih =>
      rw [List.forall_mem_cons] at above
      have notBelow : ¬ name < head.1 := String.lt_asymm above.1
      have different : name ≠ head.1 := (String.ne_of_lt above.1).symm
      rw [place, if_neg notBelow, if_neg different, ih above.2, List.cons_append]

/-- Entries that are in increasing order stay as they are. -/
theorem entries_ofList {entries : List (String × α)}
    (increasing : entries.Pairwise fun first second => first.1 < second.1) :
    (ofList entries).entries = entries := by
  have added (map : NameMap α) (increasing : (map.entries ++ entries).Pairwise
      fun first second => first.1 < second.1) :
      (entries.foldl (fun map entry => map.insert entry.1 entry.2) map).entries =
        map.entries ++ entries := by
    induction entries generalizing map with
    | nil => rw [List.foldl_nil, List.append_nil]
    | cons head rest ih =>
        have last : (map.insert head.1 head.2).entries = map.entries ++ [head] :=
          place_last fun entry member =>
            (List.pairwise_append.mp increasing).2.2 entry member head
              (List.mem_cons_self ..)
        have later : ((map.insert head.1 head.2).entries ++ rest).Pairwise
            fun first second => first.1 < second.1 := by
          rw [last, List.append_assoc]
          exact increasing
        have inside := (List.pairwise_append.mp increasing).2.1.of_cons
        rw [List.foldl_cons, ih inside _ later, last, List.append_assoc,
          List.singleton_append]
  exact added empty increasing

theorem ofList_entries (map : NameMap α) : ofList map.entries = map := by
  have same := entries_ofList map.increasing
  generalize ofList map.entries = other at same
  obtain ⟨entries, increasing⟩ := map
  obtain ⟨_, _⟩ := other
  cases same
  rfl

end NameMap

/-- No number in a list is infinite or NaN. -/
def AllFinite (numbers : List Float) : Prop :=
  ∀ number ∈ numbers, number.isFinite = true

theorem allFinite_append {numbers others : List Float} :
    AllFinite (numbers ++ others) ↔ AllFinite numbers ∧ AllFinite others :=
  List.forall_mem_append

/-- A reader comes to an item if all of the item's numbers are finite, and fails
otherwise. -/
structure ReadsBack {α : Type} (numbers : List Float)
    (result : Except DecodeError α) (item : α) : Prop where
  finite : AllFinite numbers → result = .ok item
  infinite : ¬ AllFinite numbers → ∃ defect, result = .error defect

namespace ReadsBack

variable {α β : Type} {numbers others : List Float}
  {result : Except DecodeError α} {item : α}

theorem ok (item : α) : ReadsBack [] (.ok item) item :=
  ⟨fun _ => rfl, fun absurd => (absurd (by simp [AllFinite])).elim⟩

theorem float (number : Float) :
    ReadsBack [number] (Document.ofFloat number).toFloat number := by
  have single : AllFinite [number] ↔ number.isFinite = true :=
    List.forall_mem_singleton
  constructor <;> intro known <;> rw [single] at known <;>
    simp [Document.ofFloat, known, Document.toFloat]

theorem bind {whole : β} {next : α → Except DecodeError β}
    (first : ReadsBack numbers result item)
    (second : ReadsBack others (next item) whole) :
    ReadsBack (numbers ++ others) (result >>= next) whole := by
  by_cases finite : AllFinite numbers
  · rw [first.finite finite]
    constructor <;> intro known <;> rw [allFinite_append] at known
    · exact second.finite known.2
    · exact second.infinite fun other => known ⟨finite, other⟩
  · obtain ⟨defect, failed⟩ := first.infinite finite
    rw [failed]
    constructor <;> intro known
    · exact (finite (allFinite_append.mp known).1).elim
    · exact ⟨defect, rfl⟩

theorem map (function : α → β) (reads : ReadsBack numbers result item) :
    ReadsBack numbers (function <$> result) (function item) := by
  constructor <;> intro known
  · rw [reads.finite known]
    rfl
  · obtain ⟨defect, failed⟩ := reads.infinite known
    rw [failed]
    exact ⟨defect, rfl⟩

end ReadsBack

theorem ValueKind.decode_encode (kind : ValueKind) :
    ValueKind.decode kind.encode = .ok kind := by
  cases kind <;> rfl

/-! ## Values and facts -/

def Value.numbers : Value → List Float
  | .float number => [number]
  | _ => []

def Facts.numbers (facts : Facts) : List Float :=
  facts.entries.flatMap fun entry => entry.2.numbers

theorem Value.readsBack (value : Value) :
    ReadsBack value.numbers (Value.decode value.encode) value := by
  cases value with
  | int number =>
      have inRange : (Document.integer number.toInt).toInt64 = .ok number := by
        rw [Document.toInt64, if_pos ⟨number.minValue_le_toInt, number.toInt_le⟩,
          Int64.ofInt_toInt]
      have read : Value.decode (Value.int number).encode =
          Value.int <$> (Document.integer number.toInt).toInt64 :=
        rfl
      rw [read, inRange]
      exact .ok _
  | float number => exact (ReadsBack.float number).map Value.float
  | boolean truth => exact .ok _
  | text content => exact .ok _
  | null => exact .ok _

theorem Facts.readsBack (facts : Facts) :
    ReadsBack facts.numbers (Facts.decode facts.encode) facts := by
  have entries (entries : List (String × Value)) :
      ReadsBack (entries.flatMap fun entry => entry.2.numbers)
        ((entries.map fun entry => (entry.1, entry.2.encode)).mapM
          fun member => return (member.1, ← Value.decode member.2)) entries := by
    induction entries with
    | nil => exact .ok []
    | cons entry entries ih =>
        rw [List.map_cons, List.mapM_cons, List.flatMap_cons]
        exact (entry.2.readsBack.map (Prod.mk entry.1)).bind
          (ih.map (entry :: ·))
  have whole := (entries facts.entries).map NameMap.ofList
  rwa [facts.ofList_entries] at whole

/-! ## Decisions -/

namespace Decision

mutual

/-- The numbers of a decision, at every depth. -/
def numbers : Decision → List Float
  | .number value => [value]
  | .text _ | .boolean _ => []
  | .list items => numbersOfItems items
  | .map entries => numbersOfEntries entries

def numbersOfItems : List Decision → List Float
  | [] => []
  | item :: items => item.numbers ++ numbersOfItems items

def numbersOfEntries {floor : Option String} : Entries floor → List Float
  | .nil => []
  | .cons _ _ item rest => item.numbers ++ numbersOfEntries rest

end

namespace Entries

theorem above_floor {entry : String × Decision} {floor : Option String} :
    (entries : Entries floor) → entry ∈ entries.toList →
      ∀ least ∈ floor, least < entry.1
  | .cons name above item rest, member => by
      rw [toList, List.mem_cons] at member
      rcases member with rfl | later
      · exact above
      · intro least among
        exact String.lt_trans (above least among)
          (above_floor rest later name rfl)

theorem increasing {floor : Option String} : (entries : Entries floor) →
    entries.toList.Pairwise fun first second => first.1 < second.1
  | .nil => .nil
  | .cons name _ _ rest =>
      .cons (fun _ member => above_floor rest member name rfl) rest.increasing

theorem ofIncreasing_toList {floor : Option String} :
    (entries : Entries floor) →
      ofIncreasing entries.toList (fun _ => above_floor entries)
        entries.increasing = entries
  | .nil => rfl
  | .cons name above item rest =>
      congrArg (cons name above item) (ofIncreasing_toList rest)

end Entries

/-- A structure is what its constructor makes of its entries. -/
theorem ofEntries_toList (entries : Entries none) :
    ofEntries entries.toList = .map entries := by
  have same := NameMap.entries_ofList entries.increasing
  rw [ofEntries]
  generalize NameMap.ofList entries.toList = map at same
  obtain ⟨_, _⟩ := map
  subst same
  exact congrArg map entries.ofIncreasing_toList

mutual

theorem readsBack : (decision : Decision) →
    ReadsBack decision.numbers (decode decision.encode) decision
  | .number value => (ReadsBack.float value).map Decision.number
  | .text value => .ok _
  | .boolean value => .ok _
  | .list items => by
      rw [numbers, encode, Document.tagged, decode]
      exact (readsBack_items items).map Decision.list
  | .map entries => by
      rw [numbers, encode, Document.tagged, decode, ← ofEntries_toList]
      exact (readsBack_entries entries).map Decision.ofEntries

theorem readsBack_items : (items : List Decision) →
    ReadsBack (numbersOfItems items) (decodeItems (encodeItems items)) items
  | [] => by
      rw [numbersOfItems, encodeItems, decodeItems]
      exact .ok []
  | item :: items => by
      rw [numbersOfItems, encodeItems, decodeItems]
      exact item.readsBack.bind ((readsBack_items items).map (item :: ·))

theorem readsBack_entries {floor : Option String} : (entries : Entries floor) →
    ReadsBack (numbersOfEntries entries)
      (decodeEntries (encodeEntries entries)) entries.toList
  | .nil => by
      rw [numbersOfEntries, encodeEntries, decodeEntries]
      exact .ok []
  | .cons name _ item rest => by
      rw [numbersOfEntries, encodeEntries, decodeEntries]
      exact item.readsBack.bind
        ((readsBack_entries rest).map ((name, item) :: ·))

end

end Decision

/-! ## Operators -/

def NumericTest.numbers : NumericTest → List Float
  | .between floor ceiling => [ceiling, floor]
  | test => test.baseline?.toList

def Operator.numbers : Operator → List Float
  | .numeric test => test.numbers
  | _ => []

theorem NumericTest.readsBack (test : NumericTest) :
    ReadsBack test.numbers (NumericTest.decode test.encode) test := by
  cases test with
  | lt baseline => exact (ReadsBack.float baseline).map NumericTest.lt
  | lte baseline => exact (ReadsBack.float baseline).map NumericTest.lte
  | gt baseline => exact (ReadsBack.float baseline).map NumericTest.gt
  | gte baseline => exact (ReadsBack.float baseline).map NumericTest.gte
  | eq baseline => exact (ReadsBack.float baseline).map NumericTest.eq
  | notEq baseline => exact (ReadsBack.float baseline).map NumericTest.notEq
  | between floor ceiling =>
      exact (ReadsBack.float ceiling).bind
        ((ReadsBack.float floor).map fun floor =>
          NumericTest.between floor ceiling)
  | isNone => exact .ok _

theorem TextSet.toTexts_encode (set : TextSet) :
    (TextSet.encode set).toTexts = .ok set.toList := by
  change (set.toList.map Document.text).mapM Document.toText = _
  induction set.toList with
  | nil => rfl
  | cons text texts ih =>
      rw [List.map_cons, List.mapM_cons, ih]
      rfl

theorem TextSet.ofList_toList (set : TextSet) :
    TextSet.ofList set.toList = set := by
  have same : set.toList.map (fun text => (text, ())) = set.entries := by
    rw [TextSet.toList, NameMap.names, List.map_map]
    exact List.map_id' _
  rw [TextSet.ofList, same, NameMap.ofList_entries]

theorem TextTest.readsBack (test : TextTest) :
    ReadsBack [] (TextTest.decode test.encode) test := by
  have set (finish : TextSet → TextTest) (members : TextSet) :
      ReadsBack [] ((finish <| TextSet.ofList ·) <$>
        (TextSet.encode members).toTexts) (finish members) := by
    rw [TextSet.toTexts_encode]
    change ReadsBack [] (.ok (finish (TextSet.ofList members.toList))) _
    rw [members.ofList_toList]
    exact .ok _
  cases test with
  | isIn members => exact set .isIn members
  | notIn members => exact set .notIn members
  | contains part => exact .ok _
  | equals whole => exact .ok _
  | isNone => exact .ok _

theorem BooleanTest.decode_encode (test : BooleanTest) :
    BooleanTest.decode test.encode = .ok test := by
  cases test <;> rfl

theorem Operator.readsBack (operator : Operator) :
    ReadsBack operator.numbers (Operator.decode operator.encode) operator := by
  cases operator with
  | numeric test => exact test.readsBack.map Operator.numeric
  | string test => exact test.readsBack.map Operator.string
  | boolean test =>
      have read : Operator.decode (Operator.boolean test).encode =
          Operator.boolean <$> BooleanTest.decode test.encode :=
        rfl
      rw [read, test.decode_encode]
      exact .ok _

end Rulebook
