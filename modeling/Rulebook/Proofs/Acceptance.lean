import Mathlib.Data.List.Induction
import Mathlib.Data.List.Sort
import Rulebook.Proofs.Coincidence
import Rulebook.Proofs.Collected
import Rulebook.Proofs.Sameness

/-!
# What operators accept

A missing value passes the operators that ask for one and no others, and a value
of another kind passes no operator.  Membership is decided by the elements of the
list that was given: a set lists them in increasing order without repetitions, so
lists of the same elements give one operator, with one display text and one stored
form.  A text is found inside another where it can be cut out of it, and a range
accepts what both of its bounds accept.
-/

namespace Rulebook

/-! ## Sets of texts -/

namespace NameMap

variable {α : Type}

theorem ofList_append_singleton (entries : List (String × α))
    (entry : String × α) :
    ofList (entries ++ [entry]) = (ofList entries).insert entry.1 entry.2 := by
  rw [ofList, List.foldl_append]
  rfl

theorem contains_insert (map : NameMap α) (name : String) (value : α)
    (wanted : String) :
    (map.insert name value).contains wanted =
      (decide (wanted = name) || map.contains wanted) := by
  rw [contains, contains, get?_insert]
  by_cases same : wanted = name
  · simp [same]
  · simp [same]

/-- The names of a map are those of the entries it was made of. -/
theorem contains_ofList {entries : List (String × α)} {name : String} :
    (ofList entries).contains name = true ↔ name ∈ entries.map (·.1) := by
  induction entries using List.reverseRecOn with
  | nil => simp [ofList, contains]
  | append_singleton entries entry ih =>
      rw [ofList_append_singleton, contains_insert, Bool.or_eq_true,
        decide_eq_true_iff, ih, List.map_append, List.mem_append, or_comm]
      simp

end NameMap

namespace TextSet

variable {texts others : List String} {text : String}

theorem contains_ofList : (ofList texts).contains text = true ↔ text ∈ texts := by
  rw [ofList, NameMap.contains_ofList, List.map_map]
  exact iff_of_eq (congrArg (text ∈ ·) (List.map_id' texts))

theorem contains_iff_mem_toList {set : TextSet} :
    set.contains text = true ↔ text ∈ toList set := by
  rw [NameMap.contains, Option.isSome_iff_exists, toList, NameMap.names,
    List.mem_map]
  constructor
  · rintro ⟨value, found⟩
    exact ⟨_, set.get?_eq_some_iff.mp found, rfl⟩
  · rintro ⟨⟨name, value⟩, member, rfl⟩
    exact ⟨value, set.get?_eq_some_iff.mpr member⟩

theorem mem_toList_ofList : text ∈ toList (ofList texts) ↔ text ∈ texts :=
  contains_iff_mem_toList.symm.trans contains_ofList

theorem toList_pairwise (set : TextSet) : (toList set).Pairwise (· < ·) :=
  List.pairwise_map.mpr set.increasing

theorem eq_of_toList {set other : TextSet} (same : toList set = toList other) :
    set = other := by
  rw [← ofList_toList set, same, ofList_toList]

/-- A set is its elements: neither their order nor their repetitions leave a
trace in it. -/
theorem ofList_eq_iff :
    ofList texts = ofList others ↔ ∀ text, text ∈ texts ↔ text ∈ others := by
  constructor
  · intro same text
    rw [← mem_toList_ofList, same, mem_toList_ofList]
  · intro same
    refine eq_of_toList (List.Pairwise.eq_of_mem_iff (toList_pairwise _)
      (toList_pairwise _) fun text => ?_)
    rw [mem_toList_ofList, mem_toList_ofList, same]

end TextSet

/-- The code points of a text. -/
def codePoints (text : String) : List Nat :=
  text.toList.map Char.toNat

/-- Texts are in the order of their code points, the first difference
deciding. -/
theorem codePoints_lt_iff {text other : String} :
    codePoints text < codePoints other ↔ text < other := by
  rw [String.lt_iff, codePoints, codePoints]
  generalize text.toList = characters, other.toList = others
  induction characters generalizing others with
  | nil => cases others <;> simp
  | cons character rest ih =>
      cases others with
      | nil => simp
      | cons head tail =>
          rw [List.map_cons, List.map_cons, List.cons_lt_cons_iff,
            List.cons_lt_cons_iff, ih, Char.toNat_inj]
          rfl

/-! ## Texts inside texts -/

theorem occursIn_iff {part whole : List Char} :
    occursIn part whole = true ↔ part <:+: whole := by
  induction whole with
  | nil => rw [occursIn, List.isEmpty_iff, List.infix_nil]
  | cons character rest ih =>
      rw [occursIn, Bool.or_eq_true, List.isPrefixOf_iff_prefix, ih,
        List.infix_cons_iff]

theorem TextTest.accepts_contains {part text : String} :
    (TextTest.contains part).accepts text = true ↔
      ∃ before after, text = before ++ part ++ after := by
  rw [accepts, occursIn_iff]
  constructor
  · rintro ⟨before, after, whole⟩
    refine ⟨.ofList before, .ofList after, String.toList_injective ?_⟩
    simp [← whole]
  · rintro ⟨before, after, rfl⟩
    exact ⟨before.toList, after.toList, by simp⟩

/-! ## Operators -/

namespace Operator

theorem accepts_none {operator : Operator} :
    operator.accepts none = true ↔ ∃ kind, operator = isNone kind := by
  constructor
  · intro wanted
    refine ⟨operator.kind, ?_⟩
    cases operator with
    | numeric test =>
        cases test with
        | isNone => rfl
        | _ => exact absurd wanted Bool.false_ne_true
    | string test =>
        cases test with
        | isNone => rfl
        | _ => exact absurd wanted Bool.false_ne_true
    | boolean test =>
        cases test with
        | isNone => rfl
        | _ => exact absurd wanted Bool.false_ne_true
  · rintro ⟨kind, rfl⟩
    cases kind <;> rfl

theorem isNone_accepts_some (kind : ValueKind) (value : Resolved) :
    (isNone kind).accepts (some value) = false := by
  cases kind <;> cases value <;> rfl

theorem accepts_of_kind_ne {operator : Operator} {value : Resolved}
    (other : value.kind ≠ operator.kind) :
    operator.accepts (some value) = false := by
  cases operator with
  | numeric test =>
      cases value with
      | number => exact absurd rfl other
      | text | boolean => rfl
  | string test =>
      cases value with
      | text => exact absurd rfl other
      | number | boolean => rfl
  | boolean test =>
      cases value with
      | boolean => exact absurd rfl other
      | number | text => rfl

/-- A checked range accepts what both of its bounds accept, whatever the value. -/
theorem accepts_of_between {floor ceiling : Float} {operator : Operator}
    (accepted : between floor ceiling = .ok operator) (value : Option Resolved) :
    operator.accepts value =
      ((Operator.numeric (.gte floor)).accepts value &&
        (Operator.numeric (.lte ceiling)).accepts value) := by
  obtain ⟨_, _, same⟩ := bind_eq_ok_iff.mp accepted
  cases same
  match value with
  | none => rfl
  | some (.number _) => rfl
  | some (.text _) => rfl
  | some (.boolean _) => rfl

theorem notIn_accepts {texts : List String} {text : String} :
    (notIn texts).accepts (some (.text text)) = true ↔ text ∉ texts := by
  rw [← TextSet.contains_ofList, Bool.not_eq_true, ← Bool.not_eq_true']
  rfl

theorem beq_self_of_string (test : TextTest) :
    (Operator.string test == Operator.string test) = true :=
  beq_self_of_finite _ (by simp [AllFinite, numbers])

/-- An operator depends on the kind of what it is applied to in three ways: only
the test for a missing value is passed by one, that test is passed by nothing else,
and no value of another kind passes. -/
structure RespectsKinds (operator : Operator) : Prop where
  missing : operator.accepts none = true ↔ ∃ kind, operator = isNone kind
  present : (∃ kind, operator = isNone kind) →
    ∀ value, operator.accepts (some value) = false
  otherKind : ∀ value : Resolved, value.kind ≠ operator.kind →
    operator.accepts (some value) = false

/-- Two operators that are equal, shown alike and stored alike. -/
structure Indistinct (operator other : Operator) : Prop where
  equal : (operator == other) = true
  shown : operator.render = other.render
  stored : operator.encode = other.encode

/-- The operators of a list of texts see its elements and nothing else of it, and
keep them in increasing order. -/
structure SeesElements (texts : List String) : Prop where
  isIn : ∀ text,
    (isIn texts).accepts (some (.text text)) = true ↔ text ∈ texts
  notIn : ∀ text,
    (notIn texts).accepts (some (.text text)) = true ↔ text ∉ texts
  kept : ∀ text, text ∈ (TextSet.ofList texts).toList ↔ text ∈ texts
  increasing : ((TextSet.ofList texts).toList.map codePoints).Pairwise (· < ·)
  isIn_indistinct : ∀ others, Indistinct (Operator.isIn texts) (Operator.isIn others) ↔
    ∀ text, text ∈ texts ↔ text ∈ others
  notIn_indistinct : ∀ others,
    Indistinct (Operator.notIn texts) (Operator.notIn others) ↔
      ∀ text, text ∈ texts ↔ text ∈ others

theorem respectsKinds (operator : Operator) : RespectsKinds operator where
  missing := accepts_none
  present := by
    rintro ⟨kind, rfl⟩ value
    exact isNone_accepts_some kind value
  otherKind _ := accepts_of_kind_ne

/-- A test that is made of a set is told apart by the set's elements. -/
theorem indistinct_iff {test : TextSet → TextTest} {texts others : List String}
    (injective : ∀ set other, (test set == test other) = true → set = other) :
    Indistinct (.string (test (.ofList texts))) (.string (test (.ofList others))) ↔
      ∀ text, text ∈ texts ↔ text ∈ others := by
  rw [← TextSet.ofList_eq_iff]
  constructor
  · intro indistinct
    exact injective _ _ indistinct.equal
  · intro same
    rw [same]
    exact ⟨beq_self_of_string _, rfl, rfl⟩

theorem seesElements (texts : List String) : SeesElements texts where
  isIn _ := TextSet.contains_ofList
  notIn _ := notIn_accepts
  kept _ := TextSet.mem_toList_ofList
  increasing := List.pairwise_map.mpr <|
    (TextSet.toList_pairwise _).imp codePoints_lt_iff.mpr
  isIn_indistinct _ := indistinct_iff fun _ _ => NameMap.eq_of_beq
  notIn_indistinct _ := indistinct_iff fun _ _ => NameMap.eq_of_beq

/-- Operators mean what they say: they keep to their kinds, the operators of a list
are decided by its elements, a text contains exactly what can be cut out of it, and
a checked range is its two bounds together, on numbers that are NaN as on any other
value. -/
theorem mean_what_they_say :
    (∀ operator, RespectsKinds operator) ∧
    (∀ texts, SeesElements texts) ∧
    (∀ part text : String,
      (Operator.string (.contains part)).accepts (some (.text text)) = true ↔
        ∃ before after, text = before ++ part ++ after) ∧
    ∀ floor ceiling operator, between floor ceiling = .ok operator →
      ∀ value, operator.accepts value =
        ((Operator.numeric (.gte floor)).accepts value &&
          (Operator.numeric (.lte ceiling)).accepts value) :=
  ⟨respectsKinds, seesElements, fun _ _ => TextTest.accepts_contains,
    fun _ _ _ => accepts_of_between⟩

/-- A range from 650 to 800 is accepted, so it is the two bounds together. -/
theorem mean_what_they_say_ranged :
    between 650 800 = .ok (.numeric (.between 650 800)) ∧
      ∀ value, (Operator.numeric (.between 650 800)).accepts value =
        ((Operator.numeric (.gte 650)).accepts value &&
          (Operator.numeric (.lte 800)).accepts value) :=
  have inOrder : (650 : Float) ≤ 800 := by decide +kernel
  have accepted : between 650 800 = .ok (.numeric (.between 650 800)) := by
    rw [between, validate, if_pos inOrder]
    rfl
  ⟨accepted, mean_what_they_say.2.2.2 650 800 _ accepted⟩

end Operator

end Rulebook
