import Rulebook.Proofs.Restoring
import Rulebook.Proofs.Transparency

/-!
# Stored items are read back

Whatever can be obtained and holds finite numbers only is read back from its
stored form.  The copy equals the item and is stored alike.  A copy of a rule
requires the same, nests as deep and ends in the same outcomes, although no two
of its tokens share a rule object.  An item that holds an infinite number or NaN
cannot be read back.
-/

namespace Rulebook

namespace Item

def contents : Item → List Content
  | .token alone => alone.contents
  | .expression tested => tested.contents
  | .condition part => part.contents
  | .conditional whole => whole.contents
  | .decisionRow row => row.contents
  | .scoreRow row => row.contents
  | .decisionSet set => set.contents
  | .scoreSet set => set.contents
  | .rule whole => whole.contents

def encode : Item → Document
  | .token alone => alone.encode
  | .expression tested => tested.encode
  | .condition part => part.encode
  | .conditional whole => whole.encode
  | .decisionRow row => row.encode
  | .scoreRow row => row.encode
  | .decisionSet set => set.encode
  | .scoreSet set => set.encode
  | .rule whole => whole.encode

/-- Read a document as an item of the type that a given item has. -/
def decodeLike (document : Document) : Item → Decoder Item
  | .token _ => Item.token <$> Token.decode document
  | .expression _ => Item.expression <$> Expression.decode document
  | .condition _ => Item.condition <$> Condition.decode document
  | .conditional _ => Item.conditional <$> Conditional.decode document
  | .decisionRow _ => Item.decisionRow <$> DecisionRow.decode document
  | .scoreRow _ => Item.scoreRow <$> ScoreRow.decode document
  | .decisionSet _ => Item.decisionSet <$> DecisionSet.decode document
  | .scoreSet _ => Item.scoreSet <$> ScoreSet.decode document
  | .rule _ => Item.rule <$> Rule.decode document

/-- Items of one type are compared as that type compares them. -/
def beq : Item → Item → Bool
  | .token first, .token second => first == second
  | .expression first, .expression second => first == second
  | .condition first, .condition second => first.beq second
  | .conditional first, .conditional second => first == second
  | .decisionRow first, .decisionRow second => first == second
  | .scoreRow first, .scoreRow second => first == second
  | .decisionSet first, .decisionSet second => first == second
  | .scoreSet first, .scoreSet second => first == second
  | .rule first, .rule second => first == second
  | _, _ => false

instance : BEq Item :=
  ⟨beq⟩

end Item

/-! ## Operators of an item are among its contents -/

mutual

theorem Condition.operator_mem_contents {leaf : Expression} :
    (condition : Condition) → leaf ∈ condition.leaves →
      Content.operator leaf.operator ∈ condition.contents
  | .test ⟨token, operator⟩, member => by
      rw [Condition.leaves, List.mem_singleton] at member
      rw [Condition.contents, Expression.contents, member]
      exact List.mem_cons_self ..
  | .nested conditional, member => by
      rw [Condition.leaves] at member
      rw [Condition.contents]
      exact conditional.operator_mem_contents member

theorem Conditional.operator_mem_contents {leaf : Expression} :
    (conditional : Conditional) → leaf ∈ conditional.leaves →
      Content.operator leaf.operator ∈ conditional.contents
  | ⟨junction, conditions⟩, member => by
      rw [Conditional.leaves] at member
      rw [Conditional.contents]
      exact Condition.operator_mem_contentsAll conditions member

theorem Condition.operator_mem_contentsAll {leaf : Expression} :
    (conditions : List Condition) → leaf ∈ Condition.leavesAll conditions →
      Content.operator leaf.operator ∈ Condition.contentsAll conditions
  | [], member => by
      rw [Condition.leavesAll] at member
      cases member
  | condition :: conditions, member => by
      rw [Condition.leavesAll, List.mem_append] at member
      rw [Condition.contentsAll, List.mem_append]
      exact member.imp condition.operator_mem_contents
        (Condition.operator_mem_contentsAll conditions)

end

namespace Item

theorem operator_mem_contents {item : Item} {leaf : Expression}
    (member : leaf ∈ item.leaves) (notRule : ∀ rule, item ≠ .rule rule) :
    Content.operator leaf.operator ∈ item.contents := by
  cases item with
  | token alone => cases member
  | expression tested =>
      obtain ⟨token, operator⟩ := tested
      rw [List.mem_singleton.mp member, contents, Expression.contents]
      exact List.mem_cons_self ..
  | condition part => exact part.operator_mem_contents member
  | conditional whole => exact whole.operator_mem_contents member
  | decisionRow row =>
      obtain ⟨antecedent, consequent⟩ := row
      rw [contents, DecisionRow.contents]
      exact List.mem_append_left _ (antecedent.operator_mem_contents member)
  | scoreRow row =>
      obtain ⟨antecedent, score⟩ := row
      rw [contents, ScoreRow.contents]
      exact List.mem_append_left _ (antecedent.operator_mem_contents member)
  | decisionSet set =>
      obtain ⟨rows⟩ := set
      obtain ⟨⟨antecedent, consequent⟩, among, inside⟩ :=
        List.mem_flatMap.mp member
      rw [contents, DecisionSet.contents, DecisionRow.contentsAll_eq_flatMap]
      refine List.mem_flatMap.mpr ⟨_, among, ?_⟩
      rw [DecisionRow.contents]
      exact List.mem_append_left _ (antecedent.operator_mem_contents inside)
  | scoreSet set =>
      obtain ⟨rows, weight⟩ := set
      obtain ⟨⟨antecedent, score⟩, among, inside⟩ := List.mem_flatMap.mp member
      rw [contents, ScoreSet.contents, ScoreRow.contentsAll_eq_flatMap]
      refine List.mem_append_left _ (List.mem_flatMap.mpr ⟨_, among, ?_⟩)
      rw [ScoreRow.contents]
      exact List.mem_append_left _ (antecedent.operator_mem_contents inside)
  | rule whole => exact (notRule whole rfl).elim

/-- The tests of what holds finite numbers are as the checked constructor makes
them. -/
theorem Constructed.checked_of_finite {item : Item}
    (constructed : item.Constructed) (finite : Finite item.contents)
    {leaf : Expression} (member : leaf ∈ item.leaves) : leaf.Checked := by
  refine Expression.checked_of_constructed (constructed.leaf member) ?_
  by_cases whole : ∃ rule, item = .rule rule
  · obtain ⟨rule, rfl⟩ := whole
    exact constructed.valid member
  · have among := operator_mem_contents member
      fun rule same => whole ⟨rule, same⟩
    have inRange := Operator.checkRange_eq_ok_iff.mp (constructed.inRange member)
    refine Operator.validate_eq_ok_iff.mpr ⟨?_, inRange⟩
    intro test baseline same compares
    refine isNaN_of_isFinite (finite baseline ?_)
    refine List.mem_flatMap.mpr ⟨_, among, ?_⟩
    rw [Content.numbers, same, Operator.numbers]
    cases test <;> cases compares <;> exact List.mem_singleton_self _

end Item

/-! ## Reading copies -/

/-- A reader comes to a copy if all numbers are finite, and fails otherwise. -/
structure ReadsCopy {α : Type} (numbers : List Float) (reader : Decoder α)
    (copied : α → Prop) : Prop where
  finite : AllFinite numbers → ∀ first, ∃ copy next,
    reader.run first = .ok (copy, next) ∧ copied copy
  infinite : ¬ AllFinite numbers → ∀ first, ∃ defect,
    reader.run first = .error defect

namespace ReadsCopy

variable {α β γ : Type} {numbers : List Float} {copied : γ → Prop}

/-- What holds no rules is read back as it was. -/
theorem plain {result : Except DecodeError α} {item : α} {function : α → γ}
    (reads : ReadsBack numbers result item)
    (copy : AllFinite numbers → copied (function item)) :
    ReadsCopy numbers (function <$> Decoder.plain result) copied := by
  constructor
  · intro finite first
    rw [reads.finite finite]
    exact ⟨_, _, rfl, copy finite⟩
  · intro infinite first
    obtain ⟨defect, failed⟩ := reads.infinite infinite
    rw [failed]
    exact ⟨defect, rfl⟩

theorem map {copiedPart : α → Prop} {reader : Decoder α} {function : α → γ}
    (reads : ReadsCopy numbers reader copiedPart)
    (copy : ∀ read, copiedPart read → copied (function read)) :
    ReadsCopy numbers (function <$> reader) copied := by
  constructor
  · intro finite first
    obtain ⟨read, next, ran, holds⟩ := reads.finite finite first
    rw [StateT.run_map, ran]
    exact ⟨function read, next, rfl, copy read holds⟩
  · intro infinite first
    obtain ⟨defect, failed⟩ := reads.infinite infinite first
    rw [StateT.run_map, failed]
    exact ⟨defect, rfl⟩

variable {forget : α → α} {contents : α → List Content}
  {encode : α → Document} {beq : α → α → Bool} {item : α} {reader : Decoder α}
  {builder : Builder β} {part : β → α} {function : α → γ}

/-- A reader that follows a builder comes to a copy if the builder does. -/
theorem of_follows
    (beq_of_forget_eq : ∀ first second, Finite (contents first) →
      forget first = forget second → beq first second = true)
    (encode_forget : ∀ item, encode (forget item) = encode item)
    (follows : Decoder.Follows (contents item) reader builder
      fun read built => Copies forget contents item read (part built))
    (gives : Finite (contents item) →
      builder.Gives fun built => forget (part built) = forget item)
    (copy : ∀ read, beq read item = true → encode read = encode item →
      forget read = forget item → copied (function read)) :
    ReadsCopy ((contents item).flatMap Content.numbers) (function <$> reader)
      copied := by
  constructor
  · intro finite first
    obtain ⟨built, next, ran, same⟩ := gives finite 0
    have agreed := follows.finite finite first 0
    rw [ran] at agreed
    rw [StateT.run_map]
    generalize reader.run first = result at agreed ⊢
    cases agreed with
    | @accepted read _ _ _ copies =>
        have alike := copies.alike.trans same
        have finiteRead : Finite (contents read) := by
          rw [copies.holds]
          exact finite
        refine ⟨_, _, rfl, copy read
          (beq_of_forget_eq read item finiteRead alike) ?_ alike⟩
        rw [← encode_forget read, alike, encode_forget]
  · intro infinite first
    obtain ⟨defect, failed⟩ := follows.infinite infinite first
    rw [StateT.run_map, failed]
    exact ⟨defect, rfl⟩

end ReadsCopy

namespace Item

/-- A copy equals the item and is stored alike.  A copy of a rule differs from it
in the numbers of rule objects only. -/
structure IsCopy (item copy : Item) : Prop where
  equal : (copy == item) = true
  stored : copy.encode = item.encode
  rule : ∀ rule, item = .rule rule → ∃ read,
    copy = .rule read ∧ read.forget = rule.forget

theorem readsCopy {item : Item} (constructed : item.Constructed) :
    ReadsCopy (item.contents.flatMap Content.numbers)
      (item.decodeLike item.encode) item.IsCopy := by
  have checked (finite : Finite item.contents) :
      ∀ leaf ∈ item.leaves, leaf.Checked :=
    fun leaf member => constructed.checked_of_finite finite member
  cases item with
  | token alone =>
      exact .of_follows Token.beq_of_forget_eq Token.encode_forget
        (alone.decode_follows .empty)
        (fun _ => alone.build_draft .empty constructed)
        fun _ equal stored _ => ⟨equal, stored, fun _ => nofun⟩
  | expression tested =>
      exact .of_follows Expression.beq_of_forget_eq Expression.encode_forget
        (tested.decode_follows .empty)
        (fun finite => tested.build_draft .empty
          (checked finite tested (List.mem_singleton_self _)))
        fun _ equal stored _ => ⟨equal, stored, fun _ => nofun⟩
  | condition part =>
      exact .of_follows Condition.beq_of_forget_eq Condition.encode_forget
        (part.decode_follows .empty)
        (fun finite => part.build_draft .empty (checked finite))
        fun _ equal stored _ => ⟨equal, stored, fun _ => nofun⟩
  | conditional whole =>
      exact .of_follows Conditional.beq_of_forget_eq Conditional.encode_forget
        (whole.decode_follows .empty)
        (fun finite => whole.build_draft .empty (checked finite))
        fun _ equal stored _ => ⟨equal, stored, fun _ => nofun⟩
  | decisionRow row =>
      exact .of_follows DecisionRow.beq_of_forget_eq DecisionRow.encode_forget
        (row.decode_follows .empty)
        (fun finite => row.build_draft .empty (checked finite))
        fun _ equal stored _ => ⟨equal, stored, fun _ => nofun⟩
  | scoreRow row =>
      obtain ⟨antecedent, score⟩ := row
      have finiteScore (finite : Finite (ScoreRow.mk antecedent score).contents) :
          score.isFinite = true := by
        rw [ScoreRow.contents, finite_append, finite_singleton] at finite
        exact allFinite_singleton.mp finite.2
      exact .of_follows ScoreRow.beq_of_forget_eq ScoreRow.encode_forget
        (ScoreRow.decode_follows .empty ⟨antecedent, score⟩)
        (fun finite => ScoreRow.build_draft .empty ⟨antecedent, score⟩
          (checked finite) (finiteScore finite))
        fun _ equal stored _ => ⟨equal, stored, fun _ => nofun⟩
  | decisionSet set =>
      exact .of_follows DecisionSet.beq_of_forget_eq DecisionSet.encode_forget
        (set.decode_follows .empty)
        (fun finite => set.build_draft .empty (checked finite))
        fun _ equal stored _ => ⟨equal, stored, fun _ => nofun⟩
  | scoreSet set =>
      exact .of_follows ScoreSet.beq_of_forget_eq ScoreSet.encode_forget
        (set.decode_follows .empty)
        (fun finite => set.build_draft .empty constructed (checked finite))
        fun _ equal stored _ => ⟨equal, stored, fun _ => nofun⟩
  | rule whole =>
      refine .of_follows Rule.beq_of_forget_eq Rule.encode_forget
        (whole.decode_follows .empty)
        (fun _ => whole.build_draft .empty constructed) ?_
      intro read equal stored alike
      refine ⟨equal, stored, ?_⟩
      rintro _ ⟨⟩
      exact ⟨read, rfl, alike⟩

end Item

/-- Rules that differ in sharing only execute alike. -/
theorem Rule.execute_eq_of_forget_eq {first second : Rule}
    (one : Token.Coherent first.tokens) (other : Token.Coherent second.tokens)
    (same : first.forget = second.forget) (facts : Facts) :
    first.execute facts = second.execute facts := by
  rw [execute_eq_meaning one, execute_eq_meaning other,
    ← first.meaning_rename facts id fun _ => 0,
    ← second.meaning_rename facts id fun _ => 0]
  exact congrArg (Rule.meaning facts) same

/-! ## Round trip -/

/-- An item of any type that has a stored form. -/
inductive Stored where
  | kind (kind : ValueKind)
  | value (value : Value)
  | facts (facts : Facts)
  | decision (decision : Decision)
  | operator (operator : Operator)
  /-- A part of a rule, or a whole rule. -/
  | part (item : Item)

namespace Stored

def encode : Stored → Document
  | .kind one => one.encode
  | .value one => one.encode
  | .facts all => all.encode
  | .decision one => one.encode
  | .operator one => one.encode
  | .part item => item.encode

/-- Read a document as an item of the type that a given item has. -/
def decodeLike (document : Document) : Stored → Decoder Stored
  | .kind _ => Stored.kind <$> Decoder.plain (ValueKind.decode document)
  | .value _ => Stored.value <$> Decoder.plain (Value.decode document)
  | .facts _ => Stored.facts <$> Decoder.plain (Facts.decode document)
  | .decision _ => Stored.decision <$> Decoder.plain (Decision.decode document)
  | .operator _ => Stored.operator <$> Decoder.plain (Operator.decode document)
  | .part item => Stored.part <$> item.decodeLike document

/-- Items of one type are compared as that type compares them. -/
def beq : Stored → Stored → Bool
  | .kind first, .kind second => first == second
  | .value first, .value second => first == second
  | .facts first, .facts second => first == second
  | .decision first, .decision second => first == second
  | .operator first, .operator second => first == second
  | .part first, .part second => first == second
  | _, _ => false

instance : BEq Stored :=
  ⟨beq⟩

/-- All numbers in an item, those in embedded rules included. -/
def numbers : Stored → List Float
  | .kind _ => []
  | .value one => one.numbers
  | .facts all => all.numbers
  | .decision one => one.numbers
  | .operator one => one.numbers
  | .part item => item.contents.flatMap Content.numbers

/-- Items that can be obtained. -/
def Obtainable : Stored → Prop
  | .kind _ | .value _ | .facts _ | .decision _ | .operator _ => True
  | .part item => item.Obtainable

/-- A copy equals the item and is stored alike.  A copy of a rule differs from it
in the numbers of rule objects only. -/
structure IsCopy (item copy : Stored) : Prop where
  equal : (copy == item) = true
  stored : copy.encode = item.encode
  rule : ∀ rule, item = .part (.rule rule) → ∃ read,
    copy = .part (.rule read) ∧ read.forget = rule.forget

theorem readsCopy {item : Stored} (obtainable : item.Obtainable) :
    ReadsCopy item.numbers (item.decodeLike item.encode) item.IsCopy := by
  cases item with
  | kind one =>
      have reads : ReadsBack [] (ValueKind.decode one.encode) one := by
        rw [one.decode_encode]
        exact .ok one
      exact .plain reads
        fun _ => ⟨beq_self_eq_true one, rfl, fun _ => nofun⟩
  | value one =>
      exact .plain one.readsBack
        fun finite => ⟨one.beq_self_of_finite finite, rfl, fun _ => nofun⟩
  | facts all =>
      exact .plain all.readsBack
        fun finite => ⟨all.beq_self_of_finite finite, rfl, fun _ => nofun⟩
  | decision one =>
      exact .plain one.readsBack
        fun finite => ⟨one.beq_self_of_finite finite, rfl, fun _ => nofun⟩
  | operator one =>
      exact .plain one.readsBack
        fun finite => ⟨one.beq_self_of_finite finite, rfl, fun _ => nofun⟩
  | part item =>
      refine (item.readsCopy (Item.Obtainable.constructed obtainable)).map ?_
      intro read copy
      refine ⟨copy.equal, copy.stored, ?_⟩
      rintro rule ⟨⟩
      obtain ⟨copied, rfl, alike⟩ := copy.rule rule rfl
      exact ⟨copied, rfl, alike⟩

/-- No two tokens of a rule that is read share a rule object, so its tokens are
coherent. -/
theorem coherent_of_decodeLike {rule read : Rule} {document : Document}
    {first next : Nat}
    (ran : ((Stored.part (.rule rule)).decodeLike document).run first =
      .ok (.part (.rule read), next)) : Token.Coherent read.tokens := by
  rw [decodeLike, Item.decodeLike, StateT.run_map, StateT.run_map] at ran
  cases inner : (Rule.decode document).run first with
  | error defect =>
      rw [inner] at ran
      cases ran
  | ok result =>
      rw [inner] at ran
      cases ran
      exact (Item.Read.rule inner).sound.2

/-- Whatever can be obtained is read back from its stored form exactly if no
number in it is infinite or NaN, as such a number is stored as null.  What is read
equals the item and is stored alike, and a rule that is read has the requirements,
the depth, the kind of output and the results of the original. -/
theorem round_trip {item : Stored} (obtainable : item.Obtainable)
    (first : Nat) :
    ((∃ copy next,
        (item.decodeLike item.encode).run first = .ok (copy, next)) ↔
      ∀ number ∈ item.numbers, number.isFinite = true) ∧
    (∀ number ∈ item.numbers, number.isFinite = false →
      Document.ofFloat number = .null) ∧
    ∀ copy next,
      (item.decodeLike item.encode).run first = .ok (copy, next) →
        (copy == item) = true ∧ copy.encode = item.encode ∧
        ∀ rule, item = .part (.rule rule) → ∃ read,
          copy = .part (.rule read) ∧
          read.requirements = rule.requirements ∧
          read.chainDepth = rule.chainDepth ∧
          read.outputKind = rule.outputKind ∧
          (Token.Coherent rule.tokens →
            ∀ facts, read.execute facts = rule.execute facts) := by
  have reads := readsCopy obtainable
  have finite {copy : Stored} {next : Nat}
      (ran : (item.decodeLike item.encode).run first = .ok (copy, next)) :
      AllFinite item.numbers := by
    by_contra infinite
    obtain ⟨defect, failed⟩ := reads.infinite infinite first
    rw [ran] at failed
    cases failed
  refine ⟨⟨fun ⟨copy, next, ran⟩ => finite ran, fun finite => ?_⟩, ?_, ?_⟩
  · obtain ⟨copy, next, ran, _⟩ := reads.finite finite first
    exact ⟨copy, next, ran⟩
  · intro number _ infinite
    rw [Document.ofFloat, infinite]
    rfl
  · intro copy next ran
    obtain ⟨found, _, again, isCopy⟩ := reads.finite (finite ran) first
    rw [ran] at again
    cases again
    refine ⟨isCopy.equal, isCopy.stored, ?_⟩
    rintro rule rfl
    obtain ⟨read, rfl, alike⟩ := isCopy.rule rule rfl
    refine ⟨read, rfl, ?_, ?_, ?_, fun coherent facts => ?_⟩
    · rw [← read.requirements_forget, alike, rule.requirements_forget]
    · rw [← read.chainDepth_forget, alike, rule.chainDepth_forget]
    · rw [← read.outputKind_forget, alike, rule.outputKind_forget]
    · exact Rule.execute_eq_of_forget_eq (coherent_of_decodeLike ran) coherent
        alike facts

/-- A rating is read back from its stored form and rates as before.  An operator
that compares with infinity is not read back. -/
theorem round_trip_rated :
    (∃ read next,
        ((part (.rule (.rated 0))).decodeLike (Rule.rated 0).encode).run 5 =
            .ok (part (.rule read), next) ∧
          ∀ facts, read.execute facts = (Rule.rated 0).execute facts) ∧
      ¬ ∃ copy next, (decodeLike (operator (.numeric (.lt (1 / 0)))).encode
        (operator (.numeric (.lt (1 / 0))))).run 5 = .ok (copy, next) := by
  have obtainable : (part (.rule (.rated 0))).Obtainable :=
    .of_constructed (Rule.rated_constructed 0)
  have infinite : ¬ ∀ number ∈ [(1 / 0 : Float)], number.isFinite = true := by
    decide
  constructor
  · have law := round_trip obtainable 5
    obtain ⟨copy, next, ran⟩ := law.1.mpr (Rule.rated_finite 0)
    obtain ⟨read, rfl, _, _, _, same⟩ := (law.2.2 copy next ran).2.2 _ rfl
    exact ⟨read, next, ran, same (Rule.rated_coherent 0)⟩
  · have law := @round_trip (operator (.numeric (.lt (1 / 0)))) trivial 5
    exact mt law.1.mp infinite

end Stored

end Rulebook
