import Rulebook.Proofs.Occurrence
import Rulebook.Rule.Numbering

/-!
# Numbers of rule objects are fresh

`Numbering.Yields` says what a computation that numbers rule objects comes to
when it is run from a given number and does not fail.  `Token.Numbered` is what
such computations keep up: the rule objects below some tokens all have a number
that was given out, and a table of the rule objects that were known before can
be extended to one that holds them as well.  Tokens whose rule objects are held
by one table are coherent.
-/

namespace Rulebook

namespace Numbering

variable {ε α β : Type}

/-- Run from `first`, the computation fails or comes to a value and a next free
number with a property. -/
def Yields (computation : Numbering ε α) (first : Nat)
    (property : α → Nat → Prop) : Prop :=
  ∀ value next, computation.run first = .ok (value, next) →
    property value next

namespace Yields

variable {computation : Numbering ε α} {first : Nat}

theorem pure {property : α → Nat → Prop} {value : α}
    (holds : property value first) :
    (Pure.pure value : Numbering ε α).Yields first property := by
  intro other next ran
  cases ran
  exact holds

theorem throw {property : α → Nat → Prop} {defect : ε} :
    (throw defect : Numbering ε α).Yields first property := by
  intro value next ran
  cases ran

theorem bind {between : α → Nat → Prop} {property : β → Nat → Prop}
    {rest : α → Numbering ε β} (before : computation.Yields first between)
    (after : ∀ value middle, between value middle →
      (rest value).Yields middle property) :
    (computation >>= rest).Yields first property := by
  intro value next ran
  rw [StateT.run_bind] at ran
  cases started : computation.run first with
  | error defect =>
      rw [started] at ran
      cases ran
  | ok found =>
      rw [started] at ran
      exact after found.1 found.2 (before _ _ started) _ _ ran

theorem map {property : β → Nat → Prop} {function : α → β}
    (yields : computation.Yields first
      fun value next => property (function value) next) :
    (function <$> computation).Yields first property := by
  rw [map_eq_pure_bind]
  exact yields.bind fun value middle holds => pure holds

theorem mono {weaker stronger : α → Nat → Prop}
    (yields : computation.Yields first stronger)
    (implies : ∀ value next, stronger value next → weaker value next) :
    computation.Yields first weaker :=
  fun value next ran => implies value next (yields value next ran)

theorem check {δ : Type} {wrap : δ → ε} {result : Except δ α}
    {property : α → Nat → Prop}
    (holds : ∀ value, result = .ok value → property value first) :
    (Numbering.check wrap result).Yields first property := by
  cases result with
  | error defect => exact throw
  | ok value => exact pure (holds value rfl)

/-- What follows a check starts from the same number. -/
theorem afterCheck {δ : Type} {wrap : δ → ε} {result : Except δ α}
    {rest : α → Numbering ε β} {property : β → Nat → Prop}
    (after : ∀ value, result = .ok value → (rest value).Yields first property) :
    (Numbering.check wrap result >>= rest).Yields first property := by
  have checked : (Numbering.check wrap result).Yields first
      fun value middle => result = .ok value ∧ middle = first :=
    check fun _ accepted => ⟨accepted, rfl⟩
  refine checked.bind ?_
  rintro value _ ⟨accepted, rfl⟩
  exact after value accepted

theorem fresh {property : Nat → Nat → Prop}
    (holds : property first (first + 1)) :
    (Numbering.fresh : Numbering ε Nat).Yields first property := by
  intro value next ran
  cases ran
  exact holds

end Yields

end Numbering

namespace Token

variable {objects : Nat → Rule} {first middle next : Nat}
  {tokens more : List Token}

/-- The rule objects below some tokens have numbers that were given out, and
a table holds their rules. -/
structure Known (objects : Nat → Rule) (next : Nat) (tokens : List Token) :
    Prop where
  held : HeldBy objects tokens
  below : ∀ object ∈ embeddedObjects tokens, object < next

/-- A later table holds what an earlier one holds if it agrees with it on the
numbers that were given out. -/
theorem Known.extend {known : Nat → Rule} (before : Known objects first tokens)
    (keeps : ∀ number < first, known number = objects number)
    (le : first ≤ next) : Known known next tokens where
  held := by
    intro label object kind rule occurs
    rw [keeps object (before.below object ⟨label, kind, rule, occurs⟩)]
    exact before.held label object kind rule occurs
  below := fun object member =>
    Nat.lt_of_lt_of_le (before.below object member) le

theorem Known.mono (known : Known objects next more)
    (subset : tokens ⊆ more) : Known objects next tokens where
  held := fun _ _ _ _ occurs => known.held _ _ _ _ (occurs.mono subset)
  below := by
    rintro object ⟨label, kind, rule, occurs⟩
    exact known.below object ⟨label, kind, rule, occurs.mono subset⟩

theorem Known.append (known : Known objects next tokens)
    (also : Known objects next more) : Known objects next (tokens ++ more) where
  held := by
    intro label object kind rule occurs
    exact (occursIn_append.mp occurs).elim (known.held _ _ _ _)
      (also.held _ _ _ _)
  below := by
    rintro object ⟨label, kind, rule, occurs⟩
    rcases occursIn_append.mp occurs with one | other
    · exact known.below object ⟨label, kind, rule, one⟩
    · exact also.below object ⟨label, kind, rule, other⟩

theorem Known.nil (objects : Nat → Rule) (next : Nat) :
    Known objects next [] where
  held := fun _ _ _ _ occurs => (not_occursIn_nil occurs).elim
  below := by
    rintro object ⟨_, _, _, occurs⟩
    exact (not_occursIn_nil occurs).elim

theorem Known.inside {label : String} {object : Nat} {kind : ValueKind}
    {rule : Rule} (known : Known objects next [.rule label object kind rule]) :
    Known objects next rule.tokens where
  held := fun _ _ _ _ occurs =>
    known.held _ _ _ _ (occursIn_rule.mpr (.inr occurs))
  below := by
    rintro number ⟨name, kept, embedded, occurs⟩
    exact known.below number
      ⟨name, kept, embedded, occursIn_rule.mpr (.inr occurs)⟩

theorem Known.relabel {label : String} {object : Nat} {kind : ValueKind}
    {rule : Rule} (known : Known objects next [.rule label object kind rule])
    (other : String) (otherKind : ValueKind) :
    Known objects next [.rule other object otherKind rule] := by
  have before {number : Nat} {embedded : Rule} {name : String}
      {kept : ValueKind}
      (occurs : (Token.rule name number kept embedded).OccursIn
        [.rule other object otherKind rule]) :
      ∃ name kept, (Token.rule name number kept embedded).OccursIn
        [.rule label object kind rule] := by
    rcases occursIn_rule.mp occurs with same | inside
    · cases same
      exact ⟨label, kind, occursIn_rule.mpr (.inl rfl)⟩
    · exact ⟨name, kept, occursIn_rule.mpr (.inr inside)⟩
  constructor
  · intro name number kept embedded occurs
    obtain ⟨_, _, there⟩ := before occurs
    exact known.held _ _ _ _ there
  · rintro number ⟨name, kept, embedded, occurs⟩
    obtain ⟨_, _, there⟩ := before occurs
    exact known.below number ⟨_, _, _, there⟩

theorem Known.coherent (known : Known objects next tokens) :
    Coherent tokens :=
  known.held.coherent

/-- While numbers were given out from `first` to `next`, tokens arose: a table
of the earlier rule objects can be extended to one that holds theirs. -/
structure Numbered (objects : Nat → Rule) (first : Nat) (tokens : List Token)
    (next : Nat) : Prop where
  le : first ≤ next
  table : ∃ known : Nat → Rule,
    (∀ number < first, known number = objects number) ∧
      Known known next tokens

namespace Numbered

theorem of_known (known : Known objects first tokens) :
    Numbered objects first tokens first :=
  ⟨Nat.le_refl first, objects, fun _ _ => rfl, known⟩

theorem mono (numbered : Numbered objects first more next)
    (subset : tokens ⊆ more) : Numbered objects first tokens next := by
  obtain ⟨known, keeps, holds⟩ := numbered.table
  exact ⟨numbered.le, known, keeps, holds.mono subset⟩

theorem widen (numbered : Numbered objects first tokens middle)
    (le : middle ≤ next) : Numbered objects first tokens next := by
  obtain ⟨known, keeps, holds⟩ := numbered.table
  exact ⟨Nat.le_trans numbered.le le, known, keeps,
    holds.extend (fun _ _ => rfl) le⟩

/-- Tokens that arose one after the other arose together, because the later
ones leave the rule objects of the earlier ones alone. -/
theorem append {early : Nat → Rule} (before : first ≤ middle)
    (keeps : ∀ number < first, early number = objects number)
    (known : Known early middle tokens)
    (after : Numbered early middle more next) :
    Numbered objects first (tokens ++ more) next := by
  obtain ⟨late, lateKeeps, lateKnown⟩ := after.table
  refine ⟨Nat.le_trans before after.le, late, ?_, ?_⟩
  · intro number lt
    rw [lateKeeps number (Nat.lt_of_lt_of_le lt before), keeps number lt]
  · exact (known.extend lateKeeps after.le).append lateKnown

theorem relabel {label : String} {object : Nat} {kind : ValueKind}
    {rule : Rule}
    (numbered : Numbered objects first [.rule label object kind rule] next)
    (other : String) (otherKind : ValueKind) :
    Numbered objects first [.rule other object otherKind rule] next := by
  obtain ⟨known, keeps, holds⟩ := numbered.table
  exact ⟨numbered.le, known, keeps, holds.relabel other otherKind⟩

/-- A rule becomes an object with the next free number. -/
theorem object {rule : Rule}
    (numbered : Numbered objects first rule.tokens next) (label : String)
    (kind : ValueKind) :
    Numbered objects first [.rule label next kind rule] (next + 1) := by
  obtain ⟨known, keeps, holds⟩ := numbered.table
  have split {other : String} {number : Nat} {otherKind : ValueKind}
      {embedded : Rule}
      (occurs : (Token.rule other number otherKind embedded).OccursIn
        [.rule label next kind rule]) :
      (number = next ∧ rule = embedded) ∨
        (Token.rule other number otherKind embedded).OccursIn rule.tokens := by
    refine (occursIn_rule.mp occurs).imp_left ?_
    rintro ⟨⟩
    exact ⟨rfl, rfl⟩
  refine ⟨Nat.le_succ_of_le numbered.le,
    fun number => if number = next then rule else known number, ?_, ?_, ?_⟩
  · intro number lt
    have notNew : number ≠ next :=
      Nat.ne_of_lt (Nat.lt_of_lt_of_le lt numbered.le)
    simp only [notNew, if_false]
    exact keeps number lt
  · intro other number otherKind embedded occurs
    rcases split occurs with ⟨new, same⟩ | inside
    · simp [new, same]
    · have old : number ≠ next :=
        Nat.ne_of_lt (holds.below number ⟨other, otherKind, embedded, inside⟩)
      simp only [old, if_false]
      exact holds.held other number otherKind embedded inside
  · rintro number ⟨other, otherKind, embedded, occurs⟩
    rcases split occurs with ⟨new, _⟩ | inside
    · omega
    · exact Nat.lt_succ_of_lt
        (holds.below number ⟨other, otherKind, embedded, inside⟩)

end Numbered

end Token

end Rulebook
