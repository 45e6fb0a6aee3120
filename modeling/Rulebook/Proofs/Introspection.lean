import Rulebook.Proofs.Foresight
import Rulebook.Proofs.Kinds
import Rulebook.Proofs.RequiredFacts

/-!
# Introspection agrees with resolution

Before an evaluation a caller may ask a rule which of its facts are missing and
whether the others have the right kinds.  The answers classify the values of
facts by their kind, and a walk resolves fact tokens in its own way.  The two
agree for every value, nulls included: a fact is listed as missing if its tokens
resolve to nothing, and the check fails with the error of the first token, in
order of name, that does not resolve.
-/

namespace Rulebook

namespace Facts

variable {facts : Facts} {name : String} {expected : ValueKind}

/-- Null is the only value without a kind. -/
theorem isMissing_iff : facts.isMissing name = true ↔ facts.kind? name = none := by
  unfold isMissing kind?
  cases facts.get? name with
  | none => simp
  | some value => cases value <;> simp [Value.isNull, Value.kind]

/-- A fact token resolves to nothing if its fact is missing, whatever kind it
asks for. -/
theorem resolve_eq_none_iff :
    facts.resolve name expected = .ok none ↔ facts.isMissing name = true := by
  rw [isMissing_iff]
  unfold resolve kind?
  cases facts.get? name with
  | none => simp
  | some value =>
      cases kind : value.kind with
      | none => simp [kind]
      | some found =>
          have present : value.resolved? ≠ none := by
            cases value <;> simp_all [Value.kind, Value.resolved?]
          by_cases fits : found = expected <;> simp [kind, fits, present]

end Facts

namespace Requirements

variable {facts : Facts}

/-- The check of an entry is the resolution of a token that asks for it. -/
theorem checkEntries_cons (name : String) (expected : ValueKind)
    (rest : List (String × ValueKind)) :
    checkEntries facts ((name, expected) :: rest) =
      match facts.resolve name expected with
      | .ok _ => checkEntries facts rest
      | .error defect => .error defect := by
  rw [checkEntries]
  unfold Facts.resolve Facts.kind?
  cases facts.get? name with
  | none => rfl
  | some value =>
      simp only [Option.bind_some]
      cases value.kind with
      | none => rfl
      | some found => by_cases fits : found = expected <;> simp [fits]

/-- The check passes if every entry resolves. -/
theorem checkEntries_eq_ok_iff {entries : List (String × ValueKind)} :
    checkEntries facts entries = .ok () ↔
      ∀ name expected, (name, expected) ∈ entries →
        ∃ output, facts.resolve name expected = .ok output := by
  induction entries with
  | nil => simp [checkEntries]
  | cons entry rest ih =>
      obtain ⟨first, wanted⟩ := entry
      rw [checkEntries_cons]
      cases resolved : facts.resolve first wanted with
      | error defect =>
          simp only [reduceCtorEq, false_iff, not_forall, not_exists]
          refine ⟨first, wanted, List.mem_cons_self, fun output ended => ?_⟩
          rw [resolved] at ended
          cases ended
      | ok output =>
          refine ih.trans ⟨fun all name expected member => ?_,
            fun all name expected member =>
              all name expected (List.mem_cons_of_mem _ member)⟩
          rcases List.mem_cons.mp member with same | later
          · cases same
            exact ⟨output, resolved⟩
          · exact all name expected later

/-- The check fails with the error of the entry of the least name that does not
resolve. -/
theorem checkEntries_eq_error_iff {entries : List (String × ValueKind)}
    {defect : EvalError}
    (increasing : entries.Pairwise fun first second => first.1 < second.1) :
    checkEntries facts entries = .error defect ↔
      ∃ name expected, (name, expected) ∈ entries ∧
        facts.resolve name expected = .error defect ∧
        ∀ other kind failure, (other, kind) ∈ entries →
          facts.resolve other kind = .error failure → name ≤ other := by
  induction entries with
  | nil => simp [checkEntries]
  | cons entry rest ih =>
      obtain ⟨first, wanted⟩ := entry
      rw [List.pairwise_cons] at increasing
      have above (other : String) (kind : ValueKind)
          (member : (other, kind) ∈ rest) : first < other :=
        increasing.1 _ member
      rw [checkEntries_cons]
      cases resolved : facts.resolve first wanted with
      | error failure =>
          simp only
          constructor
          · rintro ⟨⟩
            refine ⟨first, wanted, List.mem_cons_self, resolved, ?_⟩
            intro other kind _ member _
            rcases List.mem_cons.mp member with same | later
            · cases same
              exact String.le_refl first
            · exact Std.le_of_lt (above other kind later)
          · rintro ⟨name, expected, member, failed, least⟩
            have upTo : name ≤ first :=
              least first wanted failure List.mem_cons_self resolved
            rcases List.mem_cons.mp member with same | later
            · cases same
              rw [resolved] at failed
              cases failed
              rfl
            · exact absurd (above name expected later) (String.not_lt.mpr upTo)
      | ok output =>
          -- The head resolves, so it is no candidate on either side.
          have notHead {other : String} {kind : ValueKind} {failure : EvalError}
              (member : (other, kind) ∈ (first, wanted) :: rest)
              (failed : facts.resolve other kind = .error failure) :
              (other, kind) ∈ rest := by
            rcases List.mem_cons.mp member with same | later
            · cases same
              rw [resolved] at failed
              cases failed
            · exact later
          refine (ih increasing.2).trans ⟨?_, ?_⟩
          · rintro ⟨name, expected, member, failed, least⟩
            exact ⟨name, expected, List.mem_cons_of_mem _ member, failed,
              fun other kind failure member failed =>
                least other kind failure (notHead member failed) failed⟩
          · rintro ⟨name, expected, member, failed, least⟩
            exact ⟨name, expected, notHead member failed, failed,
              fun other kind failure member =>
                least other kind failure (List.mem_cons_of_mem _ member)⟩

theorem mem_missing {requirements : Requirements} {name : String} :
    name ∈ requirements.missing facts ↔
      (∃ kind, (name, kind) ∈ requirements.entries) ∧
        facts.isMissing name = true := by
  simp [missing, NameMap.names, List.mem_filter]

theorem missing_increasing (requirements : Requirements) :
    (requirements.missing facts).Pairwise (· < ·) :=
  (List.pairwise_map.mpr requirements.increasing).filter _

end Requirements

namespace Rule

/-- What a rule says about given facts in advance is what its fact tokens
resolve to, those of the rules embedded at any depth included. -/
structure IntrospectionAgrees (rule : Rule) (facts : Facts) : Prop where
  increasing : (rule.requirements.missing facts).Pairwise (· < ·)
  /-- The missing names are those of the tokens that resolve to nothing. -/
  missing : ∀ name, name ∈ rule.requirements.missing facts ↔
    ∃ kind, (Token.fact name kind).OccursIn rule.tokens ∧
      (Token.fact name kind).resolve facts = .ok none
  /-- No token of a missing name resolves to anything else. -/
  everywhere : ∀ name kind, name ∈ rule.requirements.missing facts →
    (Token.fact name kind).OccursIn rule.tokens →
      (Token.fact name kind).resolve facts = .ok none
  passed : rule.requirements.check facts = .ok () ↔
    ∀ name kind, (Token.fact name kind).OccursIn rule.tokens →
      ∃ output, (Token.fact name kind).resolve facts = .ok output
  /-- The check fails with the error of the token of the least name. -/
  failed : ∀ defect, rule.requirements.check facts = .error defect ↔
    ∃ name kind, (Token.fact name kind).OccursIn rule.tokens ∧
      (Token.fact name kind).resolve facts = .error defect ∧
      ∀ other wanted failure, (Token.fact other wanted).OccursIn rule.tokens →
        (Token.fact other wanted).resolve facts = .error failure →
          name ≤ other
  /-- If nothing is missing and the check passes, every token has a value. -/
  present : rule.requirements.missing facts = [] →
    rule.requirements.check facts = .ok () →
      ∀ name kind, (Token.fact name kind).OccursIn rule.tokens →
        ∃ value, (Token.fact name kind).resolve facts = .ok (some value) ∧
          value.kind = kind

/-- For all facts, a rule lists as missing what its fact tokens resolve to
nothing, and its check fails as the token of the least name does. -/
theorem introspection_agrees {rule : Rule}
    (obtainable : Item.Obtainable (.rule rule)) (facts : Facts) :
    rule.IntrospectionAgrees facts := by
  have required (name : String) (kind : ValueKind) :
      (name, kind) ∈ rule.requirements.entries ↔
        (Token.fact name kind).OccursIn rule.tokens :=
    mem_requirements_iff obtainable.constructed
  have missing (name : String) : name ∈ rule.requirements.missing facts ↔
      ∃ kind, (Token.fact name kind).OccursIn rule.tokens ∧
        (Token.fact name kind).resolve facts = .ok none := by
    simp only [Requirements.mem_missing, required, Token.resolve_fact,
      Facts.resolve_eq_none_iff, exists_and_right]
  have passed : rule.requirements.check facts = .ok () ↔
      ∀ name kind, (Token.fact name kind).OccursIn rule.tokens →
        ∃ output, (Token.fact name kind).resolve facts = .ok output := by
    rw [Requirements.check, Requirements.checkEntries_eq_ok_iff]
    simp only [required, Token.resolve_fact]
  refine ⟨Requirements.missing_increasing _, missing, ?_, passed, ?_, ?_⟩
  · intro name kind member _
    rw [Token.resolve_fact, Facts.resolve_eq_none_iff]
    exact (Requirements.mem_missing.mp member).2
  · intro defect
    rw [Requirements.check,
      Requirements.checkEntries_eq_error_iff rule.requirements.increasing]
    simp only [required, Token.resolve_fact]
  · intro complete checked name kind occurs
    obtain ⟨output, resolved⟩ := passed.mp checked name kind occurs
    cases output with
    | none =>
        have listed := (missing name).mpr ⟨kind, occurs, resolved⟩
        rw [complete] at listed
        cases listed
    | some value =>
        refine ⟨value, resolved, ?_⟩
        rw [Token.resolve_fact] at resolved
        exact Facts.resolve_kind resolved

/-- A gate asks for the level through the rule that it embeds, and for the pet
itself.  A null level is missing, a number is no pet, and with both facts in order
the level has a value. -/
theorem introspection_agrees_gated :
    (∃ kind, (Token.fact "level" kind).OccursIn (gated 0).tokens ∧
        (Token.fact "level" kind).resolve
            (.ofList [("level", .null), ("pet", .int 1)]) = .ok none) ∧
      (∃ name kind, (Token.fact name kind).OccursIn (gated 0).tokens ∧
        (Token.fact name kind).resolve
            (.ofList [("level", .null), ("pet", .int 1)]) =
          .error (.typeMismatch "pet" .string .numeric)) ∧
      ∃ value, (Token.fact "level" .numeric).resolve
          (.ofList [("level", .int 1), ("pet", .text "cat")]) =
            .ok (some value) ∧
        value.kind = .numeric := by
  have law := introspection_agrees
    (Item.Obtainable.of_constructed (gated_constructed 0))
  have occurs : (Token.fact "level" .numeric).OccursIn (gated 0).tokens :=
    (mem_requirements_iff (gated_constructed 0)).mp List.mem_cons_self
  refine ⟨((law _).missing "level").mp ?_, ?_, ?_⟩
  · exact List.mem_cons_self
  · obtain ⟨name, kind, asked, failed, _⟩ :=
      ((law (.ofList [("level", .null), ("pet", .int 1)])).failed
        (.typeMismatch "pet" .string .numeric)).mp rfl
    exact ⟨name, kind, asked, failed⟩
  · exact (law _).present rfl rfl "level" .numeric occurs

end Rule

end Rulebook
