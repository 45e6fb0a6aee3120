import Rulebook.Proofs.Profiles
import Rulebook.Proofs.WellFormed

/-!
# The first defect

A rule is refused for a defect of its tests, and the tests are looked at in the
order in which they are written.  A test is defective after others if its operator
is not valid or, failing that, if its token asks for a fact that was asked for with
another kind before.  The constructors accept tests without a defect and report
the first defect of all others (`Profile.ofLeaves_eq_error_iff`).

What was asked for before is found in one map that is carried through all tests,
and the requests of an embedded rule are the entries of the map that was made for
it.  Neither shows in the statements, which speak of lists of requests only.
-/

namespace Rulebook

section Sequencing

variable {ε α β σ : Type}

/-- A computation fails at its first step or, after that, at the second one. -/
theorem bind_eq_error_iff {computation : Except ε α} {next : α → Except ε β}
    {defect : ε} :
    computation >>= next = .error defect ↔
      computation = .error defect ∨
        ∃ value, computation = .ok value ∧ next value = .error defect := by
  cases computation <;> simp [bind, Except.bind]

/-- Steps one after the other fail at the first item for which the step fails. -/
theorem foldlM_eq_error_iff {step : σ → α → Except ε σ} {items : List α}
    {state : σ} {defect : ε} :
    items.foldlM step state = .error defect ↔
      ∃ before item later between, items = before ++ item :: later ∧
        before.foldlM step state = .ok between ∧
        step between item = .error defect := by
  constructor
  · intro failed
    induction items generalizing state with
    | nil => cases failed
    | cons item items ih =>
        rw [List.foldlM_cons, bind_eq_error_iff] at failed
        rcases failed with here | ⟨between, first, rest⟩
        · exact ⟨[], item, items, state, rfl, rfl, here⟩
        · obtain ⟨before, found, later, last, rfl, passed, here⟩ := ih rest
          refine ⟨item :: before, found, later, last, rfl, ?_, here⟩
          rw [List.foldlM_cons, first]
          exact passed
  · rintro ⟨before, item, later, between, rfl, passed, here⟩
    rw [List.foldlM_append]
    refine bind_eq_error_iff.mpr (.inr ⟨between, passed, ?_⟩)
    rw [List.foldlM_cons]
    exact bind_eq_error_iff.mpr (.inl here)

end Sequencing

/-- What some tests ask for, in order. -/
def requestsOf (leaves : List Expression) : List (String × ValueKind) :=
  leaves.flatMap fun leaf => leaf.token.requests

/-- Every operator is valid, and no fact is asked for with two kinds. -/
structure Flawless (leaves : List Expression) : Prop where
  valid : ∀ leaf ∈ leaves, leaf.operator.validate = .ok ()
  oneKind : OneKind (requestsOf leaves)

/-- The defect of a test that stands after tests with the given requests. -/
inductive Expression.Defect (asked : List (String × ValueKind))
    (leaf : Expression) : ConfigError → Prop
  | operator {defect : ConfigError} :
      leaf.operator.validate = .error defect → Defect asked leaf defect
  /-- The operator is valid, and up to the request of the fact with the second
  kind no fact is asked for with two kinds. -/
  | clash {before later : List (String × ValueKind)} {name : String}
      {first second : ValueKind} :
      leaf.operator.validate = .ok () →
        leaf.token.requests = before ++ (name, second) :: later →
          OneKind (asked ++ before) → (name, first) ∈ asked → first ≠ second →
            Defect asked leaf (.conflictingTokenKind name first second)

/-- The defect of the first test that has one after the tests before it. -/
def FirstDefect (leaves : List Expression) (defect : ConfigError) : Prop :=
  ∃ before leaf later, leaves = before ++ leaf :: later ∧ Flawless before ∧
    leaf.Defect (requestsOf before) defect

namespace Requirements

variable {before : Requirements} {defect : ConfigError}

theorem record_eq_error_iff {name : String} {kind : ValueKind} :
    before.record name kind = .error defect ↔
      ∃ first, (name, first) ∈ before.entries ∧ first ≠ kind ∧
        defect = .conflictingTokenKind name first kind := by
  unfold record
  simp only [← NameMap.get?_eq_some_iff]
  cases known : before.get? name with
  | none => simp
  | some first =>
      by_cases same : first = kind
      · simp [same]
      · simp only [same, if_false, Except.error.injEq, Option.some.injEq]
        constructor
        · rintro rfl
          exact ⟨first, rfl, same, rfl⟩
        · rintro ⟨_, rfl, _, rfl⟩
          rfl

/-- Recording fails at the first request that clashes with an earlier one. -/
theorem recordAll_eq_error_iff {requests : List (String × ValueKind)} :
    before.recordAll requests = .error defect ↔
      ∃ passed name first second later,
        requests = passed ++ (name, second) :: later ∧
        OneKind (before.entries ++ passed) ∧
        (name, first) ∈ before.entries ++ passed ∧ first ≠ second ∧
        defect = .conflictingTokenKind name first second := by
  rw [recordAll, foldlM_eq_error_iff]
  constructor
  · rintro ⟨passed, ⟨name, second⟩, later, between, rfl, accepted, failed⟩
    obtain ⟨first, known, differs, rfl⟩ := record_eq_error_iff.mp failed
    exact ⟨passed, name, first, second, later, rfl,
      recordAll_accepts_iff.mp ⟨between, accepted⟩,
      (mem_recordAll accepted _).mp known, differs, rfl⟩
  · rintro ⟨passed, name, first, second, later, rfl, oneKind, known, differs,
      rfl⟩
    obtain ⟨between, accepted⟩ := recordAll_accepts_iff.mpr oneKind
    exact ⟨passed, (name, second), later, between, rfl, accepted,
      record_eq_error_iff.mpr
        ⟨first, (mem_recordAll accepted _).mpr known, differs, rfl⟩⟩

end Requirements

/-- A token asks for each fact once. -/
theorem Token.requests_increasing (token : Token) :
    token.requests.Pairwise fun first second => first.1 < second.1 := by
  cases token with
  | fact name kind => exact List.pairwise_singleton _ _
  | rule label object kind embedded => exact embedded.requirements.increasing

/-- A request of a token does not clash with others of the same token. -/
theorem Token.not_requested_before {token : Token}
    {passed later : List (String × ValueKind)} {name : String}
    {second : ValueKind}
    (requests : token.requests = passed ++ (name, second) :: later)
    (first : ValueKind) : (name, first) ∉ passed := by
  intro earlier
  have increasing := token.requests_increasing
  rw [requests, List.pairwise_append] at increasing
  exact String.lt_irrefl name
    (increasing.2.2 _ earlier _ (List.mem_cons_self ..))

namespace Profile

variable {leaves : List Expression} {profile : Profile} {defect : ConfigError}

theorem ofLeaves_accepts_iff_flawless :
    (∃ profile, ofLeaves leaves = .ok profile) ↔ Flawless leaves :=
  ofLeaves_accepts_iff.trans
    ⟨fun ⟨valid, oneKind⟩ => ⟨valid, oneKind⟩,
      fun flawless => ⟨flawless.valid, flawless.oneKind⟩⟩

/-- The requirements of a profile have the requests of the tests as entries. -/
theorem mem_requestsOf (collected : ofLeaves leaves = .ok profile)
    (entry : String × ValueKind) :
    entry ∈ profile.requirements.entries ↔ entry ∈ requestsOf leaves := by
  rw [← NameMap.get?_eq_some_iff, ofLeaves_get? collected, requestsOf,
    List.mem_flatMap]

/-- After the tests that a profile was collected from, a test is refused for its
defect. -/
theorem addLeaf_eq_error_iff (collected : ofLeaves leaves = .ok profile)
    {leaf : Expression} :
    profile.addLeaf leaf = .error defect ↔
      leaf.Defect (requestsOf leaves) defect := by
  have asked (passed : List (String × ValueKind)) (entry : String × ValueKind) :
      entry ∈ profile.requirements.entries ++ passed ↔
        entry ∈ requestsOf leaves ++ passed := by
    rw [List.mem_append, List.mem_append, mem_requestsOf collected]
  simp only [addLeaf, bind_eq_error_iff, Requirements.recordAll_eq_error_iff,
    asked, oneKind_congr (asked _), pure, Except.pure, reduceCtorEq, and_false,
    exists_false, or_false]
  constructor
  · rintro (invalid | ⟨_, valid, passed, name, first, second, later, requests,
      oneKind, known, differs, rfl⟩)
    · exact .operator invalid
    · have earlier := (List.mem_append.mp known).resolve_right
        (Token.not_requested_before requests first)
      exact .clash valid requests oneKind earlier differs
  · intro found
    cases found with
    | operator invalid => exact .inl invalid
    | clash valid requests oneKind known differs =>
        exact .inr ⟨(), valid, _, _, _, _, _, requests, oneKind,
          List.mem_append_left _ known, differs, rfl⟩

/-- Tests from which no profile can be collected are refused for their first
defect. -/
theorem ofLeaves_eq_error_iff :
    ofLeaves leaves = .error defect ↔ FirstDefect leaves defect := by
  rw [ofLeaves, foldlM_eq_error_iff]
  constructor
  · rintro ⟨before, leaf, later, between, rfl, collected, failed⟩
    exact ⟨before, leaf, later, rfl,
      ofLeaves_accepts_iff_flawless.mp ⟨between, collected⟩,
      (addLeaf_eq_error_iff collected).mp failed⟩
  · rintro ⟨before, leaf, later, rfl, flawless, found⟩
    obtain ⟨between, collected⟩ := ofLeaves_accepts_iff_flawless.mpr flawless
    exact ⟨before, leaf, later, between, rfl, collected,
      (addLeaf_eq_error_iff collected).mpr found⟩

end Profile

/-- The sum of the weights is too far from one. -/
def ScoreSet.Unbalanced (sets : List ScoreSet) : Prop :=
  weightTolerance < (weightSum sets - 1).abs

section Constructors

variable {defect : ConfigError}

theorem DecisionRule.make_eq_error_iff {ruleset : DecisionSet} :
    make ruleset = .error defect ↔
      Profile.ofLeaves ruleset.leaves = .error defect := by
  rw [make, bind_eq_error_iff]
  simp [pure, Except.pure]

theorem DecisionRule.make_accepts_iff {ruleset : DecisionSet} :
    (∃ rule, make ruleset = .ok rule) ↔ Flawless ruleset.leaves := by
  rw [← Profile.ofLeaves_accepts_iff_flawless]
  constructor
  · rintro ⟨rule, accepted⟩
    obtain ⟨profile, collected, _⟩ := make_eq_ok_iff.mp accepted
    exact ⟨profile, collected⟩
  · rintro ⟨profile, collected⟩
    exact ⟨_, make_eq_ok_iff.mpr ⟨profile, collected, rfl⟩⟩

variable {rulesets : List ScoreSet}
  (inRange : ∀ set ∈ rulesets, checkWeight set.weight = .ok ())
include inRange

/-- Where all weights are in range, the constructor of score rules fails for want
of a ruleset, for the sum of the weights or for the tests, in this order. -/
theorem ScoreRule.make_eq_error_iff :
    make rulesets = .error defect ↔
      rulesets = [] ∧ defect = .noRuleSets ∨
        rulesets ≠ [] ∧
          (ScoreSet.Unbalanced rulesets ∧
              defect = .weightSum (ScoreSet.weightSum rulesets) ∨
            ¬ ScoreSet.Unbalanced rulesets ∧
              Profile.ofLeaves (rulesets.flatMap ScoreSet.leaves) =
                .error defect) := by
  have checked := forM_eq_ok_iff.mpr inRange
  unfold make ScoreSet.Unbalanced
  by_cases none : rulesets = []
  · subst none
    simp [throw, throwThe, MonadExceptOf.throw, bind, Except.bind, eq_comm]
  · simp only [List.isEmpty_iff, none, if_false, false_and, false_or, ne_eq,
      not_false_eq_true, true_and, checked]
    by_cases off : weightTolerance < (ScoreSet.weightSum rulesets - 1).abs
    · simp [off, throw, throwThe, MonadExceptOf.throw, bind, Except.bind,
        eq_comm]
    · simp only [off, if_false, false_and, false_or, not_false_eq_true,
        true_and, bind_eq_error_iff]
      simp [pure, Except.pure]

theorem ScoreRule.make_accepts_iff :
    (∃ rule, make rulesets = .ok rule) ↔
      rulesets ≠ [] ∧ ¬ ScoreSet.Unbalanced rulesets ∧
        Flawless (rulesets.flatMap ScoreSet.leaves) := by
  rw [← Profile.ofLeaves_accepts_iff_flawless]
  constructor
  · rintro ⟨rule, accepted⟩
    obtain ⟨some, _, balanced, profile, collected, _⟩ :=
      make_eq_ok_iff.mp accepted
    exact ⟨some, balanced, profile, collected⟩
  · rintro ⟨some, balanced, profile, collected⟩
    exact ⟨_, make_eq_ok_iff.mpr
      ⟨some, inRange, balanced, profile, collected, rfl⟩⟩

end Constructors

section Sample

/-- Rulesets that ask for the kind of a level in two ways: by the rule that tells
its sign, which is the object of the given number, and as a text. -/
def ScoreSet.clashing (object : Nat) : List ScoreSet :=
  [⟨[⟨⟨.all,
      [.test ⟨.rule "sign" object .boolean .positive, .boolean (.is true)⟩]⟩,
      80⟩], 0.6⟩,
    ⟨[⟨⟨.any, [.test (.onFact "level" (.string (.equals "high")))]⟩, 10⟩],
      0.4⟩]

theorem ScoreSet.clashing_constructed (object : Nat) :
    ∀ set ∈ clashing object, Item.Constructed (.scoreSet set) := by
  have sign := Expression.sign_constructed "sign" object
  have text : Item.Constructed
      (.expression (.onFact "level" (.string (.equals "high")))) :=
    .onFact "level" rfl
  have heavy : checkWeight 0.6 = .ok () := rfl
  have light : checkWeight 0.4 = .ok () := rfl
  have high : (80 : Float).isFinite = true := rfl
  have low : (10 : Float).isFinite = true := rfl
  unfold clashing
  rw [List.forall_mem_cons, List.forall_mem_singleton,
    Item.constructed_scoreSet_iff, Item.constructed_scoreSet_iff]
  exact ⟨⟨List.forall_mem_singleton.mpr sign,
      List.forall_mem_singleton.mpr high, heavy⟩,
    List.forall_mem_singleton.mpr text,
    List.forall_mem_singleton.mpr low, light⟩

end Sample

namespace Rule

/-- A decision rule is made from tests without a defect and refused for the first
defect of others.  Score rules are too, but want of a ruleset and then the sum of
the weights come before. -/
theorem make_reports_first_defect :
    (∀ ruleset : DecisionSet,
      ((∃ rule, DecisionRule.make ruleset = .ok rule) ↔
        Flawless ruleset.leaves) ∧
      ∀ defect, DecisionRule.make ruleset = .error defect ↔
        FirstDefect ruleset.leaves defect) ∧
    ∀ rulesets : List ScoreSet,
      (∀ set ∈ rulesets, Item.Obtainable (.scoreSet set)) →
        ((∃ rule, ScoreRule.make rulesets = .ok rule) ↔
          rulesets ≠ [] ∧ ¬ ScoreSet.Unbalanced rulesets ∧
            Flawless (rulesets.flatMap ScoreSet.leaves)) ∧
        ∀ defect, ScoreRule.make rulesets = .error defect ↔
          rulesets = [] ∧ defect = .noRuleSets ∨
            rulesets ≠ [] ∧
              (ScoreSet.Unbalanced rulesets ∧
                  defect = .weightSum (ScoreSet.weightSum rulesets) ∨
                ¬ ScoreSet.Unbalanced rulesets ∧
                  FirstDefect (rulesets.flatMap ScoreSet.leaves) defect) := by
  simp only [← Profile.ofLeaves_eq_error_iff]
  refine ⟨fun ruleset => ⟨DecisionRule.make_accepts_iff,
    fun defect => DecisionRule.make_eq_error_iff⟩, ?_⟩
  intro rulesets obtainable
  have inRange (set : ScoreSet) (member : set ∈ rulesets) :
      checkWeight set.weight = .ok () :=
    (Item.constructed_scoreSet_iff.mp
      (obtainable set member).constructed).2.2
  exact ⟨ScoreRule.make_accepts_iff inRange,
    fun defect => ScoreRule.make_eq_error_iff inRange⟩

/-- The second ruleset clashes with what the rule object in the first one
requires. -/
theorem make_reports_first_defect_clashing :
    (∀ set ∈ ScoreSet.clashing 0, Item.Obtainable (.scoreSet set)) ∧
      ScoreRule.make (ScoreSet.clashing 0) =
        .error (.conflictingTokenKind "level" .numeric .string) := by
  have obtainable (set : ScoreSet) (member : set ∈ ScoreSet.clashing 0) :
      Item.Obtainable (.scoreSet set) :=
    .of_constructed (ScoreSet.clashing_constructed 0 set member)
  refine ⟨obtainable, ((make_reports_first_defect.2 _ obtainable).2 _).mpr ?_⟩
  refine .inr ⟨List.cons_ne_nil _ _, .inr ⟨?_, ?_⟩⟩
  · change ¬ weightTolerance < (-0.0 + 0.6 + 0.4 - 1 : Float).abs
    decide
  · -- The rule object asks for the level as a number.
    have known : requestsOf
        [⟨.rule "sign" 0 .boolean positive, .boolean (.is true)⟩] =
          [("level", .numeric)] :=
      rfl
    refine ⟨[⟨.rule "sign" 0 .boolean positive, .boolean (.is true)⟩],
      .onFact "level" (.string (.equals "high")), [], rfl, ⟨?_, ?_⟩, ?_⟩
    · exact List.forall_mem_singleton.mpr rfl
    · rw [known]
      exact Requirements.oneKind_entries (.ofList [("level", .numeric)])
    · rw [known]
      exact .clash rfl rfl
        (Requirements.oneKind_entries (.ofList [("level", .numeric)]))
        (List.mem_singleton_self _) (by decide)

end Rule

end Rulebook
