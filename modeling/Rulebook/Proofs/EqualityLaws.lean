import Rulebook.Proofs.Deciding
import Rulebook.Proofs.Outlines
import Rulebook.Proofs.Sameness

/-!
# Laws of equality

Numbers are equal as numbers, so NaN keeps equality from being reflexive, and
everything that holds numbers inherits this.  Equality is symmetric and transitive
all the same.  Tests cannot hold NaN, nor can scores and weights, and a rule object
equals itself whatever it holds; so only the consequents of a rule's own rows can
make it differ from itself.

The profile of a rule is compared too, but equal tests add the same to a profile, so
that comparison never decides.
-/

namespace Rulebook

/-! ## Lists -/

section Places

variable {α : Type}

theorem forall₂_symm {R S : α → α → Prop} (symm : ∀ item other, R item other →
    S other item) {items others : List α} (each : List.Forall₂ R items others) :
    List.Forall₂ S others items :=
  .flip (each.imp symm)

theorem forall₂_trans {R S T : α → α → Prop}
    (compose : ∀ item other third, R item other → S other third → T item third)
    {items others thirds : List α} (first : List.Forall₂ R items others)
    (second : List.Forall₂ S others thirds) : List.Forall₂ T items thirds := by
  induction first generalizing thirds with
  | nil =>
      cases second
      exact .nil
  | cons here _ ih =>
      cases second with
      | cons there rest => exact .cons (compose _ _ _ here there) (ih rest)

end Places

/-! ## Numbers, decisions and operators -/

instance number_partialEquivBEq : PartialEquivBEq Float where
  symm {number other} equal := by
    rw [beq_eq_compare, beq_iff_eq] at equal ⊢
    unfold Float.Model.compare at *
    rw [compare_swap, equal]
    rfl
  trans {number other third} one another := by
    rw [beq_eq_compare, (compare_congr one third).1]
    exact another

/-- Only NaN differs from itself. -/
theorem number_beq_self_iff {number : Float} :
    (number == number) = true ↔ number.isNaN = false :=
  ⟨isNaN_of_beq, beq_self⟩

/-- A number that is compared in order is not NaN. -/
theorem isNaN_of_le {number other : Float} (le : number ≤ other) :
    number.isNaN = false ∧ other.isNaN = false := by
  rw [le_iff_compare] at le
  unfold Float.Model.compare at le
  change number.toModel.unpack.isNaN = false ∧ other.toModel.unpack.isNaN = false
  generalize number.toModel.unpack = first, other.toModel.unpack = second at le
  cases first with
  | notANumber => cases second <;> cases le
  | infinity sign | zero sign | finite sign =>
      cases second with
      | notANumber => cases sign <;> cases le
      | infinity | zero | finite => exact ⟨rfl, rfl⟩

namespace Decision

instance partialEquivBEq : PartialEquivBEq Decision where
  symm {decision other} equal := by
    obtain ⟨outline, numbers⟩ := (beq_iff decision other).mp equal
    exact (beq_iff other decision).mpr
      ⟨outline.symm, forall₂_symm (fun _ _ => BEq.symm) numbers⟩
  trans {decision other third} one another := by
    obtain ⟨outline, numbers⟩ := (beq_iff decision other).mp one
    obtain ⟨further, others⟩ := (beq_iff other third).mp another
    exact (beq_iff decision third).mpr ⟨outline.trans further,
      forall₂_trans (fun _ _ _ => BEq.trans) numbers others⟩

/-- A decision equals itself unless it holds NaN, at any depth. -/
theorem beq_self_iff {decision : Decision} :
    (decision == decision) = true ↔
      ∀ number ∈ decision.numbers, number.isNaN = false := by
  refine (beq_iff decision decision).trans ?_
  simp only [true_and, List.forall₂_same, number_beq_self_iff]

end Decision

instance NumericTest.partialEquivBEq : PartialEquivBEq NumericTest where
  symm {test other} equal := by
    cases test <;> cases other <;> try exact absurd equal Bool.false_ne_true
    case isNone.isNone => rfl
    case between.between =>
        change (_ && _) = true at equal
        change (_ && _) = true
        rw [Bool.and_eq_true] at equal ⊢
        exact ⟨BEq.symm equal.1, BEq.symm equal.2⟩
    all_goals
      exact BEq.symm (α := Float) equal
  trans {test other third} one another := by
    cases test <;> cases other <;> try exact absurd one Bool.false_ne_true
    all_goals
      cases third <;> try exact absurd another Bool.false_ne_true
    case isNone.isNone.isNone => rfl
    case between.between.between =>
        change (_ && _) = true at one another
        change (_ && _) = true
        rw [Bool.and_eq_true] at one another ⊢
        exact ⟨BEq.trans one.1 another.1, BEq.trans one.2 another.2⟩
    all_goals
      exact BEq.trans (α := Float) one another

namespace Operator

/-- What passes the check holds no NaN, so it equals itself. -/
theorem beq_self_of_valid {operator : Operator}
    (valid : operator.validate = .ok ()) : (operator == operator) = true := by
  obtain ⟨baselines, ranges⟩ := validate_eq_ok_iff.mp valid
  cases operator with
  | string test => exact beq_self_of_finite _ (by simp [AllFinite, numbers])
  | boolean test => exact beq_self_of_finite _ (by simp [AllFinite, numbers])
  | numeric test =>
      cases test with
      | isNone => rfl
      | between floor ceiling =>
          obtain ⟨one, other⟩ := isNaN_of_le (ranges floor ceiling rfl)
          change (floor == floor && ceiling == ceiling) = true
          rw [beq_self one, beq_self other]
          rfl
      | _ => exact beq_self (baselines _ _ rfl rfl)

instance partialEquivBEq : PartialEquivBEq Operator where
  symm {operator other} equal := by
    cases operator <;> cases other <;> try exact absurd equal Bool.false_ne_true
    case numeric.numeric => exact BEq.symm (α := NumericTest) equal
    case string.string test against =>
        obtain rfl : test = against := TextTest.eq_of_beq equal
        exact equal
    case boolean.boolean => exact BEq.symm (α := BooleanTest) equal
  trans {operator other third} one another := by
    cases operator <;> cases other <;> try exact absurd one Bool.false_ne_true
    all_goals
      cases third <;> try exact absurd another Bool.false_ne_true
    case numeric.numeric.numeric =>
        exact BEq.trans (α := NumericTest) one another
    case string.string.string test against last =>
        obtain rfl : test = against := TextTest.eq_of_beq one
        exact another
    case boolean.boolean.boolean =>
        exact BEq.trans (α := BooleanTest) one another

end Operator

/-- Profiles are equal only if they are the same. -/
theorem Profile.beq_iff {profile other : Profile} :
    (profile == other) = true ↔ profile = other := by
  constructor
  · intro equal
    obtain ⟨requirements, depth⟩ := profile
    obtain ⟨others, deep⟩ := other
    change (requirements == others && depth == deep) = true at equal
    rw [Bool.and_eq_true] at equal
    rw [NameMap.eq_of_beq equal.1, LawfulBEq.eq_of_beq equal.2]
  · rintro rfl
    exact profile.beq_self

/-- Tests that add the same to every profile make the same profile. -/
theorem Profile.ofLeaves_congr {leaves others : List Expression}
    (alike : List.Forall₂ (fun leaf other =>
      ∀ profile : Profile, profile.addLeaf leaf = profile.addLeaf other)
      leaves others) : ofLeaves leaves = ofLeaves others := by
  have collected (start : Profile) :
      leaves.foldlM addLeaf start = others.foldlM addLeaf start := by
    induction alike generalizing start with
    | nil => rfl
    | cons here _ ih =>
        rw [List.foldlM_cons, List.foldlM_cons, here]
        exact bind_congr fun profile => ih profile
  exact collected .initial

/-! ## Outlines -/

namespace Rule.SameOutline

variable {first second third : Rule}

theorem symm (same : first.SameOutline second) : second.SameOutline first := by
  cases same with
  | decision profile known rows =>
      refine .decision known profile (forall₂_symm ?_ rows)
      exact fun row other alike => ⟨alike.1.symm, BEq.symm alike.2⟩
  | score profile known sets =>
      refine .score known profile (forall₂_symm (fun set other alike => ?_) sets)
      refine ⟨forall₂_symm ?_ alike.1, BEq.symm alike.2⟩
      exact fun row other alike => ⟨alike.1.symm, BEq.symm alike.2⟩

theorem trans (one : first.SameOutline second)
    (other : second.SameOutline third) : first.SameOutline third := by
  cases one with
  | decision profile known rows =>
      cases other with
      | decision _ last others =>
          refine .decision profile last (forall₂_trans ?_ rows others)
          exact fun _ _ _ here there =>
            ⟨here.1.trans there.1, BEq.trans here.2 there.2⟩
  | score profile known sets =>
      cases other with
      | score _ last others =>
          refine .score profile last (forall₂_trans ?_ sets others)
          intro _ _ _ here there
          refine ⟨forall₂_trans ?_ here.1 there.1, BEq.trans here.2 there.2⟩
          exact fun _ _ _ here there =>
            ⟨here.1.trans there.1, BEq.trans here.2 there.2⟩

end Rule.SameOutline

/-! ## Tokens -/

namespace Token

variable {token other third : Token} {objects : Nat → Rule}

theorem beq_self (token : Token) : token.beq token = true := by
  cases token with
  | fact name kind => simp [beq]
  | rule label object kind rule => simp [beq]

/-- Equal tokens name the same fact, or under one label they embed one rule object
or equal rules. -/
theorem beq_cases (equal : token.beq other = true) :
    (∃ name kind, token = .fact name kind ∧ other = .fact name kind) ∨
      ∃ label object kind rule otherObject otherKind otherRule,
        token = .rule label object kind rule ∧
          other = .rule label otherObject otherKind otherRule ∧
            (object = otherObject ∨ rule.beq otherRule = true) := by
  cases token with
  | fact name kind =>
      cases other with
      | rule => simp [beq] at equal
      | fact otherName otherKind =>
          rw [beq, Bool.and_eq_true, beq_iff_eq, beq_iff_eq] at equal
          obtain ⟨rfl, rfl⟩ := equal
          exact .inl ⟨name, kind, rfl, rfl⟩
  | rule label object kind rule =>
      cases other with
      | fact => simp [beq] at equal
      | rule otherLabel otherObject otherKind otherRule =>
          rw [beq, Bool.and_eq_true, Bool.or_eq_true, beq_iff_eq,
            beq_iff_eq] at equal
          obtain ⟨rfl, embedded⟩ := equal
          exact .inr ⟨_, _, _, _, _, _, _, rfl, rfl, embedded⟩

theorem beq_rule_iff {label : String} {object otherObject : Nat}
    {kind otherKind : ValueKind} {rule otherRule : Rule} :
    (Token.rule label object kind rule).beq
        (.rule label otherObject otherKind otherRule) = true ↔
      object = otherObject ∨ rule.beq otherRule = true := by
  simp [beq]

theorem beq_symm
    (inside : ∀ label object kind rule, token = .rule label object kind rule →
      ∀ other : Rule, rule.beq other = true → other.beq rule = true)
    (equal : token.beq other = true) : other.beq token = true := by
  rcases beq_cases equal with
    ⟨name, kind, rfl, rfl⟩ | ⟨label, object, kind, rule, _, _, _, rfl, rfl, embedded⟩
  · exact equal
  · rw [beq_rule_iff]
    rcases embedded with shared | content
    · exact .inl shared.symm
    · exact .inr (inside label object kind rule rfl _ content)

theorem HeldBy.rule {label : String} {object : Nat} {kind : ValueKind} {rule : Rule}
    (held : HeldBy objects [.rule label object kind rule]) :
    objects object = rule ∧ HeldBy objects rule.tokens := by
  have own := List.mem_singleton_self (Token.rule label object kind rule)
  exact ⟨held _ _ _ _ (.among own),
    fun _ _ _ _ occurs => held _ _ _ _ (.within own occurs)⟩

theorem HeldBy.leaf {rule : Rule} (held : HeldBy objects rule.tokens)
    {leaf : Expression} (member : leaf ∈ rule.leaves) :
    HeldBy objects [leaf.token] := by
  refine held.mono fun token alone => ?_
  rw [List.mem_singleton.mp alone]
  exact List.mem_map_of_mem member

/-- A rule object that two tokens share is one rule, so it may take the place of a
comparison by content on either side. -/
theorem beq_trans (held : HeldBy objects [token]) (also : HeldBy objects [other])
    (last : HeldBy objects [third])
    (inside : ∀ label object kind rule, token = .rule label object kind rule →
      ∀ second third : Rule, HeldBy objects second.tokens →
        HeldBy objects third.tokens → rule.beq second = true →
          second.beq third = true → rule.beq third = true)
    (one : token.beq other = true) (another : other.beq third = true) :
    token.beq third = true := by
  rcases beq_cases one with
    ⟨name, kind, rfl, rfl⟩ |
      ⟨label, object, kind, rule, middle, _, between, rfl, rfl, embedded⟩
  · exact another
  · rcases beq_cases another with
      ⟨_, _, same, _⟩ | ⟨_, _, _, _, final, _, final', same, rfl, further⟩
    · cases same
    · cases same
      obtain ⟨here, _⟩ := held.rule
      obtain ⟨there, inner⟩ := also.rule
      obtain ⟨beyond, innermost⟩ := last.rule
      rw [beq_rule_iff]
      rcases embedded with shared | content
      · have same : rule = between := by rw [← here, shared, there]
        rw [shared, same]
        exact further
      -- The first rule was compared by content, so no number says what it is.
      · rcases further with shared | contents
        · have same : between = final' := by rw [← there, shared, beyond]
          rw [← same]
          exact .inr content
        · exact .inr (inside label object kind rule rfl _ _ inner innermost
            content contents)

/-- Equal tokens ask for the same facts and reach as deep. -/
theorem asks_of_beq (held : HeldBy objects [token])
    (also : HeldBy objects [other]) (equal : token.beq other = true) :
    token.requests = other.requests ∧ token.depth = other.depth := by
  rcases beq_cases equal with
    ⟨name, kind, rfl, rfl⟩ |
      ⟨label, object, kind, rule, _, _, otherRule, rfl, rfl, embedded⟩
  · exact ⟨rfl, rfl⟩
  · have recorded : rule.requirements = otherRule.requirements ∧
        rule.chainDepth = otherRule.chainDepth := by
      rcases embedded with shared | content
      · have same : rule = otherRule := by
          rw [← held.rule.1, shared, also.rule.1]
        rw [same]
        exact ⟨rfl, rfl⟩
      · exact Rule.profile_of_beq content
    rw [requests, requests, depth, depth, recorded.1, recorded.2]
    exact ⟨rfl, rfl⟩

end Token

/-! ## Rules -/

theorem Expression.beq_iff {first second : Expression} :
    first.beq second = true ↔
      first.token.beq second.token = true ∧
        (first.operator == second.operator) = true := by
  obtain ⟨token, operator⟩ := first
  obtain ⟨other, against⟩ := second
  rw [beq, Bool.and_eq_true]

namespace Rule

variable {first second third : Rule} {objects : Nat → Rule}

/-- Equality of rules is symmetric, by induction over the embedded rules. -/
theorem beq_symm (equal : first.beq second = true) :
    second.beq first = true := by
  induction first using Rule.embedding_induction generalizing second with
  | step first ih =>
      obtain ⟨outline, leaves, recorded⟩ := beq_iff.mp equal
      refine beq_iff.mpr ⟨outline.symm, ?_, ?_⟩
      · refine forall₂_symm (fun leaf other alike => ?_) (forall₂_mem leaves)
        obtain ⟨among, _, alike⟩ := alike
        obtain ⟨tokens, operators⟩ := Expression.beq_iff.mp alike
        refine Expression.beq_iff.mpr
          ⟨Token.beq_symm (fun label object kind rule same => ?_) tokens,
            BEq.symm operators⟩
        have own : Token.rule label object kind rule ∈ first.tokens :=
          List.mem_map.mpr ⟨leaf, among, same⟩
        exact fun other => ih label object kind rule own
      · rw [Profile.beq_iff] at recorded ⊢
        exact recorded.symm

/-- Equality of rules is transitive if one table holds their rule objects. -/
theorem beq_trans (held : Token.HeldBy objects first.tokens)
    (also : Token.HeldBy objects second.tokens)
    (last : Token.HeldBy objects third.tokens)
    (one : first.beq second = true) (another : second.beq third = true) :
    first.beq third = true := by
  induction first using Rule.embedding_induction generalizing second third with
  | step first ih =>
      obtain ⟨outline, leaves, recorded⟩ := beq_iff.mp one
      obtain ⟨further, others, known⟩ := beq_iff.mp another
      refine beq_iff.mpr ⟨outline.trans further, ?_, ?_⟩
      · refine forall₂_trans (fun leaf middle final here there => ?_)
          (forall₂_mem leaves) (forall₂_mem others)
        obtain ⟨among, _, here⟩ := here
        obtain ⟨between, ending, there⟩ := there
        obtain ⟨tokens, operators⟩ := Expression.beq_iff.mp here
        obtain ⟨moreTokens, moreOperators⟩ := Expression.beq_iff.mp there
        refine Expression.beq_iff.mpr ⟨?_, BEq.trans operators moreOperators⟩
        refine Token.beq_trans (held.leaf among) (also.leaf between)
          (last.leaf ending) ?_ tokens moreTokens
        intro label object kind rule same second third inner innermost
        have own : Token.rule label object kind rule ∈ first.tokens :=
          List.mem_map.mpr ⟨leaf, among, same⟩
        have inside := held.leaf among
        rw [same] at inside
        exact ih label object kind rule own inside.rule.2 inner innermost
      · rw [Profile.beq_iff] at recorded known ⊢
        exact recorded.trans known

/-- Rules with equal tests have the same profile. -/
theorem profile_eq_of_leaves (constructed : Item.Constructed (.rule first))
    (built : Item.Constructed (.rule second))
    (held : Token.HeldBy objects first.tokens)
    (also : Token.HeldBy objects second.tokens)
    (leaves : Expression.BeqAll first.leaves second.leaves) :
    first.profile = second.profile := by
  have same : Profile.ofLeaves first.leaves = Profile.ofLeaves second.leaves := by
    refine Profile.ofLeaves_congr ((forall₂_mem leaves).imp ?_)
    rintro leaf other ⟨among, between, alike⟩ profile
    obtain ⟨tokens, _⟩ := Expression.beq_iff.mp alike
    obtain ⟨requests, depth⟩ :=
      Token.asks_of_beq (held.leaf among) (also.leaf between) tokens
    rw [Profile.addLeaf, Profile.addLeaf, constructed.valid among,
      built.valid between, requests, depth]
  rw [constructed.profile, built.profile] at same
  exact Except.ok.inj same

/-- A comparison of rulesets decides whether decision rules are equal. -/
theorem decision_beq {one other : DecisionRule}
    (constructed : Item.Constructed (.rule (.decision one)))
    (built : Item.Constructed (.rule (.decision other)))
    (held : Token.HeldBy objects (Rule.decision one).tokens)
    (also : Token.HeldBy objects (Rule.decision other).tokens) :
    (Rule.decision one).beq (.decision other) =
      one.ruleset.beq other.ruleset := by
  obtain ⟨set, profile⟩ := one
  obtain ⟨against, known⟩ := other
  rw [beq, DecisionRule.beq, Bool.and_eq_left_iff_imp]
  intro equal
  rw [Profile.beq_iff]
  exact profile_eq_of_leaves constructed built held also
    (DecisionSet.beq_iff.mp equal).2

/-- A comparison of the lists of rulesets decides whether score rules are equal. -/
theorem score_beq {one other : ScoreRule}
    (constructed : Item.Constructed (.rule (.score one)))
    (built : Item.Constructed (.rule (.score other)))
    (held : Token.HeldBy objects (Rule.score one).tokens)
    (also : Token.HeldBy objects (Rule.score other).tokens) :
    (Rule.score one).beq (.score other) =
      ScoreSet.beqAll one.rulesets other.rulesets := by
  obtain ⟨sets, profile⟩ := one
  obtain ⟨others, known⟩ := other
  rw [beq, ScoreRule.beq, Bool.and_eq_left_iff_imp]
  intro equal
  rw [Profile.beq_iff]
  exact profile_eq_of_leaves constructed built held also
    (ScoreSet.beqAll_iff.mp equal).2

/-- What the rows of a rule conclude, unless they give scores. -/
def consequents : Rule → List Decision
  | .decision rule => rule.ruleset.rows.map (·.consequent)
  | .score _ => []

/-- The outline of a rule is its own unless a consequent holds NaN. -/
theorem sameOutline_self_iff {rule : Rule}
    (constructed : Item.Constructed (.rule rule)) :
    rule.SameOutline rule ↔ ∀ consequent ∈ rule.consequents,
      ∀ number ∈ consequent.numbers, number.isNaN = false := by
  cases rule with
  | decision rule =>
      obtain ⟨set, profile⟩ := rule
      simp only [consequents, List.forall_mem_map, ← Decision.beq_self_iff]
      constructor
      · rintro ⟨_, _, rows⟩
        exact fun row among => (List.forall₂_same.mp rows row among).2
      · intro equal
        exact .decision profile profile
          (List.forall₂_same.mpr fun row among => ⟨rfl, equal row among⟩)
  | score rule =>
      obtain ⟨sets, profile⟩ := rule
      have formed := constructed.wellFormed
      simp only [consequents, List.not_mem_nil, false_implies, implies_true,
        iff_true]
      refine .score profile profile (List.forall₂_same.mpr fun set among => ?_)
      constructor
      · refine List.forall₂_same.mpr fun row inside => ⟨rfl, ?_⟩
        exact number_beq_self (formed.scores set among row inside)
      · obtain ⟨low, high⟩ := formed.weights set among
        exact number_beq_self (isFinite_of_mem_unit low high)

/-- A constructed rule equals itself unless NaN is in its own consequents. -/
theorem beq_self_iff {rule : Rule}
    (constructed : Item.Constructed (.rule rule)) :
    rule.beq rule = true ↔ ∀ consequent ∈ rule.consequents,
      ∀ number ∈ consequent.numbers, number.isNaN = false := by
  have leaves : Expression.BeqAll rule.leaves rule.leaves := by
    refine List.forall₂_same.mpr fun leaf member => ?_
    exact Expression.beq_iff.mpr ⟨leaf.token.beq_self,
      Operator.beq_self_of_valid (constructed.valid member)⟩
  rw [beq_iff, sameOutline_self_iff constructed]
  simp only [leaves, Profile.beq_self, and_true]

end Rule

theorem ScoreSet.beqAll_eq_beq (sets others : List ScoreSet) :
    beqAll sets others = (sets == others) := by
  induction sets generalizing others with
  | nil => cases others <;> simp [beqAll]
  | cons set sets ih =>
      cases others with
      | nil => simp [beqAll]
      | cons other others =>
          rw [beqAll, List.cons_beq_cons, ih]
          rfl

namespace Rule

/-- Equality is a partial equivalence.  On tokens it is reflexive too, whatever an
embedded rule holds, and a rule equals itself unless NaN is in a consequent of its own
rows, at any depth.  What was recorded of the tests never decides: decision rules are
equal if their rulesets are, and score rules if their lists of rulesets are. -/
theorem equality_laws :
    (∀ token : Token, (token == token) = true) ∧
      (∀ first second : Token, (first == second) = (second == first)) ∧
      (∀ first second third : Token, Token.Coherent [first, second, third] →
        first == second → second == third → first == third) ∧
      (∀ first second : Rule, (first == second) = (second == first)) ∧
      (∀ first second third : Rule,
        Token.Coherent (first.tokens ++ (second.tokens ++ third.tokens)) →
          first == second → second == third → first == third) ∧
      (∀ rule : Rule, Item.Obtainable (.rule rule) →
        ((rule == rule) = true ↔ ∀ consequent ∈ rule.consequents,
          ∀ number ∈ consequent.numbers, number.isNaN = false)) ∧
      (∀ first second : DecisionRule, Item.Obtainable (.rule (.decision first)) →
        Item.Obtainable (.rule (.decision second)) →
          Token.Coherent
              ((Rule.decision first).tokens ++ (Rule.decision second).tokens) →
            (Rule.decision first == .decision second) =
              (first.ruleset == second.ruleset)) ∧
      ∀ first second : ScoreRule, Item.Obtainable (.rule (.score first)) →
        Item.Obtainable (.rule (.score second)) →
          Token.Coherent
              ((Rule.score first).tokens ++ (Rule.score second).tokens) →
            (Rule.score first == .score second) =
              (first.rulesets == second.rulesets) := by
  refine ⟨Token.beq_self, ?_, ?_, ?_, ?_, ?_, ?_, ?_⟩
  · have symm {first second : Token} (equal : first.beq second = true) :
        second.beq first = true :=
      Token.beq_symm (fun _ _ _ _ _ _ => beq_symm) equal
    exact fun first second => Bool.eq_iff_iff.mpr ⟨symm, symm⟩
  · intro first second third coherent one another
    obtain ⟨objects, held⟩ := coherent.exists_table
    have alone {token : Token} (among : token ∈ [first, second, third]) :
        Token.HeldBy objects [token] := by
      refine held.mono fun _ member => ?_
      rwa [List.mem_singleton.mp member]
    have heldFirst := alone List.mem_cons_self
    refine Token.beq_trans heldFirst (alone (by simp)) (alone (by simp)) ?_ one
      another
    rintro label object kind rule rfl second third
    exact beq_trans heldFirst.rule.2
  · exact fun first second => Bool.eq_iff_iff.mpr ⟨beq_symm, beq_symm⟩
  · intro first second third coherent one another
    obtain ⟨objects, held⟩ := coherent.exists_table
    have later := held.mono (List.subset_append_right _ _)
    exact beq_trans (held.mono (List.subset_append_left _ _))
      (later.mono (List.subset_append_left _ _))
      (later.mono (List.subset_append_right _ _)) one another
  · exact fun rule obtainable => beq_self_iff obtainable.constructed
  · intro first second obtainable obtained coherent
    obtain ⟨objects, held⟩ := coherent.exists_table
    exact decision_beq obtainable.constructed obtained.constructed
      (held.mono (List.subset_append_left _ _))
      (held.mono (List.subset_append_right _ _))
  · intro first second obtainable obtained coherent
    obtain ⟨objects, held⟩ := coherent.exists_table
    rw [← ScoreSet.beqAll_eq_beq]
    exact score_beq obtainable.constructed obtained.constructed
      (held.mono (List.subset_append_left _ _))
      (held.mono (List.subset_append_right _ _))

/-- Tokens that all embed one rule are coherent, if nothing is embedded in that
rule. -/
theorem coherent_of_flat (whole : Rule) {tokens : List Token}
    (flat : ∀ label object kind rule,
      ¬ (Token.rule label object kind rule).OccursIn whole.tokens)
    (among : ∀ token ∈ tokens, ∃ label object kind,
      token = .rule label object kind whole) : Token.Coherent tokens := by
  refine .of_only whole fun label object kind rule occurs => ?_
  cases occurs with
  | among member =>
      obtain ⟨_, _, _, same⟩ := among _ member
      cases same
      rfl
  | within member inside =>
      obtain ⟨_, _, _, same⟩ := among _ member
      cases same
      exact absurd inside (flat label object kind rule)

/-- A ratio that is not a number equals itself as a token, and the rule that
concludes it does not equal itself.  Rules that share it are equal, whichever zero
they conclude; under another number of the ratio the rulesets differ, and so do the
rules.  The sign may get any number, since its rule is compared by content.  The
rating equals itself as its rulesets do. -/
theorem equality_laws_zeroed :
    let ratio (object : Nat) : Token := .rule "ratio" object .numeric undefined
    let sign (object : Nat) : Token := .rule "sign" object .boolean positive
    (ratio 0 == ratio 0) = true ∧
      (sign 0 == sign 2) = true ∧
      (zeroed 0 0 == zeroed 0 0) = true ∧
      (zeroed 0 (-0.0) == zeroed 0 (-0.0)) = true ∧
      (undefined == undefined) = false ∧
      (zeroed 0 0 == zeroed 1 0) = false ∧
      (rated 0 == rated 0) = ((rated 0).scoreSets == (rated 0).scoreSets) := by
  intro ratio sign
  obtain ⟨reflexive, _, transitive, symmetric, across, itself, rulesets, sets⟩ :=
    equality_laws
  have own (object : Nat) (zero : Float) :
      (zeroed object zero).tokens = [ratio object] :=
    rfl
  have made (object : Nat) : Item.Obtainable (.rule (zeroed object 0)) :=
    .of_constructed (zeroed_constructed object)
  have other : (zeroed 0 0 == zeroed 0 (-0.0)) = true := by
    with_unfolding_all rfl
  have back : (zeroed 0 (-0.0) == zeroed 0 0) = true := by
    rw [symmetric, other]
  have ratios {tokens : List Token}
      (among : ∀ token ∈ tokens, token = ratio 0 ∨ token = ratio 1) :
      Token.Coherent tokens := by
    refine coherent_of_flat undefined
      (fun _ _ _ _ => Token.not_occursIn_nil) ?_
    intro token member
    rcases among token member with rfl | rfl
    · exact ⟨"ratio", 0, .numeric, rfl⟩
    · exact ⟨"ratio", 1, .numeric, rfl⟩
  refine ⟨reflexive _, transitive (sign 0) (sign 1) (sign 2) ?_ ?_ ?_,
    (itself _ (made 0)).mpr ?_, across _ _ _ (ratios ?_) back other,
    ?_, ?_, ?_⟩
  · refine coherent_of_flat positive ?_ ?_
    · intro _ _ _ _ occurs
      have one : positive.tokens = [.fact "level" .numeric] := rfl
      rw [one, Token.occursIn_fact] at occurs
      cases occurs
    · simp [sign]
  · with_unfolding_all rfl
  · with_unfolding_all rfl
  · have numbers : (zeroed 0 0).consequents = [.number 0] := rfl
    rw [numbers, List.forall_mem_singleton]
    exact List.forall_mem_singleton.mpr rfl
  · simp [own]
  · have constructed : Item.Constructed (.rule undefined) :=
      Item.constructed_decision_iff.mpr ⟨by nofun, rfl⟩
    rw [← Bool.not_eq_true, itself _ (.of_constructed constructed)]
    intro numbers
    have isNumber := numbers (.number (0 / 0)) List.mem_cons_self (0 / 0)
      (List.mem_singleton_self _)
    exact absurd isNumber (by decide)
  · have decided := rulesets _ _ (made 0) (made 1) (ratios ?_)
    · exact decided.trans (by with_unfolding_all rfl)
    · change ∀ token ∈ [ratio 0] ++ [ratio 1], _
      simp
  · have rating : Item.Obtainable (.rule (rated 0)) :=
      .of_constructed (rated_constructed 0)
    refine sets _ _ rating rating ((rated_coherent 0).mono ?_)
    exact List.append_subset.mpr ⟨List.Subset.refl _, List.Subset.refl _⟩

end Rule

end Rulebook
