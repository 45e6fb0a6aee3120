import Rulebook.Proofs.Deciding
import Rulebook.Proofs.EqualRules

/-!
# Reports account for outcomes

A report names, ruleset by ruleset, the first row that applies, and it says what the
ruleset added to the total.  The rulesets are searched with one cache, but a row that
is named applies on its own too, and the rows before it do not.

`Interpreter.search_cases` says what a search that comes to its end has looked at.
Everything else about a report follows ruleset by ruleset.
-/

namespace Rulebook

/-- A place names the first of some rows that applies, and no place is named only if
none of them does. -/
structure NamesFirst {Row : Type} (applies : Row → Except EvalError Bool)
    (rows : List Row) (named : Option Nat) : Prop where
  row : ∀ place, named = some place ↔
    ∃ row, rows[place]? = some row ∧ applies row = .ok true ∧
      ∀ lower < place, ∀ earlier, rows[lower]? = some earlier →
        applies earlier ≠ .ok true
  none : named = none ↔ ∀ row ∈ rows, applies row ≠ .ok true

/-- What is told of a ruleset of scores: the row that applies, the weight, and the
weighted score of the row or zero. -/
structure ScoreSet.AccountedFor (facts : Facts) (set : ScoreSet)
    (told : SetReport) : Prop where
  named : NamesFirst (·.applies facts) set.rows told.row?
  weight : told.weight? = some set.weight
  matched : ∀ place row, told.row? = some place →
    set.rows[place]? = some row →
      told.contribution? = some (row.score * set.weight)
  unmatched : told.row? = none → told.contribution? = some 0

/-- The report on a score rule tells of its rulesets in order, and the outcome is the
sum of what they added, from the first to the last. -/
structure ScoreRule.AccountedFor (facts : Facts) (rule : ScoreRule)
    (report : Report) : Prop where
  rulesets : List.Forall₂ (ScoreSet.AccountedFor facts) rule.rulesets
    report.rulesets
  total : ∃ contributions : List Float,
    report.rulesets.map SetReport.contribution? = contributions.map some ∧
      report.outcome = .score (contributions.foldl (· + ·) 0)

/-- The report on a decision rule tells of its one ruleset, and the outcome is what the
row concludes that it names. -/
structure DecisionRule.AccountedFor (facts : Facts) (rule : DecisionRule)
    (report : Report) : Prop where
  ruleset : ∃ named, report.rulesets = [.decision named] ∧
    NamesFirst (·.applies facts) rule.ruleset.rows named
  matched : ∀ place row, report.rulesets = [.decision (some place)] →
    rule.ruleset.rows[place]? = some row →
      report.outcome = .decision row.consequent
  noMatch : report.outcome = .noMatch ↔ report.rulesets = [.decision none]

def Rule.AccountedFor (facts : Facts) (report : Report) : Rule → Prop
  | .decision rule => rule.AccountedFor facts report
  | .score rule => rule.AccountedFor facts report

/-! ## Rulesets without a row -/

namespace Report

theorem unmatchedFrom_eq_map (place : Nat) (reports : List SetReport) :
    unmatchedFrom place reports =
      ((reports.zipIdx place).filter (·.1.row?.isNone)).map (·.2) := by
  induction reports generalizing place with
  | nil => rfl
  | cons report reports ih =>
      rw [unmatchedFrom, List.zipIdx_cons, ih]
      by_cases unnamed : report.row?.isNone <;> simp [unnamed]

theorem unmatched_increasing (report : Report) :
    report.unmatched.Pairwise (· < ·) := by
  have places : (report.rulesets.zipIdx.map (·.2)).Pairwise (· < ·) := by
    rw [List.zipIdx_map_snd]
    exact List.pairwise_lt_range'
  rw [unmatched, unmatchedFrom_eq_map]
  exact places.sublist (List.filter_sublist.map _)

theorem mem_unmatched {report : Report} {place : Nat} :
    place ∈ report.unmatched ↔
      ∃ told, report.rulesets[place]? = some told ∧ told.row? = none := by
  simp [unmatched, unmatchedFrom_eq_map, List.mk_mem_zipIdx_iff_getElem?]

end Report

/-! ## Searching for the first row -/

namespace NamesFirst

variable {Row : Type} {applies : Row → Except EvalError Bool}

theorem of_none {rows : List Row}
    (passed : ∀ row ∈ rows, applies row = .ok false) :
    NamesFirst applies rows Option.none := by
  have notTrue : ∀ row ∈ rows, applies row ≠ .ok true := by
    intro row member
    simp [passed row member]
  constructor
  · intro place
    constructor
    · simp
    · rintro ⟨row, there, holds, _⟩
      exact absurd holds (notTrue row (List.mem_of_getElem? there))
  · simp only [true_iff]
    exact notTrue

theorem of_first {before later : List Row} {row : Row}
    (passed : ∀ earlier ∈ before, applies earlier = .ok false)
    (holds : applies row = .ok true) :
    NamesFirst applies (before ++ row :: later) (some before.length) := by
  have notTrue : ∀ lower < before.length, ∀ earlier,
      (before ++ row :: later)[lower]? = some earlier →
        applies earlier ≠ .ok true := by
    intro lower inside earlier there
    rw [List.getElem?_append_left inside] at there
    simp [passed earlier (List.mem_of_getElem? there)]
  have there : (before ++ row :: later)[before.length]? = some row := by
    simp
  constructor
  · intro place
    simp only [Option.some.injEq]
    constructor
    · rintro rfl
      exact ⟨row, there, holds, notTrue⟩
    · rintro ⟨other, also, applied, lowest⟩
      by_contra differs
      rcases Nat.lt_or_gt_of_ne differs with below | above
      · exact lowest before.length below row there holds
      · exact notTrue place above other also applied
  · simp only [reduceCtorEq, false_iff, not_forall]
    exact ⟨row, by simp, not_not.mpr holds⟩

end NamesFirst

section Searching

variable {facts : Facts} {Row : Type} {antecedent : Row → Conditional}
  {matched : Nat → Row → Event} {applies : Row → Except EvalError Bool}

/-- A search that comes to its end has found that no row applies, or it stopped at the
first row that does. -/
theorem Interpreter.search_cases {rows : List Row} {place : Nat}
    {found : Option (Nat × Row)}
    (same : ∀ row ∈ rows,
      applies row = (antecedent row).interpret (.plain facts))
    (ended : (Interpreter.plain facts).search antecedent matched place rows =
      .ok found) :
    (found = none ∧ ∀ row ∈ rows, applies row = .ok false) ∨
      ∃ before row later, rows = before ++ row :: later ∧
        found = some (place + before.length, row) ∧ applies row = .ok true ∧
          ∀ earlier ∈ before, applies earlier = .ok false := by
  induction rows generalizing place with
  | nil =>
      cases ended
      exact .inl ⟨rfl, by simp⟩
  | cons row rows ih =>
      rw [List.forall_mem_cons] at same
      rw [search, ← same.1, bind_eq_ok_iff] at ended
      obtain ⟨holds, first, rest⟩ := ended
      cases holds with
      | true =>
          cases rest
          exact .inr ⟨[], row, rows, rfl, rfl, first, by simp⟩
      | false =>
          rcases ih same.2 rest with
            ⟨nothing, passed⟩ | ⟨before, other, later, rfl, rfl, applied, passed⟩
          · refine .inl ⟨nothing, ?_⟩
            exact List.forall_mem_cons.mpr ⟨first, passed⟩
          · refine .inr ⟨row :: before, other, later, rfl, ?_, applied, ?_⟩
            · simp only [List.length_cons]
              congr 2
              omega
            · exact List.forall_mem_cons.mpr ⟨first, passed⟩

/-- The place that a search finds names the first row that applies, and it is the row at
this place that was found. -/
theorem Interpreter.search_namesFirst {rows : List Row}
    {found : Option (Nat × Row)}
    (same : ∀ row ∈ rows,
      applies row = (antecedent row).interpret (.plain facts))
    (ended : (Interpreter.plain facts).search antecedent matched 0 rows =
      .ok found) :
    NamesFirst applies rows (found.map (·.1)) ∧
      ∀ place row, found.map (·.1) = some place → rows[place]? = some row →
        found = some (place, row) := by
  rcases search_cases same ended with
    ⟨rfl, passed⟩ | ⟨before, row, later, rfl, rfl, holds, passed⟩
  · exact ⟨.of_none passed, by simp⟩
  · rw [Nat.zero_add]
    refine ⟨.of_first passed holds, ?_⟩
    rintro place other ⟨⟩ there
    have stands : row = other := by simpa using there
    rw [stands]

end Searching

/-! ## Rulesets and rules -/

section Telling

variable {facts : Facts}

/-- A conditional that is evaluated on its own is read as without a cache. -/
theorem Conditional.evaluate_eq_interpret {conditional : Conditional}
    (coherent : Token.Coherent (conditional.leaves.map (·.token))) :
    conditional.evaluate facts = conditional.interpret (.plain facts) := by
  rw [evaluate_eq_meaning coherent, meaning_eq_interpret]

theorem ScoreSet.accountedFor {set : ScoreSet}
    (coherent : Token.Coherent (set.leaves.map (·.token)))
    {matched : Option (Nat × ScoreRow)}
    (ended : set.interpret (.plain facts) = .ok matched) :
    set.AccountedFor facts
      (.score (matched.map (·.1)) set.weight (set.contribution matched)) := by
  have same (row : ScoreRow) (member : row ∈ set.rows) :
      row.applies facts = row.antecedent.interpret (.plain facts) :=
    row.antecedent.evaluate_eq_interpret
      (coherent.mono (tokens_subset_flatMap (·.antecedent.leaves) member))
  rw [interpret, ScoreRow.interpretAll_eq_search] at ended
  obtain ⟨first, there⟩ := Interpreter.search_namesFirst same ended
  constructor
  · exact first
  · rfl
  · intro place row named stands
    rw [there place row named stands]
    rfl
  · intro unnamed
    cases matched with
    | none => rfl
    | some found => cases unnamed

theorem ScoreSet.interpretReports_accountedFor {sets : List ScoreSet}
    {total : Float} {told : Float × List SetReport}
    (coherent : Token.Coherent ((sets.flatMap leaves).map (·.token)))
    (ended : interpretReports (.plain facts) total sets = .ok told) :
    List.Forall₂ (AccountedFor facts) sets told.2 ∧
      ∃ contributions : List Float,
        told.2.map SetReport.contribution? = contributions.map some ∧
          told.1 = contributions.foldl (· + ·) total := by
  induction sets generalizing total told with
  | nil =>
      cases ended
      exact ⟨.nil, [], rfl, rfl⟩
  | cons set sets ih =>
      rw [List.flatMap_cons, List.map_append] at coherent
      have here := coherent.mono (List.subset_append_left _ _)
      have later := coherent.mono (List.subset_append_right _ _)
      rw [interpretReports, bind_eq_ok_iff] at ended
      obtain ⟨matched, first, ended⟩ := ended
      obtain ⟨rest, others, same⟩ := bind_eq_ok_iff.mp ended
      cases same
      obtain ⟨each, contributions, added, sum⟩ := ih later others
      refine ⟨.cons (set.accountedFor here first) each,
        set.contribution matched :: contributions, ?_, sum⟩
      rw [List.map_cons, List.map_cons, added]
      rfl

theorem ScoreRule.accountedFor {rule : ScoreRule} {report : Report}
    (coherent : Token.Coherent (Rule.score rule).tokens)
    (ended : (Rule.score rule).interpretReport (.plain facts) = .ok report) :
    rule.AccountedFor facts report := by
  obtain ⟨told, reports, same⟩ := bind_eq_ok_iff.mp ended
  cases same
  obtain ⟨each, contributions, added, sum⟩ :=
    ScoreSet.interpretReports_accountedFor coherent reports
  exact ⟨each, contributions, added, congrArg Outcome.score sum⟩

theorem DecisionRule.accountedFor {rule : DecisionRule} {report : Report}
    (coherent : Token.Coherent (Rule.decision rule).tokens)
    (ended : (Rule.decision rule).interpretReport (.plain facts) =
      .ok report) :
    rule.AccountedFor facts report := by
  have same (row : DecisionRow) (member : row ∈ rule.ruleset.rows) :
      row.applies facts = row.antecedent.interpret (.plain facts) :=
    row.antecedent.evaluate_eq_interpret
      (coherent.mono (tokens_subset_flatMap (·.antecedent.leaves) member))
  rw [Rule.interpretReport] at ended
  obtain ⟨matched, search, told⟩ := bind_eq_ok_iff.mp ended
  cases told
  rw [DecisionSet.interpret, DecisionRow.interpretAll_eq_search] at search
  obtain ⟨first, there⟩ := Interpreter.search_namesFirst same search
  constructor
  · exact ⟨_, rfl, first⟩
  · rintro place row named stands
    simp only [List.cons.injEq, SetReport.decision.injEq, and_true] at named
    rw [there place row named stands]
    rfl
  · cases matched <;> simp [Outcome.ofDecision?]

end Telling

namespace Rule

/-- A report accounts for its outcome.  It tells of each ruleset in order, it names the
first row that applies and what that row adds or concludes, and the outcome is made of
this and nothing else.  The rulesets without a row are listed in increasing order. -/
theorem report_accounts {rule : Rule} (coherent : Token.Coherent rule.tokens)
    {facts : Facts} {report : Report}
    (reported : rule.executeDetailed facts = .ok report) :
    rule.AccountedFor facts report ∧
      report.unmatched.Pairwise (· < ·) ∧
      ∀ place, place ∈ report.unmatched ↔
        ∃ told, report.rulesets[place]? = some told ∧ told.row? = none := by
  rw [executeDetailed_eq_interpretReport coherent] at reported
  refine ⟨?_, report.unmatched_increasing, fun _ => Report.mem_unmatched⟩
  cases rule with
  | decision rule => exact DecisionRule.accountedFor coherent reported
  | score rule => exact ScoreRule.accountedFor coherent reported

/-- A level of seven is positive, but it is not in range: the second ruleset adds
nothing. -/
theorem report_accounts_rated :
    let facts : Facts := .ofList [("level", .int 7)]
    ∃ report, (rated 0).executeDetailed facts = .ok report ∧
      report.outcome = .score (0 + 80 * 0.6 + 0) ∧
      report.rulesets.map SetReport.row? = [some 0, none] ∧
      report.unmatched = [1] ∧
      (rated 0).AccountedFor facts report := by
  intro facts
  have reported : (rated 0).executeDetailed facts =
      .ok ⟨.score (0 + 80 * 0.6 + 0),
        [.score (some 0) 0.6 (80 * 0.6), .score none 0.4 0]⟩ := by
    with_unfolding_all rfl
  exact ⟨_, reported, rfl, rfl, rfl,
    (report_accounts (rated_coherent 0) reported).1⟩

end Rule

end Rulebook
