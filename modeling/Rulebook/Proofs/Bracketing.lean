import Rulebook.Proofs.Kinds

/-!
# The log is bracketed

What an execution writes to the log is a phrase of a small grammar.  The run of a
rule is the resolutions of its tokens, ruleset by ruleset, each followed by the
row that applied if one did, and then the end of the rule.  A resolution is the
reuse of an output, or the run of the embedded rule and the output of that run.
An execution that fails leaves a part of such a phrase, in which every rule that
came to its end has its resolution too.

`Phrase.Spells` is the grammar.  Where an evaluation reads tokens one after
another, it spells their resolutions (`Walk.Resolves`); rows, rulesets and ends of
rules are put together from that.
-/

namespace Rulebook

namespace Event

/-- Whether an event is written to the log. -/
def isWritten (event : Event) : Bool :=
  event.entry?.isSome

theorem isWritten_decisionExecuted (decision : Option Decision) :
    isWritten (.decisionExecuted decision) = true := by
  cases decision <;> rfl

/-- Whether an event tells of the end of a rule. -/
def isExecuted : Event → Bool
  | .decisionExecuted _ | .scoreExecuted _ _ => true
  | _ => false

/-- Whether an event tells of a run that resolved a token. -/
def isResolved : Event → Bool
  | .resolved _ _ _ => true
  | _ => false

/-- The events that are written to the log. -/
def written (events : List Event) : List Event :=
  events.filter isWritten

@[simp]
theorem written_append (first second : List Event) :
    written (first ++ second) = written first ++ written second :=
  List.filter_append first second

/-- As many rules come to their end as tokens are resolved by runs. -/
def Balances (events : List Event) : Prop :=
  events.countP isExecuted = events.countP isResolved

end Event

open Event

/-- The events that executing a rule writes to the log. -/
def Rule.log (rule : Rule) (facts : Facts) : List Event :=
  written (rule.trace facts)

/-- What a rule token resolves to after a run with an outcome.  Only no match is
missing. -/
inductive Outcome.Gives : Outcome → Option Resolved → Prop
  | decision {concluded : Decision} {value : Resolved} :
      concluded.resolved? = some value →
        Gives (.decision concluded) (some value)
  | noMatch : Gives .noMatch none
  | score (total : Float) : Gives (.score total) (some (.number total))

theorem Outcome.gives_of_kind {outcome : Outcome} {kind : ValueKind}
    (known : outcome = .noMatch ∨ outcome.value.kind = some kind) :
    outcome.Gives outcome.resolved? := by
  rcases known with rfl | known
  · exact .noMatch
  · cases outcome with
    | decision concluded =>
        cases concluded <;> cases known <;> exact .decision rfl
    | noMatch => exact .noMatch
    | score total => exact .score total

def ScoreSet.tokens (set : ScoreSet) : List Token :=
  set.leaves.map (·.token)

/-- The kinds of phrases in a log. -/
inductive Phrase where
  /-- Resolutions of some of the tokens. -/
  | resolutions (tokens : List Token)
  /-- What rulesets of scores add up to, from a total to a sum. -/
  | segments (rulesets : List ScoreSet) (total sum : Float)
  /-- The run of a rule with its outcome. -/
  | run (rule : Rule) (outcome : Outcome)

/-- The grammar of the log. -/
inductive Phrase.Spells : Phrase → List Event → Prop
  | nothing (tokens : List Token) : Spells (.resolutions tokens) []
  /-- A token reuses an output. -/
  | reused {tokens : List Token} {label : String} {object : Nat}
      {kind : ValueKind} {rule : Rule} (value : Option Resolved)
      {later : List Event} :
      Token.rule label object kind rule ∈ tokens →
        Spells (.resolutions tokens) later →
          Spells (.resolutions tokens) (.reused label object value :: later)
  /-- A token is resolved by a run of the rule that it embeds. -/
  | resolved {tokens : List Token} {label : String} {object : Nat}
      {kind : ValueKind} {rule : Rule} {outcome : Outcome}
      {value : Option Resolved} {inside later : List Event} :
      Token.rule label object kind rule ∈ tokens →
        Spells (.run rule outcome) inside →
          outcome.Gives value →
            Spells (.resolutions tokens) later →
              Spells (.resolutions tokens)
                (inside ++ .resolved label object value :: later)
  | finished (total : Float) : Spells (.segments [] total total) []
  /-- No row of the first ruleset applies. -/
  | unmatched {set : ScoreSet} {sets : List ScoreSet} {total sum : Float}
      {before later : List Event} :
      Spells (.resolutions set.tokens) before →
        Spells (.segments sets (total + 0) sum) later →
          Spells (.segments (set :: sets) total sum) (before ++ later)
  /-- A row of the first ruleset applies and adds its weighted score. -/
  | matched {set : ScoreSet} {sets : List ScoreSet} {total sum : Float}
      {place : Nat} {row : ScoreRow} {before later : List Event} :
      Spells (.resolutions set.tokens) before →
        set.rows[place]? = some row →
          Spells (.segments sets (total + row.score * set.weight) sum) later →
            Spells (.segments (set :: sets) total sum)
              (before ++ .scoreRowMatched place row.score set.weight :: later)
  /-- No row of a decision rule applies. -/
  | undecided {rule : DecisionRule} {before : List Event} :
      Spells (.resolutions (Rule.decision rule).tokens) before →
        Spells (.run (.decision rule) .noMatch)
          (before ++ [.decisionExecuted none])
  /-- A row of a decision rule applies, and its consequent is the outcome. -/
  | decided {rule : DecisionRule} {place : Nat} {row : DecisionRow}
      {before : List Event} :
      Spells (.resolutions (Rule.decision rule).tokens) before →
        rule.ruleset.rows[place]? = some row →
          Spells (.run (.decision rule) (.decision row.consequent))
            (before ++ [.decisionRowMatched place row.consequent,
              .decisionExecuted (some row.consequent)])
  /-- A score rule sums up its rulesets from zero. -/
  | scored {rule : ScoreRule} {sum : Float} {before : List Event} :
      Spells (.segments rule.rulesets 0 sum) before →
        Spells (.run (.score rule) (.score sum))
          (before ++ [.scoreExecuted sum rule.rulesets.length])

namespace Phrase

/-- One for the end of a rule that has no resolution of its own. -/
def ends : Phrase → Nat
  | run _ _ => 1
  | _ => 0

/-- In a phrase, each end of a rule has its resolution, the end of the run that
the phrase itself is apart. -/
theorem Spells.count {phrase : Phrase} {events : List Event}
    (spells : phrase.Spells events) :
    events.countP isExecuted = events.countP isResolved + phrase.ends := by
  induction spells with
  | nothing | finished => rfl
  | reused _ _ _ later => simpa [isExecuted, isResolved] using later
  | resolved _ _ _ _ inside later =>
      simp only [ends] at inside later
      simp [List.countP_cons, isExecuted, isResolved, ends, inside, later]
      omega
  | unmatched _ _ before later | matched _ _ _ before later =>
      simp only [ends] at before later
      simp [isExecuted, isResolved, ends, before, later]
  | undecided _ before | decided _ _ before | scored _ before =>
      simp only [ends] at before
      simp [isExecuted, isResolved, ends, before]

/-- A phrase may be broken off, but not between the end of a rule and its
resolution. -/
def BreaksOff (phrase : Phrase) (events : List Event) : Prop :=
  Balances events ∧ ∃ rest, phrase.Spells (events ++ rest)

/-! ## Putting phrases together -/

namespace Spells

variable {tokens : List Token} {before after : List Event}

theorem mono {more : List Token}
    (spells : (resolutions tokens).Spells before) (subset : tokens ⊆ more) :
    (resolutions more).Spells before := by
  generalize same : resolutions tokens = phrase at spells
  induction spells with
  | nothing => exact .nothing more
  | reused value member _ later =>
      cases same
      exact .reused value (subset member) (later rfl)
  | resolved member inside gives _ _ later =>
      cases same
      exact .resolved (subset member) inside gives (later rfl)
  | _ => cases same

theorem append (first : (resolutions tokens).Spells before)
    (second : (resolutions tokens).Spells after) :
    (resolutions tokens).Spells (before ++ after) := by
  generalize same : resolutions tokens = phrase at first
  induction first with
  | nothing =>
      cases same
      exact second
  | reused value member _ later =>
      cases same
      exact .reused value member (later rfl)
  | resolved member inside gives _ _ later =>
      cases same
      rw [List.append_assoc, List.cons_append]
      exact .resolved member inside gives (later rfl)
  | _ => cases same

/-- The resolutions of some tokens and then of more. -/
theorem join {more : List Token} (first : (resolutions tokens).Spells before)
    (second : (resolutions more).Spells after) :
    (resolutions (tokens ++ more)).Spells (before ++ after) :=
  (first.mono (List.subset_append_left tokens more)).append
    (second.mono (List.subset_append_right tokens more))

/-- If no row of any ruleset applies, nothing is written. -/
theorem segments_nil (sets : List ScoreSet) (total : Float) :
    ∃ sum, (segments sets total sum).Spells [] := by
  induction sets generalizing total with
  | nil => exact ⟨total, .finished total⟩
  | cons set sets ih =>
      obtain ⟨sum, later⟩ := ih (total + 0)
      exact ⟨sum, .unmatched (.nothing set.tokens) later⟩

theorem balances {events : List Event}
    (spells : (resolutions tokens).Spells events) : Balances events :=
  spells.count

end Spells

namespace BreaksOff

variable {inner outer : Phrase} {before events : List Event}

/-- What is broken off inside a phrase that can be completed is broken off. -/
theorem within (broken : inner.BreaksOff events)
    (completes : ∀ all, inner.Spells all → ∃ more, outer.Spells (all ++ more)) :
    outer.BreaksOff events := by
  obtain ⟨balanced, rest, spells⟩ := broken
  obtain ⟨more, whole⟩ := completes _ spells
  rw [List.append_assoc] at whole
  exact ⟨balanced, rest ++ more, whole⟩

/-- What is broken off after a complete part is broken off. -/
theorem later (broken : inner.BreaksOff events) (complete : Balances before)
    (joins : ∀ all, inner.Spells all → outer.Spells (before ++ all)) :
    outer.BreaksOff (before ++ events) := by
  obtain ⟨balanced, rest, spells⟩ := broken
  refine ⟨?_, rest, ?_⟩
  · rw [Balances, List.countP_append, List.countP_append, complete, balanced]
  · rw [List.append_assoc]
    exact joins _ spells

variable {tokens more : List Token}

theorem early (broken : (resolutions tokens).BreaksOff events) :
    (resolutions (tokens ++ more)).BreaksOff events := by
  refine broken.within fun all spells => ⟨[], ?_⟩
  rw [List.append_nil]
  exact spells.mono (List.subset_append_left tokens more)

theorem after (broken : (resolutions more).BreaksOff events)
    (complete : (resolutions tokens).Spells before) :
    (resolutions (tokens ++ more)).BreaksOff (before ++ events) :=
  broken.later complete.balances fun _ spells => complete.join spells

end BreaksOff

end Phrase

open Phrase

/-! ## What walks write -/

/-- From every cache, a walk that has a result writes what belongs to it, and a
walk that fails writes a part. -/
def Walk.Writes {α : Type} (walk : Walk α) (whole : α → List Event → Prop)
    (part : List Event → Prop) : Prop :=
  ∀ cache, match (walk cache).result with
    | .ok value => whole value (written (walk cache).events)
    | .error _ => part (written (walk cache).events)

/-- A walk writes resolutions of the tokens that it reads. -/
def Walk.Resolves (tokens : List Token) {α : Type} (walk : Walk α) : Prop :=
  walk.Writes (fun _ => (resolutions tokens).Spells)
    (resolutions tokens).BreaksOff

namespace Walk

variable {α β : Type} {facts : Facts}

theorem Writes.bind {first : Walk α} {next : α → Walk β}
    {whole : α → List Event → Prop} {part : List Event → Prop}
    {wholeNext : α → β → List Event → Prop}
    {partNext : α → List Event → Prop} {wholeBoth : β → List Event → Prop}
    {partBoth : List Event → Prop} (writes : first.Writes whole part)
    (writesNext : ∀ value, (next value).Writes (wholeNext value)
      (partNext value))
    (breaks : ∀ events, part events → partBoth events)
    (breaksLater : ∀ value before events, whole value before →
      partNext value events → partBoth (before ++ events))
    (joins : ∀ value last before events, whole value before →
      wholeNext value last events → wholeBoth last (before ++ events)) :
    (first >>= next).Writes wholeBoth partBoth := by
  intro cache
  have one := writes cache
  cases result : (first cache).result with
  | error defect =>
      rw [result] at one
      rw [bind_apply_of_error next result]
      exact breaks _ one
  | ok value =>
      rw [result] at one
      have other := writesNext value (first cache).cache
      rw [bind_apply_of_ok next result, written_append]
      dsimp only
      split
      · next last ended =>
          rw [ended] at other
          exact joins value last _ _ one other
      · next failed =>
          rw [failed] at other
          exact breaksLater value _ _ one other

/-- Resolutions follow one another in the order of the tokens. -/
theorem Resolves.graded :
    Graded fun tokens α (walk : Walk α) (_ : Walk α) =>
      Resolves tokens walk where
  pure := fun tokens _ _ => .nothing tokens
  bind := by
    intro α β before after one _ next _ first second
    exact first.bind second (fun _ broken => broken.early)
      (fun _ _ _ complete broken => broken.after complete)
      (fun _ _ _ _ complete spells => complete.join spells)

/-- Every test of a list writes a resolution of its token. -/
def ResolvesAll (facts : Facts) (leaves : List Expression) : Prop :=
  (Interpreter.cached facts).GradedAt (.cached facts)
    (fun tokens _ walk _ => Resolves tokens walk) leaves

/-- The phrase of a ruleset: the resolutions of its tokens and then the row that
was found. -/
def Found (tokens : List Token) {Row : Type} (rows : List Row)
    (matched : Nat → Row → Event) :
    Option (Nat × Row) → List Event → Prop
  | none, events => (resolutions tokens).Spells events
  | some (place, row), events =>
      ∃ before, (resolutions tokens).Spells before ∧
        rows[place]? = some row ∧ events = before ++ [matched place row]

theorem Found.after {first second : List Token} {Row : Type} {rows : List Row}
    {matched : Nat → Row → Event} {value : Option (Nat × Row)}
    {before events : List Event} (complete : (resolutions first).Spells before)
    (found : Found second rows matched value events) :
    Found (first ++ second) rows matched value (before ++ events) := by
  cases value with
  | none => exact complete.join found
  | some pair =>
      obtain ⟨inside, spells, there, rfl⟩ := found
      rw [← List.append_assoc]
      exact ⟨before ++ inside, complete.join spells, there, rfl⟩

/-- Searching rows writes the phrase of their ruleset, in which the places are
counted from the first row on. -/
theorem Writes.search {Row : Type} {antecedent : Row → Conditional}
    {matched : Nat → Row → Event}
    (shown : ∀ place row, (matched place row).isWritten = true)
    (earlier rows : List Row)
    (tests : ResolvesAll facts
      (rows.flatMap fun row => (antecedent row).leaves)) :
    ((Interpreter.cached facts).search antecedent matched earlier.length
        rows).Writes
      (Found ((rows.flatMap fun row => (antecedent row).leaves).map (·.token))
        (earlier ++ rows) matched)
      (resolutions ((rows.flatMap fun row =>
        (antecedent row).leaves).map (·.token))).BreaksOff := by
  induction rows generalizing earlier with
  | nil => exact fun cache => .nothing _
  | cons row rows ih =>
      rw [ResolvesAll, List.flatMap_cons, Graded.gradedAt_append] at tests
      rw [List.flatMap_cons, List.map_append, Interpreter.search]
      have first : Resolves ((antecedent row).leaves.map (·.token)) _ :=
        Resolves.graded.conditional (antecedent row) tests.1
      have later := ih (earlier ++ [row]) tests.2
      rw [List.length_append, List.append_assoc] at later
      have rest (applies : Bool) :
          (if applies = true then do
              (Interpreter.cached facts).log (matched earlier.length row)
              return some (earlier.length, row)
            else (Interpreter.cached facts).search antecedent matched
              (earlier.length + 1) rows).Writes
            (Found ((rows.flatMap fun row =>
              (antecedent row).leaves).map (·.token))
              (earlier ++ row :: rows) matched)
            (resolutions ((rows.flatMap fun row =>
              (antecedent row).leaves).map (·.token))).BreaksOff := by
        cases applies with
        | false => exact later
        | true =>
            intro cache
            refine ⟨[], .nothing _, by simp, ?_⟩
            exact List.filter_cons_of_pos (shown _ _)
      exact first.bind rest (fun _ broken => broken.early)
        (fun _ _ _ complete broken => broken.after complete)
        (fun _ _ _ _ complete found => found.after complete)

theorem Found.balances {tokens : List Token} {Row : Type} {rows : List Row}
    {matched : Nat → Row → Event} {value : Option (Nat × Row)}
    {events : List Event} (neither : ∀ place row, Balances [matched place row])
    (found : Found tokens rows matched value events) : Balances events := by
  cases value with
  | none => exact Spells.balances found
  | some pair =>
      obtain ⟨before, spells, _, rfl⟩ := found
      rw [Balances, List.countP_append, List.countP_append, spells.balances,
        neither]

theorem Found.segment {set : ScoreSet} {sets : List ScoreSet}
    {matched : Option (Nat × ScoreRow)} {total sum : Float}
    {before events : List Event}
    (found : Found set.tokens set.rows
      (fun place row => .scoreRowMatched place row.score set.weight) matched
      before)
    (later : (segments sets (total + set.contribution matched) sum).Spells
      events) :
    (segments (set :: sets) total sum).Spells (before ++ events) := by
  cases matched with
  | none => exact .unmatched found later
  | some pair =>
      obtain ⟨inside, spells, there, rfl⟩ := found
      rw [List.append_assoc]
      exact .matched spells there later

theorem Writes.scoreSet {set : ScoreSet}
    (tests : ResolvesAll facts set.leaves) :
    (set.interpret (.cached facts)).Writes
      (Found set.tokens set.rows
        fun place row => .scoreRowMatched place row.score set.weight)
      (resolutions set.tokens).BreaksOff := by
  rw [ScoreSet.interpret, ScoreRow.interpretAll_eq_search]
  exact .search (fun _ _ => rfl) [] set.rows tests

theorem Writes.segments (total : Float) {sets : List ScoreSet}
    (tests : ResolvesAll facts (sets.flatMap ScoreSet.leaves)) :
    (ScoreSet.interpretAll (.cached facts) total sets).Writes
      (fun sum => (segments sets total sum).Spells)
      (fun events => ∃ sum, (segments sets total sum).BreaksOff events) := by
  induction sets generalizing total with
  | nil => exact fun cache => .finished total
  | cons set sets ih =>
      rw [ResolvesAll, List.flatMap_cons, Graded.gradedAt_append] at tests
      rw [ScoreSet.interpretAll]
      refine (scoreSet tests.1).bind (fun matched => ih _ tests.2) ?_ ?_ ?_
      · intro events broken
        obtain ⟨sum, rest⟩ := Spells.segments_nil sets (total + 0)
        exact ⟨sum, broken.within fun all spells =>
          ⟨[], .unmatched spells rest⟩⟩
      · rintro matched before events found ⟨sum, broken⟩
        have neither (place : Nat) (row : ScoreRow) :
            Balances [.scoreRowMatched place row.score set.weight] :=
          rfl
        exact ⟨sum, broken.later (found.balances neither)
          fun _ spells => found.segment spells⟩
      · exact fun _ _ _ _ found spells => found.segment spells

theorem Found.decision {rule : DecisionRule}
    {matched : Option (Nat × DecisionRow)} {before : List Event}
    (found : Found (Rule.decision rule).tokens rule.ruleset.rows
      (fun place row => .decisionRowMatched place row.consequent) matched
      before) :
    (run (.decision rule)
        (.ofDecision? (matched.map fun found => found.2.consequent))).Spells
      (before ++
        [.decisionExecuted (matched.map fun found => found.2.consequent)]) := by
  cases matched with
  | none => exact .undecided found
  | some pair =>
      obtain ⟨inside, spells, there, rfl⟩ := found
      rw [List.append_assoc]
      exact .decided spells there

theorem Writes.decisionSet {set : DecisionSet}
    (tests : ResolvesAll facts set.leaves) :
    (set.interpret (.cached facts)).Writes
      (Found (set.leaves.map (·.token)) set.rows
        fun place row => .decisionRowMatched place row.consequent)
      (resolutions (set.leaves.map (·.token))).BreaksOff := by
  rw [DecisionSet.interpret, DecisionRow.interpretAll_eq_search]
  exact .search (fun _ _ => rfl) [] set.rows tests

/-- The end of a rule that is broken off may be a score or no match. -/
def RunBreaksOff (rule : Rule) (events : List Event) : Prop :=
  ∃ outcome value, outcome.Gives value ∧ (run rule outcome).BreaksOff events

theorem Writes.last {event : Event} (shown : event.isWritten = true)
    (value : α) :
    (do
      Walk.log event
      return value).Writes
      (fun result events => result = value ∧ events = [event])
      (fun _ => False) :=
  fun _ => ⟨rfl, List.filter_cons_of_pos shown⟩

/-- Running a rule writes a run with its outcome. -/
theorem Writes.rule {rule : Rule} (tests : ResolvesAll facts rule.leaves) :
    (rule.walk facts).Writes (fun outcome => (run rule outcome).Spells)
      (RunBreaksOff rule) := by
  rw [rule.walk_eq_interpret]
  cases rule with
  | decision rule =>
      simp only [Rule.interpret, DecisionRule.interpret, bind_assoc, pure_bind]
      refine (decisionSet tests).bind
        (fun _ => .last (isWritten_decisionExecuted _) _) ?_ ?_ ?_
      · intro events broken
        exact ⟨.noMatch, none, .noMatch,
          broken.within fun all spells => ⟨_, .undecided spells⟩⟩
      · exact fun _ _ _ _ absurd => absurd.elim
      · rintro matched _ before _ found ⟨rfl, rfl⟩
        exact found.decision
  | score rule =>
      simp only [Rule.interpret, ScoreRule.interpret, bind_assoc, pure_bind]
      refine (segments 0 tests).bind (fun _ => .last rfl _) ?_ ?_ ?_
      · rintro events ⟨sum, broken⟩
        exact ⟨.score sum, _, .score sum,
          broken.within fun all spells => ⟨_, .scored spells⟩⟩
      · exact fun _ _ _ _ absurd => absurd.elim
      · rintro sum _ before _ spells ⟨rfl, rfl⟩
        exact .scored spells

theorem Resolves.fact (name : String) (kind : ValueKind) :
    Resolves [.fact name kind] ((Token.fact name kind).walk facts) := by
  intro cache
  rw [Token.walk, ofExcept_apply]
  dsimp only
  split
  · exact .nothing _
  · exact ⟨rfl, [], .nothing _⟩

/-- A token that embeds a rule writes its resolution if running the rule writes a
run. -/
theorem Resolves.embed {label : String} {object : Nat} {kind : ValueKind}
    {rule : Rule} (output : rule.outputKind = some kind)
    (writes : (rule.walk facts).Writes
      (fun outcome => (run rule outcome).Spells) (RunBreaksOff rule)) :
    Resolves [.rule label object kind rule]
      ((Token.rule label object kind rule).walk facts) := by
  intro cache
  have own : Token.rule label object kind rule ∈
      [Token.rule label object kind rule] :=
    List.mem_singleton_self _
  have inside := writes cache
  rcases Token.walk_rule_cases label object kind rule cache with
    ⟨output, _, step⟩ | ⟨_, ⟨defect, failed, step⟩ | ⟨outcome, ended, step⟩⟩
  · rw [step]
    exact .reused output own (.nothing _)
  · rw [failed] at inside
    obtain ⟨outcome, value, gives, broken⟩ := inside
    rw [step]
    exact broken.within fun all spells =>
      ⟨[.resolved label object value],
        .resolved own spells gives (.nothing _)⟩
  · rw [ended] at inside
    have gives := Outcome.gives_of_kind (Rule.walk_kind output ended)
    rw [step]
    have shown : written (.started label object ::
        ((rule.walk facts cache).events ++
          [.resolved label object outcome.resolved?])) =
        written (rule.walk facts cache).events ++
          [.resolved label object outcome.resolved?] := by
      rw [← List.singleton_append, written_append, written_append]
      rfl
    dsimp only
    rw [shown]
    exact .resolved own inside gives (.nothing _)

end Walk

namespace Rule

/-- Running a constructed rule writes a run. -/
theorem writes_run {rule : Rule} (constructed : Item.Constructed (.rule rule))
    (facts : Facts) :
    (rule.walk facts).Writes (fun outcome => (run rule outcome).Spells)
      (Walk.RunBreaksOff rule) := by
  induction rule using Rule.embedding_induction with
  | step rule ih =>
      have token (token : Token) (own : token ∈ rule.tokens) :
          Walk.Resolves [token] (token.walk facts) := by
        cases token with
        | fact name kind => exact .fact name kind
        | rule label object kind embedded =>
            obtain ⟨whole, output, _⟩ :=
              Item.constructed_rule_iff.mp (constructed.token own)
            exact .embed output (ih _ _ _ _ own whole)
      refine .rule fun leaf member => ?_
      exact @Graded.test _ _ _ _ (.cached facts) (.cached facts) _
        Walk.Resolves.graded leaf (token _ (List.mem_map_of_mem member))

/-- What executing a rule writes to the log is bracketed.  If it succeeds, it
writes one run of the rule with its outcome.  If it fails, it writes a proper part
of such a run, from the start, in which each rule that came to its end has its
resolution. -/
theorem log_bracketed {rule : Rule} (obtainable : Item.Obtainable (.rule rule))
    (facts : Facts) :
    (∀ outcome, rule.execute facts = .ok outcome →
      (run rule outcome).Spells (rule.log facts)) ∧
      ∀ defect, rule.execute facts = .error defect →
        Balances (rule.log facts) ∧
          ∃ outcome rest, rest ≠ [] ∧
            (run rule outcome).Spells (rule.log facts ++ rest) := by
  have writes := rule.writes_run obtainable.constructed facts .empty
  constructor
  · intro outcome ended
    rw [show (rule.walk facts .empty).result = .ok outcome from ended] at writes
    exact writes
  · intro defect failed
    rw [show (rule.walk facts .empty).result = .error defect from failed]
      at writes
    obtain ⟨outcome, _, _, balanced, rest, spells⟩ := writes
    refine ⟨balanced, outcome, rest, ?_, spells⟩
    rintro rfl
    rw [List.append_nil] at spells
    have more := spells.count
    rw [balanced, ends] at more
    omega

/-- The rule that asks another one twice writes one run on a positive level, and
breaks it off on a level that is no number. -/
theorem log_bracketed_twice :
    let facts : Facts := .ofList [("level", .int 3)]
    let wrong : Facts := .ofList [("level", .text "high")]
    Item.Obtainable (.rule (.twice 0 0)) ∧
      (run (.twice 0 0) (.decision (.text "on"))).Spells
        ((twice 0 0).log facts) ∧
      ∃ outcome rest, rest ≠ [] ∧
        (run (.twice 0 0) outcome).Spells ((twice 0 0).log wrong ++ rest) := by
  intro facts wrong
  have obtainable : Item.Obtainable (.rule (.twice 0 0)) :=
    .of_constructed (twice_constructed 0 0)
  have ended : (twice 0 0).execute facts = .ok (.decision (.text "on")) := by
    with_unfolding_all rfl
  have failed : (twice 0 0).execute wrong =
      .error (.typeMismatch "level" .numeric .string) := by
    with_unfolding_all rfl
  exact ⟨obtainable, (log_bracketed obtainable facts).1 _ ended,
    ((log_bracketed obtainable wrong).2 _ failed).2⟩

end Rule

end Rulebook
