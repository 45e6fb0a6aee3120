import Rulebook.Document.Encode
import Rulebook.Evaluation.Execute
import Rulebook.Rule.Checked
import Rulebook.Rule.Text

/-!
# Sample rules

Five small programs that put rules together, evaluate them and print what comes
out.  Each of them is the list of the lines that it prints; a defect of the
facts is not printed.  They show a decision rule, a score rule over several
applicants, a rule inside another rule, a report, and one rule evaluated against
several facts.
-/

namespace Rulebook

namespace Samples

/-- The lines that a sample prints. -/
abbrev Lines : Type :=
  Except ConfigError (List String)

def allOf (tests : List Expression) : Conditional :=
  ⟨.all, tests.map .test⟩

def anyOf (tests : List Expression) : Conditional :=
  ⟨.any, tests.map .test⟩

def numeric (name : String) (test : NumericTest) : Expression :=
  .onFact name (.numeric test)

def oneOf (name : String) (members : List String) : Expression :=
  .onFact name (.isIn members)

def boolean (name : String) (expected : Bool) : Expression :=
  .onFact name (.boolean (.is expected))

def wholeFacts (entries : List (String × Int64)) : Facts :=
  NameMap.ofList (entries.map fun entry => (entry.1, .int entry.2))

def bracketed (texts : List String) : String :=
  "[" ++ ", ".intercalate texts ++ "]"

def listed (requirements : Requirements) : String :=
  let entries := requirements.entries.map fun entry =>
    Quoting.quoted entry.1 ++ ": " ++ entry.2.tag
  "\x7b" ++ ", ".intercalate entries ++ "\x7d"

def optional : Option String → String
  | some text => "Some(" ++ text ++ ")"
  | none => "None"

/-- An error of an evaluation, printed for inspection. -/
def described : EvalError → String
  | .typeMismatch fact expected found =>
      "TypeMismatch \x7b fact: " ++ Quoting.quoted fact ++ ", expected: " ++
        expected.tag ++ ", found: " ++ found.tag ++ " \x7d"

/-- The result of executing a rule, printed for inspection. -/
def inspected : Except EvalError Outcome → String
  | .ok .noMatch => "Ok(NoMatch)"
  | .ok (.score total) => "Ok(Score(" ++ Decimal.marked total ++ "))"
  | .ok (.decision decision) => "Ok(Decision(" ++ decision.describe ++ "))"
  | .error defect => "Err(" ++ described defect ++ ")"

/-- A decision about an applicant. -/
def basic : Lines := do
  let ruleset : DecisionSet :=
    ⟨[⟨allOf [numeric "age" (.lt 18)], .text "REJECT"⟩,
      ⟨allOf [boolean "salaried" true,
        oneOf "city" ["Pune", "Mumbai", "Bengaluru"]], .text "GO"⟩]⟩
  let rule ← DecisionRule.make ruleset
  let facts : Facts :=
    NameMap.ofList
      [("age", .int 32), ("salaried", .boolean true), ("city", .text "Pune")]
  let result :=
    match rule.execute facts with
    | .ok (some decision) => ["Result: " ++ decision.render]
    | .ok none => ["No row matched."]
    | .error _ => []
  return [rule.ruleset.render,
    "Required facts: " ++ listed rule.profile.requirements] ++ result

/-- A decision that depends on the score of another rule. -/
def chaining : Lines := do
  let range ← Operator.between 650 800
  let scores ← ScoreSet.ofPairs
    [(allOf [numeric "cibil_score" (.lt 650)], 0),
      (allOf [.onFact "cibil_score" range], 100)] 1
  let scoreRule ← ScoreRule.make [scores]
  let token ← Token.embed "cibil_rule" ⟨0, .score scoreRule⟩
  let gate ← Expression.make token (.numeric (.gt 0))
  let rule ← DecisionRule.make
    ⟨[⟨allOf [gate, oneOf "pet" ["dog", "cat"]], .text "GO"⟩]⟩
  let results := ([350, 725] : List Int64).flatMap fun score =>
    let facts : Facts :=
      NameMap.ofList [("cibil_score", .int score), ("pet", .text "dog")]
    let label := "cibil_score " ++ toString score.toInt ++ ": "
    match rule.execute facts with
    | .ok (some decision) => [label ++ decision.render]
    | .ok none => [label ++ "no decision"]
    | .error _ => []
  return ("Caller must supply: " ++ listed rule.profile.requirements) :: results

/-- A report on a score, in one ruleset of which no row applies. -/
def detailedReport : Lines := do
  let income ← ScoreSet.ofPairs
    [(allOf [numeric "monthly_income" (.gte 100000)], 100),
      (allOf [numeric "monthly_income" (.gte 40000)], 60),
      (allOf [numeric "monthly_income" (.gte 0)], 20)] 0.6
  let city ← ScoreSet.ofPairs
    [(allOf [oneOf "city" ["Pune", "Mumbai"]], 80)] 0.4
  let rule ← ScoreRule.make [income, city]
  let facts : Facts :=
    NameMap.ofList [("monthly_income", .int 55000), ("city", .text "Nagpur")]
  match (Rule.score rule).executeDetailed facts with
  | .error _ => return []
  | .ok report =>
      let sets := report.rulesets.zipIdx.map fun (set, place) =>
        "ruleset " ++ toString place ++
          ": row " ++ optional (set.row?.map toString) ++
          ", weight " ++ optional (set.weight?.map Decimal.marked) ++
          ", contribution " ++ optional (set.contribution?.map Decimal.marked)
      return [report.render, ""] ++ sets ++
        ["Rulesets with no matching row: " ++
          bracketed (report.unmatched.map toString)]

/-- The scores of three applicants. -/
def loanScore : Lines := do
  let running := "no_of_running_bl_pl"
  let drawn := "last_loan_drawn_in_months"
  let runningLoans ← ScoreSet.ofPairs
    [(allOf [numeric running (.gte 7)], -100),
      (allOf [numeric running (.gte 4)], -40),
      (allOf [numeric running (.gte 2)], 30),
      (allOf [numeric running (.gte 0)], 100)] 0.5
  let lastLoanDrawn ← ScoreSet.ofPairs
    [(allOf [numeric drawn (.eq 0)], 30),
      (allOf [numeric drawn (.lt 3)], -30),
      (allOf [numeric drawn (.lte 12)], 40),
      (allOf [numeric drawn (.gt 12)], 100)] 0.5
  let rule ← ScoreRule.make [runningLoans, lastLoanDrawn]
  let last := wholeFacts [(running, 0)]
  let applicants : List (String × Facts) :=
    [("two loans, drawn 6 months ago",
        wholeFacts [(running, 2), (drawn, 6)]),
      ("eight loans, drawn last month",
        wholeFacts [(running, 8), (drawn, 1)]),
      ("no loan history", last)]
  let results := applicants.flatMap fun (label, facts) =>
    match rule.execute facts with
    | .ok total => [label ++ ": " ++ Decimal.plain total]
    | .error _ => []
  let missing := (rule.profile.requirements.missing last).map Quoting.quoted
  return results ++
    ["Facts missing for the last applicant: " ++ bracketed missing]

/-- One rule evaluated against four facts, each by a thread of its own. -/
def multithreaded : Lines := do
  let ruleset : DecisionSet :=
    ⟨[⟨allOf [numeric "age" (.gte 18), boolean "kyc_done" true], .text "GO"⟩,
      ⟨anyOf [numeric "age" (.lt 18)], .text "MINOR"⟩]⟩
  let rule ← DecisionRule.make ruleset
  return (List.range 4).map fun thread =>
    let facts : Facts :=
      NameMap.ofList
        [("age", .int (16 + Int64.ofNat thread)),
          ("kyc_done", .boolean (thread % 2 = 0))]
    "Thread " ++ toString thread ++ ": " ++
      inspected ((Rule.decision rule).execute facts)

/-- The samples by name. -/
def named : List (String × Lines) :=
  [("basic", basic), ("chaining", chaining),
    ("detailed_report", detailedReport), ("loan_score", loanScore),
    ("multithreaded", multithreaded)]

/-- The lines of the sample of a name. -/
def lines? (name : String) : Option (List String) :=
  (named.lookup name).bind Except.toOption

end Samples

end Rulebook
