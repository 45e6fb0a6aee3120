import Rulebook.Document.Decode
import Rulebook.Document.Encode
import Rulebook.Evaluation.Execute
import Rulebook.Proofs.Acceptance
import Rulebook.Proofs.Accounting
import Rulebook.Proofs.Bracketing
import Rulebook.Proofs.Building
import Rulebook.Proofs.CacheUpkeep
import Rulebook.Proofs.ChainDepth
import Rulebook.Proofs.Copies
import Rulebook.Proofs.EntryPoints
import Rulebook.Proofs.EqualRules
import Rulebook.Proofs.EqualityLaws
import Rulebook.Proofs.FirstDefect
import Rulebook.Proofs.Foresight
import Rulebook.Proofs.IntegerFacts
import Rulebook.Proofs.Introspection
import Rulebook.Proofs.RegroupedRules
import Rulebook.Proofs.Relevance
import Rulebook.Proofs.Reporting
import Rulebook.Proofs.RequiredFacts
import Rulebook.Proofs.RoundTrip
import Rulebook.Proofs.ScoreTotals
import Rulebook.Proofs.Shuffling
import Rulebook.Proofs.SingleRun
import Rulebook.Proofs.Substitution
import Rulebook.Proofs.Transparency
import Rulebook.Proofs.Unreached
import Rulebook.Rule.Equality
import Rulebook.Rule.Text
import Rulebook.Samples
import Rulebook.Session
