import TaskQuery.Main
import TaskQuery.Proofs.Query.Grammar
import TaskQuery.Proofs.Query.Moves
import TaskQuery.Proofs.Query.Reading
import TaskQuery.Proofs.Query.Completeness
import TaskQuery.Proofs.Query.Soundness
import TaskQuery.Proofs.Number.Numeral
import TaskQuery.Proofs.Query.Recognition
import TaskQuery.Proofs.Query.FieldCheck
import TaskQuery.Proofs.Entries
import TaskQuery.Proofs.Server.Conjuncts
import TaskQuery.Proofs.Server.Requests
import TaskQuery.Proofs.Server.Gathering
import TaskQuery.Proofs.Server.Filter
import TaskQuery.Proofs.Value.Order
import TaskQuery.Proofs.Server.StandardFilter
import TaskQuery.Proofs.Query.Lexicon
import TaskQuery.Proofs.Query.Tiling
import TaskQuery.Proofs.Server.Folding
import TaskQuery.Proofs.Value.Same
import TaskQuery.Proofs.Server.Verdict
import TaskQuery.Proofs.Number.Expansion
import TaskQuery.Proofs.Query.Spacing
import TaskQuery.Proofs.Query.Canonical
import TaskQuery.Proofs.Query.Printing
import TaskQuery.Proofs.Server.Outcome
import TaskQuery.Proofs.Settings.Acceptance
import TaskQuery.Proofs.Selector.Agreement
import TaskQuery.Proofs.Query.Boundary
import TaskQuery.Proofs.Query.Diagnostics
import TaskQuery.Proofs.Query.Spelling
import TaskQuery.Proofs.Query.Layout
import TaskQuery.Proofs.Selector.Layout
import TaskQuery.Proofs.Selector.Composition
import TaskQuery.Proofs.Text.Wildcard
import TaskQuery.Proofs.Text.EditDistance
import TaskQuery.Proofs.Selector.Footprint
import TaskQuery.Proofs.Query.Membership
import TaskQuery.Proofs.Query.Counterparts
import TaskQuery.Proofs.Query.Termination
import TaskQuery.Proofs.Query.Faults
import TaskQuery.Proofs.Query.FieldReport
import TaskQuery.Proofs.Text.NearMatch
import TaskQuery.Proofs.Json.Grammar
import TaskQuery.Proofs.Json.NumberText
import TaskQuery.Proofs.Json.Writing
import TaskQuery.Proofs.Json.OneLine
import TaskQuery.Proofs.Text.Width
import TaskQuery.Proofs.Console.Lines
import TaskQuery.Proofs.Console.PlainText
import TaskQuery.Proofs.Console.Table
import TaskQuery.Proofs.Command.Request
import TaskQuery.Proofs.Command.JsonOutput
import TaskQuery.Proofs.Command.PlainOutput
import TaskQuery.Proofs.Command.PlainErrors
import TaskQuery.Proofs.Command.TextOutput
import TaskQuery.Proofs.Query.Rescanning
import TaskQuery.Proofs.Server.CaseVariants
import TaskQuery.Proofs.Console.ControlSequence
import TaskQuery.Proofs.Json.Reading
import TaskQuery.Proofs.Json.Scalars
import TaskQuery.Proofs.Json.Documents
import TaskQuery.Proofs.Json.LineEnds
import TaskQuery.Proofs.Command.RecordsFile
import TaskQuery.Proofs.Command.FilterRun
