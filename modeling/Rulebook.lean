import Rulebook.Number.Binary64
import Rulebook.Number.Reading
import Rulebook.Number.Shortest
import Rulebook.Text.Case
import Rulebook.Text.Character
import Rulebook.Text.Name
import Rulebook.Text.NameTable
import Rulebook.Text.Quoted
import Rulebook.Value.Basic
import Rulebook.Value.Display
import Rulebook.Value.Equality
import Rulebook.Calendar.Date
import Rulebook.Calendar.Instant
import Rulebook.Calendar.IsoText
import Rulebook.Pattern.Basic
import Rulebook.Pattern.Match
import Rulebook.Pattern.Read
import Rulebook.Program.Basic
import Rulebook.Program.Path
import Rulebook.Program.Vocabulary
import Rulebook.Document.Canonical
import Rulebook.Document.Decoded
import Rulebook.Document.Json
import Rulebook.Document.Program
import Rulebook.Document.Reader
import Rulebook.Document.Written
import Rulebook.Report.Issue
import Rulebook.Check.Catalog
import Rulebook.Check.Error
import Rulebook.Check.Operand
import Rulebook.State.Store
import Rulebook.Report.Interruption
import Rulebook.Evaluate.Comparison
import Rulebook.Evaluate.Condition
import Rulebook.Evaluate.Constraint
import Rulebook.Evaluate.Trace
import Rulebook.Config.Logging
import Rulebook.Config.Settings
import Rulebook.Telemetry.Event
import Rulebook.Telemetry.Line
import Rulebook.Telemetry.Metrics
import Rulebook.Execute.Action
import Rulebook.Execute.Coverage
import Rulebook.Execute.Options
import Rulebook.Execute.Outcome
import Rulebook.Execute.Result
import Rulebook.Execute.Run
import Rulebook.Execute.Schedule
import Rulebook.Execute.Tracker
import Rulebook.Validate.Action
import Rulebook.Validate.Clash
import Rulebook.Validate.Condition
import Rulebook.Validate.Duplicate
import Rulebook.Validate.Verdict
import Rulebook.Validate.Wording
import Rulebook.Proofs.Number.Rounding
import Rulebook.Proofs.Value.Equality
import Rulebook.Proofs.Value.Display
import Rulebook.Proofs.Value.Parts
import Rulebook.Proofs.Number.Sum
import Rulebook.Proofs.Value.Document
import Rulebook.Proofs.State.Cells
import Rulebook.Proofs.State.Footprint
import Rulebook.Proofs.State.Path
import Rulebook.Proofs.State.Edits
import Rulebook.Proofs.State.Keyed
import Rulebook.Proofs.State.Respelt
import Rulebook.Proofs.State.Document
import Rulebook.Proofs.Evaluate.Footprint
import Rulebook.Proofs.Evaluate.Respelling
import Rulebook.Proofs.Check.Resolution
import Rulebook.Proofs.Check.Typing
import Rulebook.Proofs.State.Typed
import Rulebook.Proofs.Run.Course
import Rulebook.Proofs.Validate.Verdict
import Rulebook.Proofs.Validate.Clash
import Rulebook.Proofs.Run.Effect
import Rulebook.Proofs.Check.Agreement
import Rulebook.Proofs.Check.Units
import Rulebook.Proofs.Run.Firings
import Rulebook.Proofs.Run.Plain
import Rulebook.Proofs.Run.Termination
import Rulebook.Proofs.Run.Visited
import Rulebook.Proofs.Run.Keyed
import Rulebook.Proofs.Run.Accepted
import Rulebook.Proofs.Run.Typing
import Rulebook.Proofs.Run.Shape
import Rulebook.Proofs.Run.Journal
import Rulebook.Proofs.Run.Acted
import Rulebook.Proofs.Run.Conflicts
import Rulebook.Proofs.Run.Summary
import Rulebook.Proofs.Run.Interruption
import Rulebook.Proofs.Document.Reading
import Rulebook.Proofs.Validate.Operands
import Rulebook.Proofs.Evaluate.Sound
import Rulebook.Proofs.Validate.Honest
import Rulebook.Proofs.Validate.Sides
import Rulebook.Proofs.Run.Calm
import Rulebook.Proofs.Run.Context
import Rulebook.Proofs.Run.Passes
import Rulebook.Proofs.Run.Truncation
import Rulebook.Proofs.Run.Footprint
import Rulebook.Proofs.Run.Retelling
import Rulebook.Proofs.Run.History
import Rulebook.Proofs.Run.Independence
import Rulebook.Proofs.Run.Declaration
import Rulebook.Proofs.Validate.Reordered
import Rulebook.Proofs.Run.Fixpoint
import Rulebook.Proofs.Run.Route
import Rulebook.Proofs.Run.Dry
import Rulebook.Proofs.State.Reordered
import Rulebook.Proofs.Evaluate.Reordered
import Rulebook.Proofs.Run.Resemblance
import Rulebook.Proofs.Run.Reordered
import Rulebook.Proofs.Document.Restored
import Rulebook.Proofs.Document.Outcome
import Rulebook.Proofs.Document.Synonyms
import Rulebook.Proofs.Number.Decimal
import Rulebook.Proofs.Number.Text
import Rulebook.Proofs.Document.JsonText
import Rulebook.Proofs.Document.Canonical
import Rulebook.Proofs.Run.FirstMatch
import Rulebook.Proofs.Value.Coercion
import Rulebook.Proofs.Evaluate.Constraint
import Rulebook.Proofs.Run.Budget
import Rulebook.Proofs.Run.Success
import Rulebook.Proofs.Run.Expectation
import Rulebook.Proofs.State.Reading
import Rulebook.Proofs.Run.Change
import Rulebook.Proofs.Run.Refusal
import Rulebook.Proofs.Run.Prediction
import Rulebook.Proofs.Check.UnitVerdict
import Rulebook.Proofs.Value.Order
import Rulebook.Proofs.Evaluate.Shape
import Rulebook.Proofs.Evaluate.Absence
import Rulebook.Proofs.Evaluate.Membership
import Rulebook.Proofs.Check.UnitFlow
import Rulebook.Proofs.Run.Increments
import Rulebook.Proofs.Validate.Kinds
import Rulebook.Proofs.Validate.Coverage
import Rulebook.Proofs.Run.Addressing
import Rulebook.Proofs.Check.Declared
import Rulebook.Proofs.Validate.Repeated
import Rulebook.Proofs.Telemetry.Counts
import Rulebook.Proofs.Run.Measured
import Rulebook.Proofs.Validate.Balance
