import ListenQuery.Main
import ListenQuery.Proofs.Command.Filter
import ListenQuery.Proofs.Config.Conjunction
import ListenQuery.Proofs.Filter.Build
import ListenQuery.Proofs.Command.Pipe
import ListenQuery.Proofs.Command.Output
import ListenQuery.Proofs.Number.Radix
import ListenQuery.Proofs.Filter.Evaluation
import ListenQuery.Proofs.Filter.Listed
import ListenQuery.Proofs.Json.Untyped
import ListenQuery.Proofs.Listen.Members
import ListenQuery.Proofs.Listen.Preserved
import ListenQuery.Proofs.Config.Set
import ListenQuery.Proofs.Listen.Edits
import ListenQuery.Proofs.Command.Mistakes
import ListenQuery.Proofs.Config.Text
import ListenQuery.Proofs.Config.File
import ListenQuery.Proofs.Command.ConfigSet
import ListenQuery.Proofs.Filter.TextOrder
import ListenQuery.Proofs.Config.Verify
import ListenQuery.Proofs.Time.Calendar
import ListenQuery.Proofs.Time.Text
import ListenQuery.Proofs.Command.Explain
import ListenQuery.Proofs.Command.ExitCode
import ListenQuery.Proofs.Expression.Display
import ListenQuery.Proofs.Filter.Bounds
import ListenQuery.Proofs.Filter.Operators
import ListenQuery.Proofs.Filter.Reordered
import ListenQuery.Proofs.Filter.Seen
import ListenQuery.Proofs.Filter.Edited
import ListenQuery.Proofs.Number.DecimalText
import ListenQuery.Proofs.Number.Monotone
import ListenQuery.Proofs.Number.Arithmetic
import ListenQuery.Proofs.Number.Grammar
import ListenQuery.Proofs.Number.Rational
import ListenQuery.Proofs.Json.NumberText
import ListenQuery.Proofs.Filter.NumberOrder
import ListenQuery.Proofs.Time.Days
import ListenQuery.Proofs.Time.Spellings
import ListenQuery.Proofs.Command.Shown
import ListenQuery.Proofs.Listen.LineByLine
import ListenQuery.Proofs.Filter.Leaves
