import FormRules.Command.Directory
import FormRules.Main
import FormRules.Proofs.Field
import FormRules.Proofs.Dependency.Edges
import FormRules.Proofs.Dependency.Walk
import FormRules.Proofs.Dependency.Relation
import FormRules.Proofs.Number.Rounding
import FormRules.Proofs.Number.RoundTrip
import FormRules.Proofs.Formula.Grammar
import FormRules.Proofs.Formula.Parsing
import FormRules.Proofs.Formula.Refusal
import FormRules.Proofs.Formula.Lexing
import FormRules.Proofs.Formula.Reading
import FormRules.Proofs.Formula.Caching
import FormRules.Proofs.Formula.References
import FormRules.Proofs.Formula.Emptiness
import FormRules.Proofs.Formula.Brackets
import FormRules.Proofs.Formula.Evaluation
import FormRules.Proofs.Formula.Expansion
import FormRules.Proofs.Rules.Contents
import FormRules.Proofs.Rules.Configuration
import FormRules.Proofs.Rules.Cascade
import FormRules.Proofs.Rules.Propagation
import FormRules.Proofs.Rules.Cycles
import FormRules.Proofs.Rules.Effects
import FormRules.Proofs.Rules.Judgement
import FormRules.Proofs.Rules.Precedence
import FormRules.Proofs.Flow.Moves
import FormRules.Proofs.Flow.Run
import FormRules.Proofs.Flow.Invariant
import FormRules.Proofs.Rules.Independence
import FormRules.Proofs.Rules.Recheck
import FormRules.Proofs.Flow.Advance
import FormRules.Proofs.Flow.Completion
import FormRules.Proofs.Flow.Walkthrough
import FormRules.Proofs.Flow.Order
import FormRules.Proofs.Flow.Succession
import FormRules.Proofs.Flow.Repair
import FormRules.Proofs.Flow.Return
import FormRules.Proofs.Flow.Atomicity
import FormRules.Proofs.Flow.Account
import FormRules.Proofs.Json.RoundTrip
import FormRules.Proofs.Wire.RoundTrip
import FormRules.Proofs.Formula.Spacing
import FormRules.Proofs.Formula.Rendering
import FormRules.Proofs.Formula.ShortCircuit
import FormRules.Proofs.Formula.Comparing
import FormRules.Proofs.Formula.Renaming
import FormRules.Proofs.Formula.Composition
import FormRules.Proofs.Flow.Progress
import FormRules.Proofs.Number.Decimal96
import FormRules.Proofs.Display.Figures
import FormRules.Proofs.Display.Grouping
import FormRules.Proofs.Display.Sign
import FormRules.Proofs.Calendar.Days
import FormRules.Proofs.Calendar.Digits
import FormRules.Proofs.Calendar.Reading
import FormRules.Proofs.Calendar.Order
import FormRules.Proofs.Formula.Clock
import FormRules.Proofs.Formula.Checked
import FormRules.Proofs.Value
import FormRules.Proofs.Formula.Slicing
