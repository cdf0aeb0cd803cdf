import FermRules.CommandLine.Arguments
import FermRules.CommandLine.Files
import FermRules.CommandLine.Run
import FermRules.Config.Layout
import FermRules.Config.Line
import FermRules.Domain
import FermRules.Dump.Context
import FermRules.Dump.Conversion
import FermRules.Dump.Event
import FermRules.Dump.Fault
import FermRules.Dump.Line
import FermRules.Dump.Step
import FermRules.Keyword.Basic
import FermRules.Keyword.Compact
import FermRules.Main
import FermRules.Proofs.Arrays
import FermRules.Proofs.ClauseText
import FermRules.Proofs.Continuing
import FermRules.Proofs.Effects
import FermRules.Proofs.Flatten
import FermRules.Proofs.Handling
import FermRules.Proofs.ImpliedModules
import FermRules.Proofs.Joining
import FermRules.Proofs.LegalOptimizing
import FermRules.Proofs.LegalReading
import FermRules.Proofs.Legality
import FermRules.Proofs.Legible
import FermRules.Proofs.Levels
import FermRules.Proofs.Lexing
import FermRules.Proofs.LineParts
import FermRules.Proofs.Lockstep
import FermRules.Proofs.Merging
import FermRules.Proofs.Moves
import FermRules.Proofs.Nesting
import FermRules.Proofs.OptimizeSetting
import FermRules.Proofs.OptimizedEffects
import FermRules.Proofs.Origin
import FermRules.Proofs.Outline
import FermRules.Proofs.Placement
import FermRules.Proofs.RuleText
import FermRules.Proofs.Scopes
import FermRules.Proofs.Skipping
import FermRules.Proofs.StandardKeywords
import FermRules.Proofs.Steps
import FermRules.Proofs.Taking
import FermRules.Proofs.TidyRules
import FermRules.Proofs.ValueFits
import FermRules.Proofs.ValueText
import FermRules.Proofs.Writable
import FermRules.Proofs.Written
import FermRules.Registry.Basic
import FermRules.Registry.Standard
import FermRules.Rule.Basic
import FermRules.Rule.Factor
import FermRules.Rule.Fault
import FermRules.Rule.Meaning
import FermRules.Rule.Merge
import FermRules.Rule.Printer
import FermRules.Rule.Reader
import FermRules.Rule.Reading
import FermRules.Rule.Value.Basic
import FermRules.Rule.Value.Describe
import FermRules.Rule.Value.Reader
import FermRules.Settings
import FermRules.Summary
import FermRules.Text.Blank
import FermRules.Text.CellWidth
import FermRules.Text.Console
import FermRules.Text.Digit
import FermRules.Text.Emoji
import FermRules.Text.Emoji.Flags
import FermRules.Text.Emoji.PictureTable
import FermRules.Text.Emoji.Pictures
import FermRules.Text.Lines
import FermRules.Text.LooseInteger
import FermRules.Text.Lowercase
import FermRules.Text.Markup
import FermRules.Text.Number
import FermRules.Text.Printable
import FermRules.Text.Quoted
import FermRules.Text.Ranges
import FermRules.Text.Utf8
import FermRules.Text.WordChar
import FermRules.Token.Basic
import FermRules.Token.Lexer
import FermRules.Token.Literal
import FermRules.Proofs.FatalLines
import FermRules.Proofs.Policies
import FermRules.Proofs.Concatenation
import FermRules.Proofs.FactorRuns
import FermRules.Proofs.MergeRuns
import FermRules.Proofs.Outcomes
import FermRules.Proofs.NormalForests
import FermRules.Proofs.Reports
import FermRules.Proofs.CompactNames
import FermRules.Proofs.SingleKeyword
import FermRules.Proofs.SingleKeywordText
import FermRules.Proofs.MergedForests
import FermRules.Proofs.Growing
import FermRules.Proofs.NegationMarks
import FermRules.Proofs.Conformity
import FermRules.Proofs.Truncation
import FermRules.Proofs.Tokenizing
import FermRules.Proofs.CompactSpelling
import FermRules.Proofs.ListSpellings
import FermRules.Proofs.Counters
