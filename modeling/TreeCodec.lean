import TreeCodec.Code
import TreeCodec.CommandLine
import TreeCodec.Format
import TreeCodec.Grammar
import TreeCodec.Grammar.Reference
import TreeCodec.Json.Reader
import TreeCodec.Json.Writer
import TreeCodec.Main
import TreeCodec.Pattern.Expression
import TreeCodec.Rule
import TreeCodec.Rule.Session
import TreeCodec.Settings
import TreeCodec.Tree
import TreeCodec.Tree.Stack
import TreeCodec.Tree.Teardown
import TreeCodec.Proofs.Code.Bijection
import TreeCodec.Proofs.Code.Subtraction
import TreeCodec.Proofs.Code.Height
import TreeCodec.Proofs.Format.Drawing
import TreeCodec.Proofs.Grammar.Agreement
import TreeCodec.Proofs.Grammar.Predictive
import TreeCodec.Proofs.Format.ReadBack
import TreeCodec.Proofs.Rule.Algebra
import TreeCodec.Proofs.Pattern.Found
import TreeCodec.Proofs.Rule.Consumption
import TreeCodec.Proofs.Rule.Bound
import TreeCodec.Proofs.Rule.Building
import TreeCodec.Proofs.Rule.LifeCycle
import TreeCodec.Proofs.Rule.Shape
import TreeCodec.Proofs.Grammar.WrittenForm
import TreeCodec.Proofs.Grammar.Derivation
import TreeCodec.Proofs.Grammar.Spacing
import TreeCodec.Proofs.Grammar.Composition
import TreeCodec.Proofs.Grammar.Language
import TreeCodec.Proofs.CommandLine.Conversion
import TreeCodec.Proofs.CommandLine.Invocation
import TreeCodec.Proofs.CommandLine.Pipe
import TreeCodec.Proofs.CommandLine.StandardInput
import TreeCodec.Proofs.Settings.Layering
import TreeCodec.Proofs.Pattern.Anchored
import TreeCodec.Proofs.Grammar.Totality
import TreeCodec.Proofs.Grammar.Completion
import TreeCodec.Proofs.Grammar.Conservation
import TreeCodec.Proofs.Json.ReadBack
import TreeCodec.Proofs.Rule.Reduction
import TreeCodec.Proofs.Tree.Release
