import LatexTree.Command.Arguments
import LatexTree.Command.Run
import LatexTree.Comment
import LatexTree.Expectation
import LatexTree.Files
import LatexTree.Fixture
import LatexTree.Json.Fault
import LatexTree.Json.Reader
import LatexTree.Json.Record
import LatexTree.Json.Skip
import LatexTree.Json.Value
import LatexTree.Json.Writer
import LatexTree.Log
import LatexTree.Log.Directive
import LatexTree.Log.Filter
import LatexTree.Log.Pattern
import LatexTree.Log.Pattern.Reader
import LatexTree.Main
import LatexTree.Merge.Complete
import LatexTree.Merge.Leaf
import LatexTree.Merge.Placement
import LatexTree.Merge.Refusal
import LatexTree.Merge.Validity
import LatexTree.Node
import LatexTree.Node.Comments
import LatexTree.Node.Outline
import LatexTree.Node.Traversal
import LatexTree.Number.Binary64
import LatexTree.Number.Layout
import LatexTree.Number.RealValue
import LatexTree.Number.Shortest
import LatexTree.Pipeline
import LatexTree.Position
import LatexTree.Processor
import LatexTree.Session
import LatexTree.Settings.Config
import LatexTree.Settings.Environment
import LatexTree.Settings.Key
import LatexTree.Settings.Layer
import LatexTree.Settings.Value
import LatexTree.Source
import LatexTree.Span
import LatexTree.Text.Alphanumeric
import LatexTree.Text.Blank
import LatexTree.Text.Cased
import LatexTree.Text.CodeSet
import LatexTree.Text.Digits
import LatexTree.Text.Hidden
import LatexTree.Text.Lowercase
import LatexTree.Text.Quoted
import LatexTree.Text.Split
import LatexTree.Toml.Document
import LatexTree.Toml.Item
import LatexTree.Toml.Token
import LatexTree.Wire.Node
import LatexTree.Wire.Options
import LatexTree.Wire.Parsed
import LatexTree.Wire.Place
import LatexTree.Wire.Token
import LatexTree.Proofs.Geometry
import LatexTree.Proofs.Validity
import LatexTree.Proofs.Completion
import LatexTree.Proofs.Conservation
import LatexTree.Proofs.Clearance
import LatexTree.Proofs.Acceptance
import LatexTree.Proofs.Ancestry
import LatexTree.Proofs.Restoration
import LatexTree.Proofs.Batches
import LatexTree.Proofs.Commutation
import LatexTree.Proofs.DocumentOrder
import LatexTree.Proofs.SourceOrder
import LatexTree.Proofs.Numerals
import LatexTree.Proofs.Spelling
import LatexTree.Proofs.Recognition
import LatexTree.Proofs.Records
import LatexTree.Proofs.WireGrammar
import LatexTree.Proofs.TokenGrammar
import LatexTree.Proofs.Budget
import LatexTree.Proofs.RoundTrip
import LatexTree.Proofs.Postconditions
import LatexTree.Proofs.NormalForm
import LatexTree.Proofs.EndToEnd
import LatexTree.Proofs.Blame
import LatexTree.Proofs.Flattening
import LatexTree.Proofs.Overlay
import LatexTree.Proofs.PlainValues
import LatexTree.Proofs.Layering
import LatexTree.Proofs.FirstViolation
import LatexTree.Proofs.Slicing
import LatexTree.Proofs.Positions
import LatexTree.Proofs.Fixtures
import LatexTree.Proofs.Quotation
import LatexTree.Proofs.Outlines
import LatexTree.Proofs.EnvironmentTexts
import LatexTree.Proofs.PlacementLog
import LatexTree.Proofs.Stripping
import LatexTree.Proofs.CommentPaths
