import SlotTemplate.Argument.Lexer
import SlotTemplate.Argument.Token
import SlotTemplate.Command
import SlotTemplate.Command.Run
import SlotTemplate.Component
import SlotTemplate.Component.Stock
import SlotTemplate.Decimal.Binary64
import SlotTemplate.Decimal.Reader
import SlotTemplate.Decimal.Shortest
import SlotTemplate.Dict
import SlotTemplate.Engine
import SlotTemplate.Error
import SlotTemplate.Expr
import SlotTemplate.Expr.Eval
import SlotTemplate.Expr.Grammar
import SlotTemplate.Files
import SlotTemplate.Json
import SlotTemplate.Json.Number
import SlotTemplate.Json.Reader
import SlotTemplate.Library
import SlotTemplate.Main
import SlotTemplate.Manifest
import SlotTemplate.Manifest.Reader
import SlotTemplate.Markup.Lexeme
import SlotTemplate.Markup.Lexer
import SlotTemplate.Node
import SlotTemplate.Parser
import SlotTemplate.Proofs.Argument.Acceptance
import SlotTemplate.Proofs.Argument.Beginnings
import SlotTemplate.Proofs.Argument.Blame
import SlotTemplate.Proofs.Argument.Checks
import SlotTemplate.Proofs.Argument.Continuation
import SlotTemplate.Proofs.Argument.Extension
import SlotTemplate.Proofs.Argument.Forms
import SlotTemplate.Proofs.Argument.Fragments
import SlotTemplate.Proofs.Argument.Keys
import SlotTemplate.Proofs.Argument.Lookups
import SlotTemplate.Proofs.Argument.Order
import SlotTemplate.Proofs.Argument.Places
import SlotTemplate.Proofs.Argument.Recognition
import SlotTemplate.Proofs.Argument.Relocation
import SlotTemplate.Proofs.Argument.Steps
import SlotTemplate.Proofs.Argument.Tiling
import SlotTemplate.Proofs.Blame
import SlotTemplate.Proofs.Components
import SlotTemplate.Proofs.Derivation
import SlotTemplate.Proofs.Derivation.Arrival
import SlotTemplate.Proofs.Derivation.Awaited
import SlotTemplate.Proofs.Derivation.Calls
import SlotTemplate.Proofs.Derivation.Concatenation
import SlotTemplate.Proofs.Derivation.Exchange
import SlotTemplate.Proofs.Derivation.Expansion
import SlotTemplate.Proofs.Derivation.Failing
import SlotTemplate.Proofs.Derivation.Parsing
import SlotTemplate.Proofs.Derivation.Resolution
import SlotTemplate.Proofs.Derivation.Restatement
import SlotTemplate.Proofs.Derivation.SafeMarks
import SlotTemplate.Proofs.Derivation.SlotTags
import SlotTemplate.Proofs.Dict
import SlotTemplate.Proofs.FreeNames
import SlotTemplate.Proofs.Interchange
import SlotTemplate.Proofs.Json
import SlotTemplate.Proofs.Loading
import SlotTemplate.Proofs.Markup.Concatenation
import SlotTemplate.Proofs.Markup.Places
import SlotTemplate.Proofs.Markup.Replacement
import SlotTemplate.Proofs.Markup.Resumption
import SlotTemplate.Proofs.Markup.SafeMarks
import SlotTemplate.Proofs.Markup.Scan
import SlotTemplate.Proofs.Markup.Words
import SlotTemplate.Proofs.Navigation
import SlotTemplate.Proofs.Numeral
import SlotTemplate.Proofs.Paths
import SlotTemplate.Proofs.Printing
import SlotTemplate.Proofs.Printing.Grammar
import SlotTemplate.Proofs.Printing.Lexing
import SlotTemplate.Proofs.Printing.Markup
import SlotTemplate.Proofs.Printing.Pieces
import SlotTemplate.Proofs.Printing.RoundTrip
import SlotTemplate.Proofs.Printing.Slots
import SlotTemplate.Proofs.Printing.Spelling
import SlotTemplate.Proofs.Printing.Tags
import SlotTemplate.Proofs.Registration
import SlotTemplate.Proofs.Registration.Invocation
import SlotTemplate.Proofs.Registration.Replacement
import SlotTemplate.Proofs.Relocation
import SlotTemplate.Proofs.Rendering
import SlotTemplate.Proofs.Rendering.Attribution
import SlotTemplate.Proofs.Rendering.Caching
import SlotTemplate.Proofs.Rendering.Clean
import SlotTemplate.Proofs.Rendering.Concatenation
import SlotTemplate.Proofs.Rendering.Depth
import SlotTemplate.Proofs.Rendering.Escaping
import SlotTemplate.Proofs.Rendering.Expansion
import SlotTemplate.Proofs.Rendering.Injection
import SlotTemplate.Proofs.Rendering.Invocation
import SlotTemplate.Proofs.Rendering.Items
import SlotTemplate.Proofs.Rendering.Iteration
import SlotTemplate.Proofs.Rendering.Likeness
import SlotTemplate.Proofs.Rendering.Locality
import SlotTemplate.Proofs.Rendering.Lockstep
import SlotTemplate.Proofs.Rendering.Machine
import SlotTemplate.Proofs.Rendering.Order
import SlotTemplate.Proofs.Rendering.SafeMarks
import SlotTemplate.Proofs.Rendering.SlotTags
import SlotTemplate.Proofs.Report
import SlotTemplate.Proofs.Report.Lines
import SlotTemplate.Proofs.Result
import SlotTemplate.Proofs.Signature
import SlotTemplate.Proofs.SlotMap
import SlotTemplate.Proofs.Sources
import SlotTemplate.Proofs.Text.Bare
import SlotTemplate.Proofs.Text.Entities
import SlotTemplate.Proofs.Text.Runs
import SlotTemplate.Proofs.Text.Snake
import SlotTemplate.Proofs.Tree
import SlotTemplate.Proofs.Tree.Division
import SlotTemplate.Proofs.Tree.Expansion
import SlotTemplate.Proofs.Tree.Partition
import SlotTemplate.Proofs.Tree.SafeMarks
import SlotTemplate.Proofs.Tree.SlotTags
import SlotTemplate.Proofs.WellFormed
import SlotTemplate.Render
import SlotTemplate.Report
import SlotTemplate.Report.SourceLine
import SlotTemplate.Scope
import SlotTemplate.Signature
import SlotTemplate.Slot
import SlotTemplate.SlotMap
import SlotTemplate.Text.Alphanumeric
import SlotTemplate.Text.Blank
import SlotTemplate.Text.Case
import SlotTemplate.Text.CaseMapping
import SlotTemplate.Text.Cased
import SlotTemplate.Text.Escape
import SlotTemplate.Text.Printable
import SlotTemplate.Text.Quoted
import SlotTemplate.Text.Ranges
import SlotTemplate.Text.Snake
import SlotTemplate.Text.Span
import SlotTemplate.Text.Width
import SlotTemplate.Toml
import SlotTemplate.Toml.Document
import SlotTemplate.Toml.Quoted
import SlotTemplate.Toml.Reader
import SlotTemplate.Toml.Scalar
import SlotTemplate.Toml.Shape
import SlotTemplate.Value
