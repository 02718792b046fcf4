import SyntaxDump.Binary64.Rounding
import SyntaxDump.Decimal.Shortest
import SyntaxDump.Literal.Number
import SyntaxDump.Unicode.NameStart
import SyntaxDump.Unicode.NameContinue
import SyntaxDump.Unicode.Unprintable
import SyntaxDump.Literal.Quoted
import SyntaxDump.Name
import SyntaxDump.Location
import SyntaxDump.Json.Reader
import SyntaxDump.Json.Writer
import SyntaxDump.Text.Times
import SyntaxDump.Limits
import SyntaxDump.Node
import SyntaxDump.Dump
import SyntaxDump.Shown
import SyntaxDump.Outline
import SyntaxDump.Document.Encode
import SyntaxDump.Document.Decode
import SyntaxDump.Document.Load
import SyntaxDump.Format
import SyntaxDump.Build
import SyntaxDump.Inspect
import SyntaxDump.Unicode.CaseIgnorable
import SyntaxDump.Unicode.Cased
import SyntaxDump.Unicode.Lowercase
import SyntaxDump.Files
import SyntaxDump.Toml.Moment
import SyntaxDump.Toml.Quoted
import SyntaxDump.Toml.Reader
import SyntaxDump.Settings.Error
import SyntaxDump.Settings.Layer
import SyntaxDump.Yaml.Block
import SyntaxDump.Yaml.Folding
import SyntaxDump.Yaml.Plain
import SyntaxDump.Yaml.Quoted
import SyntaxDump.Yaml.Token
import SyntaxDump.Yaml.Lexer
import SyntaxDump.Yaml.Node
import SyntaxDump.CommandLine.Arguments
import SyntaxDump.CommandLine.Run
import SyntaxDump.Main
import SyntaxDump.Proofs.Text.Hex
import SyntaxDump.Proofs.Text.Join
import SyntaxDump.Proofs.Text.Unbreak
import SyntaxDump.Proofs.Grammar
import SyntaxDump.Proofs.Location
import SyntaxDump.Proofs.Result
import SyntaxDump.Proofs.Shown
import SyntaxDump.Proofs.Subtrees
import SyntaxDump.Proofs.Validity
import SyntaxDump.Proofs.Unplaced
import SyntaxDump.Proofs.Format
import SyntaxDump.Proofs.Json.Members
import SyntaxDump.Proofs.Json.Parts
import SyntaxDump.Proofs.Document.Decode
import SyntaxDump.Proofs.Document.Encode
import SyntaxDump.Proofs.Document.RoundTrip
import SyntaxDump.Proofs.Document.Loading
import SyntaxDump.Proofs.Document.Sequence
import SyntaxDump.Proofs.Literal.Quoted
import SyntaxDump.Proofs.Literal.Reading
import SyntaxDump.Proofs.Literal.Number
import SyntaxDump.Proofs.Term.Lexical
import SyntaxDump.Proofs.Term.Line
import SyntaxDump.Proofs.Term.Layout
import SyntaxDump.Proofs.Term.Margins
import SyntaxDump.Proofs.Term.Breaks
import SyntaxDump.Proofs.Term.Unambiguous
import SyntaxDump.Proofs.Dump.Lexical
import SyntaxDump.Proofs.Dump.Layout
import SyntaxDump.Proofs.Dump.Margins
import SyntaxDump.Proofs.Dump.Breaks
import SyntaxDump.Proofs.Dump.Scalar
import SyntaxDump.Proofs.Dump.Unambiguous
import SyntaxDump.Proofs.Binary64.Rounding
import SyntaxDump.Proofs.Decimal.Digits
import SyntaxDump.Proofs.Decimal.Shortest
import SyntaxDump.Proofs.Json.Quoted
import SyntaxDump.Proofs.Json.Scale
import SyntaxDump.Proofs.Json.Numeral
import SyntaxDump.Proofs.Json.Number
import SyntaxDump.Proofs.Json.Text
import SyntaxDump.Proofs.Json.Words
import SyntaxDump.Proofs.Json.Range
import SyntaxDump.Proofs.Constants
import SyntaxDump.Proofs.Document.Reread
import SyntaxDump.Proofs.Document.Written
import SyntaxDump.Proofs.Document.Nesting
import SyntaxDump.Proofs.Document.Reload
import SyntaxDump.Proofs.Document.Tags
import SyntaxDump.Proofs.Document.Routing
import SyntaxDump.Proofs.Document.Faults
import SyntaxDump.Proofs.Document.Idle
import SyntaxDump.Proofs.Text.Lines
import SyntaxDump.Proofs.Outline.Lines
import SyntaxDump.Proofs.Outline.Forest
import SyntaxDump.Proofs.Outline.Lexical
import SyntaxDump.Proofs.Outline.Unambiguous
import SyntaxDump.Proofs.Term.Calls
import SyntaxDump.Proofs.Dump.Calls
import SyntaxDump.Proofs.Dump.Sequence
import SyntaxDump.Proofs.Outline.Classes
import SyntaxDump.Proofs.Json.Exact
import SyntaxDump.Proofs.Document.Rounded
import SyntaxDump.Proofs.Document.Integers
import SyntaxDump.Proofs.Document.Description
import SyntaxDump.Proofs.Settings.Store
import SyntaxDump.Proofs.Settings.Resolve
import SyntaxDump.Proofs.Settings.Layers
import SyntaxDump.Proofs.Settings.Precedence
import SyntaxDump.Proofs.CommandLine.Flags
import SyntaxDump.Proofs.Text.Trim
import SyntaxDump.Proofs.Trimmed
import SyntaxDump.Proofs.Yaml.Range
import SyntaxDump.Proofs.CommandLine.Output
import SyntaxDump.Proofs.Text.Utf8
import SyntaxDump.Proofs.Name
import SyntaxDump.Proofs.Literal.Ascii
import SyntaxDump.Proofs.Term.Limits
import SyntaxDump.Proofs.Dump.Limits
