import ScriptTree.Basic
import ScriptTree.Command.Console
import ScriptTree.Command.Line
import ScriptTree.Command.Message
import ScriptTree.Command.Outcome
import ScriptTree.Command.Page
import ScriptTree.Command.Reading
import ScriptTree.Command.Request
import ScriptTree.Corpus.Placement
import ScriptTree.Corpus.Run
import ScriptTree.Corpus.Segment
import ScriptTree.Corpus.Settings
import ScriptTree.Corpus.Subject
import ScriptTree.Corpus.Template
import ScriptTree.Dump.Extract
import ScriptTree.Dump.Schedule
import ScriptTree.Files.Path
import ScriptTree.Files.Source
import ScriptTree.Files.Tree
import ScriptTree.Json.Reader
import ScriptTree.Json.Token
import ScriptTree.Json.Writer
import ScriptTree.Main
import ScriptTree.Number.Double
import ScriptTree.Number.Integer
import ScriptTree.Number.Notation
import ScriptTree.Number.Shortest
import ScriptTree.Proofs.Command.Obstruction
import ScriptTree.Proofs.Command.ParseDir
import ScriptTree.Proofs.Command.Reading
import ScriptTree.Proofs.Command.Repeating
import ScriptTree.Proofs.Command.Saving
import ScriptTree.Proofs.Command.Segment
import ScriptTree.Proofs.Command.Single
import ScriptTree.Proofs.Corpus.Editing
import ScriptTree.Proofs.Corpus.Layers
import ScriptTree.Proofs.Corpus.Literal
import ScriptTree.Proofs.Corpus.Override
import ScriptTree.Proofs.Corpus.Run
import ScriptTree.Proofs.Corpus.Segmentation
import ScriptTree.Proofs.Corpus.Snippet
import ScriptTree.Proofs.Corpus.Stub
import ScriptTree.Proofs.Dump.LastSegment
import ScriptTree.Proofs.Dump.Schedule
import ScriptTree.Proofs.Fields
import ScriptTree.Proofs.Files.Listing
import ScriptTree.Proofs.Files.Making
import ScriptTree.Proofs.Files.Mirror
import ScriptTree.Proofs.Files.Path
import ScriptTree.Proofs.Files.Recovery
import ScriptTree.Proofs.Files.Rescan
import ScriptTree.Proofs.Files.Scanning
import ScriptTree.Proofs.Files.Tree
import ScriptTree.Proofs.Files.Writing
import ScriptTree.Proofs.Json.Joined
import ScriptTree.Proofs.Json.Layout
import ScriptTree.Proofs.Json.Lexing
import ScriptTree.Proofs.Json.LineBreaks
import ScriptTree.Proofs.Json.Objects
import ScriptTree.Proofs.Json.Quoted
import ScriptTree.Proofs.Json.RoundTrip
import ScriptTree.Proofs.Number.Decimal
import ScriptTree.Proofs.Number.Digits
import ScriptTree.Proofs.Number.Fewest
import ScriptTree.Proofs.Number.Grid
import ScriptTree.Proofs.Number.Integral
import ScriptTree.Proofs.Number.Interval
import ScriptTree.Proofs.Number.Nearest
import ScriptTree.Proofs.Number.Numeral
import ScriptTree.Proofs.Number.Rounding
import ScriptTree.Proofs.Number.ScriptText
import ScriptTree.Proofs.Number.Shortest
import ScriptTree.Proofs.Number.Written
import ScriptTree.Proofs.Text.Lines
import ScriptTree.Proofs.Text.Order
import ScriptTree.Proofs.Text.Surrogates
import ScriptTree.Proofs.Text.Utf16
import ScriptTree.Proofs.Text.Utf8
import ScriptTree.Proofs.Tree.Container
import ScriptTree.Proofs.Tree.Conversion
import ScriptTree.Proofs.Tree.Equality
import ScriptTree.Proofs.Tree.Image
import ScriptTree.Proofs.Tree.Layout
import ScriptTree.Proofs.Tree.Location
import ScriptTree.Proofs.Tree.Lookup
import ScriptTree.Proofs.Tree.Number
import ScriptTree.Proofs.Tree.NumberText
import ScriptTree.Proofs.Tree.Part
import ScriptTree.Proofs.Tree.Refusal
import ScriptTree.Proofs.Tree.Reordering
import ScriptTree.Proofs.Tree.Rewriting
import ScriptTree.Proofs.Tree.RoundTrip
import ScriptTree.Proofs.Tree.Walk
import ScriptTree.Scalar
import ScriptTree.Script.Ast
import ScriptTree.Script.Cursor
import ScriptTree.Script.Grammar.Assignment
import ScriptTree.Script.Grammar.Basic
import ScriptTree.Script.Grammar.Binding
import ScriptTree.Script.Grammar.Class
import ScriptTree.Script.Grammar.Declaration
import ScriptTree.Script.Grammar.Formals
import ScriptTree.Script.Grammar.Function
import ScriptTree.Script.Grammar.Loop
import ScriptTree.Script.Grammar.Operand
import ScriptTree.Script.Grammar.Operator
import ScriptTree.Script.Grammar.Statement
import ScriptTree.Script.Lexeme
import ScriptTree.Script.Lexer
import ScriptTree.Script.Lexer.Name
import ScriptTree.Script.Lexer.Number
import ScriptTree.Script.Lexer.Quoted
import ScriptTree.Script.Lexer.Regex
import ScriptTree.Script.Parse
import ScriptTree.Script.Problem
import ScriptTree.Script.RegexSyntax.Alternatives
import ScriptTree.Script.RegexSyntax.Basic
import ScriptTree.Script.RegexSyntax.Escape
import ScriptTree.Text.Base64
import ScriptTree.Text.CharacterName
import ScriptTree.Text.CharacterName.Ancient
import ScriptTree.Text.CharacterName.East
import ScriptTree.Text.CharacterName.Letters
import ScriptTree.Text.CharacterName.Pictures
import ScriptTree.Text.CharacterName.Run
import ScriptTree.Text.CharacterName.Symbols
import ScriptTree.Text.Letter
import ScriptTree.Text.LowerCase
import ScriptTree.Text.Pictograph
import ScriptTree.Text.Pictograph.Plain
import ScriptTree.Text.Pictograph.Toned
import ScriptTree.Text.Quoted
import ScriptTree.Text.Utf8
import ScriptTree.Text.Width
import ScriptTree.Tree.Convert
import ScriptTree.Tree.Encode
import ScriptTree.Tree.Value
import ScriptTree.Tree.Walk
import ScriptTree.Yaml.Build
import ScriptTree.Yaml.Data
import ScriptTree.Yaml.Display
import ScriptTree.Yaml.Document
import ScriptTree.Yaml.Fault
import ScriptTree.Yaml.Moment
import ScriptTree.Yaml.Node
import ScriptTree.Yaml.Node.Reader
import ScriptTree.Yaml.Plain
import ScriptTree.Yaml.Reading
import ScriptTree.Yaml.Stream
import ScriptTree.Yaml.Token.Basic
import ScriptTree.Yaml.Token.Lexer
import ScriptTree.Yaml.Token.Property
import ScriptTree.Yaml.Token.Scalar
