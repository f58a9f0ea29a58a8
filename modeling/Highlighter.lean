import Highlighter.Command
import Highlighter.Decimal.Binary64
import Highlighter.Decimal.Shortest
import Highlighter.Dict
import Highlighter.Error
import Highlighter.Files.Path
import Highlighter.Files.Tree
import Highlighter.Grammar.Basic
import Highlighter.Grammar.Lexer
import Highlighter.Grammar.Rule
import Highlighter.Language.Application
import Highlighter.Language.Catalog
import Highlighter.Language.Configuration
import Highlighter.Language.Markup
import Highlighter.Language.Shared
import Highlighter.Language.Systems
import Highlighter.Main
import Highlighter.Pattern.CharSet
import Highlighter.Pattern.CodeRanges
import Highlighter.Pattern.Expr
import Highlighter.Pattern.Notation
import Highlighter.Pattern.Program
import Highlighter.Pattern.Search
import Highlighter.Pattern.Size
import Highlighter.Pattern.Symbol
import Highlighter.Proofs.Dict
import Highlighter.Proofs.Files.Tree
import Highlighter.Proofs.Grammar.Boundaries
import Highlighter.Proofs.Grammar.Covering
import Highlighter.Proofs.Grammar.Escaping
import Highlighter.Proofs.Grammar.Lines
import Highlighter.Proofs.Grammar.Priorities
import Highlighter.Proofs.Grammar.Regions
import Highlighter.Proofs.Grammar.Rule
import Highlighter.Proofs.Grammar.Scanning
import Highlighter.Proofs.Grammar.Stepping
import Highlighter.Proofs.Language.Lines
import Highlighter.Proofs.Language.PrefixedStrings
import Highlighter.Proofs.Language.RawStrings
import Highlighter.Proofs.Pattern.Delimiters
import Highlighter.Proofs.Pattern.Exploring
import Highlighter.Proofs.Pattern.Linewise
import Highlighter.Proofs.Pattern.Meaning
import Highlighter.Proofs.Pattern.Search
import Highlighter.Proofs.Pattern.Spaces
import Highlighter.Proofs.Pattern.Words
import Highlighter.Proofs.Registry
import Highlighter.Proofs.Render.Lines
import Highlighter.Proofs.Render.Pieces
import Highlighter.Proofs.Render.Replaying
import Highlighter.Proofs.Render.Terminal
import Highlighter.Proofs.Session.Agreement
import Highlighter.Proofs.Session.ChangedLines
import Highlighter.Proofs.Session.Clearing
import Highlighter.Proofs.Session.Coherence
import Highlighter.Proofs.Session.Completion
import Highlighter.Proofs.Session.FullPass
import Highlighter.Proofs.Session.Incremental
import Highlighter.Proofs.Session.Layout
import Highlighter.Proofs.Session.Persistence
import Highlighter.Proofs.Session.Rebuilding
import Highlighter.Proofs.Session.Retrying
import Highlighter.Proofs.Session.Skipping
import Highlighter.Proofs.Session.Switching
import Highlighter.Proofs.Session.Tagging
import Highlighter.Proofs.Session.Window
import Highlighter.Proofs.Settings.Merging
import Highlighter.Proofs.Settings.Persistence
import Highlighter.Proofs.Style.Color
import Highlighter.Proofs.Surface.Adding
import Highlighter.Proofs.Surface.Address
import Highlighter.Proofs.Surface.Advancing
import Highlighter.Proofs.Surface.Ascending
import Highlighter.Proofs.Surface.Carrying
import Highlighter.Proofs.Surface.Checked.Edits
import Highlighter.Proofs.Surface.Checked.Runs
import Highlighter.Proofs.Surface.Checked.Steps
import Highlighter.Proofs.Surface.Composing
import Highlighter.Proofs.Surface.Coverage
import Highlighter.Proofs.Surface.Dyeing
import Highlighter.Proofs.Surface.EmptyParts
import Highlighter.Proofs.Surface.Free
import Highlighter.Proofs.Surface.LineStyles
import Highlighter.Proofs.Surface.Moving
import Highlighter.Proofs.Surface.Overlapping
import Highlighter.Proofs.Surface.Owning
import Highlighter.Proofs.Surface.Pointwise
import Highlighter.Proofs.Surface.Ranges
import Highlighter.Proofs.Surface.Runs
import Highlighter.Proofs.Surface.Slicing
import Highlighter.Proofs.Surface.Validity
import Highlighter.Proofs.Text.ByteOffset
import Highlighter.Proofs.Text.Hex
import Highlighter.Proofs.Text.Lines
import Highlighter.Proofs.Text.Position
import Highlighter.Proofs.Theme.Loading
import Highlighter.Proofs.Theme.Resolution
import Highlighter.Proofs.Token.Kind
import Highlighter.Proofs.Token.LineLocal
import Highlighter.Proofs.Token.Spans
import Highlighter.Proofs.Token.Stream
import Highlighter.Proofs.Toml.Flat
import Highlighter.Proofs.Toml.Scalars
import Highlighter.Proofs.Toml.Strings
import Highlighter.Proofs.Unicode.CaseFolding
import Highlighter.Proofs.Unicode.Lowercase
import Highlighter.Proofs.Unicode.TextWidth
import Highlighter.Registry
import Highlighter.Render
import Highlighter.Session.Basic
import Highlighter.Session.ChangedLines
import Highlighter.Settings.Basic
import Highlighter.Settings.Store
import Highlighter.Style.Color
import Highlighter.Style.Directive
import Highlighter.Surface.Basic
import Highlighter.Surface.Edit
import Highlighter.Surface.Tag
import Highlighter.Surface.Tagging
import Highlighter.Text.Basic
import Highlighter.Text.ByteOffset
import Highlighter.Text.Cursor
import Highlighter.Text.Hex
import Highlighter.Text.Position
import Highlighter.Theme.Basic
import Highlighter.Theme.Role
import Highlighter.Theme.Source
import Highlighter.Theme.Table
import Highlighter.Token.Basic
import Highlighter.Token.Kind
import Highlighter.Token.Mapping
import Highlighter.Token.Span
import Highlighter.Toml.Datetime
import Highlighter.Toml.Document
import Highlighter.Toml.Lexeme
import Highlighter.Toml.Number
import Highlighter.Toml.Printer
import Highlighter.Toml.Section
import Highlighter.Toml.Value
import Highlighter.Unicode.CaseFolding
import Highlighter.Unicode.DisplayWidth
import Highlighter.Unicode.Emoji
import Highlighter.Unicode.Letter
import Highlighter.Unicode.LetterCase
import Highlighter.Unicode.Lowercase
import Highlighter.Unicode.Mark
import Highlighter.Unicode.Number
import Highlighter.Unicode.Ranges
import Highlighter.Unicode.Space
import Highlighter.Unicode.TextWidth
import Highlighter.Unicode.Word
