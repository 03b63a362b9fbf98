import DocComment.Command
import DocComment.Command.Files
import DocComment.Command.Request
import DocComment.Command.Switch
import DocComment.Command.Usage
import DocComment.Comment
import DocComment.CommentId
import DocComment.Context
import DocComment.Dialect
import DocComment.Extraction
import DocComment.Main
import DocComment.Markup.Character
import DocComment.Markup.Declaration
import DocComment.Markup.Doctype
import DocComment.Markup.Doctype.Grammar
import DocComment.Markup.Doctype.Token
import DocComment.Markup.Fault
import DocComment.Markup.Fragment
import DocComment.Markup.Lexeme
import DocComment.Markup.Node
import DocComment.Markup.Printer
import DocComment.Markup.Reader
import DocComment.Markup.Scan
import DocComment.Member
import DocComment.Notice
import DocComment.Proofs.Extraction.Members
import DocComment.Proofs.Extraction.Values
import DocComment.Proofs.Markup.Attributes
import DocComment.Proofs.Markup.Construction
import DocComment.Proofs.Markup.Locality
import DocComment.Proofs.Markup.MemberRoot
import DocComment.Proofs.Markup.Places
import DocComment.Proofs.Markup.ReadBack
import DocComment.Proofs.Markup.RootTag
import DocComment.Proofs.Markup.RoundTrip
import DocComment.Proofs.Markup.Tokens
import DocComment.Proofs.Markup.WellFormed
import DocComment.Proofs.Markup.Written
import DocComment.Proofs.Reindent.Blanks
import DocComment.Proofs.Reindent.Indentation
import DocComment.Proofs.Reindent.Steady
import DocComment.Proofs.Resolution.Discovery
import DocComment.Proofs.Resolution.Passes
import DocComment.Proofs.Resolution.TopDown
import DocComment.Proofs.Text.Indented
import DocComment.Proofs.Text.LineFeeds
import DocComment.Proofs.Text.Lines
import DocComment.Proofs.Text.Squeeze
import DocComment.Reading
import DocComment.Reindent
import DocComment.Report
import DocComment.Report.Json
import DocComment.Report.Panel
import DocComment.Report.Shown
import DocComment.Report.Wrap
import DocComment.Resolution
import DocComment.Settings
import DocComment.Settings.Load
import DocComment.Tally
import DocComment.Text.Blank
import DocComment.Text.ByteStream
import DocComment.Text.Cells
import DocComment.Text.CharCells
import DocComment.Text.CharacterReference
import DocComment.Text.CodePoints
import DocComment.Text.Digits
import DocComment.Text.LetterCase
import DocComment.Text.Lines
import DocComment.Text.Lowercase
import DocComment.Text.NamedCharacters
import DocComment.Text.NamedCharacters.AToK
import DocComment.Text.NamedCharacters.Capitals
import DocComment.Text.NamedCharacters.LToP
import DocComment.Text.NamedCharacters.QToZ
import DocComment.Text.Printable
import DocComment.Text.Quoted
import DocComment.Text.Ranges
import DocComment.Text.Similar
import DocComment.Text.Utf8
import DocComment.Text.Word
import DocComment.Yaml.Cursor
import DocComment.Yaml.Fault
import DocComment.Yaml.Graph
import DocComment.Yaml.Graph.Grammar
import DocComment.Yaml.Numeral
import DocComment.Yaml.Scalar
import DocComment.Yaml.Source
import DocComment.Yaml.Tag
import DocComment.Yaml.Token
import DocComment.Yaml.Token.Names
import DocComment.Yaml.Token.Scalars
import DocComment.Yaml.Token.Scanner
import DocComment.Yaml.Value
import DocComment.Proofs.Markup.MovedProlog
import DocComment.Proofs.Markup.MovedTree
import DocComment.Proofs.Markup.MovedContent
import DocComment.Proofs.Markup.MovedDocument
import DocComment.Proofs.Resolution.Moved
import DocComment.Proofs.Extraction.Indentation
import DocComment.Proofs.Resolution.Invariants
import DocComment.Proofs.Extraction.Legible
import DocComment.Proofs.Extraction.Fields
import DocComment.Proofs.Extraction.Outline
import DocComment.Proofs.Extraction.Refusals
import DocComment.Proofs.Extraction.Reported
import DocComment.Proofs.Command.References
import DocComment.Proofs.Extraction.Counts
import DocComment.Proofs.Resolution.Abandoned
import DocComment.Proofs.Resolution.Confluence
import DocComment.Proofs.Command.Languages
import DocComment.Proofs.Text.ByteStream
import DocComment.Proofs.Yaml.Source
import DocComment.Proofs.Settings.Failures
import DocComment.Proofs.Yaml.Reads
import DocComment.Proofs.Yaml.Tokens
import DocComment.Proofs.Yaml.Documents
import DocComment.Proofs.Yaml.Values
import DocComment.Proofs.Reindent.Shifted
import DocComment.Proofs.Reindent.CodeRegions
import DocComment.Proofs.Reindent.Idempotence
import DocComment.Proofs.Extraction.CodeElements
import DocComment.Proofs.Markup.Positions
import DocComment.Proofs.CommentId
import DocComment.Proofs.Extraction.Entries
import DocComment.Proofs.Extraction.LineEndings
import DocComment.Proofs.Extraction.Histogram
import DocComment.Proofs.Reindent.Deletions
