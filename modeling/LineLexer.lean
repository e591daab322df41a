import LineLexer.Text.Utf8
import LineLexer.Text.Ranges
import LineLexer.Text.GraphemeExtend
import LineLexer.Text.DefaultIgnorable
import LineLexer.Text.WhiteSpace
import LineLexer.Text.GeneralCategory
import LineLexer.Text.Alphabetic
import LineLexer.Text.Unprintable
import LineLexer.Text.Quoted
import LineLexer.Text.Indented
import LineLexer.Text.Plain
import LineLexer.Text.ByteRanges
import LineLexer.Category
import LineLexer.Position
import LineLexer.Token
import LineLexer.Error
import LineLexer.ErrorOutput
import LineLexer.Vocabulary
import LineLexer.Rule
import LineLexer.Matcher
import LineLexer.Trivia
import LineLexer.Feed
import LineLexer.Pattern.Flaw
import LineLexer.Pattern.Tree
import LineLexer.Pattern.Reading
import LineLexer.Pattern.Escape
import LineLexer.Pattern.Bracket
import LineLexer.Pattern.Group
import LineLexer.Pattern.Repetition
import LineLexer.Pattern.Parser
import LineLexer.Pattern.CharSet
import LineLexer.Pattern.CaseFold
import LineLexer.Pattern.Property.Named
import LineLexer.Pattern.Property.Category
import LineLexer.Pattern.Property.Script
import LineLexer.Pattern.Property.Age
import LineLexer.Pattern.Property.Letter
import LineLexer.Pattern.Property.Punctuation
import LineLexer.Pattern.Property.Identifier
import LineLexer.Pattern.Property.Numeral
import LineLexer.Pattern.Property.Ideograph
import LineLexer.Pattern.Property.Emoji
import LineLexer.Pattern.Property.Grapheme
import LineLexer.Pattern.Property.GraphemeBreak
import LineLexer.Pattern.Property.WordBreak
import LineLexer.Pattern.Property.CaseChange
import LineLexer.Pattern.Property.SentenceBreak
import LineLexer.Pattern.Property
import LineLexer.Pattern.NamedClass
import LineLexer.Pattern.Expr
import LineLexer.Pattern.Meaning
import LineLexer.Pattern.Places
import LineLexer.Pattern.Machine.Room
import LineLexer.Pattern.Machine.Literals
import LineLexer.Pattern.Machine.Classes
import LineLexer.Pattern.Machine
import LineLexer.Pattern
import LineLexer.Log
import LineLexer.Log.Directive
import LineLexer.Log.Filter
import LineLexer.Log.Setting
import LineLexer.Scanner
import LineLexer.Walk
import LineLexer.Session
import LineLexer.Failure
import LineLexer.Dump
import LineLexer.CommandLine
import LineLexer.CommandLine.Parser
import LineLexer.Path
import LineLexer.Program
import LineLexer.Program.Standard
import LineLexer.Main
import LineLexer.Proofs.Grammar
import LineLexer.Proofs.Skipping
import LineLexer.Proofs.Matching
import LineLexer.Proofs.Decomposition
import LineLexer.Proofs.WellFormed
import LineLexer.Proofs.Lines
import LineLexer.Proofs.Delivery
import LineLexer.Proofs.Scanning
import LineLexer.Proofs.Tokenizing
import LineLexer.Proofs.Stream
import LineLexer.Proofs.Chunking
import LineLexer.Proofs.Joining
import LineLexer.Proofs.Lookahead
import LineLexer.Proofs.Rescan
import LineLexer.Proofs.Restyling
import LineLexer.Proofs.Requests
import LineLexer.Proofs.LastReply
import LineLexer.Proofs.BadLines
import LineLexer.Proofs.Coverage
import LineLexer.Proofs.Steps
import LineLexer.Proofs.Tally
import LineLexer.Proofs.Chronicle
import LineLexer.Proofs.Bounds
import LineLexer.Proofs.Settings
import LineLexer.Proofs.Dumping
import LineLexer.Proofs.Lossless
import LineLexer.Proofs.FullOutput
import LineLexer.Proofs.Outcome
import LineLexer.Proofs.Interference
import LineLexer.Proofs.Policy
import LineLexer.Proofs.Classification
import LineLexer.Proofs.Building
import LineLexer.Proofs.Progress
import LineLexer.Proofs.Strays
import LineLexer.Proofs.Parsing
import LineLexer.Proofs.Arguments
import LineLexer.Proofs.Gap
