import CodeAtlas.Build.Basic
import CodeAtlas.Build.Statistics
import CodeAtlas.Classify.Basic
import CodeAtlas.Classify.Extension
import CodeAtlas.Classify.Json
import CodeAtlas.Classify.Signature
import CodeAtlas.Classify.Statistics
import CodeAtlas.Command.Arguments
import CodeAtlas.Command.Run
import CodeAtlas.Crawl.Basic
import CodeAtlas.Crawl.EntryPoints
import CodeAtlas.Crawl.FileNode
import CodeAtlas.Crawl.MainConstruct
import CodeAtlas.Crawl.Readme
import CodeAtlas.Decimal.Shortest
import CodeAtlas.Disk.Basic
import CodeAtlas.Disk.Change
import CodeAtlas.Grammar.Automaton
import CodeAtlas.Grammar.Lexer
import CodeAtlas.Grammar.Parser
import CodeAtlas.Grammar.Production
import CodeAtlas.Grammar.Rule
import CodeAtlas.Grammar.Table
import CodeAtlas.Grammar.Token
import CodeAtlas.Graph.Assembler
import CodeAtlas.Graph.Basic
import CodeAtlas.Graph.Decode
import CodeAtlas.Graph.Element
import CodeAtlas.Graph.Encode
import CodeAtlas.Graph.Extraction
import CodeAtlas.Graph.Relationship
import CodeAtlas.Ignore.Glob
import CodeAtlas.Ignore.GlobReader
import CodeAtlas.Ignore.Rule
import CodeAtlas.Json.Basic
import CodeAtlas.Json.Decode
import CodeAtlas.Json.Printer
import CodeAtlas.Json.Reader
import CodeAtlas.Language.Java
import CodeAtlas.Language.Java.Grammar
import CodeAtlas.Language.Java.Reader
import CodeAtlas.Language.JavaScript
import CodeAtlas.Language.JavaScript.Grammar
import CodeAtlas.Language.JavaScript.Reader
import CodeAtlas.Language.JavaScript.Scanner
import CodeAtlas.Language.Python
import CodeAtlas.Language.Python.Grammar
import CodeAtlas.Language.Python.Reader
import CodeAtlas.Language.Python.Scanner
import CodeAtlas.Language.Rust
import CodeAtlas.Language.Rust.Grammar
import CodeAtlas.Language.Rust.Reader
import CodeAtlas.Language.Rust.Scanner
import CodeAtlas.Machine
import CodeAtlas.Main
import CodeAtlas.Outline.Basic
import CodeAtlas.Outline.Calls
import CodeAtlas.Outline.Documentation
import CodeAtlas.Outline.Walk
import CodeAtlas.Parsing.Strategy
import CodeAtlas.Parsing.Support
import CodeAtlas.Path.Basic
import CodeAtlas.Pattern.Declarations
import CodeAtlas.Pattern.Parameters
import CodeAtlas.Regex.Basic
import CodeAtlas.Regex.Reader
import CodeAtlas.Regex.Search
import CodeAtlas.Report.Analysis
import CodeAtlas.Report.RepositoryMap
import CodeAtlas.Settings.Basic
import CodeAtlas.Settings.Load
import CodeAtlas.Syntax.Node
import CodeAtlas.Syntax.Site
import CodeAtlas.Text.Blank
import CodeAtlas.Text.Capital
import CodeAtlas.Text.Cursor
import CodeAtlas.Text.Identifier
import CodeAtlas.Text.Lines
import CodeAtlas.Text.Lowercase
import CodeAtlas.Text.Ranges
import CodeAtlas.Text.Strip
import CodeAtlas.Text.Utf8
import CodeAtlas.Text.Word
import CodeAtlas.Toml.Basic
import CodeAtlas.Toml.Reader
import CodeAtlas.Toml.Scalar
import CodeAtlas.Proofs.Assembler.Ends
import CodeAtlas.Proofs.Assembler.Reference
import CodeAtlas.Proofs.Build.Containment
import CodeAtlas.Proofs.Build.Dangling
import CodeAtlas.Proofs.Build.Merge
import CodeAtlas.Proofs.Build.Order
import CodeAtlas.Proofs.Crawl.Paths
import CodeAtlas.Proofs.Graph.View
import CodeAtlas.Proofs.Outline.Nesting
import CodeAtlas.Proofs.Language.Members
import CodeAtlas.Proofs.Language.Readers
import CodeAtlas.Proofs.Parsing.Extraction
import CodeAtlas.Proofs.Parsing.Qualified
import CodeAtlas.Proofs.Lists
import CodeAtlas.Proofs.Assembler.Representation
import CodeAtlas.Proofs.Assembler.Order
import CodeAtlas.Proofs.Disk.Entry
import CodeAtlas.Proofs.Disk.Follow
import CodeAtlas.Proofs.Text.ByteOrder
import CodeAtlas.Proofs.Crawl.Files
import CodeAtlas.Proofs.Crawl.Tree
import CodeAtlas.Proofs.Crawl.EntryPoints
import CodeAtlas.Proofs.Build.Eligible
import CodeAtlas.Proofs.Parsing.Containment
import CodeAtlas.Proofs.Syntax.Extents
import CodeAtlas.Proofs.Outline.Regular
import CodeAtlas.Proofs.Language.Regular
import CodeAtlas.Proofs.Parsing.SourceOrder
import CodeAtlas.Proofs.Outline.Callees
import CodeAtlas.Proofs.Parsing.Attribution
import CodeAtlas.Proofs.Ignore.Segments
import CodeAtlas.Proofs.Crawl.Segments
import CodeAtlas.Proofs.Graph.Answers
import CodeAtlas.Proofs.Build.Sequence
import CodeAtlas.Proofs.Classify.Statistics
import CodeAtlas.Proofs.Report.Agreement
import CodeAtlas.Proofs.Json.Decode
import CodeAtlas.Proofs.Json.RoundTrip
import CodeAtlas.Proofs.Json.Tree
import CodeAtlas.Proofs.Assembler.Repetition
import CodeAtlas.Proofs.Build.Accounting
import CodeAtlas.Proofs.Crawl.OwnRules
import CodeAtlas.Proofs.Pattern.OnePerHeader
import CodeAtlas.Proofs.Parsing.TypeMembers
import CodeAtlas.Proofs.Outline.Bounded
import CodeAtlas.Proofs.Parsing.DepthLimit
import CodeAtlas.Proofs.Pattern.ParameterNames
import CodeAtlas.Proofs.Language.Docstrings
import CodeAtlas.Proofs.Outline.Comments
import CodeAtlas.Proofs.Crawl.Readme
import CodeAtlas.Proofs.Settings.Loading
import CodeAtlas.Proofs.Settings.Nearest
import CodeAtlas.Proofs.Disk.Change
import CodeAtlas.Proofs.Command.Initialise
