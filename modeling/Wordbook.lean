import Wordbook.Answer
import Wordbook.CommandLine.Command
import Wordbook.CommandLine.Grammar
import Wordbook.CommandLine.Help
import Wordbook.CommandLine.Program
import Wordbook.Dialog
import Wordbook.Encoding
import Wordbook.Encoding.CharmapTable
import Wordbook.Encoding.Domain
import Wordbook.Encoding.Escaped
import Wordbook.Encoding.Handling
import Wordbook.Encoding.Naming
import Wordbook.Encoding.Punycode
import Wordbook.Encoding.Seven
import Wordbook.Instruction
import Wordbook.Issue
import Wordbook.Json.Basic
import Wordbook.Json.Display
import Wordbook.Json.Printer
import Wordbook.Json.Reader
import Wordbook.Lexicon
import Wordbook.Listing
import Wordbook.Main
import Wordbook.Number.Binary64
import Wordbook.Number.Decimal
import Wordbook.Number.Layout
import Wordbook.Number.Shortest
import Wordbook.Path
import Wordbook.Predicate.Arithmetic
import Wordbook.Predicate.Assignment
import Wordbook.Predicate.Attribute
import Wordbook.Predicate.Calling
import Wordbook.Predicate.Comprehension
import Wordbook.Predicate.Construction
import Wordbook.Predicate.Container
import Wordbook.Predicate.Definition
import Wordbook.Predicate.Display
import Wordbook.Predicate.Elaboration
import Wordbook.Predicate.Equality
import Wordbook.Predicate.Evaluation
import Wordbook.Predicate.Execution
import Wordbook.Predicate.Fault
import Wordbook.Predicate.FieldLayout
import Wordbook.Predicate.Folding
import Wordbook.Predicate.Functions
import Wordbook.Predicate.Grammar
import Wordbook.Predicate.Grammar.Expressions
import Wordbook.Predicate.Grammar.Parameters
import Wordbook.Predicate.Grammar.Patterns
import Wordbook.Predicate.Grammar.Shared
import Wordbook.Predicate.Grammar.Statements
import Wordbook.Predicate.Grammar.Targets
import Wordbook.Predicate.Iteration
import Wordbook.Predicate.Lexeme
import Wordbook.Predicate.Literal
import Wordbook.Predicate.Method.Bytes
import Wordbook.Predicate.Method.Coding
import Wordbook.Predicate.Method.Dict
import Wordbook.Predicate.Method.List
import Wordbook.Predicate.Method.Number
import Wordbook.Predicate.Method.Set
import Wordbook.Predicate.Method.Span
import Wordbook.Predicate.Method.Text
import Wordbook.Predicate.Naming
import Wordbook.Predicate.Node
import Wordbook.Predicate.Operators
import Wordbook.Predicate.Parsing
import Wordbook.Predicate.Program
import Wordbook.Predicate.Run
import Wordbook.Predicate.Sandbox
import Wordbook.Predicate.Section
import Wordbook.Predicate.Signature
import Wordbook.Predicate.Sorting
import Wordbook.Predicate.Table
import Wordbook.Predicate.Template
import Wordbook.Predicate.Traversal
import Wordbook.Predicate.Value
import Wordbook.Predicate.Verdict
import Wordbook.Predicate.Work
import Wordbook.Proofs.CommandLine.NamedRelations
import Wordbook.Proofs.CommandLine.Processes
import Wordbook.Proofs.Encoding.Utf8
import Wordbook.Proofs.Json.Containers
import Wordbook.Proofs.Json.Display
import Wordbook.Proofs.Json.Limits
import Wordbook.Proofs.Json.Scalars
import Wordbook.Proofs.Lexicon
import Wordbook.Proofs.Lexicon.Counting
import Wordbook.Proofs.Lexicon.Enumeration
import Wordbook.Proofs.Lexicon.Lengths
import Wordbook.Proofs.Lexicon.Numeral
import Wordbook.Proofs.Number.DecimalText
import Wordbook.Proofs.Number.Integral
import Wordbook.Proofs.Number.Reading
import Wordbook.Proofs.Outcome
import Wordbook.Proofs.Path
import Wordbook.Proofs.Path.Canonical
import Wordbook.Proofs.Predicate.BuiltIn
import Wordbook.Proofs.Predicate.Discipline
import Wordbook.Proofs.Predicate.Display
import Wordbook.Proofs.Predicate.Elaboration
import Wordbook.Proofs.Predicate.Ending
import Wordbook.Proofs.Predicate.Evaluating
import Wordbook.Proofs.Predicate.FaultLines
import Wordbook.Proofs.Predicate.Limits
import Wordbook.Proofs.Predicate.Lines.Cutting
import Wordbook.Proofs.Predicate.Lines.Expressions
import Wordbook.Proofs.Predicate.Lines.Parsing
import Wordbook.Proofs.Predicate.Lines.Programs
import Wordbook.Proofs.Predicate.Lines.Statements
import Wordbook.Proofs.Predicate.Lines.Texts
import Wordbook.Proofs.Predicate.Margins
import Wordbook.Proofs.Predicate.Pieces
import Wordbook.Proofs.Predicate.Reserves
import Wordbook.Proofs.Predicate.Resolution
import Wordbook.Proofs.Predicate.Running
import Wordbook.Proofs.Predicate.Sandbox
import Wordbook.Proofs.Predicate.Scoping
import Wordbook.Proofs.Predicate.Settling
import Wordbook.Proofs.Predicate.Spelling
import Wordbook.Proofs.Predicate.Spreading
import Wordbook.Proofs.Predicate.Termination
import Wordbook.Proofs.Predicate.Verdict
import Wordbook.Proofs.Predicate.Wording
import Wordbook.Proofs.Predicate.Wrapping
import Wordbook.Proofs.Relation
import Wordbook.Proofs.Relation.Issuing
import Wordbook.Proofs.Relation.Reading
import Wordbook.Proofs.Relation.Spelling
import Wordbook.Proofs.Session.Actions
import Wordbook.Proofs.Session.Announcing
import Wordbook.Proofs.Session.Cancellation
import Wordbook.Proofs.Session.Comparing
import Wordbook.Proofs.Session.Defaults
import Wordbook.Proofs.Session.Editing
import Wordbook.Proofs.Session.Exporting
import Wordbook.Proofs.Session.Failures
import Wordbook.Proofs.Session.Footprint
import Wordbook.Proofs.Session.Frames
import Wordbook.Proofs.Session.Issuing
import Wordbook.Proofs.Session.Moves
import Wordbook.Proofs.Session.Naming
import Wordbook.Proofs.Session.Recall
import Wordbook.Proofs.Session.References
import Wordbook.Proofs.Session.Relations
import Wordbook.Proofs.Session.Runs
import Wordbook.Proofs.Session.Sources
import Wordbook.Proofs.Session.Starting
import Wordbook.Proofs.Session.Unknown
import Wordbook.Proofs.Session.Unstarted
import Wordbook.Proofs.Session.Vocabulary
import Wordbook.Proofs.Session.Workflows
import Wordbook.Proofs.Snapshot.Acceptance
import Wordbook.Proofs.Snapshot.RoundTrip
import Wordbook.Proofs.Snapshot.Uniqueness
import Wordbook.Proofs.State.WellFormed
import Wordbook.Proofs.Store.Agreement
import Wordbook.Proofs.Store.Contents
import Wordbook.Proofs.Store.Keys
import Wordbook.Proofs.Store.Listing
import Wordbook.Proofs.Store.Separation
import Wordbook.Proofs.Store.Untouched
import Wordbook.Proofs.Store.Writes
import Wordbook.Proofs.Text.Blank
import Wordbook.Proofs.Text.Search
import Wordbook.Proofs.Unicode.Case
import Wordbook.Proofs.Unicode.Recasing
import Wordbook.Relation
import Wordbook.Session.Basic
import Wordbook.Session.Dispatch
import Wordbook.Session.Lifecycle
import Wordbook.Session.Relations
import Wordbook.Session.Vocabulary
import Wordbook.Session.Workflow
import Wordbook.Snapshot
import Wordbook.State
import Wordbook.Store.Collection
import Wordbook.Store.Disk
import Wordbook.Store.Files
import Wordbook.Store.Keys
import Wordbook.Text.Blank
import Wordbook.Text.Hexadecimal
import Wordbook.Text.Lines
import Wordbook.Text.Pieces
import Wordbook.Text.Quoted
import Wordbook.Text.Search
import Wordbook.Unicode.Case
import Wordbook.Unicode.CaseTable
import Wordbook.Unicode.CasedTable
import Wordbook.Unicode.Class
import Wordbook.Unicode.Composition
import Wordbook.Unicode.CompositionTable
import Wordbook.Unicode.IdentifierTable
import Wordbook.Unicode.LetterTable
import Wordbook.Unicode.Name
import Wordbook.Unicode.NameTable
import Wordbook.Unicode.NumberTable
import Wordbook.Unicode.PrintableTable
import Wordbook.Unicode.Ranges
