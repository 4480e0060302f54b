import LadderAtlas.CommandLine.Command
import LadderAtlas.CommandLine.Files
import LadderAtlas.CommandLine.Run
import LadderAtlas.CommandLine.Words
import LadderAtlas.Config
import LadderAtlas.Diff.Changes
import LadderAtlas.Diff.Folders
import LadderAtlas.Diff.Parts
import LadderAtlas.Diff.Report
import LadderAtlas.Document
import LadderAtlas.Document.Field
import LadderAtlas.Document.Invariants
import LadderAtlas.Document.Parse
import LadderAtlas.Document.Plain
import LadderAtlas.Document.Restore
import LadderAtlas.Document.Revision
import LadderAtlas.Export.Component
import LadderAtlas.Export.Context
import LadderAtlas.Export.Csv
import LadderAtlas.Export.Listing
import LadderAtlas.Export.Manual
import LadderAtlas.ExportTypes
import LadderAtlas.Failure
import LadderAtlas.Health.Report
import LadderAtlas.Health.Score
import LadderAtlas.Keyed
import LadderAtlas.L5k.Attributes
import LadderAtlas.L5k.Block
import LadderAtlas.L5k.Declaration
import LadderAtlas.L5k.Reader
import LadderAtlas.L5k.Rungs
import LadderAtlas.L5k.Shade
import LadderAtlas.L5x.Reader
import LadderAtlas.L5x.Subtree
import LadderAtlas.Ladder.Call
import LadderAtlas.Ladder.Expression
import LadderAtlas.Ladder.Instruction
import LadderAtlas.Ladder.Reference
import LadderAtlas.Ladder.Standard
import LadderAtlas.Ladder.TagPath
import LadderAtlas.Main
import LadderAtlas.Naming.Registry
import LadderAtlas.Naming.Rule
import LadderAtlas.Naming.RuleSet
import LadderAtlas.Naming.Validation
import LadderAtlas.Notice
import LadderAtlas.Number.Binary64
import LadderAtlas.Number.Decimal
import LadderAtlas.Number.Shortest
import LadderAtlas.Number.Whole
import LadderAtlas.Page
import LadderAtlas.Pattern
import LadderAtlas.Pattern.Reader
import LadderAtlas.Pattern.Search
import LadderAtlas.Project
import LadderAtlas.Proofs.Diff.Changes
import LadderAtlas.Proofs.Diff.Definitions
import LadderAtlas.Proofs.Diff.Folders
import LadderAtlas.Proofs.Diff.Report
import LadderAtlas.Proofs.Diff.Scopes
import LadderAtlas.Proofs.Document.Escapes
import LadderAtlas.Proofs.Document.Rungs
import LadderAtlas.Proofs.Document.Typed
import LadderAtlas.Proofs.Document.Valid
import LadderAtlas.Proofs.Export.CsvReader
import LadderAtlas.Proofs.Export.Listings
import LadderAtlas.Proofs.Export.Truncation
import LadderAtlas.Proofs.Health.Exact
import LadderAtlas.Proofs.Health.Score
import LadderAtlas.Proofs.InPlace
import LadderAtlas.Proofs.L5k.Blocks
import LadderAtlas.Proofs.L5k.CutFiles
import LadderAtlas.Proofs.L5k.FirstBlock
import LadderAtlas.Proofs.L5k.Misread
import LadderAtlas.Proofs.L5k.Names
import LadderAtlas.Proofs.L5k.Nesting
import LadderAtlas.Proofs.L5k.Statements
import LadderAtlas.Proofs.L5k.TagBlock
import LadderAtlas.Proofs.L5k.WrittenAttributes
import LadderAtlas.Proofs.L5k.WrittenBlocks
import LadderAtlas.Proofs.L5k.WrittenDeclarations
import LadderAtlas.Proofs.L5k.WrittenRungs
import LadderAtlas.Proofs.L5k.WrittenTags
import LadderAtlas.Proofs.L5x.Clashes
import LadderAtlas.Proofs.L5x.Misread
import LadderAtlas.Proofs.L5x.StoredSubtrees
import LadderAtlas.Proofs.Ladder.AddOn
import LadderAtlas.Proofs.Ladder.Blanking
import LadderAtlas.Proofs.Ladder.FlatPaths
import LadderAtlas.Proofs.Ladder.IndexTags
import LadderAtlas.Proofs.Ladder.IndexTrees
import LadderAtlas.Proofs.Ladder.Literals
import LadderAtlas.Proofs.Ladder.NestedIndices
import LadderAtlas.Proofs.Ladder.Paths
import LadderAtlas.Proofs.Ladder.RecordedNames
import LadderAtlas.Proofs.Ladder.Rendering
import LadderAtlas.Proofs.Ladder.Subroutines
import LadderAtlas.Proofs.Ladder.Trimming
import LadderAtlas.Proofs.Ladder.WrittenExpressions
import LadderAtlas.Proofs.Naming.Assignments
import LadderAtlas.Proofs.Naming.Defaults
import LadderAtlas.Proofs.Naming.Editing
import LadderAtlas.Proofs.Naming.RefusedPatterns
import LadderAtlas.Proofs.Naming.SoundRules
import LadderAtlas.Proofs.Naming.Violations
import LadderAtlas.Proofs.Number.Misread
import LadderAtlas.Proofs.Number.Written
import LadderAtlas.Proofs.Order
import LadderAtlas.Proofs.Pattern.Faults
import LadderAtlas.Proofs.Pattern.LargeCounts
import LadderAtlas.Proofs.Pattern.Reading
import LadderAtlas.Proofs.Project.Coverage
import LadderAtlas.Proofs.Query.Lineage
import LadderAtlas.Proofs.Query.Pages
import LadderAtlas.Proofs.StableSort
import LadderAtlas.Proofs.Store.Answers
import LadderAtlas.Proofs.Store.Consistent
import LadderAtlas.Proofs.Store.Interleaved
import LadderAtlas.Proofs.Store.Log
import LadderAtlas.Proofs.Store.Registrations
import LadderAtlas.Proofs.Store.Schedule
import LadderAtlas.Proofs.Store.Step
import LadderAtlas.Proofs.Store.Tables
import LadderAtlas.Proofs.Text.Lines
import LadderAtlas.Proofs.Text.WordChars
import LadderAtlas.Proofs.Usage.Bases
import LadderAtlas.Proofs.Usage.Wholes
import LadderAtlas.Proofs.Xml.Encodings
import LadderAtlas.Query.CrossReference
import LadderAtlas.Query.ModuleTree
import LadderAtlas.Query.Statistics
import LadderAtlas.Query.TagSearch
import LadderAtlas.Settings
import LadderAtlas.Snapshot
import LadderAtlas.Store
import LadderAtlas.Text.Blank
import LadderAtlas.Text.Case
import LadderAtlas.Text.Case.Table
import LadderAtlas.Text.CharacterName
import LadderAtlas.Text.CharacterName.Table
import LadderAtlas.Text.Digit
import LadderAtlas.Text.Identifier
import LadderAtlas.Text.Printable
import LadderAtlas.Text.Quoted
import LadderAtlas.Text.Ranges
import LadderAtlas.Text.Trim
import LadderAtlas.Text.WordChar
import LadderAtlas.Unique
import LadderAtlas.Usage.Unused
import LadderAtlas.Value
import LadderAtlas.Value.Json
import LadderAtlas.Value.Lookup
import LadderAtlas.Value.Whole
import LadderAtlas.Xml.Codec
import LadderAtlas.Xml.Content
import LadderAtlas.Xml.Declaration
import LadderAtlas.Xml.Doctype
import LadderAtlas.Xml.Element
import LadderAtlas.Xml.Encoding
import LadderAtlas.Xml.NameChar
import LadderAtlas.Xml.Reader
import LadderAtlas.Xml.Scan
import LadderAtlas.Xml.Source
import LadderAtlas.Yaml.Fault
import LadderAtlas.Yaml.Node
import LadderAtlas.Yaml.Plain
import LadderAtlas.Yaml.Reader
import LadderAtlas.Yaml.Token
