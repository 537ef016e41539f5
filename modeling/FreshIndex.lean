import FreshIndex.CheckLevel
import FreshIndex.Checker
import FreshIndex.Codec.Decode
import FreshIndex.Codec.Model
import FreshIndex.Config
import FreshIndex.DocumentUri
import FreshIndex.Event
import FreshIndex.FilePath
import FreshIndex.FileTable
import FreshIndex.FileTree.Basic
import FreshIndex.FileTree.Change
import FreshIndex.FileTree.Snapshot
import FreshIndex.FirstByKey
import FreshIndex.Host
import FreshIndex.Json.Basic
import FreshIndex.Json.Printer
import FreshIndex.Json.Reader
import FreshIndex.ListedIndex
import FreshIndex.Memo
import FreshIndex.Number.Binary64
import FreshIndex.Number.Decimal
import FreshIndex.Number.Extended
import FreshIndex.Number.Numeral
import FreshIndex.Pattern
import FreshIndex.Proofs.Checker.Advance
import FreshIndex.Proofs.Checker.Edits
import FreshIndex.Proofs.Checker.Links
import FreshIndex.Proofs.Checker.Lookup
import FreshIndex.Proofs.Checker.Observation
import FreshIndex.Proofs.Checker.OneSnapshot
import FreshIndex.Proofs.Checker.Repeat
import FreshIndex.Proofs.Checker.Steps
import FreshIndex.Proofs.Checker.Trace
import FreshIndex.Proofs.Containers.Activation
import FreshIndex.Proofs.Containers.Growth
import FreshIndex.Proofs.Containers.History
import FreshIndex.Proofs.Containers.Known
import FreshIndex.Proofs.Containers.RelationOrder
import FreshIndex.Proofs.Containers.Resolution
import FreshIndex.Proofs.Containers.Trail
import FreshIndex.Proofs.DocumentUri.Address
import FreshIndex.Proofs.DocumentUri.Display
import FreshIndex.Proofs.DocumentUri.Spelling
import FreshIndex.Proofs.FilePath.NormalForm
import FreshIndex.Proofs.FileTree.Chain
import FreshIndex.Proofs.FileTree.Newest
import FreshIndex.Proofs.FileTree.Path
import FreshIndex.Proofs.FileTree.Walk
import FreshIndex.Proofs.Number.Numeral
import FreshIndex.Proofs.Pattern.IgnoringCase
import FreshIndex.Proofs.Pattern.Subsequence
import FreshIndex.Proofs.Run
import FreshIndex.Proofs.Scene.Basic
import FreshIndex.Proofs.Scene.Checker
import FreshIndex.Proofs.Scene.Containers
import FreshIndex.Proofs.Scene.Examined
import FreshIndex.Proofs.Scene.Query
import FreshIndex.Proofs.Scene.StaleData
import FreshIndex.Proofs.Scene.Units
import FreshIndex.Proofs.Scene.View
import FreshIndex.Proofs.Store.Answers
import FreshIndex.Proofs.Store.Catalog
import FreshIndex.Proofs.Store.Connection
import FreshIndex.Proofs.Store.Contents
import FreshIndex.Proofs.Store.Corruption
import FreshIndex.Proofs.Store.Failures
import FreshIndex.Proofs.Store.History
import FreshIndex.Proofs.Store.MainFiles
import FreshIndex.Proofs.Store.Migration
import FreshIndex.Proofs.Store.Reading
import FreshIndex.Proofs.Store.Setup
import FreshIndex.Proofs.Store.Statements
import FreshIndex.Proofs.Store.Timeouts
import FreshIndex.Proofs.Store.UnitTests
import FreshIndex.Proofs.Symbol.Key
import FreshIndex.Proofs.Symbol.Order
import FreshIndex.Proofs.Text.Percent
import FreshIndex.Proofs.Text.Utf8
import FreshIndex.Proofs.Timestamp.Clock
import FreshIndex.Proofs.Url.DotSegment
import FreshIndex.Proofs.Url.FileAddress
import FreshIndex.Proofs.Url.Trail
import FreshIndex.Proofs.View.Enumeration
import FreshIndex.Proofs.View.Levels
import FreshIndex.Proofs.View.Memory
import FreshIndex.Proofs.View.Primary
import FreshIndex.Proofs.View.Spelling
import FreshIndex.Proofs.View.Units
import FreshIndex.RawIndex
import FreshIndex.Store.Catalog
import FreshIndex.Store.Cell
import FreshIndex.Store.Connection
import FreshIndex.Store.Database
import FreshIndex.Store.Error
import FreshIndex.Store.History
import FreshIndex.Store.Migration
import FreshIndex.Store.Opening
import FreshIndex.Store.Query
import FreshIndex.Store.Schema
import FreshIndex.Store.StoredIndex
import FreshIndex.Symbol.Basic
import FreshIndex.Symbol.Kind
import FreshIndex.Symbol.Occurrence
import FreshIndex.Symbol.Roles
import FreshIndex.Symbol.RolesText
import FreshIndex.Text.Blank
import FreshIndex.Text.CaseIgnorable
import FreshIndex.Text.Cased
import FreshIndex.Text.GraphemeExtend
import FreshIndex.Text.LowerCase
import FreshIndex.Text.LowerCase.Table
import FreshIndex.Text.Percent
import FreshIndex.Text.Printable
import FreshIndex.Text.Quoted
import FreshIndex.Text.Ranges
import FreshIndex.Text.Utf8
import FreshIndex.Timestamp
import FreshIndex.Timestamp.Clock
import FreshIndex.Url.Address
import FreshIndex.Url.Basic
import FreshIndex.Url.Host
import FreshIndex.Url.Path
import FreshIndex.View.Basic
import FreshIndex.View.Containers
