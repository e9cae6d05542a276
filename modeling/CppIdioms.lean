import CppIdioms.Analysis.Engine
import CppIdioms.Analysis.Run
import CppIdioms.Catalog.Basic
import CppIdioms.Catalog.Builtin
import CppIdioms.Catalog.Registry
import CppIdioms.CppType.Basic
import CppIdioms.CppType.Reading
import CppIdioms.CppType.Spelling
import CppIdioms.Error
import CppIdioms.Fault
import CppIdioms.Files.Path
import CppIdioms.Files.Store
import CppIdioms.Files.Tagged
import CppIdioms.Literal.Constant
import CppIdioms.Literal.Number
import CppIdioms.Literal.Single
import CppIdioms.Literal.Token
import CppIdioms.Log.Event
import CppIdioms.Log.Level
import CppIdioms.Number.Binary64
import CppIdioms.Number.Decimal
import CppIdioms.Number.Shortest
import CppIdioms.Proofs.Answers
import CppIdioms.Proofs.ArrayExtents
import CppIdioms.Proofs.Capitals
import CppIdioms.Proofs.CharacterLiterals
import CppIdioms.Proofs.CommaTrees
import CppIdioms.Proofs.ConstErasure
import CppIdioms.Proofs.Correspondence
import CppIdioms.Proofs.Counting
import CppIdioms.Proofs.Deduplication
import CppIdioms.Proofs.DumpErrors
import CppIdioms.Proofs.DumpReading
import CppIdioms.Proofs.Exclusion
import CppIdioms.Proofs.FloatingLiterals
import CppIdioms.Proofs.Identifiers
import CppIdioms.Proofs.Insensitivity
import CppIdioms.Proofs.Inspection
import CppIdioms.Proofs.IntegerLiterals
import CppIdioms.Proofs.Invariance
import CppIdioms.Proofs.Lifecycle
import CppIdioms.Proofs.Likeness
import CppIdioms.Proofs.Loaders
import CppIdioms.Proofs.LocalTags
import CppIdioms.Proofs.Locations
import CppIdioms.Proofs.Modification
import CppIdioms.Proofs.Notations
import CppIdioms.Proofs.NullArguments
import CppIdioms.Proofs.NumberForms
import CppIdioms.Proofs.Numerals
import CppIdioms.Proofs.Ownership
import CppIdioms.Proofs.ParentTable
import CppIdioms.Proofs.PointerConst
import CppIdioms.Proofs.Preorder
import CppIdioms.Proofs.Provenance
import CppIdioms.Proofs.Reduction
import CppIdioms.Proofs.Registration
import CppIdioms.Proofs.Rehanging
import CppIdioms.Proofs.ReportAlgebra
import CppIdioms.Proofs.ReportLaws
import CppIdioms.Proofs.Respelling
import CppIdioms.Proofs.Robustness
import CppIdioms.Proofs.RoleIndifference
import CppIdioms.Proofs.Schedules
import CppIdioms.Proofs.SettingsReading
import CppIdioms.Proofs.SingleLiterals
import CppIdioms.Proofs.SizeComparisons
import CppIdioms.Proofs.Spelling
import CppIdioms.Proofs.SwitchChains
import CppIdioms.Proofs.Thresholds
import CppIdioms.Proofs.Tokens
import CppIdioms.Proofs.Traversal
import CppIdioms.Proofs.TypeMappings
import CppIdioms.Proofs.TypeReading
import CppIdioms.Proofs.TypeShorthand
import CppIdioms.Proofs.ValueEquality
import CppIdioms.Proofs.WrapperRoles
import CppIdioms.Proofs.YamlLoader
import CppIdioms.Proofs.ZeroSpellings
import CppIdioms.Report.Basic
import CppIdioms.Report.Collector
import CppIdioms.Report.Finding
import CppIdioms.Report.Summary
import CppIdioms.Rule.Basic
import CppIdioms.Rule.CastStyle
import CppIdioms.Rule.ConstLocal
import CppIdioms.Rule.CopiedParameter
import CppIdioms.Rule.CopyingLoop
import CppIdioms.Rule.DiscardedPostfix
import CppIdioms.Rule.EmptinessTest
import CppIdioms.Rule.FlushingNewline
import CppIdioms.Rule.ImplicitConversion
import CppIdioms.Rule.MacroConstant
import CppIdioms.Rule.NamespaceImport
import CppIdioms.Rule.NarrowingInit
import CppIdioms.Rule.NullArgument
import CppIdioms.Rule.Probe
import CppIdioms.Rule.RawArray
import CppIdioms.Rule.RawOwnership
import CppIdioms.Rule.SignedIndex
import CppIdioms.Rule.SwitchChain
import CppIdioms.Rule.TypedefAlias
import CppIdioms.Rule.UnscopedEnum
import CppIdioms.Settings.Basic
import CppIdioms.Settings.Loading
import CppIdioms.Settings.Reading
import CppIdioms.Table
import CppIdioms.Text.Blank
import CppIdioms.Text.Digit
import CppIdioms.Text.Erase
import CppIdioms.Text.Numeral
import CppIdioms.Text.Printable
import CppIdioms.Text.Quoted
import CppIdioms.Text.Upper
import CppIdioms.Text.Word
import CppIdioms.Tree.Cursor
import CppIdioms.Tree.Dump
import CppIdioms.Tree.Kind
import CppIdioms.Tree.Loading
import CppIdioms.Tree.Location
import CppIdioms.Tree.Node
import CppIdioms.Tree.Parents
import CppIdioms.Tree.Peel
import CppIdioms.Tree.Shape
import CppIdioms.Tree.Span
import CppIdioms.Value.Basic
import CppIdioms.Value.Compare
import CppIdioms.Value.Elements
import CppIdioms.Value.Text
import CppIdioms.Yaml.Block
import CppIdioms.Yaml.Document
import CppIdioms.Yaml.Grammar
import CppIdioms.Yaml.Layout
import CppIdioms.Yaml.Node
import CppIdioms.Yaml.Plain
import CppIdioms.Yaml.Point
import CppIdioms.Yaml.Property
import CppIdioms.Yaml.Quoted
import CppIdioms.Yaml.Scalar
import CppIdioms.Yaml.Schema
import CppIdioms.Yaml.Tag
import CppIdioms.Yaml.Timestamp
import CppIdioms.Yaml.Token
