import BindingStubs.Artifact
import BindingStubs.Cache.Basic
import BindingStubs.Cache.Entry
import BindingStubs.CommandLine.Argument
import BindingStubs.CommandLine.Invocation
import BindingStubs.Compiler.Basic
import BindingStubs.Compiler.Options
import BindingStubs.Config.Basic
import BindingStubs.Config.Commented
import BindingStubs.Config.Inputs
import BindingStubs.Config.Interchange
import BindingStubs.Config.Reading
import BindingStubs.CppType.Basic
import BindingStubs.CppType.FunctionType
import BindingStubs.CppType.Spelling
import BindingStubs.CppType.Substitution
import BindingStubs.Dump.Basic
import BindingStubs.Dump.Conversion
import BindingStubs.Dump.PrintedString
import BindingStubs.Dump.Reader
import BindingStubs.Extraction.Call
import BindingStubs.Extraction.Dispatcher
import BindingStubs.Extraction.Exporter
import BindingStubs.Extraction.Fragment
import BindingStubs.Extraction.Idiom
import BindingStubs.Extraction.Receiver
import BindingStubs.Extraction.Shape
import BindingStubs.Extraction.Traversal
import BindingStubs.Failure
import BindingStubs.Fault
import BindingStubs.FileChange
import BindingStubs.FilePath
import BindingStubs.FileTree
import BindingStubs.Glob.Basic
import BindingStubs.Glob.Reader
import BindingStubs.Json.Basic
import BindingStubs.Json.Numeral
import BindingStubs.Json.Reader
import BindingStubs.Json.Record
import BindingStubs.Json.Writer
import BindingStubs.Keyed
import BindingStubs.Literal
import BindingStubs.Location
import BindingStubs.Main
import BindingStubs.MakeRule
import BindingStubs.Model.Basic
import BindingStubs.Model.Definitions
import BindingStubs.Model.Interchange
import BindingStubs.Model.Merge
import BindingStubs.Model.Naming
import BindingStubs.Model.Registration
import BindingStubs.Model.Rule
import BindingStubs.PostFormatter
import BindingStubs.Program
import BindingStubs.Proofs.Cache.EntryFile
import BindingStubs.Proofs.Cache.Freshness
import BindingStubs.Proofs.Cache.Genuine
import BindingStubs.Proofs.Cache.Session
import BindingStubs.Proofs.Combining.Associativity
import BindingStubs.Proofs.Combining.Basic
import BindingStubs.Proofs.Combining.Gathering
import BindingStubs.Proofs.Combining.Items
import BindingStubs.Proofs.Combining.Parts
import BindingStubs.Proofs.Combining.Reordering
import BindingStubs.Proofs.CppType.Brackets
import BindingStubs.Proofs.CppType.Declarators
import BindingStubs.Proofs.CppType.Reading
import BindingStubs.Proofs.CppType.Spellings
import BindingStubs.Proofs.CppType.Stripping
import BindingStubs.Proofs.CppType.Structure
import BindingStubs.Proofs.CppType.Substitution
import BindingStubs.Proofs.Extraction.Fragment
import BindingStubs.Proofs.FileTree
import BindingStubs.Proofs.Json.RoundTrip
import BindingStubs.Proofs.Json.Tokens
import BindingStubs.Proofs.Keyed
import BindingStubs.Proofs.Model.Aggregation
import BindingStubs.Proofs.Model.Agreement
import BindingStubs.Proofs.Model.Change
import BindingStubs.Proofs.Model.ClassDescription
import BindingStubs.Proofs.Model.Contents
import BindingStubs.Proofs.Model.Entries
import BindingStubs.Proofs.Model.EnumDescription
import BindingStubs.Proofs.Model.FragmentOrder
import BindingStubs.Proofs.Model.Interchange
import BindingStubs.Proofs.Model.Lookup
import BindingStubs.Proofs.Model.Members
import BindingStubs.Proofs.Model.ModuleDescription
import BindingStubs.Proofs.Model.Reachable
import BindingStubs.Proofs.Model.Splitting
import BindingStubs.Proofs.Model.Tables
import BindingStubs.Proofs.Naming.Containment
import BindingStubs.Proofs.Naming.Filling
import BindingStubs.Proofs.Naming.QualifiedNames
import BindingStubs.Proofs.Naming.Settling
import BindingStubs.Proofs.Naming.Walk
import BindingStubs.Proofs.Resolution.Matching
import BindingStubs.Proofs.Resolution.Specificity
import BindingStubs.Proofs.Text.Characters
import BindingStubs.Proofs.Text.Trimming
import BindingStubs.Report
import BindingStubs.Resolution.Builtin
import BindingStubs.Resolution.Matching
import BindingStubs.Resolution.Resolver
import BindingStubs.Resolution.Specificity
import BindingStubs.Run.Basic
import BindingStubs.Run.Fragments
import BindingStubs.Run.Frontend
import BindingStubs.Run.Options
import BindingStubs.Script.Basic
import BindingStubs.Script.Evaluation
import BindingStubs.Script.Expansion
import BindingStubs.Script.Reader
import BindingStubs.Script.StandardCommand
import BindingStubs.Script.Token
import BindingStubs.Stub.Emission
import BindingStubs.Stub.Line
import BindingStubs.Stub.ParameterName
import BindingStubs.Stub.Rendering
import BindingStubs.Text.Alphabetic
import BindingStubs.Text.Basic
import BindingStubs.Text.Decimal
import BindingStubs.Text.Printable
import BindingStubs.Text.Quoted
import BindingStubs.Text.RangeTable
import BindingStubs.Text.ShortestReal
import BindingStubs.Text.Utf8
import BindingStubs.Text.WhiteSpace
import BindingStubs.Text.WordCharacter
import BindingStubs.Tool
import BindingStubs.Tree.Kind
import BindingStubs.Tree.Unit
import BindingStubs.Width
import BindingStubs.World
import BindingStubs.Xxh64
import BindingStubs.Yaml.Basic
import BindingStubs.Yaml.Reader
import BindingStubs.Yaml.Writer
import BindingStubs.Proofs.CppType.Weight
import BindingStubs.Proofs.Resolution.Choice
import BindingStubs.Proofs.Resolution.Steps
import BindingStubs.Proofs.Resolution.References
import BindingStubs.Proofs.Resolution.Simulation
import BindingStubs.Proofs.Resolution.RuleOrder
import BindingStubs.Proofs.Resolution.Variants
import BindingStubs.Proofs.Resolution.Deduplication
import BindingStubs.Proofs.Resolution.Termination
import BindingStubs.Proofs.Resolution.Placeholders
import BindingStubs.Proofs.Resolution.Respelling
import BindingStubs.Proofs.Resolution.ParameterNames
import BindingStubs.Proofs.Model.Export
import BindingStubs.Proofs.Model.Decoding
import BindingStubs.Proofs.Model.RoundTrip
import BindingStubs.Proofs.Model.Validity
import BindingStubs.Proofs.Stub.Paths
import BindingStubs.Proofs.Stub.Emission
import BindingStubs.Proofs.Model.Overloads
import BindingStubs.Proofs.Stub.Layout
import BindingStubs.Proofs.Run.Pool
import BindingStubs.Proofs.Run.Schedules
import BindingStubs.Proofs.Extraction.WrappedUnits
import BindingStubs.Proofs.MakeRule
import BindingStubs.Proofs.Stub.Docstrings
import BindingStubs.Proofs.Extraction.Constants
import BindingStubs.Proofs.Dump.Locations
import BindingStubs.Proofs.Dump.StringLiterals
import BindingStubs.Proofs.Model.Refusals
import BindingStubs.Proofs.Extraction.PostOrder
import BindingStubs.Proofs.Resolution.Callables
import BindingStubs.Proofs.Stub.ParameterNames
import BindingStubs.Proofs.Extraction.ModuleReceivers
import BindingStubs.Proofs.Dump.Linking
import BindingStubs.Proofs.CppType.Offsets
import BindingStubs.Proofs.Extraction.Enumerators
import BindingStubs.Proofs.Literal
