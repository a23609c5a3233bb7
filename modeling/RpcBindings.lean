import RpcBindings.Unicode.Alphanumeric
import RpcBindings.Unicode.Case
import RpcBindings.Unicode.Visible
import RpcBindings.Unicode.WhiteSpace
import RpcBindings.Name.Casing
import RpcBindings.Name.Reference
import RpcBindings.Name.Spelling
import RpcBindings.Text.Quoted
import RpcBindings.Json.Basic
import RpcBindings.Json.Printer
import RpcBindings.Json.Reader
import RpcBindings.Json.Record
import RpcBindings.Layout
import RpcBindings.NameSet
import RpcBindings.Descriptor.Basic
import RpcBindings.Descriptor.Codec
import RpcBindings.Binding
import RpcBindings.Dialect.Basic
import RpcBindings.Generate
import RpcBindings.Dialect.Builtin
import RpcBindings.Proofs.Traversal
import RpcBindings.Proofs.Table
import RpcBindings.Proofs.Registry.Walk
import RpcBindings.Proofs.Registry.Loading
import RpcBindings.Proofs.Registry.Lookup
import RpcBindings.Proofs.Dialect.MethodOrder
import RpcBindings.Proofs.Generation.Outcome
import RpcBindings.Proofs.Store.Reading
import RpcBindings.Proofs.Store.Agreement
import RpcBindings.Proofs.Store.Keys
import RpcBindings.Proofs.Script.ExportNames
import RpcBindings.Proofs.Registry.Location
import RpcBindings.Proofs.TypeImports.Collection
import RpcBindings.Proofs.Script.Frames
import RpcBindings.Proofs.TypeImports.Binding
import RpcBindings.Proofs.Promises.Imports
import RpcBindings.Proofs.Declarations.Places
import RpcBindings.Proofs.Declarations.Imports
import RpcBindings.Proofs.Declarations.Scoping
import RpcBindings.Proofs.Layout.Lines
import RpcBindings.Proofs.Declarations.PlainNames
import RpcBindings.Proofs.Declarations.Reading
import RpcBindings.Proofs.Declarations.Listing
import RpcBindings.Proofs.Declarations.Contents
import RpcBindings.Proofs.Declarations.TopLevel
import RpcBindings.Proofs.Bridge.Imports
import RpcBindings.Proofs.Path.Resolution
import RpcBindings.Proofs.TypeImports.Modules
import RpcBindings.Proofs.TypeImports.Roots
import RpcBindings.Proofs.TypeImports.Specifiers
import RpcBindings.Proofs.Registry.Agreement
import RpcBindings.Proofs.Registry.Nesting
import RpcBindings.Proofs.Generation.Agreement
import RpcBindings.Proofs.Generation.Streams
import RpcBindings.Proofs.Script.Statements
import RpcBindings.Proofs.Script.Legible
import RpcBindings.Proofs.Script.Reading
import RpcBindings.Proofs.Script.Vocabulary
import RpcBindings.Proofs.Script.TopLevel
import RpcBindings.Proofs.Script.TypeNames
import RpcBindings.Proofs.Json.Levels
import RpcBindings.Proofs.Descriptor.RoundTrip
import RpcBindings.Proofs.Generation.Settings
import RpcBindings.Proofs.FirstOccurrences
import RpcBindings.Proofs.Script.Templates
import RpcBindings.Proofs.Script.TypeLists
import RpcBindings.Proofs.Name.CaseClosed
import RpcBindings.Proofs.Name.Letters
import RpcBindings.Proofs.Name.Collisions
import RpcBindings.Proofs.Commands.Flags
import RpcBindings.Proofs.Commands.Names
import RpcBindings.Proofs.Commands.Packages
import RpcBindings.Proofs.Generation.Fragments
import RpcBindings.Proofs.Layout.Gaps
import RpcBindings.Proofs.Layout.Brackets
import RpcBindings.Proofs.Name.Portable
import RpcBindings.Proofs.Brackets.Files
import RpcBindings.Proofs.Brackets.Dialects
import RpcBindings.Proofs.Brackets.Commands
import RpcBindings.Proofs.Brackets.Scripts
import RpcBindings.Proofs.Brackets.Stores
import RpcBindings.Proofs.Brackets.Declarations
import RpcBindings.Proofs.Brackets.Output
import RpcBindings.Proofs.Name.ActionTypes
import RpcBindings.Proofs.Store.Actions
import RpcBindings.Proofs.Options.Parameter
import RpcBindings.Proofs.Registry.Qualified
import RpcBindings.Proofs.Generation.Views
import RpcBindings.Proofs.Generation.Qualified
import RpcBindings.Proofs.Generation.OutputNames
import RpcBindings.Proofs.Name.LeadingRun
import RpcBindings.Proofs.Name.Separated
import RpcBindings.Proofs.Name.RunTogether
import RpcBindings.Proofs.Declarations.Blocks
import RpcBindings.Proofs.Declarations.Entries
import RpcBindings.Proofs.NameSet
import RpcBindings.Proofs.Layout.Buffers
import RpcBindings.Proofs.Layout.Indentation
import RpcBindings.Proofs.Indentation.Dialects
import RpcBindings.Proofs.Indentation.Commands
import RpcBindings.Proofs.Indentation.Scripts
import RpcBindings.Proofs.Indentation.Declarations
import RpcBindings.Proofs.Indentation.Output
