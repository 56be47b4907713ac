import Boundary.Text.Case
import Boundary.Text.Blank
import Boundary.Text.Quoted
import Boundary.Text.Utf8
import Boundary.Text.Hex
import Boundary.Text.Lines
import Boundary.Decimal.Layout
import Boundary.Json.Document
import Boundary.Naming
import Boundary.Primitive
import Boundary.TypeExpr
import Boundary.Declaration
import Boundary.Json.Shape
import Boundary.Declaration.Reader
import Boundary.Diagnostic
import Boundary.Source.Writer
import Boundary.Log
import Boundary.Schema.Writer
import Boundary.EntryPoint
import Boundary.Schema.Build
import Boundary.Config
import Boundary.Bindings
import Boundary.Datum
import Boundary.Datum.Json
import Boundary.Call.Flat
import Boundary.Native.Source
import Boundary.Native.Machine
import Boundary.Demo.Library
import Boundary.Demo.Declarations
import Boundary.Managed.Source
import Boundary.Files.Tree
import Boundary.Files.Glob
import Boundary.Query.Reader
import Boundary.Bindings.Write
import Boundary.Declaration.Load
import Boundary.CommandLine.Command
import Boundary.CommandLine.Run
import Boundary.Main
import Boundary.Proofs.Fallible
import Boundary.Proofs.Wire.Reading
import Boundary.Proofs.Datum.RoundTrip
import Boundary.Proofs.Handle.Run
import Boundary.Proofs.Handle.Accessors
import Boundary.Proofs.Resolution
import Boundary.Proofs.Schema.Accepted
import Boundary.Proofs.Schema.Mirror
import Boundary.Proofs.Naming.Snake
import Boundary.Proofs.Schema.Distinct
import Boundary.Proofs.EntryPoint
import Boundary.Proofs.Schema.Symbols
import Boundary.Proofs.Native.Machine
import Boundary.Proofs.Native.Handed
import Boundary.Proofs.Native.Steps
import Boundary.Proofs.Native.Calls
import Boundary.Proofs.Native.Ownership
import Boundary.Proofs.Native.Accounting
import Boundary.Proofs.Native.Books
import Boundary.Proofs.Demo.Accounting
import Boundary.Proofs.Files.Path
import Boundary.Proofs.Files.Walk
import Boundary.Proofs.Files.Place
import Boundary.Proofs.Bindings.Run
import Boundary.Proofs.Bindings.Exchange
import Boundary.Proofs.Bindings.Delivery
import Boundary.Proofs.Bindings.Failure
import Boundary.Proofs.Agreement
import Boundary.Proofs.Managed.Bodies
import Boundary.Proofs.Managed.DistinctMembers
import Boundary.Proofs.Managed.DistinctTypes
import Boundary.Proofs.Handle.Revocation
import Boundary.Proofs.Payload
import Boundary.Proofs.Schema.Growth
import Boundary.Proofs.Schema.Numbering
import Boundary.Proofs.Schema.Order
import Boundary.Proofs.Schema.Cycles
import Boundary.Proofs.Schema.Recursion
import Boundary.Proofs.Datum.Damage
import Boundary.Proofs.Datum.Typing
import Boundary.Proofs.Resolution.Grammar
import Boundary.Proofs.Schema.Located
import Boundary.Proofs.Schema.Passes
import Boundary.Proofs.Schema.Unsupported
import Boundary.Proofs.Naming.Local
import Boundary.Proofs.Naming.SourceName
import Boundary.Proofs.Schema.Parameters
import Boundary.Proofs.Native.ParameterNames
import Boundary.Proofs.Native.TableNames
import Boundary.Proofs.Managed.Variables
import Boundary.Proofs.Managed.LocalNames
import Boundary.Proofs.Managed.Captures
import Boundary.Proofs.Schema.Flat
import Boundary.Proofs.Layout
import Boundary.Proofs.Schema.NameIndex
import Boundary.Proofs.Managed.Creations
import Boundary.Proofs.Managed.OptionUses
import Boundary.Proofs.Managed.Options
import Boundary.Proofs.Managed.Choices
import Boundary.Proofs.Native.TagArms
import Boundary.Proofs.Discriminants
import Boundary.Proofs.CommandLine.Settings
import Boundary.Proofs.CommandLine.Buffers
import Boundary.Proofs.Headings
import Boundary.Proofs.Handle.Occupancy
import Boundary.Proofs.Wire.Positions
import Boundary.Proofs.Naming.NormalForm
import Boundary.Proofs.Brackets
