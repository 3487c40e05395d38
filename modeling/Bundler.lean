import Bundler.CommandLine.Command
import Bundler.CommandLine.Flags
import Bundler.CommandLine.Run
import Bundler.CommandLine.Usage
import Bundler.CommandLine.UsageError
import Bundler.Define.Table
import Bundler.Define.Value
import Bundler.Diagnostic.Log
import Bundler.Diagnostic.Message
import Bundler.Diagnostic.Position
import Bundler.Diagnostic.Render
import Bundler.Diagnostic.Style
import Bundler.Engine.Contract
import Bundler.Engine.Language
import Bundler.Engine.Options
import Bundler.Engine.Transpile
import Bundler.Files.System
import Bundler.Files.Tree
import Bundler.Json.Data
import Bundler.Json.Decode
import Bundler.Json.Numeral
import Bundler.Json.Reader
import Bundler.Json.Tree
import Bundler.Main
import Bundler.Options.Check
import Bundler.Options.Choice
import Bundler.Options.Config
import Bundler.Options.Issue
import Bundler.Options.Logging
import Bundler.Options.Record
import Bundler.Options.Rules
import Bundler.Path.Host
import Bundler.Path.Posix
import Bundler.Proofs.CommandLine.Merged
import Bundler.Proofs.CommandLine.Overlay
import Bundler.Proofs.CommandLine.Values
import Bundler.Proofs.Course
import Bundler.Proofs.Define.Checked
import Bundler.Proofs.Define.Groups
import Bundler.Proofs.Define.Lookup
import Bundler.Proofs.Define.Value
import Bundler.Proofs.Diagnostic.Marker
import Bundler.Proofs.Diagnostic.Position
import Bundler.Proofs.Diagnostic.Styled
import Bundler.Proofs.Files.Agreement
import Bundler.Proofs.Files.Directory
import Bundler.Proofs.Files.Memory
import Bundler.Proofs.Files.Places
import Bundler.Proofs.Files.Reading
import Bundler.Proofs.Files.Writing
import Bundler.Proofs.Json.Codec
import Bundler.Proofs.Json.Constant
import Bundler.Proofs.Json.Writing
import Bundler.Proofs.Json.Written
import Bundler.Proofs.Log
import Bundler.Proofs.Log.Printed
import Bundler.Proofs.Log.Returned
import Bundler.Proofs.Noninterference
import Bundler.Proofs.Options.Admissible
import Bundler.Proofs.Options.Consistent
import Bundler.Proofs.Options.Externals
import Bundler.Proofs.Options.Faults
import Bundler.Proofs.Options.JsxName
import Bundler.Proofs.Options.Loaders
import Bundler.Proofs.Options.Positional
import Bundler.Proofs.Options.WellFormed
import Bundler.Proofs.Options.Written
import Bundler.Proofs.Path.FileName
import Bundler.Proofs.Path.Normal
import Bundler.Proofs.Path.Walk
import Bundler.Proofs.Protocol
import Bundler.Proofs.Text.Bytes
import Bundler.Proofs.Text.Quoted
import Bundler.Proofs.Text.Split
import Bundler.Proofs.Transform
import Bundler.Proofs.Transpile
import Bundler.Proofs.Transpile.Entries
import Bundler.Proofs.Transpile.Outputs
import Bundler.Proofs.Transpile.Placement
import Bundler.Resolve.Options
import Bundler.Resolve.Outcome
import Bundler.Resolve.Package
import Bundler.Resolve.Search
import Bundler.Resolve.Specifier
import Bundler.Resolve.Target
import Bundler.Run.Build
import Bundler.Run.Transform
import Bundler.Script.Language
import Bundler.Script.Lowering
import Bundler.Script.Printer
import Bundler.Script.Program
import Bundler.Script.Reader
import Bundler.Text.Bytes
import Bundler.Text.CodePoints
import Bundler.Text.Dictionary
import Bundler.Text.Identifier
import Bundler.Text.IdentifierTable
import Bundler.Text.NumberedTable
import Bundler.Text.Plain
import Bundler.Text.Quoted
