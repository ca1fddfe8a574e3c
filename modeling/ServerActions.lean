import ServerActions.Action.Call
import ServerActions.Action.Source
import ServerActions.Checked.Basic
import ServerActions.Checked.Fields
import ServerActions.Console.Arguments
import ServerActions.Console.Footprint
import ServerActions.Console.Markup
import ServerActions.Console.Run
import ServerActions.Description.Document
import ServerActions.Description.Outline
import ServerActions.Description.Schema
import ServerActions.Failure.Basic
import ServerActions.Failure.Cause
import ServerActions.Files.Path
import ServerActions.Files.Tree
import ServerActions.Generation.Document
import ServerActions.Generation.Generator
import ServerActions.Generation.Operation
import ServerActions.Json.Quoted
import ServerActions.Json.Reader
import ServerActions.Loading.Check
import ServerActions.Loading.File
import ServerActions.Loading.Format
import ServerActions.Loading.Source
import ServerActions.Loading.Url
import ServerActions.Main
import ServerActions.Network.Address
import ServerActions.Network.Punycode
import ServerActions.Network.Response
import ServerActions.Network.Url
import ServerActions.Notice
import ServerActions.Number.Binary64
import ServerActions.Number.Shortest
import ServerActions.Output.Emitter
import ServerActions.Place
import ServerActions.Proofs.Checked
import ServerActions.Proofs.Console.ExitCode
import ServerActions.Proofs.Console.Markup
import ServerActions.Proofs.Description.Change
import ServerActions.Proofs.Description.Containment
import ServerActions.Proofs.Description.Declared
import ServerActions.Proofs.Description.Document
import ServerActions.Proofs.Description.Outline
import ServerActions.Proofs.Description.Parts
import ServerActions.Proofs.Description.Rereading
import ServerActions.Proofs.Description.Sites
import ServerActions.Proofs.Entries
import ServerActions.Proofs.Files.Tree
import ServerActions.Proofs.Generation.Collisions
import ServerActions.Proofs.Generation.Compilation
import ServerActions.Proofs.Generation.Declared
import ServerActions.Proofs.Generation.Generate
import ServerActions.Proofs.Generation.History
import ServerActions.Proofs.Generation.Interrupted
import ServerActions.Proofs.Generation.Names
import ServerActions.Proofs.Generation.Parameters
import ServerActions.Proofs.Generation.Placeholders
import ServerActions.Proofs.Generation.Url
import ServerActions.Proofs.Generation.Written
import ServerActions.Proofs.Json.Quoted
import ServerActions.Proofs.Loading.WellFormed
import ServerActions.Proofs.Output.Directory
import ServerActions.Proofs.Output.Modules
import ServerActions.Proofs.Reference.Chain
import ServerActions.Proofs.Reference.Components
import ServerActions.Proofs.Reference.Conformance
import ServerActions.Proofs.Reference.Depth
import ServerActions.Proofs.Reference.Derivation
import ServerActions.Proofs.Reference.Failures
import ServerActions.Proofs.Reference.Inline
import ServerActions.Proofs.Reference.Layer
import ServerActions.Proofs.Reference.Memory
import ServerActions.Proofs.Reference.Mirror
import ServerActions.Proofs.Reference.Occurrence
import ServerActions.Proofs.Reference.Pointer
import ServerActions.Proofs.Reference.Reachability
import ServerActions.Proofs.Reference.Readable
import ServerActions.Proofs.Reference.Session
import ServerActions.Proofs.Reference.Termination
import ServerActions.Proofs.Reference.Trail
import ServerActions.Proofs.Reference.Transparency
import ServerActions.Proofs.Reference.Unparsed
import ServerActions.Proofs.Settings.Failures
import ServerActions.Proofs.Text.Lines
import ServerActions.Proofs.Text.Numeral
import ServerActions.Proofs.TypeScript.Binding
import ServerActions.Proofs.TypeScript.Comment
import ServerActions.Proofs.TypeScript.Identifier
import ServerActions.Proofs.TypeScript.Meaning
import ServerActions.Proofs.TypeScript.OperationName
import ServerActions.Proofs.TypeScript.Placeholder
import ServerActions.Proofs.TypeScript.PropertyKey
import ServerActions.Proofs.TypeScript.Reading
import ServerActions.Proofs.TypeScript.Template
import ServerActions.Proofs.Value.WellFormed
import ServerActions.Reference.Editing
import ServerActions.Reference.Pointer
import ServerActions.Reference.Resolver
import ServerActions.Reference.Synthesis
import ServerActions.Settings.Basic
import ServerActions.Settings.Document
import ServerActions.Settings.File
import ServerActions.Text.Blank
import ServerActions.Text.Case
import ServerActions.Text.Digit
import ServerActions.Text.Glob
import ServerActions.Text.Lines
import ServerActions.Text.Quoted
import ServerActions.Text.Split
import ServerActions.Text.Utf8
import ServerActions.Toml.Reader
import ServerActions.Toml.Table
import ServerActions.TypeScript.Comment
import ServerActions.TypeScript.Identifier
import ServerActions.TypeScript.Template
import ServerActions.TypeScript.TypeExpr
import ServerActions.Value.Basic
import ServerActions.Value.Moment
import ServerActions.Value.Outline
import ServerActions.Value.Spelling
import ServerActions.Yaml.Cursor
import ServerActions.Yaml.Fault
import ServerActions.Yaml.Node
import ServerActions.Yaml.Numeral
import ServerActions.Yaml.Reader
import ServerActions.Yaml.Scalar
import ServerActions.Yaml.Tag
import ServerActions.Yaml.Token
import ServerActions.Proofs.Text.Surrogate
import ServerActions.Proofs.Generation.Encoding
