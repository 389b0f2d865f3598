import Inventory.Text.Utf8
import Inventory.Unicode.Table
import Inventory.Unicode.Category
import Inventory.Unicode.Script
import Inventory.Unicode.Fold
import Inventory.Unicode.Property
import Inventory.Text.Printable
import Inventory.Text.Quote
import Inventory.Json.Scan
import Inventory.Json.Value
import Inventory.Json.Number
import Inventory.Json.Read
import Inventory.Json.Layout
import Inventory.Json.Encode
import Inventory.Document.Basic
import Inventory.Document.Read
import Inventory.Text.Replace
import Inventory.Document.Assemble
import Inventory.Text.Base64
import Inventory.Text.Space
import Inventory.Time.Duration
import Inventory.Net.Addr
import Inventory.Net.Url
import Inventory.Host.Path
import Inventory.Host.Files
import Inventory.Probe.Command
import Inventory.Config.Basic
import Inventory.Config.Check
import Inventory.Config.Read
import Inventory.Host.System
import Inventory.Program.Basic
import Inventory.Tools.Basic
import Inventory.Shell.Syntax
import Inventory.Shell.Parse
import Inventory.Shell.State
import Inventory.Shell.Pattern
import Inventory.Shell.Arith
import Inventory.Shell.Expand
import Inventory.Shell.Test
import Inventory.Shell.Redirect
import Inventory.Shell.Builtin.Basic
import Inventory.Shell.Builtin.Output
import Inventory.Shell.Builtin.Vars
import Inventory.Shell.Builtin.Lookup
import Inventory.Shell.Builtin.Signal
import Inventory.Shell.Eval
import Inventory.Shell.Start
import Inventory.Tools.Echo
import Inventory.Tools.Cat
import Inventory.Tools.Od
import Inventory.Tools.Sleep
import Inventory.Tools.Env
import Inventory.Program.Exec
import Inventory.Probe.Run
import Inventory.Manifest
import Inventory.Collection
import Inventory.Summary
import Inventory.Number.Binary64
import Inventory.Time.Date
import Inventory.Token
import Inventory.Uuid
import Inventory.Upload.Http
import Inventory.Upload.Client
import Inventory.Upload.Send
import Inventory.Number.Shortest
import Inventory.Number.Rounded
import Inventory.Number.Reading
import Inventory.Text.Conversion
import Inventory.Tools.Printf
import Inventory.Regex.Syntax
import Inventory.Regex.Match
import Inventory.Schema.Node
import Inventory.Schema.Reference
import Inventory.Schema.Canonical
import Inventory.Schema.Load
import Inventory.Mail.EncodedWord
import Inventory.Mail.Address
import Inventory.Schema.Format
import Inventory.Schema.Validate
import Inventory.Schema.Bundled
import Inventory.Validation
import Inventory.Cli.Flags
import Inventory.Cli.Commands
import Inventory.Cli.Dotenv
import Inventory.Cli.Run
import Inventory.Main
import Inventory.Proofs.Text.Utf8
import Inventory.Proofs.Json.Machine
import Inventory.Proofs.Json.Embed
import Inventory.Proofs.Json.Extent
import Inventory.Proofs.Json.Layout
import Inventory.Proofs.Json.Strings
import Inventory.Proofs.Json.Repair
import Inventory.Proofs.Json.Quote
import Inventory.Proofs.Document.Members
import Inventory.Proofs.Document.Split
import Inventory.Proofs.Document.Store
import Inventory.Proofs.Document.Parse
import Inventory.Proofs.Document.Render
import Inventory.Proofs.Document.Nesting
import Inventory.Proofs.Document.Merge
import Inventory.Proofs.Document.Reading
import Inventory.Proofs.Document.Assembly
import Inventory.Proofs.Document.Flatten
import Inventory.Proofs.Cli.Root
import Inventory.Proofs.Json.Arrays
import Inventory.Proofs.Json.Scalars
import Inventory.Proofs.Json.Write
import Inventory.Proofs.Document.Invariant
import Inventory.Proofs.Json.Grammar
import Inventory.Proofs.Json.Literals
import Inventory.Proofs.Json.Elements
import Inventory.Proofs.Json.Stream
import Inventory.Proofs.Document.Classify
import Inventory.Proofs.Json.Writable
import Inventory.Proofs.Document.Set
import Inventory.Proofs.Config.Layers
import Inventory.Proofs.Config.Timeout
import Inventory.Proofs.Upload.Send
import Inventory.Proofs.Summary
import Inventory.Proofs.Json.Unescape
import Inventory.Proofs.Json.RepairedTree
