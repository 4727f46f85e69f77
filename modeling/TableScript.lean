import TableScript.Command
import TableScript.CommandLine.Grammar
import TableScript.CommandLine.Help
import TableScript.CommandLine.Parse
import TableScript.Configuration
import TableScript.Configuration.Decode
import TableScript.Database
import TableScript.Decimal.Shortest
import TableScript.Description
import TableScript.Description.Decode
import TableScript.Dialect
import TableScript.Error
import TableScript.FieldType
import TableScript.Files
import TableScript.Identifier
import TableScript.Json.Error
import TableScript.Json.Printer
import TableScript.Json.Reader
import TableScript.Json.Skip
import TableScript.Json.Value
import TableScript.Load
import TableScript.Log
import TableScript.Log.Filter
import TableScript.Main
import TableScript.Program
import TableScript.Report
import TableScript.Script
import TableScript.Specification
import TableScript.Specification.Builder
import TableScript.Statement
import TableScript.Text.CaseTable
import TableScript.Text.DigitTable
import TableScript.Text.HiddenTable
import TableScript.Text.Literal
import TableScript.Text.Terminal
import TableScript.Text.Uppercase
import TableScript.Text.White
import TableScript.Toon
import TableScript.Proofs.Quoting
import TableScript.Proofs.Decoding
import TableScript.Proofs.Acceptance
import TableScript.Proofs.Session
import TableScript.Proofs.Enclosure
import TableScript.Proofs.Interleaving
import TableScript.Proofs.Agreement
import TableScript.Proofs.Settings
import TableScript.Proofs.Rereading
import TableScript.Proofs.Spelling
import TableScript.Proofs.Naming
import TableScript.Proofs.Coverage
import TableScript.Proofs.Precedence
import TableScript.Proofs.FirstFault
import TableScript.Proofs.Growth
import TableScript.Proofs.Members
import TableScript.Proofs.Gathering
import TableScript.Proofs.Trimming
import TableScript.Proofs.KeyClauses
import TableScript.Proofs.Lossless
