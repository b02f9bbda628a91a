import LintServer.CommandLine
import LintServer.Decimal.Binary64
import LintServer.Disk.Basic
import LintServer.Disk.Edit
import LintServer.Disk.Touch
import LintServer.Json.Basic
import LintServer.Json.Text
import LintServer.Lint.Diagnostic
import LintServer.Lint.Finding
import LintServer.Main
import LintServer.Path.Basic
import LintServer.Proofs.Findings
import LintServer.Proofs.Roots
import LintServer.Protocol.Capabilities
import LintServer.Protocol.Method
import LintServer.Protocol.Shape
import LintServer.Regex.Basic
import LintServer.Regex.Bracket
import LintServer.Regex.Error
import LintServer.Regex.Escape
import LintServer.Regex.Expr
import LintServer.Regex.Flags
import LintServer.Regex.Pattern
import LintServer.Regex.Program
import LintServer.Regex.Search
import LintServer.Regex.Size
import LintServer.Root.Cache
import LintServer.Root.Find
import LintServer.Rule.Base
import LintServer.Rule.Basic
import LintServer.Rule.File
import LintServer.Rule.Schema
import LintServer.Server.Basic
import LintServer.Server.Dialogue
import LintServer.Server.Folder
import LintServer.Server.Session
import LintServer.Server.Wire
import LintServer.Settings
import LintServer.Text.Escaped
import LintServer.Text.Position
import LintServer.Text.Utf8
import LintServer.Toml.Document
import LintServer.Toml.Quoted
import LintServer.Toml.Scalar
import LintServer.Toml.Tree
import LintServer.Toml.Value
import LintServer.Unicode.Case
import LintServer.Unicode.CharSet
import LintServer.Unicode.Property
import LintServer.Unicode.Table
import LintServer.Unicode.Table.Age
import LintServer.Unicode.Table.Binary
import LintServer.Unicode.Table.Break
import LintServer.Unicode.Table.Case
import LintServer.Unicode.Table.Category
import LintServer.Unicode.Table.Script
import LintServer.Unicode.Table.ScriptExtensions
import LintServer.Uri.Basic
import LintServer.Uri.Domain
import LintServer.Uri.Host
import LintServer.Uri.Parse
import LintServer.Uri.Percent
import LintServer.Uri.Punycode
import LintServer.Watch
import LintServer.Proofs.Passes
import LintServer.Proofs.Documents
import LintServer.Proofs.Lifecycle
import LintServer.Proofs.RootCalls
import LintServer.Proofs.Programs
import LintServer.Proofs.Search
import LintServer.Proofs.Matches
import LintServer.Proofs.Extension
import LintServer.Proofs.BuiltinRules
import LintServer.Proofs.Delivery
import LintServer.Proofs.Addresses
import LintServer.Proofs.Containment
import LintServer.Proofs.Layout
import LintServer.Proofs.Places
import LintServer.Proofs.Bursts
import LintServer.Proofs.Closing
import LintServer.Proofs.Handlers
import LintServer.Proofs.Arguments
import LintServer.Proofs.Markers
import LintServer.Proofs.Revalidation
import LintServer.Proofs.Repeats
import LintServer.Proofs.Folders
import LintServer.Proofs.LineTable
import LintServer.Proofs.RootSearch
import LintServer.Proofs.ConfigNames
import LintServer.Proofs.Ranges
import LintServer.Proofs.RuleOrder
import LintServer.Proofs.RuleCopies
import LintServer.Proofs.MarkerNames
import LintServer.Proofs.TreeWatch
import LintServer.Proofs.Spellings
