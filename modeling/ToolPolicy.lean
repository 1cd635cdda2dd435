import ToolPolicy.Proofs.Except
import ToolPolicy.Main
import ToolPolicy.Proofs.DashClaw.Acceptance
import ToolPolicy.Proofs.DashClaw.Conversion
import ToolPolicy.Proofs.DashClaw.Placeholders
import ToolPolicy.Proofs.DashClaw.Verdict
import ToolPolicy.Proofs.Node.Entries
import ToolPolicy.Proofs.Node.Text
import ToolPolicy.Proofs.Policy.Decision
import ToolPolicy.Proofs.Policy.Document
import ToolPolicy.Proofs.Policy.Findings
import ToolPolicy.Proofs.Policy.Glob
import ToolPolicy.Proofs.Policy.Modes
import ToolPolicy.Proofs.Policy.Shape
import ToolPolicy.Proofs.Policy.TestCase
import ToolPolicy.Workspace.Directory
import ToolPolicy.Proofs.Policy.Content
import ToolPolicy.Proofs.Policy.Repetition
import ToolPolicy.Proofs.Policy.View
import ToolPolicy.Proofs.Program.Check
import ToolPolicy.Proofs.Double.Rounding
import ToolPolicy.Proofs.Double.Shortest
import ToolPolicy.Proofs.Text.Digits
import ToolPolicy.Proofs.Yaml.Number
import ToolPolicy.Proofs.Yaml.Cursor
import ToolPolicy.Proofs.Yaml.Plain
import ToolPolicy.Proofs.Yaml.Quoted
import ToolPolicy.Proofs.Yaml.Literal
import ToolPolicy.Proofs.Yaml.Leaf
import ToolPolicy.Proofs.Yaml.Lexer
import ToolPolicy.Proofs.Yaml.Word
import ToolPolicy.Proofs.Content
import ToolPolicy.Proofs.Yaml.Tokens
import ToolPolicy.Proofs.Yaml.Delivery
import ToolPolicy.Proofs.Yaml.Scan
import ToolPolicy.Proofs.Yaml.Grammar
import ToolPolicy.Proofs.Yaml.Reader
import ToolPolicy.Proofs.Yaml.Tree
import ToolPolicy.Proofs.Json.Parser
import ToolPolicy.Proofs.DashClaw.RoundTrip
import ToolPolicy.Proofs.Yaml.Part
import ToolPolicy.Proofs.Yaml.Merge
import ToolPolicy.Proofs.Loader.MergeKeys
import ToolPolicy.Proofs.Program.Convert
import ToolPolicy.Proofs.Policy.DenyOverrides
import ToolPolicy.Proofs.Policy.Approval
import ToolPolicy.Proofs.DashClaw.FailClosed
import ToolPolicy.Proofs.DashClaw.Selection
import ToolPolicy.Proofs.Policy.Tidiness
import ToolPolicy.Proofs.Program.FirstFailure
import ToolPolicy.Proofs.Policy.Locality
import ToolPolicy.Proofs.Policy.Reasons
import ToolPolicy.Proofs.Policy.GlobExpression
import ToolPolicy.Proofs.Policy.Wildcard
import ToolPolicy.Proofs.CommandLine.Sayings
import ToolPolicy.Proofs.CommandLine.Line
import ToolPolicy.Proofs.CommandLine.Talk
import ToolPolicy.Proofs.CommandLine.Values
import ToolPolicy.Proofs.CommandLine.Variables
import ToolPolicy.Proofs.Program.Logging
import ToolPolicy.Proofs.Policy.Identity
import ToolPolicy.Proofs.Policy.Outcome
import ToolPolicy.Proofs.DashClaw.Export
import ToolPolicy.Proofs.Url.Host
import ToolPolicy.Proofs.Url.Path
import ToolPolicy.Proofs.Url.Reading
import ToolPolicy.Proofs.DashClaw.Endpoint
import ToolPolicy.Proofs.Node.Alike
import ToolPolicy.Proofs.Yaml.Shown
import ToolPolicy.Proofs.Policy.KeyOrder
import ToolPolicy.Proofs.Text.Utf8
import ToolPolicy.Proofs.Loader.Bytes
import ToolPolicy.Proofs.Yaml.Bare
import ToolPolicy.Proofs.Yaml.Markers
import ToolPolicy.Proofs.Loader.BlankText
import ToolPolicy.Proofs.Policy.Reuse
import ToolPolicy.Proofs.DashClaw.Settings
import ToolPolicy.Proofs.Text.EditDistance
import ToolPolicy.Proofs.Policy.Suggestion
import ToolPolicy.Proofs.Double.Whole
import ToolPolicy.Proofs.Yaml.Display
import ToolPolicy.Proofs.Yaml.Lone
import ToolPolicy.Proofs.Loader.Scalars
import ToolPolicy.Proofs.Text.Lower
import ToolPolicy.Proofs.Text.Runs
import ToolPolicy.Proofs.DashClaw.Identifier
