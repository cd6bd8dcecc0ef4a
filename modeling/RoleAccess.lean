import RoleAccess.Checker
import RoleAccess.Checker.Session
import RoleAccess.Command
import RoleAccess.Environment
import RoleAccess.Files.Loading
import RoleAccess.Files.Rollover
import RoleAccess.Files.Tree
import RoleAccess.Log.Clock
import RoleAccess.Log.Directive
import RoleAccess.Log.Journal
import RoleAccess.Log.Layout
import RoleAccess.Log.Lineage
import RoleAccess.Log.Loggers
import RoleAccess.Log.Moment
import RoleAccess.Log.Record
import RoleAccess.Main
import RoleAccess.Number.Binary64
import RoleAccess.Number.Decimal
import RoleAccess.Number.Digits
import RoleAccess.Number.Places
import RoleAccess.Permission.Chain
import RoleAccess.Permission.Evaluation
import RoleAccess.Permission.Forest
import RoleAccess.Permission.Grant
import RoleAccess.Permission.Search
import RoleAccess.Policy.Canonical
import RoleAccess.Policy.Error
import RoleAccess.Policy.Line
import RoleAccess.Policy.Text
import RoleAccess.Role.Hierarchy
import RoleAccess.Role.Inheritance
import RoleAccess.Rule.Admission
import RoleAccess.Rule.Basic
import RoleAccess.Rule.Path
import RoleAccess.Settings.Basic
import RoleAccess.Settings.Expansion
import RoleAccess.Table
import RoleAccess.Text.Blank
import RoleAccess.Text.Capital
import RoleAccess.Text.Lines
import RoleAccess.Text.Printable
import RoleAccess.Text.Quoted
import RoleAccess.Text.Ranges
import RoleAccess.Text.Word
import RoleAccess.Value.Basic
import RoleAccess.Value.Stamp
import RoleAccess.Value.Text
import RoleAccess.Yaml.Document
import RoleAccess.Yaml.Fault
import RoleAccess.Yaml.Node
import RoleAccess.Yaml.Plain
import RoleAccess.Yaml.Quoted
import RoleAccess.Yaml.Scalar
import RoleAccess.Yaml.Text
import RoleAccess.Yaml.Token
import RoleAccess.Proofs.Role.Ancestry
import RoleAccess.Proofs.Role.Cycle
import RoleAccess.Proofs.Fold
import RoleAccess.Proofs.Role.Construction
import RoleAccess.Proofs.Role.Hierarchy
import RoleAccess.Proofs.Role.FirstCycle
import RoleAccess.Proofs.Role.Resolution
import RoleAccess.Proofs.Permission.Path
import RoleAccess.Proofs.Permission.Construction
import RoleAccess.Proofs.Checker.Outcome
import RoleAccess.Proofs.Checker.Meaning
import RoleAccess.Proofs.Checker.Path
import RoleAccess.Proofs.Rule.Path
import RoleAccess.Proofs.Text.Lines
import RoleAccess.Proofs.Policy.Grammar
import RoleAccess.Proofs.Policy.RoundTrip
import RoleAccess.Proofs.Policy.Reading
import RoleAccess.Proofs.Rule.Parts
import RoleAccess.Proofs.Permission.Cover
import RoleAccess.Proofs.Policy.Verdict
import RoleAccess.Proofs.Checker.History
import RoleAccess.Proofs.Checker.Noninterference
import RoleAccess.Proofs.Checker.Failure
import RoleAccess.Proofs.Checker.Monotonicity
import RoleAccess.Proofs.Policy.Rearrangement
import RoleAccess.Proofs.Files.Tree
import RoleAccess.Proofs.Files.Rollover
import RoleAccess.Proofs.Files.Opening
import RoleAccess.Proofs.Log.Writing
import RoleAccess.Proofs.Policy.Reported
import RoleAccess.Proofs.Policy.Loading
import RoleAccess.Proofs.Policy.Refusal
import RoleAccess.Proofs.Policy.Concatenation
import RoleAccess.Proofs.Policy.Comment
import RoleAccess.Proofs.Settings.Sections
import RoleAccess.Proofs.Settings.Independence
import RoleAccess.Proofs.Command.Configuration
import RoleAccess.Proofs.Command.Building
import RoleAccess.Proofs.Command.Files
import RoleAccess.Proofs.Command.Course
import RoleAccess.Proofs.Command.Verdict
import RoleAccess.Proofs.Environment.Refusal
import RoleAccess.Proofs.Permission.Storage
import RoleAccess.Proofs.Environment.LastEntry
import RoleAccess.Proofs.Rule.Admission
import RoleAccess.Proofs.Permission.Visits
import RoleAccess.Proofs.Settings.Refusal
import RoleAccess.Proofs.Log.Setup
