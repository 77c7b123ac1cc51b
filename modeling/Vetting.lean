import Vetting.Calendar
import Vetting.Check.Address
import Vetting.Check.Basic
import Vetting.Check.Bounds
import Vetting.Check.Clock
import Vetting.Check.Kind
import Vetting.Command.Arguments
import Vetting.Command.Check
import Vetting.Command.Output
import Vetting.ConfigError
import Vetting.Dict
import Vetting.Json.Basic
import Vetting.Json.Reader
import Vetting.Json.Writer
import Vetting.Main
import Vetting.Message
import Vetting.Number.Double
import Vetting.Number.Numeral
import Vetting.Number.Shortest
import Vetting.Number.Text
import Vetting.Options
import Vetting.Regex.CharSet
import Vetting.Regex.Compiled
import Vetting.Regex.Expr
import Vetting.Regex.Fault
import Vetting.Regex.Positions
import Vetting.Regex.Search
import Vetting.Regex.Size
import Vetting.Regex.Syntax.Basic
import Vetting.Regex.Syntax.Meaning
import Vetting.Regex.Syntax.Parser
import Vetting.Regex.Unicode.Age
import Vetting.Regex.Unicode.Boundary
import Vetting.Regex.Unicode.CaseFold
import Vetting.Regex.Unicode.Category
import Vetting.Regex.Unicode.Property
import Vetting.Regex.Unicode.Query
import Vetting.Regex.Unicode.Script
import Vetting.Regex.Unicode.ScriptExtension
import Vetting.Regex.Unicode.Table
import Vetting.Regex.Unicode.Word
import Vetting.Registry
import Vetting.Schema.Basic
import Vetting.Schema.Compiled
import Vetting.Schema.Rule
import Vetting.Session
import Vetting.Settings
import Vetting.Validator.Basic
import Vetting.Validator.Builder
import Vetting.Validator.Builtin
import Vetting.Value.Basic
import Vetting.Value.Json
import Vetting.Value.Order
import Vetting.Value.Text
import Vetting.Yaml.Node.Basic
import Vetting.Yaml.Node.Parser
import Vetting.Yaml.Node.Value
import Vetting.Yaml.Place
import Vetting.Yaml.Reader
import Vetting.Yaml.Scalar
import Vetting.Yaml.Token.Basic
import Vetting.Yaml.Token.Lexer
import Vetting.Yaml.Token.Scalar
import Vetting.Yaml.Token.Tag
import Vetting.Proofs.Dict
import Vetting.Proofs.Schema.Declaration
import Vetting.Proofs.Steps
import Vetting.Proofs.Registry
import Vetting.Proofs.Schema.Report
import Vetting.Proofs.Schema.Document
import Vetting.Proofs.Options.Reading
import Vetting.Proofs.Options.Common
import Vetting.Proofs.Validator.Recipe
import Vetting.Proofs.Validator.Grammar
import Vetting.Proofs.Nested
import Vetting.Proofs.Number.Exact
import Vetting.Proofs.Number.Nearest
import Vetting.Proofs.Value.Equality
import Vetting.Proofs.Value.TextOrder
import Vetting.Proofs.Value.Order
import Vetting.Proofs.Value.Json
import Vetting.Proofs.Schema.Rule
import Vetting.Proofs.Validator.Origin
import Vetting.Proofs.Validator.AllowEmpty
import Vetting.Proofs.Validator.Rewording
import Vetting.Proofs.Schema.Rewording
import Vetting.Proofs.Template
import Vetting.Proofs.Validator.DefaultText
import Vetting.Proofs.Schema.Dependence
import Vetting.Proofs.Validator.Spelling
import Vetting.Proofs.Validator.Absent
import Vetting.Proofs.Session
import Vetting.Proofs.Schema.Presence
import Vetting.Proofs.Command.Check
import Vetting.Proofs.Template.Substitution
import Vetting.Proofs.Check.Clock
import Vetting.Proofs.Check.Ip
import Vetting.Proofs.Command.Formats
import Vetting.Proofs.Regex.Walk
import Vetting.Proofs.Regex.CaseFold
import Vetting.Proofs.Regex.Capture
import Vetting.Proofs.Check.DottedHost
import Vetting.Proofs.Check.Url
import Vetting.Proofs.Check.Hostname
import Vetting.Proofs.Check.ClockLayout
import Vetting.Proofs.Check.Email
import Vetting.Proofs.Check.Schemeless
import Vetting.Proofs.Check.Membership
import Vetting.Proofs.Check.Interval
import Vetting.Proofs.Check.Length
import Vetting.Proofs.Schema.Membership
import Vetting.Proofs.Options.Configure
import Vetting.Proofs.Check.Inheritance
import Vetting.Proofs.Calendar
import Vetting.Proofs.Check.DateText
import Vetting.Proofs.Value.Text
import Vetting.Proofs.Check.Coercion
import Vetting.Proofs.Schema.Aggregation
import Vetting.Proofs.Schema.Insertion
import Vetting.Proofs.Options.TypedReads
