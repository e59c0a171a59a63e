import CaptureConfig.Assoc
import CaptureConfig.Calendar
import CaptureConfig.Command.Arguments
import CaptureConfig.Command.Override
import CaptureConfig.Command.Run
import CaptureConfig.Command.Switch
import CaptureConfig.Connector.Basic
import CaptureConfig.Connector.Description
import CaptureConfig.Datum.Basic
import CaptureConfig.Datum.Show
import CaptureConfig.Decimal.Binary64
import CaptureConfig.Decimal.Literal
import CaptureConfig.Decimal.Rounded
import CaptureConfig.Decimal.Shortest
import CaptureConfig.DecimalMode
import CaptureConfig.Disk.Basic
import CaptureConfig.Disk.Fault
import CaptureConfig.Disk.Path
import CaptureConfig.Json.Basic
import CaptureConfig.Log.Level
import CaptureConfig.Log.Logger
import CaptureConfig.Log.Notice
import CaptureConfig.Log.Record
import CaptureConfig.Log.Template
import CaptureConfig.Main
import CaptureConfig.Option.Store
import CaptureConfig.Pattern.List
import CaptureConfig.Pattern.Match
import CaptureConfig.Pattern.Parser
import CaptureConfig.Pattern.Reader
import CaptureConfig.Pattern.Refusal
import CaptureConfig.Pattern.Syntax
import CaptureConfig.Proofs.Assoc
import CaptureConfig.Proofs.Command.Override
import CaptureConfig.Proofs.Command.Report
import CaptureConfig.Proofs.Connector.DecimalMode
import CaptureConfig.Proofs.Connector.Default
import CaptureConfig.Proofs.Connector.Description
import CaptureConfig.Proofs.Connector.Fallback
import CaptureConfig.Proofs.Connector.Influence
import CaptureConfig.Proofs.Connector.OwnSchema
import CaptureConfig.Proofs.Connector.Reload
import CaptureConfig.Proofs.Connector.Resolve
import CaptureConfig.Proofs.Datum.Entry
import CaptureConfig.Proofs.Disk.File
import CaptureConfig.Proofs.Json.Number
import CaptureConfig.Proofs.Json.Quote
import CaptureConfig.Proofs.Json.ReadBack
import CaptureConfig.Proofs.Json.Reader
import CaptureConfig.Proofs.Log.JsonLine
import CaptureConfig.Proofs.Log.Level
import CaptureConfig.Proofs.Log.Logger
import CaptureConfig.Proofs.Log.Settings
import CaptureConfig.Proofs.Log.Use
import CaptureConfig.Proofs.Option.Precedence
import CaptureConfig.Proofs.Option.Store
import CaptureConfig.Proofs.Option.Typed
import CaptureConfig.Proofs.Pattern.Concat
import CaptureConfig.Proofs.Pattern.Escape
import CaptureConfig.Proofs.Pattern.Join
import CaptureConfig.Proofs.Pattern.List
import CaptureConfig.Proofs.Pattern.Literal
import CaptureConfig.Proofs.Record.Checked
import CaptureConfig.Proofs.Schema.Agreement
import CaptureConfig.Proofs.Schema.Check
import CaptureConfig.Proofs.Schema.Extend
import CaptureConfig.Proofs.Schema.Field
import CaptureConfig.Proofs.Schema.PatternCheck
import CaptureConfig.Proofs.Schema.Relational
import CaptureConfig.Proofs.Settings.Document
import CaptureConfig.Proofs.Settings.Layer
import CaptureConfig.Proofs.Settings.Logging
import CaptureConfig.Proofs.Settings.Override
import CaptureConfig.Proofs.Settings.Properties
import CaptureConfig.Proofs.Settings.RoundTrip
import CaptureConfig.Proofs.Settings.Scalar
import CaptureConfig.Proofs.Steps
import CaptureConfig.Proofs.Table.Appended
import CaptureConfig.Proofs.Table.ExactName
import CaptureConfig.Proofs.Table.Filter
import CaptureConfig.Proofs.Table.Id
import CaptureConfig.Proofs.Table.Override
import CaptureConfig.Proofs.Table.Precedence
import CaptureConfig.Proofs.Table.Same
import CaptureConfig.Proofs.Text.Blank
import CaptureConfig.Proofs.Text.Capitals
import CaptureConfig.Proofs.Text.Hex
import CaptureConfig.Proofs.Text.Integer
import CaptureConfig.Proofs.Text.Spelling
import CaptureConfig.Proofs.Text.Split
import CaptureConfig.Proofs.Text.Written
import CaptureConfig.Record.Basic
import CaptureConfig.Record.Known
import CaptureConfig.Schema.Check
import CaptureConfig.Schema.Field
import CaptureConfig.Schema.Problem
import CaptureConfig.Schema.Relational
import CaptureConfig.Settings.Basic
import CaptureConfig.Settings.File
import CaptureConfig.Settings.Logging
import CaptureConfig.Table.Filter
import CaptureConfig.Table.Id
import CaptureConfig.Table.Override
import CaptureConfig.Text.Base64
import CaptureConfig.Text.CasePair
import CaptureConfig.Text.CharName
import CaptureConfig.Text.CharName.Letters
import CaptureConfig.Text.CharName.Others
import CaptureConfig.Text.CharName.Pictures
import CaptureConfig.Text.CharName.Signs
import CaptureConfig.Text.Character
import CaptureConfig.Text.Hex
import CaptureConfig.Text.Identifier
import CaptureConfig.Text.Integer
import CaptureConfig.Text.Printable
import CaptureConfig.Text.Quoted
import CaptureConfig.Text.Spelling
import CaptureConfig.Text.Split
import CaptureConfig.Text.Utf8
import CaptureConfig.Yaml.Cursor
import CaptureConfig.Yaml.Fault
import CaptureConfig.Yaml.Node.Basic
import CaptureConfig.Yaml.Node.Document
import CaptureConfig.Yaml.Node.Grammar
import CaptureConfig.Yaml.Node.Merge
import CaptureConfig.Yaml.Scalar.Shape
import CaptureConfig.Yaml.Scalar.Value
import CaptureConfig.Yaml.Tag
import CaptureConfig.Yaml.Token.Basic
import CaptureConfig.Yaml.Token.BlockText
import CaptureConfig.Yaml.Token.Directive
import CaptureConfig.Yaml.Token.Name
import CaptureConfig.Yaml.Token.PlainText
import CaptureConfig.Yaml.Token.QuotedText
import CaptureConfig.Yaml.Token.Stream
import CaptureConfig.Yaml.Value
