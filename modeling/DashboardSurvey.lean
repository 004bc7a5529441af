import DashboardSurvey.Address.Basic
import DashboardSurvey.Address.HostName
import DashboardSurvey.Address.NameLetter
import DashboardSurvey.Address.Numeric
import DashboardSurvey.Address.Onward
import DashboardSurvey.Address.Percent
import DashboardSurvey.Address.Punycode
import DashboardSurvey.Catalog.Basic
import DashboardSurvey.Catalog.Build
import DashboardSurvey.Catalog.Intake
import DashboardSurvey.Config.Find
import DashboardSurvey.Config.Settings
import DashboardSurvey.Dashboard.Basic
import DashboardSurvey.Dashboard.Saved
import DashboardSurvey.Dashboard.Views
import DashboardSurvey.Failure
import DashboardSurvey.Failure.Source
import DashboardSurvey.Files.Environment
import DashboardSurvey.Files.Host
import DashboardSurvey.Files.Name
import DashboardSurvey.Files.Path
import DashboardSurvey.Json.Basic
import DashboardSurvey.Json.Decode
import DashboardSurvey.Json.Encode
import DashboardSurvey.Log
import DashboardSurvey.Main
import DashboardSurvey.Metabase.Client
import DashboardSurvey.Metabase.Endpoint
import DashboardSurvey.Metabase.Server
import DashboardSurvey.Number.Binary64
import DashboardSurvey.Number.Layout
import DashboardSurvey.Number.Reading
import DashboardSurvey.Number.Shortest
import DashboardSurvey.Proofs.Acceptance
import DashboardSurvey.Proofs.Agreement
import DashboardSurvey.Proofs.Answers
import DashboardSurvey.Proofs.Arrivals
import DashboardSurvey.Proofs.Ascending
import DashboardSurvey.Proofs.Ascii
import DashboardSurvey.Proofs.Audit
import DashboardSurvey.Proofs.Bringing
import DashboardSurvey.Proofs.Building
import DashboardSurvey.Proofs.Clauses
import DashboardSurvey.Proofs.Connections
import DashboardSurvey.Proofs.Contents
import DashboardSurvey.Proofs.Coverage
import DashboardSurvey.Proofs.DashboardReply
import DashboardSurvey.Proofs.Dependence
import DashboardSurvey.Proofs.Destination
import DashboardSurvey.Proofs.Distinct
import DashboardSurvey.Proofs.Equality
import DashboardSurvey.Proofs.Escapes
import DashboardSurvey.Proofs.Fallback
import DashboardSurvey.Proofs.FieldTable
import DashboardSurvey.Proofs.Footprint
import DashboardSurvey.Proofs.Frame
import DashboardSurvey.Proofs.Growth
import DashboardSurvey.Proofs.History
import DashboardSurvey.Proofs.Inheritance
import DashboardSurvey.Proofs.Isolation
import DashboardSurvey.Proofs.Lifetime
import DashboardSurvey.Proofs.Places
import DashboardSurvey.Proofs.Positions
import DashboardSurvey.Proofs.Range
import DashboardSurvey.Proofs.Recovery
import DashboardSurvey.Proofs.References
import DashboardSurvey.Proofs.Refusals
import DashboardSurvey.Proofs.Requests
import DashboardSurvey.Proofs.RoundTrip
import DashboardSurvey.Proofs.Schedule
import DashboardSurvey.Proofs.Sessions
import DashboardSurvey.Proofs.SettingsDocument
import DashboardSurvey.Proofs.SettingsFile
import DashboardSurvey.Proofs.Shapes
import DashboardSurvey.Proofs.Standard
import DashboardSurvey.Proofs.StandardReading
import DashboardSurvey.Proofs.StandardWriting
import DashboardSurvey.Proofs.Steps
import DashboardSurvey.Proofs.StrictAnswers
import DashboardSurvey.Proofs.Surveyable
import DashboardSurvey.Proofs.Surveys
import DashboardSurvey.Proofs.Tabs
import DashboardSurvey.Proofs.Workers
import DashboardSurvey.Query
import DashboardSurvey.Report.Cards
import DashboardSurvey.Report.Filters
import DashboardSurvey.Report.Survey
import DashboardSurvey.Session.Basic
import DashboardSurvey.Session.Call
import DashboardSurvey.Session.Run
import DashboardSurvey.Session.Tool
import DashboardSurvey.Text.Ascii
import DashboardSurvey.Text.Base64
import DashboardSurvey.Text.Blank
import DashboardSurvey.Text.Digit
import DashboardSurvey.Text.Encoding
import DashboardSurvey.Text.Half
import DashboardSurvey.Text.Lowercase
import DashboardSurvey.Text.Printable
import DashboardSurvey.Text.Quoted
import DashboardSurvey.Text.Split
import DashboardSurvey.Text.Uppercase
import DashboardSurvey.Text.Utf8
import DashboardSurvey.Value.Keyed
import DashboardSurvey.Value.Numeric
import DashboardSurvey.Value.Order
import DashboardSurvey.Value.Scalar
import DashboardSurvey.Value.Shape
import DashboardSurvey.Yaml.Cursor
import DashboardSurvey.Yaml.Document
import DashboardSurvey.Yaml.Error
import DashboardSurvey.Yaml.Fault
import DashboardSurvey.Yaml.Form
import DashboardSurvey.Yaml.Moment
import DashboardSurvey.Yaml.Node
import DashboardSurvey.Yaml.Scalar
import DashboardSurvey.Yaml.ScalarText
import DashboardSurvey.Yaml.SetOrder
import DashboardSurvey.Yaml.Store
import DashboardSurvey.Yaml.Tags
import DashboardSurvey.Yaml.Token
import DashboardSurvey.Yaml.Tokens
import DashboardSurvey.Yaml.Value
