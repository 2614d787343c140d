import ChatFlow.Calendar.Clock
import ChatFlow.Calendar.Date
import ChatFlow.Calendar.Zone
import ChatFlow.Calendar.Zones.Africa
import ChatFlow.Calendar.Zones.America
import ChatFlow.Calendar.Zones.Antarctica
import ChatFlow.Calendar.Zones.Asia
import ChatFlow.Calendar.Zones.Atlantic
import ChatFlow.Calendar.Zones.Australia
import ChatFlow.Calendar.Zones.Europe
import ChatFlow.Calendar.Zones.Indian
import ChatFlow.Calendar.Zones.Other
import ChatFlow.Calendar.Zones.Pacific
import ChatFlow.Condition.Branch
import ChatFlow.Condition.Compare
import ChatFlow.Decimal.Binary
import ChatFlow.Decimal.Division
import ChatFlow.Decimal.Field
import ChatFlow.Decimal.Layout
import ChatFlow.Decimal.Places
import ChatFlow.Decimal.Reading
import ChatFlow.Decimal.Shortest
import ChatFlow.Document.Basic
import ChatFlow.Document.Graph
import ChatFlow.Document.Parse
import ChatFlow.Engine.Calls
import ChatFlow.Engine.State
import ChatFlow.Engine.Together
import ChatFlow.Engine.Walk
import ChatFlow.Entries
import ChatFlow.Expression.Arithmetic
import ChatFlow.Expression.Compare
import ChatFlow.Expression.Datum
import ChatFlow.Expression.Evaluate
import ChatFlow.Expression.Function
import ChatFlow.Expression.Syntax
import ChatFlow.Expression.Token
import ChatFlow.Expression.Transform
import ChatFlow.Failure
import ChatFlow.Flow.Record
import ChatFlow.Flow.Store
import ChatFlow.Form
import ChatFlow.Inbound.Message
import ChatFlow.Inbound.Reply
import ChatFlow.Json.Reader
import ChatFlow.Json.Writer
import ChatFlow.Log.Line
import ChatFlow.Node.Control
import ChatFlow.Node.Execute
import ChatFlow.Node.Kind
import ChatFlow.Node.Result
import ChatFlow.Node.Send
import ChatFlow.Node.Services
import ChatFlow.Node.Settings
import ChatFlow.Outside.Accounts
import ChatFlow.Outside.Archive
import ChatFlow.Outside.Completion
import ChatFlow.Outside.Database.Client
import ChatFlow.Outside.Database.Statement
import ChatFlow.Outside.Email
import ChatFlow.Outside.Http
import ChatFlow.Outside.MediaType
import ChatFlow.Outside.Phrase
import ChatFlow.Outside.Query
import ChatFlow.Outside.Sheet
import ChatFlow.Outside.Task
import ChatFlow.Outside.WhatsApp.Client
import ChatFlow.Outside.WhatsApp.Payload
import ChatFlow.Pattern
import ChatFlow.Proofs.Condition.Laws
import ChatFlow.Proofs.Condition.Numeral
import ChatFlow.Proofs.Condition.Overflow
import ChatFlow.Proofs.Condition.Script
import ChatFlow.Proofs.Condition.Unset
import ChatFlow.Proofs.Decimal.Whole
import ChatFlow.Proofs.Decimal.Limitless
import ChatFlow.Proofs.Decimal.Magnitude
import ChatFlow.Proofs.Decimal.Order
import ChatFlow.Proofs.Decimal.Product
import ChatFlow.Proofs.Decimal.Spelling
import ChatFlow.Proofs.Document.Fields
import ChatFlow.Proofs.Document.Graph
import ChatFlow.Proofs.Document.Inserted
import ChatFlow.Proofs.Document.Mapped
import ChatFlow.Proofs.Document.Reading
import ChatFlow.Proofs.Document.Repeated
import ChatFlow.Proofs.Document.Settled
import ChatFlow.Proofs.Document.Shape
import ChatFlow.Proofs.Document.Targets
import ChatFlow.Proofs.Document.Tidy
import ChatFlow.Proofs.Document.Trimming
import ChatFlow.Proofs.Engine.Accruing
import ChatFlow.Proofs.Engine.Answering
import ChatFlow.Proofs.Engine.Choosing
import ChatFlow.Proofs.Engine.Closed
import ChatFlow.Proofs.Engine.Commuting
import ChatFlow.Proofs.Engine.Handling
import ChatFlow.Proofs.Engine.History
import ChatFlow.Proofs.Engine.Ledger
import ChatFlow.Proofs.Engine.Limit
import ChatFlow.Proofs.Engine.Opening
import ChatFlow.Proofs.Engine.Course
import ChatFlow.Proofs.Engine.Pausing
import ChatFlow.Proofs.Engine.Plain
import ChatFlow.Proofs.Engine.Queue
import ChatFlow.Proofs.Engine.Repeating
import ChatFlow.Proofs.Engine.Replaced
import ChatFlow.Proofs.Engine.Resuming
import ChatFlow.Proofs.Engine.Route
import ChatFlow.Proofs.Engine.Schedule
import ChatFlow.Proofs.Engine.Stumbling
import ChatFlow.Proofs.Engine.Submitting
import ChatFlow.Proofs.Engine.Trimmed
import ChatFlow.Proofs.Entries
import ChatFlow.Proofs.Expression.Binding
import ChatFlow.Proofs.Expression.Bounded
import ChatFlow.Proofs.Expression.Conversion
import ChatFlow.Proofs.Expression.Independence
import ChatFlow.Proofs.Expression.Names
import ChatFlow.Proofs.Flow.Directory
import ChatFlow.Proofs.Flow.Ranking
import ChatFlow.Proofs.Flow.Repeating
import ChatFlow.Proofs.Flow.Spelling
import ChatFlow.Proofs.Flow.Trigger
import ChatFlow.Proofs.Form
import ChatFlow.Proofs.Inbound.Delivery
import ChatFlow.Proofs.Inbound.Repeated
import ChatFlow.Proofs.Inbound.Reply
import ChatFlow.Proofs.Inbound.Submitted
import ChatFlow.Proofs.Node.Branching
import ChatFlow.Proofs.Node.Choosing
import ChatFlow.Proofs.Node.Delivering
import ChatFlow.Proofs.Node.Fetching
import ChatFlow.Proofs.Node.Measuring
import ChatFlow.Proofs.Node.Querying
import ChatFlow.Proofs.Node.Recording
import ChatFlow.Proofs.Node.Replying
import ChatFlow.Proofs.Node.Requesting
import ChatFlow.Proofs.Node.Steady
import ChatFlow.Proofs.Node.Steering
import ChatFlow.Proofs.Node.Telling
import ChatFlow.Proofs.Node.Wayfinding
import ChatFlow.Proofs.Node.Writing
import ChatFlow.Proofs.Outside.Asking
import ChatFlow.Proofs.Outside.Calling
import ChatFlow.Proofs.Outside.Choices
import ChatFlow.Proofs.Outside.Exchange
import ChatFlow.Proofs.Outside.Naming
import ChatFlow.Proofs.Outside.Sessions
import ChatFlow.Proofs.Outside.Statement
import ChatFlow.Proofs.Outside.Steady
import ChatFlow.Proofs.Run.Pauses
import ChatFlow.Proofs.Run.Stores
import ChatFlow.Proofs.Settings
import ChatFlow.Proofs.Value.Assembled
import ChatFlow.Proofs.Value.Keyed
import ChatFlow.Proofs.Value.Parts
import ChatFlow.Proofs.Value.Shown
import ChatFlow.Proofs.Variables.Descent
import ChatFlow.Proofs.Variables.Filling
import ChatFlow.Proofs.Variables.Flattening
import ChatFlow.Proofs.Variables.Lookup
import ChatFlow.Proofs.Variables.Paths
import ChatFlow.Proofs.Web.Acknowledging
import ChatFlow.Run.Pause
import ChatFlow.Run.Record
import ChatFlow.Settings
import ChatFlow.Text.Base64
import ChatFlow.Text.Blank
import ChatFlow.Text.CaseTable
import ChatFlow.Text.Charset
import ChatFlow.Text.CharsetTable
import ChatFlow.Text.Digit
import ChatFlow.Text.Letter
import ChatFlow.Text.PercentEncoded
import ChatFlow.Text.Printable
import ChatFlow.Text.Quoted
import ChatFlow.Text.Split
import ChatFlow.Text.Utf8
import ChatFlow.Text.Wide
import ChatFlow.Value
import ChatFlow.Value.Fields
import ChatFlow.Value.Render
import ChatFlow.Value.Sum
import ChatFlow.Variables.Flatten
import ChatFlow.Variables.Scope
import ChatFlow.Variables.Template
import ChatFlow.Web.Query
import ChatFlow.Web.Site
import ChatFlow.Web.Webhook
