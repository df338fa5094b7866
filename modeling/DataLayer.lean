import DataLayer.Calendar.Basic
import DataLayer.Calendar.Reader
import DataLayer.Command.Arguments
import DataLayer.Command.Request
import DataLayer.Command.Run
import DataLayer.Command.Screen
import DataLayer.Command.Task
import DataLayer.Database.Basic
import DataLayer.Database.Config
import DataLayer.Database.Connect
import DataLayer.Database.Registry
import DataLayer.Database.Run
import DataLayer.Dialect
import DataLayer.Engine.Driver
import DataLayer.Engine.Ledger
import DataLayer.Engine.Scripted
import DataLayer.Entries
import DataLayer.Fault.Basic
import DataLayer.Fault.Misuse
import DataLayer.Fault.Raised
import DataLayer.Fault.Report
import DataLayer.Fault.Shared
import DataLayer.Folder.Path
import DataLayer.Folder.Tree
import DataLayer.Log.Console
import DataLayer.Log.Journal
import DataLayer.Log.Notice
import DataLayer.Log.Record
import DataLayer.Log.Settings
import DataLayer.Main
import DataLayer.Markup.ColourTable
import DataLayer.Markup.Line
import DataLayer.Markup.Literal
import DataLayer.Markup.Marked
import DataLayer.Markup.Picture
import DataLayer.Markup.PictureTable
import DataLayer.Markup.Style
import DataLayer.Markup.Tag
import DataLayer.Migration.Create
import DataLayer.Migration.FileName
import DataLayer.Migration.Ledger
import DataLayer.Migration.Runner
import DataLayer.Number.Binary64
import DataLayer.Number.Decimal
import DataLayer.Number.Power
import DataLayer.Number.Reader
import DataLayer.Number.Shortest
import DataLayer.Query.Basic
import DataLayer.Query.Compile
import DataLayer.Query.Terminal
import DataLayer.Schema.Blueprint
import DataLayer.Schema.Change
import DataLayer.Schema.Column
import DataLayer.Schema.Literal
import DataLayer.Script.Blueprint
import DataLayer.Script.Call
import DataLayer.Script.Database
import DataLayer.Script.Dialect
import DataLayer.Script.Member
import DataLayer.Script.Query
import DataLayer.Script.Reply
import DataLayer.Script.Schema
import DataLayer.Seed.Runner
import DataLayer.Session
import DataLayer.Settings.Basic
import DataLayer.Settings.EnvironmentFile
import DataLayer.Settings.Validate
import DataLayer.Source.Basic
import DataLayer.Source.Bundled
import DataLayer.Source.Load
import DataLayer.Source.Template
import DataLayer.Terminal.Accent
import DataLayer.Terminal.Table
import DataLayer.Terminal.Wrapping
import DataLayer.Text.Blank
import DataLayer.Text.Case
import DataLayer.Text.CaseTable
import DataLayer.Text.Digit
import DataLayer.Text.Identifier
import DataLayer.Text.IdentifierTable
import DataLayer.Text.Line
import DataLayer.Text.Name
import DataLayer.Text.NameTable
import DataLayer.Text.Normal
import DataLayer.Text.NormalTable
import DataLayer.Text.Pattern
import DataLayer.Text.PrintableTable
import DataLayer.Text.Quoted
import DataLayer.Text.Width
import DataLayer.Text.WidthTable
import DataLayer.Text.Word
import DataLayer.Text.WordTable
import DataLayer.Value.Basic
import DataLayer.Value.Name
import DataLayer.Value.Same
import DataLayer.Value.Text
import DataLayer.Value.Whole
import DataLayer.Zone.Offset
import DataLayer.Zone.Table
import DataLayer.Proofs.Database.Protocol
import DataLayer.Proofs.Database.Course
import DataLayer.Proofs.Text.Placeholder
import DataLayer.Proofs.Query.Alignment
import DataLayer.Proofs.Query.Statement
import DataLayer.Proofs.Query.Slots
import DataLayer.Proofs.Database.Resemblance
import DataLayer.Proofs.Query.Masking
import DataLayer.Proofs.Query.Confinement
import DataLayer.Proofs.Session.Couple
import DataLayer.Proofs.Database.Couple
import DataLayer.Proofs.Script.Couple
import DataLayer.Proofs.Script.Secrecy
import DataLayer.Proofs.Migration.LedgerWork
import DataLayer.Proofs.Migration.Announcement
import DataLayer.Proofs.Migration.LedgerEngine
import DataLayer.Proofs.Source.Loading
import DataLayer.Proofs.Migration.Rollback
import DataLayer.Proofs.Migration.History
import DataLayer.Proofs.Database.Opening
import DataLayer.Proofs.Database.Watch
import DataLayer.Proofs.Script.Passage
import DataLayer.Proofs.Database.Conversation
import DataLayer.Proofs.Database.Tracking
import DataLayer.Proofs.Database.Lifecycle
import DataLayer.Proofs.Database.Settlement
import DataLayer.Proofs.Query.Refusal
import DataLayer.Proofs.Database.Access
import DataLayer.Proofs.Database.Sending
import DataLayer.Proofs.Database.Acceptance
import DataLayer.Proofs.Folder.Tree
import DataLayer.Proofs.Folder.Changing
import DataLayer.Proofs.Migration.FileName
import DataLayer.Proofs.Source.Template
import DataLayer.Proofs.Migration.Creation
import DataLayer.Proofs.Schema.Remarks
import DataLayer.Proofs.Script.Description
import DataLayer.Proofs.Value
import DataLayer.Proofs.Script.Reordering
import DataLayer.Proofs.Text.Quotes
import DataLayer.Proofs.Schema.Reading
import DataLayer.Proofs.Schema.RoundTrip
import DataLayer.Proofs.Script.Decoding
import DataLayer.Proofs.Script.Sent
import DataLayer.Proofs.Migration.Course
import DataLayer.Proofs.Migration.Foresight
import DataLayer.Proofs.Migration.CalmEngine
import DataLayer.Proofs.Migration.Unwinding
import DataLayer.Proofs.Migration.Resumption
import DataLayer.Proofs.Terminal.Wrapping
import DataLayer.Proofs.Markup.Reading
import DataLayer.Proofs.Command.Screen
import DataLayer.Proofs.Command.Course
import DataLayer.Proofs.Command.ExitCode
import DataLayer.Proofs.Settings
import DataLayer.Proofs.Seed.Run
import DataLayer.Proofs.Command.Complaint
import DataLayer.Proofs.Database.Parity
import DataLayer.Proofs.Query.Parity
import DataLayer.Proofs.Schema.Respelling
import DataLayer.Proofs.Script.Respelling
import DataLayer.Proofs.Query.Endings
import DataLayer.Proofs.Text.Case
import DataLayer.Proofs.Text.Token
import DataLayer.Proofs.Query.Separation
import DataLayer.Proofs.Query.Unscoped
import DataLayer.Proofs.Query.Grammar
import DataLayer.Proofs.Query.Counting
import DataLayer.Proofs.Schema.Escapes
import DataLayer.Proofs.Database.LeadingWord
import DataLayer.Proofs.Script.Discretion
import DataLayer.Proofs.Script.Disclosure
import DataLayer.Proofs.Source.Choice
import DataLayer.Proofs.Migration.Naming
import DataLayer.Proofs.Calendar
import DataLayer.Proofs.Migration.Chronology
import DataLayer.Proofs.Script.Visibility
import DataLayer.Proofs.Seed.Account
import DataLayer.Proofs.Entries
import DataLayer.Proofs.Folder.Files
import DataLayer.Proofs.Migration.TableName
import DataLayer.Proofs.Migration.Additions
import DataLayer.Proofs.Fault.Context
import DataLayer.Proofs.Fault.Report
import DataLayer.Proofs.Log.Scoping
import DataLayer.Proofs.Zone
import DataLayer.Proofs.Database.Rows
import DataLayer.Proofs.Database.Storage
import DataLayer.Proofs.Seed.Roles
import DataLayer.Proofs.Seed.Repetition
import DataLayer.Proofs.Command.Message
import DataLayer.Proofs.Source.Listing
