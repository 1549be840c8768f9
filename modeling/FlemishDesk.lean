import FlemishDesk.Admission.Client
import FlemishDesk.Admission.Limiter
import FlemishDesk.Announcement.Channel
import FlemishDesk.Announcement.Compose
import FlemishDesk.Announcement.Dialect
import FlemishDesk.Announcement.Links
import FlemishDesk.Announcement.Mention
import FlemishDesk.Chat.Message
import FlemishDesk.Chat.Outcome
import FlemishDesk.Command.Request
import FlemishDesk.Command.Session
import FlemishDesk.Companion.Client
import FlemishDesk.Companion.Instructions
import FlemishDesk.Complaint
import FlemishDesk.Http.Address
import FlemishDesk.Http.Date
import FlemishDesk.Http.Exchange
import FlemishDesk.Http.Header
import FlemishDesk.Http.MediaType
import FlemishDesk.Http.Message
import FlemishDesk.Http.Range
import FlemishDesk.Http.Status
import FlemishDesk.Http.Target
import FlemishDesk.Http.Url
import FlemishDesk.Json.Document
import FlemishDesk.Json.Reader
import FlemishDesk.Json.Record
import FlemishDesk.Json.Value
import FlemishDesk.Json.Writer
import FlemishDesk.Language.Lexicon
import FlemishDesk.Language.Score
import FlemishDesk.Language.Token
import FlemishDesk.Main
import FlemishDesk.Moderation.Gate
import FlemishDesk.Moderation.Phrase
import FlemishDesk.Moderation.Verdict
import FlemishDesk.Number.Binary64
import FlemishDesk.Number.Decimal
import FlemishDesk.Number.Duration
import FlemishDesk.Number.Integer
import FlemishDesk.Proofs.Admission.Burst
import FlemishDesk.Proofs.Admission.ClientKey
import FlemishDesk.Proofs.Admission.Housekeeping
import FlemishDesk.Proofs.Admission.Isolation
import FlemishDesk.Proofs.Admission.Queue
import FlemishDesk.Proofs.Admission.Window
import FlemishDesk.Proofs.Announcement.Budget
import FlemishDesk.Proofs.Announcement.Harmless
import FlemishDesk.Proofs.Announcement.Layout
import FlemishDesk.Proofs.Announcement.Mentions
import FlemishDesk.Proofs.Announcement.OnePass
import FlemishDesk.Proofs.Announcement.Payload
import FlemishDesk.Proofs.Announcement.Size
import FlemishDesk.Proofs.Chat.Conversation
import FlemishDesk.Proofs.Companion.Asking
import FlemishDesk.Proofs.Http.Address
import FlemishDesk.Proofs.Http.Calls
import FlemishDesk.Proofs.Http.Socket
import FlemishDesk.Proofs.Json.Reading
import FlemishDesk.Proofs.Json.Record
import FlemishDesk.Proofs.Json.RoundTrip
import FlemishDesk.Proofs.Language.Balance
import FlemishDesk.Proofs.Language.Canonical
import FlemishDesk.Proofs.Language.Words
import FlemishDesk.Proofs.Moderation.LastWords
import FlemishDesk.Proofs.Moderation.Phrase
import FlemishDesk.Proofs.Moderation.Recasing
import FlemishDesk.Proofs.Number.Digits
import FlemishDesk.Proofs.Number.Fraction
import FlemishDesk.Proofs.Number.Numeral
import FlemishDesk.Proofs.Number.Rounding
import FlemishDesk.Proofs.Release.Entry
import FlemishDesk.Proofs.Release.Inquiry
import FlemishDesk.Proofs.Release.Latest
import FlemishDesk.Proofs.Release.Listing
import FlemishDesk.Proofs.Release.Range
import FlemishDesk.Proofs.Release.Selection
import FlemishDesk.Proofs.Release.Timestamp
import FlemishDesk.Proofs.Report.Classification
import FlemishDesk.Proofs.Server.Endpoint
import FlemishDesk.Proofs.Server.Quota
import FlemishDesk.Proofs.Server.Wire
import FlemishDesk.Proofs.Settings.Loading
import FlemishDesk.Proofs.Settings.Precedence
import FlemishDesk.Proofs.Snippet.Completion
import FlemishDesk.Proofs.Snippet.Declaration
import FlemishDesk.Proofs.Snippet.Echo
import FlemishDesk.Proofs.Snippet.Indentation
import FlemishDesk.Proofs.Snippet.LineEnds
import FlemishDesk.Proofs.Storage.Directories
import FlemishDesk.Proofs.Storage.Files
import FlemishDesk.Proofs.Storage.Interruption
import FlemishDesk.Proofs.Storage.Names
import FlemishDesk.Proofs.Storage.Walking
import FlemishDesk.Proofs.Text.ByteLine
import FlemishDesk.Proofs.Text.Lines
import FlemishDesk.Proofs.Text.Lowercase
import FlemishDesk.Proofs.Text.Occurrence
import FlemishDesk.Proofs.Text.Percent
import FlemishDesk.Proofs.Text.Run
import FlemishDesk.Proofs.Text.Splitting
import FlemishDesk.Proofs.Text.Surroundings
import FlemishDesk.Proofs.Text.Trim
import FlemishDesk.Proofs.Text.Utf8
import FlemishDesk.Proofs.Text.Validity
import FlemishDesk.Proofs.Text.Word
import FlemishDesk.Proofs.Watch.Alone
import FlemishDesk.Proofs.Watch.Durability
import FlemishDesk.Proofs.Watch.Effects
import FlemishDesk.Proofs.Watch.Faults
import FlemishDesk.Proofs.Watch.FirstRun
import FlemishDesk.Proofs.Watch.Guard
import FlemishDesk.Proofs.Watch.History
import FlemishDesk.Proofs.Watch.Identity
import FlemishDesk.Proofs.Watch.Interleaving
import FlemishDesk.Proofs.Watch.Newest
import FlemishDesk.Proofs.Watch.Observation
import FlemishDesk.Proofs.Watch.Posts
import FlemishDesk.Proofs.Watch.Reloading
import FlemishDesk.Proofs.Watch.Saving
import FlemishDesk.Proofs.Watch.Switching
import FlemishDesk.Proofs.Watch.Temporary
import FlemishDesk.Proofs.Watch.Transition
import FlemishDesk.Release.Basic
import FlemishDesk.Release.Feed
import FlemishDesk.Release.Id
import FlemishDesk.Release.Moment
import FlemishDesk.Report.Display
import FlemishDesk.Report.Style
import FlemishDesk.Server.Chat
import FlemishDesk.Server.Limits
import FlemishDesk.Server.Router
import FlemishDesk.Server.Site
import FlemishDesk.Settings.Basic
import FlemishDesk.Settings.EnvironmentFile
import FlemishDesk.Snippet.Interpreter
import FlemishDesk.Snippet.Program
import FlemishDesk.Storage.Disk
import FlemishDesk.Storage.Path
import FlemishDesk.Text.Alphanumeric
import FlemishDesk.Text.Blank
import FlemishDesk.Text.ByteLine
import FlemishDesk.Text.CaseData
import FlemishDesk.Text.Cut
import FlemishDesk.Text.Lowercase
import FlemishDesk.Text.Percent
import FlemishDesk.Text.Run
import FlemishDesk.Text.Shorten
import FlemishDesk.Text.Utf16
import FlemishDesk.Text.Utf8
import FlemishDesk.Text.Word
import FlemishDesk.Time.Calendar
import FlemishDesk.Watch.Memory
import FlemishDesk.Watch.Operation
import FlemishDesk.Watch.Store
import FlemishDesk.Watch.Watcher
