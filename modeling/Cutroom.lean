import Cutroom.Text.Letter
import Cutroom.Text.Bytes
import Cutroom.Storage.FilePath
import Cutroom.Json.Reader
import Cutroom.Json.Writer
import Cutroom.Timeline.Gesture
import Cutroom.Look.Record
import Cutroom.Job.Record
import Cutroom.Job.Script
import Cutroom.Job.Poll
import Cutroom.Assistant.Chat
import Cutroom.Storage.Settings
import Cutroom.Storage.Token
import Cutroom.Desk.Editor
import Cutroom.Desk.Record
import Cutroom.Web.Client
import Cutroom.Command.Run
import Cutroom.Web.Wire
import Cutroom.Storage.Stamp
import Cutroom.Storage.Survey
import Cutroom.Command.Needs
import Cutroom.Command.Pace
import Cutroom.Main
import Cutroom.Proofs.Job.Course
import Cutroom.Proofs.Job.Outlook
import Cutroom.Proofs.Job.Recorded
import Cutroom.Proofs.Storage.Written
import Cutroom.Proofs.Desk.Handled
import Cutroom.Proofs.Desk.Waiting
import Cutroom.Proofs.Desk.Prompted
import Cutroom.Proofs.Desk.Operation
import Cutroom.Proofs.Desk.Processing
import Cutroom.Proofs.Desk.Era
import Cutroom.Proofs.Desk.Whole
import Cutroom.Proofs.Desk.Freed
import Cutroom.Proofs.Job.Transcript
import Cutroom.Proofs.Storage.Resolved
import Cutroom.Proofs.Job.Contained
import Cutroom.Proofs.Desk.Sheltered
import Cutroom.Proofs.Timeline.Order
import Cutroom.Proofs.Timeline.Sized
import Cutroom.Proofs.Desk.Change
import Cutroom.Proofs.Desk.Sized
import Cutroom.Proofs.Timeline.Zipper
import Cutroom.Proofs.Storage.Directories
import Cutroom.Proofs.Desk.News
import Cutroom.Proofs.Job.Schedule
import Cutroom.Proofs.Timeline.Ranked
import Cutroom.Proofs.Timeline.Rounded
import Cutroom.Proofs.Timeline.Placed
import Cutroom.Proofs.Timeline.Held
import Cutroom.Proofs.Desk.Timed
import Cutroom.Proofs.Json.Records
import Cutroom.Proofs.Web.Apart
import Cutroom.Proofs.Command.Login
import Cutroom.Proofs.Command.Delivered
import Cutroom.Proofs.Desk.Divided
import Cutroom.Proofs.Desk.Undone
import Cutroom.Proofs.Look.Merged
import Cutroom.Proofs.Desk.Unloaded
import Cutroom.Proofs.Job.Queue
import Cutroom.Proofs.Desk.Motions
import Cutroom.Proofs.Desk.Queued
import Cutroom.Proofs.Timeline.Ordered
import Cutroom.Proofs.Desk.Stretched
import Cutroom.Proofs.Timeline.Dragged
import Cutroom.Proofs.Timeline.Storable
import Cutroom.Proofs.Timeline.Nearest
import Cutroom.Proofs.Timeline.Exact
import Cutroom.Proofs.Timeline.Pointed
import Cutroom.Proofs.Desk.Trimmed
import Cutroom.Proofs.Job.Paced
import Cutroom.Proofs.Web.Classified
import Cutroom.Proofs.Decimal.Numerals
import Cutroom.Proofs.Timeline.Legible
import Cutroom.Proofs.Look.Ranged
import Cutroom.Proofs.Desk.Conversed
import Cutroom.Proofs.Json.Reread
import Cutroom.Proofs.Storage.Configured
import Cutroom.Proofs.Text.Normal
import Cutroom.Proofs.Job.Reported
