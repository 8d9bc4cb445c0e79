import StreamWarden.Calendar
import StreamWarden.CommandLine.Arguments
import StreamWarden.CommandLine.Command
import StreamWarden.CommandLine.Fault
import StreamWarden.CommandLine.Parameter
import StreamWarden.CommandLine.Reading
import StreamWarden.Config.Profile
import StreamWarden.Config.Settings
import StreamWarden.Control.Error
import StreamWarden.Control.Signal
import StreamWarden.Drill.Bench
import StreamWarden.Drill.Scenario
import StreamWarden.Event
import StreamWarden.Event.Bus
import StreamWarden.Excess
import StreamWarden.Files.Edit
import StreamWarden.Files.Error
import StreamWarden.Files.Tree
import StreamWarden.Files.View
import StreamWarden.Graph.Backend
import StreamWarden.Graph.Error
import StreamWarden.Graph.Stage
import StreamWarden.Graph.State
import StreamWarden.Graph.Status
import StreamWarden.Host
import StreamWarden.Liveness.FrameProbe
import StreamWarden.Liveness.Watchdog
import StreamWarden.Log.Directive
import StreamWarden.Log.EventRecord
import StreamWarden.Log.Filter
import StreamWarden.Log.Line
import StreamWarden.Log.Record
import StreamWarden.Main
import StreamWarden.Monitor
import StreamWarden.Net.Address
import StreamWarden.Numeric.Binary64
import StreamWarden.Phase
import StreamWarden.Program.Run
import StreamWarden.Proofs.Account
import StreamWarden.Proofs.Alarms
import StreamWarden.Proofs.Arrivals
import StreamWarden.Proofs.Attribution
import StreamWarden.Proofs.Bonds
import StreamWarden.Proofs.Boundary
import StreamWarden.Proofs.Cadence
import StreamWarden.Proofs.Calendar
import StreamWarden.Proofs.Calm
import StreamWarden.Proofs.Chronicle
import StreamWarden.Proofs.Chronology
import StreamWarden.Proofs.Conservation
import StreamWarden.Proofs.Dates
import StreamWarden.Proofs.Delivery
import StreamWarden.Proofs.Departed
import StreamWarden.Proofs.Destinations
import StreamWarden.Proofs.Discovery
import StreamWarden.Proofs.Effects
import StreamWarden.Proofs.Encounter
import StreamWarden.Proofs.Ending
import StreamWarden.Proofs.Estate
import StreamWarden.Proofs.Finality
import StreamWarden.Proofs.FirstWord
import StreamWarden.Proofs.Flag
import StreamWarden.Proofs.Handover
import StreamWarden.Proofs.Happenings
import StreamWarden.Proofs.Inert
import StreamWarden.Proofs.Interference
import StreamWarden.Proofs.Ledger
import StreamWarden.Proofs.Leftovers
import StreamWarden.Proofs.Likeness
import StreamWarden.Proofs.Limits
import StreamWarden.Proofs.Mailbox
import StreamWarden.Proofs.Marks
import StreamWarden.Proofs.Milestones
import StreamWarden.Proofs.Moves
import StreamWarden.Proofs.Onward
import StreamWarden.Proofs.Pace
import StreamWarden.Proofs.Paths
import StreamWarden.Proofs.Plain
import StreamWarden.Proofs.Recorder
import StreamWarden.Proofs.Relay
import StreamWarden.Proofs.Respite
import StreamWarden.Proofs.Restarts
import StreamWarden.Proofs.Retries
import StreamWarden.Proofs.Roof
import StreamWarden.Proofs.Rounding
import StreamWarden.Proofs.Rounds
import StreamWarden.Proofs.Run
import StreamWarden.Proofs.Sessions
import StreamWarden.Proofs.Spread
import StreamWarden.Proofs.StageNames
import StreamWarden.Proofs.Steps
import StreamWarden.Proofs.Takes
import StreamWarden.Proofs.Timed
import StreamWarden.Proofs.Toggles
import StreamWarden.Proofs.Twins
import StreamWarden.Proofs.Veil
import StreamWarden.Proofs.Vigil
import StreamWarden.Proofs.Waiting
import StreamWarden.Recording.FileName
import StreamWarden.Recording.Region
import StreamWarden.Recording.Session
import StreamWarden.Recording.Storage
import StreamWarden.Recording.Studio
import StreamWarden.Retry.Backoff
import StreamWarden.Retry.Jitter
import StreamWarden.Subscriber.Fanout
import StreamWarden.Subscriber.Set
import StreamWarden.Subscriber.Worker
import StreamWarden.Supervisor.Loop
import StreamWarden.Supervisor.State
import StreamWarden.Supervisor.Step
import StreamWarden.Text.Alphanumeric
import StreamWarden.Text.Blank
import StreamWarden.Text.Decimal
import StreamWarden.Text.Digit
import StreamWarden.Text.Pattern
import StreamWarden.Text.Pattern.Class
import StreamWarden.Text.Pattern.Modes
import StreamWarden.Text.Pattern.Sign
import StreamWarden.Text.Quoted
import StreamWarden.Text.Slice
import StreamWarden.Text.Unseen
import StreamWarden.Time
import StreamWarden.Turns
