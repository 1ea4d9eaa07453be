import Switchyard.Bus
import Switchyard.Calendar
import Switchyard.CommandLine.Arguments
import Switchyard.CommandLine.Command
import Switchyard.Control.Evaluation
import Switchyard.Control.Loop
import Switchyard.Control.Request
import Switchyard.Control.Switching
import Switchyard.Control.Wake
import Switchyard.ControlSignal
import Switchyard.Controller.Client
import Switchyard.Controller.Exchange
import Switchyard.Daemon.Errand
import Switchyard.Daemon.PidFile
import Switchyard.Daemon.Setup
import Switchyard.Decision
import Switchyard.Delay
import Switchyard.Duration
import Switchyard.Failure
import Switchyard.Failure.Written
import Switchyard.Files.Disk
import Switchyard.Files.Event
import Switchyard.Files.Path
import Switchyard.Group
import Switchyard.Host
import Switchyard.Json
import Switchyard.Json.Fields
import Switchyard.Json.Members
import Switchyard.Json.Printer
import Switchyard.Json.Reader
import Switchyard.Main
import Switchyard.NameMap
import Switchyard.NameSet
import Switchyard.Policy
import Switchyard.Processes
import Switchyard.Proofs.Acceptance
import Switchyard.Proofs.Account
import Switchyard.Proofs.Acquiring
import Switchyard.Proofs.Addresses
import Switchyard.Proofs.Backlog
import Switchyard.Proofs.Bookkeeping
import Switchyard.Proofs.Bursts
import Switchyard.Proofs.Cancellation
import Switchyard.Proofs.Change
import Switchyard.Proofs.Choice
import Switchyard.Proofs.Chronicle
import Switchyard.Proofs.Conversation
import Switchyard.Proofs.Course
import Switchyard.Proofs.Cycles
import Switchyard.Proofs.Dialogue
import Switchyard.Proofs.DiskSteps
import Switchyard.Proofs.Documents
import Switchyard.Proofs.Drafting
import Switchyard.Proofs.Edits
import Switchyard.Proofs.Ending
import Switchyard.Proofs.Endurance
import Switchyard.Proofs.Evaluation
import Switchyard.Proofs.Failures
import Switchyard.Proofs.Favourite
import Switchyard.Proofs.Freshness
import Switchyard.Proofs.Grounds
import Switchyard.Proofs.Holding
import Switchyard.Proofs.Hysteresis
import Switchyard.Proofs.Instances
import Switchyard.Proofs.JsonText
import Switchyard.Proofs.Keeping
import Switchyard.Proofs.LeastScore
import Switchyard.Proofs.Leftovers
import Switchyard.Proofs.ListedOrder
import Switchyard.Proofs.Mishaps
import Switchyard.Proofs.Narrowing
import Switchyard.Proofs.Outcome
import Switchyard.Proofs.Outline
import Switchyard.Proofs.Overrun
import Switchyard.Proofs.Paths
import Switchyard.Proofs.Pauses
import Switchyard.Proofs.Polling
import Switchyard.Proofs.Pruning
import Switchyard.Proofs.Quoting
import Switchyard.Proofs.Receiver
import Switchyard.Proofs.RecordTexts
import Switchyard.Proofs.Records
import Switchyard.Proofs.References
import Switchyard.Proofs.Remembering
import Switchyard.Proofs.Resting
import Switchyard.Proofs.Rivals
import Switchyard.Proofs.Sharing
import Switchyard.Proofs.Signalling
import Switchyard.Proofs.Snapshots
import Switchyard.Proofs.Statuses
import Switchyard.Proofs.Stopping
import Switchyard.Proofs.StoreCalls
import Switchyard.Proofs.Stretches
import Switchyard.Proofs.Substituting
import Switchyard.Proofs.Turn
import Switchyard.Proofs.WaitBounds
import Switchyard.Proofs.Waiting
import Switchyard.Proofs.Wakeups
import Switchyard.Proofs.Warnings
import Switchyard.Proofs.Weighings
import Switchyard.Quotient53
import Switchyard.Rehearsal.Announcing
import Switchyard.Rehearsal.Run
import Switchyard.Rehearsal.Script
import Switchyard.Rehearsal.Service
import Switchyard.Rehearsal.Waits
import Switchyard.Rehearsal.Watching
import Switchyard.Rehearsal.Written
import Switchyard.Report
import Switchyard.Routine
import Switchyard.Selection
import Switchyard.Settings
import Switchyard.Settings.File
import Switchyard.Settings.Findings
import Switchyard.Settings.Loading
import Switchyard.StatusRecord
import Switchyard.Store.Document
import Switchyard.Store.Folder
import Switchyard.Store.Memory
import Switchyard.Tally
import Switchyard.Text.Blank
import Switchyard.Text.Bytes
import Switchyard.Text.Digits
import Switchyard.Timing
import Switchyard.Toml.Document
import Switchyard.Toml.Reader
import Switchyard.Toml.Scalar
import Switchyard.Toml.Strings
import Switchyard.Url
import Switchyard.Url.Host
import Switchyard.Url.Percent
import Switchyard.Url.Punycode
import Switchyard.Url.Reader
import Switchyard.Watcher
