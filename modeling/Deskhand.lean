import Deskhand.CommandLine.Described
import Deskhand.Main
import Deskhand.Proofs.Run.Course
import Deskhand.Proofs.Schedule.Core
import Deskhand.Proofs.Schedule.History
import Deskhand.Proofs.Schedule.TakingIn
import Deskhand.Proofs.Schedule.Moves
import Deskhand.Proofs.Schedule.Sound
import Deskhand.Proofs.Schedule.Generations
import Deskhand.Proofs.Schedule.Rosters
import Deskhand.Proofs.Schedule.Placement
import Deskhand.Proofs.Schedule.Daily
import Deskhand.Proofs.Block.Stored
import Deskhand.Proofs.Chat.Pairing
import Deskhand.Proofs.Store.Refinement
import Deskhand.Proofs.Daemon.Watching
import Deskhand.Proofs.Schedule.Standing
import Deskhand.Proofs.Schedule.Outcomes
import Deskhand.Proofs.Schedule.Messages
import Deskhand.Proofs.Run.Recorded
import Deskhand.Proofs.Text.Quoted
import Deskhand.Proofs.Store.Printed
import Deskhand.Proofs.Store.Fingerprint
import Deskhand.Proofs.Keyboard.Held
import Deskhand.Proofs.Trigger.Observers
import Deskhand.Proofs.Schedule.Detections
import Deskhand.Proofs.Schedule.Connection
import Deskhand.Proofs.Run.News
import Deskhand.Proofs.CommandLine.Failing
import Deskhand.Proofs.CommandLine.Rewriting
import Deskhand.Proofs.Schedule.Stopping
import Deskhand.Proofs.Catalogue.Marking
import Deskhand.Proofs.Catalogue.Reporting
import Deskhand.Proofs.Block.Ids
import Deskhand.Proofs.CommandLine.Creating
import Deskhand.Proofs.Schedule.Tie
import Deskhand.Proofs.Schedule.Following
import Deskhand.Proofs.Schedule.Applied
import Deskhand.Proofs.Calendar.Instant
import Deskhand.Proofs.Trigger.Cyclic
import Deskhand.Proofs.Catalogue.Overlap
import Deskhand.Proofs.Trigger.Minute
import Deskhand.Proofs.Run.References
import Deskhand.Proofs.Trigger.Recording
import Deskhand.Proofs.Action.Answers
import Deskhand.Proofs.Path
import Deskhand.Proofs.Run.LastValue
import Deskhand.Proofs.Trigger.Renames
import Deskhand.Proofs.Chat.Recent
import Deskhand.Proofs.Schedule.Polled
import Deskhand.Proofs.Block.Elements
import Deskhand.Proofs.CommandLine.Refused
import Deskhand.Proofs.Keyboard.Combination
import Deskhand.Proofs.Catalogue.Shapes
import Deskhand.Proofs.Schedule.Hotkeys
import Deskhand.Proofs.Schedule.Waiting
import Deskhand.Proofs.Schedule.Beats
import Deskhand.Proofs.Schedule.LoopAlarms
import Deskhand.Proofs.Schedule.Pacing
