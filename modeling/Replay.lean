import Replay.Report
import Replay.Level
import Replay.Notice
import Replay.Variable
import Replay.Playback
import Replay.Workbench.Launch
import Replay.Scenario.Drawing
import Replay.Scenario.Modules
import Replay.Scenario.Theatre
import Replay.Scenario.Rehearsal
import Replay.Proofs.World.Discipline
import Replay.Proofs.Session.Command
import Replay.Proofs.Session.Sound
import Replay.Proofs.Session.Timeline
import Replay.Proofs.World.Call
import Replay.Proofs.World.Confined
import Replay.Proofs.World.Poll
import Replay.Proofs.World.Formed
import Replay.Proofs.World.Turn
import Replay.Proofs.World.Player
import Replay.Proofs.World.Delivery
import Replay.Proofs.Session.Driving
import Replay.Proofs.World.Resumption
import Replay.Proofs.Module.Declared
import Replay.Proofs.Module.Boxes
import Replay.Proofs.World.Tidy
import Replay.Proofs.World.Mirror
import Replay.Proofs.World.Loading
import Replay.Proofs.World.Agreement
import Replay.Proofs.World.Named
import Replay.Proofs.World.Reloading
import Replay.Proofs.World.Mute
import Replay.Proofs.World.Subscribed
import Replay.Proofs.Module.Handles
import Replay.Proofs.World.Accounted
import Replay.Proofs.World.Lodged
import Replay.Proofs.World.Housed
import Replay.Proofs.World.Outdated
import Replay.Proofs.World.Pause
import Replay.Proofs.Trace.Composition
import Replay.Proofs.Trace.Rereading
import Replay.Proofs.Bus.Roll
import Replay.Proofs.World.Story
import Replay.Proofs.World.Publication
import Replay.Proofs.Clock.Beat
import Replay.Proofs.Clock.Timetable
import Replay.Proofs.Clock.Punctual
import Replay.Proofs.World.Refusal
import Replay.Proofs.World.Announcing
import Replay.Proofs.Render.Subtree
import Replay.Proofs.World.Register
import Replay.Proofs.World.Breakdown
import Replay.Proofs.World.Failure
import Replay.Proofs.World.Access
import Replay.Proofs.Interpreter.Answer
import Replay.Proofs.Json.Shown
import Replay.Proofs.Json.Gathering
import Replay.Proofs.Level.Validity
import Replay.Proofs.Wire.Records
import Replay.Proofs.Wire.Notices
import Replay.Proofs.Trace.LastWrite
import Replay.Proofs.Trace.Legible
import Replay.Proofs.World.Headless
