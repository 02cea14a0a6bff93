import InstancedAreas.Text.Blank
import InstancedAreas.Text.Digits
import InstancedAreas.Table
import InstancedAreas.Table.Lemmas
import InstancedAreas.Json
import InstancedAreas.Json.Text
import InstancedAreas.Duration
import InstancedAreas.Duration.Decimal
import InstancedAreas.Duration.Human
import InstancedAreas.Instant
import InstancedAreas.Instant.Calendar
import InstancedAreas.Instant.Rfc3339
import InstancedAreas.Clock
import InstancedAreas.Identity
import InstancedAreas.Instance.Id
import InstancedAreas.Instance.Key
import InstancedAreas.Template
import InstancedAreas.Template.Shape
import InstancedAreas.Instance.Occupants
import InstancedAreas.Instance.Occupants.Lemmas
import InstancedAreas.Instance
import InstancedAreas.Instance.Shape
import InstancedAreas.Event
import InstancedAreas.Event.Shape
import InstancedAreas.Feed
import InstancedAreas.Teardown
import InstancedAreas.Teardown.Lemmas
import InstancedAreas.Eviction
import InstancedAreas.Eviction.Shape
import InstancedAreas.Eviction.Relocator
import InstancedAreas.Registry.Error
import InstancedAreas.Patrol
import InstancedAreas.Registry
import InstancedAreas.Sweep
import InstancedAreas.Gate
import InstancedAreas.Gate.Timetable
import InstancedAreas.Gate.Board
import InstancedAreas.Gate.Shape
import InstancedAreas.Admission.Request
import InstancedAreas.Admission.Error
import InstancedAreas.Admission
import InstancedAreas.Admission.Shape
import InstancedAreas.Configuration.Problem
import InstancedAreas.Configuration
import InstancedAreas.Configuration.Shape
import InstancedAreas.Toml.Tree
import InstancedAreas.Toml.Quoted
import InstancedAreas.Toml.Scalar
import InstancedAreas.Toml
import InstancedAreas.Environment
import InstancedAreas.Configuration.Layers
import InstancedAreas.Failure
import InstancedAreas.Service
import InstancedAreas.Vigil
import InstancedAreas.CommandLine
import InstancedAreas.CommandLine.Run
import InstancedAreas.CommandLine.Help
import InstancedAreas.Main
import InstancedAreas.Proofs.Admission.Comparison
import InstancedAreas.Proofs.Admission.Filling
import InstancedAreas.Proofs.Admission.FirstFit
import InstancedAreas.Proofs.Admission.Grant
import InstancedAreas.Proofs.Admission.Group
import InstancedAreas.Proofs.Admission.Independence
import InstancedAreas.Proofs.Admission.Occupation
import InstancedAreas.Proofs.Admission.Party
import InstancedAreas.Proofs.Admission.Placement
import InstancedAreas.Proofs.Admission.Pooled
import InstancedAreas.Proofs.Admission.Refusal
import InstancedAreas.Proofs.Admission.Return
import InstancedAreas.Proofs.Atomicity
import InstancedAreas.Proofs.Capacity
import InstancedAreas.Proofs.Clock
import InstancedAreas.Proofs.Clock.Clones
import InstancedAreas.Proofs.Endings
import InstancedAreas.Proofs.Eviction.Book
import InstancedAreas.Proofs.Feed.History
import InstancedAreas.Proofs.Feed.Life
import InstancedAreas.Proofs.Feed.Replay
import InstancedAreas.Proofs.Gate.Cycle
import InstancedAreas.Proofs.Gate.Timetable
import InstancedAreas.Proofs.Gate.Verdict
import InstancedAreas.Proofs.Incarnation
import InstancedAreas.Proofs.Instance.Countdown
import InstancedAreas.Proofs.Instance.Room
import InstancedAreas.Proofs.Instant.Deadline
import InstancedAreas.Proofs.Leadership
import InstancedAreas.Proofs.Registry.Answer
import InstancedAreas.Proofs.Registry.Change
import InstancedAreas.Proofs.Registry.Locality
import InstancedAreas.Proofs.Registry.Lookup
import InstancedAreas.Proofs.Registry.Newcomers
import InstancedAreas.Proofs.Run
import InstancedAreas.Proofs.Run.Turn
import InstancedAreas.Proofs.Run.Turns
import InstancedAreas.Proofs.Sweep.Announcements
import InstancedAreas.Proofs.Sweep.Census
import InstancedAreas.Proofs.Sweep.Coverage
import InstancedAreas.Proofs.Sweep.Cut
import InstancedAreas.Proofs.Sweep.Dispatch
import InstancedAreas.Proofs.Sweep.Exactness
import InstancedAreas.Proofs.Sweep.Interruption
import InstancedAreas.Proofs.Sweep.Notices
import InstancedAreas.Proofs.Sweep.Progress
import InstancedAreas.Proofs.Sweep.Punctual
import InstancedAreas.Proofs.Retry
import InstancedAreas.Proofs.Handle
import InstancedAreas.Proofs.Slots
import InstancedAreas.Proofs.Teardown.Waiting
import InstancedAreas.Proofs.Terms
import InstancedAreas.Proofs.Vigil
import InstancedAreas.Proofs.Configuration.Validation
import InstancedAreas.Proofs.Service.Build
import InstancedAreas.Proofs.Service.Gates
import InstancedAreas.Proofs.Service.FirstEntry
import InstancedAreas.Proofs.Service.Readings
import InstancedAreas.Proofs.Text.Digits
import InstancedAreas.Proofs.Json.Text
import InstancedAreas.Proofs.Json.Shape
import InstancedAreas.Proofs.Duration.Human
import InstancedAreas.Proofs.CommandLine.Simulation
import InstancedAreas.Proofs.Toml.Distinct
import InstancedAreas.Proofs.Configuration.Shape
import InstancedAreas.Proofs.Environment
import InstancedAreas.Proofs.Configuration.Layers
import InstancedAreas.Proofs.Instant.Calendar
import InstancedAreas.Proofs.Instant.Rfc3339
import InstancedAreas.Proofs.Instance.Id
import InstancedAreas.Proofs.Event.Shape
