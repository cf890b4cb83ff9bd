import OnlineDdl.Json.Printer
import OnlineDdl.Json.Reader
import OnlineDdl.Run.Database
import OnlineDdl.Run.Transcript
import OnlineDdl.Service.Settings
import OnlineDdl.Wire.Request
import OnlineDdl.Proofs.Server.Effect
import OnlineDdl.Proofs.Outcome
import OnlineDdl.Proofs.Plan.Locks
import OnlineDdl.Proofs.Server.Interruption
import OnlineDdl.Proofs.Plan.Building
import OnlineDdl.Proofs.Plan.Adding
import OnlineDdl.Proofs.Plan.NotNull
import OnlineDdl.Proofs.Plan.Promotion
import OnlineDdl.Proofs.Plan.Refinement
import OnlineDdl.Proofs.Plan.Resumption
import OnlineDdl.Proofs.Plan.Together
import OnlineDdl.Proofs.Plan.Timeouts
import OnlineDdl.Proofs.Run.Session
import OnlineDdl.Proofs.Run.Recording
import OnlineDdl.Proofs.Run.Sending
import OnlineDdl.Proofs.Run.Restoring
import OnlineDdl.Proofs.Run.Batch
import OnlineDdl.Proofs.Plan.Policy
import OnlineDdl.Proofs.Schema.ObjectName
import OnlineDdl.Proofs.Plan.Nullable
import OnlineDdl.Proofs.Plan.Standing
import OnlineDdl.Proofs.Plan.Continuation
import OnlineDdl.Proofs.Run.Undisturbed
import OnlineDdl.Proofs.Run.Asking
import OnlineDdl.Proofs.Run.Database
import OnlineDdl.Proofs.Service.Live
import OnlineDdl.Proofs.Plan.Contents
import OnlineDdl.Proofs.Plan.Omission
import OnlineDdl.Proofs.Plan.Resolution
import OnlineDdl.Proofs.Plan.Dropping
import OnlineDdl.Proofs.Plan.Clearing
import OnlineDdl.Proofs.Server.Growth
import OnlineDdl.Proofs.Plan.Realization
import OnlineDdl.Proofs.Plan.NewColumn
import OnlineDdl.Proofs.Plan.Ordering
import OnlineDdl.Proofs.Plan.Concurrency
import OnlineDdl.Proofs.Safety.MetadataOnly
import OnlineDdl.Proofs.Plan.Locality
import OnlineDdl.Proofs.Plan.Agreement
import OnlineDdl.Proofs.Plan.Refusal
import OnlineDdl.Proofs.Plan.PatternSearch
import OnlineDdl.Proofs.Plan.Regions
import OnlineDdl.Proofs.Run.Estimating
import OnlineDdl.Proofs.Plan.GroupRemoval
import OnlineDdl.Proofs.Plan.Shadowing
import OnlineDdl.Proofs.Schema.Quoting
import OnlineDdl.Proofs.Plan.Settings
import OnlineDdl.Proofs.Service.Validation
import OnlineDdl.Proofs.Service.Variable
import OnlineDdl.Proofs.Service.Spelling
import OnlineDdl.Proofs.Schema.ColumnNames
import OnlineDdl.Proofs.Schema.NameBounds
import OnlineDdl.Proofs.Schema.Purpose
import OnlineDdl.Proofs.Wire.RoundTrip
