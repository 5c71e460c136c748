import Odis.AlertPolicy.CalibrationSearch
import Odis.AlertPolicy.ConfirmedClass
import Odis.AlertPolicy.Detection
import Odis.AlertPolicy.Episodes
import Odis.AlertPolicy.Evaluation
import Odis.AlertPolicy.FalseAlarmCounters
import Odis.AlertPolicy.FaultClasses
import Odis.AlertPolicy.GappedEvaluation
import Odis.AlertPolicy.InsufficientData
import Odis.AlertPolicy.InvalidRows
import Odis.AlertPolicy.Invariant
import Odis.AlertPolicy.Phase
import Odis.AlertPolicy.RunCharacterisation
import Odis.AlertPolicy.StateMachine
import Odis.Features.Accounting
import Odis.Features.Alignment
import Odis.Features.Builder
import Odis.Features.Computable
import Odis.Features.Config
import Odis.Features.Row
import Odis.Features.Safety
import Odis.Features.Table
import Odis.Features.Windows
import Odis.Inference.Alerts
import Odis.Inference.Isolation
import Odis.Inference.Parity
import Odis.Inference.Result
import Odis.Inference.Session
import Odis.Inference.Telemetry
import Odis.Inference.Totality
import Odis.InferenceWorker.ArrivalOrder
import Odis.InferenceWorker.Assembly
import Odis.InferenceWorker.Building
import Odis.InferenceWorker.Completion
import Odis.InferenceWorker.Delivery
import Odis.InferenceWorker.EventJson
import Odis.InferenceWorker.Events
import Odis.InferenceWorker.HandOff
import Odis.InferenceWorker.InputEvents
import Odis.InferenceWorker.Ledger
import Odis.InferenceWorker.Offsets
import Odis.InferenceWorker.Records
import Odis.InferenceWorker.Tracking
import Odis.InferenceWorker.Worker
import Odis.Investigation.Concurrency
import Odis.Investigation.Transition
import Odis.Library.Dispersion
import Odis.Library.Exceptions
import Odis.Library.KeyedTable
import Odis.Library.KeyedWindow
import Odis.Library.MeanGap
import Odis.Library.OrderBy
import Odis.Library.OrderedDict
import Odis.Library.PartialRun
import Odis.Library.PollLoop
import Odis.Library.RetryPublisher
import Odis.Library.RingBuffer
import Odis.Library.Rounding
import Odis.Library.Runs
import Odis.Library.Separator
import Odis.Library.Stretches
import Odis.Library.TieBreaking
import Odis.Library.TrailingRun
import Odis.Library.Transaction
import Odis.Library.Transducer
import Odis.Library.WriteLog
import Odis.Monitoring.Announcement
import Odis.Monitoring.Drift
import Odis.Monitoring.Liveness
import Odis.Monitoring.Runs
import Odis.Monitoring.Service
import Odis.Monitoring.StateEngine
import Odis.MqttBridge.GeneratedIds
import Odis.MqttBridge.Ingestion
import Odis.MqttBridge.Mapper
import Odis.Operations.Domain
import Odis.Outbox.Dispatcher
import Odis.Outbox.Events
import Odis.Outbox.Producers
import Odis.Python.Binary64
import Odis.Python.Datetime
import Odis.Python.Decoding
import Odis.Python.Double
import Odis.Python.DoubleFormat
import Odis.Python.ExactReal
import Odis.Python.Float
import Odis.Python.Isoformat
import Odis.Python.Json
import Odis.Python.JsonRoundTrip
import Odis.Python.Rationals
import Odis.Python.Statistics
import Odis.Python.Validation
import Odis.Reasoning.DecisionLaw
import Odis.Reasoning.DiagnosticsSymmetry
import Odis.Reasoning.Directions
import Odis.Reasoning.Gate
import Odis.Reasoning.Grounding
import Odis.Reasoning.Hypotheses
import Odis.Reasoning.ObservationWindow
import Odis.Reasoning.SignalExtraction
import Odis.Reasoning.Stages
import Odis.Reasoning.Ties
import Odis.Reasoning.Totality
import Odis.Reasoning.TrendDetector
import Odis.Reasoning.TrendDiagnostics
import Odis.Reasoning.TrendSymmetry
import Odis.ReasoningBridge.Agreement
import Odis.ReasoningBridge.Contract
import Odis.ReasoningBridge.Corroboration
import Odis.ReasoningBridge.Evidence
import Odis.ReasoningBridge.EvidenceRepository
import Odis.ReasoningBridge.InputEvents
import Odis.ReasoningBridge.Investigations
import Odis.ReasoningBridge.Publication
import Odis.ReasoningBridge.Recency
import Odis.ReasoningBridge.Recommendations
import Odis.ReasoningBridge.Replay
import Odis.ReasoningBridge.Service
import Odis.ReasoningBridge.SparseHistory
import Odis.ReasoningHistory.AllOrNothing
import Odis.ReasoningHistory.Readers
import Odis.ReasoningHistory.Runs
import Odis.ReasoningHistory.Session
import Odis.ReasoningJobs.FailureAtomicity
import Odis.ReasoningJobs.Guarantees
import Odis.ReasoningJobs.Queue
import Odis.ReasoningJobs.Repository
import Odis.ReasoningJobs.Slot
import Odis.ReasoningJobs.Worker
import Odis.Simulator.Apportionment
import Odis.Simulator.CalibrationMetrics
import Odis.Simulator.DatasetSpec
import Odis.Simulator.Envelope
import Odis.Simulator.FaultGrid
import Odis.Simulator.Generation
import Odis.Simulator.LabelAudit
import Odis.Simulator.Labels
import Odis.Simulator.Machine
import Odis.Simulator.Plant
import Odis.Simulator.Promotion
import Odis.Simulator.RunConfig
import Odis.Simulator.RunPlan
import Odis.Simulator.Runner
import Odis.Simulator.Splits
import Odis.Simulator.Starvation
import Odis.Simulator.StructuralAudit
import Odis.Simulator.Telemetry
import Odis.Telemetry.Aggregates
import Odis.Twin.Cache
import Odis.Twin.Codec
import Odis.Twin.Coherence
import Odis.Twin.Domain
import Odis.Twin.Handlers
import Odis.Twin.RecommendationEngine
import Odis.Twin.Records
