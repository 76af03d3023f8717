import CrashWave.Analytics.Anomaly
import CrashWave.Analytics.Drawdown
import CrashWave.Analytics.Types
import CrashWave.Analytics.Windows
import CrashWave.App.CashOutOrder
import CrashWave.App.Composition
import CrashWave.App.ConfigWrites
import CrashWave.App.HaltedEntries
import CrashWave.App.Orchestration
import CrashWave.App.RoundPersistence
import CrashWave.Betting.BetExecutor
import CrashWave.Betting.CashOutMonitoring
import CrashWave.Betting.Confirmation
import CrashWave.Betting.ExecutionModeGate
import CrashWave.Betting.PlacementDiscipline
import CrashWave.Betting.RedisIdempotency
import CrashWave.Betting.RiskEngine
import CrashWave.Betting.UnknownBalance
import CrashWave.Bisection.Basic
import CrashWave.Capital.InMemoryLimits
import CrashWave.Cooldowns.Basic
import CrashWave.Core.CircuitBreaker.FinancialCircuitBreaker
import CrashWave.Core.ConfidenceGates
import CrashWave.Core.DryRun.DryRunController
import CrashWave.Core.DryRun.DryRunExecutor
import CrashWave.Core.DryRun.LedgerConservation
import CrashWave.Core.DryRun.SignalAccounting
import CrashWave.Core.DryRun.VirtualEntries
import CrashWave.Core.EventBus
import CrashWave.Core.FailClosed
import CrashWave.Core.InstanceHolders
import CrashWave.Core.JobQueue.JobAccounts
import CrashWave.Core.JobQueue.Wakeups
import CrashWave.Core.LiveGate
import CrashWave.Core.LiveRiskAgreement
import CrashWave.Core.MutualExclusion
import CrashWave.Core.PlacementRecords
import CrashWave.Core.ReconciliationService
import CrashWave.Core.RecoveryManager
import CrashWave.Core.RecoverySoundness
import CrashWave.Core.SessionPhase
import CrashWave.Core.SessionStop
import CrashWave.Core.SessionSupervisor
import CrashWave.Core.SheathMode.RecoveryDiscipline
import CrashWave.Core.StateMachine.BetAccounting
import CrashWave.Core.StateMachine.EmergencyHalt
import CrashWave.Core.StateMachine.EntryGuards
import CrashWave.Core.StateMachine.Guards
import CrashWave.Core.StateMachine.Machine
import CrashWave.Core.StateMachine.RejectedEvents
import CrashWave.Core.StateMachine.Types
import CrashWave.Core.StateMachine.UnresolvedBets
import CrashWave.Game.AgreeingSources
import CrashWave.Game.Observer
import CrashWave.Game.RoundEvents
import CrashWave.Game.WsInterceptor
import CrashWave.JavaScript.RelatedMaps
import CrashWave.JavaScript.Value
import CrashWave.Ledger.AutoReconciliation
import CrashWave.Ledger.DailyEntryCounts
import CrashWave.Ledger.DailyLedgerAgreement
import CrashWave.Ledger.ExpectedBalance
import CrashWave.Ledger.PnlCalculator
import CrashWave.Ledger.Reconciliation
import CrashWave.Ledger.ResolutionRaces
import CrashWave.Ledger.SlotReleases
import CrashWave.Mixtures.Basic
import CrashWave.Observability.HotCache
import CrashWave.Opportunity.Decision
import CrashWave.Opportunity.Ranker
import CrashWave.Persistence.MigrationOrder
import CrashWave.Persistence.MigrationRuns
import CrashWave.Persistence.Migrations
import CrashWave.Persistence.PredictionRepository
import CrashWave.Persistence.TickRepository
import CrashWave.Pooling.Basic
import CrashWave.Prediction.Acie.BlendedEstimate
import CrashWave.Prediction.Acie.Evidence
import CrashWave.Prediction.Acie.EvidenceVerdicts
import CrashWave.Prediction.Acie.OnlineInvariants
import CrashWave.Prediction.Acie.SequenceIntelligence
import CrashWave.Prediction.BacktestAccounts
import CrashWave.Prediction.CalibrationPairs
import CrashWave.Prediction.CalibrationWindow
import CrashWave.Prediction.Datasets
import CrashWave.Prediction.DivergenceLevels
import CrashWave.Prediction.Ensemble
import CrashWave.Prediction.EnsembleWeights
import CrashWave.Prediction.EntryDecision
import CrashWave.Prediction.EntryVerdicts
import CrashWave.Prediction.HistoryWarmup
import CrashWave.Prediction.IncrementalBatch
import CrashWave.Prediction.IsotonicFit
import CrashWave.Prediction.IsotonicMonotonicity
import CrashWave.Prediction.KellySizer
import CrashWave.Prediction.LearnedClustering
import CrashWave.Prediction.LifecycleSoundness
import CrashWave.Prediction.MultiTarget
import CrashWave.Prediction.Pipeline
import CrashWave.Prediction.ProcessedRounds
import CrashWave.Prediction.RegimeFeatures
import CrashWave.Prediction.RollingHistory
import CrashWave.Prediction.StateRestart
import CrashWave.Prediction.StreakAgreement
import CrashWave.Prediction.ValidationMetrics
import CrashWave.Prediction.ValidationProtocol
import CrashWave.Prediction.WalkForward
import CrashWave.Rankings.Basic
import CrashWave.Risk.HashChain
import CrashWave.Risk.VelocityController
import CrashWave.Runs.Attempts
import CrashWave.Runs.Basic
import CrashWave.Settlement.BootReconcile
import CrashWave.Settlement.ExplicitEvidence
import CrashWave.Settlement.SettledAmounts
import CrashWave.Settlement.SingleCredit
import CrashWave.Telegram.Authorization
import CrashWave.Telegram.Commands
import CrashWave.Telegram.GatewayLimits
import CrashWave.Telegram.LiveConfirmation
import CrashWave.Telegram.LoginConversations
import CrashWave.Telegram.NotificationFates
import CrashWave.Telegram.ThrottleEngine
import CrashWave.Telegram.ThrottleLimits
import CrashWave.Turnstiles.Basic
import CrashWave.Utils.Async
import CrashWave.Utils.CircuitBreaker
import CrashWave.Utils.DayBoundary
import CrashWave.Workers.FleetStop
import CrashWave.Workers.WorkQueue
import CrashWave.Game.ApiAdapter
