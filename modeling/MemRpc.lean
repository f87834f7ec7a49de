import MemRpc.Lib.Machine
import MemRpc.Lib.Threads
import MemRpc.Lib.Contract
import MemRpc.Lib.Cyclic
import MemRpc.Lib.RobustMutex
import MemRpc.Lib.Wire
import MemRpc.Lib.Transfer
import MemRpc.Lib.Path
import MemRpc.Lib.ListSet
import MemRpc.Core.Protocol
import MemRpc.Core.Layout
import MemRpc.Core.Ring
import MemRpc.Core.RingFifo
import MemRpc.Core.RingSteps
import MemRpc.Core.Spsc
import MemRpc.Rpc.RequestPath
import MemRpc.Rpc.AtMostOnce
import MemRpc.Rpc.SubmitWakeup
import MemRpc.Rpc.RequestCredit
import MemRpc.Rpc.DispatcherLoop
import MemRpc.Rpc.ExecutorBacklog
import MemRpc.Rpc.WorkerPool
import MemRpc.Rpc.PoolTasks
import MemRpc.Rpc.BusyDispatcher
import MemRpc.Rpc.ResponsePath
import MemRpc.Rpc.ResponseCredit
import MemRpc.Rpc.BrokenPending
import MemRpc.Rpc.SessionLifecycle
import MemRpc.Core.RingContents
import MemRpc.Rpc.ReplyCorrelation
import MemRpc.Core.HeaderTamper
import MemRpc.Core.SessionHost
import MemRpc.Core.FilePayload
import MemRpc.Core.ClientAttachment
import MemRpc.Core.AttachRecovery
import MemRpc.Core.AttachOwnership
import MemRpc.Core.AcceptedLayout
import MemRpc.Core.ByteCodec
import MemRpc.Core.CodecTraits
import MemRpc.Rpc.PayloadCleanup
import MemRpc.Rpc.PayloadTransport
import MemRpc.Rpc.EnvelopeCodec
import MemRpc.Rpc.PayloadFiles
import MemRpc.Rpc.CallFidelity
import MemRpc.Rpc.RequestFiles
import MemRpc.Ves.RestartBudget
import MemRpc.Ves.Registry
import MemRpc.Ves.RegistryWire
import MemRpc.Ves.RegistryLoad
import MemRpc.Ves.SessionService
import MemRpc.Ves.BootstrapChannel
import MemRpc.Ves.AnyCall
import MemRpc.Ves.AnyCallWire
import MemRpc.Ves.EngineConfig
import MemRpc.Ves.MessageCodecs
import MemRpc.Ves.FailureMonitor
import MemRpc.Ves.SampleRules
import MemRpc.Ves.DeathRecipients
import MemRpc.Ves.ControlProxy
import MemRpc.Rpc.PayloadReads
import MemRpc.Rpc.ServerRuntime
import MemRpc.Rpc.ServerMoves
import MemRpc.Rpc.ActiveExecutions
import MemRpc.Rpc.StopWakeup
import MemRpc.Rpc.CompletionQueue
import MemRpc.Rpc.ReplyConservation
import MemRpc.Rpc.ClientRuntime
import MemRpc.Rpc.ClientMoves
import MemRpc.Rpc.StaleSession
import MemRpc.Rpc.ClientLocks
import MemRpc.Rpc.ClientStore
import MemRpc.Rpc.PendingSessions
import MemRpc.Rpc.ClientShutdown
import MemRpc.Rpc.ClientFutures
import MemRpc.Rpc.Sections
import MemRpc.Rpc.RecoveryOnce
import MemRpc.Rpc.LifecycleAgreement
import MemRpc.Rpc.CooldownGate
import MemRpc.Rpc.ClientLifetime
import MemRpc.Rpc.LifetimeLocks
import MemRpc.Rpc.LifetimeShutdown
import MemRpc.Rpc.RecoveryEvents
import MemRpc.Rpc.PublishOrder
import MemRpc.Rpc.RecoveryRetry
import MemRpc.Rpc.RetryDeadline
import MemRpc.Rpc.ClientCallers
import MemRpc.Rpc.FutureSettlement
import MemRpc.Rpc.IdleSampling
import MemRpc.Rpc.ResponseWakeup
import MemRpc.Rpc.ClosedTerminal
import MemRpc.Rpc.EngineDeath
