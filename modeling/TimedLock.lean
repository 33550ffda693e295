import TimedLock.Catalogue
import TimedLock.Proofs.Holding.Program
import TimedLock.Rehearsal.Snapshot
import TimedLock.Proofs.Holding.Discipline
import TimedLock.Proofs.Holding.HandlerPhase
import TimedLock.Proofs.Lock.CacheContract
import TimedLock.Proofs.Lock.CachedSteps
import TimedLock.Proofs.Lock.CachedWait
import TimedLock.Proofs.Lock.MutualExclusion
import TimedLock.Proofs.Lock.MemoryCache
import TimedLock.Proofs.Task.GuardedCall
import TimedLock.Proofs.Task.RunningCalls
import TimedLock.Proofs.Task.Conduct
import TimedLock.Proofs.Task.NoDuplicateRun
import TimedLock.Proofs.Number.Difference
import TimedLock.Proofs.Holding.Simulation
import TimedLock.Proofs.Lock.ReentrantOwnership
import TimedLock.Proofs.Lock.LostLock
import TimedLock.Proofs.Task.Transparency
import TimedLock.Proofs.Task.StartedFlag
import TimedLock.Proofs.Lock.ServiceAnswers
import TimedLock.Proofs.Lock.LeaseAlternation
import TimedLock.Proofs.Client.Lifecycle
import TimedLock.Proofs.Lock.ReentrantAgreement
import TimedLock.Proofs.Lock.ReentrantNesting
import TimedLock.Proofs.Lock.AcquisitionOutcomes
import TimedLock.Proofs.Client.BundleSteps
import TimedLock.Proofs.Client.BundleOwnership
import TimedLock.Proofs.App.HealthEndpoint
import TimedLock.Proofs.App.StartUp
import TimedLock.Proofs.Client.Closing
import TimedLock.Proofs.Lock.ExactTime
import TimedLock.Proofs.Lock.FreedKey
import TimedLock.Proofs.Lock.WaitClock
import TimedLock.Proofs.Lock.WaitLength
import TimedLock.Proofs.Lock.WaitOutcome
import TimedLock.Proofs.Lock.WaitRecord
import TimedLock.Proofs.Number.Overflow
import TimedLock.Proofs.Lock.WaitBound
import TimedLock.Proofs.Lock.EndlessWait
import TimedLock.Proofs.Holding.Timeouts
import TimedLock.Proofs.Holding.FailedRelease
import TimedLock.Proofs.Lock.ReleaseRetry
import TimedLock.Proofs.Holding.ConditionalRelease
import TimedLock.Proofs.Lock.NameQuery
import TimedLock.Proofs.Task.LockQuery
import TimedLock.Proofs.Task.NamedParameter
import TimedLock.Proofs.Task.SharedKeys
import TimedLock.Proofs.Ensemble.ConnectString
import TimedLock.Proofs.Task.BoundTask
import TimedLock.Proofs.Ensemble.Search
import TimedLock.Proofs.Ensemble.NamedServers
import TimedLock.Proofs.Config.Limits
import TimedLock.Proofs.Config.Copies
import TimedLock.Proofs.Number.Rounding
import TimedLock.Proofs.Lock.WholeWait
