import JobQueue.Workflow.Runs.ChainContinuity
import JobQueue.Workflow.Runs.Decisions
import JobQueue.SqlQueue.Settlement
import JobQueue.SqlQueue.Listing
import JobQueue.Drivers.Agreement
import JobQueue.Workflow.SqlCalls.Linearizable
import JobQueue.Drivers.RabbitDispatch
import JobQueue.Drivers.Durable
import JobQueue.Workflow.Recovery.SameFacts
import JobQueue.Runtime.Shutdown
import JobQueue.Runtime.Registrations
import JobQueue.Observability.Gauges
import JobQueue.Uniqueness.MemoryStore
import JobQueue.SqlQueue.Uniqueness
import JobQueue.Observability.Throughput
import JobQueue.Drivers.RedisRetry
import JobQueue.Drivers.Timeouts
import JobQueue.Runtime.Continuations
import JobQueue.Runtime.ErrorTrees
import JobQueue.Runtime.Settlements
import JobQueue.Runtime.Identities
import JobQueue.Observability.Samples
import JobQueue.Runtime.QueueNames
import JobQueue.Workflow.Recovery.Indexing
