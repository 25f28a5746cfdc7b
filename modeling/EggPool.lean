import EggPool.Budget.CostParts
import EggPool.Budget.WorstCase
import EggPool.Catalog.Cache
import EggPool.Catalog.Effective
import EggPool.Coordinator.Authorization
import EggPool.Coordinator.Discovery
import EggPool.Coordinator.EffectLedger
import EggPool.Coordinator.MissingUsage
import EggPool.Coordinator.Republication
import EggPool.Coordinator.RetryBound
import EggPool.Coordinator.SecondPass
import EggPool.Coordinator.Settlement
import EggPool.Health.AuthenticationFailure
import EggPool.Health.GateAgreement
import EggPool.Health.ProbeHolders
import EggPool.Health.RestartedRung
import EggPool.Operations.Metrics
import EggPool.Operations.Restore
import EggPool.Policy.ModelRouter
import EggPool.Quota.Window
import EggPool.Request.AdmissionBound
import EggPool.Request.OutputBound
import EggPool.Request.RetryAfter
import EggPool.Routing.Partition
import EggPool.Routing.RoundRobin
import EggPool.Routing.SessionIdentity
import EggPool.Runtime.Backlog
import EggPool.Runtime.ReloadSafety
import EggPool.Wire.NullResponses
import EggPool.Wire.ResponseRoundTrip
import EggPool.Wire.ResponsesFailure
import EggPool.Wire.SseLimits
import EggPool.Wire.Terminators
import EggPool.Wire.ToolCollection
