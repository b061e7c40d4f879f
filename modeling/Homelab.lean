import Homelab.EgressProxy.Framing
import Homelab.Embervm.BrickPortfolio
import Homelab.Embervm.Cron
import Homelab.Embervm.Dispatcher.Fairness
import Homelab.Embervm.Dispatcher.SingleUse
import Homelab.Embervm.KeyService.Revocation
import Homelab.Embervm.ResidencyIntent.Candidates
import Homelab.Embervm.Scheduler.Ledger
import Homelab.Embervm.Scheduler.Serial
import Homelab.Embervm.StatefulStore.Counts
import Homelab.Embervm.StatefulStore.Issuance
import Homelab.Embervm.StatefulStore.Marks
import Homelab.Embervm.StatefulStore.Rebuild
import Homelab.Embervm.StatefulStore.Singleton
import Homelab.Embervm.TaskStore.EpochFence
import Homelab.Embervm.TaskStore.Idempotency
import Homelab.Embervm.TaskStore.Lifecycle
import Homelab.Embervm.TaskStore.Requests
import Homelab.Factory.DependencyGate.Revocation
import Homelab.Factory.Graph.EditOrder
import Homelab.Factory.Graph.Evidence
import Homelab.Factory.Graph.Replay
import Homelab.Hf2oci.Split
import Homelab.Noded.Activator
import Homelab.Noded.Admission.NoOvercommit
import Homelab.Noded.Stateful.Exclusive
import Homelab.Noded.Stateful.Ledger
import Homelab.Noded.Store.Complete
import Homelab.Noded.Store.Sealing
import Homelab.OciModelCache.Distinct
import Homelab.OciModelCache.Waiters
import Homelab.OomInference.Plan
import Homelab.Tokenbroker.Broker.NoReplay
import Homelab.Tokenbroker.Quota.Convergence
