import Restate.Collections.BTreeMap
import Restate.Types.Ids
import Restate.Types.ClusterState
import Restate.ClusterController.SafeTrimPoints
import Restate.ClusterController.TrimReports
import Restate.ClusterController.TrimSafety
import Restate.ClusterController.Election
import Restate.Text.Str
import Restate.RestApi.ServiceMetrics
import Restate.ClusterController.Leader
import Restate.Bifrost.LogletOffset
import Restate.Restatectl.Reconfigure
import Restate.ClusterController.Controller
import Restate.MetadataStore.Client
