import Restate.Collections.BTreeMap
import Restate.Types.Ids

/-! The observed `ClusterState` snapshot of `restate_types::cluster::cluster_state`,
reduced to what the trim policy reads: the per-node liveness variant and, for an
alive node, its generational id and per-partition processor status. -/
namespace Restate

/-- `PartitionProcessorStatus`; only the three LSNs the trim policy reads. -/
structure PartitionProcessorStatus where
  lastAppliedLogLsn : Option Lsn
  lastPersistedLogLsn : Option Lsn
  lastArchivedLogLsn : Option Lsn
  deriving Repr

structure AliveNode where
  generationalNodeId : GenerationalNodeId
  partitions : BTreeMap PartitionId PartitionProcessorStatus

/-- `NodeState`; the payloads of `Dead` and `Suspect` are never read. -/
inductive NodeState
  | alive (node : AliveNode)
  | dead
  | suspect

/-- `ClusterState`: nodes keyed by plain id. -/
structure ClusterState where
  nodes : BTreeMap PlainNodeId NodeState

def NodeState.alive? : NodeState → Option AliveNode
  | .alive n => some n
  | _ => none

namespace ClusterState

def aliveNodes (cs : ClusterState) : List AliveNode :=
  cs.nodes.entries.filterMap (·.2.alive?)

/-- Every `Alive` entry carries its own generational id. -/
def DistinctGenerations (cs : ClusterState) : Prop :=
  (cs.aliveNodes.map (·.generationalNodeId)).Nodup

def reports (cs : ClusterState) (p : PartitionId) : List PartitionProcessorStatus :=
  cs.aliveNodes.filterMap (·.partitions.get? p)

/-- Some alive node reports an archived LSN above `INVALID` for some partition. -/
def ReportsArchivedLsn (cs : ClusterState) : Prop :=
  ∃ n ∈ cs.aliveNodes, ∃ s ∈ n.partitions.values, ∃ a, s.lastArchivedLogLsn = some a ∧ Lsn.INVALID < a

/-- No entry is `Dead` or `Suspect`. -/
def AllAlive (cs : ClusterState) : Prop :=
  ∀ st ∈ cs.nodes.values, st ≠ .dead ∧ st ≠ .suspect

theorem option_any_eq_true {α : Type} {f : α → Bool} {o : Option α} :
    o.any f = true ↔ ∃ a, o = some a ∧ f a = true := by
  cases o <;> simp

instance (cs : ClusterState) : Decidable cs.DistinctGenerations :=
  inferInstanceAs (Decidable (List.Nodup _))

instance (cs : ClusterState) : Decidable cs.ReportsArchivedLsn :=
  decidable_of_iff (cs.aliveNodes.any fun n => n.partitions.values.any fun s =>
      s.lastArchivedLogLsn.any (Lsn.INVALID < ·))
    (by simp [ReportsArchivedLsn, option_any_eq_true])

instance (cs : ClusterState) : Decidable cs.AllAlive :=
  decidable_of_iff (cs.nodes.values.all fun st => st.alive?.isSome)
    (by simp only [List.all_eq_true, AllAlive]
        exact forall₂_congr fun st _ => by cases st <;> simp [NodeState.alive?])

theorem mem_reports {cs : ClusterState} {p : PartitionId} {s : PartitionProcessorStatus} :
    s ∈ cs.reports p ↔ ∃ n ∈ cs.aliveNodes, n.partitions.get? p = some s := by
  simp [reports]

end ClusterState
end Restate
