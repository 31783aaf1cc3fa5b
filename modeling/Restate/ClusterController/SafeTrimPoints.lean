import Restate.Types.ClusterState

/-! `safe_trim_points` of `cluster_controller/service/state.rs`. The node loop fills
`partition_statuses` and `archived_lsns`; the mode then picks the `max(archived)`
or the `min(persisted)` loop over `partition_statuses`. The `suspect_or_dead_nodes`
set and the log lines only feed warnings and are left out. `current_trim_points`
is any map, given by its lookup. -/
namespace Restate.ClusterController

inductive SafeTrimPointMode
  | persistedLsn
  | archivedLsn
  deriving DecidableEq, Repr

/-- `SafeTrimPointMode::is_trimming_suspended`. -/
def SafeTrimPointMode.isTrimmingSuspended : SafeTrimPointMode → ClusterState → Bool
  | .persistedLsn, clusterState => clusterState.nodes.values.any fun
      | .suspect | .dead => true
      | .alive _ => false
  | .archivedLsn, _ => false

/-- The maps the node loop of `safe_trim_points` fills. -/
structure PartitionReports where
  partitionStatuses : BTreeMap PartitionId (BTreeMap GenerationalNodeId PartitionProcessorStatus)
  archivedLsns : BTreeMap PartitionId Lsn

/-- Inner loop body: partition `entry.1` as reported by alive node `generationalNodeId`. -/
def recordPartition (generationalNodeId : GenerationalNodeId) (acc : PartitionReports)
    (entry : PartitionId × PartitionProcessorStatus) : PartitionReports :=
  let (partitionId, partitionProcessorStatus) := entry
  let reportedArchivedLsn := partitionProcessorStatus.lastArchivedLogLsn.getD Lsn.INVALID
  { archivedLsns := acc.archivedLsns.andModifyOrInsert partitionId
      (fun stored => max stored reportedArchivedLsn) reportedArchivedLsn
    partitionStatuses := acc.partitionStatuses.modifyOrDefault partitionId .empty
      (·.insert generationalNodeId partitionProcessorStatus) }

/-- Outer loop body: one entry of `cluster_state.nodes`. -/
def recordNode (acc : PartitionReports) (entry : PlainNodeId × NodeState) : PartitionReports :=
  match entry.2 with
  | .alive node => node.partitions.entries.foldl (recordPartition node.generationalNodeId) acc
  | .dead | .suspect => acc

def collectReports (clusterState : ClusterState) : PartitionReports :=
  clusterState.nodes.entries.foldl recordNode ⟨.empty, .empty⟩

def anyPartitionsReportArchivedLsn (reports : PartitionReports) : Bool :=
  reports.archivedLsns.keys.any fun archivedPartitionId =>
    (reports.partitionStatuses.get? archivedPartitionId).any fun ps =>
      ps.entries.any fun (_, pps) => pps.lastArchivedLogLsn.any (· > Lsn.INVALID)

def safeTrimPointMode (snapshotsRepositoryConfigured : Bool) (reports : PartitionReports) :
    SafeTrimPointMode :=
  if snapshotsRepositoryConfigured || anyPartitionsReportArchivedLsn reports then .archivedLsn
  else .persistedLsn

/-- `*current_trim_points.get(&log_id).unwrap_or(&Lsn::INVALID)`. -/
def currentTrimPoint (currentTrimPoints : LogId → Option Lsn) (logId : LogId) : Lsn :=
  (currentTrimPoints logId).getD Lsn.INVALID

section Candidates
variable (processorStatus : BTreeMap GenerationalNodeId PartitionProcessorStatus)

def minAppliedLsn : Lsn :=
  ((processorStatus.values.map fun s => s.lastAppliedLogLsn.getD Lsn.INVALID).min?).getD Lsn.INVALID

def maxArchivedLsn : Lsn :=
  ((processorStatus.values.map fun s => s.lastArchivedLogLsn.getD Lsn.INVALID).max?).getD Lsn.INVALID

def minPersistedLsn : Lsn :=
  ((processorStatus.values.map fun s => s.lastPersistedLogLsn.getD Lsn.INVALID).min?).getD
    Lsn.INVALID

end Candidates

/-- Body of the `ArchivedLsn` loop over `partition_statuses`. -/
def archivedLsnStep (currentTrimPoints : LogId → Option Lsn)
    (safeTrimPoints : BTreeMap LogId (Lsn × PartitionId))
    (entry : PartitionId × BTreeMap GenerationalNodeId PartitionProcessorStatus) :
    BTreeMap LogId (Lsn × PartitionId) :=
  let (partitionId, processorStatus) := entry
  let logId := LogId.ofPartitionId partitionId
  let archivedLsn := maxArchivedLsn processorStatus
  if archivedLsn > currentTrimPoint currentTrimPoints logId then
    if archivedLsn ≤ minAppliedLsn processorStatus then
      safeTrimPoints.insert logId (archivedLsn, partitionId)
    else safeTrimPoints
  else safeTrimPoints

/-- Body of the `PersistedLsn` loop over `partition_statuses`. -/
def persistedLsnStep (currentTrimPoints : LogId → Option Lsn)
    (safeTrimPoints : BTreeMap LogId (Lsn × PartitionId))
    (entry : PartitionId × BTreeMap GenerationalNodeId PartitionProcessorStatus) :
    BTreeMap LogId (Lsn × PartitionId) :=
  let (partitionId, processorStatus) := entry
  let logId := LogId.ofPartitionId partitionId
  let minPersistedLsn := minPersistedLsn processorStatus
  if minPersistedLsn > currentTrimPoint currentTrimPoints logId then
    safeTrimPoints.insert logId (minPersistedLsn, partitionId)
  else safeTrimPoints

/-- `safe_trim_points`. -/
def safeTrimPoints (clusterState : ClusterState) (currentTrimPoints : LogId → Option Lsn)
    (snapshotsRepositoryConfigured : Bool) : BTreeMap LogId (Lsn × PartitionId) :=
  let reports := collectReports clusterState
  let mode := safeTrimPointMode snapshotsRepositoryConfigured reports
  if mode.isTrimmingSuspended clusterState then .empty
  else match mode with
    | .archivedLsn => reports.partitionStatuses.entries.foldl (archivedLsnStep currentTrimPoints) .empty
    | .persistedLsn =>
        reports.partitionStatuses.entries.foldl (persistedLsnStep currentTrimPoints) .empty

end Restate.ClusterController

namespace Restate.ClusterController

namespace PartitionReports

def statusAt (r : PartitionReports) (p : PartitionId) (g : GenerationalNodeId) :
    Option PartitionProcessorStatus :=
  (r.partitionStatuses.get? p).bind (·.get? g)

/-- `archived_lsns` and `partition_statuses` have the same keys. -/
def SameKeys (r : PartitionReports) : Prop :=
  ∀ p, (r.archivedLsns.get? p).isSome = (r.partitionStatuses.get? p).isSome

end PartitionReports

/-- What a node state reports for partition `p` under generational id `g`. -/
def nodeReport (st : NodeState) (p : PartitionId) (g : GenerationalNodeId) :
    Option PartitionProcessorStatus :=
  st.alive?.bind fun n => if g = n.generationalNodeId then n.partitions.get? p else none

theorem statusAt_recordPartition (g₀ : GenerationalNodeId) (acc : PartitionReports)
    (k : PartitionId) (v : PartitionProcessorStatus) (p : PartitionId) (g : GenerationalNodeId) :
    (recordPartition g₀ acc (k, v)).statusAt p g =
      if p = k ∧ g = g₀ then some v else acc.statusAt p g := by
  by_cases hp : p = k
  · subst hp
    cases h : acc.partitionStatuses.get? p <;> by_cases hg : g = g₀ <;>
      simp [recordPartition, PartitionReports.statusAt, BTreeMap.modifyOrDefault, h, hg]
  · simp [recordPartition, PartitionReports.statusAt, BTreeMap.modifyOrDefault, hp]

/-- The inner loop over one alive node's partitions; its keys are distinct. -/
theorem statusAt_foldl_recordPartition (g₀ : GenerationalNodeId) (p : PartitionId)
    (g : GenerationalNodeId) : ∀ (ps : List (PartitionId × PartitionProcessorStatus))
      (acc : PartitionReports), ps.Pairwise (fun a b => a.1 ≠ b.1) →
      (ps.foldl (recordPartition g₀) acc).statusAt p g =
        (if g = g₀ then ps.lookup p else none).or (acc.statusAt p g)
  | [], acc, _ => by split_ifs <;> rfl
  | (k, v) :: ps, acc, h => by
      rw [List.foldl_cons, statusAt_foldl_recordPartition g₀ p g ps _ h.of_cons,
        statusAt_recordPartition]
      by_cases hg : g = g₀
      · by_cases hp : p = k
        · subst hp
          have hnone : ps.lookup p = none :=
            BTreeMap.lookup_eq_none fun e he => List.rel_of_pairwise_cons h he
          simp [hg, hnone, BTreeMap.lookup_cons]
        · simp [hg, hp, BTreeMap.lookup_cons]
      · simp [hg]

theorem statusAt_recordNode (acc : PartitionReports) (e : PlainNodeId × NodeState)
    (p : PartitionId) (g : GenerationalNodeId) :
    (recordNode acc e).statusAt p g = (nodeReport e.2 p g).or (acc.statusAt p g) := by
  obtain ⟨_, st⟩ := e
  cases st with
  | alive n =>
      exact statusAt_foldl_recordPartition _ p g _ acc (n.partitions.sorted.imp ne_of_lt)
  | dead | suspect => rfl

theorem PartitionReports.SameKeys.recordPartition {acc : PartitionReports} (h : acc.SameKeys)
    (g : GenerationalNodeId) (e : PartitionId × PartitionProcessorStatus) :
    (recordPartition g acc e).SameKeys := fun p => by
  by_cases hp : p = e.1 <;>
    simp [ClusterController.recordPartition, BTreeMap.andModifyOrInsert,
      BTreeMap.modifyOrDefault, hp, h p]

theorem PartitionReports.SameKeys.recordNode {acc : PartitionReports} (h : acc.SameKeys)
    (e : PlainNodeId × NodeState) : (recordNode acc e).SameKeys := by
  obtain ⟨_, st⟩ := e
  cases st with
  | alive n =>
      exact List.foldlRecOn (motive := PartitionReports.SameKeys) _ _ _ h
        fun r hr e _ => hr.recordPartition _ e
  | dead | suspect => exact h

theorem archivedLsnStep_eq (currentTrimPoints : LogId → Option Lsn) :
    archivedLsnStep currentTrimPoints =
      BTreeMap.insertWhen
        (fun e => decide (currentTrimPoint currentTrimPoints (LogId.ofPartitionId e.1) <
          maxArchivedLsn e.2 ∧ maxArchivedLsn e.2 ≤ minAppliedLsn e.2))
        (fun e => LogId.ofPartitionId e.1) (fun e => (maxArchivedLsn e.2, e.1)) := by
  funext m e
  obtain ⟨p, ps⟩ := e
  by_cases h1 : currentTrimPoint currentTrimPoints (LogId.ofPartitionId p) < maxArchivedLsn ps <;>
    by_cases h2 : maxArchivedLsn ps ≤ minAppliedLsn ps <;>
    simp [archivedLsnStep, BTreeMap.insertWhen, h1, h2]

theorem persistedLsnStep_eq (currentTrimPoints : LogId → Option Lsn) :
    persistedLsnStep currentTrimPoints =
      BTreeMap.insertWhen
        (fun e => decide (currentTrimPoint currentTrimPoints (LogId.ofPartitionId e.1) <
          minPersistedLsn e.2))
        (fun e => LogId.ofPartitionId e.1) (fun e => (minPersistedLsn e.2, e.1)) := by
  funext m e
  obtain ⟨p, ps⟩ := e
  by_cases h1 : currentTrimPoint currentTrimPoints (LogId.ofPartitionId p) < minPersistedLsn ps <;>
    simp [persistedLsnStep, BTreeMap.insertWhen, h1]

end Restate.ClusterController
