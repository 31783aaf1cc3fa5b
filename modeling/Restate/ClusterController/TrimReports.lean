import Restate.ClusterController.SafeTrimPoints
import Mathlib.Order.MinMax

/-! What the node loop of `safe_trim_points` collects over a whole cluster state:
every stored status was reported by an alive node, and with distinct generational
ids every report is stored, so a partition's stored statuses are exactly its
reports. From this, the mode the code computes, and one inversion lemma for the
entries `safe_trim_points` returns. -/
namespace Restate.ClusterController

theorem min?_getD_le {l : List Lsn} {x : Lsn} (hx : x ∈ l) : l.min?.getD Lsn.INVALID ≤ x := by
  cases h : l.min? with
  | none => simp_all
  | some a => simpa using (List.le_min?_iff (fun _ _ _ => le_min_iff) h).1 le_rfl x hx

theorem max?_getD_mem {l : List Lsn} (h : Lsn.INVALID < l.max?.getD Lsn.INVALID) :
    l.max?.getD Lsn.INVALID ∈ l := by
  cases hm : l.max? with
  | none => simp [hm] at h
  | some a => exact List.max?_mem max_choice hm

theorem min?_congr {l l' : List Lsn} (h : ∀ x, x ∈ l ↔ x ∈ l') : l.min? = l'.min? :=
  Option.ext fun _ => by
    simp only [Option.mem_def, List.min?_eq_some_iff le_refl min_choice (fun _ _ _ => le_min_iff), h]

theorem max?_congr {l l' : List Lsn} (h : ∀ x, x ∈ l ↔ x ∈ l') : l.max? = l'.max? :=
  Option.ext fun _ => by
    simp only [Option.mem_def, List.max?_eq_some_iff le_refl max_choice (fun _ _ _ => max_le_iff), h]

theorem nodeReport_eq_some {st : NodeState} {p : PartitionId} {g : GenerationalNodeId}
    {s : PartitionProcessorStatus} :
    nodeReport st p g = some s ↔
      ∃ n, st = .alive n ∧ g = n.generationalNodeId ∧ n.partitions.get? p = some s := by
  cases st with
  | alive n => by_cases hg : g = n.generationalNodeId <;> simp [nodeReport, NodeState.alive?, hg]
  | dead | suspect => simp [nodeReport, NodeState.alive?]

section Collect
variable {cs : ClusterState} {p : PartitionId} {s : PartitionProcessorStatus}

theorem mem_aliveNodes {e : PlainNodeId × NodeState} (he : e ∈ cs.nodes.entries) {n : AliveNode}
    (hn : e.2 = .alive n) : n ∈ cs.aliveNodes :=
  List.mem_filterMap.mpr ⟨e, he, by simp [hn, NodeState.alive?]⟩

/-- Every stored status was reported by an alive node under the id it is stored at. -/
theorem statusAt_collectReports_sound {g : GenerationalNodeId} :
    (collectReports cs).statusAt p g = some s →
      ∃ n ∈ cs.aliveNodes, n.generationalNodeId = g ∧ n.partitions.get? p = some s :=
  List.foldlRecOn (motive := fun r : PartitionReports => r.statusAt p g = some s →
      ∃ n ∈ cs.aliveNodes, n.generationalNodeId = g ∧ n.partitions.get? p = some s)
    cs.nodes.entries recordNode _
    (fun h => by simp [PartitionReports.statusAt] at h) fun r ih e he h => by
      rw [statusAt_recordNode, Option.or_eq_some] at h
      rcases h with h | ⟨-, h⟩
      · obtain ⟨n, hn, rfl, hp⟩ := nodeReport_eq_some.mp h
        exact ⟨n, mem_aliveNodes he hn, rfl, hp⟩
      · exact ih h

/-- Nodes with another generational id leave the statuses stored under `g` alone. -/
theorem statusAt_foldl_recordNode_of_ne {g : GenerationalNodeId} :
    ∀ (L : List (PlainNodeId × NodeState)) (acc : PartitionReports),
      (∀ n ∈ L.filterMap (·.2.alive?), n.generationalNodeId ≠ g) →
      (L.foldl recordNode acc).statusAt p g = acc.statusAt p g
  | [], _, _ => rfl
  | e :: L, acc, h => by
      rw [List.foldl_cons, statusAt_foldl_recordNode_of_ne L _
          fun n hn => h n (((List.sublist_cons_self e L).filterMap _).subset hn),
        statusAt_recordNode]
      cases hr : nodeReport e.2 p g with
      | none => rfl
      | some s =>
          obtain ⟨n, hn, rfl, -⟩ := nodeReport_eq_some.mp hr
          exact absurd rfl (h n (List.mem_filterMap.mpr ⟨e, .head _, by simp [hn, NodeState.alive?]⟩))

theorem statusAt_foldl_recordNode {n : AliveNode} :
    ∀ (L : List (PlainNodeId × NodeState)) (acc : PartitionReports),
      ((L.filterMap (·.2.alive?)).map (·.generationalNodeId)).Nodup →
      n ∈ L.filterMap (·.2.alive?) → n.partitions.get? p = some s →
      (L.foldl recordNode acc).statusAt p n.generationalNodeId = some s
  | (_, .alive n') :: L, acc, hd, hn, hs => by
      simp only [List.filterMap_cons, NodeState.alive?, List.map_cons, List.nodup_cons,
        List.mem_cons] at hd hn
      rw [List.foldl_cons]
      rcases hn with rfl | hn
      · rw [statusAt_foldl_recordNode_of_ne L _ fun m hm heq =>
          hd.1 (by rw [← heq]; exact List.mem_map_of_mem _ hm),
          statusAt_recordNode]
        simp [nodeReport, NodeState.alive?, hs]
      · exact statusAt_foldl_recordNode L _ hd.2 hn hs
  | (_, .dead) :: L, acc, hd, hn, hs
  | (_, .suspect) :: L, acc, hd, hn, hs => statusAt_foldl_recordNode L acc hd hn hs

/-- With distinct generational ids, every report of an alive node is stored. -/
theorem statusAt_collectReports (hd : cs.DistinctGenerations) {n : AliveNode}
    (hn : n ∈ cs.aliveNodes) (hs : n.partitions.get? p = some s) :
    (collectReports cs).statusAt p n.generationalNodeId = some s :=
  statusAt_foldl_recordNode _ _ hd hn hs

theorem sameKeys_collectReports : (collectReports cs).SameKeys :=
  List.foldlRecOn (motive := PartitionReports.SameKeys) _ _ _ (fun _ => rfl)
    fun _ hr e _ => hr.recordNode e

theorem mem_reports_of_mem_values {m : BTreeMap GenerationalNodeId PartitionProcessorStatus}
    (hm : (collectReports cs).partitionStatuses.get? p = some m) (hs : s ∈ m.values) :
    s ∈ cs.reports p := by
  obtain ⟨g, hg⟩ := m.mem_values_iff.mp hs
  have hst : (collectReports cs).statusAt p g = some s := by
    simp [PartitionReports.statusAt, hm, hg]
  obtain ⟨n, hn, -, hp⟩ := statusAt_collectReports_sound hst
  exact ClusterState.mem_reports.mpr ⟨n, hn, hp⟩

theorem exists_mem_values_of_mem_reports (hd : cs.DistinctGenerations) (hs : s ∈ cs.reports p) :
    ∃ m, (collectReports cs).partitionStatuses.get? p = some m ∧ s ∈ m.values := by
  obtain ⟨n, hn, hp⟩ := ClusterState.mem_reports.mp hs
  have h := statusAt_collectReports hd hn hp
  simp only [PartitionReports.statusAt, Option.bind_eq_some] at h
  obtain ⟨m, hm, hg⟩ := h
  exact ⟨m, hm, m.mem_values_iff.mpr ⟨_, hg⟩⟩

/-- With distinct generational ids a partition's stored statuses are its reports. -/
theorem mem_values_iff_mem_reports (hd : cs.DistinctGenerations)
    {m : BTreeMap GenerationalNodeId PartitionProcessorStatus}
    (hm : (collectReports cs).partitionStatuses.get? p = some m) :
    s ∈ m.values ↔ s ∈ cs.reports p :=
  ⟨mem_reports_of_mem_values hm, fun hs => by
    obtain ⟨m', hm', hs'⟩ := exists_mem_values_of_mem_reports hd hs
    rw [hm, Option.some.injEq] at hm'
    exact hm' ▸ hs'⟩

end Collect

section Mode
variable {cs : ClusterState}

theorem reportsArchivedLsn_of_any
    (h : anyPartitionsReportArchivedLsn (collectReports cs) = true) : cs.ReportsArchivedLsn := by
  simp only [anyPartitionsReportArchivedLsn, List.any_eq_true, ClusterState.option_any_eq_true,
    decide_eq_true_eq] at h
  obtain ⟨p, -, m, hm, ⟨g, s⟩, hgs, a, ha, hlt⟩ := h
  obtain ⟨n, hn, hp⟩ := ClusterState.mem_reports.mp
    (mem_reports_of_mem_values hm (List.mem_map_of_mem Prod.snd hgs))
  exact ⟨n, hn, s, n.partitions.mem_values_iff.mpr ⟨p, hp⟩, a, ha, hlt⟩

theorem any_of_reportsArchivedLsn (hd : cs.DistinctGenerations) (h : cs.ReportsArchivedLsn) :
    anyPartitionsReportArchivedLsn (collectReports cs) = true := by
  obtain ⟨n, hn, s, hs, a, ha, hlt⟩ := h
  obtain ⟨p, hp⟩ := n.partitions.mem_values_iff.mp hs
  obtain ⟨m, hm, hsm⟩ :=
    exists_mem_values_of_mem_reports hd (ClusterState.mem_reports.mpr ⟨n, hn, hp⟩)
  obtain ⟨g, hg⟩ := m.mem_values_iff.mp hsm
  have hkey : p ∈ (collectReports cs).archivedLsns.keys := by
    rw [BTreeMap.mem_keys_iff, sameKeys_collectReports p, hm]; rfl
  simp only [anyPartitionsReportArchivedLsn, List.any_eq_true, ClusterState.option_any_eq_true,
    decide_eq_true_eq]
  exact ⟨p, hkey, m, hm, (g, s), m.get?_eq_some_iff.mp hg, a, ha, hlt⟩

/-- No snapshot repository and no archived LSN above `INVALID`: `PersistedLsn`. -/
theorem safeTrimPointMode_eq_persistedLsn (h : ¬ cs.ReportsArchivedLsn) :
    safeTrimPointMode false (collectReports cs) = .persistedLsn := by
  cases hany : anyPartitionsReportArchivedLsn (collectReports cs) with
  | false => simp [safeTrimPointMode, hany]
  | true => exact absurd (reportsArchivedLsn_of_any hany) h

/-- A snapshot repository or an archived LSN above `INVALID`: `ArchivedLsn`. -/
theorem safeTrimPointMode_eq_archivedLsn {flag : Bool} (hd : cs.DistinctGenerations)
    (h : flag = true ∨ cs.ReportsArchivedLsn) :
    safeTrimPointMode flag (collectReports cs) = .archivedLsn := by
  rcases h with rfl | h
  · simp [safeTrimPointMode]
  · simp [safeTrimPointMode, any_of_reportsArchivedLsn hd h]

theorem isTrimmingSuspended_persistedLsn :
    SafeTrimPointMode.persistedLsn.isTrimmingSuspended cs = false ↔ cs.AllAlive := by
  simp only [SafeTrimPointMode.isTrimmingSuspended, List.any_eq_false, ClusterState.AllAlive]
  refine forall₂_congr fun st _ => ?_
  cases st <;> simp

end Mode

section Entries
variable {currentTrimPoints : LogId → Option Lsn}
  {ps : BTreeMap PartitionId (BTreeMap GenerationalNodeId PartitionProcessorStatus)}
  {log : LogId} {lsn : Lsn} {p : PartitionId}

theorem get?_foldl_archivedLsnStep
    (h : (ps.entries.foldl (archivedLsnStep currentTrimPoints) .empty).get? log = some (lsn, p)) :
    ∃ m, ps.get? p = some m ∧ log = LogId.ofPartitionId p ∧
      currentTrimPoint currentTrimPoints log < lsn ∧ lsn = maxArchivedLsn m ∧ lsn ≤ minAppliedLsn m := by
  rw [archivedLsnStep_eq] at h
  rcases BTreeMap.get?_foldl_insertWhen_eq_some _ _ _ _ h with h | ⟨⟨p', m⟩, he, hc, rfl, hv⟩
  · simp at h
  · simp only [Prod.mk.injEq] at hv
    obtain ⟨rfl, rfl⟩ := hv
    simp only [decide_eq_true_eq] at hc
    exact ⟨m, ps.get?_eq_some_iff.mpr he, rfl, hc.1, rfl, hc.2⟩

theorem get?_foldl_persistedLsnStep
    (h : (ps.entries.foldl (persistedLsnStep currentTrimPoints) .empty).get? log = some (lsn, p)) :
    ∃ m, ps.get? p = some m ∧ log = LogId.ofPartitionId p ∧
      currentTrimPoint currentTrimPoints log < lsn ∧ lsn = minPersistedLsn m := by
  rw [persistedLsnStep_eq] at h
  rcases BTreeMap.get?_foldl_insertWhen_eq_some _ _ _ _ h with h | ⟨⟨p', m⟩, he, hc, rfl, hv⟩
  · simp at h
  · simp only [Prod.mk.injEq] at hv
    obtain ⟨rfl, rfl⟩ := hv
    simp only [decide_eq_true_eq] at hc
    exact ⟨m, ps.get?_eq_some_iff.mpr he, rfl, hc, rfl⟩

/-- Everything an entry of `safe_trim_points` can be: the candidate of its mode for
a partition that has stored statuses, above the current trim point. -/
theorem safeTrimPoints_eq_some {cs : ClusterState} {flag : Bool}
    (h : (safeTrimPoints cs currentTrimPoints flag).get? log = some (lsn, p)) :
    ∃ m, (collectReports cs).partitionStatuses.get? p = some m ∧ log = LogId.ofPartitionId p ∧
      currentTrimPoint currentTrimPoints log < lsn ∧
      ((safeTrimPointMode flag (collectReports cs) = .archivedLsn ∧
          lsn = maxArchivedLsn m ∧ lsn ≤ minAppliedLsn m) ∨
        (safeTrimPointMode flag (collectReports cs) = .persistedLsn ∧ cs.AllAlive ∧
          lsn = minPersistedLsn m)) := by
  simp only [safeTrimPoints] at h
  split_ifs at h with hs
  · simp at h
  · cases hmode : safeTrimPointMode flag (collectReports cs) with
    | archivedLsn =>
        rw [hmode] at h
        obtain ⟨m, hm, hlog, hlt, hlsn, happ⟩ := get?_foldl_archivedLsnStep h
        exact ⟨m, hm, hlog, hlt, .inl ⟨rfl, hlsn, happ⟩⟩
    | persistedLsn =>
        rw [hmode] at h hs
        obtain ⟨m, hm, hlog, hlt, hlsn⟩ := get?_foldl_persistedLsnStep h
        exact ⟨m, hm, hlog, hlt,
          .inr ⟨rfl, isTrimmingSuspended_persistedLsn.mp (Bool.not_eq_true _ ▸ hs), hlsn⟩⟩

theorem safeTrimPoints_of_persistedLsn {cs : ClusterState} {flag : Bool}
    (hmode : safeTrimPointMode flag (collectReports cs) = .persistedLsn) (hall : cs.AllAlive) :
    safeTrimPoints cs currentTrimPoints flag =
      (collectReports cs).partitionStatuses.entries.foldl (persistedLsnStep currentTrimPoints) .empty := by
  simp only [safeTrimPoints, hmode, isTrimmingSuspended_persistedLsn.mpr hall]
  rfl

theorem safeTrimPoints_of_archivedLsn {cs : ClusterState} {flag : Bool}
    (hmode : safeTrimPointMode flag (collectReports cs) = .archivedLsn) :
    safeTrimPoints cs currentTrimPoints flag =
      (collectReports cs).partitionStatuses.entries.foldl (archivedLsnStep currentTrimPoints) .empty := by
  simp only [safeTrimPoints, hmode, SafeTrimPointMode.isTrimmingSuspended]
  rfl

/-- Distinct partitions give distinct logs, so no loop iteration overwrites another. -/
theorem pairwise_logId_ne (ps : BTreeMap PartitionId (BTreeMap GenerationalNodeId PartitionProcessorStatus)) :
    ps.entries.Pairwise fun a b => LogId.ofPartitionId a.1 ≠ LogId.ofPartitionId b.1 :=
  ps.sorted.imp fun h heq => ne_of_lt h (LogId.ofPartitionId_injective heq)

end Entries

end Restate.ClusterController
