import Restate.ClusterController.TrimReports

/-! The trim policy's guarantees, over every cluster state and every map of current
trim points: every returned trim point is a real, forward move for a partition an
alive node reports; in `PersistedLsn` mode it is persisted on every alive replica,
in `ArchivedLsn` mode a snapshot exists at it and every alive replica has applied
it; and every partition whose candidate passes is returned. `TrimCovered` states the two
modes' guarantee as one, whatever the snapshot setting. -/
namespace Restate.ClusterController

section Candidates
variable {m : BTreeMap GenerationalNodeId PartitionProcessorStatus}

theorem exists_archived_eq_maxArchivedLsn (h : Lsn.INVALID < maxArchivedLsn m) :
    ∃ s ∈ m.values, s.lastArchivedLogLsn = some (maxArchivedLsn m) := by
  obtain ⟨s, hs, heq⟩ := List.mem_map.mp (max?_getD_mem h)
  refine ⟨s, hs, ?_⟩
  cases ha : s.lastArchivedLogLsn with
  | none =>
      rw [ha, Option.getD_none] at heq
      rw [maxArchivedLsn, ← heq] at h
      exact absurd h (lt_irrefl _)
  | some a => rw [ha] at heq; exact congrArg some heq

theorem exists_applied_of_le_minAppliedLsn {lsn : Lsn} (h0 : Lsn.INVALID < lsn)
    (h : lsn ≤ minAppliedLsn m) {s : PartitionProcessorStatus} (hs : s ∈ m.values) :
    ∃ a, s.lastAppliedLogLsn = some a ∧ lsn ≤ a :=
  Lsn.exists_of_le_getD h0 (le_trans h (min?_getD_le (List.mem_map_of_mem _ hs)))

theorem exists_persisted_of_lt_minPersistedLsn (h0 : Lsn.INVALID < minPersistedLsn m)
    {s : PartitionProcessorStatus} (hs : s ∈ m.values) :
    ∃ x, s.lastPersistedLogLsn = some x ∧ minPersistedLsn m ≤ x :=
  Lsn.exists_of_le_getD h0 (min?_getD_le (List.mem_map_of_mem _ hs))

theorem exists_mem_values_of_lt_minPersistedLsn (h0 : Lsn.INVALID < minPersistedLsn m) :
    ∃ s, s ∈ m.values := by
  cases hv : m.values with
  | nil => simp [minPersistedLsn, hv] at h0
  | cons s _ => exact ⟨s, .head _⟩

end Candidates

/-- The test helper `ProcessorStatus { applied, persisted, archived }`. -/
def processorStatus (applied persisted archived : Option UInt64) : PartitionProcessorStatus :=
  ⟨applied.map Lsn.mk, persisted.map Lsn.mk, archived.map Lsn.mk⟩

/-- `alive_node(GenerationalNodeId::new(id, 0), partitions)` keyed by its plain id. -/
def aliveNode (id : Nat) (partitions : BTreeMap PartitionId PartitionProcessorStatus) :
    PlainNodeId × NodeState :=
  (⟨id⟩, .alive ⟨⟨⟨id⟩, 0⟩, partitions⟩)

/-- The state of `safe_trim_points_no_snapshots`. -/
def noSnapshotsClusterState : ClusterState :=
  ⟨⟨[aliveNode 1 ⟨[(⟨0⟩, processorStatus (some 10) none none),
        (⟨1⟩, processorStatus (some 10) (some 5) none),
        (⟨2⟩, processorStatus (some 10) (some 5) none)], by decide⟩,
      aliveNode 2 ⟨[(⟨0⟩, processorStatus (some 10) none none),
        (⟨1⟩, processorStatus (some 10) none none),
        (⟨2⟩, processorStatus (some 10) (some 5) none)], by decide⟩], by decide⟩⟩

/-- The state of `safe_trim_points_with_snapshots`. -/
def withSnapshotsClusterState : ClusterState :=
  ⟨⟨[aliveNode 1 ⟨[(⟨0⟩, processorStatus (some 10) none none),
        (⟨1⟩, processorStatus (some 18) none none),
        (⟨2⟩, processorStatus (some 30) none (some 30)),
        (⟨3⟩, processorStatus (some 40) none (some 40))], by decide⟩,
      aliveNode 2 ⟨[(⟨0⟩, processorStatus (some 10) none none),
        (⟨1⟩, processorStatus (some 20) none (some 10)),
        (⟨2⟩, processorStatus (some 10) none none),
        (⟨3⟩, processorStatus (some 35) none none)], by decide⟩], by decide⟩⟩

def withSnapshotsTrimPoints (log : LogId) : Option Lsn :=
  some (if log = ⟨3⟩ then ⟨10⟩ else Lsn.INVALID)

def noSnapshotsTrimPoints (_ : LogId) : Option Lsn := some Lsn.INVALID

section Policy
variable (cs : ClusterState) (currentTrimPoints : LogId → Option Lsn)

theorem exists_reporter_of_mem_safeTrimPoints {flag : Bool} {log : LogId} {lsn : Lsn}
    {p : PartitionId} (h : (log, (lsn, p)) ∈ (safeTrimPoints cs currentTrimPoints flag).entries) :
    ∃ n ∈ cs.aliveNodes, p ∈ n.partitions.keys := by
  obtain ⟨m, hm, -, hlt, hcand⟩ := safeTrimPoints_eq_some ((BTreeMap.get?_eq_some_iff _).mpr h)
  have h0 : Lsn.INVALID < lsn := lt_of_le_of_lt (Lsn.INVALID_le _) hlt
  have hs : ∃ s, s ∈ m.values := by
    rcases hcand with ⟨-, rfl, -⟩ | ⟨-, -, rfl⟩
    · obtain ⟨s, hs, -⟩ := exists_archived_eq_maxArchivedLsn h0; exact ⟨s, hs⟩
    · exact exists_mem_values_of_lt_minPersistedLsn h0
  obtain ⟨s, hs⟩ := hs
  obtain ⟨n, hn, hp⟩ := ClusterState.mem_reports.mp (mem_reports_of_mem_values hm hs)
  exact ⟨n, hn, n.partitions.mem_keys_iff.mpr (by simp [hp])⟩

/-- Every returned trim point names the log of a partition some alive node reports,
and lies strictly above that log's current trim point. -/
theorem safeTrimPoints_entries_valid (flag : Bool) {log : LogId} {lsn : Lsn} {p : PartitionId}
    (h : (log, (lsn, p)) ∈ (safeTrimPoints cs currentTrimPoints flag).entries) :
    (∃ n ∈ cs.aliveNodes, p ∈ n.partitions.keys) ∧ log = LogId.ofPartitionId p ∧
      currentTrimPoint currentTrimPoints log < lsn := by
  obtain ⟨-, -, hlog, hlt, -⟩ := safeTrimPoints_eq_some ((BTreeMap.get?_eq_some_iff _).mpr h)
  exact ⟨exists_reporter_of_mem_safeTrimPoints cs currentTrimPoints h, hlog, hlt⟩

theorem no_snapshots_entries_valid :
    (LogId.mk 2, (Lsn.mk 5, PartitionId.mk 2)) ∈
        (safeTrimPoints noSnapshotsClusterState noSnapshotsTrimPoints false).entries ∧
      (∃ n ∈ noSnapshotsClusterState.aliveNodes, PartitionId.mk 2 ∈ n.partitions.keys) ∧
      LogId.mk 2 = LogId.ofPartitionId ⟨2⟩ ∧ currentTrimPoint noSnapshotsTrimPoints ⟨2⟩ < ⟨5⟩ :=
  have h : (LogId.mk 2, (Lsn.mk 5, PartitionId.mk 2)) ∈
      (safeTrimPoints noSnapshotsClusterState noSnapshotsTrimPoints false).entries := by decide
  ⟨h, safeTrimPoints_entries_valid _ _ false h⟩

theorem persisted_of_mem_safeTrimPoints {flag : Bool} (hd : cs.DistinctGenerations)
    (hmode : safeTrimPointMode flag (collectReports cs) = .persistedLsn) {log : LogId} {lsn : Lsn}
    {p : PartitionId} (h : (log, (lsn, p)) ∈ (safeTrimPoints cs currentTrimPoints flag).entries) :
    cs.AllAlive ∧ ∀ n ∈ cs.aliveNodes, ∀ s, n.partitions.get? p = some s →
      ∃ x, s.lastPersistedLogLsn = some x ∧ lsn ≤ x := by
  obtain ⟨m, hm, -, hlt, hcand⟩ := safeTrimPoints_eq_some ((BTreeMap.get?_eq_some_iff _).mpr h)
  rcases hcand with ⟨harch, -⟩ | ⟨-, hall, rfl⟩
  · exact absurd (hmode.symm.trans harch) (by decide)
  · exact ⟨hall, fun n hn s hs =>
      exists_persisted_of_lt_minPersistedLsn (lt_of_le_of_lt (Lsn.INVALID_le _) hlt)
        ((mem_values_iff_mem_reports hd hm).mpr (ClusterState.mem_reports.mpr ⟨n, hn, hs⟩))⟩

theorem archived_of_mem_safeTrimPoints {flag : Bool} (hd : cs.DistinctGenerations)
    (hmode : safeTrimPointMode flag (collectReports cs) = .archivedLsn) {log : LogId} {lsn : Lsn}
    {p : PartitionId} (h : (log, (lsn, p)) ∈ (safeTrimPoints cs currentTrimPoints flag).entries) :
    (∃ n ∈ cs.aliveNodes, ∃ s, n.partitions.get? p = some s ∧ s.lastArchivedLogLsn = some lsn) ∧
      ∀ n ∈ cs.aliveNodes, ∀ s, n.partitions.get? p = some s →
        ∃ a, s.lastAppliedLogLsn = some a ∧ lsn ≤ a := by
  obtain ⟨m, hm, -, hlt, hcand⟩ := safeTrimPoints_eq_some ((BTreeMap.get?_eq_some_iff _).mpr h)
  have h0 : Lsn.INVALID < lsn := lt_of_le_of_lt (Lsn.INVALID_le _) hlt
  rcases hcand with ⟨-, rfl, happ⟩ | ⟨hpers, -⟩
  · refine ⟨?_, fun n hn s hs => exists_applied_of_le_minAppliedLsn h0 happ
      ((mem_values_iff_mem_reports hd hm).mpr (ClusterState.mem_reports.mpr ⟨n, hn, hs⟩))⟩
    obtain ⟨s, hs, ha⟩ := exists_archived_eq_maxArchivedLsn h0
    obtain ⟨n, hn, hp⟩ := ClusterState.mem_reports.mp (mem_reports_of_mem_values hm hs)
    exact ⟨n, hn, s, hp, ha⟩
  · exact absurd (hmode.symm.trans hpers) (by decide)

/-- Without snapshots, no trim point passes any alive replica's persisted LSN, and
any dead or suspect node suspends trimming. -/
theorem safeTrimPoints_persisted_safe (hd : cs.DistinctGenerations)
    (hno : ¬ cs.ReportsArchivedLsn) :
    ((safeTrimPoints cs currentTrimPoints false).entries ≠ [] → cs.AllAlive) ∧
      ∀ log lsn p, (log, (lsn, p)) ∈ (safeTrimPoints cs currentTrimPoints false).entries →
        ∀ n ∈ cs.aliveNodes, ∀ s, n.partitions.get? p = some s →
          ∃ x, s.lastPersistedLogLsn = some x ∧ lsn ≤ x := by
  have hmode := safeTrimPointMode_eq_persistedLsn hno
  refine ⟨fun hne => ?_, fun log lsn p h =>
    (persisted_of_mem_safeTrimPoints cs currentTrimPoints hd hmode h).2⟩
  obtain ⟨⟨log, lsn, p⟩, he⟩ := List.exists_mem_of_ne_nil _ hne
  exact (persisted_of_mem_safeTrimPoints cs currentTrimPoints hd hmode he).1

theorem no_snapshots_persisted_safe :
    noSnapshotsClusterState.DistinctGenerations ∧ ¬ noSnapshotsClusterState.ReportsArchivedLsn ∧
      ((safeTrimPoints noSnapshotsClusterState noSnapshotsTrimPoints false).entries ≠ [] →
          noSnapshotsClusterState.AllAlive) ∧
      ∀ log lsn p,
        (log, (lsn, p)) ∈ (safeTrimPoints noSnapshotsClusterState noSnapshotsTrimPoints false).entries →
        ∀ n ∈ noSnapshotsClusterState.aliveNodes, ∀ s, n.partitions.get? p = some s →
          ∃ x, s.lastPersistedLogLsn = some x ∧ lsn ≤ x :=
  have hd : noSnapshotsClusterState.DistinctGenerations := by decide
  have hno : ¬ noSnapshotsClusterState.ReportsArchivedLsn := by decide
  ⟨hd, hno, safeTrimPoints_persisted_safe _ _ hd hno⟩

/-- With snapshots, a trim point is an archived LSN some alive replica reports, and
every alive replica of the partition has applied it, dead or suspect nodes aside. -/
theorem safeTrimPoints_archived_safe (flag : Bool) (hd : cs.DistinctGenerations)
    (harch : flag = true ∨ cs.ReportsArchivedLsn) {log : LogId} {lsn : Lsn} {p : PartitionId}
    (h : (log, (lsn, p)) ∈ (safeTrimPoints cs currentTrimPoints flag).entries) :
    (∃ n ∈ cs.aliveNodes, ∃ s, n.partitions.get? p = some s ∧ s.lastArchivedLogLsn = some lsn) ∧
      ∀ n ∈ cs.aliveNodes, ∀ s, n.partitions.get? p = some s →
        ∃ a, s.lastAppliedLogLsn = some a ∧ lsn ≤ a :=
  archived_of_mem_safeTrimPoints cs currentTrimPoints hd (safeTrimPointMode_eq_archivedLsn hd harch) h

theorem with_snapshots_archived_safe :
    withSnapshotsClusterState.DistinctGenerations ∧ withSnapshotsClusterState.ReportsArchivedLsn ∧
      (LogId.mk 1, (Lsn.mk 10, PartitionId.mk 1)) ∈
        (safeTrimPoints withSnapshotsClusterState withSnapshotsTrimPoints false).entries ∧
      (∃ n ∈ withSnapshotsClusterState.aliveNodes, ∃ s,
          n.partitions.get? ⟨1⟩ = some s ∧ s.lastArchivedLogLsn = some ⟨10⟩) ∧
      ∀ n ∈ withSnapshotsClusterState.aliveNodes, ∀ s, n.partitions.get? ⟨1⟩ = some s →
        ∃ a, s.lastAppliedLogLsn = some a ∧ Lsn.mk 10 ≤ a :=
  have hd : withSnapshotsClusterState.DistinctGenerations := by decide
  have hr : withSnapshotsClusterState.ReportsArchivedLsn := by decide
  have h : (LogId.mk 1, (Lsn.mk 10, PartitionId.mk 1)) ∈
      (safeTrimPoints withSnapshotsClusterState withSnapshotsTrimPoints false).entries := by decide
  ⟨hd, hr, h, safeTrimPoints_archived_safe _ _ false hd (.inr hr) h⟩

/-- What a trim of the log of `p` up to `lsn` leaves the partition's replicas: a snapshot at
`lsn` that some alive replica archived, with every alive replica past `lsn`; or, without one,
every node alive and every replica's own state persisted up to `lsn`. -/
def TrimCovered (p : PartitionId) (lsn : Lsn) : Prop :=
  ((∃ n ∈ cs.aliveNodes, ∃ s, n.partitions.get? p = some s ∧ s.lastArchivedLogLsn = some lsn) ∧
      ∀ n ∈ cs.aliveNodes, ∀ s, n.partitions.get? p = some s →
        ∃ a, s.lastAppliedLogLsn = some a ∧ lsn ≤ a) ∨
    (cs.AllAlive ∧ ∀ n ∈ cs.aliveNodes, ∀ s, n.partitions.get? p = some s →
      ∃ x, s.lastPersistedLogLsn = some x ∧ lsn ≤ x)

/-- Whatever the snapshot setting, every returned trim point is covered. -/
theorem trimCovered_of_mem_safeTrimPoints {flag : Bool} (hd : cs.DistinctGenerations)
    {log : LogId} {lsn : Lsn} {p : PartitionId}
    (h : (log, (lsn, p)) ∈ (safeTrimPoints cs currentTrimPoints flag).entries) :
    TrimCovered cs p lsn := by
  cases hmode : safeTrimPointMode flag (collectReports cs) with
  | archivedLsn => exact .inl (archived_of_mem_safeTrimPoints cs currentTrimPoints hd hmode h)
  | persistedLsn => exact .inr (persisted_of_mem_safeTrimPoints cs currentTrimPoints hd hmode h)

theorem exists_stored_of_reports (hd : cs.DistinctGenerations) {p : PartitionId}
    (h : cs.reports p ≠ []) :
    ∃ m, (collectReports cs).partitionStatuses.get? p = some m ∧
      ∀ f : PartitionProcessorStatus → Lsn, ∀ x, x ∈ m.values.map f ↔ x ∈ (cs.reports p).map f := by
  obtain ⟨s, hs⟩ := List.exists_mem_of_ne_nil _ h
  obtain ⟨m, hm, -⟩ := exists_mem_values_of_mem_reports hd hs
  exact ⟨m, hm, fun f x => by simp only [List.mem_map, mem_values_iff_mem_reports hd hm]⟩

/-- Every partition whose candidate passes is returned with exactly that candidate:
`min(persisted)` without snapshots and with every node alive, `max(archived)` when
it does not pass the least applied LSN with snapshots. -/
theorem safeTrimPoints_complete (flag : Bool) (hd : cs.DistinctGenerations) (p : PartitionId) :
    (flag = false → ¬ cs.ReportsArchivedLsn → cs.AllAlive → ∀ m,
      ((cs.reports p).map fun s => s.lastPersistedLogLsn.getD Lsn.INVALID).min? = some m →
      currentTrimPoint currentTrimPoints (LogId.ofPartitionId p) < m →
      (safeTrimPoints cs currentTrimPoints flag).get? (LogId.ofPartitionId p) = some (m, p)) ∧
    ((flag = true ∨ cs.ReportsArchivedLsn) → ∀ M a,
      ((cs.reports p).map fun s => s.lastArchivedLogLsn.getD Lsn.INVALID).max? = some M →
      ((cs.reports p).map fun s => s.lastAppliedLogLsn.getD Lsn.INVALID).min? = some a →
      currentTrimPoint currentTrimPoints (LogId.ofPartitionId p) < M → M ≤ a →
      (safeTrimPoints cs currentTrimPoints flag).get? (LogId.ofPartitionId p) = some (M, p)) := by
  constructor
  · rintro rfl hno hall m hmin hlt
    obtain ⟨mp, hmp, hiff⟩ := exists_stored_of_reports cs hd (p := p) (by rintro h; simp [h] at hmin)
    have hcand : minPersistedLsn mp = m := by rw [minPersistedLsn, min?_congr (hiff _), hmin]; rfl
    rw [safeTrimPoints_of_persistedLsn (safeTrimPointMode_eq_persistedLsn hno) hall,
      persistedLsnStep_eq, ← hcand]
    exact BTreeMap.get?_foldl_insertWhen _ _ _ (e := (p, mp)) (by simp [hcand, hlt])
      _ (pairwise_logId_ne _) ((BTreeMap.get?_eq_some_iff _).mp hmp)
  · intro harch M a hmax hmin hlt hle
    obtain ⟨mp, hmp, hiff⟩ := exists_stored_of_reports cs hd (p := p) (by rintro h; simp [h] at hmax)
    have hM : maxArchivedLsn mp = M := by rw [maxArchivedLsn, max?_congr (hiff _), hmax]; rfl
    have ha : minAppliedLsn mp = a := by rw [minAppliedLsn, min?_congr (hiff _), hmin]; rfl
    rw [safeTrimPoints_of_archivedLsn (safeTrimPointMode_eq_archivedLsn hd harch),
      archivedLsnStep_eq, ← hM]
    exact BTreeMap.get?_foldl_insertWhen _ _ _ (e := (p, mp))
      (by simp [hM, ha, hlt, hle]) _ (pairwise_logId_ne _) ((BTreeMap.get?_eq_some_iff _).mp hmp)

/-- Both parts at the states of the source's tests: partition 2 without snapshots (`m = 5`),
partition 1 with archived LSNs reported (`M = 10`, `a = 18`). -/
theorem test_states_complete :
    noSnapshotsClusterState.DistinctGenerations ∧ withSnapshotsClusterState.DistinctGenerations ∧
      (safeTrimPoints noSnapshotsClusterState noSnapshotsTrimPoints false).get?
        (LogId.ofPartitionId ⟨2⟩) = some (⟨5⟩, ⟨2⟩) ∧
      (safeTrimPoints withSnapshotsClusterState withSnapshotsTrimPoints false).get?
        (LogId.ofPartitionId ⟨1⟩) = some (⟨10⟩, ⟨1⟩) :=
  have hd₁ : noSnapshotsClusterState.DistinctGenerations := by decide
  have hd₂ : withSnapshotsClusterState.DistinctGenerations := by decide
  ⟨hd₁, hd₂,
    (safeTrimPoints_complete _ _ false hd₁ ⟨2⟩).1 rfl (by decide) (by decide) _ (by decide)
      (by decide),
    (safeTrimPoints_complete _ _ false hd₂ ⟨1⟩).2 (.inr (by decide)) _ ⟨18⟩ (by decide)
      (by decide) (by decide) (by decide)⟩

end Policy

end Restate.ClusterController
