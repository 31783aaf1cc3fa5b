import Restate.ClusterController.TrimSafety
import Mathlib.Data.List.Rotate

/-! The leader's control loop in `cluster_controller/service/state.rs`: one `select!` of
`Leader::run`, and the `TrimLogs` event it returns, which `trim_logs` handles by reading the
current trim points from bifrost and trimming every log `safe_trim_points` returns. Timers,
watches and bifrost enter as what they yield when polled or called; the logs controller and the
scheduler are not modelled, and neither are the log lines. -/
namespace Restate.ClusterController

inductive LeaderEvent
  | trimLogs
  | logsUpdate
  | partitionTableUpdate
  deriving DecidableEq, Repr

/-- A `tokio::time::Interval` with missed-tick behaviour `Delay`, by its period. -/
structure Interval where
  period : Nat
  deriving DecidableEq, Repr

/-- `AdminOptions`, the two fields `create_log_trim_interval` reads. -/
structure AdminOptions where
  logTrimInterval : Option Nat
  logTrimThreshold : UInt64

def createLogTrimInterval (options : AdminOptions) : Option Interval × Lsn :=
  let logTrimInterval := options.logTrimInterval.map fun interval => Interval.mk interval
  let logTrimThreshold := Lsn.mk options.logTrimThreshold
  (logTrimInterval, logTrimThreshold)

/-- The arms of the `select!`, in the order of the source. -/
inductive Arm
  | findLogsTailTick
  | logTrimCheckTick
  | runAsyncOperations
  | logsWatcherChanged
  | partitionTableWatcherChanged
  deriving DecidableEq, Repr

def Arm.all : List Arm :=
  [.findLogsTailTick, .logTrimCheckTick, .runAsyncOperations, .logsWatcherChanged,
    .partitionTableWatcherChanged]

/-- What the future of each arm yields when it is polled; `false` or `none` while pending. The
trim tick is read only when there is an interval. -/
structure ArmFutures where
  findLogsTailTick : Bool
  logTrimCheckTick : Bool
  runAsyncOperations : Option (Except String Unit)
  logsWatcherChanged : Option (Except Unit Unit)
  partitionTableWatcherChanged : Option (Except Unit Unit)

inductive Handled
  | loop
  | returns (result : Except String LeaderEvent)

/-- An arm polled once: `none` while it is pending or when its value does not match its
pattern (the arm is then disabled), else what its handler does. Without an interval the trim
arm's `OptionFuture::from(None)` is ready at once with `None`, which `_` matches. -/
def pollArm (logTrimCheckInterval : Option Interval) (futures : ArmFutures) : Arm → Option Handled
  | .findLogsTailTick => if futures.findLogsTailTick then some .loop else none
  | .logTrimCheckTick =>
      match logTrimCheckInterval with
      | none => some (.returns (.ok .trimLogs))
      | some _ => if futures.logTrimCheckTick then some (.returns (.ok .trimLogs)) else none
  | .runAsyncOperations =>
      futures.runAsyncOperations.map fun
        | .ok () => .loop
        | .error err => .returns (.error err)
  | .logsWatcherChanged =>
      match futures.logsWatcherChanged with
      | some (.ok ()) => some (.returns (.ok .logsUpdate))
      | _ => none
  | .partitionTableWatcherChanged =>
      match futures.partitionTableWatcherChanged with
      | some (.ok ()) => some (.returns (.ok .partitionTableUpdate))
      | _ => none

/-- One poll of the `select!`: the arms in source order from a random start, the first that
completes and matches runs its handler; `none` while the `select!` waits. -/
def select (logTrimCheckInterval : Option Interval) (futures : ArmFutures) (start : Nat) :
    Option Handled :=
  (Arm.all.rotate start).findSome? (pollArm logTrimCheckInterval futures)

section TrimLogs
variable {ε : Type}

/-- The partitions of the alive nodes, in node order: `partition_ids` of `get_trim_points`. -/
def partitionIds (clusterState : ClusterState) : List PartitionId :=
  clusterState.aliveNodes.flatMap (·.partitions.keys)

def getTrimPointsStep (getTrimPoint : LogId → Except ε Lsn) (trimPoints : BTreeMap LogId Lsn)
    (partition : PartitionId) : Except ε (BTreeMap LogId Lsn) := do
  let logId := LogId.ofPartitionId partition
  let currentTrimPoint ← getTrimPoint logId
  pure (trimPoints.insert logId currentTrimPoint)

/-- `get_trim_points`: bifrost's trim point for the log of every partition an alive node
reports; the first failed lookup is the result. -/
def getTrimPoints (clusterState : ClusterState) (getTrimPoint : LogId → Except ε Lsn) :
    Except ε (BTreeMap LogId Lsn) :=
  (partitionIds clusterState).foldlM (getTrimPointsStep getTrimPoint) .empty

/-- The `for` loop of `trim_logs_inner`: the trims it issues, in order, and its result; a
failed trim ends the loop. -/
def trimAll (trim : LogId → Lsn → Except ε Unit) :
    List (LogId × (Lsn × PartitionId)) → List (LogId × Lsn) × Except ε Unit
  | [] => ([], .ok ())
  | (logId, (trimPoint, _)) :: rest =>
      match trim logId trimPoint with
      | .ok () => ((logId, trimPoint) :: (trimAll trim rest).1, (trimAll trim rest).2)
      | .error err => ([(logId, trimPoint)], .error err)

/-- `trim_logs_inner`: the trims it issues and its result. -/
def trimLogsInner (clusterState : ClusterState) (getTrimPoint : LogId → Except ε Lsn)
    (snapshotsRepositoryConfigured : Bool) (trim : LogId → Lsn → Except ε Unit) :
    List (LogId × Lsn) × Except ε Unit :=
  match getTrimPoints clusterState getTrimPoint with
  | .error err => ([], .error err)
  | .ok currentTrimPoints =>
      let newTrimPoints :=
        safeTrimPoints clusterState currentTrimPoints.get? snapshotsRepositoryConfigured
      trimAll trim newTrimPoints.entries

variable (getTrimPoint : LogId → Except ε Lsn)

/-- Every stored trim point is the one bifrost reports. -/
def Agrees (trimPoints : BTreeMap LogId Lsn) : Prop :=
  ∀ logId x, trimPoints.get? logId = some x → getTrimPoint logId = .ok x

theorem getTrimPointsStep_eq_ok {trimPoints trimPoints' : BTreeMap LogId Lsn} {p : PartitionId}
    (h : getTrimPointsStep getTrimPoint trimPoints p = .ok trimPoints') :
    ∃ x, getTrimPoint (LogId.ofPartitionId p) = .ok x ∧
      trimPoints' = trimPoints.insert (LogId.ofPartitionId p) x := by
  simp only [getTrimPointsStep, bind, Except.bind, pure, Except.pure] at h
  split at h
  · cases h
  · next x hx => exact ⟨x, hx, (Except.ok.inj h).symm⟩

theorem Agrees.insert {trimPoints : BTreeMap LogId Lsn} (h : Agrees getTrimPoint trimPoints)
    {logId : LogId} {x : Lsn} (hx : getTrimPoint logId = .ok x) :
    Agrees getTrimPoint (trimPoints.insert logId x) := fun l y hy => by
  rw [BTreeMap.get?_insert] at hy
  split at hy
  · next hl => cases hy; rw [hl]; exact hx
  · exact h l y hy

theorem foldlM_getTrimPointsStep :
    ∀ {ps : List PartitionId} {trimPoints trimPoints' : BTreeMap LogId Lsn},
      ps.foldlM (getTrimPointsStep getTrimPoint) trimPoints = .ok trimPoints' →
      Agrees getTrimPoint trimPoints →
      Agrees getTrimPoint trimPoints' ∧
        ∀ logId, ((trimPoints.get? logId).isSome ∨ ∃ p ∈ ps, logId = LogId.ofPartitionId p) →
          (trimPoints'.get? logId).isSome
  | [], _, _, h, hagree => by
      cases h
      exact ⟨hagree, fun logId h => by simpa using h⟩
  | p :: ps, trimPoints, trimPoints', h, hagree => by
      rw [List.foldlM_cons] at h
      cases hstep : getTrimPointsStep getTrimPoint trimPoints p with
      | error err => rw [hstep] at h; cases h
      | ok next =>
          rw [hstep] at h
          obtain ⟨x, hx, rfl⟩ := getTrimPointsStep_eq_ok getTrimPoint hstep
          obtain ⟨hfinal, hkeys⟩ := foldlM_getTrimPointsStep h (hagree.insert getTrimPoint hx)
          refine ⟨hfinal, fun logId hl => hkeys logId ?_⟩
          rw [BTreeMap.get?_insert]
          split
          · exact .inl rfl
          · next hlp =>
              rcases hl with hl | ⟨q, hq, rfl⟩
              · exact .inl hl
              · exact .inr ⟨q, (List.mem_cons.mp hq).resolve_left fun he => hlp (he ▸ rfl), rfl⟩

theorem get?_getTrimPoints {clusterState : ClusterState} {trimPoints : BTreeMap LogId Lsn}
    (h : getTrimPoints clusterState getTrimPoint = .ok trimPoints) {p : PartitionId}
    (hp : p ∈ partitionIds clusterState) :
    ∃ x, trimPoints.get? (LogId.ofPartitionId p) = some x ∧
      getTrimPoint (LogId.ofPartitionId p) = .ok x := by
  obtain ⟨hagree, hkeys⟩ := foldlM_getTrimPointsStep getTrimPoint h (by simp [Agrees])
  obtain ⟨x, hx⟩ := Option.isSome_iff_exists.mp (hkeys _ (.inr ⟨p, hp, rfl⟩))
  exact ⟨x, hx, hagree _ _ hx⟩

/-- The loop of `trim_logs_inner` either issues every entry, each trim succeeding, or stops at
the first failed trim: it issues the entries before it and that one, and returns its error. -/
theorem trimAll_cases (trim : LogId → Lsn → Except ε Unit) :
    ∀ es : List (LogId × (Lsn × PartitionId)),
      ((∀ e ∈ es, trim e.1 e.2.1 = .ok ()) ∧
        trimAll trim es = (es.map fun e => (e.1, e.2.1), .ok ())) ∨
      ∃ pre e post err, es = pre ++ e :: post ∧ (∀ e' ∈ pre, trim e'.1 e'.2.1 = .ok ()) ∧
        trim e.1 e.2.1 = .error err ∧
        trimAll trim es = ((pre ++ [e]).map fun e => (e.1, e.2.1), .error err)
  | [] => .inl ⟨nofun, rfl⟩
  | (log, (lsn, p)) :: es => by
      cases ht : trim log lsn with
      | error err => exact .inr ⟨[], _, es, err, rfl, nofun, ht, by simp [trimAll, ht]⟩
      | ok u =>
          rcases trimAll_cases trim es with ⟨hall, hrest⟩ | ⟨pre, e, post, err, rfl, hpre, he, hrest⟩
          · exact .inl ⟨by simpa [ht] using hall, by simp [trimAll, ht, hrest]⟩
          · exact .inr ⟨(log, (lsn, p)) :: pre, e, post, err, rfl, by simpa [ht] using hpre, he,
              by simp [trimAll, ht, hrest]⟩

theorem trimAll_sublist (trim : LogId → Lsn → Except ε Unit)
    (es : List (LogId × (Lsn × PartitionId))) :
    (trimAll trim es).1.Sublist (es.map fun e => (e.1, e.2.1)) := by
  rcases trimAll_cases trim es with ⟨-, h⟩ | ⟨pre, e, post, err, rfl, -, -, h⟩
  · rw [h]
  · rw [h]
    simp

theorem mem_trimAll (trim : LogId → Lsn → Except ε Unit) :
    ∀ {es : List (LogId × (Lsn × PartitionId))} {log : LogId} {lsn : Lsn},
      (log, lsn) ∈ (trimAll trim es).1 → ∃ p, (log, (lsn, p)) ∈ es := fun h => by
  obtain ⟨⟨l, t, p⟩, he, heq⟩ := List.mem_map.mp ((trimAll_sublist trim _).subset h)
  cases heq
  exact ⟨p, he⟩

theorem mem_trimLogsInner {clusterState : ClusterState} {flag : Bool}
    {trim : LogId → Lsn → Except ε Unit} {log : LogId} {lsn : Lsn}
    (h : (log, lsn) ∈ (trimLogsInner clusterState getTrimPoint flag trim).1) :
    ∃ trimPoints : BTreeMap LogId Lsn, ∃ p,
      (log, (lsn, p)) ∈ (safeTrimPoints clusterState trimPoints.get? flag).entries ∧
        ∃ cur, getTrimPoint log = .ok cur ∧ cur < lsn := by
  unfold trimLogsInner at h
  split at h
  · cases h
  · next trimPoints htp =>
      obtain ⟨p, hp⟩ := mem_trimAll trim h
      obtain ⟨n, hn, hpn⟩ := exists_reporter_of_mem_safeTrimPoints clusterState _ hp
      obtain ⟨-, -, rfl, hlt, -⟩ := safeTrimPoints_eq_some ((BTreeMap.get?_eq_some_iff _).mpr hp)
      obtain ⟨x, hx, hg⟩ := get?_getTrimPoints getTrimPoint htp
        (List.mem_flatMap.mpr ⟨n, hn, hpn⟩)
      exact ⟨trimPoints, p, hp, x, hg, by simpa [currentTrimPoint, hx] using hlt⟩

/-- `trim_logs` never moves a trim point backwards: every trim it issues is for the log of a
partition an alive node reports, strictly above the trim point bifrost reported for that log. -/
theorem trimLogsInner_forward (clusterState : ClusterState) (snapshotsRepositoryConfigured : Bool)
    (trim : LogId → Lsn → Except ε Unit) :
    ∀ log lsn, (log, lsn) ∈ (trimLogsInner clusterState getTrimPoint
        snapshotsRepositoryConfigured trim).1 →
      ∃ p, (∃ n ∈ clusterState.aliveNodes, p ∈ n.partitions.keys) ∧ log = LogId.ofPartitionId p ∧
        ∃ cur, getTrimPoint log = .ok cur ∧ cur < lsn := by
  intro log lsn h
  obtain ⟨trimPoints, p, hp, hforward⟩ := mem_trimLogsInner getTrimPoint h
  obtain ⟨-, -, hlog, -, -⟩ := safeTrimPoints_eq_some ((BTreeMap.get?_eq_some_iff _).mpr hp)
  exact ⟨p, exists_reporter_of_mem_safeTrimPoints clusterState _ hp, hlog, hforward⟩

/-- Bifrost of `safe_trim_points_no_snapshots`: every log untrimmed, every trim succeeding. -/
def untrimmedLog (_ : LogId) : Except String Lsn := .ok Lsn.INVALID

def trimSucceeds (_ : LogId) (_ : Lsn) : Except String Unit := .ok ()

theorem no_snapshots_trim_forward :
    (LogId.mk 2, Lsn.mk 5) ∈
        (trimLogsInner noSnapshotsClusterState untrimmedLog false trimSucceeds).1 ∧
      ∃ p, (∃ n ∈ noSnapshotsClusterState.aliveNodes, p ∈ n.partitions.keys) ∧
        LogId.mk 2 = LogId.ofPartitionId p ∧ ∃ cur, untrimmedLog ⟨2⟩ = .ok cur ∧ cur < ⟨5⟩ :=
  have h : (LogId.mk 2, Lsn.mk 5) ∈
      (trimLogsInner noSnapshotsClusterState untrimmedLog false trimSucceeds).1 := by decide
  ⟨h, trimLogsInner_forward untrimmedLog _ _ _ _ _ h⟩

theorem foldlM_getTrimPointsStep_eq_error {err : ε} :
    ∀ {ps : List PartitionId} {trimPoints : BTreeMap LogId Lsn},
      ps.foldlM (getTrimPointsStep getTrimPoint) trimPoints = .error err →
      ∃ pre p post, ps = pre ++ p :: post ∧
        (∀ q ∈ pre, (getTrimPoint (LogId.ofPartitionId q)).isOk) ∧
        getTrimPoint (LogId.ofPartitionId p) = .error err
  | [], _, h => nomatch h
  | p :: ps, trimPoints, h => by
      rw [List.foldlM_cons] at h
      cases hx : getTrimPoint (LogId.ofPartitionId p) with
      | error e =>
          simp only [getTrimPointsStep, hx, bind, Except.bind] at h
          exact ⟨[], p, ps, rfl, nofun, by cases h; exact hx⟩
      | ok x =>
          simp only [getTrimPointsStep, hx, bind, Except.bind, pure, Except.pure] at h
          obtain ⟨pre, q, post, rfl, hpre, hq⟩ := foldlM_getTrimPointsStep_eq_error h
          refine ⟨p :: pre, q, post, rfl, ?_, hq⟩
          simpa [hx, Except.isOk, Except.toBool] using hpre

theorem foldlM_getTrimPointsStep_of_isOk :
    ∀ {ps : List PartitionId}, (∀ p ∈ ps, (getTrimPoint (LogId.ofPartitionId p)).isOk) →
      ∀ trimPoints : BTreeMap LogId Lsn, ∃ trimPoints',
        ps.foldlM (getTrimPointsStep getTrimPoint) trimPoints = .ok trimPoints' := by
  intro ps h trimPoints
  cases hfold : ps.foldlM (getTrimPointsStep getTrimPoint) trimPoints with
  | ok trimPoints' => exact ⟨trimPoints', rfl⟩
  | error err =>
      obtain ⟨pre, p, post, rfl, -, hp⟩ := foldlM_getTrimPointsStep_eq_error getTrimPoint hfold
      simpa [hp, Except.isOk, Except.toBool] using h p (by simp)

theorem trimAll_of_isOk (trim : LogId → Lsn → Except ε Unit)
    {es : List (LogId × (Lsn × PartitionId))} (h : ∀ e ∈ es, (trim e.1 e.2.1).isOk) :
    trimAll trim es = (es.map fun e => (e.1, e.2.1), .ok ()) := by
  rcases trimAll_cases trim es with ⟨-, hall⟩ | ⟨pre, e, post, err, rfl, -, he, -⟩
  · exact hall
  · simpa [he, Except.isOk, Except.toBool] using h e (by simp)

/-- When bifrost answers every `get_trim_point` and every trim succeeds, `trim_logs_inner`
reads the trim point of every partition an alive node reports and trims every log
`safe_trim_points` returns, in log order, with success. -/
theorem trimLogsInner_complete (clusterState : ClusterState) (snapshotsRepositoryConfigured : Bool)
    (trim : LogId → Lsn → Except ε Unit)
    (hget : ∀ p ∈ partitionIds clusterState, (getTrimPoint (LogId.ofPartitionId p)).isOk)
    (htrim : ∀ log lsn, (trim log lsn).isOk) :
    ∃ trimPoints, getTrimPoints clusterState getTrimPoint = .ok trimPoints ∧
      (∀ p ∈ partitionIds clusterState, ∃ x, trimPoints.get? (LogId.ofPartitionId p) = some x ∧
        getTrimPoint (LogId.ofPartitionId p) = .ok x) ∧
      trimLogsInner clusterState getTrimPoint snapshotsRepositoryConfigured trim =
        ((safeTrimPoints clusterState trimPoints.get? snapshotsRepositoryConfigured).entries.map
          fun e => (e.1, e.2.1), .ok ()) := by
  obtain ⟨trimPoints, htp⟩ := foldlM_getTrimPointsStep_of_isOk getTrimPoint hget .empty
  refine ⟨trimPoints, htp, fun p hp => get?_getTrimPoints getTrimPoint htp hp, ?_⟩
  rw [trimLogsInner, getTrimPoints, htp]
  exact trimAll_of_isOk trim fun e _ => htrim _ _

theorem no_snapshots_trim_complete :
    (∀ p ∈ partitionIds noSnapshotsClusterState, (untrimmedLog (LogId.ofPartitionId p)).isOk) ∧
      (∀ log lsn, (trimSucceeds log lsn).isOk) ∧
      ∃ trimPoints, getTrimPoints noSnapshotsClusterState untrimmedLog = .ok trimPoints ∧
        (∀ p ∈ partitionIds noSnapshotsClusterState, ∃ x,
          trimPoints.get? (LogId.ofPartitionId p) = some x ∧
            untrimmedLog (LogId.ofPartitionId p) = .ok x) ∧
        trimLogsInner noSnapshotsClusterState untrimmedLog false trimSucceeds =
          ((safeTrimPoints noSnapshotsClusterState trimPoints.get? false).entries.map
            fun e => (e.1, e.2.1), .ok ()) :=
  have hget : ∀ p ∈ partitionIds noSnapshotsClusterState,
      (untrimmedLog (LogId.ofPartitionId p)).isOk := by decide
  have htrim : ∀ log lsn, (trimSucceeds log lsn).isOk := fun _ _ => rfl
  ⟨hget, htrim, trimLogsInner_complete untrimmedLog _ false _ hget htrim⟩

/-- The no-snapshots state trims log 2 to 5 and nothing else. -/
example : (trimLogsInner noSnapshotsClusterState untrimmedLog false trimSucceeds).1 =
    [(⟨2⟩, ⟨5⟩)] := by decide

/-- `trim_logs_inner` stops at its first failure. Either a read of the trim points failed: then
no trim was issued, and the error is that of the first failed read in partition order. Or every
read succeeded, and the trims went through `safe_trim_points` in log order up to the first failed
one, which is the last trim issued and whose error is returned; the trims before it stay done. -/
theorem trimLogsInner_stops_at_first_failure (clusterState : ClusterState)
    (snapshotsRepositoryConfigured : Bool) (trim : LogId → Lsn → Except ε Unit) {err : ε}
    (h : (trimLogsInner clusterState getTrimPoint snapshotsRepositoryConfigured trim).2 =
      .error err) :
    ((trimLogsInner clusterState getTrimPoint snapshotsRepositoryConfigured trim).1 = [] ∧
      ∃ pre p post, partitionIds clusterState = pre ++ p :: post ∧
        (∀ q ∈ pre, (getTrimPoint (LogId.ofPartitionId q)).isOk) ∧
        getTrimPoint (LogId.ofPartitionId p) = .error err) ∨
    ∃ trimPoints pre e post, getTrimPoints clusterState getTrimPoint = .ok trimPoints ∧
      (safeTrimPoints clusterState trimPoints.get? snapshotsRepositoryConfigured).entries =
        pre ++ e :: post ∧
      (∀ e' ∈ pre, trim e'.1 e'.2.1 = .ok ()) ∧ trim e.1 e.2.1 = .error err ∧
      (trimLogsInner clusterState getTrimPoint snapshotsRepositoryConfigured trim).1 =
        (pre ++ [e]).map fun e => (e.1, e.2.1) := by
  unfold trimLogsInner at h ⊢
  split at h
  · next e htp =>
      cases h
      exact .inl ⟨rfl, foldlM_getTrimPointsStep_eq_error getTrimPoint htp⟩
  · next trimPoints htp =>
      rcases trimAll_cases trim _ with ⟨-, hall⟩ | ⟨pre, e, post, err', hes, hpre, he, hall⟩
      · rw [hall] at h; cases h
      · rw [hall] at h ⊢
        cases h
        exact .inr ⟨trimPoints, pre, e, post, htp, hes, hpre, he, rfl⟩

def trimFails (_ : LogId) (_ : Lsn) : Except String Unit := .error "trim failed"

theorem no_snapshots_trim_fails :
    (trimLogsInner noSnapshotsClusterState untrimmedLog false trimFails).2 = .error "trim failed" ∧
      (((trimLogsInner noSnapshotsClusterState untrimmedLog false trimFails).1 = [] ∧
        ∃ pre p post, partitionIds noSnapshotsClusterState = pre ++ p :: post ∧
          (∀ q ∈ pre, (untrimmedLog (LogId.ofPartitionId q)).isOk) ∧
          untrimmedLog (LogId.ofPartitionId p) = .error "trim failed") ∨
      ∃ trimPoints pre e post, getTrimPoints noSnapshotsClusterState untrimmedLog = .ok trimPoints ∧
        (safeTrimPoints noSnapshotsClusterState trimPoints.get? false).entries = pre ++ e :: post ∧
        (∀ e' ∈ pre, trimFails e'.1 e'.2.1 = .ok ()) ∧ trimFails e.1 e.2.1 = .error "trim failed" ∧
        (trimLogsInner noSnapshotsClusterState untrimmedLog false trimFails).1 =
          (pre ++ [e]).map fun e => (e.1, e.2.1)) :=
  have h : (trimLogsInner noSnapshotsClusterState untrimmedLog false trimFails).2 =
      .error "trim failed" := rfl
  ⟨h, trimLogsInner_stops_at_first_failure untrimmedLog _ _ _ h⟩

end TrimLogs

end Restate.ClusterController
