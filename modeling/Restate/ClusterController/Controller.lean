import Restate.ClusterController.Election
import Restate.ClusterController.Leader

/-! `ClusterControllerState` of `cluster_controller/service/state.rs` as a state machine over
the calls of its methods `update`, `run`, `on_leader_event`, `on_observed_cluster_state` and
`reconfigure`, made in any order. A leader keeps the fields these methods read or write. The
scheduler and the logs controller enter as the outcomes of their calls; bifrost, the cluster
state watcher and the futures of `run` as what they give at the call. The tail-finding interval
and the watches' `mark_changed` are left out: `run` takes what the futures yield. Over runs of
calls: trims come only from an elected leader and are covered, and nodes whose latest elections
saw one view have at most one leader, the least alive admin, and exactly one when every alive
admin could take office. -/
namespace Restate.ClusterController

/-- `Configuration`, through the fields a leader reads. -/
structure Configuration where
  admin : AdminOptions
  /-- `worker.snapshots.destination`. -/
  snapshotsDestination : Option String

/-- `Leader<T>`: the fields the modelled methods read or write. -/
structure Leader where
  logTrimCheckInterval : Option Interval
  logTrimThreshold : Lsn
  snapshotsRepositoryConfigured : Bool

/-- What `trim_logs` reads when it runs: the cluster state the watcher holds, and bifrost's
trim points and trims. -/
structure TrimLogsEnv (ε : Type) where
  clusterState : ClusterState
  getTrimPoint : LogId → Except ε Lsn
  trim : LogId → Lsn → Except ε Unit

section Methods
variable {ε : Type}

/-- `Leader::from_service`: `Scheduler::init` and `LogsController::new` come first, and the
first of them to fail is the result. -/
def Leader.fromService (configuration : Configuration)
    (schedulerInit logsControllerNew : Except String Unit) : Except String Leader := do
  schedulerInit
  logsControllerNew
  let (logTrimInterval, logTrimThreshold) := createLogTrimInterval configuration.admin
  pure { logTrimCheckInterval := logTrimInterval
         logTrimThreshold
         snapshotsRepositoryConfigured := configuration.snapshotsDestination.isSome }

def Leader.reconfigure (self : Leader) (configuration : Configuration) : Leader :=
  let (logTrimCheckInterval, logTrimThreshold) := createLogTrimInterval configuration.admin
  { self with logTrimCheckInterval, logTrimThreshold }

/-- `Leader::run`: the `select!` polled once per element of `polls`, until an arm returns;
`none` while it still loops. -/
def Leader.run (self : Leader) : List (ArmFutures × Nat) → Option (Except String LeaderEvent)
  | [] => none
  | (futures, start) :: polls =>
      match select self.logTrimCheckInterval futures start with
      | some (.returns result) => some result
      | _ => self.run polls

def Leader.onLogsUpdate (logsController scheduler : Except String Unit) : Except String Unit := do
  logsController
  scheduler

/-- `Leader::on_leader_event`: the trims issued and the result. `trim_logs` only logs its
error, and `on_partition_table_update` cannot fail. -/
def Leader.onLeaderEvent (self : Leader) (leaderEvent : LeaderEvent) (env : TrimLogsEnv ε)
    (onLogsUpdate : Except String Unit) : List (LogId × Lsn) × Except String Unit :=
  match leaderEvent with
  | .trimLogs =>
      ((trimLogsInner env.clusterState env.getTrimPoint self.snapshotsRepositoryConfigured
        env.trim).1, .ok ())
  | .logsUpdate => ([], onLogsUpdate)
  | .partitionTableUpdate => ([], .ok ())

namespace ClusterControllerState

def onLeaderEvent : ClusterControllerState Leader → LeaderEvent → TrimLogsEnv ε →
    Except String Unit → List (LogId × Lsn) × Except String Unit
  | .follower, _, _, _ => ([], .ok ())
  | .leader current, leaderEvent, env, onLogsUpdate =>
      current.onLeaderEvent leaderEvent env onLogsUpdate

/-- `ClusterControllerState::run`: a follower's future is `pending` and never completes. -/
def run : ClusterControllerState Leader → List (ArmFutures × Nat) →
    Option (Except String LeaderEvent)
  | .follower, _ => none
  | .leader current, polls => current.run polls

/-- `ClusterControllerState::on_observed_cluster_state`: the outcome of the logs controller's
and the scheduler's handling, for a leader. -/
def onObservedClusterState : ClusterControllerState Leader → Except String Unit →
    Except String Unit
  | .follower, _ => .ok ()
  | .leader _, outcome => outcome

def reconfigure : ClusterControllerState Leader → Configuration → ClusterControllerState Leader
  | .follower, _ => .follower
  | .leader current, configuration => .leader (current.reconfigure configuration)

end ClusterControllerState

/-- A call of a method of `ClusterControllerState`, with what the service and the rest of the
node give it. -/
inductive Call (ε : Type)
  | update (nodesConfig : NodesConfiguration) (observedClusterState : ObservedClusterState)
      (myNodeId : GenerationalNodeId) (configuration : Configuration)
      (schedulerInit logsControllerNew : Except String Unit)
  | run (polls : List (ArmFutures × Nat))
  | onLeaderEvent (leaderEvent : LeaderEvent) (env : TrimLogsEnv ε)
      (onLogsUpdate : Except String Unit)
  | onObservedClusterState (outcome : Except String Unit)
  | reconfigure (configuration : Configuration)

/-- One call: the new state and the trims it issues. -/
def step (self : ClusterControllerState Leader) : Call ε →
    ClusterControllerState Leader × List (LogId × Lsn)
  | .update nodesConfig observedClusterState myNodeId configuration schedulerInit
      logsControllerNew =>
      ((self.update nodesConfig observedClusterState myNodeId
        (Leader.fromService configuration schedulerInit logsControllerNew)).1, [])
  | .run _ => (self, [])
  | .onLeaderEvent leaderEvent env onLogsUpdate =>
      (self, (self.onLeaderEvent leaderEvent env onLogsUpdate).1)
  | .onObservedClusterState _ => (self, [])
  | .reconfigure configuration => (self.reconfigure configuration, [])

/-- A run of calls: the final state and the trims issued, in order. -/
def runCalls : ClusterControllerState Leader → List (Call ε) →
    ClusterControllerState Leader × List (LogId × Lsn)
  | self, [] => (self, [])
  | self, call :: calls =>
      let (next, trims) := step self call
      let (final, rest) := runCalls next calls
      (final, trims ++ rest)

@[simp] theorem runCalls_nil (self : ClusterControllerState Leader) :
    runCalls self ([] : List (Call ε)) = (self, []) := rfl

@[simp] theorem runCalls_cons_fst (self : ClusterControllerState Leader) (call : Call ε)
    (calls : List (Call ε)) :
    (runCalls self (call :: calls)).1 = (runCalls (step self call).1 calls).1 := rfl

@[simp] theorem runCalls_cons_snd (self : ClusterControllerState Leader) (call : Call ε)
    (calls : List (Call ε)) :
    (runCalls self (call :: calls)).2 = (step self call).2 ++ (runCalls (step self call).1 calls).2 :=
  rfl

/-- Whether an `update` call designates this node; `none` for the other calls. -/
def Call.designation : Call ε → Option Bool
  | .update nodesConfig observedClusterState myNodeId _ _ _ =>
      some (isLeader (maybeLeader nodesConfig observedClusterState) myNodeId)
  | _ => none

def lastDesignation : List (Call ε) → Option Bool
  | [] => none
  | call :: calls => (lastDesignation calls).or call.designation

end Methods

section Step
variable {ε : Type} {self : ClusterControllerState Leader} {call : Call ε}

theorem designation_of_isLeader_step (h : (step self call).1.isLeader) :
    call.designation.getD self.isLeader := by
  cases call with
  | update =>
      simp only [step, isLeader_update, Bool.and_eq_true] at h
      exact h.1
  | reconfigure =>
      cases self <;> simpa [step, Call.designation, ClusterControllerState.reconfigure] using h
  | run | onLeaderEvent | onObservedClusterState => simpa [step, Call.designation] using h

/-- A call issues trims only as a `TrimLogs` event handled by a leader, and those are the trims
of `trim_logs_inner` under the leader's trim mode. -/
theorem mem_step {log : LogId} {lsn : Lsn} (h : (log, lsn) ∈ (step self call).2) :
    ∃ leader env onLogsUpdate, self = .leader leader ∧
      call = .onLeaderEvent .trimLogs env onLogsUpdate ∧
      (log, lsn) ∈ (trimLogsInner env.clusterState env.getTrimPoint
        leader.snapshotsRepositoryConfigured env.trim).1 := by
  cases call with
  | onLeaderEvent leaderEvent env onLogsUpdate =>
      cases self with
      | follower => simp [step, ClusterControllerState.onLeaderEvent] at h
      | leader leader =>
          cases leaderEvent <;>
            simp [step, ClusterControllerState.onLeaderEvent, Leader.onLeaderEvent] at h
          exact ⟨leader, env, onLogsUpdate, rfl, rfl, h⟩
  | update | run | onObservedClusterState | reconfigure => simp [step] at h

theorem isLeader_step (h : call.designation = none) : (step self call).1.isLeader = self.isLeader := by
  cases call with
  | update => cases h
  | reconfigure => cases self <;> rfl
  | run | onLeaderEvent | onObservedClusterState => rfl

end Step

section Run
variable {ε : Type}

theorem lastDesignation_of_isLeader_runCalls :
    ∀ (self : ClusterControllerState Leader) (calls : List (Call ε)),
      (runCalls self calls).1.isLeader → (lastDesignation calls).getD self.isLeader
  | self, [], h => h
  | self, call :: calls, h => by
      have ih := lastDesignation_of_isLeader_runCalls (step self call).1 calls h
      cases hlast : lastDesignation calls with
      | some b => simpa [lastDesignation, hlast] using ih
      | none =>
          rw [hlast, Option.getD_none] at ih
          simpa [lastDesignation, hlast] using designation_of_isLeader_step ih

theorem mem_runCalls {log : LogId} {lsn : Lsn} :
    ∀ {self : ClusterControllerState Leader} {calls : List (Call ε)},
      (log, lsn) ∈ (runCalls self calls).2 →
        ∃ pre call post, calls = pre ++ call :: post ∧
          (log, lsn) ∈ (step (runCalls self pre).1 call).2
  | _, [], h => by simp at h
  | self, call :: calls, h => by
      rcases List.mem_append.mp (runCalls_cons_snd self call calls ▸ h) with h | h
      · exact ⟨[], call, calls, rfl, h⟩
      · obtain ⟨pre, call', post, rfl, hmem⟩ := mem_runCalls h
        exact ⟨call :: pre, call', post, rfl, hmem⟩

/-- Over any sequence of calls, every trim is issued while handling a `TrimLogs` event as
leader, designated by the latest election (or leading from the start); it is for the log of a
partition an alive node reports, above bifrost's trim point for that log, and covered in the
cluster state of that call. -/
theorem runCalls_trims_safe (self : ClusterControllerState Leader) (calls : List (Call ε))
    {log : LogId} {lsn : Lsn} (h : (log, lsn) ∈ (runCalls self calls).2) :
    ∃ pre env onLogsUpdate post, calls = pre ++ .onLeaderEvent .trimLogs env onLogsUpdate :: post ∧
      (runCalls self pre).1.isLeader ∧ (lastDesignation pre).getD self.isLeader ∧
      ∃ p, (∃ n ∈ env.clusterState.aliveNodes, p ∈ n.partitions.keys) ∧
        log = LogId.ofPartitionId p ∧ (∃ cur, env.getTrimPoint log = .ok cur ∧ cur < lsn) ∧
        (env.clusterState.DistinctGenerations → TrimCovered env.clusterState p lsn) := by
  obtain ⟨pre, call, post, rfl, hstep⟩ := mem_runCalls h
  obtain ⟨leader, env, onLogsUpdate, hself, rfl, htrim⟩ := mem_step hstep
  have hleader : (runCalls self pre).1.isLeader := by rw [hself]; rfl
  obtain ⟨trimPoints, p, hp, hforward⟩ := mem_trimLogsInner env.getTrimPoint htrim
  obtain ⟨-, -, hlog, -, -⟩ := safeTrimPoints_eq_some ((BTreeMap.get?_eq_some_iff _).mpr hp)
  exact ⟨pre, env, onLogsUpdate, post, rfl, hleader,
    lastDesignation_of_isLeader_runCalls self pre hleader, p,
    exists_reporter_of_mem_safeTrimPoints _ _ hp, hlog, hforward,
    fun hd => trimCovered_of_mem_safeTrimPoints _ _ hd hp⟩

/-- Node 2 of `fourNodesConfig`, with node 1 down, is elected and then handles a `TrimLogs`
event over the state of `safe_trim_points_no_snapshots`. -/
def electedThenTrims : List (Call String) :=
  [.update fourNodesConfig nodeOneDown ⟨⟨2⟩, 3⟩ ⟨⟨some 3600, 0⟩, none⟩ (.ok ()) (.ok ()),
    .onLeaderEvent .trimLogs ⟨noSnapshotsClusterState, untrimmedLog, trimSucceeds⟩ (.ok ())]

theorem elected_node_trims_safely :
    (LogId.mk 2, Lsn.mk 5) ∈ (runCalls .follower electedThenTrims).2 ∧
      noSnapshotsClusterState.DistinctGenerations ∧ TrimCovered noSnapshotsClusterState ⟨2⟩ ⟨5⟩ :=
  have h : (LogId.mk 2, Lsn.mk 5) ∈ (runCalls .follower electedThenTrims).2 := by decide
  have hd : noSnapshotsClusterState.DistinctGenerations := by decide
  ⟨h, hd, by
    obtain ⟨pre, env, onLogsUpdate, post, hcalls, -, -, p, -, hlog, -, hcov⟩ :=
      runCalls_trims_safe _ _ h
    obtain rfl : (⟨2⟩ : PartitionId) = p := LogId.ofPartitionId_injective hlog
    rcases pre with _ | ⟨c, _ | ⟨c', pre⟩⟩ <;> simp [electedThenTrims] at hcalls
    obtain ⟨-, ⟨rfl, -⟩, -⟩ := hcalls
    exact hcov hd⟩

theorem runCalls_append_fst (self : ClusterControllerState Leader) (pre post : List (Call ε)) :
    (runCalls self (pre ++ post)).1 = (runCalls (runCalls self pre).1 post).1 := by
  induction pre generalizing self with
  | nil => rfl
  | cons call pre ih => exact ih (step self call).1

theorem isLeader_runCalls_of_no_update :
    ∀ (self : ClusterControllerState Leader) {calls : List (Call ε)},
      (∀ call ∈ calls, call.designation = none) → (runCalls self calls).1.isLeader = self.isLeader
  | _, [], _ => rfl
  | self, call :: calls, h => by
      rw [runCalls_cons_fst, isLeader_runCalls_of_no_update _ fun c hc => h c (.tail _ hc)]
      exact isLeader_step (h call (.head _))

theorem isLeader_runCalls_of_latest_update {self : ClusterControllerState Leader}
    {pre post : List (Call ε)} {nodesConfig : NodesConfiguration}
    {observedClusterState : ObservedClusterState} {myNodeId : GenerationalNodeId}
    {configuration : Configuration} {schedulerInit logsControllerNew : Except String Unit}
    (hpost : ∀ call ∈ post, call.designation = none) :
    (runCalls self (pre ++ .update nodesConfig observedClusterState myNodeId configuration
        schedulerInit logsControllerNew :: post)).1.isLeader =
      (isLeader (maybeLeader nodesConfig observedClusterState) myNodeId &&
        ((runCalls self pre).1.isLeader ||
          (Leader.fromService configuration schedulerInit logsControllerNew).isOk)) := by
  rw [List.append_cons, runCalls_append_fst, isLeader_runCalls_of_no_update _ hpost,
    runCalls_append_fst]
  exact isLeader_update _ _ _ _ _

/-- Leadership is unique across nodes whatever else each one was called with: when every node
started as follower and the latest `update` of each was on one view, with an alive admin node
and distinct admin generations, at most one node leads, and it is an alive admin of least
generation. -/
theorem runCalls_leader_unique (nodesConfig : NodesConfiguration)
    (observedClusterState : ObservedClusterState)
    (hd : (nodesConfig.getAdminNodes.map (·.currentGeneration)).Nodup)
    (halive : ∃ node ∈ nodesConfig.getAdminNodes,
      observedClusterState.isNodeAlive node.currentGeneration)
    (nodes : List (NodeConfig × List (Call ε)))
    (hnodes : (nodes.map (·.1)).Subperm nodesConfig.getAdminNodes)
    (hlatest : ∀ r ∈ nodes, ∃ pre configuration schedulerInit logsControllerNew post,
      r.2 = pre ++ .update nodesConfig observedClusterState r.1.currentGeneration configuration
        schedulerInit logsControllerNew :: post ∧ ∀ call ∈ post, call.designation = none) :
    nodes.countP (fun r => (runCalls .follower r.2).1.isLeader) ≤ 1 ∧
      ∀ r ∈ nodes, (runCalls .follower r.2).1.isLeader →
        r.1 ∈ nodesConfig.getAdminNodes ∧ observedClusterState.isNodeAlive r.1.currentGeneration ∧
        ∀ node ∈ nodesConfig.getAdminNodes,
          observedClusterState.isNodeAlive node.currentGeneration →
            r.1.currentGeneration ≤ node.currentGeneration := by
  have hdesignated : ∀ r ∈ nodes, (runCalls .follower r.2).1.isLeader →
      isLeader (maybeLeader nodesConfig observedClusterState) r.1.currentGeneration := by
    intro r hr h
    obtain ⟨pre, configuration, schedulerInit, logsControllerNew, post, hcalls, hpost⟩ :=
      hlatest r hr
    rw [hcalls, isLeader_runCalls_of_latest_update hpost, Bool.and_eq_true] at h
    exact h.1
  obtain ⟨g, hg⟩ := exists_maybeLeader_eq_some nodesConfig observedClusterState halive
  refine ⟨countP_le_one_of_generation_eq nodesConfig (·.1) _ g hd hnodes fun r hr h => ?_,
    fun r hr h => ?_⟩
  · have h := hdesignated r hr h
    simp only [hg, isLeader, beq_iff_eq] at h
    exact h.symm
  · have hmem := hnodes.subset (List.mem_map_of_mem _ hr)
    exact ⟨hmem, (isLeader_maybeLeader_iff_of_mem _ _ hmem halive).mp (hdesignated r hr h)⟩

/-- Node 4 first sees no admin alive and leads, then its latest `update` sees node 1 down;
node 2 is elected on that view and then reconfigured. -/
def twoAdminsHistories : List (NodeConfig × List (Call String)) :=
  [(⟨⟨⟨4⟩, 0⟩, true⟩,
      [.update fourNodesConfig allNodesDown ⟨⟨4⟩, 0⟩ ⟨⟨some 3600, 0⟩, none⟩ (.ok ()) (.ok ()),
        .onLeaderEvent .trimLogs ⟨noSnapshotsClusterState, untrimmedLog, trimSucceeds⟩ (.ok ()),
        .update fourNodesConfig nodeOneDown ⟨⟨4⟩, 0⟩ ⟨⟨some 3600, 0⟩, none⟩ (.ok ()) (.ok ())]),
    (⟨⟨⟨2⟩, 3⟩, true⟩,
      [.update fourNodesConfig nodeOneDown ⟨⟨2⟩, 3⟩ ⟨⟨some 3600, 0⟩, none⟩ (.ok ()) (.ok ()),
        .reconfigure ⟨⟨none, 0⟩, none⟩])]

theorem two_admins_one_leader :
    (fourNodesConfig.getAdminNodes.map (·.currentGeneration)).Nodup ∧
      (∃ node ∈ fourNodesConfig.getAdminNodes, nodeOneDown.isNodeAlive node.currentGeneration) ∧
      (twoAdminsHistories.map (·.1)).Subperm fourNodesConfig.getAdminNodes ∧
      (∀ r ∈ twoAdminsHistories, ∃ pre configuration schedulerInit logsControllerNew post,
        r.2 = pre ++ .update fourNodesConfig nodeOneDown r.1.currentGeneration configuration
          schedulerInit logsControllerNew :: post ∧ ∀ call ∈ post, call.designation = none) ∧
      twoAdminsHistories.countP (fun r => (runCalls .follower r.2).1.isLeader) ≤ 1 ∧
      ∀ r ∈ twoAdminsHistories, (runCalls .follower r.2).1.isLeader →
        r.1 ∈ fourNodesConfig.getAdminNodes ∧ nodeOneDown.isNodeAlive r.1.currentGeneration ∧
        ∀ node ∈ fourNodesConfig.getAdminNodes,
          nodeOneDown.isNodeAlive node.currentGeneration →
            r.1.currentGeneration ≤ node.currentGeneration :=
  have hd : (fourNodesConfig.getAdminNodes.map (·.currentGeneration)).Nodup := by decide
  have halive : ∃ node ∈ fourNodesConfig.getAdminNodes,
      nodeOneDown.isNodeAlive node.currentGeneration := by decide
  have hnodes : (twoAdminsHistories.map (·.1)).Subperm fourNodesConfig.getAdminNodes := by decide
  have hlatest : ∀ r ∈ twoAdminsHistories, ∃ pre configuration schedulerInit logsControllerNew
      post, r.2 = pre ++ .update fourNodesConfig nodeOneDown r.1.currentGeneration configuration
        schedulerInit logsControllerNew :: post ∧ ∀ call ∈ post, call.designation = none := by
    intro r hr
    rcases List.mem_cons.mp hr with rfl | hr
    · exact ⟨[_, _], _, _, _, [], rfl, by simp⟩
    · obtain rfl := List.mem_singleton.mp hr
      exact ⟨[], _, _, _, [_], rfl, by decide⟩
  ⟨hd, halive, hnodes, hlatest,
    runCalls_leader_unique _ _ hd halive twoAdminsHistories hnodes hlatest⟩

/-- The liveness half of the election: when moreover every alive admin node is one of the
nodes, and at its latest `update` each node led already or its `from_service` succeeded,
exactly one node leads, and a node leads iff it is the alive admin of least generation. -/
theorem runCalls_exactly_one_leader (nodesConfig : NodesConfiguration)
    (observedClusterState : ObservedClusterState)
    (hd : (nodesConfig.getAdminNodes.map (·.currentGeneration)).Nodup)
    (halive : ∃ node ∈ nodesConfig.getAdminNodes,
      observedClusterState.isNodeAlive node.currentGeneration)
    (nodes : List (NodeConfig × List (Call ε)))
    (hnodes : (nodes.map (·.1)).Subperm nodesConfig.getAdminNodes)
    (hcover : ∀ node ∈ nodesConfig.getAdminNodes,
      observedClusterState.isNodeAlive node.currentGeneration → node ∈ nodes.map (·.1))
    (hlatest : ∀ r ∈ nodes, ∃ pre configuration schedulerInit logsControllerNew post,
      r.2 = pre ++ .update nodesConfig observedClusterState r.1.currentGeneration configuration
        schedulerInit logsControllerNew :: post ∧ (∀ call ∈ post, call.designation = none) ∧
      ((runCalls .follower pre).1.isLeader ||
        (Leader.fromService configuration schedulerInit logsControllerNew).isOk)) :
    nodes.countP (fun r => (runCalls .follower r.2).1.isLeader) = 1 ∧
      ∀ r ∈ nodes, (runCalls .follower r.2).1.isLeader ↔
        r.1 ∈ nodesConfig.getAdminNodes ∧ observedClusterState.isNodeAlive r.1.currentGeneration ∧
        ∀ node ∈ nodesConfig.getAdminNodes,
          observedClusterState.isNodeAlive node.currentGeneration →
            r.1.currentGeneration ≤ node.currentGeneration := by
  have hleads : ∀ r ∈ nodes, (runCalls .follower r.2).1.isLeader =
      isLeader (maybeLeader nodesConfig observedClusterState) r.1.currentGeneration := by
    intro r hr
    obtain ⟨pre, configuration, schedulerInit, logsControllerNew, post, hcalls, hpost, hready⟩ :=
      hlatest r hr
    rw [hcalls, isLeader_runCalls_of_latest_update hpost, hready, Bool.and_true]
  obtain ⟨g, hg⟩ := exists_maybeLeader_eq_some nodesConfig observedClusterState halive
  obtain ⟨node, hnode, hlive, hgen⟩ := (mem_aliveAdminGenerations _ _).mp
    (maybeLeader_eq_some nodesConfig observedClusterState hg).1
  obtain ⟨r, hr, rfl⟩ := List.mem_map.mp (hcover node hnode hlive)
  refine ⟨le_antisymm (countP_le_one_of_generation_eq nodesConfig (·.1) _ g hd hnodes
    fun r hr h => ?_) (List.countP_pos_iff.mpr ⟨r, hr, ?_⟩), fun r hr => ?_⟩
  · rw [hleads r hr, hg, isLeader, beq_iff_eq] at h
    exact h.symm
  · rw [hleads r hr, hg, isLeader, beq_iff_eq, hgen]
  · have hmem := hnodes.subset (List.mem_map_of_mem _ hr)
    rw [hleads r hr, isLeader_maybeLeader_iff_of_mem _ _ hmem halive]
    exact ⟨fun h => ⟨hmem, h⟩, fun h => h.2⟩

theorem two_admins_exactly_one_leader :
    (fourNodesConfig.getAdminNodes.map (·.currentGeneration)).Nodup ∧
      (∃ node ∈ fourNodesConfig.getAdminNodes, nodeOneDown.isNodeAlive node.currentGeneration) ∧
      (twoAdminsHistories.map (·.1)).Subperm fourNodesConfig.getAdminNodes ∧
      (∀ node ∈ fourNodesConfig.getAdminNodes,
        nodeOneDown.isNodeAlive node.currentGeneration → node ∈ twoAdminsHistories.map (·.1)) ∧
      (∀ r ∈ twoAdminsHistories, ∃ pre configuration schedulerInit logsControllerNew post,
        r.2 = pre ++ .update fourNodesConfig nodeOneDown r.1.currentGeneration configuration
          schedulerInit logsControllerNew :: post ∧ (∀ call ∈ post, call.designation = none) ∧
        ((runCalls .follower pre).1.isLeader ||
          (Leader.fromService configuration schedulerInit logsControllerNew).isOk)) ∧
      twoAdminsHistories.countP (fun r => (runCalls .follower r.2).1.isLeader) = 1 ∧
      ∀ r ∈ twoAdminsHistories, (runCalls .follower r.2).1.isLeader ↔
        r.1 ∈ fourNodesConfig.getAdminNodes ∧ nodeOneDown.isNodeAlive r.1.currentGeneration ∧
        ∀ node ∈ fourNodesConfig.getAdminNodes,
          nodeOneDown.isNodeAlive node.currentGeneration →
            r.1.currentGeneration ≤ node.currentGeneration :=
  have hd : (fourNodesConfig.getAdminNodes.map (·.currentGeneration)).Nodup := by decide
  have halive : ∃ node ∈ fourNodesConfig.getAdminNodes,
      nodeOneDown.isNodeAlive node.currentGeneration := by decide
  have hnodes : (twoAdminsHistories.map (·.1)).Subperm fourNodesConfig.getAdminNodes := by decide
  have hcover : ∀ node ∈ fourNodesConfig.getAdminNodes,
      nodeOneDown.isNodeAlive node.currentGeneration → node ∈ twoAdminsHistories.map (·.1) := by
    decide
  have hlatest : ∀ r ∈ twoAdminsHistories, ∃ pre configuration schedulerInit logsControllerNew
      post, r.2 = pre ++ .update fourNodesConfig nodeOneDown r.1.currentGeneration configuration
        schedulerInit logsControllerNew :: post ∧ (∀ call ∈ post, call.designation = none) ∧
      ((runCalls .follower pre).1.isLeader ||
        (Leader.fromService configuration schedulerInit logsControllerNew).isOk) := by
    intro r hr
    rcases List.mem_cons.mp hr with rfl | hr
    · exact ⟨[_, _], _, _, _, [], rfl, by simp, by decide⟩
    · obtain rfl := List.mem_singleton.mp hr
      exact ⟨[], _, _, _, [_], rfl, by decide, by decide⟩
  ⟨hd, halive, hnodes, hcover, hlatest,
    runCalls_exactly_one_leader _ _ hd halive twoAdminsHistories hnodes hcover hlatest⟩

example : twoAdminsHistories.map (fun r => (runCalls .follower r.2).1.isLeader) = [false, true] := by
  decide

end Run

end Restate.ClusterController
