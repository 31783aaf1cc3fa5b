import Restate.Collections.BTreeMap
import Restate.Types.Ids
import Mathlib.Data.List.Perm.Subperm
import Mathlib.Data.List.Sort

/-! Leader election: `ClusterControllerState::update` of `cluster_controller/service/state.rs`.
A node designates the first of the sorted current generations of the alive admin nodes, or
assumes leadership when there is none, and switches state to match. The leader is any type
here, and `Leader::from_service` enters as its outcome; `Controller` instantiates both. The log
lines are left out. -/
namespace Restate.ClusterController

/-- `NodeConfig`, reduced to what `update` reads: its `current_generation` and whether its
`roles` contain `Role::Admin`. -/
structure NodeConfig where
  currentGeneration : GenerationalNodeId
  hasAdminRole : Bool
  deriving DecidableEq, Repr

/-- `NodesConfiguration`: the configured nodes by plain id; tombstones are left out. -/
structure NodesConfiguration where
  nodes : BTreeMap PlainNodeId NodeConfig

/-- Modelled from the spec: `get_admin_nodes` yields the configured nodes that have the
admin role. -/
def NodesConfiguration.getAdminNodes (nodesConfig : NodesConfiguration) : List NodeConfig :=
  nodesConfig.nodes.values.filter (·.hasAdminRole)

/-- `ObservedClusterState`, read only through `is_node_alive`, whose body is not under src/:
any liveness test on generational ids. -/
structure ObservedClusterState where
  isNodeAlive : GenerationalNodeId → Bool

inductive ClusterControllerState (L : Type)
  | follower
  | leader (leader : L)

def ClusterControllerState.isLeader {L : Type} : ClusterControllerState L → Bool
  | .follower => false
  | .leader _ => true

def aliveAdminGenerations (nodesConfig : NodesConfiguration)
    (observedClusterState : ObservedClusterState) : List GenerationalNodeId :=
  (nodesConfig.getAdminNodes.filter fun node =>
    observedClusterState.isNodeAlive node.currentGeneration).map (·.currentGeneration)

/-- `maybe_leader`: `.sorted().next()` of the alive admin generations. `sorted` is a stable
sort; on a total order every stable sort gives this insertion sort's list. -/
def maybeLeader (nodesConfig : NodesConfiguration) (observedClusterState : ObservedClusterState) :
    Option GenerationalNodeId :=
  ((aliveAdminGenerations nodesConfig observedClusterState).insertionSort (· ≤ ·)).head?

/-- `is_leader`: with no alive admin node, a node assumes leadership. -/
def isLeader (maybeLeader : Option GenerationalNodeId) (myNodeId : GenerationalNodeId) : Bool :=
  match maybeLeader with
  | none => true
  | some leader => leader == myNodeId

/-- `ClusterControllerState::update`: the new state and the result. `fromService` is what
`Leader::from_service` returns; it is awaited only on the switch to leader, and its error
leaves the state as it was. -/
def ClusterControllerState.update {L ε : Type} (self : ClusterControllerState L)
    (nodesConfig : NodesConfiguration) (observedClusterState : ObservedClusterState)
    (myNodeId : GenerationalNodeId) (fromService : Except ε L) :
    ClusterControllerState L × Except ε Unit :=
  match ClusterController.isLeader (maybeLeader nodesConfig observedClusterState) myNodeId, self with
  | true, .leader current => (.leader current, .ok ())
  | false, .follower => (.follower, .ok ())
  | true, .follower =>
      match fromService with
      | .ok new => (.leader new, .ok ())
      | .error err => (.follower, .error err)
  | false, .leader _ => (.follower, .ok ())

section Step
variable {L ε : Type} (self : ClusterControllerState L) (nodesConfig : NodesConfiguration)
  (observedClusterState : ObservedClusterState) (myNodeId : GenerationalNodeId)
  (fromService : Except ε L)

/-- A node leads after `update` iff it is designated and it either led already or its
`from_service` succeeded. -/
theorem isLeader_update :
    (self.update nodesConfig observedClusterState myNodeId fromService).1.isLeader =
      (isLeader (maybeLeader nodesConfig observedClusterState) myNodeId &&
        (self.isLeader || fromService.isOk)) := by
  unfold ClusterControllerState.update
  cases isLeader (maybeLeader nodesConfig observedClusterState) myNodeId <;> cases self <;>
    cases fromService <;> rfl

theorem update_eq_self_of_error {err : ε}
    (h : (self.update nodesConfig observedClusterState myNodeId fromService).2 = .error err) :
    (self.update nodesConfig observedClusterState myNodeId fromService).1 = self := by
  unfold ClusterControllerState.update at h ⊢
  generalize isLeader (maybeLeader nodesConfig observedClusterState) myNodeId = b at h ⊢
  cases b <;> cases self <;> cases fromService <;> first | rfl | cases h

end Step

section Designation
variable (nodesConfig : NodesConfiguration) (observedClusterState : ObservedClusterState)

theorem mem_aliveAdminGenerations {g : GenerationalNodeId} :
    g ∈ aliveAdminGenerations nodesConfig observedClusterState ↔
      ∃ node ∈ nodesConfig.getAdminNodes,
        observedClusterState.isNodeAlive node.currentGeneration ∧ node.currentGeneration = g := by
  simp [aliveAdminGenerations, and_assoc]

theorem maybeLeader_eq_none_iff :
    maybeLeader nodesConfig observedClusterState = none ↔
      aliveAdminGenerations nodesConfig observedClusterState = [] := by
  rw [maybeLeader, List.head?_eq_none_iff, ← List.length_eq_zero, List.length_insertionSort,
    List.length_eq_zero]

theorem maybeLeader_eq_some {g : GenerationalNodeId}
    (h : maybeLeader nodesConfig observedClusterState = some g) :
    g ∈ aliveAdminGenerations nodesConfig observedClusterState ∧
      ∀ g' ∈ aliveAdminGenerations nodesConfig observedClusterState, g ≤ g' := by
  obtain ⟨ys, hys⟩ := List.head?_eq_some_iff.mp h
  have hsorted := List.sorted_insertionSort (· ≤ ·)
    (aliveAdminGenerations nodesConfig observedClusterState)
  rw [hys] at hsorted
  refine ⟨List.mem_insertionSort _ |>.mp (hys ▸ List.mem_cons_self g ys), fun g' hg' => ?_⟩
  rcases List.mem_cons.mp (hys ▸ (List.mem_insertionSort _).mpr hg') with rfl | hg'
  · exact le_rfl
  · exact List.rel_of_pairwise_cons hsorted hg'

theorem exists_maybeLeader_eq_some
    (halive : ∃ node ∈ nodesConfig.getAdminNodes,
      observedClusterState.isNodeAlive node.currentGeneration) :
    ∃ g, maybeLeader nodesConfig observedClusterState = some g := by
  obtain ⟨node, hnode, hlive⟩ := halive
  refine Option.ne_none_iff_exists'.mp fun hnone => ?_
  have h := (mem_aliveAdminGenerations nodesConfig observedClusterState).mpr
    ⟨node, hnode, hlive, rfl⟩
  rw [(maybeLeader_eq_none_iff nodesConfig observedClusterState).mp hnone] at h
  cases h

theorem isLeader_maybeLeader_iff (myNodeId : GenerationalNodeId)
    (halive : ∃ node ∈ nodesConfig.getAdminNodes,
      observedClusterState.isNodeAlive node.currentGeneration) :
    isLeader (maybeLeader nodesConfig observedClusterState) myNodeId = true ↔
      myNodeId ∈ aliveAdminGenerations nodesConfig observedClusterState ∧
        ∀ g ∈ aliveAdminGenerations nodesConfig observedClusterState, myNodeId ≤ g := by
  obtain ⟨g, hm⟩ := exists_maybeLeader_eq_some nodesConfig observedClusterState halive
  obtain ⟨hg, hleast⟩ := maybeLeader_eq_some nodesConfig observedClusterState hm
  simp only [hm, isLeader, beq_iff_eq]
  exact ⟨fun h => h ▸ ⟨hg, hleast⟩, fun ⟨hm, hle⟩ => le_antisymm (hleast _ hm) (hle _ hg)⟩

/-- An admin node is designated exactly when it is alive with the least alive admin
generation. -/
theorem isLeader_maybeLeader_iff_of_mem {myNode : NodeConfig}
    (hmem : myNode ∈ nodesConfig.getAdminNodes)
    (halive : ∃ node ∈ nodesConfig.getAdminNodes,
      observedClusterState.isNodeAlive node.currentGeneration) :
    isLeader (maybeLeader nodesConfig observedClusterState) myNode.currentGeneration = true ↔
      observedClusterState.isNodeAlive myNode.currentGeneration ∧
        ∀ node ∈ nodesConfig.getAdminNodes, observedClusterState.isNodeAlive node.currentGeneration →
          myNode.currentGeneration ≤ node.currentGeneration := by
  rw [isLeader_maybeLeader_iff _ _ _ halive]
  constructor
  · rintro ⟨hm, hle⟩
    obtain ⟨node, -, hlive, heq⟩ := (mem_aliveAdminGenerations _ _).mp hm
    exact ⟨heq ▸ hlive, fun n hn hl => hle _ ((mem_aliveAdminGenerations _ _).mpr ⟨n, hn, hl, rfl⟩)⟩
  · rintro ⟨hlive, hle⟩
    refine ⟨(mem_aliveAdminGenerations _ _).mpr ⟨myNode, hmem, hlive, rfl⟩, fun g hg => ?_⟩
    obtain ⟨n, hn, hl, rfl⟩ := (mem_aliveAdminGenerations _ _).mp hg
    exact hle n hn hl

end Designation

/-- Four configured nodes, three of them admins, with distinct generations. -/
def fourNodesConfig : NodesConfiguration :=
  ⟨⟨[(⟨1⟩, ⟨⟨⟨1⟩, 0⟩, true⟩), (⟨2⟩, ⟨⟨⟨2⟩, 3⟩, true⟩), (⟨3⟩, ⟨⟨⟨3⟩, 1⟩, false⟩),
    (⟨4⟩, ⟨⟨⟨4⟩, 0⟩, true⟩)], by decide⟩⟩

def nodeOneDown : ObservedClusterState := ⟨fun g => g.plainNodeId != ⟨1⟩⟩

def allNodesDown : ObservedClusterState := ⟨fun _ => false⟩

def threeAdminsRound : List (NodeConfig × ClusterControllerState Unit × Except String Unit) :=
  [(⟨⟨⟨4⟩, 0⟩, true⟩, .leader (), .ok ()), (⟨⟨⟨1⟩, 0⟩, true⟩, .follower, .ok ()),
    (⟨⟨⟨2⟩, 3⟩, true⟩, .follower, .ok ())]

section Round
variable {L ε : Type} (nodesConfig : NodesConfiguration)
  (observedClusterState : ObservedClusterState)

/-- One round: each node runs `update` against the same configuration and observation, with
its configured `current_generation` as `my_node_id()`, from its own state and with its own
`from_service` outcome. -/
def updateRound (nodes : List (NodeConfig × ClusterControllerState L × Except ε L)) :
    List (ClusterControllerState L) :=
  nodes.map fun r => (r.2.1.update nodesConfig observedClusterState r.1.currentGeneration r.2.2).1

theorem countP_le_one_of_generation_eq {α : Type} (cfg : α → NodeConfig) (P : α → Bool)
    (g : GenerationalNodeId) (hd : (nodesConfig.getAdminNodes.map (·.currentGeneration)).Nodup)
    {nodes : List α} (hnodes : (nodes.map cfg).Subperm nodesConfig.getAdminNodes)
    (hP : ∀ r ∈ nodes, P r → (cfg r).currentGeneration = g) : nodes.countP P ≤ 1 :=
  calc nodes.countP P
      ≤ nodes.countP fun r => (cfg r).currentGeneration == g :=
        List.countP_mono_left fun r hr h => beq_iff_eq.mpr (hP r hr h)
    _ = (nodes.map cfg).countP fun node => node.currentGeneration == g :=
        (List.countP_map (fun node : NodeConfig => node.currentGeneration == g) _ _).symm
    _ ≤ nodesConfig.getAdminNodes.countP fun node => node.currentGeneration == g :=
        hnodes.countP_le _
    _ = (nodesConfig.getAdminNodes.map (·.currentGeneration)).count g :=
        (List.countP_map (· == g) _ _).symm
    _ ≤ 1 := List.nodup_iff_count_le_one.mp hd g

theorem updateRound_leader_unique
    (hd : (nodesConfig.getAdminNodes.map (·.currentGeneration)).Nodup)
    (halive : ∃ node ∈ nodesConfig.getAdminNodes,
      observedClusterState.isNodeAlive node.currentGeneration)
    (nodes : List (NodeConfig × ClusterControllerState L × Except ε L))
    (hnodes : (nodes.map (·.1)).Subperm nodesConfig.getAdminNodes) :
    (updateRound nodesConfig observedClusterState nodes).countP (·.isLeader) ≤ 1 ∧
      ∀ r ∈ nodes,
        (r.2.1.update nodesConfig observedClusterState r.1.currentGeneration r.2.2).1.isLeader →
          r.1 ∈ nodesConfig.getAdminNodes ∧
          observedClusterState.isNodeAlive r.1.currentGeneration ∧
          ∀ node ∈ nodesConfig.getAdminNodes,
            observedClusterState.isNodeAlive node.currentGeneration →
              r.1.currentGeneration ≤ node.currentGeneration := by
  have hdesignated : ∀ r ∈ nodes,
      (r.2.1.update nodesConfig observedClusterState r.1.currentGeneration r.2.2).1.isLeader →
        isLeader (maybeLeader nodesConfig observedClusterState) r.1.currentGeneration :=
    fun r _ h => by rw [isLeader_update, Bool.and_eq_true] at h; exact h.1
  obtain ⟨g, hg⟩ := exists_maybeLeader_eq_some nodesConfig observedClusterState halive
  refine ⟨?_, fun r hr h => ?_⟩
  · rw [updateRound, List.countP_map]
    refine countP_le_one_of_generation_eq nodesConfig (·.1) _ g hd hnodes fun r hr h => ?_
    have h := hdesignated r hr h
    simp only [hg, isLeader, beq_iff_eq] at h
    exact h.symm
  · obtain ⟨hmem, hleast⟩ := (isLeader_maybeLeader_iff nodesConfig observedClusterState _
      halive).mp (hdesignated r hr h)
    obtain ⟨node, -, hlive, heq⟩ := (mem_aliveAdminGenerations _ _).mp hmem
    exact ⟨hnodes.subset (List.mem_map_of_mem _ hr), heq ▸ hlive, fun n hn hl =>
      hleast _ ((mem_aliveAdminGenerations _ _).mpr ⟨n, hn, hl, rfl⟩)⟩

theorem three_admins_leader_unique :
    (fourNodesConfig.getAdminNodes.map (·.currentGeneration)).Nodup ∧
      (∃ node ∈ fourNodesConfig.getAdminNodes, nodeOneDown.isNodeAlive node.currentGeneration) ∧
      (threeAdminsRound.map (·.1)).Subperm fourNodesConfig.getAdminNodes ∧
      (updateRound fourNodesConfig nodeOneDown threeAdminsRound).countP (·.isLeader) ≤ 1 ∧
      ∀ r ∈ threeAdminsRound,
        (r.2.1.update fourNodesConfig nodeOneDown r.1.currentGeneration r.2.2).1.isLeader →
          r.1 ∈ fourNodesConfig.getAdminNodes ∧ nodeOneDown.isNodeAlive r.1.currentGeneration ∧
          ∀ node ∈ fourNodesConfig.getAdminNodes,
            nodeOneDown.isNodeAlive node.currentGeneration →
              r.1.currentGeneration ≤ node.currentGeneration :=
  have hd : (fourNodesConfig.getAdminNodes.map (·.currentGeneration)).Nodup := by decide
  have halive : ∃ node ∈ fourNodesConfig.getAdminNodes,
      nodeOneDown.isNodeAlive node.currentGeneration := by decide
  have hnodes : (threeAdminsRound.map (·.1)).Subperm fourNodesConfig.getAdminNodes := by decide
  ⟨hd, halive, hnodes, updateRound_leader_unique _ _ hd halive _ hnodes⟩

/-- Node 4 steps down, node 1 is down, and node 2, the least alive admin, takes over. -/
example : (updateRound fourNodesConfig nodeOneDown threeAdminsRound).map (·.isLeader) =
    [false, false, true] := by decide

end Round
end Restate.ClusterController
