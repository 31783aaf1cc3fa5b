import Restate.Collections.BTreeMap
import Restate.Types.Ids
import Mathlib.Data.List.Dedup

/-! `restatectl log reconfigure` (`tools/restatectl/src/commands/log/reconfigure.rs`): the
`SealAndExtendChainRequest` that `inner_reconfigure` builds for one log, or the error that
stops it. The RPC, its response and the printing are left out. A replication property is only
passed along, so it is any type `R`; a segment's stored params enter as what
`ReplicatedLogletParams::deserialize_from` yields for them, and the new replicated params are
given before `serialize`. -/
namespace Restate.Restatectl

/-- `ProviderKind`, with `InMemory` as under the `memory-loglet` feature. -/
inductive ProviderKind
  | «local»
  | inMemory
  | replicated
  deriving DecidableEq, Repr

/-- Modelled from the spec: `LogletId::new(log_id, segment_index)`, the pair; a `SegmentIndex`
is a `u32`. -/
structure LogletId where
  logId : LogId
  segmentIndex : UInt32
  deriving DecidableEq, Repr

/-- Modelled from the spec: `SegmentIndex::next`, `segment_index + 1` in the index's `u32`, so
at `u32::MAX` it wraps to 0 as a release build's `+` does. -/
def SegmentIndex.next (segmentIndex : UInt32) : UInt32 := segmentIndex + 1

structure NodeSet where
  nodes : List PlainNodeId
  nodup : nodes.Nodup

instance : DecidableEq NodeSet := fun a b =>
  decidable_of_iff (a.nodes = b.nodes) (by cases a; cases b; simp)

def NodeSet.fromIter (ids : List PlainNodeId) : NodeSet := ⟨ids.dedup, List.nodup_dedup ids⟩

structure ReplicatedLogletParams (R : Type) where
  logletId : LogletId
  sequencer : GenerationalNodeId
  replication : R
  nodeset : NodeSet
  deriving DecidableEq

/-- A segment's `LogletConfig`: its kind, and its params as replicated params if they parse. -/
structure LogletConfig (R : Type) where
  kind : ProviderKind
  params : Option (ReplicatedLogletParams R)

/-- A log's `Chain`, through what `inner_reconfigure` reads: the tail segment and its index. -/
structure Chain (R : Type) where
  tailIndex : UInt32
  tail : LogletConfig R

/-- `ReconfigureOpts`, with `log_id` already expanded from its ranges. -/
structure ReconfigureOpts (R : Type) where
  logId : List LogId
  provider : Option ProviderKind
  segmentIndex : Option UInt32
  minVersion : Nat
  minVersion_pos : 0 < minVersion
  replication : Option R
  nodeset : List PlainNodeId
  sequencer : Option GenerationalNodeId

inductive ReconfigureError
  | unknownLogId (logId : LogId)
  | switchingBack (provider : ProviderKind)
  | sequencerOrNodesetNotReplicated
  | lastParamsInvalid
  | missingNodeset
  | missingReplication
  | missingSequencer
  deriving DecidableEq, Repr

/-- The texts of the errors. `Display` of `ProviderKind` is not under src/, so it is an
argument; a `LogId` displays as its number. -/
def ReconfigureError.message (displayProvider : ProviderKind → String) : ReconfigureError → String
  | .unknownLogId logId => "Unknown log id '" ++ toString logId.val ++ "'"
  | .switchingBack provider =>
      "Switching back to " ++ displayProvider provider ++ " provider kind is not supported"
  | .sequencerOrNodesetNotReplicated =>
      "'sequencer' or 'nodeset' are only allowed with 'replicated' provider"
  | .lastParamsInvalid => "Last segment params in chain is invalid"
  | .missingNodeset =>
      "Missing nodeset. Nodeset is required if last segment is not of replicated type"
  | .missingReplication =>
      "Missing replication. Replication factor is required if last segment is not of replicated type"
  | .missingSequencer =>
      "Missing sequencer. Sequencer is required if last segment is not of replicated type"

inductive ExtensionParams (R : Type)
  | replicated (params : ReplicatedLogletParams R)
  | logletId (id : LogletId)
  deriving DecidableEq

structure ChainExtension (R : Type) where
  provider : ProviderKind
  segmentIndex : UInt32
  params : ExtensionParams R
  deriving DecidableEq

structure SealAndExtendChainRequest (R : Type) where
  logId : LogId
  minVersion : Nat
  extension : ChainExtension R
  deriving DecidableEq

section Build
variable {R : Type}

def replicatedLogletParams (opts : ReconfigureOpts R) (logletId : LogletId) (tail : LogletConfig R) :
    Except ReconfigureError (ReplicatedLogletParams R) :=
  if tail.kind = .replicated then
    match tail.params with
    | none => .error .lastParamsInvalid
    | some lastParams =>
        .ok { logletId
              nodeset :=
                if opts.nodeset.isEmpty then lastParams.nodeset else NodeSet.fromIter opts.nodeset
              replication := opts.replication.getD lastParams.replication
              sequencer := opts.sequencer.getD lastParams.sequencer }
  else do
    let nodeset ←
      if opts.nodeset.isEmpty then .error .missingNodeset else pure (NodeSet.fromIter opts.nodeset)
    let replication ← match opts.replication with
      | some replication => pure replication
      | none => .error .missingReplication
    let sequencer ← match opts.sequencer with
      | some sequencer => pure sequencer
      | none => .error .missingSequencer
    pure { logletId, nodeset, replication, sequencer }

/-- `inner_reconfigure` up to the request it sends. -/
def sealAndExtendChainRequest (opts : ReconfigureOpts R) (logs : BTreeMap LogId (Chain R))
    (logId : LogId) : Except ReconfigureError (SealAndExtendChainRequest R) := do
  let chain ← match logs.get? logId with
    | some chain => pure chain
    | none => .error (.unknownLogId logId)
  let tailSegment := chain.tail
  let tailIndex := opts.segmentIndex.getD chain.tailIndex
  let nextLogletId : LogletId := ⟨logId, SegmentIndex.next tailIndex⟩
  let provider := opts.provider.getD tailSegment.kind
  let params ← match provider, tailSegment.kind with
    | .replicated, _ => ExtensionParams.replicated <$>
        replicatedLogletParams opts nextLogletId tailSegment
    | _, .replicated => .error (.switchingBack provider)
    | .local, _ | .inMemory, _ =>
        if opts.sequencer.isSome || !opts.nodeset.isEmpty then .error .sequencerOrNodesetNotReplicated
        else pure (.logletId nextLogletId)
  pure { logId
         minVersion := opts.minVersion
         extension := { provider, segmentIndex := tailIndex, params } }

def reconfigure (opts : ReconfigureOpts R) (logs : BTreeMap LogId (Chain R)) :
    List (LogId × Except ReconfigureError (SealAndExtendChainRequest R)) :=
  opts.logId.map fun logId => (logId, sealAndExtendChainRequest opts logs logId)

end Build

end Restate.Restatectl
