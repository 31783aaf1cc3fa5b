import Mathlib.Order.Basic
import Mathlib.Order.Synonym
import Mathlib.Data.Prod.Lex

/-! Identifiers and log sequence numbers of `restate_types`. Node, partition and
log ids are only compared and used as map keys, so they wrap unbounded naturals;
an `Lsn` keeps its `u64`. Each order is the one Rust derives. -/
namespace Restate

/-- `PlainNodeId`: the stable identity of a node. -/
structure PlainNodeId where
  val : Nat
  deriving Repr

instance : LinearOrder PlainNodeId :=
  LinearOrder.lift' PlainNodeId.val fun a b h => by cases a; cases b; cases h; rfl

/-- `GenerationalNodeId(PlainNodeId, generation)`: one incarnation of a node. The
derived `Ord` compares the plain id first, then the generation. -/
structure GenerationalNodeId where
  plainNodeId : PlainNodeId
  generation : Nat
  deriving Repr

instance : LinearOrder GenerationalNodeId :=
  LinearOrder.lift' (fun g => toLex (g.plainNodeId.val, g.generation)) fun a b h => by
    obtain ⟨⟨a⟩, g⟩ := a
    obtain ⟨⟨b⟩, g'⟩ := b
    simp only [toLex_inj, Prod.mk.injEq] at h
    obtain ⟨rfl, rfl⟩ := h
    rfl

structure PartitionId where
  val : Nat
  deriving Repr

instance : LinearOrder PartitionId :=
  LinearOrder.lift' PartitionId.val fun a b h => by cases a; cases b; cases h; rfl

structure LogId where
  val : Nat
  deriving Repr

instance : LinearOrder LogId :=
  LinearOrder.lift' LogId.val fun a b h => by cases a; cases b; cases h; rfl

/-- Modelled from the spec: `LogId::from(PartitionId)` maps a partition onto its
log, the identity on the underlying integer. -/
def LogId.ofPartitionId (p : PartitionId) : LogId := ⟨p.val⟩

theorem LogId.ofPartitionId_injective : Function.Injective LogId.ofPartitionId :=
  fun a b h => by cases a; cases b; cases h; rfl

/-- `Lsn(u64)`, ordered as the integer. -/
structure Lsn where
  val : UInt64
  deriving Repr

instance : LinearOrder Lsn :=
  LinearOrder.lift' (fun l => l.val.toNat) fun a b h => by
    cases a; cases b; exact congrArg _ (UInt64.toNat.inj h)

instance : Std.Antisymm (α := Lsn) (· ≤ ·) := ⟨le_antisymm⟩

namespace Lsn

def INVALID : Lsn := ⟨0⟩

@[simp] theorem INVALID_le (l : Lsn) : INVALID ≤ l := Nat.zero_le l.val.toNat

/-- A value above `INVALID` bounded by `o.unwrap_or(INVALID)` forces `o` to be present. -/
theorem exists_of_le_getD {o : Option Lsn} {l : Lsn} (h0 : INVALID < l)
    (h : l ≤ o.getD INVALID) : ∃ x, o = some x ∧ l ≤ x := by
  cases o with
  | none => exact absurd h (not_le.mpr h0)
  | some x => exact ⟨x, rfl, h⟩

end Lsn
end Restate
