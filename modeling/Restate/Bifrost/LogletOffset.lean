import Mathlib.Order.Lattice
import Mathlib.Data.Nat.Defs

/-! `LogletOffset` of `bifrost/src/loglet/mod.rs`: a `u64` offset inside a loglet, with the
saturating arithmetic of its `SequenceNumber` implementation and of `Add<usize>`. -/
namespace Restate.Bifrost

/-- `u64::MAX`. -/
def u64Max : Nat := UInt64.size - 1

/-- `u64::saturating_add`. -/
def saturatingAdd (a b : UInt64) : UInt64 := UInt64.ofNat (min (a.toNat + b.toNat) u64Max)

/-- `u64::saturating_sub`. -/
def saturatingSub (a b : UInt64) : UInt64 := UInt64.ofNat (a.toNat - b.toNat)

theorem toNat_saturatingAdd (a b : UInt64) :
    (saturatingAdd a b).toNat = min (a.toNat + b.toNat) u64Max :=
  UInt64.toNat_ofNat_of_lt (lt_of_le_of_lt (min_le_right _ _) (by decide))

theorem toNat_saturatingSub (a b : UInt64) : (saturatingSub a b).toNat = a.toNat - b.toNat :=
  UInt64.toNat_ofNat_of_lt (lt_of_le_of_lt (Nat.sub_le _ _) a.toNat_lt_size)

theorem toNat_max (a b : UInt64) : (max a b).toNat = max a.toNat b.toNat := by
  show (if a ≤ b then b else a).toNat = _
  by_cases h : a.toNat ≤ b.toNat
  · rw [if_pos (show a ≤ b from h), max_eq_right h]
  · rw [if_neg (show ¬ a ≤ b from h), max_eq_left (le_of_lt (not_le.mp h))]

/-- `LogletOffset(u64)`, ordered as the integer. -/
structure LogletOffset where
  val : UInt64
  deriving DecidableEq, Repr

namespace LogletOffset

instance : LinearOrder LogletOffset :=
  LinearOrder.lift' (fun o => o.val.toNat) fun a b h => by
    cases a; cases b; exact congrArg _ (UInt64.toNat.inj h)

theorem le_iff {a b : LogletOffset} : a ≤ b ↔ a.val.toNat ≤ b.val.toNat := Iff.rfl

theorem lt_iff {a b : LogletOffset} : a < b ↔ a.val.toNat < b.val.toNat := Iff.rfl

theorem ext_toNat {a b : LogletOffset} (h : a.val.toNat = b.val.toNat) : a = b := by
  cases a; cases b; exact congrArg _ (UInt64.toNat.inj h)

/-- `SequenceNumber::MAX`. -/
def MAX : LogletOffset := ⟨UInt64.ofNat u64Max⟩

/-- `SequenceNumber::INVALID`. -/
def INVALID : LogletOffset := ⟨0⟩

/-- `SequenceNumber::OLDEST`. -/
def OLDEST : LogletOffset := ⟨1⟩

/-- `SequenceNumber::next`: saturates to `MAX`. -/
def next (o : LogletOffset) : LogletOffset := ⟨saturatingAdd o.val 1⟩

/-- `SequenceNumber::prev`: saturates to `OLDEST`. -/
def prev (o : LogletOffset) : LogletOffset := ⟨max OLDEST.val (saturatingSub o.val 1)⟩

/-- `Add<usize>`, on the 64-bit targets the source assumes. -/
def add (o : LogletOffset) (rhs : UInt64) : LogletOffset := ⟨saturatingAdd o.val rhs⟩

@[simp] theorem toNat_MAX : MAX.val.toNat = u64Max := UInt64.toNat_ofNat_of_lt (by decide)

@[simp] theorem toNat_INVALID : INVALID.val.toNat = 0 := rfl

@[simp] theorem toNat_OLDEST : OLDEST.val.toNat = 1 := rfl

@[simp] theorem toNat_next (o : LogletOffset) :
    o.next.val.toNat = min (o.val.toNat + 1) u64Max :=
  toNat_saturatingAdd _ _

@[simp] theorem toNat_prev (o : LogletOffset) : o.prev.val.toNat = max 1 (o.val.toNat - 1) := by
  rw [prev, toNat_max, toNat_saturatingSub]
  rfl

theorem toNat_le_u64Max (o : LogletOffset) : o.val.toNat ≤ u64Max := by
  have := o.val.toNat_lt_size
  simp only [u64Max]
  omega

/-- `next` and `prev` undo each other between `OLDEST` and `MAX`, and saturate at the ends:
`MAX.next() == MAX`, and `prev` of `OLDEST` or `INVALID` is `OLDEST`. -/
theorem next_prev_saturating :
    (∀ o : LogletOffset, OLDEST ≤ o → o < MAX → o.next.prev = o) ∧
      (∀ o : LogletOffset, OLDEST < o → o.prev.next = o) ∧
      MAX.next = MAX ∧ OLDEST.prev = OLDEST ∧ INVALID.prev = OLDEST := by
  have hmax : 1 < u64Max := by decide
  refine ⟨fun o h1 h2 => ext_toNat ?_, fun o h => ext_toNat ?_, ext_toNat ?_, ext_toNat ?_,
    ext_toNat ?_⟩
  · rw [le_iff, toNat_OLDEST] at h1
    rw [lt_iff, toNat_MAX] at h2
    simp only [toNat_prev, toNat_next]
    omega
  · have := toNat_le_u64Max o
    rw [lt_iff, toNat_OLDEST] at h
    simp only [toNat_prev, toNat_next]
    omega
  all_goals simp only [toNat_prev, toNat_next, toNat_MAX, toNat_OLDEST, toNat_INVALID]; omega

end LogletOffset
end Restate.Bifrost
