import Mathlib.Order.Basic
import Mathlib.Data.List.Nodup

/-! Rust's `BTreeMap` as a sorted association list. The sortedness is a field, so
a key occurs at most once and `iter()` yields the entries in key order. Only the
operations the modelled code calls are given. -/
namespace Restate

/-- `std::collections::BTreeMap`: entries in strictly increasing key order. -/
structure BTreeMap (κ ν : Type) [LinearOrder κ] where
  entries : List (κ × ν)
  sorted : entries.Pairwise (fun a b => a.1 < b.1)

namespace BTreeMap
variable {κ ν : Type} [LinearOrder κ]

def empty : BTreeMap κ ν := ⟨[], .nil⟩

def keys (m : BTreeMap κ ν) : List κ := m.entries.map Prod.fst

def values (m : BTreeMap κ ν) : List ν := m.entries.map Prod.snd

def get? (m : BTreeMap κ ν) (k : κ) : Option ν := m.entries.lookup k

/-- Insertion into a sorted entry list; an entry at the same key is replaced. -/
def insertEntry (k : κ) (v : ν) : List (κ × ν) → List (κ × ν)
  | [] => [(k, v)]
  | e :: es =>
      if k < e.1 then (k, v) :: e :: es
      else if k = e.1 then (k, v) :: es
      else e :: insertEntry k v es

theorem mem_insertEntry {k : κ} {v : ν} {x : κ × ν} :
    ∀ {l : List (κ × ν)}, x ∈ insertEntry k v l → x = (k, v) ∨ x ∈ l
  | [], h => by simpa [insertEntry] using h
  | e :: es, h => by
      simp only [insertEntry] at h
      split_ifs at h
      · simpa using h
      · simp only [List.mem_cons] at h ⊢; tauto
      · rcases List.mem_cons.mp h with rfl | h
        · simp
        · rcases mem_insertEntry h with h | h <;> simp [h]

theorem sorted_insertEntry (k : κ) (v : ν) :
    ∀ {l : List (κ × ν)}, l.Pairwise (fun a b => a.1 < b.1) →
      (insertEntry k v l).Pairwise (fun a b => a.1 < b.1)
  | [], _ => by simp [insertEntry]
  | e :: es, h => by
      have he : ∀ b ∈ es, e.1 < b.1 := fun b hb => List.rel_of_pairwise_cons h hb
      simp only [insertEntry]
      split_ifs with hlt heq
      · exact .cons (by simpa [hlt] using fun b hb => lt_trans hlt (he b hb)) h
      · subst heq; exact .cons (fun b hb => he b hb) h.of_cons
      · refine .cons (fun b hb => ?_) (sorted_insertEntry k v h.of_cons)
        rcases mem_insertEntry hb with rfl | hb
        · exact lt_of_le_of_ne (not_lt.mp hlt) (Ne.symm heq)
        · exact he _ hb

/-- `BTreeMap::insert`. -/
def insert (m : BTreeMap κ ν) (k : κ) (v : ν) : BTreeMap κ ν :=
  ⟨insertEntry k v m.entries, sorted_insertEntry k v m.sorted⟩

theorem lookup_cons (k k' : κ) (v : ν) (es : List (κ × ν)) :
    ((k, v) :: es).lookup k' = if k' = k then some v else es.lookup k' := by
  by_cases h : k' = k
  · simp [List.lookup_cons, h]
  · have : (k' == k) = false := by simpa using h
    simp [List.lookup_cons, h, this]

theorem lookup_eq_none {l : List (κ × ν)} {k : κ} (h : ∀ e ∈ l, k ≠ e.1) : l.lookup k = none :=
  List.lookup_eq_none_iff.mpr fun e he => by simpa using h e he

theorem lookup_insertEntry (k k' : κ) (v : ν) :
    ∀ l : List (κ × ν), (insertEntry k v l).lookup k' = if k' = k then some v else l.lookup k'
  | [] => by simp [insertEntry, lookup_cons]
  | (a, b) :: es => by
      have ih := lookup_insertEntry k k' v es
      by_cases hlt : k < a
      · rw [insertEntry, if_pos hlt, lookup_cons]
      by_cases heq : k = a
      · subst heq
        rw [insertEntry, if_neg hlt, if_pos rfl]
        by_cases h : k' = k <;> simp [lookup_cons, h]
      rw [insertEntry, if_neg hlt, if_neg heq, lookup_cons, ih, lookup_cons]
      by_cases h : k' = k <;> simp [h, heq]

@[simp] theorem get?_empty (k : κ) : (empty : BTreeMap κ ν).get? k = none := rfl

@[simp] theorem get?_insert (m : BTreeMap κ ν) (k k' : κ) (v : ν) :
    (m.insert k v).get? k' = if k' = k then some v else m.get? k' :=
  lookup_insertEntry k k' v m.entries

theorem get?_eq_some_iff (m : BTreeMap κ ν) {k : κ} {v : ν} :
    m.get? k = some v ↔ (k, v) ∈ m.entries := by
  obtain ⟨es, hs⟩ := m
  simp only [get?]
  induction es with
  | nil => simp
  | cons e es ih =>
      have hne : ∀ b ∈ es, e.1 ≠ b.1 := fun b hb => ne_of_lt (List.rel_of_pairwise_cons hs hb)
      rw [show e = (e.1, e.2) from rfl, lookup_cons, List.mem_cons, ← ih hs.of_cons]
      by_cases h : k = e.1
      · subst h
        simp [lookup_eq_none hne, Prod.ext_iff, eq_comm]
      · simp [h, Prod.ext_iff]

theorem mem_values_iff (m : BTreeMap κ ν) {v : ν} : v ∈ m.values ↔ ∃ k, m.get? k = some v := by
  simp [values, get?_eq_some_iff]

theorem mem_keys_iff (m : BTreeMap κ ν) {k : κ} : k ∈ m.keys ↔ (m.get? k).isSome := by
  simp [keys, Option.isSome_iff_exists, get?_eq_some_iff]

/-- `entry(k).and_modify(f).or_insert(v)`. -/
def andModifyOrInsert (m : BTreeMap κ ν) (k : κ) (f : ν → ν) (v : ν) : BTreeMap κ ν :=
  m.insert k (match m.get? k with
    | some old => f old
    | none => v)

/-- `entry(k).or_default()` followed by the in-place change `f` of the entry. -/
def modifyOrDefault (m : BTreeMap κ ν) (k : κ) (d : ν) (f : ν → ν) : BTreeMap κ ν :=
  m.insert k (f ((m.get? k).getD d))

section InsertWhen
variable {α : Type} (c : α → Bool) (key : α → κ) (val : α → ν)

def insertWhen (m : BTreeMap κ ν) (e : α) : BTreeMap κ ν :=
  if c e then m.insert (key e) (val e) else m

theorem get?_insertWhen (m : BTreeMap κ ν) (e : α) (k : κ) :
    (insertWhen c key val m e).get? k =
      if c e ∧ k = key e then some (val e) else m.get? k := by
  by_cases h : c e <;> by_cases hk : k = key e <;> simp [insertWhen, h, hk]

theorem get?_foldl_insertWhen_of_ne {k : κ} :
    ∀ {l : List α} (m : BTreeMap κ ν), (∀ e ∈ l, c e → key e ≠ k) →
      (l.foldl (insertWhen c key val) m).get? k = m.get? k
  | [], _, _ => rfl
  | e :: l, m, h => by
      rw [List.foldl_cons, get?_foldl_insertWhen_of_ne _ fun e' he' => h e' (.tail _ he'),
        get?_insertWhen, if_neg fun ⟨hc, hk⟩ => h e (.head _) hc hk.symm]

theorem get?_foldl_insertWhen {e : α} (hc : c e) :
    ∀ {l : List α} (m : BTreeMap κ ν), l.Pairwise (fun a b => key a ≠ key b) → e ∈ l →
      (l.foldl (insertWhen c key val) m).get? (key e) = some (val e)
  | a :: l, m, hl, he => by
      rw [List.foldl_cons]
      rcases List.mem_cons.mp he with rfl | he
      · rw [get?_foldl_insertWhen_of_ne c key val _ fun b hb _ => (List.rel_of_pairwise_cons hl hb).symm,
          get?_insertWhen, if_pos ⟨hc, rfl⟩]
      · exact get?_foldl_insertWhen hc _ hl.of_cons he

theorem get?_foldl_insertWhen_eq_some {k : κ} {v : ν} :
    ∀ {l : List α} (m : BTreeMap κ ν), (l.foldl (insertWhen c key val) m).get? k = some v →
      m.get? k = some v ∨ ∃ e ∈ l, c e ∧ key e = k ∧ val e = v
  | [], _, h => .inl h
  | e :: l, m, h => by
      rcases get?_foldl_insertWhen_eq_some (l := l) (insertWhen c key val m e) h with
        h | ⟨e', he', hc, hk, hv⟩
      · rw [get?_insertWhen] at h
        split_ifs at h with hce
        · exact .inr ⟨e, .head _, hce.1, hce.2.symm, Option.some.inj h⟩
        · exact .inl h
      · exact .inr ⟨e', .tail _ he', hc, hk, hv⟩

end InsertWhen

end BTreeMap
end Restate
