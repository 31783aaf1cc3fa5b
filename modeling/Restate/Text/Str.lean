import Mathlib.Data.List.Basic

/-! The `str` methods that `filter_metrics` calls, on a text as its list of characters. -/
namespace Restate.Str

/-- `char::is_whitespace`: the characters of Unicode's `White_Space` property. -/
def isWhitespace (c : Char) : Bool :=
  let n := c.toNat
  (0x09 ≤ n && n ≤ 0x0D) || n == 0x20 || n == 0x85 || n == 0xA0 || n == 0x1680 ||
    (0x2000 ≤ n && n ≤ 0x200A) || n == 0x2028 || n == 0x2029 || n == 0x202F || n == 0x205F ||
    n == 0x3000

def trim (s : List Char) : List Char :=
  ((s.dropWhile isWhitespace).reverse.dropWhile isWhitespace).reverse

def splitWhitespace (s : List Char) : List (List Char) :=
  (s.splitOnP isWhitespace).filter fun piece => !piece.isEmpty

def startsWith (s pat : List Char) : Bool := pat.isPrefixOf s

/-- The line of a piece that a `'\n'` ended: a `'\r'` before that `'\n'` is dropped. -/
def stripCr (line : List Char) : List Char :=
  if line.getLast? = some '\r' then line.dropLast else line

/-- `str::lines`: the text cut after each `'\n'`, which is dropped with a `'\r'` before it; the
last line needs no `'\n'`, and an empty rest after the last `'\n'` is no line. -/
def lines (s : List Char) : List (List Char) :=
  let pieces := s.splitOn '\n'
  let terminated := pieces.dropLast.map stripCr
  match pieces.getLast? with
  | some (c :: cs) => terminated ++ [c :: cs]
  | _ => terminated

theorem trim_eq_nil_iff {s : List Char} : trim s = [] ↔ ∀ c ∈ s, isWhitespace c := by
  rw [← List.dropWhile_eq_nil_iff, trim, List.reverse_eq_nil_iff,
    List.dropWhile_eq_nil_iff (l := (s.dropWhile isWhitespace).reverse)]
  constructor
  · intro h
    by_contra hne
    have := List.head_dropWhile_not isWhitespace s hne
    exact absurd (h _ (List.mem_reverse.mpr (List.head_mem hne))) (by simp [this])
  · intro h
    simp [h]

theorem trim_ne_nil_of_startsWith {s pat : List Char} {c : Char} (hs : startsWith s (c :: pat))
    (hc : isWhitespace c = false) : trim s ≠ [] := by
  obtain ⟨t, rfl⟩ := (List.isPrefixOf_iff_prefix.mp hs)
  rw [Ne, trim_eq_nil_iff]
  exact fun h => absurd (h c (by simp)) (by simp [hc])

end Restate.Str
