import LiteralLexer.Proofs.Sequence
import LiteralLexer.Proofs.Suggestion.Edits
import LiteralLexer.Suggestion.Distance

/-!
# The table of distances

Each entry of the table that `tableDistance` fills in is the distance of two prefixes.  While a row is written
from the left, what was left in it from the row before the last is still there on the right; so the invariant
of the inner loop, `Filled`, speaks of the entries up to a column only, and that of the outer loop, `Rows.At`,
says nothing about the entries of the row that is written next.

`unitDistance_least` says that the result is the length of a shortest script of edits, with what follows from
that.  A text is determined by its units (`textUnits_inj`), so only a text itself is at distance zero.
-/

namespace LiteralLexer.Suggestion

/-! ## Rows -/

variable {short long : List UInt16}

/-- The entries of a row before a column are those of the row `j` of the table. -/
structure Filled (short long : List UInt16) (j column : Nat) (row : Array Nat) : Prop where
  size : row.size = short.length + 1
  entry : ∀ i < column, row.getD i 0 = levenshtein (short.take i) (long.take j)

/-- The recursion of the table: the distance of prefixes from the distances of shorter ones. -/
theorem levenshtein_take_succ {i j : Nat} (left : i < short.length) (above : j < long.length) :
    levenshtein (short.take (i + 1)) (long.take (j + 1)) =
      min (min (levenshtein (short.take (i + 1)) (long.take j) + 1)
          (levenshtein (short.take i) (long.take (j + 1)) + 1))
        (levenshtein (short.take i) (long.take j) + if short[i]? = long[j]? then 0 else 1) := by
  rw [List.getElem?_eq_getElem left, List.getElem?_eq_getElem above, ← List.take_append_getElem left,
    ← List.take_append_getElem above, levenshtein_concat, Nat.min_comm (levenshtein _ (_ ++ _) + 1)]
  simp only [Option.some.injEq]

namespace Rows

variable {rows : Rows} {i j : Nat}

/-- Writing one entry fills in one column more. -/
theorem write_next (above : Filled short long j (short.length + 1) rows.filled)
    (left : Filled short long (j + 1) (i + 1) rows.next) (narrow : i < short.length)
    (inside : j < long.length) :
    Filled short long (j + 1) (i + 2) (rows.write short.toArray long.toArray j i).next where
  size := by
    simp only [write, Array.size_setIfInBounds]
    exact left.size
  entry := by
    intro k bound
    have column : i + 1 < rows.next.size := by
      rw [left.size]
      omega
    simp only [write, getD_setIfInBounds _ column, List.getElem?_toArray]
    split
    · -- the three entries that are read are those of the recursion
      next here =>
      subst here
      rw [above.entry _ (by omega), above.entry _ (by omega), left.entry _ (by omega),
        levenshtein_take_succ narrow inside]
    · next other => exact left.entry k (by omega)

/-- A row after its first `n` entries were written behind the one at the margin. -/
theorem foldl_write (rows : Rows) (above : Filled short long j (short.length + 1) rows.filled)
    (margin : Filled short long (j + 1) 1 rows.next) (inside : j < long.length) {n : Nat}
    (narrow : n ≤ short.length) :
    let written := (List.range n).foldl (write short.toArray long.toArray j) rows
    written.filled = rows.filled ∧ Filled short long (j + 1) (n + 1) written.next := by
  induction n with
  | zero => exact ⟨rfl, margin⟩
  | succ n ih =>
    obtain ⟨kept, left⟩ := ih (Nat.le_of_succ_le narrow)
    rw [List.range_succ, List.foldl_append, List.foldl_cons, List.foldl_nil]
    exact ⟨kept, write_next (kept ▸ above) left narrow inside⟩

/-- The last row that was filled in is the row `j` of the table.  Nothing is known of the other row but its
size. -/
structure At (short long : List UInt16) (j : Nat) (rows : Rows) : Prop where
  filled : Filled short long j (short.length + 1) rows.filled
  size : rows.next.size = short.length + 1

theorem at_start (short long : List UInt16) : At short long 0 (start short.length) where
  filled := {
    size := by simp [start]
    entry := by
      intro i bound
      have inside : i < short.length + 1 := bound
      have width : min i short.length = i := by omega
      simp [start, Array.getD_eq_getD_getElem?, inside, width] }
  size := by simp [start]

theorem At.advance (before : At short long j rows) (inside : j < long.length) :
    At short long (j + 1) (rows.advance short.toArray long.toArray j) := by
  have margin : Filled short long (j + 1) 1 (rows.next.setIfInBounds 0 (j + 1)) := by
    have wide : 0 < rows.next.size := before.size ▸ Nat.succ_pos _
    refine ⟨by simpa using before.size, ?_⟩
    intro i first
    obtain rfl : i = 0 := by omega
    rw [getD_setIfInBounds _ wide, if_pos rfl, List.take_zero, levenshtein_nil_left,
      List.length_take, Nat.min_eq_left inside]
  -- after the change of places the row that was read from is the one to be written next
  obtain ⟨kept, written⟩ := foldl_write { rows with next := rows.next.setIfInBounds 0 (j + 1) }
    before.filled margin inside (Nat.le_refl short.length)
  refine ⟨written, ?_⟩
  simp only [Rows.advance, List.size_toArray]
  rw [kept]
  exact before.filled.size

theorem at_foldl (short long : List UInt16) {n : Nat} (inside : n ≤ long.length) :
    At short long n ((List.range n).foldl (Rows.advance short.toArray long.toArray)
      (start short.length)) := by
  induction n with
  | zero => exact at_start short long
  | succ n ih =>
    rw [List.range_succ, List.foldl_append, List.foldl_cons, List.foldl_nil]
    exact (ih (Nat.le_of_succ_le inside)).advance inside

end Rows

/-! ## The distance -/

theorem tableDistance_eq (short long : List UInt16) :
    tableDistance short.toArray long.toArray = levenshtein short long := by
  have last := (Rows.at_foldl short long (Nat.le_refl long.length)).filled.entry short.length
    (Nat.lt_succ_self _)
  rw [List.take_length, List.take_length] at last
  exact last

/-- Which of the two lists spans the rows makes no difference. -/
theorem unitDistance_eq (a b : List UInt16) : unitDistance a b = levenshtein a b := by
  have table : ∀ short long : List UInt16,
      (if short = [] then long.length else if long = [] then short.length
        else tableDistance short.toArray long.toArray) = levenshtein short long := by
    intro short long
    split
    · next empty => rw [empty, levenshtein_nil_left]
    · split
      · next empty => rw [empty, levenshtein_nil_right]
      · exact tableDistance_eq short long
  unfold unitDistance
  by_cases longer : b.length < a.length
  · simp only [longer, if_true]
    rw [table, levenshtein_comm]
  · simp only [longer, if_false]
    exact table a b

/-! ## Texts and their units -/

theorem mod_eq_of_toUInt16 {n m : Nat} (same : n.toUInt16 = m.toUInt16) : n % 0x10000 = m % 0x10000 := by
  simpa using congrArg UInt16.toNat same

/-- Characters are read off the units one by one: the first half of a pair is no character by itself. -/
theorem units_append_inj {c d : Char} {s t : List UInt16} (same : units c ++ s = units d ++ t) :
    c = d ∧ s = t := by
  have scalar (c : Char) : c.toNat < 0xD800 ∨ 0xDFFF < c.toNat ∧ c.toNat < 0x110000 := c.valid
  have left := scalar c
  have right := scalar d
  unfold units at same
  -- a unit of its own is no first half of a pair, so the mixed cases contradict themselves
  split at same <;> split at same
  · obtain ⟨first, rest⟩ := List.cons.inj same
    have := mod_eq_of_toUInt16 first
    exact ⟨Char.toNat_inj.mp (by omega), rest⟩
  · have := mod_eq_of_toUInt16 (List.cons.inj same).1
    omega
  · have := mod_eq_of_toUInt16 (List.cons.inj same).1
    omega
  · obtain ⟨first, same⟩ := List.cons.inj same
    obtain ⟨second, rest⟩ := List.cons.inj same
    have high := mod_eq_of_toUInt16 first
    have low := mod_eq_of_toUInt16 second
    exact ⟨Char.toNat_inj.mp (by omega), rest⟩

theorem units_ne_nil (c : Char) : units c ≠ [] := by
  unfold units
  split <;> simp

theorem textUnits_inj {s t : String} : textUnits s = textUnits t ↔ s = t := by
  refine ⟨fun same => String.toList_inj.mp ?_, fun same => same ▸ rfl⟩
  unfold textUnits at same
  generalize s.toList = cs at same ⊢
  generalize t.toList = ds at same ⊢
  induction cs generalizing ds with
  | nil =>
    cases ds with
    | nil => rfl
    | cons d ds => simp [units_ne_nil] at same
  | cons c cs ih =>
    cases ds with
    | nil => simp [units_ne_nil] at same
    | cons d ds =>
      rw [List.flatMap_cons, List.flatMap_cons] at same
      obtain ⟨rfl, rest⟩ := units_append_inj same
      rw [ih ds rest]

theorem distance_eq (s t : String) : distance s t = levenshtein (textUnits s) (textUnits t) :=
  unitDistance_eq _ _

theorem distance_eq_zero_iff {s t : String} : distance s t = 0 ↔ s = t := by
  rw [distance_eq, levenshtein_eq_zero_iff, textUnits_inj]

/-- The distance of two sequences of units is the length of a shortest script of insertions, deletions and
substitutions of single units, with all that follows from it, and texts are compared by their units. -/
theorem unitDistance_least : IsEditDistance unitDistance ∧
    ∀ s t : String, distance s t = unitDistance (textUnits s) (textUnits t) ∧
      (distance s t = 0 ↔ s = t) := by
  have recursive : unitDistance = levenshtein := by
    funext a b
    exact unitDistance_eq a b
  refine ⟨?_, fun s t => ⟨rfl, distance_eq_zero_iff⟩⟩
  rw [recursive]
  exact isEditDistance_levenshtein

end LiteralLexer.Suggestion
