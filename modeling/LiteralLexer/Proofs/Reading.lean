import LiteralLexer.Proofs.Cluster
import LiteralLexer.Proofs.Run

/-!
# Readings in step with the text

Recognizers pass around a cursor and the cluster that it read last.  The two are *in step* when the
cursor stands right behind that cluster; `Source.reading s p` is the reading in step at the place
`p`, and at the end of the text its current cluster is the sentinel.

A reading in step is as good as the list `Source.rest s p` of the clusters from its place on.  This
module says what each operation of a reading does to that list, so that nothing after it has to look
inside a cursor: reading on drops a cluster, looking ahead is indexing, and the loop of
`Reading.span` is `List.takeWhile`, provided that it stops at the sentinel.  A reading moves by the
strides of its cursor, so what a stride comes to at a place is said first (`Source.advance_cursor`,
`Source.advance_beyond`).
-/

namespace LiteralLexer

@[simp] theorem Reading.sentinel_advance (r : Reading) (n : Nat) :
    (r.advance n).sentinel = r.sentinel := by
  simp only [sentinel, advance, Cursor.advance]
  split <;> rfl

namespace Source

/-- The clusters from a place on. -/
def rest (s : Source) (p : Nat) : List Cluster := s.clusters.toList.drop p

/-- The reading whose current cluster is the one at a place. -/
def reading (s : Source) (p : Nat) : Reading where
  cursor := { source := s, position := p + 1 }
  current := s.clusterAt p

variable {s : Source} {p : Nat}

@[simp] theorem length_rest : (s.rest p).length = s.length - p := by
  simp [rest, length]

@[simp] theorem drop_rest (n : Nat) : (s.rest p).drop n = s.rest (p + n) := by
  simp [rest, List.drop_drop]

theorem length_le_of_rest (empty : s.rest p = []) : s.length ≤ p := by
  have size := length_rest (s := s) (p := p)
  rw [empty, List.length_nil] at size
  omega

theorem rest_final (s : Source) : s.rest s.length = [] := by
  apply List.eq_nil_of_length_eq_zero
  rw [length_rest, Nat.sub_self]

theorem getElem?_rest (n m : Nat) : (s.rest (p + n))[m]? = (s.rest p)[n + m]? := by
  rw [← drop_rest, List.getElem?_drop]

theorem ne_sentinel_of_mem {c : Cluster} (member : c ∈ s.rest p) : c ≠ s.sentinel := by
  rintro rfl
  exact s.sentinel_notMem (List.mem_of_mem_drop member)

/-- Which clusters of the text a loop reads over does not depend on what it does at the sentinel. -/
theorem takeWhile_rest_congr {keep k : Cluster → Bool}
    (agree : ∀ c, c ≠ s.sentinel → keep c = k c) :
    (s.rest p).takeWhile keep = (s.rest p).takeWhile k := by
  have inside : ∀ c ∈ s.rest p, keep c = k c :=
    fun c member => agree c (ne_sentinel_of_mem member)
  -- from here on it is a fact about lists
  generalize s.rest p = clusters at inside
  induction clusters with
  | nil => rfl
  | cons c cs ih =>
    have tail := ih fun d member => inside d (List.mem_cons_of_mem _ member)
    rw [List.takeWhile_cons, List.takeWhile_cons, inside c List.mem_cons_self, tail]

/-- A place in the text or right behind it either ends the text or has a cluster. -/
theorem rest_cases (s : Source) (p : Nat) (bound : p ≤ s.length) :
    (p = s.length ∧ s.rest p = []) ∨
      (p < s.length ∧ ∃ c, c ≠ s.sentinel ∧ s.rest p = c :: s.rest (p + 1)) := by
  rcases Nat.lt_or_eq_of_le bound with inside | final
  · obtain ⟨c, cs, split⟩ : ∃ c cs, s.rest p = c :: cs := by
      apply List.exists_cons_of_ne_nil
      intro empty
      exact absurd (length_le_of_rest empty) (Nat.not_le_of_lt inside)
    refine .inr ⟨inside, c, ne_sentinel_of_mem (split ▸ List.mem_cons_self), ?_⟩
    rw [← drop_rest, split, List.drop_one, List.tail_cons]
  · refine .inl ⟨final, List.eq_nil_of_length_eq_zero ?_⟩
    rw [length_rest]
    omega

/-- Looking at an index is looking into the clusters from any place before it. -/
theorem clusterAt_add (n : Nat) :
    s.clusterAt ((p + n : Nat) : Int) = (s.rest p)[n]?.getD s.sentinel := by
  have nonneg : (0 : Int) ≤ ((p + n : Nat) : Int) := Int.natCast_nonneg _
  simp only [clusterAt, rest, nonneg, if_true, Int.toNat_natCast, List.getElem?_drop,
    Array.getElem?_toList]

/-- Behind the text there is nothing but the sentinel. -/
theorem clusterAt_behind (behind : s.length ≤ p) : s.clusterAt p = s.sentinel := by
  have nothing : (s.rest p)[0]? = none := by
    apply List.getElem?_eq_none
    rw [length_rest]
    omega
  rw [← Nat.add_zero p, clusterAt_add, nothing, Option.getD_none]

theorem slice_rest {n : Nat} (bound : p + n ≤ s.length) :
    s.slice p ((p + n : Nat) : Int) = Cluster.joinText ((s.rest p).take n) := by
  have start : s.sliceIndex p = p := by
    simp only [sliceIndex]
    split <;> omega
  have stop : s.sliceIndex ((p + n : Nat) : Int) = p + n := by
    simp only [sliceIndex]
    split <;> omega
  rw [slice, start, stop, rest, List.take_drop]
  simp [Array.toList_extract, List.take_drop]

/-! ## Operations of a cursor -/

/-- The cursor at a place. -/
def cursor (s : Source) (p : Nat) : Cursor := { source := s, position := p }

@[simp] theorem position_cursor : (s.cursor p).position = p := rfl

@[simp] theorem length_cursor : (s.cursor p).length = s.length := rfl

variable {k q : Nat}

theorem peek_cursor (target : p + k = q + 1) : (s.cursor p).peek k = s.clusterAt q := by
  have index : (p : Int) + k - 1 = q := by omega
  rw [Cursor.peek, position_cursor, index]
  rfl

/-- A stride that ends at the sentinel or before it moves the cursor behind what it reads. -/
theorem advance_cursor (target : p + k = q + 1) (within : q ≤ s.length) :
    (s.cursor p).advance k = (s.clusterAt q, s.cursor (q + 1)) := by
  have moves : (s.cursor p).position + k - 1 ≤ (s.cursor p).length := by
    rw [position_cursor, length_cursor]
    omega
  have place : (p : Int) + k = ((q + 1 : Nat) : Int) := by omega
  rw [Cursor.advance, peek_cursor target, if_pos moves, position_cursor, place]
  rfl

/-- A longer stride reads the sentinel, too, and the cursor stays. -/
theorem advance_beyond (beyond : s.length + 1 < p + k) :
    (s.cursor p).advance k = (s.sentinel, s.cursor p) := by
  obtain ⟨q, target⟩ : ∃ q, p + k = q + 1 := ⟨p + k - 1, by omega⟩
  have stays : ¬ (s.cursor p).position + k - 1 ≤ (s.cursor p).length := by
    rw [position_cursor, length_cursor]
    omega
  rw [Cursor.advance, peek_cursor target, clusterAt_behind (by omega), if_neg stays]

/-! ## Operations of a reading -/

@[simp] theorem sentinel_reading : (s.reading p).sentinel = s.sentinel := rfl

@[simp] theorem index_reading : (s.reading p).index = p := by
  simp only [Reading.index, reading]
  omega

@[simp] theorem location_reading : (s.reading p).location = s.locationAt p := by
  rw [Reading.location, index_reading]
  rfl

theorem current_reading : (s.reading p).current = (s.rest p)[0]?.getD s.sentinel :=
  clusterAt_add 0

/-- Looking ahead is indexing. -/
theorem ahead_reading (n : Nat) : (s.reading p).ahead n = (s.rest p)[n]?.getD s.sentinel := by
  cases n with
  | zero => exact current_reading
  | succ n =>
    have ahead : (s.reading p).ahead (n + 1) = s.clusterAt (p + (n + 1) : Nat) :=
      peek_cursor (Nat.add_right_comm p 1 (n + 1))
    rw [ahead, clusterAt_add]

theorem ahead_eq_iff {c : Cluster} (other : s.sentinel ≠ c) (n : Nat) :
    (s.reading p).ahead n = c ↔ (s.rest p)[n]? = some c := by
  rw [ahead_reading]
  cases (s.rest p)[n]? <;> simp [other]

theorem current_eq_iff {c : Cluster} (other : s.sentinel ≠ c) :
    (s.reading p).current = c ↔ (s.rest p)[0]? = some c :=
  ahead_eq_iff other 0

theorem sentinel_ne_of_getElem? {n : Nat} {c : Cluster} (here : (s.rest p)[n]? = some c) :
    s.sentinel ≠ c :=
  (ne_sentinel_of_mem (List.mem_of_getElem? here)).symm

/-- Before the end of the text it does not matter what the sentinel is. -/
theorem first_eq_iff {c : Cluster} (final : s.rest p = [] → s.sentinel ≠ c) :
    (s.reading p).current = c ↔ (s.rest p)[0]? = some c := by
  rw [current_reading]
  cases ahead : s.rest p with
  | nil => simp [final ahead]
  | cons d rest => simp

/-- A cluster ahead has a property that the sentinel lacks just if it is one of the text. -/
theorem ahead_test {test : Cluster → Bool} (fails : test s.sentinel = false) (n : Nat) :
    test ((s.reading p).ahead n) = (s.rest p)[n]?.any test := by
  rw [ahead_reading]
  cases (s.rest p)[n]? <;> simp [fails]

theorem lt_of_getElem?_rest {n : Nat} {c : Cluster} (ahead : (s.rest p)[n]? = some c) :
    p + n < s.length := by
  have := (List.getElem?_eq_some_iff.mp ahead).1
  rw [length_rest] at this
  omega

/-- A cursor that is not exhausted reads the cluster at its position. -/
theorem start_reading (bound : p ≤ s.length) :
    Reading.start { source := s, position := p } = s.reading p := by
  have read : (s.cursor p).next = (s.clusterAt p, s.cursor (p + 1)) := advance_cursor rfl bound
  rw [Reading.start, ← cursor, read]
  rfl

/-- An exhausted cursor reads the sentinel and stays. -/
theorem start_exhausted :
    Reading.start { source := s, position := s.length + 1 } = s.reading s.length := by
  have read : (s.cursor (s.length + 1)).next = (s.clusterAt s.length, s.cursor (s.length + 1)) := by
    rw [Cursor.next, advance_beyond (Nat.lt_succ_self _), clusterAt_behind (Nat.le_refl _)]
  have place : { source := s, position := s.length + 1 } = s.cursor (s.length + 1) := rfl
  rw [Reading.start, place, read]
  rfl

@[simp] theorem next_reading (inside : p < s.length) : (s.reading p).next = s.reading (p + 1) :=
  start_reading (p := p + 1) inside

@[simp] theorem next_exhausted : (s.reading s.length).next = s.reading s.length :=
  start_exhausted

/-- Reading several clusters on, as far as the sentinel. -/
theorem advance_reading {n : Nat} (bound : p + n ≤ s.length) :
    (s.reading p).advance n = s.reading (p + n) := by
  have read : (s.cursor (p + 1)).advance n = (s.clusterAt (p + n : Nat), s.cursor (p + n + 1)) :=
    advance_cursor (Nat.add_right_comm p 1 n) bound
  have place : (s.reading p).cursor = s.cursor (p + 1) := rfl
  rw [Reading.advance, place, read]
  rfl

theorem rewind_reading :
    (s.reading p).cursor.rewind 1 = { source := s, position := p } := by
  simp only [reading, Cursor.rewind, Int.add_sub_cancel]

theorem cap_reading :
    (s.reading p).cursor.cap = { source := s, position := (min (p + 1) s.length : Nat) } := by
  have stop : min ((p : Int) + 1) s.length = ((min (p + 1) s.length : Nat) : Int) := by omega
  simp only [reading, Cursor.cap, Cursor.length, stop]

theorem textUntil_reading {n : Nat} (bound : p + n ≤ s.length) :
    (s.reading p).textUntil (s.reading (p + n)) = Cluster.joinText ((s.rest p).take n) := by
  rw [Reading.textUntil, index_reading, index_reading]
  exact slice_rest bound

/-! ## Loops -/

/-- The loop of a span reads over the clusters that it is to read over.  It stops at the sentinel,
so it may be cut short at the end of the text but not before. -/
theorem spanWithin_reading {keep : Cluster → Bool} (stops : keep s.sentinel = false) (fuel : Nat)
    (bound : p ≤ s.length) (enough : s.length ≤ p + fuel) :
    (s.reading p).spanWithin keep fuel =
      ((s.rest p).takeWhile keep, s.reading (p + ((s.rest p).takeWhile keep).length)) := by
  induction fuel generalizing p with
  | zero =>
    -- the fuel is used up at the end of the text at the earliest
    obtain ⟨_, empty⟩ | ⟨inside, _⟩ := s.rest_cases p bound
    · simp [Reading.spanWithin, empty]
    · omega
  | succ fuel ih =>
    obtain ⟨_, empty⟩ | ⟨inside, c, _, split⟩ := s.rest_cases p bound
    · simp [Reading.spanWithin, current_reading, empty, stops]
    · have current : (s.reading p).current = c := by simp [current_reading, split]
      cases kept : keep c with
      | false => simp [Reading.spanWithin, current, kept, split]
      | true =>
        simp only [Reading.spanWithin, current, kept, if_true, next_reading inside, split,
          List.takeWhile_cons_of_pos, List.length_cons]
        rw [ih (by omega) (by omega), Nat.add_right_comm, Nat.add_assoc]

theorem span_reading {keep : Cluster → Bool} (stops : keep s.sentinel = false)
    (bound : p ≤ s.length) :
    (s.reading p).span keep =
      ((s.rest p).takeWhile keep, s.reading (p + ((s.rest p).takeWhile keep).length)) := by
  apply spanWithin_reading stops _ bound
  simp only [Cursor.remaining, Cursor.length, reading]
  omega

/-- A loop that stops at nothing but the sentinel reads the whole text. -/
theorem span_rest {keep : Cluster → Bool} (stops : keep s.sentinel = false)
    (keeps : ∀ c, c ≠ s.sentinel → keep c = true) (bound : p ≤ s.length) :
    (s.reading p).span keep = (s.rest p, s.reading s.length) := by
  have whole : (s.rest p).takeWhile keep = s.rest p :=
    List.takeWhile_eq_self_iff.mpr fun c member => keeps c (ne_sentinel_of_mem member)
  rw [span_reading stops bound, whole, length_rest, Nat.add_sub_cancel' bound]

end Source

end LiteralLexer
