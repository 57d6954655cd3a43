import LiteralLexer.Location

/-!
# Places of a text

A text that stands behind another one has its places moved: what was in its first line goes on with
the line that the other text leaves open, and what was in a later line keeps its column.
`Location.plus` is this move, and `locationAt_append` says that the places of a text are moved by it.

The lines of a text are what lies between its newlines (`Cluster.lines_eq_splitOnP`), and a place that
was found by walking over the text is found again by counting lines, and in its line columns
(`standsAt_locationAt`).
-/

namespace LiteralLexer

namespace Location

/-- The place of what is at the place `l` of a text that begins at `start`. -/
def plus (start l : Location) : Location where
  line := start.line + (l.line - 1)
  column := if l.line = 1 then start.column + (l.column - 1) else l.column
  offset := start.offset + l.offset

theorem plus_origin (start : Location) : start.plus origin = start := by
  obtain ⟨line, column, offset⟩ := start
  simp [plus, origin]

theorem line_le_after (l : Location) (c : Cluster) : l.line ≤ (l.after c).line := by
  unfold after
  split
  · exact Int.le_add_of_nonneg_right (by decide)
  · exact Int.le_refl _

/-- Walking on and moving can be exchanged. -/
theorem after_plus (start : Location) {l : Location} (below : 1 ≤ l.line) (c : Cluster) :
    (start.plus l).after c = start.plus (l.after c) := by
  cases newline : c.isNewline with
  | true =>
    have later : l.line + 1 ≠ 1 := by omega
    simp only [after, newline, if_true, plus, later, if_false, Location.mk.injEq, true_and]
    omega
  | false =>
    simp only [after, newline, plus, Bool.false_eq_true, if_false, Location.mk.injEq]
    refine ⟨trivial, ?_, by omega⟩
    split
    · omega
    · rfl

theorem foldl_after_plus (start : Location) {l : Location} (below : 1 ≤ l.line)
    (cs : List Cluster) :
    cs.foldl after (start.plus l) = start.plus (cs.foldl after l) := by
  induction cs generalizing l with
  | nil => rfl
  | cons c cs ih =>
    rw [List.foldl_cons, List.foldl_cons, after_plus start below]
    exact ih (Int.le_trans below (line_le_after l c))

theorem foldl_after_line (l : Location) (cs : List Cluster) :
    (cs.foldl after l).line = l.line + cs.countP Cluster.isNewline := by
  induction cs generalizing l with
  | nil => simp
  | cons c cs ih =>
    rw [List.foldl_cons, ih]
    cases newline : c.isNewline <;> simp [after, newline]
    omega

theorem foldl_after_offset (l : Location) (cs : List Cluster) :
    (cs.foldl after l).offset = l.offset + cs.length := by
  induction cs generalizing l with
  | nil => simp
  | cons c cs ih =>
    have step : (l.after c).offset = l.offset + 1 := by
      unfold after
      split <;> rfl
    rw [List.foldl_cons, ih, step, List.length_cons]
    omega

theorem foldl_after_column {l : Location} (right : 1 ≤ l.column) (cs : List Cluster) :
    1 ≤ (cs.foldl after l).column := by
  induction cs generalizing l with
  | nil => exact right
  | cons c cs ih =>
    refine ih ?_
    unfold after
    split
    · exact Int.le_refl 1
    · exact Int.le_add_one right

end Location

/-- The place behind a text. -/
def Location.behind (cs : List Cluster) : Location := cs.foldl after origin

theorem locationAt_append (lead cs : List Cluster) (q : Nat) :
    locationAt (lead ++ cs) ((lead.length + q : Nat) : Int) =
      (Location.behind lead).plus (locationAt cs q) := by
  simp only [locationAt, Int.toNat_natCast, List.take_length_add_append, List.foldl_append]
  rw [← Location.foldl_after_plus _ (Int.le_refl 1), Location.plus_origin, Location.behind]

/-- Behind a newline begins a line. -/
theorem Location.behind_newline (cs : List Cluster) {c : Cluster} (newline : c.isNewline = true) :
    Location.behind (cs ++ [c]) = ⟨cs.countP Cluster.isNewline + 2, 1, cs.length + 1⟩ := by
  have line := foldl_after_line origin cs
  have offset := foldl_after_offset origin cs
  rw [behind, List.foldl_append, List.foldl_cons, List.foldl_nil, after, if_pos newline, line, offset]
  simp only [origin, Location.mk.injEq, true_and]
  omega

/-- What follows a newline keeps its columns. -/
theorem Location.behind_newline_plus (cs : List Cluster) {c : Cluster} (newline : c.isNewline = true)
    (l : Location) :
    (behind (cs ++ [c])).plus l =
      ⟨l.line + cs.countP Cluster.isNewline + 1, l.column, l.offset + cs.length + 1⟩ := by
  simp only [behind_newline cs newline, plus, Location.mk.injEq]
  refine ⟨by omega, ?_, by omega⟩
  split <;> omega

/-! ## Lines -/

/-- The lines of a text, without the newlines that end them. -/
def linesOf (cs : List Cluster) : List (List Cluster) := cs.splitOnP Cluster.isNewline

theorem linesOf_cons_newline {c : Cluster} (newline : c.isNewline = true) (cs : List Cluster) :
    linesOf (c :: cs) = [] :: linesOf cs := by
  rw [linesOf, List.splitOnP_cons_eq_if_modifyHead, if_pos newline, linesOf]

theorem exists_linesOf_cons {c : Cluster} (inner : c.isNewline = false) (cs : List Cluster) :
    ∃ first more, linesOf cs = first :: more ∧ linesOf (c :: cs) = (c :: first) :: more := by
  obtain ⟨first, more, split⟩ := List.exists_cons_of_ne_nil (List.splitOnP_ne_nil Cluster.isNewline cs)
  refine ⟨first, more, split, ?_⟩
  rw [linesOf, List.splitOnP_cons_eq_if_modifyHead, inner, split]
  rfl

theorem Cluster.lines_eq (cs : List Cluster) : Cluster.lines cs = linesOf cs := by
  induction cs with
  | nil => rfl
  | cons c cs ih =>
    cases newline : c.isNewline with
    | true => rw [linesOf_cons_newline newline, lines, if_pos newline, ih]
    | false =>
      obtain ⟨first, more, split, joined⟩ := exists_linesOf_cons newline cs
      rw [joined, lines, if_neg (by simp [newline]), ih, split]

/-- The cluster of a text at an offset is the one in a line and a column of it, both counted from 1. -/
structure StandsAt (cs : List Cluster) (c : Cluster) (line column offset : Nat) : Prop where
  offset : cs[offset]? = some c
  line_pos : 1 ≤ line
  column_pos : 1 ≤ column
  inLine : ∃ content, (linesOf cs)[line - 1]? = some content ∧ content[column - 1]? = some c

namespace StandsAt

variable {cs : List Cluster} {c d : Cluster} {line column offset : Nat}

theorem line_le (stands : StandsAt cs c line column offset) : line ≤ (linesOf cs).length := by
  obtain ⟨content, found, _⟩ := stands.inLine
  have inside := (List.getElem?_eq_some_iff.mp found).1
  have first := stands.line_pos
  omega

/-- A newline before a text moves everything to the next line. -/
theorem cons_newline (stands : StandsAt cs c line column offset) (newline : d.isNewline = true) :
    StandsAt (d :: cs) c (line + 1) column (offset + 1) where
  offset := by rw [List.getElem?_cons_succ, stands.offset]
  line_pos := Nat.le_add_left 1 line
  column_pos := stands.column_pos
  inLine := by
    obtain ⟨content, found, within⟩ := stands.inLine
    have next : line + 1 - 1 = (line - 1) + 1 := by have := stands.line_pos; omega
    refine ⟨content, ?_, within⟩
    rw [linesOf_cons_newline newline, next, List.getElem?_cons_succ, found]

/-- Another cluster before a text moves what is in the first line by one column. -/
theorem cons_inner (stands : StandsAt cs c line column offset) (inner : d.isNewline = false) :
    StandsAt (d :: cs) c line (if line = 1 then column + 1 else column) (offset + 1) where
  offset := by rw [List.getElem?_cons_succ, stands.offset]
  line_pos := stands.line_pos
  column_pos := by
    have := stands.column_pos
    split <;> omega
  inLine := by
    obtain ⟨content, found, within⟩ := stands.inLine
    obtain ⟨first, more, split, joined⟩ := exists_linesOf_cons inner cs
    rw [split] at found
    rw [joined]
    have below := stands.line_pos
    have right := stands.column_pos
    split
    · next only =>
      subst only
      cases found
      have next : column + 1 - 1 = (column - 1) + 1 := by omega
      exact ⟨d :: content, rfl, by rw [next, List.getElem?_cons_succ, within]⟩
    · have next : line - 1 = (line - 2) + 1 := by omega
      rw [next, List.getElem?_cons_succ] at found
      exact ⟨content, by rw [next, List.getElem?_cons_succ, found], within⟩

end StandsAt

/-- Walking over a text and counting its lines come to the same place. -/
theorem standsAt_locationAt {cs : List Cluster} {q : Nat} {c : Cluster} (here : cs[q]? = some c)
    (inner : c.isNewline = false) : ∃ line column : Nat,
      locationAt cs q = ⟨line, column, q⟩ ∧ StandsAt cs c line column q := by
  induction cs generalizing q with
  | nil => simp at here
  | cons d cs ih =>
    cases q with
    | zero =>
      obtain rfl : d = c := by simpa using here
      obtain ⟨first, more, _, joined⟩ := exists_linesOf_cons inner cs
      exact ⟨1, 1, rfl, here, Nat.le_refl 1, Nat.le_refl 1, d :: first, by simp [joined], rfl⟩
    | succ q =>
      obtain ⟨line, column, place, stands⟩ := ih (q := q) (by simpa using here)
      have moved := locationAt_append [d] cs q
      rw [List.length_singleton, Nat.add_comm 1 q, List.singleton_append, place] at moved
      have below := stands.line_pos
      have right := stands.column_pos
      cases newline : d.isNewline with
      | true =>
        refine ⟨line + 1, column, ?_, stands.cons_newline newline⟩
        have behind := Location.behind_newline_plus [] newline ⟨line, column, q⟩
        rw [List.nil_append] at behind
        rw [moved, behind]
        simp
      | false =>
        refine ⟨line, _, ?_, stands.cons_inner newline⟩
        have behind : Location.behind [d] = ⟨1, 2, 1⟩ := by
          simp [Location.behind, Location.after, newline, Location.origin]
        rw [moved, behind]
        simp only [Location.plus, Location.mk.injEq]
        refine ⟨by omega, ?_, by omega⟩
        split <;> split <;> omega

end LiteralLexer
