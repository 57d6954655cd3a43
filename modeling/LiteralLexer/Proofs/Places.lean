import LiteralLexer.Diagnostic.Report
import LiteralLexer.Proofs.Lexer.Run
import LiteralLexer.Proofs.Location
import LiteralLexer.Proofs.Segmentation
import LiteralLexer.Source.Cursor
import Mathlib.Algebra.BigOperators.Group.List.Basic
import Mathlib.Algebra.GroupWithZero.Nat
import Mathlib.Data.List.Induction

/-!
# Places and lines agree

A place is found by walking over a text and counting; the lines of a report are found by cutting the text.
`locationAt_lines` says that the two agree about every place of every text, so a place can be looked up among
the lines, and counted back from them.

Both ways keep the same two things of what they have passed: the lines that are closed, and the line that is
still open.  `Passed` is what they have in common, and it is kept from one cluster to the next
(`Passed.newline`, `Passed.inner`).
-/

namespace LiteralLexer

/-! ## Closed lines and the open line -/

/-- What was passed of a text: the lines that are closed, and the line that goes on with what follows. -/
structure Passed (lead : List Cluster) (closed : List (List Cluster)) (last : List Cluster) : Prop where
  lines : ∀ {cs first more}, linesOf cs = first :: more →
    linesOf (lead ++ cs) = closed ++ (last ++ first) :: more
  place : Location.behind lead = ⟨closed.length + 1, last.length + 1, lead.length⟩
  length : lead.length = (closed.map (·.length + 1)).sum + last.length

namespace Passed

variable {lead : List Cluster} {closed : List (List Cluster)} {last : List Cluster} {c : Cluster}

theorem nil : Passed [] [] [] where
  lines := id
  place := rfl
  length := rfl

/-- The place behind one more cluster. -/
theorem behind_concat (lead : List Cluster) (c : Cluster) :
    Location.behind (lead ++ [c]) = (Location.behind lead).after c := by
  rw [Location.behind, List.foldl_append]
  rfl

/-- A newline closes the open line. -/
theorem newline (passed : Passed lead closed last) (newline : c.isNewline = true) :
    Passed (lead ++ [c]) (closed ++ [last]) [] where
  lines := by
    intro cs first more split
    have next : linesOf (c :: cs) = [] :: first :: more := by rw [linesOf_cons_newline newline, split]
    rw [List.append_assoc, List.singleton_append, passed.lines next]
    simp
  place := by
    rw [behind_concat, passed.place, Location.after, if_pos newline]
    simp
  length := by
    rw [List.length_append, passed.length]
    simp
    omega

/-- Any other cluster makes the open line longer. -/
theorem inner (passed : Passed lead closed last) (inner : c.isNewline = false) :
    Passed (lead ++ [c]) closed (last ++ [c]) where
  lines := by
    intro cs first more split
    obtain ⟨first', more', split', next⟩ := exists_linesOf_cons inner cs
    obtain ⟨rfl, rfl⟩ : first' = first ∧ more' = more := by
      rw [split] at split'
      exact ⟨(List.cons.inj split').1.symm, (List.cons.inj split').2.symm⟩
    rw [List.append_assoc, List.singleton_append, passed.lines next]
    simp
  place := by
    rw [behind_concat, passed.place, Location.after, inner]
    simp
  length := by
    rw [List.length_append, passed.length]
    simp
    omega

end Passed

theorem exists_passed (lead : List Cluster) : ∃ closed last, Passed lead closed last := by
  induction lead using List.reverseRecOn with
  | nil => exact ⟨[], [], .nil⟩
  | append_singleton lead c ih =>
    obtain ⟨closed, last, passed⟩ := ih
    cases newline : c.isNewline with
    | true => exact ⟨_, _, passed.newline newline⟩
    | false => exact ⟨_, _, passed.inner newline⟩

/-! ## Places among lines -/

/-- A line and a column, counted from 1, are those of a place among the lines of a text.  The newline that
ends a line stands behind its last column. -/
structure PlacedAmong (cs : List Cluster) (lines : List (List Cluster)) (line column offset : Nat) : Prop where
  line_pos : 1 ≤ line
  line_le : line ≤ lines.length
  column_pos : 1 ≤ column
  column_le : column ≤ lines[line - 1].length + 1
  offset_eq : offset = ((lines.take (line - 1)).map (·.length + 1)).sum + (column - 1)
  inner : ∀ c, cs[offset]? = some c → c.isNewline = false → lines[line - 1][column - 1]? = some c
  newline : ∀ c, cs[offset]? = some c → c.isNewline = true → column - 1 = lines[line - 1].length

/-- One place before another one, by lines and then by columns. -/
def Location.Precedes (l m : Location) : Prop :=
  l.line < m.line ∨ l.line = m.line ∧ l.column < m.column

/-- What stands behind the clusters that were passed is found at the end of the open line. -/
theorem Passed.placedAmong {lead : List Cluster} {closed : List (List Cluster)} {last : List Cluster}
    (passed : Passed lead closed last) (cs : List Cluster) :
    PlacedAmong (lead ++ cs) (linesOf (lead ++ cs)) (closed.length + 1) (last.length + 1)
      lead.length := by
  obtain ⟨first, more, split⟩ := List.exists_cons_of_ne_nil (List.splitOnP_ne_nil Cluster.isNewline cs)
  have lines : linesOf (lead ++ cs) = closed ++ (last ++ first) :: more := passed.lines split
  have behind : ∀ c, (lead ++ cs)[lead.length]? = some c → ∃ rest, cs = c :: rest := by
    intro c here
    cases cs with
    | nil => simp at here
    | cons d rest => exact ⟨rest, by rw [show d = c by simpa using here]⟩
  have line_le : closed.length + 1 ≤ (linesOf (lead ++ cs)).length := by simp [lines]
  have content : (linesOf (lead ++ cs))[closed.length + 1 - 1] = last ++ first := by simp [lines]
  refine ⟨Nat.le_add_left 1 _, line_le, Nat.le_add_left 1 _, ?_, ?_, ?_, ?_⟩
  · rw [content, List.length_append]
    omega
  · rw [passed.length, lines]
    simp
  · intro c here inner
    obtain ⟨rest, rfl⟩ := behind c here
    obtain ⟨first', more', _, joined⟩ := exists_linesOf_cons inner rest
    obtain ⟨rfl, _⟩ := List.cons.inj (split.symm.trans joined)
    rw [content]
    simp
  · intro c here newline
    obtain ⟨rest, rfl⟩ := behind c here
    obtain ⟨rfl, _⟩ := List.cons.inj (split.symm.trans (linesOf_cons_newline newline rest))
    rw [content]
    simp

theorem exists_placedAmong {cs : List Cluster} {i : Nat} (inside : i ≤ cs.length) :
    ∃ line column : Nat, locationAt cs i = ⟨line, column, i⟩ ∧
      PlacedAmong cs (linesOf cs) line column i := by
  obtain ⟨closed, last, passed⟩ := exists_passed (cs.take i)
  have size : (cs.take i).length = i := List.length_take_of_le inside
  have placed := passed.placedAmong (cs.drop i)
  rw [List.take_append_drop, size] at placed
  have place : locationAt cs i = Location.behind (cs.take i) := rfl
  refine ⟨closed.length + 1, last.length + 1, ?_, placed⟩
  rw [place, passed.place, size]
  rfl

/-! ## The order of places -/

namespace PlacedAmong

variable {cs : List Cluster} {lines : List (List Cluster)}
  {line column offset line' column' offset' : Nat}

/-- A place in a line comes before the lines behind it. -/
theorem offset_lt_of_line_lt (placed : PlacedAmong cs lines line column offset) (behind : line < line') :
    offset < ((lines.take (line' - 1)).map (·.length + 1)).sum := by
  have below := placed.line_pos
  have inside := placed.line_le
  have size : line - 1 < lines.length := by omega
  have closes := placed.column_le
  have right := placed.column_pos
  -- the lines before `line'` begin with those before `line` and `line` itself
  obtain ⟨more, split⟩ : ∃ more, line' - 1 = line - 1 + 1 + more := ⟨line' - 1 - line, by omega⟩
  rw [split, List.take_add, List.map_append, List.sum_append, List.take_succ_eq_append_getElem size,
    List.map_append, List.sum_append, List.map_singleton, List.sum_singleton, placed.offset_eq]
  omega

theorem line_le_of_offset_lt (placed : PlacedAmong cs lines line column offset)
    (other : PlacedAmong cs lines line' column' offset') (before : offset < offset') : line ≤ line' := by
  apply Nat.le_of_not_lt
  intro behind
  have after := other.offset_lt_of_line_lt behind
  have counted := placed.offset_eq
  omega

/-- Places that come later in a text come later by lines and columns. -/
theorem precedes (placed : PlacedAmong cs lines line column offset)
    (other : PlacedAmong cs lines line' column' offset') (before : offset < offset') :
    line < line' ∨ line = line' ∧ column < column' := by
  rcases Nat.lt_or_eq_of_le (placed.line_le_of_offset_lt other before) with earlier | rfl
  · exact .inl earlier
  · have counted := placed.offset_eq
    have counted' := other.offset_eq
    exact .inr ⟨rfl, by omega⟩

end PlacedAmong

/-! ## Lines as texts -/

/-- The first line begins a text, and the others lie within it. -/
theorem exists_prefix_linesOf (cs : List Cluster) :
    ∃ first more, linesOf cs = first :: more ∧ first <+: cs ∧ ∀ line ∈ more, line <:+: cs := by
  induction cs with
  | nil => exact ⟨[], [], rfl, List.prefix_rfl, nofun⟩
  | cons c cs ih =>
    obtain ⟨first, more, split, starts, inside⟩ := ih
    have rest : cs <:+: c :: cs := (List.suffix_cons c cs).isInfix
    have inside' : ∀ line ∈ more, line <:+: c :: cs :=
      fun line member => (inside line member).trans rest
    cases newline : c.isNewline with
    | true =>
      refine ⟨[], first :: more, by rw [linesOf_cons_newline newline, split], List.nil_prefix, ?_⟩
      exact List.forall_mem_cons.mpr ⟨starts.isInfix.trans rest, inside'⟩
    | false =>
      obtain ⟨first', more', split', joined⟩ := exists_linesOf_cons newline cs
      obtain ⟨rfl, rfl⟩ := List.cons.inj (split.symm.trans split')
      exact ⟨c :: first, more, joined, (List.prefix_cons_inj c).mpr starts, inside'⟩

/-- The text of a line has the clusters of the line. -/
theorem Cluster.ofText_line {text : String} {line : List Cluster} (member : line ∈ linesOf (ofText text)) :
    ofText (joinText line) = line := by
  obtain ⟨first, more, split, starts, inside⟩ := exists_prefix_linesOf (ofText text)
  have within : line <:+: ofText text := by
    rw [split] at member
    rcases List.mem_cons.mp member with rfl | later
    · exact starts.isInfix
    · exact inside line later
  rw [ofText, joinText, String.toList_ofList]
  exact segment_join_of_isInfix within

theorem Source.clusters_of_ofText {text sentinel : String} {s : Source}
    (read : ofText text sentinel = .ok s) : s.clusters.toList = Cluster.ofText text := by
  cases alone : Cluster.ofText? sentinel with
  | none => simp [ofText, alone] at read
  | some mark => exact (of_ofText alone read).1

/-- An index outside a text is held at its nearest end. -/
theorem locationAt_clamp (cs : List Cluster) (index : Int) :
    locationAt cs index = locationAt cs (max 0 (min index cs.length)) := by
  have held : (max 0 (min index cs.length)).toNat = min index.toNat cs.length := by omega
  rw [locationAt, locationAt, held, ← List.take_eq_take_min]

/-- Places and lines agree about every text: the lines are those of reports, each with the clusters of its
text, and the places those that cursors tell.  Every index up to the length of the text has a place among the
lines, places keep the order of their indices, and other indices have the place of the nearest end. -/
theorem locationAt_lines (text : String) :
    let clusters := Cluster.ofText text
    let lines := Cluster.lines clusters
    (Snippet.sourceLines text = lines.map Cluster.joinText ∧
        ∀ line ∈ lines, Cluster.ofText (Cluster.joinText line) = line) ∧
      (∀ (cursor : Cursor) (sentinel : String), Source.ofText text sentinel = .ok cursor.source →
        ∀ index, cursor.locationAt index = locationAt clusters index) ∧
      (∀ i : Nat, i ≤ clusters.length → ∃ line column : Nat,
        locationAt clusters i = ⟨line, column, i⟩ ∧ PlacedAmong clusters lines line column i) ∧
      (∀ i j : Nat, i < j → j ≤ clusters.length →
        (locationAt clusters i).Precedes (locationAt clusters j)) ∧
      (∀ i j : Nat, i ≤ clusters.length → j ≤ clusters.length →
        locationAt clusters i = locationAt clusters j → i = j) ∧
      ∀ index : Int, locationAt clusters index = locationAt clusters (max 0 (min index clusters.length)) := by
  intro clusters lines
  have cut : lines = linesOf clusters := Cluster.lines_eq clusters
  rw [cut]
  have among {i : Nat} (inside : i ≤ clusters.length) := exists_placedAmong inside
  refine ⟨⟨by rw [← cut]; rfl, fun _ => Cluster.ofText_line⟩, ?_, fun _ => among, ?_, ?_,
    locationAt_clamp clusters⟩
  · intro cursor sentinel read index
    rw [Cursor.locationAt, Source.locationAt, Source.clusters_of_ofText read]
  · intro i j before inside
    obtain ⟨line, column, here, placed⟩ := among (i := i) (by omega)
    obtain ⟨line', column', there, other⟩ := among inside
    have order := placed.precedes other before
    simp only [here, there, Location.Precedes]
    omega
  · intro i j inside inside' same
    obtain ⟨_, _, here, _⟩ := among inside
    obtain ⟨_, _, there, _⟩ := among inside'
    have offset := congrArg Location.offset (here.symm.trans (same.trans there))
    exact Int.ofNat_inj.mp offset

/-- Behind a line that a carriage return and a line feed end together, and an empty line. -/
theorem locationAt_lines_return :
    let clusters := Cluster.ofText "a\r\n\nb\u2028"
    3 ≤ clusters.length ∧ PlacedAmong clusters (Cluster.lines clusters) 3 1 3 := by
  intro clusters
  have inside : 3 ≤ clusters.length := by decide +kernel
  have here : locationAt clusters 3 = ⟨3, 1, 3⟩ := by decide +kernel
  obtain ⟨line, column, place, placed⟩ := (locationAt_lines "a\r\n\nb\u2028").2.2.1 3 inside
  have same := Location.mk.inj (here.symm.trans place)
  obtain rfl : line = 3 := by omega
  obtain rfl : column = 1 := by omega
  exact ⟨inside, placed⟩

end LiteralLexer
