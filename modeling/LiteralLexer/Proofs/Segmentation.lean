import LiteralLexer.Cluster.Segmentation
import LiteralLexer.Proofs.Cluster

/-!
# Boundaries that are certain

Most boundaries between clusters depend on what stands before them.  Some do not: a line feed
stands alone unless a carriage return takes it in, a NUL always stands alone, and between two
characters of ASCII there is always a boundary, apart from that same pair.  So texts that are put
together with a line feed between them keep their clusters (`Cluster.ofText_append_lineFeed`), a text
with a NUL has it as a cluster (`Cluster.single_nul_mem_segment`), and a text of ASCII without carriage
returns is cut into its characters (`Cluster.segment_plain`).
-/

namespace LiteralLexer

/-! ## Classes -/

/-- A character of ASCII other than the carriage return. -/
structure Plain (c : Char) : Prop where
  ascii : c.toNat < 0x80
  notReturn : c ≠ '\r'

instance (c : Char) : Decidable (Plain c) :=
  decidable_of_iff (c.toNat < 0x80 ∧ c ≠ '\r')
    ⟨fun plain => ⟨plain.1, plain.2⟩, fun plain => ⟨plain.1, plain.2⟩⟩

namespace BreakClass

theorem eq_return_of_toNat {c : Char} (code : c.toNat = 0x0D) : c = '\r' :=
  Char.ext (UInt32.toNat_inj.mp code)

/-- Outside ASCII no test answers with the class of a carriage return or a line feed. -/
theorem ascii_of_lineEnd {c : Char}
    (ends : BreakClass.of c = .carriageReturn ∨ BreakClass.of c = .lineFeed) : c.toNat < 0x80 := by
  refine Decidable.byContradiction fun wide => ?_
  have either {p : Prop} [Decidable p] {x y : BreakClass}
      (left : ¬ (x = .carriageReturn ∨ x = .lineFeed))
      (right : ¬ (y = .carriageReturn ∨ y = .lineFeed)) :
      ¬ ((if p then x else y) = .carriageReturn ∨ (if p then x else y) = .lineFeed) := by
    split <;> assumption
  revert ends
  simp only [BreakClass.of, wide, if_false]
  repeat' apply either
  all_goals decide

theorem eq_return {c : Char} (returns : BreakClass.of c = .carriageReturn) : c = '\r' :=
  Unicode.forall_code (p := fun c => BreakClass.of c = .carriageReturn → c = '\r') (by decide)
    (ascii_of_lineEnd (.inl returns)) returns

theorem eq_lineFeed {c : Char} (feeds : BreakClass.of c = .lineFeed) : c = '\n' :=
  Unicode.forall_code (p := fun c => BreakClass.of c = .lineFeed → c = '\n') (by decide)
    (ascii_of_lineEnd (.inr feeds)) feeds

theorem of_plain {c : Char} (plain : Plain c) :
    BreakClass.of c = .lineFeed ∨ BreakClass.of c = .control ∨ BreakClass.of c = .other := by
  have code : c.toNat ≠ 0x0D := fun code => plain.notReturn (eq_return_of_toNat code)
  simp only [BreakClass.of, plain.ascii, code, if_true, if_false]
  split
  · exact .inl rfl
  · split
    · exact .inr (.inl rfl)
    · exact .inr (.inr rfl)

end BreakClass

namespace Boundary

theorem joins_lineFeed {b : Boundary} (inner : b.last ≠ .carriageReturn) :
    b.joins '\n' = false := by
  obtain ⟨last, _, _, _⟩ := b
  cases last with
  | carriageReturn => contradiction
  | _ => rfl

theorem start_lineFeed_joins (c : Char) : (start '\n').joins c = false := rfl

theorem joins_nul (b : Boundary) : b.joins '\x00' = false := by
  obtain ⟨last, _, _, _⟩ := b
  cases last <;> rfl

theorem start_nul_joins (c : Char) : (start '\x00').joins c = false := rfl

theorem start_joins_plain {c d : Char} (left : Plain c) (right : Plain d) :
    (start c).joins d = false := by
  -- a cluster that has just begun has neither linker nor joiner in it
  have unlinked : (start c).conjunct ≠ .linked := by
    simp only [start]
    split <;> simp
  have unjoined : (start c).emoji ≠ .joined := by
    simp only [start]
    split <;> simp
  have last : (start c).last = .of c := rfl
  simp only [joins, last]
  rcases BreakClass.of_plain left with here | here | here <;>
    rcases BreakClass.of_plain right with next | next | next <;>
    simp [here, next, joinsHangul, unlinked, unjoined]

end Boundary

/-! ## Segmentation -/

namespace Cluster

/-- Where the next code point does not join, the clusters start over. -/
theorem segmentFrom_of_not_joins {b : Boundary} {c : Char} (apart : b.joins c = false)
    (cs : List Char) : segmentFrom b (c :: cs) = ([], segment (c :: cs)) := by
  simp [segmentFrom, segment, apart]

/-- What takes in no code point behind it is a cluster of its own at the beginning of a text. -/
theorem segment_cons_of_alone {c : Char} (alone : ∀ d, (Boundary.start c).joins d = false)
    (cs : List Char) : segment (c :: cs) = single c :: segment cs := by
  cases cs with
  | nil => rfl
  | cons d cs =>
    rw [segment, segmentFrom_of_not_joins (alone d)]
    rfl

theorem segment_lineFeed (cs : List Char) :
    segment ('\n' :: cs) = single '\n' :: segment cs :=
  segment_cons_of_alone Boundary.start_lineFeed_joins cs

theorem single_nul_mem_segmentFrom {b : Boundary} {cs : List Char} (present : '\x00' ∈ cs) :
    single '\x00' ∈ (segmentFrom b cs).2 := by
  induction cs generalizing b with
  | nil => contradiction
  | cons c cs ih =>
    rcases List.mem_cons.mp present with rfl | later
    · rw [segmentFrom_of_not_joins (Boundary.joins_nul b), segment_cons_of_alone Boundary.start_nul_joins]
      exact List.mem_cons_self
    · rw [segmentFrom]
      split
      · exact ih later
      · exact List.mem_cons_of_mem _ (ih later)

/-- A text with a NUL has it as a cluster. -/
theorem single_nul_mem_segment {cs : List Char} (present : '\x00' ∈ cs) :
    single '\x00' ∈ segment cs := by
  cases cs with
  | nil => contradiction
  | cons c cs =>
    rcases List.mem_cons.mp present with rfl | later
    · rw [segment_cons_of_alone Boundary.start_nul_joins]
      exact List.mem_cons_self
    · exact List.mem_cons_of_mem _ (single_nul_mem_segmentFrom later)

/-- A line feed ends the cluster before it. -/
theorem segmentFrom_append_lineFeed {b : Boundary} {cs : List Char}
    (first : cs = [] → b.last ≠ .carriageReturn) (inner : cs.getLast? ≠ some '\r')
    (rest : List Char) :
    segmentFrom b (cs ++ '\n' :: rest) =
      ((segmentFrom b cs).1, (segmentFrom b cs).2 ++ segment ('\n' :: rest)) := by
  induction cs generalizing b with
  | nil =>
    rw [List.nil_append, segmentFrom_of_not_joins (Boundary.joins_lineFeed (first rfl))]
    rfl
  | cons c cs ih =>
    have last : cs = [] → BreakClass.of c ≠ .carriageReturn := by
      rintro rfl returns
      exact inner (by rw [BreakClass.eq_return returns]; rfl)
    have others : cs.getLast? ≠ some '\r' := by
      intro ends
      exact inner (by rw [List.getLast?_cons, ends]; rfl)
    -- whether `c` continues the cluster or not, it is the last code point before `cs`
    rw [List.cons_append, segmentFrom, segmentFrom]
    split
    · rw [ih (b := b.push c) last others]
    · rw [ih (b := .start c) last others]
      rfl

theorem segment_append_lineFeed {cs : List Char} (inner : cs.getLast? ≠ some '\r')
    (rest : List Char) :
    segment (cs ++ '\n' :: rest) = segment cs ++ single '\n' :: segment rest := by
  rw [← segment_lineFeed]
  cases cs with
  | nil => rfl
  | cons c cs =>
    have last : cs = [] → (Boundary.start c).last ≠ .carriageReturn := by
      rintro rfl returns
      exact inner (by rw [BreakClass.eq_return returns]; rfl)
    have others : cs.getLast? ≠ some '\r' := by
      intro ends
      exact inner (by rw [List.getLast?_cons, ends]; rfl)
    rw [List.cons_append, segment, segmentFrom_append_lineFeed last others]
    rfl

/-- A line feed between two texts keeps their clusters apart, unless the first ends in a carriage
return. -/
theorem ofText_append_lineFeed {text : String} (inner : text.toList.getLast? ≠ some '\r')
    (more : String) :
    ofText (text ++ "\n" ++ more) = ofText text ++ single '\n' :: ofText more := by
  rw [ofText, ofText, ofText, ← segment_append_lineFeed inner]
  simp

/-! ### Parts of a text -/

/-- Behind a cluster the clusters start over. -/
theorem segmentFrom_snd (b : Boundary) (cs : List Char) :
    (segmentFrom b cs).2 = segment (cs.drop (segmentFrom b cs).1.length) := by
  induction cs generalizing b with
  | nil => rfl
  | cons c cs ih =>
    cases joined : b.joins c with
    | true =>
      rw [segmentFrom, if_pos joined]
      exact ih (b.push c)
    | false =>
      rw [segmentFrom_of_not_joins joined]
      rfl

/-- A cluster ends where it ends, however much of what follows is there. -/
theorem segmentFrom_append {b : Boundary} {tail cs rest : List Char}
    (ends : (segmentFrom b (tail ++ (cs ++ rest))).1 = tail) :
    segmentFrom b (tail ++ cs) = (tail, segment cs) := by
  induction tail generalizing b with
  | nil =>
    cases cs with
    | nil => rfl
    | cons c cs =>
      have apart : b.joins c = false := by
        cases joined : b.joins c with
        | false => rfl
        | true => simp [segmentFrom, joined] at ends
      exact segmentFrom_of_not_joins apart cs
  | cons c tail ih =>
    rw [List.cons_append, segmentFrom] at ends
    rw [List.cons_append, segmentFrom]
    split at ends
    · next joined =>
      rw [if_pos joined, ih (List.cons.inj ends).2]
    · contradiction

/-- The first cluster of a text, and the others. -/
theorem segment_toList_append {c : Cluster} {cs : List Char} {more : List Cluster}
    (cut : segment (c.toList ++ cs) = c :: more) :
    (segmentFrom (.start c.head) (c.tail ++ cs)).1 = c.tail ∧ segment cs = more := by
  obtain ⟨first, others⟩ := List.cons.inj cut
  have ends : (segmentFrom (.start c.head) (c.tail ++ cs)).1 = c.tail := congrArg Cluster.tail first
  have behind := segmentFrom_snd (.start c.head) (c.tail ++ cs)
  rw [ends, List.drop_left] at behind
  exact ⟨ends, behind.symm.trans others⟩

theorem segment_join_append {run more : List Cluster} {rest : List Char}
    (cut : segment (join run ++ rest) = run ++ more) : segment (join run) = run := by
  induction run with
  | nil => rfl
  | cons c run ih =>
    rw [join_cons, List.append_assoc, List.cons_append] at cut
    obtain ⟨ends, others⟩ := segment_toList_append cut
    have first := segmentFrom_append ends
    rw [ih others] at first
    rw [join_cons, toList, List.cons_append, segment, first]

/-- Some of the clusters of a text, one behind the other, are the clusters of their own text. -/
theorem segment_join_of_isInfix {cs : List Char} {run : List Cluster} (inside : run <:+: segment cs) :
    segment (join run) = run := by
  obtain ⟨lead, more, split⟩ := inside
  rw [List.append_assoc] at split
  have cut : segment (join (lead ++ (run ++ more))) = lead ++ (run ++ more) := by
    rw [split, join_segment]
  clear split
  induction lead with
  | nil =>
    rw [List.nil_append, join_append] at cut
    exact segment_join_append cut
  | cons c lead ih => exact ih (segment_toList_append cut).2

/-! ### Texts of ASCII -/

theorem join_map_single (cs : List Char) : join (cs.map single) = cs := by
  simp [join, List.flatMap_map]

/-- Clusters of one character each are the characters of their text. -/
theorem map_single_join {cs : List Cluster} (alone : ∀ c ∈ cs, c = single c.head) :
    (join cs).map single = cs := by
  induction cs with
  | nil => rfl
  | cons c cs ih =>
    obtain ⟨first, others⟩ := List.forall_mem_cons.mp alone
    rw [join_cons, List.map_append, ih others, first]
    rfl

theorem segment_plain {cs : List Char} (plain : ∀ c ∈ cs, Plain c) :
    segment cs = cs.map single := by
  induction cs with
  | nil => rfl
  | cons c cs ih =>
    obtain ⟨first, others⟩ := List.forall_mem_cons.mp plain
    cases cs with
    | nil => rfl
    | cons d cs =>
      have apart := Boundary.start_joins_plain first (others d List.mem_cons_self)
      rw [segment, segmentFrom_of_not_joins apart, ih others]
      rfl

end Cluster

end LiteralLexer
