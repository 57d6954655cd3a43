import LiteralLexer.Diagnostic.Report
import LiteralLexer.Proofs.Diagnostic
import LiteralLexer.Proofs.Location
import LiteralLexer.Proofs.Result

/-!
# What a report looks like

A report on a place of a text is drawn for a fixed layout: `Report.layout` is that layout, from the
lines of the text, and `Diagnostic.report_eq` says that a diagnostic whose place lies in the text is
reported in it.  The heading shows the message without its place, which is taken off by its looks
(`Diagnostic.detail_eq`).
-/

namespace LiteralLexer

/-! ## The layout -/

namespace Report

/-- An empty row. -/
def margin (width : Nat) : String := " " ++ blanks width ++ " |"

/-- The row of a line, with its number at the right end of a field. -/
def row (width : Nat) (lines : List (List Cluster)) (number : Nat) : String :=
  " " ++ alignRight width (toString number) ++ " | " ++
    Cluster.joinText (lines[number - 1]?.getD [])

/-- The row that points to a column. -/
def caret (width column : Nat) : String := " " ++ blanks width ++ " | " ++ blanks (column - 1) ++ "^"

/-- The report on a place in a line: two lines before it and two lines after it, as far as there are so
many, and behind the line itself the caret.  The numbers are filled up to the width of the last one. -/
def layout (heading : String) (lines : List (List Cluster)) (line column : Nat) : String :=
  let first := max 1 (line - 2)
  let last := min lines.length (line + 2)
  let width := (toString last).length
  let body := (List.range' first (last + 1 - first)).flatMap fun number =>
    row width lines number :: if number = line then [caret width column] else []
  String.intercalate "\n" (heading :: ("  --> " ++ toString line ++ ":" ++ toString column) ::
    margin width :: body ++ [margin width])

theorem length_toString_le {n m : Nat} (le : n ≤ m) :
    (toString n).length ≤ (toString m).length := by
  have fits := (Nat.length_repr_le_iff (n := m) Nat.length_repr_pos).mp (Nat.le_refl _)
  exact (Nat.length_repr_le_iff Nat.length_repr_pos).mpr (Nat.lt_of_le_of_lt le fits)

/-- Every number up to the last one is filled up to the same width. -/
theorem length_alignRight {number last : Nat} (shown : number ≤ last) :
    (alignRight (toString last).length (toString number)).length = (toString last).length := by
  have fits := length_toString_le shown
  rw [alignRight, String.length_append, blanks, String.length_ofList, List.length_replicate]
  omega

end Report

/-! ## Drawing -/

namespace Snippet

variable {first last line column width : Nat} {offset : Int}

/-- The lines around a place, of a text that has the given lines. -/
def around (lines : List (List Cluster)) (line first last : Nat) : List SnippetLine :=
  (List.range' first (last + 1 - first)).map fun (number : Nat) =>
    { number
      content := Cluster.joinText (lines[number - 1]?.getD [])
      isErrorLine := decide (number = line) }

theorem numbered_eq (lines : List (List Cluster)) :
    numbered (lines.map Cluster.joinText) ⟨⟨line, column, offset⟩, ⟨line, column, offset⟩⟩ first last =
      around lines line first last := by
  have count : ((last : Int) - first + 1).toNat = last + 1 - first := by omega
  rw [numbered, around, count, List.range'_eq_map_range, List.map_map]
  refine List.map_congr_left fun i _ => ?_
  have index : ((first : Int) + i - 1).toNat = first + i - 1 := by omega
  have content : (lines.map Cluster.joinText)[first + i - 1]?.getD "" =
      Cluster.joinText (lines[first + i - 1]?.getD []) := by
    rw [List.getElem?_map]
    cases lines[first + i - 1]? <;> rfl
  have here : (decide ((line : Int) ≤ first + i) && decide ((first : Int) + i ≤ line)) =
      decide (first + i = line) := by
    rw [← Bool.decide_and, decide_eq_decide]
    omega
  simp only [Function.comp, index, content, here, Int.natCast_add]

theorem isEmpty_around (lines : List (List Cluster)) (inside : first ≤ last) :
    (around lines line first last).isEmpty = false := by
  rw [around, List.isEmpty_map, List.isEmpty_eq_false_iff, Ne, List.range'_eq_nil_iff]
  omega

/-- The last number is the widest. -/
theorem numberWidth_around (lines : List (List Cluster)) (highlight : Span) (inside : first ≤ last) :
    numberWidth ⟨around lines line first last, highlight⟩ = (toString last).length := by
  have greatest : (((around lines line first last).map
      fun line => (toString line.number).length).max?) = some (toString last).length := by
    rw [List.max?_eq_some_iff, around, List.map_map]
    constructor
    · refine List.mem_map.mpr ⟨last, ?_, rfl⟩
      rw [List.mem_range'_1]
      omega
    · intro size member
      obtain ⟨number, shown, rfl⟩ := List.mem_map.mp member
      rw [List.mem_range'_1] at shown
      exact Report.length_toString_le (n := number) (by omega)
  rw [numberWidth, List.foldl_max, greatest]
  exact Nat.zero_max _

/-- With a column from 1 on, every row can be drawn. -/
theorem mapM_rows (lines : List (List Cluster)) (right : 1 ≤ column) :
    (around lines line first last).mapM (rows width column) =
      .ok ((List.range' first (last + 1 - first)).map fun number =>
        Report.row width lines number ::
          if number = line then [Report.caret width column] else []) := by
  have drawn (number : Nat) : rows width column
      { number
        content := Cluster.joinText (lines[number - 1]?.getD [])
        isErrorLine := decide (number = line) } =
      pure (Report.row width lines number ::
        if number = line then [Report.caret width column] else []) := by
    have positive : ¬ (column : Int) < 1 := by omega
    have padding : ((column : Int) - 1).toNat = column - 1 := by omega
    by_cases here : number = line
    · simp only [rows, here, positive, padding]
      rfl
    · simp only [rows, here]
      rfl
  rw [around, List.mapM_map]
  simp only [Function.comp_def, drawn, List.mapM_pure]
  rfl

theorem draw_around (lines : List (List Cluster)) (inside : first ≤ last) (right : 1 ≤ column) :
    draw ⟨around lines line first last, ⟨⟨line, column, offset⟩, ⟨line, column, offset⟩⟩⟩ =
      .ok (Report.margin (toString last).length ::
        ((List.range' first (last + 1 - first)).flatMap fun number =>
          Report.row (toString last).length lines number ::
            if number = line then [Report.caret (toString last).length column] else []) ++
        [Report.margin (toString last).length]) := by
  simp only [draw, numberWidth_around lines _ inside, mapM_rows lines right]
  rfl

theorem extract_eq {source : String} (nonempty : source ≠ "") (below : 1 ≤ line)
    (inside : line ≤ (linesOf (Cluster.ofText source)).length) :
    extract source ⟨⟨line, column, offset⟩, ⟨line, column, offset⟩⟩ defaultContext =
      .ok ⟨around (linesOf (Cluster.ofText source)) line (max 1 (line - 2))
        (min (linesOf (Cluster.ofText source)).length (line + 2)),
        ⟨⟨line, column, offset⟩, ⟨line, column, offset⟩⟩⟩ := by
  have lines : sourceLines source = (linesOf (Cluster.ofText source)).map Cluster.joinText := by
    rw [sourceLines, Cluster.lines_eq]
  have bounds : (1 ≤ (line : Int)) ∧ (line : Int) ≤ (linesOf (Cluster.ofText source)).length := by omega
  have first : max 1 ((line : Int) - 2) = ((max 1 (line - 2) : Nat) : Int) := by omega
  have last : min (((linesOf (Cluster.ofText source)).length : Nat) : Int) ((line : Int) + 2) =
      ((min (linesOf (Cluster.ofText source)).length (line + 2) : Nat) : Int) := by omega
  simp only [extract, nonempty, lines, List.length_map, bounds, defaultContext, first, last,
    numbered_eq, if_false, decide_true, Bool.and_self, Bool.not_true, Bool.or_self,
    Bool.false_eq_true]

end Snippet

/-! ## Reports that can be drawn -/

namespace Snippet

theorem exists_draw {s : Snippet} (right : 1 ≤ s.highlight.first.column) :
    ∃ rows, s.draw = .ok rows := by
  have drawn : ∀ line ∈ s.lines, ∃ texts,
      rows s.numberWidth s.highlight.first.column line = .ok texts := by
    intro line _
    have positive : ¬ s.highlight.first.column < 1 := by omega
    simp only [rows, positive, if_false]
    split <;> exact ⟨_, rfl⟩
  obtain ⟨body, drawn⟩ := exists_mapM drawn
  exact ⟨_, by rw [draw, drawn]; rfl⟩

theorem highlight_of_extract {source : String} {span : Span} {context : Int} {s : Snippet}
    (extracted : extract source span context = .ok s) : s.highlight = span := by
  rw [extract] at extracted
  split at extracted
  · cases extracted
    rfl
  · simp only at extracted
    split at extracted
    · contradiction
    · cases extracted
      rfl

end Snippet

/-- Whatever the text is, nothing but a column before the first one keeps a report from being drawn. -/
theorem Diagnostic.exists_report {d : Diagnostic}
    (right : ∀ l, d.location = some l → 1 ≤ l.column) (source : String) :
    ∃ shown, d.report source = .ok shown := by
  have drawn : ∀ s, (d.enrich source).snippet = some s → ∃ rows, s.draw = .ok rows := by
    intro s found
    simp only [enrich, Option.bind_eq_some_iff, Option.map_eq_some_iff] at found
    obtain ⟨_, ⟨l, place, rfl⟩, found⟩ := found
    split at found
    · contradiction
    · cases extracted : Snippet.extract source ⟨l, l⟩ Snippet.defaultContext with
      | error =>
        rw [extracted] at found
        contradiction
      | ok shown =>
        rw [extracted] at found
        cases found
        exact Snippet.exists_draw ((Snippet.highlight_of_extract extracted) ▸ right l place)
  rw [report, EnrichedDiagnostic.report]
  cases found : (d.enrich source).snippet with
  | none => exact ⟨_, rfl⟩
  | some s =>
    obtain ⟨rows, drawn⟩ := drawn s found
    simp only [drawn]
    split <;> exact ⟨_, rfl⟩

/-- A diagnostic whose place lies in the text is reported in the layout. -/
theorem Diagnostic.report_eq {d : Diagnostic} {source : String} {line column : Nat} {offset : Int}
    (place : d.location = some ⟨line, column, offset⟩) (nonempty : source ≠ "") (below : 1 ≤ line)
    (inside : line ≤ (linesOf (Cluster.ofText source)).length) (right : 1 ≤ column) :
    d.report source = .ok (Report.layout ("error[" ++ d.kind.code ++ "]: " ++ d.summary)
      (linesOf (Cluster.ofText source)) line column) := by
  have extracted : Snippet.extract source ⟨⟨line, column, offset⟩, ⟨line, column, offset⟩⟩ _ = _ :=
    Snippet.extract_eq nonempty below inside
  generalize linesOf (Cluster.ofText source) = lines at extracted inside ⊢
  have shown : max 1 (line - 2) ≤ min lines.length (line + 2) := by omega
  rw [Diagnostic.report, Diagnostic.enrich, place]
  simp only [Option.map_some, Option.bind_some, nonempty, if_false, extracted, Except.toOption,
    EnrichedDiagnostic.report, Diagnostic.detail_eq place]
  rw [Snippet.isEmpty_around lines shown]
  simp only [Bool.false_eq_true, if_false, Snippet.draw_around lines shown right]
  rfl

end LiteralLexer
