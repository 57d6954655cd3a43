import LiteralLexer.Diagnostic.Template
import Mathlib.Logic.Basic

/-!
# Filling in templates

A template is put together from texts without an opening brace and from named places.  Filling it in leaves
the texts alone and puts the values into the places, as they are: a brace inside a value is never read again.
If a brace is left open at the end, the template comes back as it was, places and all.  Every text is of exactly
one of these two forms (`Template.render_segments`).

The reader is followed segment by segment, with what was done before and what comes behind as parameters.
-/

namespace LiteralLexer.Template

/-- A part of a template: a text without an opening brace, or a place whose name has no closing one. -/
inductive Segment where
  | text (s : String) (plain : '\x7b' ∉ s.toList)
  | place (name : String) (plain : '\x7d' ∉ name.toList)

namespace Segment

/-- A segment as it is written. -/
def print : Segment → String
  | .text s _ => s
  | .place name _ => "\x7b" ++ name ++ "\x7d"

/-- A segment filled in: a place holds the text of its value, or nothing if there is none. -/
def fill (context : Context) : Segment → String
  | .text s _ => s
  | .place name _ => ((context.lookup name).map Value.display).getD ""

end Segment

/-- A template as it is written. -/
def printed (segments : List Segment) : String := String.join (segments.map Segment.print)

/-- A template filled in. -/
def filled (context : Context) (segments : List Segment) : String :=
  String.join (segments.map (Segment.fill context))

@[simp] theorem printed_nil : printed [] = "" := String.join_nil

@[simp] theorem printed_cons (segment : Segment) (segments : List Segment) :
    printed (segment :: segments) = segment.print ++ printed segments := String.join_cons

@[simp] theorem filled_nil (context : Context) : filled context [] = "" := String.join_nil

@[simp] theorem filled_cons (context : Context) (segment : Segment) (segments : List Segment) :
    filled context (segment :: segments) = segment.fill context ++ filled context segments :=
  String.join_cons

/-! ## Reading segments -/

theorem valueText_eq (context : Context) (name : String) :
    valueText context name = ((context.lookup name).map Value.display).getD "" := by
  unfold valueText
  cases context.lookup name <;> rfl

section Reading

variable (context : Context) {cs : List Char} (rest : List Char)

theorem renderFrom_text (plain : '\x7b' ∉ cs) (done : String) :
    renderFrom context none done (cs ++ rest) =
      renderFrom context none (done ++ String.ofList cs) rest := by
  induction cs generalizing done with
  | nil => simp
  | cons c cs ih =>
    rw [List.mem_cons, not_or] at plain
    have pushed : done.push c ++ String.ofList cs = done ++ String.ofList (c :: cs) := by
      apply String.toList_inj.mp
      simp
    rw [List.cons_append, renderFrom, if_neg (Ne.symm plain.1), ih plain.2, pushed]

theorem renderFrom_name (plain : '\x7d' ∉ cs) (read : List Char) (done : String) :
    renderFrom context (some read) done (cs ++ '\x7d' :: rest) =
      renderFrom context none
        (done ++ valueText context (String.ofList (read.reverse ++ cs))) rest := by
  induction cs generalizing read with
  | nil => rw [List.nil_append, renderFrom, if_pos rfl, List.append_nil]
  | cons c cs ih =>
    rw [List.mem_cons, not_or] at plain
    rw [List.cons_append, renderFrom, if_neg (Ne.symm plain.1), ih plain.2]
    simp

/-- A name that is never closed spoils all that was done before. -/
theorem renderFrom_open (plain : '\x7d' ∉ cs) (read : List Char) (done : String) :
    renderFrom context (some read) done cs = none := by
  induction cs generalizing read with
  | nil => rfl
  | cons c cs ih =>
    rw [List.mem_cons, not_or] at plain
    rw [renderFrom, if_neg (Ne.symm plain.1), ih plain.2]

theorem renderFrom_print (segment : Segment) (done : String) :
    renderFrom context none done (segment.print.toList ++ rest) =
      renderFrom context none (done ++ segment.fill context) rest := by
  cases segment with
  | text s plain =>
    rw [Segment.print, renderFrom_text context rest plain, String.ofList_toList, Segment.fill]
  | place name plain =>
    have written : (Segment.place name plain).print.toList ++ rest =
        '\x7b' :: (name.toList ++ '\x7d' :: rest) := by simp [Segment.print]
    rw [written, renderFrom, if_pos rfl, renderFrom_name context rest plain, List.reverse_nil,
      List.nil_append, String.ofList_toList, Segment.fill, valueText_eq]

theorem renderFrom_printed (segments : List Segment) (done : String) :
    renderFrom context none done ((printed segments).toList ++ rest) =
      renderFrom context none (done ++ filled context segments) rest := by
  -- what is done already grows by one segment a step
  induction segments generalizing done with
  | nil => simp
  | cons segment segments ih =>
    rw [printed_cons, String.toList_append, List.append_assoc, renderFrom_print, ih, filled_cons,
      String.append_assoc]

end Reading

theorem renderFrom_segments (context : Context) (segments : List Segment) :
    renderFrom context none "" (printed segments).toList = some (filled context segments) := by
  have read := renderFrom_printed context [] segments ""
  rwa [List.append_nil, renderFrom, String.empty_append] at read

theorem render_printed (context : Context) (segments : List Segment) :
    render (printed segments) context = filled context segments := by
  rw [render, renderFrom_segments, Option.getD_some]

/-- A template without places stays as it is. -/
theorem render_plain {template : String} (plain : '\x7b' ∉ template.toList)
    (context : Context) : render template context = template := by
  simpa [Segment.print, Segment.fill] using render_printed context [.text template plain]

/-- A template that ends in its only place. -/
theorem render_labelled {context : Context} {label name value : String}
    (plain : '\x7b' ∉ label.toList) (named : '\x7d' ∉ name.toList)
    (found : context.lookup name = some (.text value)) :
    render (label ++ ("\x7b" ++ name ++ "\x7d")) context = label ++ value := by
  have filled := render_printed context [.text label plain, .place name named]
  simpa [Segment.print, Segment.fill, found, Value.display, String.append_assoc] using filled

theorem renderFrom_left (context : Context) (segments : List Segment) {rest : String}
    (plain : '\x7d' ∉ rest.toList) :
    renderFrom context none "" (printed segments ++ "\x7b" ++ rest).toList = none := by
  have written : (printed segments ++ "\x7b" ++ rest).toList =
      (printed segments).toList ++ '\x7b' :: rest.toList := by simp
  rw [written, renderFrom_printed, renderFrom, if_pos rfl, renderFrom_open context plain]

/-! ## The form of a template -/

/-- The characters are those of some segments, behind which a brace may be left open. -/
def Cut (cs : List Char) : Prop :=
  ∃ segments, cs = (printed segments).toList ∨
    ∃ rest, '\x7d' ∉ rest ∧ cs = (printed segments).toList ++ '\x7b' :: rest

theorem Cut.behind {cs : List Char} (cut : Cut cs) (segment : Segment) : Cut (segment.print.toList ++ cs) := by
  obtain ⟨segments, rfl | ⟨rest, plain, rfl⟩⟩ := cut
  · exact ⟨segment :: segments, .inl (by simp)⟩
  · exact ⟨segment :: segments, .inr ⟨rest, plain, by simp⟩⟩

theorem cut (cs : List Char) : Cut cs := by
  match cs with
  | [] => exact ⟨[], .inl rfl⟩
  | c :: cs =>
    by_cases opens : c = '\x7b'
    · subst opens
      by_cases closes : '\x7d' ∈ cs
      · -- the first closing brace ends the name
        obtain ⟨name, behind, rfl, plain⟩ := List.eq_append_cons_of_mem closes
        have place := (cut behind).behind (.place (String.ofList name) (by simpa using plain))
        simpa [Segment.print] using place
      · exact ⟨[], .inr ⟨cs, closes, rfl⟩⟩
    · -- a text of one character; that texts follow each other does no harm
      have text := (cut cs).behind (.text (String.ofList [c]) (by simpa using Ne.symm opens))
      simpa [Segment.print] using text
termination_by cs.length

/-- A template is filled in segment by segment, and the values are not read again.  With a brace left open at
its end it stays as it is.  Every text is of exactly one of these two forms. -/
theorem render_segments :
    (∀ context segments, render (printed segments) context = filled context segments) ∧
      (∀ context segments (rest : String), '\x7d' ∉ rest.toList →
        render (printed segments ++ "\x7b" ++ rest) context = printed segments ++ "\x7b" ++ rest) ∧
      ∀ template : String, Xor (∃ segments, template = printed segments)
        (∃ segments rest, '\x7d' ∉ rest.toList ∧ template = printed segments ++ "\x7b" ++ rest) := by
  refine ⟨render_printed, ?_, ?_⟩
  · intro context segments rest plain
    rw [render, renderFrom_left context segments plain, Option.getD_none]
  · intro template
    rw [xor_iff_or_and_not_and]
    constructor
    · obtain ⟨segments, whole | ⟨rest, plain, left⟩⟩ := cut template.toList
      · exact .inl ⟨segments, String.toList_inj.mp whole⟩
      · refine .inr ⟨segments, String.ofList rest, by simpa using plain, String.toList_inj.mp ?_⟩
        simpa using left
    · -- the reader tells the two forms apart, whatever the values are
      rintro ⟨⟨segments, rfl⟩, segments', rest, plain, same⟩
      have read := renderFrom_segments [] segments
      rw [same, renderFrom_left [] segments' plain] at read
      contradiction

end LiteralLexer.Template
