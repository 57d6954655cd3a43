import LiteralLexer.Proofs.Lexer.Partition
import LiteralLexer.Proofs.Location
import LiteralLexer.Proofs.Result
import LiteralLexer.Proofs.Segmentation

/-!
# Whole texts, declaratively

`Tokenizes cs p result` says what all steps from the place `p` of a text come to, by the steps of the
grammar (`Reads`) and without a lexer.  The tokens of a text are what the relation says
(`tokenizes_tokenize`), and since it says only one thing (`Tokenizes.unique`), a run can be built step
by step where a lexer would have to be followed.

What is read from a place on does not depend on what lies before it, except for the places that faults
are reported at (`Tokenizes.behind`).
-/

namespace LiteralLexer

/-- What the steps from a place on come to: the tokens up to the end of the text, or the failure of
the last of them. -/
inductive Tokenizes (cs : List Cluster) : Nat → Except LexFailure (List Token) → Prop where
  | ends {p stop : Nat} (step : Reads cs p (.ok .endOfInput) stop) :
      Tokenizes cs p (.ok [.endOfInput])
  | fails {p stop : Nat} {failure : LexFailure} (step : Reads cs p (.error failure) stop) :
      Tokenizes cs p (.error failure)
  | token {p stop : Nat} {token : Token} {result : Except LexFailure (List Token)}
      (step : Reads cs p (.ok token) stop) (inner : token ≠ .endOfInput)
      (rest : Tokenizes cs stop result) : Tokenizes cs p (result.map (token :: ·))

theorem Tokenizes.unique {cs : List Cluster} {p : Nat}
    {result other : Except LexFailure (List Token)} (run : Tokenizes cs p result)
    (rerun : Tokenizes cs p other) : result = other := by
  induction run generalizing other with
  | ends step =>
    cases rerun with
    | ends => rfl
    | fails restep => exact absurd (step.unique restep).1 (by simp)
    | token restep inner =>
      cases (step.unique restep).1
      contradiction
  | fails step =>
    cases rerun with
    | ends restep | token restep => exact absurd (step.unique restep).1 (by simp)
    | fails restep =>
      cases (step.unique restep).1
      rfl
  | token step inner rest ih =>
    cases rerun with
    | ends restep =>
      cases (step.unique restep).1
      contradiction
    | fails restep => exact absurd (step.unique restep).1 (by simp)
    | token restep _ rerest =>
      obtain ⟨same, rfl⟩ := step.unique restep
      cases same
      rw [ih rerest]

/-- The steps from a place on come to a slash that ends the text. -/
inductive EndsInSlash (cs : List Cluster) : Nat → Prop where
  | here {p q : Nat} (skips : Skips cs p q) (last : cs.drop q = [.single '/']) : EndsInSlash cs p
  | later {p stop : Nat} {token : Token} (step : Reads cs p (.ok token) stop)
      (inner : token ≠ .endOfInput) (rest : EndsInSlash cs stop) : EndsInSlash cs p

/-! ## Lexers -/

/-- The loop of a lexer does what the relation says, if its bound is large enough.  Behind a slash that
ends the text the sentinel must not be a `*`. -/
theorem Lexer.tokenizes_tokensWithin {s : Source} {p : Nat} (terminator : s.sentinel.Terminator)
    (bound : p ≤ s.length) (star : s.sentinel = .single '*' → ¬ EndsInSlash s.clusters.toList p)
    (fuel : Nat) (enough : s.length < p + fuel) :
    Tokenizes s.clusters.toList p ((running Transform.defaultOrder s p).tokensWithin fuel) := by
  induction fuel generalizing p with
  | zero => omega
  | succ fuel ih =>
    obtain ⟨outcome, stop, step, reads⟩ := exists_reads_of_terminator terminator bound
      fun last same => star same (.here (Source.skips_solid bound) last)
    cases outcome with
    | error failure =>
      rw [tokensWithin_error (by rw [step])]
      exact .fails reads
    | ok token =>
      by_cases final : token = .endOfInput
      · subst final
        rw [tokensWithin_endOfInput (by rw [step])]
        exact .ends reads
      · -- a token takes up clusters, so the bound that is left is large enough again
        obtain ⟨start, skips, nonempty, within, _⟩ := reads.exists_span final
        have ahead := skips.ahead
        rw [tokensWithin_token step final]
        exact .token reads final
          (ih within (fun same rest => star same (.later reads final rest)) (by omega))

theorem map_filterComments_true (result : Except LexFailure (List Token)) :
    result.map (filterComments true) = result := by
  cases result <;> rfl

section Text

variable {text sentinel : String} {mark : Cluster} (alone : Cluster.ofText? sentinel = some mark)
  (absent : mark ∉ Cluster.ofText text)

include alone absent

theorem exists_tokens_running : ∃ s, s.clusters.toList = Cluster.ofText text ∧ s.sentinel = mark ∧
    tokenize text { sentinel } true = (Lexer.running Transform.defaultOrder s 0).tokens := by
  obtain ⟨s, clusters, same, opened⟩ :=
    Lexer.ofText_running (by decide : .endOfInput ∈ Transform.defaultOrder) alone absent
  refine ⟨s, clusters, same, ?_⟩
  rw [← map_filterComments_true (Lexer.tokens _)]
  exact tokenize_eq opened true

/-- The tokens of a text, or its failure, are what the grammar says, whatever sentinel ends it. -/
theorem tokenizes_tokenize_of_terminator (terminator : mark.Terminator)
    (star : mark = .single '*' → ¬ EndsInSlash (Cluster.ofText text) 0) :
    Tokenizes (Cluster.ofText text) 0 (tokenize text { sentinel } true) := by
  obtain ⟨s, clusters, rfl, run⟩ := exists_tokens_running alone absent
  rw [← clusters] at star ⊢
  rw [run]
  exact Lexer.tokenizes_tokensWithin terminator (Nat.zero_le _) star (s.length + 2) (by omega)

end Text

theorem tokenizes_tokenize {text : String} (absent : '\x00' ∉ text.toList) :
    Tokenizes (Cluster.ofText text) 0 (tokenize text {} true) :=
  tokenizes_tokenize_of_terminator Lexer.ofText?_defaultSentinel (Cluster.single_notMem absent)
    Cluster.inert_nul.terminator fun star => absurd star (by decide)

theorem Tokenizes.tokenize {text : String} {result : Except LexFailure (List Token)}
    (run : Tokenizes (Cluster.ofText text) 0 result) (absent : '\x00' ∉ text.toList) :
    tokenize text {} true = result :=
  (tokenizes_tokenize absent).unique run

/-! ## Legible texts -/

/-- A character of ASCII that the default lexer reads as a cluster of its own: it is no sentinel, and no
carriage return, which a line feed would join. -/
structure Legible (c : Char) : Prop extends Plain c where
  notNul : c ≠ '\x00'

instance (c : Char) : Decidable (Legible c) :=
  decidable_of_iff (Plain c ∧ c ≠ '\x00')
    ⟨fun legible => ⟨legible.1, legible.2⟩, fun legible => ⟨legible.1, legible.2⟩⟩

theorem legible_of_isAlphanum {c : Char} (alphanum : c.isAlphanum = true) : Legible c := by
  rw [Unicode.isAlphanum_iff, Unicode.isAlpha_iff, Unicode.isDigit_iff] at alphanum
  refine ⟨⟨by omega, ?_⟩, ?_⟩
  · rintro rfl
    contradiction
  · rintro rfl
    contradiction

/-- All characters of the text are legible. -/
def LegibleText (text : String) : Prop := ∀ c ∈ text.toList, Legible c

instance (text : String) : Decidable (LegibleText text) :=
  List.decidableBAll Legible text.toList

theorem LegibleText.singleton {c : Char} (legible : Legible c) :
    LegibleText (String.singleton c) := by
  intro d member
  rw [String.toList_singleton, List.mem_singleton] at member
  exact member ▸ legible

theorem LegibleText.append {text more : String} (legible : LegibleText text)
    (follows : LegibleText more) : LegibleText (text ++ more) := by
  intro c member
  rw [String.toList_append] at member
  rcases List.mem_append.mp member with before | behind
  · exact legible c before
  · exact follows c behind

theorem LegibleText.intercalate {gap : String} {texts : List String} (between : LegibleText gap)
    (legible : ∀ text ∈ texts, LegibleText text) : LegibleText (gap.intercalate texts) := by
  induction texts with
  | nil => simp [LegibleText]
  | cons text texts ih =>
    obtain ⟨first, others⟩ := List.forall_mem_cons.mp legible
    cases texts with
    | nil => rwa [String.intercalate_singleton]
    | cons next texts =>
      rw [String.intercalate_cons_cons]
      exact (first.append between).append (ih others)

theorem Cluster.joinText_word (text : String) : joinText (Scan.word text) = text := by
  rw [joinText, Scan.word, join_map_single, String.ofList_toList]

/-- A text of legible characters is read character by character. -/
theorem tokenize_word {text : String} {result : Except LexFailure (List Token)}
    (run : Tokenizes (Scan.word text) 0 result) (legible : LegibleText text) :
    tokenize text {} true = result := by
  have clusters : Cluster.ofText text = Scan.word text :=
    Cluster.segment_plain fun c member => (legible c member).toPlain
  have absent : '\x00' ∉ text.toList := fun member => (legible _ member).notNul rfl
  exact (clusters ▸ run).tokenize absent

/-! ## Texts of one literal -/

section First

variable {cs : List Cluster} {p : Nat}

/-- Where no blank stands none is skipped. -/
theorem Skips.stay (within : p ≤ cs.length) (solid : Stops Cluster.isWhitespace (cs.drop p)) :
    Skips cs p p where
  ahead := Nat.le_refl p
  within := within
  blank i c after before _ := by omega
  solid c here := solid c (by rw [List.head?_drop, here])

theorem Tokenizes.final : Tokenizes cs cs.length (.ok [.endOfInput]) := by
  have nothing : cs.drop cs.length = [] := List.drop_length
  have skips : Skips cs cs.length cs.length := by
    refine .stay (Nat.le_refl _) ?_
    rw [nothing]
    exact stops_nil
  have literal : Literal (cs.drop cs.length) (.accept .endOfInput 0) := by
    rw [nothing]
    exact .endOfInput
  exact .ends ⟨_, skips, .token literal⟩

theorem Literal.finds {token : Token} (literal : Literal cs (.accept token cs.length)) :
    Finds cs 0 (.ok token) cs.length := by
  have finds : Finds cs 0 (.ok token) (0 + cs.length) := .token literal
  rwa [Nat.zero_add] at finds

/-- A text that begins with a cluster that is not blank, and is one token. -/
theorem Finds.tokenizes {token : Token} (finds : Finds cs 0 (.ok token) cs.length)
    (inner : token ≠ .endOfInput) (solid : Stops Cluster.isWhitespace cs) :
    Tokenizes cs 0 (.ok [token, .endOfInput]) :=
  .token ⟨0, .stay (Nat.zero_le _) solid, finds⟩ inner .final

end First

/-! ## Behind blanks -/

section Blank

variable {cs : List Cluster} {p : Nat} {c : Cluster} (here : cs[p]? = some c)
  (blank : c.isWhitespace = true)

include here blank

theorem Skips.blank_cons {q : Nat} (skips : Skips cs (p + 1) q) : Skips cs p q where
  ahead := Nat.le_of_succ_le skips.ahead
  within := skips.within
  blank i d after before there := by
    rcases Nat.lt_or_eq_of_le after with behind | rfl
    · exact skips.blank i d behind before there
    · rw [here] at there
      cases there
      exact blank
  solid := skips.solid

theorem Reads.blank_cons {outcome : Except LexFailure Token} {stop : Nat}
    (reads : Reads cs (p + 1) outcome stop) : Reads cs p outcome stop := by
  obtain ⟨q, skips, finds⟩ := reads
  exact ⟨q, skips.blank_cons here blank, finds⟩

/-- Reading may as well begin before a blank. -/
theorem Tokenizes.blank_cons {result : Except LexFailure (List Token)}
    (run : Tokenizes cs (p + 1) result) : Tokenizes cs p result := by
  cases run with
  | ends step => exact .ends (step.blank_cons here blank)
  | fails step => exact .fails (step.blank_cons here blank)
  | token step inner rest => exact .token (step.blank_cons here blank) inner rest

end Blank

/-! ## Behind another text -/

/-- A failure in a text that begins at another place. -/
def LexFailure.behind (start : Location) : LexFailure → LexFailure
  | .malformed found => .malformed { found with location := start.plus found.location }
  | failure => failure

section Behind

variable (lead : List Cluster) {cs : List Cluster} {p stop : Nat}

theorem Skips.behind {q : Nat} (skips : Skips cs p q) :
    Skips (lead ++ cs) (lead.length + p) (lead.length + q) where
  ahead := Nat.add_le_add_left skips.ahead _
  within := by
    rw [List.length_append]
    exact Nat.add_le_add_left skips.within _
  blank i c after before here := by
    obtain ⟨i, rfl⟩ := Nat.exists_eq_add_of_le (Nat.le_trans (Nat.le_add_right _ _) after)
    rw [List.getElem?_append_right (Nat.le_add_right _ _), Nat.add_sub_cancel_left] at here
    exact skips.blank i c (by omega) (by omega) here
  solid c here := by
    rw [List.getElem?_append_right (Nat.le_add_right _ _), Nat.add_sub_cancel_left] at here
    exact skips.solid c here

theorem Finds.behind {outcome : Except LexFailure Token} (finds : Finds cs p outcome stop) :
    Finds (lead ++ cs) (lead.length + p)
      (outcome.mapError (.behind (.behind lead))) (lead.length + stop) := by
  have same : (lead ++ cs).drop (lead.length + p) = cs.drop p := List.drop_length_add_append _
  cases finds with
  | token literal =>
    rw [← Nat.add_assoc]
    exact .token (same ▸ literal)
  | fault literal reported =>
    rename_i size fault
    have place : lead.length + min (p + size + 1) cs.length =
        min (lead.length + p + size + 1) (lead ++ cs).length := by
      rw [List.length_append]
      omega
    rw [place, mapError_error, LexFailure.behind, ← locationAt_append]
    exact .fault (same ▸ literal) reported
  | undefined here none =>
    refine .undefined ?_ (same ▸ none)
    rw [List.getElem?_append_right (Nat.le_add_right _ _), Nat.add_sub_cancel_left, here]

theorem Reads.behind {outcome : Except LexFailure Token} (reads : Reads cs p outcome stop) :
    Reads (lead ++ cs) (lead.length + p)
      (outcome.mapError (.behind (.behind lead))) (lead.length + stop) := by
  obtain ⟨q, skips, finds⟩ := reads
  exact ⟨_, skips.behind lead, finds.behind lead⟩

theorem Tokenizes.behind {result : Except LexFailure (List Token)}
    (run : Tokenizes cs p result) :
    Tokenizes (lead ++ cs) (lead.length + p) (result.mapError (.behind (.behind lead))) := by
  induction run with
  | ends step => exact .ends (step.behind lead)
  | fails step => exact .fails (step.behind lead)
  | token step inner rest ih =>
    rename_i p stop token result
    have exchange (f : LexFailure → LexFailure) :
        (result.map (token :: ·)).mapError f = (result.mapError f).map (token :: ·) := by
      cases result <;> rfl
    rw [exchange]
    exact .token (step.behind lead) inner ih

end Behind

end LiteralLexer
