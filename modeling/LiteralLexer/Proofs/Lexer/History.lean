import LiteralLexer.Proofs.Lexer.Position
import LiteralLexer.Proofs.Segmentation

/-!
# What a lexer remembers

A lexer remembers nothing but its text and its position: whatever was done with a default lexer before,
it is a fresh lexer of its text that was moved to its position, so its future is the future of that one
(`Lexer.performAll_fresh`).  An action that fails is not even half done: a position outside the text
and a text with the sentinel in it are refused, and the lexer stays as it was.
-/

namespace LiteralLexer

/-- A source is its clusters and its sentinel. -/
theorem Source.eq_of_toList {s t : Source} (clusters : s.clusters.toList = t.clusters.toList)
    (sentinel : s.sentinel = t.sentinel) : s = t := by
  obtain ⟨_, _, _⟩ := s
  obtain ⟨_, _, _⟩ := t
  cases Array.toList_inj.mp clusters
  cases sentinel
  rfl

namespace Lexer

variable {l : Lexer}

/-! ## Refusals -/

theorem ofText_nul {text : String} (present : '\x00' ∈ text.toList) :
    ofText text {} = .error (.malformed (Source.sentinelFault (.single '\x00') text)) :=
  ofText_refused (by decide : .endOfInput ∈ Transform.defaultOrder) ofText?_defaultSentinel
    (Cluster.single_nul_mem_segment present)

namespace Within

/-- Another text makes a lexer a fresh one. -/
theorem setText_eq (within : Within Transform.defaultOrder 0 l) (text : String) :
    l.setText text = Lexer.ofText text {} := by
  obtain ⟨sentinel, _, _⟩ := within
  have opened : Lexer.ofText text {} = (Source.ofText text Source.defaultSentinel).map
      (running Transform.defaultOrder · 0) := ofText_builtin (by decide)
  rw [opened, Source.ofText, ofText?_defaultSentinel, Lexer.setText]
  simp only [running, sentinel]
  cases Source.ofClusters (Cluster.ofText text) (.single '\x00') <;> rfl

theorem length_eq (within : Within Transform.defaultOrder 0 l) :
    l.cursor.length = (Cluster.ofText l.text).length := by
  obtain @⟨s, p, _, cut, _⟩ := within
  have text : (running Transform.defaultOrder s p).text = s.text := rfl
  rw [text, cut, Array.length_toList]
  rfl

theorem seek_refused (within : Within Transform.defaultOrder 0 l) {position : Binary64}
    (outside : ∀ p ≤ (Cluster.ofText l.text).length, position.toInt? ≠ some (p : Int)) :
    l.seek position = .error (.badPosition (Cluster.ofText l.text).length position) := by
  rw [← within.length_eq] at outside ⊢
  rw [Lexer.seek, Cursor.seek_refused outside]
  rfl

/-- A lexer is a fresh one that was moved. -/
theorem exists_fresh (within : Within Transform.defaultOrder 0 l) :
    ∃ p ≤ (Cluster.ofText l.text).length, l.position = p ∧
      ∃ fresh, Lexer.ofText l.text {} = .ok fresh ∧ l = fresh.moveTo p ∧
        ∀ position : Binary64, position.toInt? = some (p : Int) → fresh.seek position = .ok l := by
  have length := within.length_eq
  obtain @⟨s, p, sentinel, cut, bound⟩ := within
  have text : (running Transform.defaultOrder s p).text = s.text := rfl
  have absent : '\x00' ∉ s.text.toList := by
    intro present
    have member : Cluster.single '\x00' ∈ Cluster.ofText s.text :=
      Cluster.single_nul_mem_segment present
    rw [cut, ← sentinel] at member
    exact s.sentinel_notMem member
  obtain ⟨t, clusters, same, opened⟩ := ofText_default absent
  obtain rfl : t = s := Source.eq_of_toList (clusters.trans cut) (same.trans sentinel.symm)
  refine ⟨p, length ▸ bound, rfl, _, opened, rfl, fun position whole => ?_⟩
  exact seek_eq_moveTo whole bound

end Within

end Lexer

/-- The default lexer after any actions.  It stands in its text, and it is a fresh lexer of that text
moved to where it stands, which is never refused.  A position that is no place of the text and a text
with the character NUL are refused, and change nothing. -/
theorem Lexer.performAll_fresh {text : String} {lexer : Lexer}
    (opened : Lexer.ofText text {} = .ok lexer) (actions : List Action) :
    let l := lexer.performAll actions
    let length := (Cluster.ofText l.text).length
    (∃ p ≤ length, l.position = p ∧ ∃ fresh, Lexer.ofText l.text {} = .ok fresh ∧
      l = fresh.moveTo p ∧
      ∀ position : Binary64, position.toInt? = some (p : Int) → fresh.seek position = .ok l) ∧
    (∀ position : Binary64, (∀ p ≤ length, position.toInt? ≠ some (p : Int)) →
      l.seek position = .error (.badPosition length position) ∧ l.perform (.seek position) = l) ∧
    ∀ other, l.setText other = Lexer.ofText other {} ∧
      ('\x00' ∈ other.toList →
        l.setText other = .error (.malformed (Source.sentinelFault (.single '\x00') other)) ∧
        l.perform (.setText other) = l) := by
  intro l length
  have start : Within Transform.defaultOrder 0 lexer := .ofText (by decide) opened
  have within : Within Transform.defaultOrder 0 l := by
    refine start.performAll (fun inert bound => ?_) actions
    obtain ⟨outcome, stop, step, kept⟩ := nextToken_checked inert
      (by decide : .endOfInput ∈ Transform.defaultOrder) (by decide) bound
    exact ⟨stop, by rw [step], kept⟩
  refine ⟨within.exists_fresh, fun position outside => ?_, fun other => ⟨within.setText_eq other, ?_⟩⟩
  · have refused := within.seek_refused outside
    exact ⟨refused, by rw [perform, refused]; rfl⟩
  · intro present
    have refused := (within.setText_eq other).trans (ofText_nul present)
    exact ⟨refused, by rw [perform, refused]; rfl⟩

/-- After a token, a place that is refused, a broken character and a text that is refused. -/
theorem Lexer.performAll_fresh_character :
    ∃ lexer fresh, Lexer.ofText "1 'ab'" {} = .ok lexer ∧ Lexer.ofText "1 'ab'" {} = .ok fresh ∧
      lexer.performAll [.nextToken, .seek (.ofInt 7), .tryNextToken, .setText "\x00"] =
        fresh.moveTo 5 := by
  obtain ⟨lexer, start⟩ : ∃ lexer, Lexer.ofText "1 'ab'" {} = .ok lexer := ⟨_, rfl⟩
  obtain ⟨⟨p, _, place, fresh, opened, moved, _⟩, _⟩ := performAll_fresh start
    [.nextToken, .seek (.ofInt 7), .tryNextToken, .setText "\x00"]
  cases start
  cases (show (5 : Int) = p from place)
  exact ⟨_, fresh, rfl, opened, moved⟩

end LiteralLexer
