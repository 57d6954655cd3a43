import LiteralLexer.Lexer.Tokenize
import LiteralLexer.Proofs.Literal.Scan
import LiteralLexer.Proofs.Scan.Owner
import LiteralLexer.Proofs.Scan.Refinement

/-!
# One step of a lexer

What a step of a lexer over builtin transforms can do is said here once, and everything about runs
follows from it.  A step skips blanks, if it does at all, then it either takes over what one transform
makes of the clusters ahead, or wraps the cluster that every transform declined
(`Stage.offer_cases`).  `Scan.outcome` is the outcome that belongs to a scan.

With blanks skipped first, or not at all, the step is even determined by the set of the transforms
(`Lexer.nextToken_literals`, `Lexer.nextToken_blanks`).
-/

namespace LiteralLexer

/-- The first place from a given one on that is not blank. -/
def Source.solid (s : Source) (p : Nat) : Nat :=
  p + ((s.rest p).takeWhile Cluster.isWhitespace).length

theorem Source.le_solid (s : Source) (p : Nat) : p ≤ s.solid p := Nat.le_add_right ..

theorem Source.solid_le {s : Source} {p : Nat} (bound : p ≤ s.length) : s.solid p ≤ s.length := by
  have := (List.takeWhile_sublist Cluster.isWhitespace (l := s.rest p)).length_le
  rw [length_rest] at this
  unfold solid
  omega

/-- The lexer over builtin transforms, with the usual fallback, at a place of a text. -/
def Lexer.running (ts : List Transform) (s : Source) (p : Nat) : Lexer where
  stages := ts.map .builtin
  fallback := Fallback.undefined
  cursor := { source := s, position := p }

/-- The outcome of a step that a scan at a place stands for.  A literal is left behind its last
cluster, a malformed one behind the cluster that gave it away, and a cluster that belongs to no
literal is wrapped. -/
def Scan.outcome (ts : List Transform) (s : Source) (q : Nat) :
    Scan → Except LexFailure Token × Lexer
  | .accept token size => (.ok token, .running ts s (q + size))
  | .reject fault size =>
    (.error (.malformed { fault, location := s.locationAt q }),
      .running ts s (min (q + size + 1) s.length))
  | .decline => (.ok (.undefined (s.clusterAt q).text), .running ts s (q + 1))

/-! ## Offers -/

namespace Stage

variable {s : Source} {p : Nat}

theorem offer_whitespace (notWhitespace : s.sentinel.isWhitespace = false) (bound : p ≤ s.length)
    (stages : List Stage) :
    offer (.builtin .whitespace :: stages) (s.reading p) = offer stages (s.reading (s.solid p)) := by
  simp only [offer, recognizer, Transform.recognizer,
    Recognizer.whitespace_reading notWhitespace bound]
  rfl

/-- The end of the text is found whatever the sentinel is. -/
theorem offer_endOfInput (stages : List Stage) :
    offer (.builtin .endOfInput :: stages) (s.reading s.length) =
      (Scan.accept .endOfInput 0).verdict s s.length := by
  simp only [offer, recognizer, Transform.recognizer, Recognizer.endOfInput_reading (Nat.le_refl _),
    s.rest_final]
  rfl

theorem offer_literal (closed : s.Sealed p) (bound : p ≤ s.length) {t : Transform}
    (literal : t ≠ .whitespace) (stages : List Stage) :
    offer (.builtin t :: stages) (s.reading p) =
      if t.scan (s.rest p) = .decline then offer stages (s.reading p)
      else (t.scan (s.rest p)).verdict s p := by
  simp only [offer, recognizer, Transform.recognizer_reading closed bound literal]
  cases t.scan (s.rest p) <;> simp [Scan.verdict, Verdict.fault]

/-- Where there are no blanks to skip, or nobody skips them, the transforms are asked for the first
that does not decline. -/
theorem offer_still (closed : s.Sealed p) (bound : p ≤ s.length) {ts : List Transform}
    (still : .whitespace ∈ ts → s.solid p = p) :
    offer (ts.map .builtin) (s.reading p) = (Transform.scanFirst ts (s.rest p)).verdict s p := by
  induction ts with
  | nil => rfl
  | cons t ts ih =>
    have rest := ih fun member => still (List.mem_cons_of_mem _ member)
    by_cases blanks : t = .whitespace
    · subst blanks
      rw [List.map_cons, offer_whitespace closed.terminator.notWhitespace bound,
        still List.mem_cons_self, rest]
      rfl
    · rw [List.map_cons, offer_literal closed bound blanks, rest]
      cases scan : t.scan (s.rest p) <;> simp [Transform.scanFirst, scan]

theorem offer_literals (closed : s.Sealed p) (bound : p ≤ s.length) {ts : List Transform}
    (literals : .whitespace ∉ ts) :
    offer (ts.map .builtin) (s.reading p) = (Transform.scanFirst ts (s.rest p)).verdict s p :=
  offer_still closed bound fun member => absurd member literals

/-- What an offer to any list of transforms comes to.  A text that is exhausted from the beginning is
not declined. -/
theorem offer_cases (inert : s.sentinel.Inert) (bound : p ≤ s.length) (ts : List Transform) :
    ∃ q scan, p ≤ q ∧ q ≤ s.length ∧ offer (ts.map .builtin) (s.reading p) = scan.verdict s q ∧
      (Literal (s.rest q) scan ∨
        (scan = .decline ∧ (.endOfInput ∈ ts → q = s.length → p < q))) := by
  induction ts generalizing p with
  | nil => exact ⟨p, .decline, Nat.le_refl p, bound, rfl, .inr ⟨rfl, by simp⟩⟩
  | cons t ts ih =>
    by_cases blanks : t = .whitespace
    · -- skipping blanks only moves the place where the rest is asked
      subst blanks
      obtain ⟨q, scan, after, within, offered, outcome⟩ := ih (Source.solid_le bound)
      have start := s.le_solid p
      refine ⟨q, scan, by omega, within, ?_, ?_⟩
      · rw [List.map_cons, offer_whitespace inert.notWhitespace bound, offered]
      · rcases outcome with literal | ⟨declined, progress⟩
        · exact .inl literal
        · refine .inr ⟨declined, fun member final => ?_⟩
          have := progress (by simpa using member) final
          omega
    · rw [List.map_cons, offer_literal (.of_inert inert) bound blanks]
      by_cases declines : t.scan (s.rest p) = .decline
      · rw [if_pos declines]
        obtain ⟨q, scan, after, within, offered, outcome⟩ := ih bound
        refine ⟨q, scan, after, within, offered, ?_⟩
        rcases outcome with literal | ⟨declined, progress⟩
        · exact .inl literal
        · refine .inr ⟨declined, fun member final => ?_⟩
          rcases List.mem_cons.mp member with rfl | member
          · -- the end of the text was asked for at `p` and not found
            obtain ⟨_, empty⟩ | ⟨inside, _⟩ := s.rest_cases p bound
            · rw [empty] at declines
              contradiction
            · omega
          · exact progress member final
      · rw [if_neg declines]
        exact ⟨p, _, Nat.le_refl p, bound, rfl, .inl (Literal.of_scan declines)⟩

end Stage

/-! ## Steps -/

namespace Lexer

variable {ts : List Transform} {s : Source} {p q : Nat}

theorem running_inj : running ts s p = running ts s q ↔ p = q := by
  refine ⟨fun same => ?_, fun same => same ▸ rfl⟩
  have place := congrArg Lexer.position same
  exact Int.ofNat_inj.mp place

theorem nextToken_of_offer {scan : Scan} (bound : p ≤ s.length)
    (offered : Stage.offer (ts.map .builtin) (s.reading p) = scan.verdict s q) :
    (running ts s p).nextToken = scan.outcome ts s q := by
  have start : Reading.start (running ts s p).cursor = s.reading p := Source.start_reading bound
  have stages : (running ts s p).stages = ts.map .builtin := rfl
  rw [nextToken, start, stages, offered]
  cases scan with
  | decline => rfl
  | accept token size =>
    simp only [Scan.verdict, Source.rewind_reading]
    rfl
  | reject fault size =>
    simp only [Scan.verdict, Verdict.fault, Source.location_reading, Source.cap_reading]
    rfl

/-- An exhausted lexer does what one at the end of the text does. -/
theorem nextToken_exhausted :
    (running ts s (s.length + 1)).nextToken = (running ts s s.length).nextToken := by
  have exhausted : Reading.start (running ts s (s.length + 1)).cursor = s.reading s.length :=
    Source.start_exhausted
  have final : Reading.start (running ts s s.length).cursor = s.reading s.length :=
    Source.start_reading (Nat.le_refl _)
  rw [nextToken, nextToken, exhausted, final]
  rfl

theorem nextToken_literals (closed : s.Sealed p) (bound : p ≤ s.length)
    (literals : .whitespace ∉ ts) :
    (running ts s p).nextToken = (Transform.scanFirst ts (s.rest p)).outcome ts s p :=
  nextToken_of_offer bound (Stage.offer_literals closed bound literals)

theorem nextToken_blanks (closed : s.Sealed (s.solid p)) (bound : p ≤ s.length)
    (literals : .whitespace ∉ ts) :
    (running (.whitespace :: ts) s p).nextToken =
      (Transform.scanFirst ts (s.rest (s.solid p))).outcome (.whitespace :: ts) s (s.solid p) := by
  apply nextToken_of_offer bound
  rw [List.map_cons, Stage.offer_whitespace closed.terminator.notWhitespace bound,
    Stage.offer_literals closed (Source.solid_le bound) literals]

end Lexer

end LiteralLexer
