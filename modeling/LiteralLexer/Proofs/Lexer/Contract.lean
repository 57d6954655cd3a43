import LiteralLexer.Proofs.Lexer.Grammar

/-!
# The look-ahead contract

Recognizers share a cursor and the cluster that it read last, and each relies on the one before it to
leave the two in step.  `Reading.InStep` says what that means, and `Verdict.Abides` what a recognizer
owes to one that comes after it: it gives back the reading that it got, or one in step behind its
literal, or it reports a fault at the place where it began.  `Recognizer.contract` says that all
recognizers keep to this.

A stride over several clusters moves the cursor only if it does not lead beyond the sentinel, so a
literal that was looked at but not read over would leave the two out of step.
-/

namespace LiteralLexer

/-! ## Readings in step -/

/-- The cursor stands right behind the cluster that it read last, the one at the place `p` of the
text.  At the end of the text this is the sentinel. -/
structure Reading.InStep (r : Reading) (s : Source) (p : Nat) : Prop where
  source : r.cursor.source = s
  position : r.cursor.position = p + 1
  current : r.current = s.clusters.toList[p]?.getD s.sentinel

theorem Source.inStep_reading (s : Source) (p : Nat) : (s.reading p).InStep s p where
  source := rfl
  position := rfl
  current := by rw [current_reading, rest, List.getElem?_drop, Nat.add_zero]

/-- There is one reading in step at a place. -/
theorem Reading.InStep.eq_reading {r : Reading} {s : Source} {p : Nat} (step : r.InStep s p) :
    r = s.reading p := by
  have here : r.current = (s.reading p).current :=
    step.current.trans (s.inStep_reading p).current.symm
  obtain ⟨⟨source, position⟩, current⟩ := r
  obtain rfl : source = s := step.source
  obtain rfl : position = p + 1 := step.position
  obtain rfl : current = source.clusterAt p := here
  rfl

/-! ## The contract -/

/-- What a recognizer may make of a reading `r` in step at the place `p`.  A literal ends where
stepping back over one cluster leads. -/
inductive Verdict.Abides (s : Source) (p : Nat) (r : Reading) : Verdict → Prop where
  | declines : Abides s p r (.decline r)
  | accepts {token : Token} {rest : Reading} {stop : Nat}
      (literal : Literal (s.rest p) (.accept token (stop - p))) (ahead : p < stop)
      (within : stop ≤ s.length) (step : rest.InStep s stop)
      (back : rest.cursor.rewind 1 = { source := s, position := stop }) :
      Abides s p r (.accept token rest)
  | ends {rest : Reading} (final : p = s.length) (step : rest.InStep s p)
      (back : rest.cursor.rewind 1 = { source := s, position := p }) :
      Abides s p r (.accept .endOfInput rest)
  | rejects {fault : Fault} {size : Nat} {rest : Reading}
      (literal : Literal (s.rest p) (.reject fault size))
      (moved : (p : Int) + 2 ≤ rest.cursor.position)
      (within : rest.cursor.position ≤ s.length + 1) :
      Abides s p r (.reject (.malformed { fault, location := s.locationAt p }) rest)

/-- What a literal stands for keeps the contract. -/
theorem Literal.abides {s : Source} {p : Nat} (bound : p ≤ s.length) {scan : Scan}
    (literal : Literal (s.rest p) scan) : (scan.verdict s p).Abides s p (s.reading p) := by
  have inside : p + scan.size ≤ s.length := by
    have within := literal.size_le
    rw [Source.length_rest] at within
    omega
  rcases literal.size_pos with ⟨empty, rfl⟩ | positive
  · -- the one literal without a cluster is the end of the text
    have final : p = s.length := Nat.le_antisymm bound (Source.length_le_of_rest empty)
    exact .ends final (s.inStep_reading p) Source.rewind_reading
  · cases scan with
    | decline => exact absurd rfl literal.ne_decline
    | accept token size =>
      refine .accepts ?_ (Nat.lt_add_of_pos_right positive) inside (s.inStep_reading _)
        Source.rewind_reading
      rwa [Nat.add_sub_cancel_left]
    | reject fault size =>
      rw [Scan.verdict, Verdict.fault, Source.location_reading]
      -- the cursor is one place behind the cluster that gave the literal up
      simp only [Scan.size] at positive inside
      refine .rejects literal ?_ ?_ <;> simp only [Source.reading] <;> omega

namespace Transform

variable {s : Source} {p : Nat}

theorem abides_reading (inert : s.sentinel.Inert) (bound : p ≤ s.length) {t : Transform}
    (other : t ≠ .whitespace) : (t.recognizer (s.reading p)).Abides s p (s.reading p) := by
  rw [recognizer_reading (.of_inert inert) bound other]
  by_cases declines : t.scan (s.rest p) = .decline
  · rw [declines]
    exact .declines
  · exact (Literal.of_scan declines).abides bound

/-- No literal is declined by all recognizers. -/
theorem exists_ne_decline (inert : s.sentinel.Inert) (bound : p ≤ s.length) {scan : Scan}
    (literal : Literal (s.rest p) scan) :
    ∃ t : Transform, ∀ r, t.recognizer (s.reading p) ≠ .decline r := by
  obtain ⟨scans, t, rfl⟩ := Literal.iff_scan.mp literal
  have other : t ≠ .whitespace := by
    rintro rfl
    exact scans rfl
  refine ⟨t, fun r => ?_⟩
  rw [recognizer_reading (.of_inert inert) bound other]
  intro declined
  cases scan : t.scan (s.rest p) with
  | decline => exact scans scan
  | accept | reject => simp [scan, Scan.verdict, Verdict.fault] at declined

end Transform

/-- On a text that does not have its inert sentinel, from any reading in step: the recognizer of blanks
reads over them and ends in step with what is not blank, and all others keep the contract.  A literal
that begins there is declined by not all of them. -/
theorem Recognizer.contract {text sentinel : String} {mark : Cluster}
    (alone : Cluster.ofText? sentinel = some mark) (absent : mark ∉ Cluster.ofText text)
    (inert : mark.Inert) :
    ∃ s, Source.ofText text sentinel = .ok s ∧ s.clusters.toList = Cluster.ofText text ∧
      s.sentinel = mark ∧ ∀ p ≤ s.length, ∀ r : Reading, r.InStep s p →
        (∃ q rest, Transform.whitespace.recognizer r = .decline rest ∧ rest.InStep s q ∧
          Skips (Cluster.ofText text) p q) ∧
        (∀ t : Transform, t ≠ .whitespace → (t.recognizer r).Abides s p r) ∧
        ∀ scan, Literal (s.rest p) scan → ∃ t : Transform, ∀ rest, t.recognizer r ≠ .decline rest := by
  obtain ⟨s, opened⟩ := Source.exists_ofText alone absent
  obtain ⟨clusters, rfl⟩ := Source.of_ofText alone opened
  refine ⟨s, opened, clusters, rfl, fun p bound r step => ?_⟩
  obtain rfl := step.eq_reading
  refine ⟨?_, fun t other => Transform.abides_reading inert bound other,
    fun scan literal => Transform.exists_ne_decline inert bound literal⟩
  rw [← clusters]
  exact ⟨s.solid p, s.reading (s.solid p), Recognizer.whitespace_reading inert.notWhitespace bound,
    s.inStep_reading _, Source.skips_solid bound⟩

/-- Behind a blank, the recognizers take over a reading in step, at a comment that is never closed. -/
theorem Recognizer.contract_blank :
    ∃ s, Source.ofText " /*" "\x00" = .ok s ∧ ∃ rest,
      Transform.whitespace.recognizer (s.reading 0) = .decline rest ∧ rest.InStep s 1 ∧
        (Transform.comment.recognizer rest).Abides s 1 rest ∧
        ∃ t : Transform, ∀ r, t.recognizer rest ≠ .decline r := by
  have spelled : Cluster.ofText " /*" = [.single ' ', .single '/', .single '*'] := by decide +kernel
  have alone : Cluster.ofText? "\x00" = some (.single '\x00') := by decide +kernel
  have absent : Cluster.single '\x00' ∉ Cluster.ofText " /*" := by
    rw [spelled]
    decide
  obtain ⟨s, opened, clusters, _, keeps⟩ := Recognizer.contract alone absent Cluster.inert_nul
  have length : s.length = 3 := by
    rw [Source.length, ← Array.length_toList, clusters, spelled]
    rfl
  obtain ⟨⟨q, rest, skipped, step, skips⟩, _⟩ := keeps 0 (by omega) _ (s.inStep_reading 0)
  have blank : Skips (Cluster.ofText " /*") 0 1 := by
    rw [spelled]
    refine ⟨Nat.zero_le _, by decide, fun i c _ before here => ?_, fun c here => ?_⟩
    · obtain rfl : i = 0 := by omega
      cases here
      decide
    · cases here
      decide
  obtain rfl := skips.unique blank
  obtain ⟨_, abides, complete⟩ := keeps 1 (by omega) rest step
  have unclosed : Literal (s.rest 1) (.reject .unterminatedComment 2) := by
    rw [Source.rest, clusters, spelled]
    exact .openComment (by simp)
  exact ⟨s, opened, rest, skipped, step, abides .comment (by decide), complete _ unclosed⟩

end LiteralLexer
