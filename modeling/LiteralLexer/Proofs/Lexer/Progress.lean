import LiteralLexer.Proofs.Lexer.Run

/-!
# Progress and termination

A lexer over any list of builtin transforms that notices the end of the text gets ahead with every
step, so its runs are no longer than the text.  The order of the transforms does not matter, not even
when blanks are skipped only after the end of the text was asked for: then the step may wrap the
sentinel and leave the lexer exhausted, one place behind the text, but it has come from inside the
text and the next step finds the end.
-/

namespace LiteralLexer

/-- What a step from a place `p` of a text may come to, and the place that it leads to. -/
inductive Advances (length p : Nat) : Except LexFailure Token → Nat → Prop where
  /-- The text is malformed. -/
  | fails {fault : LocatedFault} {stop : Nat} (within : stop ≤ length) :
      Advances length p (.error (.malformed fault)) stop
  /-- The text is exhausted. -/
  | ends : Advances length p (.ok .endOfInput) length
  /-- A token was found. -/
  | moves {token : Token} {stop : Nat} (inner : token ≠ .endOfInput) (inside : p < length)
      (ahead : p < stop) (within : stop ≤ length + 1) : Advances length p (.ok token) stop

/-! ## Steps -/

namespace Lexer

variable {ts : List Transform} {s : Source} {p : Nat}

theorem nextToken_final (inert : s.sentinel.Inert) (noticed : .endOfInput ∈ ts) :
    (running ts s s.length).nextToken = (.ok .endOfInput, running ts s s.length) := by
  obtain ⟨q, scan, after, within, offered, outcome⟩ :=
    Stage.offer_cases inert (Nat.le_refl s.length) ts
  obtain rfl : q = s.length := Nat.le_antisymm within after
  rcases outcome with literal | ⟨_, progress⟩
  · rw [nextToken_of_offer (Nat.le_refl _) offered]
    have fits := literal.size_le
    rw [Source.length_rest, Nat.sub_self] at fits
    rcases literal.size_pos with ⟨_, rfl⟩ | positive
    · rfl
    · omega
  · exact absurd (progress noticed rfl) (Nat.lt_irrefl _)

theorem nextToken_inside (inert : s.sentinel.Inert) (inside : p < s.length) :
    ∃ outcome stop, (running ts s p).nextToken = (outcome, running ts s stop) ∧
      Advances s.length p outcome stop := by
  have bound := Nat.le_of_lt inside
  obtain ⟨q, scan, after, within, offered, outcome⟩ := Stage.offer_cases inert bound ts
  have step := nextToken_of_offer bound offered
  rcases outcome with literal | ⟨rfl, _⟩
  · have fits := literal.size_le
    rw [Source.length_rest] at fits
    cases scan with
    | decline => exact absurd rfl literal.ne_decline
    | reject fault size => exact ⟨_, _, step, .fails (Nat.min_le_right _ _)⟩
    | accept token size =>
      rcases literal.size_pos with ⟨empty, accepted⟩ | positive
      · -- the end of the text was found behind blanks
        cases accepted
        have final : q + 0 = s.length := Nat.le_antisymm within (Source.length_le_of_rest empty)
        rw [Scan.outcome, final] at step
        exact ⟨_, _, step, .ends⟩
      · simp only [Scan.size] at fits positive
        refine ⟨_, _, step, .moves ?_ inside (by omega) (by omega)⟩
        rintro rfl
        have final := Source.length_le_of_rest (literal.eq_nil_of_endOfInput rfl)
        omega
  · -- a cluster is wrapped, which behind the last blanks may be the sentinel
    exact ⟨_, _, step, .moves (by simp) inside (by omega) (by omega)⟩

/-- Every step gets ahead.  An exhausted lexer returns to the end of the text. -/
theorem nextToken_advances (inert : s.sentinel.Inert) (noticed : .endOfInput ∈ ts)
    (bound : p ≤ s.length + 1) :
    ∃ outcome stop, (running ts s p).nextToken = (outcome, running ts s stop) ∧
      Advances s.length p outcome stop := by
  have final := nextToken_final inert noticed
  obtain inside | rfl | rfl : p < s.length ∨ p = s.length ∨ p = s.length + 1 := by omega
  · exact nextToken_inside inert inside
  · exact ⟨_, _, final, .ends⟩
  · exact ⟨_, _, nextToken_exhausted.trans final, .ends⟩

/-! ## Runs -/

theorem Delivers.notMem {l m : Lexer} {tokens : List Token} (delivers : Delivers l tokens m) :
    .endOfInput ∉ tokens := by
  induction delivers with
  | nil => simp
  | cons step inner rest ih => simp [ih, Ne.symm inner]

/-- A run delivers no more tokens than there are clusters left, and comes to the end of the text or to
something malformed. -/
theorem exists_delivers_running (inert : s.sentinel.Inert) (noticed : .endOfInput ∈ ts)
    (bound : p ≤ s.length + 1) :
    ∃ tokens last, Delivers (running ts s p) tokens last ∧ tokens.length ≤ s.length - p ∧
      (last.nextToken.1 = .ok .endOfInput ∨ ∃ fault, last.nextToken.1 = .error (.malformed fault)) := by
  -- the clusters that are left, where an exhausted lexer has as many as one at the end
  induction left : s.length - p using Nat.strongRecOn generalizing p with
  | ind n ih =>
    obtain ⟨outcome, stop, step, advances⟩ := nextToken_advances inert noticed bound
    cases advances with
    | fails => exact ⟨[], _, .nil, Nat.zero_le _, .inr ⟨_, by rw [step]⟩⟩
    | ends => exact ⟨[], _, .nil, Nat.zero_le _, .inl (by rw [step])⟩
    | moves inner inside ahead within =>
      obtain ⟨tokens, last, delivers, short, final⟩ := ih (s.length - stop) (by omega) within rfl
      refine ⟨_, last, .cons step inner delivers, ?_, final⟩
      rw [List.length_cons]
      omega

theorem after_final (inert : s.sentinel.Inert) (noticed : .endOfInput ∈ ts) (n : Nat) :
    (running ts s s.length).after n = running ts s s.length := by
  induction n with
  | zero => rfl
  | succ n ih => rw [after, nextToken_final inert noticed, ih]

theorem eq_running_of_endOfInput {l : Lexer} (inert : s.sentinel.Inert) (noticed : .endOfInput ∈ ts)
    (bound : p ≤ s.length + 1) (step : (running ts s p).nextToken = (.ok .endOfInput, l)) :
    l = running ts s s.length := by
  obtain ⟨outcome, stop, advance, advances⟩ := nextToken_advances inert noticed bound
  rw [advance] at step
  cases step
  cases advances with
  | ends => rfl
  | moves inner => contradiction

end Lexer

/-! ## Whole texts -/

theorem filterComments_sublist (includeComments : Bool) (tokens : List Token) :
    (filterComments includeComments tokens).Sublist tokens := by
  unfold filterComments
  split
  · exact List.Sublist.refl _
  · exact List.filter_sublist

theorem filterComments_endOfInput (includeComments : Bool) (tokens : List Token) :
    filterComments includeComments (tokens ++ [.endOfInput]) =
      filterComments includeComments tokens ++ [.endOfInput] := by
  unfold filterComments
  split
  · rfl
  · rw [List.filter_append]
    rfl

/-- A lexer terminates on a text of the given length. -/
structure Lexer.Terminates (lexer : Lexer) (length : Nat) : Prop where
  /-- Every step gets ahead. -/
  advances : ∀ p ≤ length + 1, ∃ outcome stop,
    (lexer.moveTo p).nextToken = (outcome, lexer.moveTo stop) ∧ Advances length p outcome stop
  /-- The steps come to the end of the text or to something malformed. -/
  halts : ∃ inner last, lexer.Delivers inner last ∧ inner.length ≤ length ∧
    (last.nextToken.1 = .ok .endOfInput ∨ ∃ fault, last.nextToken.1 = .error (.malformed fault))
  /-- Once the end of the text was found, nothing else is. -/
  rests : ∀ p ≤ length + 1, ∀ l, (lexer.moveTo p).nextToken = (.ok .endOfInput, l) →
    ∀ n, (l.after n).nextToken = (.ok .endOfInput, lexer.moveTo length)

theorem Lexer.terminates_running {ts : List Transform} {s : Source} (inert : s.sentinel.Inert)
    (noticed : .endOfInput ∈ ts) : (running ts s 0).Terminates s.length where
  advances p bound := nextToken_advances inert noticed bound
  halts := exists_delivers_running inert noticed (Nat.zero_le _)
  rests p bound l step n := by
    rw [eq_running_of_endOfInput inert noticed bound step, after_final inert noticed,
      nextToken_final inert noticed]
    rfl

/-- Where the steps come to an end, the bound of `Lexer.tokens` does not show. -/
theorem Lexer.Terminates.tokens {lexer : Lexer} (terminates : lexer.Terminates lexer.cursor.length) :
    (∃ fault, lexer.tokens = .error (.malformed fault)) ∨
      ∃ inner, lexer.tokens = .ok (inner ++ [.endOfInput]) ∧ .endOfInput ∉ inner ∧
        inner.length ≤ lexer.cursor.length := by
  obtain ⟨inner, last, delivers, short, final⟩ := terminates.halts
  obtain ⟨spare, enough⟩ : ∃ spare, lexer.cursor.length + 2 = inner.length + (spare + 1) :=
    ⟨lexer.cursor.length + 1 - inner.length, by omega⟩
  have run : lexer.tokens = (last.tokensWithin (spare + 1)).map (inner ++ ·) := by
    rw [Lexer.tokens, enough, delivers.tokensWithin]
  rcases final with final | ⟨fault, final⟩
  · rw [run, tokensWithin_endOfInput final]
    exact .inr ⟨inner, rfl, delivers.notMem, short⟩
  · rw [run, tokensWithin_error final]
    exact .inl ⟨fault, rfl⟩

/-- A lexer over any builtin transforms that include `endOfInput` terminates on every text.  Each of
its steps is malformed, finds the end of the text, or gets ahead; so the tokens are at most one for
each cluster and the end of the text behind them, and from there on nothing but that end is found. -/
theorem tokenize_terminates {ts : List Transform} {text sentinel : String} {mark : Cluster}
    (noticed : .endOfInput ∈ ts) (alone : Cluster.ofText? sentinel = some mark)
    (absent : mark ∉ Cluster.ofText text) (inert : mark.Inert) :
    let options : LexerOptions := { stages := ts.map .builtin, sentinel }
    let length := (Cluster.ofText text).length
    (∃ lexer, Lexer.ofText text options = .ok lexer ∧ lexer.Terminates length) ∧
      ∀ includeComments,
        (∃ fault, tokenize text options includeComments = .error (.malformed fault)) ∨
          ∃ inner, tokenize text options includeComments = .ok (inner ++ [.endOfInput]) ∧
            .endOfInput ∉ inner ∧ inner.length ≤ length := by
  intro options length
  obtain ⟨s, clusters, rfl, opened⟩ := Lexer.ofText_running noticed alone absent
  have size : s.length = length := by
    simp only [length, ← clusters, Source.length, Array.length_toList]
  have terminates := Lexer.terminates_running inert noticed
  refine ⟨⟨_, opened, size ▸ terminates⟩, fun includeComments => ?_⟩
  rw [tokenize_eq opened]
  rcases terminates.tokens with ⟨fault, run⟩ | ⟨inner, run, notMem, short⟩
  · exact .inl ⟨fault, by rw [run]; rfl⟩
  · have shorter := filterComments_sublist includeComments inner
    refine .inr ⟨_, by rw [run, Except.map, filterComments_endOfInput], ?_, ?_⟩
    · exact fun member => notMem (shorter.subset member)
    · exact size ▸ Nat.le_trans shorter.length_le short

/-- Blanks may be skipped after the end of the text was asked for. -/
theorem tokenize_terminates_blanks_last :
    ∃ lexer, Lexer.ofText "a " { stages := [.builtin .endOfInput, .builtin .whitespace] } =
      .ok lexer ∧ lexer.Terminates 2 :=
  (tokenize_terminates (by decide : .endOfInput ∈ [Transform.endOfInput, .whitespace])
    (by decide +kernel) (by decide +kernel) Cluster.inert_nul).1

end LiteralLexer
