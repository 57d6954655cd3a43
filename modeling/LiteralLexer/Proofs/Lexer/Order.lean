import LiteralLexer.Proofs.Lexer.Progress

/-!
# The order of transforms

At most one transform makes anything of the clusters at a place (`Transform.owner?`), so a lexer that
skips blanks first, or not at all, does the same whatever the order of its other transforms.  The two
lexers take the same steps from the same places, which is a simulation in lock step.
-/

namespace LiteralLexer

/-- Two lists of the same transforms that both skip blanks first, or both not at all. -/
inductive Reorders : List Transform → List Transform → Prop where
  | literals {ts us : List Transform} (plain : .whitespace ∉ ts) (same : ∀ t, t ∈ ts ↔ t ∈ us) :
      Reorders ts us
  | blanks {ts us : List Transform} (plain : .whitespace ∉ ts) (same : ∀ t, t ∈ ts ↔ t ∈ us) :
      Reorders (.whitespace :: ts) (.whitespace :: us)

namespace Reorders

variable {ts us : List Transform}

theorem mem_iff (reorders : Reorders ts us) (t : Transform) : t ∈ ts ↔ t ∈ us := by
  cases reorders with
  | literals _ same => exact same t
  | blanks _ same => simp only [List.mem_cons, same]

theorem of_perm (perm : ts.Perm us) (nodup : ts.Nodup)
    (blanks : ts.head? = some .whitespace ∧ us.head? = some .whitespace ∨ .whitespace ∉ ts) :
    Reorders ts us := by
  rcases blanks with ⟨front, front'⟩ | plain
  · obtain ⟨ts, rfl⟩ := List.head?_eq_some_iff.mp front
    obtain ⟨us, rfl⟩ := List.head?_eq_some_iff.mp front'
    exact .blanks (List.nodup_cons.mp nodup).1 fun t => (List.perm_cons _ |>.mp perm).mem_iff
  · exact .literals plain fun t => perm.mem_iff

end Reorders

/-! ## Lock step -/

namespace Lexer

variable {ts us : List Transform} {s : Source} {p : Nat}

theorem outcome_transfer {scan : Scan} {q stop : Nat} {outcome : Except LexFailure Token}
    (step : scan.outcome ts s q = (outcome, running ts s stop)) :
    scan.outcome us s q = (outcome, running us s stop) := by
  cases scan <;>
  · obtain ⟨rfl, place⟩ := Prod.mk.inj step
    rw [Scan.outcome, running_inj.mp place]

theorem nextToken_transfer {stop : Nat} {outcome : Except LexFailure Token}
    (inert : s.sentinel.Inert) (reorders : Reorders ts us) (bound : p ≤ s.length + 1)
    (step : (running ts s p).nextToken = (outcome, running ts s stop)) :
    (running us s p).nextToken = (outcome, running us s stop) := by
  -- an exhausted lexer is as good as one at the end of the text
  obtain ⟨q, bound, exhausted⟩ : ∃ q, q ≤ s.length ∧
      ∀ vs, (running vs s p).nextToken = (running vs s q).nextToken := by
    rcases Nat.lt_or_eq_of_le bound with within | rfl
    · exact ⟨p, Nat.lt_succ_iff.mp within, fun _ => rfl⟩
    · exact ⟨s.length, Nat.le_refl _, fun _ => nextToken_exhausted⟩
  rw [exhausted] at step ⊢
  cases reorders with
  | literals plain same =>
    rw [nextToken_literals (.of_inert inert) bound plain] at step
    rw [nextToken_literals (.of_inert inert) bound (by rwa [← same]), ← Transform.scanFirst_congr same]
    exact outcome_transfer step
  | blanks plain same =>
    rw [nextToken_blanks (.of_inert inert) bound plain] at step
    rw [nextToken_blanks (.of_inert inert) bound (by rwa [← same]), ← Transform.scanFirst_congr same]
    exact outcome_transfer step

theorem tokensWithin_transfer (inert : s.sentinel.Inert) (reorders : Reorders ts us)
    (noticed : .endOfInput ∈ ts) (bound : p ≤ s.length + 1) (fuel : Nat) :
    (running ts s p).tokensWithin fuel = (running us s p).tokensWithin fuel := by
  induction fuel generalizing p with
  | zero => rfl
  | succ fuel ih =>
    obtain ⟨outcome, stop, step, advances⟩ := nextToken_advances inert noticed bound
    have step' := nextToken_transfer inert reorders bound step
    cases advances with
    | fails =>
      rw [tokensWithin_error (by rw [step]), tokensWithin_error (by rw [step'])]
    | ends =>
      rw [tokensWithin_endOfInput (by rw [step]), tokensWithin_endOfInput (by rw [step'])]
    | moves inner _ _ within =>
      rw [tokensWithin_token step inner, tokensWithin_token step' inner, ih within]

end Lexer

/-- The order of the transforms is irrelevant apart from `whitespace`: a text has the same tokens, or
the same fault at the same place, whichever way they are arranged. -/
theorem tokenize_perm {ts us : List Transform} {text sentinel : String} {mark : Cluster}
    (nodup : ts.Nodup) (perm : ts.Perm us) (noticed : .endOfInput ∈ ts)
    (blanks : ts.head? = some .whitespace ∧ us.head? = some .whitespace ∨ .whitespace ∉ ts)
    (alone : Cluster.ofText? sentinel = some mark) (inert : mark.Inert) (includeComments : Bool) :
    tokenize text { stages := ts.map .builtin, sentinel } includeComments =
      tokenize text { stages := us.map .builtin, sentinel } includeComments := by
  have reorders := Reorders.of_perm perm nodup blanks
  have noticed' := (reorders.mem_iff _).mp noticed
  cases read : Source.ofText text sentinel with
  | error failure =>
    rw [tokenize, tokenize, Lexer.ofText_builtin noticed, Lexer.ofText_builtin noticed', read]
    rfl
  | ok s =>
    have opened {vs : List Transform} (noticed : .endOfInput ∈ vs) :
        Lexer.ofText text { stages := vs.map .builtin, sentinel } = .ok (Lexer.running vs s 0) := by
      rw [Lexer.ofText_builtin noticed, read]
      rfl
    rw [← (Source.of_ofText alone read).2] at inert
    have run : (Lexer.running ts s 0).tokens = (Lexer.running us s 0).tokens :=
      Lexer.tokensWithin_transfer inert reorders noticed (Nat.zero_le _) _
    rw [tokenize_eq (opened noticed), tokenize_eq (opened noticed'), run]

theorem tokenize_perm_flag_first :
    tokenize "-1 -a" { stages := [.builtin .flag, .builtin .number, .builtin .endOfInput] } true =
      tokenize "-1 -a" { stages := [.builtin .endOfInput, .builtin .number, .builtin .flag] } true :=
  tokenize_perm (by decide : [Transform.flag, .number, .endOfInput].Nodup)
    (by decide : List.Perm _ [Transform.endOfInput, .number, .flag]) (by decide)
    (.inr (by decide)) (by decide +kernel) Cluster.inert_nul true

end LiteralLexer
