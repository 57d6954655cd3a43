import LiteralLexer.Proofs.Lexer.Step

/-!
# Runs of a lexer

`Lexer.Delivers l tokens m` says that the steps of `l` deliver the given tokens, none of them the end
of the text, and lead to `m`.  It is the loop of `Lexer.tokensWithin` without its bound: the two are
related in both directions, and what is said about whole runs is proved by induction over this
relation or over the bound.

The module also says which lexer reads a text, so that later proofs start from `Lexer.running`.
-/

namespace LiteralLexer

/-! ## The lexer of a text -/

theorem Cluster.mem_text_of_mem {text : String} {c : Cluster} (member : c ∈ Cluster.ofText text)
    {char : Char} (inside : char ∈ c.toList) : char ∈ text.toList := by
  rw [← Cluster.join_segment text.toList]
  exact List.mem_flatMap.mpr ⟨c, member, inside⟩

theorem Cluster.single_notMem {text : String} {c : Char} (absent : c ∉ text.toList) :
    single c ∉ ofText text :=
  fun member => absent (mem_text_of_mem member List.mem_cons_self)

theorem Cluster.joinText_ofText (text : String) : joinText (ofText text) = text := by
  rw [joinText, ofText, join_segment, String.ofList_toList]

theorem Cluster.text_of_ofText? {text : String} {mark : Cluster} (alone : ofText? text = some mark) :
    mark.text = text := by
  rw [ofText?] at alone
  split at alone
  · next c cut =>
    cases alone
    rw [← joinText_ofText text, cut]
    simp [joinText, Cluster.text]
  · contradiction

namespace Source

variable {text sentinel : String} {mark : Cluster}

/-- A text that is read is read as it stands, up to the sentinel that was asked for. -/
theorem of_ofText {s : Source} (alone : Cluster.ofText? sentinel = some mark)
    (read : ofText text sentinel = .ok s) :
    s.clusters.toList = Cluster.ofText text ∧ s.sentinel = mark := by
  simp only [ofText, alone, ofClusters] at read
  split at read
  · contradiction
  · cases read
    exact ⟨rfl, rfl⟩

theorem exists_ofText (alone : Cluster.ofText? sentinel = some mark)
    (absent : mark ∉ Cluster.ofText text) : ∃ s, ofText text sentinel = .ok s := by
  simp only [ofText, alone, ofClusters, absent, dif_neg, not_false_eq_true]
  exact ⟨_, rfl⟩

/-- What is said about a text with the sentinel in it. -/
def sentinelFault (mark : Cluster) (text : String) : LocatedFault where
  fault := .sentinelInText mark.text
  location := LiteralLexer.locationAt (Cluster.ofText text) ((Cluster.ofText text).idxOf mark)

theorem ofText_refused (alone : Cluster.ofText? sentinel = some mark)
    (present : mark ∈ Cluster.ofText text) :
    ofText text sentinel = .error (.malformed (sentinelFault mark text)) := by
  simp only [ofText, alone, ofClusters, present, dif_pos]
  rfl

end Source

namespace Cursor

variable {c : Cursor} {position : Binary64}

/-- Going to a position that was handed in as a number is moving there. -/
theorem seek_place {p : Nat} (whole : position.toInt? = some (p : Int)) (bound : p ≤ c.length) :
    c.seek position = .ok { c with position := p } := by
  have inside : (0 : Int) ≤ p ∧ (p : Int) ≤ c.length := by omega
  simp only [seek, whole, if_pos inside]

theorem seek_refused (outside : ∀ p ≤ c.length, position.toInt? ≠ some (p : Int)) :
    c.seek position = .error (.badPosition c.length position) := by
  rw [seek]
  cases whole : position.toInt? with
  | none => rfl
  | some n =>
    -- a whole number that is accepted is one of the places of the text
    refine if_neg fun inside => ?_
    obtain ⟨p, rfl⟩ := Int.eq_ofNat_of_zero_le inside.1
    exact outside p (Int.ofNat_le.mp inside.2) whole

end Cursor

namespace Lexer

variable {ts : List Transform} {text sentinel : String}

theorem ofText_builtin (noticed : .endOfInput ∈ ts) :
    ofText text { stages := ts.map .builtin, sentinel } =
      (Source.ofText text sentinel).map (running ts · 0) := by
  have notices : (ts.map Stage.builtin).any Stage.isEndOfInput = true := by
    simp only [List.any_map, List.any_eq_true]
    exact ⟨_, noticed, rfl⟩
  rw [ofText, if_pos notices]
  cases Source.ofText text sentinel <;> rfl

/-- A lexer reads every text in which its sentinel does not occur. -/
theorem ofText_running {mark : Cluster} (noticed : .endOfInput ∈ ts)
    (alone : Cluster.ofText? sentinel = some mark) (absent : mark ∉ Cluster.ofText text) :
    ∃ s, s.clusters.toList = Cluster.ofText text ∧ s.sentinel = mark ∧
      ofText text { stages := ts.map .builtin, sentinel } = .ok (running ts s 0) := by
  obtain ⟨s, read⟩ := Source.exists_ofText alone absent
  obtain ⟨clusters, same⟩ := Source.of_ofText alone read
  refine ⟨s, clusters, same, ?_⟩
  rw [ofText_builtin noticed, read]
  rfl

theorem ofText_refused {mark : Cluster} (noticed : .endOfInput ∈ ts)
    (alone : Cluster.ofText? sentinel = some mark) (present : mark ∈ Cluster.ofText text) :
    ofText text { stages := ts.map .builtin, sentinel } =
      .error (.malformed (Source.sentinelFault mark text)) := by
  rw [ofText_builtin noticed, Source.ofText_refused alone present]
  rfl

theorem exists_of_ofText {mark : Cluster} {l : Lexer} (noticed : .endOfInput ∈ ts)
    (alone : Cluster.ofText? sentinel = some mark)
    (opened : ofText text { stages := ts.map .builtin, sentinel } = .ok l) :
    ∃ s, s.clusters.toList = Cluster.ofText text ∧ s.sentinel = mark ∧ l = running ts s 0 := by
  rw [ofText_builtin noticed] at opened
  cases read : Source.ofText text sentinel with
  | error failure =>
    rw [read] at opened
    contradiction
  | ok s =>
    rw [read] at opened
    cases opened
    obtain ⟨clusters, same⟩ := Source.of_ofText alone read
    exact ⟨s, clusters, same, rfl⟩

theorem ofText?_defaultSentinel :
    Cluster.ofText? Source.defaultSentinel = some (Cluster.single '\x00') := by
  decide +kernel

/-- The default lexer reads every text without the character NUL. -/
theorem ofText_default (absent : '\x00' ∉ text.toList) :
    ∃ s, s.clusters.toList = Cluster.ofText text ∧ s.sentinel = Cluster.single '\x00' ∧
      ofText text {} = .ok (running Transform.defaultOrder s 0) := by
  exact ofText_running (by decide) ofText?_defaultSentinel (Cluster.single_notMem absent)

theorem exists_of_ofText_default {lexer : Lexer}
    (opened : Lexer.ofText text {} = .ok lexer) :
    ∃ s : Source, s.clusters.toList = Cluster.ofText text ∧ s.sentinel = .single '\x00' ∧
      lexer = running Transform.defaultOrder s 0 :=
  exists_of_ofText (by decide : .endOfInput ∈ Transform.defaultOrder) ofText?_defaultSentinel opened

/-- The lexer moved to another place of its text. -/
def moveTo (l : Lexer) (p : Nat) : Lexer := { l with cursor := { l.cursor with position := p } }

theorem seek_eq_moveTo {l : Lexer} {position : Binary64} {p : Nat}
    (whole : position.toInt? = some (p : Int)) (bound : p ≤ l.cursor.length) :
    l.seek position = .ok (l.moveTo p) := by
  rw [seek, Cursor.seek_place whole bound]
  rfl

@[simp] theorem moveTo_running {s : Source} {p q : Nat} : (running ts s p).moveTo q = running ts s q := rfl

/-- The lexer after a number of steps. -/
def after (l : Lexer) : Nat → Lexer
  | 0 => l
  | n + 1 => l.nextToken.2.after n

/-! ## Delivered tokens -/

/-- The steps of a lexer deliver tokens before the end of the text and lead to another lexer. -/
inductive Delivers : Lexer → List Token → Lexer → Prop where
  | nil {l : Lexer} : Delivers l [] l
  | cons {l m n : Lexer} {token : Token} {tokens : List Token}
      (step : l.nextToken = (.ok token, m)) (inner : token ≠ .endOfInput)
      (rest : Delivers m tokens n) : Delivers l (token :: tokens) n

variable {l m : Lexer}

theorem tokensWithin_error {failure : LexFailure} (step : l.nextToken.1 = .error failure)
    (fuel : Nat) : l.tokensWithin (fuel + 1) = .error failure := by
  rcases stepped : l.nextToken with ⟨outcome, next⟩
  rw [stepped] at step
  cases step
  simp only [tokensWithin, stepped]

theorem tokensWithin_endOfInput (step : l.nextToken.1 = .ok .endOfInput) (fuel : Nat) :
    l.tokensWithin (fuel + 1) = .ok [.endOfInput] := by
  rcases stepped : l.nextToken with ⟨outcome, next⟩
  rw [stepped] at step
  cases step
  simp only [tokensWithin, stepped]

theorem tokensWithin_token {token : Token} (step : l.nextToken = (.ok token, m))
    (inner : token ≠ .endOfInput) (fuel : Nat) :
    l.tokensWithin (fuel + 1) = (m.tokensWithin fuel).map (token :: ·) := by
  simp only [tokensWithin, step]

/-- A run goes through the tokens that are delivered. -/
theorem Delivers.tokensWithin {tokens : List Token} (delivers : Delivers l tokens m) (fuel : Nat) :
    l.tokensWithin (tokens.length + fuel) = (m.tokensWithin fuel).map (tokens ++ ·) := by
  induction delivers with
  | nil =>
    rename_i l
    rw [List.length_nil, Nat.zero_add]
    cases l.tokensWithin fuel <;> rfl
  | cons step inner rest ih =>
    -- one unit of the bound for each token
    rename_i l m n token tokens
    rw [List.length_cons, Nat.add_right_comm, tokensWithin_token step inner, ih]
    cases n.tokensWithin fuel <;> rfl

/-- A run that ends well has delivered its tokens and then met the end of the text. -/
theorem exists_delivers {fuel : Nat} {tokens : List Token}
    (run : l.tokensWithin fuel = .ok tokens) :
    ∃ inner m, tokens = inner ++ [.endOfInput] ∧ Delivers l inner m ∧
      m.nextToken.1 = .ok .endOfInput := by
  induction fuel generalizing l tokens with
  | zero => contradiction
  | succ fuel ih =>
    rcases stepped : l.nextToken with ⟨outcome, next⟩
    cases outcome with
    | error failure =>
      rw [tokensWithin_error (by rw [stepped])] at run
      contradiction
    | ok token =>
      by_cases final : token = .endOfInput
      · subst final
        have step : l.nextToken.1 = .ok .endOfInput := by rw [stepped]
        rw [tokensWithin_endOfInput step] at run
        cases run
        exact ⟨[], l, rfl, .nil, step⟩
      · rw [tokensWithin_token stepped final] at run
        cases rest : next.tokensWithin fuel with
        | error failure =>
          rw [rest] at run
          contradiction
        | ok tokens =>
          rw [rest] at run
          cases run
          obtain ⟨inner, m, rfl, delivers, ends⟩ := ih rest
          exact ⟨token :: inner, m, rfl, .cons stepped final delivers, ends⟩

end Lexer

theorem tokenize_eq {text : String} {options : LexerOptions} {lexer : Lexer}
    (opened : Lexer.ofText text options = .ok lexer) (includeComments : Bool) :
    tokenize text options includeComments =
      lexer.tokens.map (filterComments includeComments) := by
  rw [tokenize, opened]
  change (lexer.tokens.bind fun tokens => .ok (filterComments includeComments tokens)) = _
  cases lexer.tokens <;> rfl

/-- A text that has tokens is one that the default lexer reads to its end. -/
theorem exists_of_tokenize {text : String} {tokens : List Token} {includeComments : Bool}
    (run : tokenize text {} includeComments = .ok tokens) :
    ∃ s inner, s.clusters.toList = Cluster.ofText text ∧ s.sentinel = Cluster.single '\x00' ∧
      Lexer.ofText text {} = .ok (.running Transform.defaultOrder s 0) ∧
      (Lexer.running Transform.defaultOrder s 0).tokens = .ok inner ∧
      filterComments includeComments inner = tokens := by
  have opened : Lexer.ofText text {} =
      (Source.ofText text Source.defaultSentinel).map (Lexer.running Transform.defaultOrder · 0) :=
    Lexer.ofText_builtin (by decide)
  cases read : Source.ofText text Source.defaultSentinel with
  | error failure =>
    rw [tokenize, opened, read] at run
    contradiction
  | ok s =>
    obtain ⟨clusters, sentinel⟩ := Source.of_ofText Lexer.ofText?_defaultSentinel read
    rw [read] at opened
    rw [tokenize_eq opened] at run
    cases delivered : (Lexer.running Transform.defaultOrder s 0).tokens with
    | error failure =>
      rw [delivered] at run
      contradiction
    | ok inner =>
      rw [delivered] at run
      exact ⟨s, inner, clusters, sentinel, opened, delivered, Except.ok.inj run⟩

end LiteralLexer
