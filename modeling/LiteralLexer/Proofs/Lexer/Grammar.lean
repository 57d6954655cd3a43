import LiteralLexer.Proofs.Lexer.Run

/-!
# One step, declaratively

`Reads cs p outcome stop` says what a step of the default lexer from the place `p` of a text comes to,
in terms of the clusters of the text alone: blanks are skipped, and then the grammar of literals
decides (`Literal`).  The lexer reads its text with a chain of recognizers that share a cursor and one
cluster of look-ahead; `Lexer.nextToken_reads` says that none of this shows.
-/

namespace LiteralLexer

/-! ## Blanks -/

/-- The clusters from `p` up to `q` are blank, and the one at `q`, if the text has one, is not. -/
structure Skips (cs : List Cluster) (p q : Nat) : Prop where
  ahead : p ≤ q
  within : q ≤ cs.length
  blank : ∀ i c, p ≤ i → i < q → cs[i]? = some c → c.isWhitespace = true
  solid : ∀ c, cs[q]? = some c → c.isWhitespace = false

theorem Skips.unique {cs : List Cluster} {p q r : Nat} (skips : Skips cs p q) (other : Skips cs p r) :
    q = r := by
  -- neither of the two places lies before the other
  have le {q r : Nat} (skips : Skips cs p q) (other : Skips cs p r) : q ≤ r := by
    apply Nat.le_of_not_lt
    intro before
    have inside : r < cs.length := Nat.lt_of_lt_of_le before skips.within
    have here := List.getElem?_eq_getElem inside
    have blank := skips.blank r _ other.ahead before here
    rw [other.solid _ here] at blank
    contradiction
  exact Nat.le_antisymm (le skips other) (le other skips)

theorem Source.skips_solid {s : Source} {p : Nat} (bound : p ≤ s.length) :
    Skips s.clusters.toList p (s.solid p) := by
  obtain ⟨run, rest, split, inside, stops, taken⟩ := exists_run Cluster.isWhitespace (s.rest p)
  have place : s.solid p = p + run.length := by rw [solid, taken]
  have ahead (n : Nat) : s.clusters.toList[p + n]? = (run ++ rest)[n]? := by
    rw [← split, Source.rest, List.getElem?_drop]
  refine ⟨s.le_solid p, s.solid_le bound, fun i c after before here => ?_, fun c here => ?_⟩
  · obtain ⟨n, rfl⟩ := Nat.exists_eq_add_of_le after
    rw [ahead, List.getElem?_append_left (by omega)] at here
    exact inside c (List.mem_of_getElem? here)
  · rw [place, ahead, List.getElem?_append_right (Nat.le_refl _), Nat.sub_self] at here
    exact stops c (by rw [List.head?_eq_getElem?, here])

/-! ## Literals -/

/-- The grammar is unambiguous. -/
theorem Literal.unique {cs : List Cluster} {scan other : Scan} (literal : Literal cs scan)
    (another : Literal cs other) : scan = other := by
  obtain ⟨scans, t, rfl⟩ := iff_scan.mp literal
  obtain ⟨rescans, u, rfl⟩ := iff_scan.mp another
  have owner := Transform.owner?_of_scan scans
  rw [Transform.owner?_of_scan rescans] at owner
  cases owner
  rfl

/-- A list of all transforms finds what the grammar says, or nothing where it says nothing. -/
theorem Transform.literal_scanFirst {ts : List Transform} (all : ∀ t, t ≠ .whitespace → t ∈ ts)
    (cs : List Cluster) :
    Literal cs (scanFirst ts cs) ∨ (scanFirst ts cs = .decline ∧ ∀ scan, ¬ Literal cs scan) := by
  by_cases declines : scanFirst ts cs = .decline
  · refine .inr ⟨declines, fun scan literal => ?_⟩
    obtain ⟨scans, t, rfl⟩ := Literal.iff_scan.mp literal
    have other : t ≠ .whitespace := by
      rintro rfl
      exact scans rfl
    rw [scanFirst_of_mem (all t other) scans] at declines
    exact scans declines
  · obtain ⟨t, _, scan⟩ := exists_of_scanFirst declines
    exact .inl (Literal.iff_scan.mpr ⟨declines, t, scan⟩)

/-! ## Steps -/

/-- What is found at a place that is not blank, and the place that a step leads to from there.  A fault
is located where its literal begins and has its own code, details and message, and the step leads one
cluster further than what was read. -/
inductive Finds (cs : List Cluster) (q : Nat) : Except LexFailure Token → Nat → Prop where
  | token {size : Nat} {token : Token} (literal : Literal (cs.drop q) (.accept token size)) :
      Finds cs q (.ok token) (q + size)
  | fault {size : Nat} {fault : Fault} (literal : Literal (cs.drop q) (.reject fault size))
      (reported : fault.Reported fault.kind.code fault.context
        (Template.render fault.kind.template fault.context)) :
      Finds cs q (.error (.malformed { fault, location := locationAt cs q }))
        (min (q + size + 1) cs.length)
  | undefined {c : Cluster} (here : cs[q]? = some c) (none : ∀ scan, ¬ Literal (cs.drop q) scan) :
      Finds cs q (.ok (.undefined c.text)) (q + 1)

/-- What a step from the place `p` comes to, and the place that it leads to. -/
def Reads (cs : List Cluster) (p : Nat) (outcome : Except LexFailure Token) (stop : Nat) : Prop :=
  ∃ q, Skips cs p q ∧ Finds cs q outcome stop

theorem Finds.unique {cs : List Cluster} {q stop other : Nat}
    {outcome another : Except LexFailure Token} (finds : Finds cs q outcome stop)
    (refinds : Finds cs q another other) : outcome = another ∧ stop = other := by
  cases finds with
  | token literal =>
    cases refinds with
    | token same => cases literal.unique same; exact ⟨rfl, rfl⟩
    | fault same => cases literal.unique same
    | undefined _ none => exact absurd literal (none _)
  | fault literal =>
    cases refinds with
    | token same => cases literal.unique same
    | fault same => cases literal.unique same; exact ⟨rfl, rfl⟩
    | undefined _ none => exact absurd literal (none _)
  | undefined here none =>
    cases refinds with
    | token literal | fault literal => exact absurd literal (none _)
    | undefined same => cases here.symm.trans same; exact ⟨rfl, rfl⟩

theorem Reads.unique {cs : List Cluster} {p stop other : Nat}
    {outcome another : Except LexFailure Token} (reads : Reads cs p outcome stop)
    (rereads : Reads cs p another other) : outcome = another ∧ stop = other := by
  obtain ⟨q, skips, finds⟩ := reads
  obtain ⟨r, skips', finds'⟩ := rereads
  obtain rfl := skips.unique skips'
  exact finds.unique finds'

namespace Lexer

variable {s : Source} {p : Nat}

/-- Where the grammar says nothing there is a cluster, since it knows the end of the text. -/
theorem exists_cluster {q : Nat} (within : q ≤ s.length)
    (none : ∀ scan, ¬ Literal (s.rest q) scan) : s.clusters.toList[q]? = some (s.clusterAt q) := by
  obtain ⟨_, empty⟩ | ⟨_, c, _, here⟩ := s.rest_cases q within
  · rw [empty] at none
    exact absurd .endOfInput (none _)
  · have first : (s.rest q)[0]? = some c := by rw [here, List.getElem?_cons_zero]
    have current := Source.clusterAt_add (s := s) (p := q) 0
    rw [first, Nat.add_zero] at current
    rw [current, Option.getD_some, ← first, Source.rest, List.getElem?_drop, Nat.add_zero]

/-- Every step of the default lexer is one that the grammar describes.  The sentinel has to stop the
loops, and a `*` is looked at too early if the text ends with a slash. -/
theorem exists_reads_of_terminator (terminator : s.sentinel.Terminator) (bound : p ≤ s.length)
    (star : s.rest (s.solid p) = [.single '/'] → s.sentinel ≠ .single '*') :
    ∃ outcome stop, (running Transform.defaultOrder s p).nextToken =
      (outcome, running Transform.defaultOrder s stop) ∧ Reads s.clusters.toList p outcome stop := by
  have skips := Source.skips_solid bound
  obtain ⟨final, empty⟩ | ⟨inside, _⟩ := s.rest_cases (s.solid p) skips.within
  · -- behind the last blanks the end of the text is asked for before anything else
    have offered : Stage.offer (Transform.defaultOrder.map .builtin) (s.reading p) =
        (Scan.accept .endOfInput 0).verdict s (s.solid p) := by
      rw [Transform.defaultOrder, List.map_cons,
        Stage.offer_whitespace terminator.notWhitespace bound, final, List.map_cons,
        Stage.offer_endOfInput]
    have literal : Literal (s.clusters.toList.drop (s.solid p)) (.accept .endOfInput 0) := by
      rw [← Source.rest, empty]
      exact .endOfInput
    exact ⟨_, _, nextToken_of_offer bound offered, _, skips, .token literal⟩
  have all : ∀ t : Transform, t ≠ .whitespace → t ∈ Transform.defaultOrder.tail := by
    intro t
    cases t <;> decide
  -- the default order skips blanks first and knows every form of a literal
  have found := Transform.literal_scanFirst all (s.rest (s.solid p))
  have step : (running Transform.defaultOrder s p).nextToken =
      (Transform.scanFirst Transform.defaultOrder.tail (s.rest (s.solid p))).outcome _ s _ :=
    nextToken_blanks (.of_inside terminator inside star) bound (by decide)
  rw [step]
  generalize Transform.scanFirst Transform.defaultOrder.tail (s.rest (s.solid p)) = scan at found
  rcases found with literal | ⟨rfl, none⟩
  · cases scan with
    | decline => exact absurd rfl literal.ne_decline
    | accept token size => exact ⟨_, _, rfl, _, skips, .token literal⟩
    | reject fault size => exact ⟨_, _, rfl, _, skips, .fault literal fault.reported⟩
  · exact ⟨_, _, rfl, _, skips, .undefined (exists_cluster skips.within none) none⟩

theorem exists_reads (inert : s.sentinel.Inert) (bound : p ≤ s.length) :
    ∃ outcome stop, (running Transform.defaultOrder s p).nextToken =
      (outcome, running Transform.defaultOrder s stop) ∧ Reads s.clusters.toList p outcome stop :=
  exists_reads_of_terminator inert.terminator bound fun _ => inert.separator.ne_mark (by decide)

end Lexer

/-- The default lexer on a text without the character NUL: a step from any place of the text does
what the grammar says, and whatever the grammar says is what the step does. -/
theorem Lexer.nextToken_reads {text : String} (absent : '\x00' ∉ text.toList) :
    ∃ lexer, Lexer.ofText text {} = .ok lexer ∧
      ∀ p ≤ (Cluster.ofText text).length, ∀ outcome l,
        (lexer.moveTo p).nextToken = (outcome, l) ↔
          ∃ stop, Reads (Cluster.ofText text) p outcome stop ∧ l = lexer.moveTo stop := by
  obtain ⟨s, clusters, sentinel, opened⟩ := ofText_default absent
  have inert : s.sentinel.Inert := sentinel ▸ Cluster.inert_nul
  refine ⟨_, opened, fun p bound outcome l => ?_⟩
  rw [← clusters] at bound ⊢
  obtain ⟨found, place, step, reads⟩ := exists_reads inert bound
  rw [moveTo_running, step]
  constructor
  · intro same
    cases same
    exact ⟨place, reads, rfl⟩
  · rintro ⟨stop, rereads, rfl⟩
    obtain ⟨rfl, rfl⟩ := reads.unique rereads
    rfl

theorem Lexer.nextToken_reads_character :
    ∃ lexer, Lexer.ofText " 'a'" {} = .ok lexer ∧
      (lexer.moveTo 0).nextToken = (.ok (.character "a"), lexer.moveTo 4) := by
  obtain ⟨lexer, opened, reads⟩ := nextToken_reads (by decide : '\x00' ∉ " 'a'".toList)
  have clusters : Cluster.ofText " 'a'" = Scan.word " 'a'" := by decide +kernel
  rw [clusters] at reads
  have skips : Skips (Scan.word " 'a'") 0 1 := by
    refine ⟨Nat.zero_le _, by decide, fun i c _ before here => ?_, fun c here => ?_⟩
    · obtain rfl : i = 0 := by omega
      cases here
      decide
    · cases here
      decide
  have finds : Finds (Scan.word " 'a'") 1 (.ok (.character "a")) (1 + 3) :=
    .token (Literal.character (c := .single 'a') (by decide))
  exact ⟨lexer, opened, (reads 0 (Nat.zero_le _) _ _).mpr ⟨4, ⟨1, skips, finds⟩, rfl⟩⟩

end LiteralLexer
