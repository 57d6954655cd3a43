import LiteralLexer.Proofs.Lexer.Whole
import LiteralLexer.Proofs.Literal.Lookahead

/-!
# What a step depends on

A step of a lexer depends on the clusters from its place on and on nothing before them: the same
clusters behind another text come to the same token, or to the same fault at a place that is moved
(`Lexer.nextToken_shifted`).  That holds for any list of transforms, since all that a stage is told is
where the clusters ahead begin.

Of the clusters ahead, a step of the default lexer depends on those that it reads over and the next
four, if it finds a token at all (`Lexer.nextToken_lookahead`).
-/

namespace LiteralLexer

/-! ## Nothing before -/

/-- The outcomes of two steps at places that are so many clusters apart. -/
inductive Shifted (shift : Int) : Except LexFailure Token → Except LexFailure Token → Prop where
  | token (token : Token) : Shifted shift (.ok token) (.ok token)
  | fault {found other : LocatedFault} (same : other.fault = found.fault)
      (moved : other.location.offset = found.location.offset + shift) :
      Shifted shift (.error (.malformed found)) (.error (.malformed other))

theorem Source.locationAt_offset {s : Source} {p : Nat} (bound : p ≤ s.length) :
    (s.locationAt p).offset = p := by
  have size : (s.clusters.toList.take p).length = p := List.length_take_of_le (by exact bound)
  rw [locationAt, LiteralLexer.locationAt, Location.foldl_after_offset, Int.toNat_natCast, size]
  exact Int.zero_add _

/-- What any list of transforms makes of the clusters ahead: blanks are read over, and a scan is
answered from behind them. -/
theorem Stage.exists_offer (ts : List Transform) (cs : List Cluster) :
    ∃ (blanks : Nat) (scan : Scan), blanks ≤ cs.length ∧ ∀ {s : Source} {p : Nat}, s.sentinel.Inert →
      p ≤ s.length → s.rest p = cs →
      offer (ts.map .builtin) (s.reading p) = scan.verdict s (p + blanks) := by
  induction ts generalizing cs with
  | nil => exact ⟨0, .decline, Nat.zero_le _, fun _ _ _ => rfl⟩
  | cons t ts ih =>
    by_cases skips : t = .whitespace
    · subst skips
      have run := (List.takeWhile_sublist Cluster.isWhitespace (l := cs)).length_le
      obtain ⟨blanks, scan, fits, offered⟩ := ih (cs.drop (cs.takeWhile Cluster.isWhitespace).length)
      rw [List.length_drop] at fits
      refine ⟨(cs.takeWhile Cluster.isWhitespace).length + blanks, scan, by omega, ?_⟩
      intro s p inert bound rest
      have solid : s.solid p = p + (cs.takeWhile Cluster.isWhitespace).length := by
        rw [Source.solid, rest]
      have behind := offered inert (Source.solid_le bound) (by rw [solid, ← rest, Source.drop_rest])
      rw [List.map_cons, offer_whitespace inert.notWhitespace bound, behind, solid, Nat.add_assoc]
    · by_cases declines : t.scan cs = .decline
      · obtain ⟨blanks, scan, fits, offered⟩ := ih cs
        refine ⟨blanks, scan, fits, fun {s p} inert bound rest => ?_⟩
        rw [List.map_cons, offer_literal (.of_inert inert) bound skips, rest, if_pos declines,
          offered inert bound rest]
      · refine ⟨0, t.scan cs, Nat.zero_le _, fun {s p} inert bound rest => ?_⟩
        rw [List.map_cons, offer_literal (.of_inert inert) bound skips, rest, if_neg declines,
          Nat.add_zero]

section Shift

variable {s t : Source} {p q : Nat} (sentinel : s.sentinel = t.sentinel) (rest : s.rest p = t.rest q)

include sentinel rest

/-- The same scan at places with the same clusters ahead. -/
theorem Scan.outcome_shifted (ts : List Transform) (scan : Scan) {n : Nat} (bound : p + n ≤ s.length)
    (within : q + n ≤ t.length) : ∃ outcome other m,
      scan.outcome ts s (p + n) = (outcome, .running ts s (p + m)) ∧
      scan.outcome ts t (q + n) = (other, .running ts t (q + m)) ∧
      Shifted ((q : Int) - p) outcome other := by
  have remaining := congrArg List.length rest
  rw [Source.length_rest, Source.length_rest] at remaining
  cases scan with
  | decline =>
    have same : s.clusterAt ((p + n : Nat) : Int) = t.clusterAt ((q + n : Nat) : Int) := by
      rw [Source.clusterAt_add, Source.clusterAt_add, rest, sentinel]
    refine ⟨_, _, n + 1, rfl, rfl, ?_⟩
    rw [same]
    exact .token _
  | accept token size =>
    refine ⟨.ok token, .ok token, n + size, ?_, ?_, .token token⟩
    · rw [Scan.outcome, Nat.add_assoc]
    · rw [Scan.outcome, Nat.add_assoc]
  | reject fault size =>
    -- both are held within their texts, which end equally far behind
    have here : min (p + n + size + 1) s.length = p + min (n + size + 1) (s.length - p) := by omega
    have there : min (q + n + size + 1) t.length = q + min (n + size + 1) (s.length - p) := by omega
    refine ⟨.error (.malformed { fault, location := s.locationAt (p + n : Nat) }),
      .error (.malformed { fault, location := t.locationAt (q + n : Nat) }),
      min (n + size + 1) (s.length - p), by rw [Scan.outcome, here], by rw [Scan.outcome, there],
      .fault rfl ?_⟩
    simp only [Source.locationAt_offset bound, Source.locationAt_offset within]
    omega

theorem Lexer.nextToken_shifted_of_rest (ts : List Transform) (inert : s.sentinel.Inert)
    (bound : p ≤ s.length) (within : q ≤ t.length) : ∃ outcome other m,
      (running ts s p).nextToken = (outcome, running ts s (p + m)) ∧
      (running ts t q).nextToken = (other, running ts t (q + m)) ∧
      Shifted ((q : Int) - p) outcome other := by
  obtain ⟨blanks, scan, fits, offered⟩ := Stage.exists_offer ts (s.rest p)
  have step := nextToken_of_offer bound (offered inert bound rfl)
  have restep := nextToken_of_offer within (offered (sentinel ▸ inert) within rest.symm)
  have remaining := congrArg List.length rest
  rw [Source.length_rest] at fits
  rw [Source.length_rest, Source.length_rest] at remaining
  rw [step, restep]
  exact scan.outcome_shifted sentinel rest ts (by omega) (by omega)

end Shift

/-- A step depends on nothing before its place: behind another text it finds the same token and moves
on as far, or it finds the same fault at the place that is as much further, and moves on as far. -/
theorem Lexer.nextToken_shifted {mark : Cluster} (inert : mark.Inert) (ts : List Transform)
    {lead other rest : List Cluster} (absent : mark ∉ lead) (missing : mark ∉ other)
    (ahead : mark ∉ rest) :
    ∃ s t, Source.ofClusters (lead ++ rest) mark = .ok s ∧
      Source.ofClusters (other ++ rest) mark = .ok t ∧
      ∃ outcome another n,
        (running ts s lead.length).nextToken = (outcome, running ts s (lead.length + n)) ∧
        (running ts t other.length).nextToken = (another, running ts t (other.length + n)) ∧
        Shifted ((other.length : Int) - lead.length) outcome another := by
  have read (cs : List Cluster) (without : mark ∉ cs) : ∃ s,
      Source.ofClusters (cs ++ rest) mark = .ok s ∧ s.sentinel = mark ∧ s.rest cs.length = rest ∧
        cs.length ≤ s.length := by
    have whole : mark ∉ cs ++ rest := by simp [without, ahead]
    refine ⟨{ clusters := (cs ++ rest).toArray, sentinel := mark, sentinel_notMem := by simpa using whole },
      dif_neg whole, rfl, ?_, ?_⟩
    · simp [Source.rest]
    · simp [Source.length]
  obtain ⟨s, opened, sentinel, behind, bound⟩ := read lead absent
  obtain ⟨t, reopened, same, again, within⟩ := read other missing
  exact ⟨s, t, opened, reopened, nextToken_shifted_of_rest (sentinel.trans same.symm)
    (behind.trans again.symm) ts (sentinel ▸ inert) bound within⟩

theorem Lexer.nextToken_shifted_blank :
    ∃ s t, Source.ofClusters (Scan.word "/\n" ++ Scan.word " 'ab") (.single '\x00') = .ok s ∧
      Source.ofClusters ([] ++ Scan.word " 'ab") (.single '\x00') = .ok t ∧
      ∃ outcome another n,
        (running [.endOfInput, .whitespace, .character] s 2).nextToken =
          (outcome, running [.endOfInput, .whitespace, .character] s (2 + n)) ∧
        (running [.endOfInput, .whitespace, .character] t 0).nextToken =
          (another, running [.endOfInput, .whitespace, .character] t (0 + n)) ∧
        Shifted (0 - 2) outcome another :=
  nextToken_shifted Cluster.inert_nul [.endOfInput, .whitespace, .character] (by decide) (by decide)
    (by decide)

/-! ## Four clusters ahead -/

section Ahead

variable {cs ds : List Cluster}

variable {p q stop : Nat} {token : Token}

/-- The cluster that is not blank shows where the blanks end. -/
theorem Skips.lookahead (skips : Skips cs p q) (far : q + 1 ≤ cs.length)
    (agree : cs.take (q + 1) = ds.take (q + 1)) : Skips ds p q where
  ahead := skips.ahead
  within := Nat.le_of_succ_le (length_le_of_take agree far)
  blank i c after before here :=
    skips.blank i c after before (by rw [getElem?_eq_of_take agree (by omega), here])
  solid c here := skips.solid c (by rw [getElem?_eq_of_take agree (by omega), here])

theorem Finds.le_stop (finds : Finds cs q (.ok token) stop) : q ≤ stop := by
  cases finds with
  | token literal => exact Nat.le_add_right ..
  | undefined here none => exact Nat.le_succ q

theorem Finds.lookahead (finds : Finds cs q (.ok token) stop) (far : stop + 4 ≤ cs.length)
    (agree : cs.take (stop + 4) = ds.take (stop + 4)) : Finds ds q (.ok token) stop := by
  cases finds with
  | token literal =>
    rename_i size
    have shown : (cs.drop q).take (size + 2) = (ds.drop q).take (size + 2) :=
      take_drop_eq (take_eq_of_le agree (by omega))
    refine .token (literal.lookahead rfl ?_ shown)
    rw [List.length_drop]
    omega
  | undefined here none =>
    -- the longest word that the cluster could begin is `false`
    have shown : (cs.drop q).take 5 = (ds.drop q).take 5 :=
      take_drop_eq (take_eq_of_le agree (by omega))
    refine .undefined ?_ (Literal.none_lookahead none shown)
    rw [← getElem?_eq_of_take agree (by omega), here]

theorem Reads.lookahead (reads : Reads cs p (.ok token) stop) (far : stop + 4 ≤ cs.length)
    (agree : cs.take (stop + 4) = ds.take (stop + 4)) : Reads ds p (.ok token) stop := by
  obtain ⟨q, skips, finds⟩ := reads
  have ahead := finds.le_stop
  have shown : cs.take (q + 1) = ds.take (q + 1) := take_eq_of_le agree (by omega)
  exact ⟨q, skips.lookahead (by omega) shown, finds.lookahead far agree⟩

end Ahead

/-- A token that the default lexer finds, and where it leaves the text, is decided by the clusters up
to there and the next four.  The end of the text and a comment that runs up to it are not such tokens,
since they have nothing behind them. -/
theorem Lexer.nextToken_lookahead {text other : String} {lexer another : Lexer}
    (opened : Lexer.ofText text {} = .ok lexer) (reopened : Lexer.ofText other {} = .ok another)
    {p stop : Nat} (bound : p ≤ (Cluster.ofText text).length) {token : Token}
    (step : (lexer.moveTo p).nextToken = (.ok token, lexer.moveTo stop))
    (far : stop + 4 ≤ (Cluster.ofText text).length)
    (agree : (Cluster.ofText text).take (stop + 4) = (Cluster.ofText other).take (stop + 4)) :
    (another.moveTo p).nextToken = (.ok token, another.moveTo stop) := by
  have known {text : String} {lexer : Lexer} (opened : Lexer.ofText text {} = .ok lexer) :
      ∃ s : Source, s.clusters.toList = Cluster.ofText text ∧ s.sentinel.Inert ∧
        lexer = running Transform.defaultOrder s 0 := by
    obtain ⟨s, clusters, sentinel, same⟩ :=
      exists_of_ofText (by decide : .endOfInput ∈ Transform.defaultOrder) ofText?_defaultSentinel opened
    exact ⟨s, clusters, sentinel ▸ Cluster.inert_nul, same⟩
  obtain ⟨s, clusters, inert, rfl⟩ := known opened
  obtain ⟨t, reclusters, reinert, rfl⟩ := known reopened
  rw [← clusters] at bound far agree
  rw [← reclusters] at agree
  obtain ⟨outcome, place, stepped, reads⟩ := exists_reads inert bound
  rw [moveTo_running, moveTo_running, stepped, Prod.mk.injEq, running_inj] at step
  obtain ⟨rfl, rfl⟩ := step
  -- the grammar says of the other text what it says of this one, and a step does what it says
  have rereads := reads.lookahead far agree
  have within : p ≤ t.length := by
    obtain ⟨q, skips, _⟩ := rereads
    exact Nat.le_trans skips.ahead skips.within
  obtain ⟨_, _, restepped, found⟩ := exists_reads reinert within
  obtain ⟨rfl, rfl⟩ := found.unique rereads
  rw [moveTo_running, moveTo_running, restepped]

theorem Lexer.nextToken_lookahead_word : ∃ lexer another,
    Lexer.ofText "fals1x" {} = .ok lexer ∧ Lexer.ofText "fals1 true" {} = .ok another ∧
    (lexer.moveTo 0).nextToken = (.ok (.undefined "f"), lexer.moveTo 1) ∧
    (another.moveTo 0).nextToken = (.ok (.undefined "f"), another.moveTo 1) := by
  obtain ⟨lexer, opened, reads⟩ := nextToken_reads (by decide : '\x00' ∉ "fals1x".toList)
  obtain ⟨another, reopened, _⟩ := nextToken_reads (by decide : '\x00' ∉ "fals1 true".toList)
  have clusters : Cluster.ofText "fals1x" = Scan.word "fals1x" := by decide +kernel
  rw [clusters] at reads
  have none (scan : Scan) : ¬ Literal (Scan.word "fals1x") scan := by
    intro literal
    obtain ⟨scans, t, rfl⟩ := Literal.iff_scan.mp literal
    cases t <;> exact scans (by decide)
  have skips : Skips (Scan.word "fals1x") 0 0 := by
    refine .stay (by decide) fun c first => ?_
    cases first
    decide
  have finds : Finds (Scan.word "fals1x") 0 (.ok (.undefined "f")) 1 :=
    .undefined (c := .single 'f') rfl none
  have step := (reads 0 (Nat.zero_le _) _ _).mpr ⟨1, ⟨0, skips, finds⟩, rfl⟩
  exact ⟨lexer, another, opened, reopened, step, nextToken_lookahead opened reopened (Nat.zero_le _)
    step (by decide +kernel) (by decide +kernel)⟩

end LiteralLexer
