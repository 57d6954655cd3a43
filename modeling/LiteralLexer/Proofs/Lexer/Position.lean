import LiteralLexer.Proofs.Lexer.Progress

/-!
# Where a lexer may stand

The position of a lexer is meant to be a place of its text, so that it can be noted down and gone back
to.  A cursor may stand one place further, and whether a lexer ever does is a matter of its
transforms: if blanks are skipped and the end of the text is not looked for after that, the sentinel
is wrapped like any other cluster.  `Lexer.placed_iff` says that this is the only way out of the text.

What a host does with a lexer is a list of actions.  What one action preserves is said once
(`Lexer.Within.perform`), with the number of spare places behind the text as a parameter.
-/

namespace LiteralLexer

/-! ## Looking for the end of the text -/

namespace Transform

/-- If blanks are skipped, the end of the text is looked for after that. -/
def ChecksBlanks (ts : List Transform) : Prop :=
  .whitespace ∈ ts → .endOfInput ∈ ts.dropWhile (· ≠ .whitespace)

instance (ts : List Transform) : Decidable (ChecksBlanks ts) :=
  inferInstanceAs (Decidable (_ → _))

theorem checksBlanks_append {before after : List Transform} (first : .whitespace ∉ before) :
    ChecksBlanks (before ++ .whitespace :: after) ↔ .endOfInput ∈ after := by
  have others : ∀ t ∈ before, decide (t ≠ .whitespace) = true := by
    intro t member
    apply decide_eq_true
    rintro rfl
    exact first member
  rw [ChecksBlanks, List.dropWhile_append_of_pos others]
  simp

variable {ts : List Transform}

theorem scanFirst_size_le (ts : List Transform) (cs : List Cluster) :
    (scanFirst ts cs).size ≤ cs.length := by
  by_cases declines : scanFirst ts cs = .decline
  · rw [declines]
    exact Nat.zero_le _
  · obtain ⟨t, _, scan⟩ := exists_of_scanFirst declines
    rw [← scan] at declines ⊢
    exact (Literal.of_scan declines).size_le

/-- Only `endOfInput` makes anything of an exhausted text. -/
theorem scanFirst_nil : scanFirst ts [] = .decline ↔ .endOfInput ∉ ts := by
  simp [scanFirst_eq, owner?, scan, Scan.endOfInput]

theorem scanFirst_blank (ts : List Transform) : scanFirst ts [.single ' '] = .decline := by
  have unowned : owner? [.single ' '] = none := by decide
  rw [scanFirst_eq, unowned]

end Transform

theorem Source.solid_solid (s : Source) (p : Nat) : s.solid (s.solid p) = s.solid p := by
  obtain ⟨run, rest, split, _, stops, taken⟩ := exists_run Cluster.isWhitespace (s.rest p)
  have place : s.solid p = p + run.length := by rw [solid, taken]
  have remaining : s.rest (p + run.length) = rest := by
    rw [← drop_rest, split, List.drop_left]
  -- the remainder is an empty run and itself
  have none : ([] ++ rest).takeWhile Cluster.isWhitespace = [] := takeWhile_run (by simp) stops
  rw [List.nil_append] at none
  rw [place, solid, remaining, none, List.length_nil, Nat.add_zero]

/-! ## Steps -/

namespace Stage

variable {s : Source} {p : Nat}

theorem offer_append (stages more : List Stage) (r : Reading) :
    offer (stages ++ more) r =
      match offer stages r with
      | .decline r => offer more r
      | verdict => verdict := by
  induction stages generalizing r with
  | nil => rfl
  | cons stage stages ih =>
    rw [List.cons_append, offer, offer]
    cases stage.recognizer r with
    | decline r => exact ih r
    | accept | reject => rfl

/-- The transforms up to the first `whitespace` are asked at the place itself, and if they decline,
those after it are asked behind the blanks. -/
theorem offer_blanks (inert : s.sentinel.Inert) (bound : p ≤ s.length) {before : List Transform}
    (first : .whitespace ∉ before) (after : List Transform) :
    offer ((before ++ .whitespace :: after).map .builtin) (s.reading p) =
      if Transform.scanFirst before (s.rest p) = .decline then
        (Transform.scanFirst after (s.rest (s.solid p))).verdict s (s.solid p)
      else (Transform.scanFirst before (s.rest p)).verdict s p := by
  have behind : offer ((.whitespace :: after).map .builtin) (s.reading p) =
      (Transform.scanFirst after (s.rest (s.solid p))).verdict s (s.solid p) := by
    rw [List.map_cons, offer_whitespace inert.notWhitespace bound]
    exact offer_still (.of_inert inert) (Source.solid_le bound) fun _ => s.solid_solid p
  rw [List.map_append, offer_append, offer_literals (.of_inert inert) bound first]
  cases Transform.scanFirst before (s.rest p) with
  | decline => exact behind
  | accept | reject => rfl

/-- A lexer that checks for the end of the text behind blanks does not decline there. -/
theorem offer_checked (inert : s.sentinel.Inert) (bound : p ≤ s.length) {ts : List Transform}
    (noticed : .endOfInput ∈ ts) (checks : Transform.ChecksBlanks ts) :
    ∃ q us, q ≤ s.length ∧
      offer (ts.map .builtin) (s.reading p) = (Transform.scanFirst us (s.rest q)).verdict s q ∧
      (Transform.scanFirst us (s.rest q) = .decline → q < s.length) := by
  -- a place where `endOfInput` is asked and declines is not the end of the text
  have inside {q : Nat} {us : List Transform} (within : q ≤ s.length) (asked : .endOfInput ∈ us)
      (declines : Transform.scanFirst us (s.rest q) = .decline) : q < s.length := by
    apply Nat.lt_of_le_of_ne within
    rintro rfl
    rw [s.rest_final] at declines
    exact Transform.scanFirst_nil.mp declines asked
  by_cases blanks : .whitespace ∈ ts
  · obtain ⟨before, after, rfl, first⟩ := List.eq_append_cons_of_mem blanks
    rw [offer_blanks inert bound first]
    by_cases declines : Transform.scanFirst before (s.rest p) = .decline
    · have within := Source.solid_le bound
      have asked := (Transform.checksBlanks_append first).mp checks
      exact ⟨s.solid p, after, within, if_pos declines, inside within asked⟩
    · exact ⟨p, before, bound, if_neg declines, fun declined => absurd declined declines⟩
  · exact ⟨p, ts, bound, offer_literals (.of_inert inert) bound blanks, inside bound noticed⟩

end Stage

namespace Lexer

variable {ts : List Transform} {s : Source} {p : Nat}

theorem nextToken_checked (inert : s.sentinel.Inert) (noticed : .endOfInput ∈ ts)
    (checks : Transform.ChecksBlanks ts) (bound : p ≤ s.length) :
    ∃ outcome stop, (running ts s p).nextToken = (outcome, running ts s stop) ∧
      stop ≤ s.length := by
  obtain ⟨q, us, within, offered, inside⟩ := Stage.offer_checked inert bound noticed checks
  have step := nextToken_of_offer bound offered
  have fits := Transform.scanFirst_size_le us (s.rest q)
  rw [Source.length_rest] at fits
  generalize Transform.scanFirst us (s.rest q) = scan at step fits inside
  cases scan with
  | accept token size =>
    refine ⟨_, _, step, ?_⟩
    simp only [Scan.size] at fits
    omega
  | reject fault size => exact ⟨_, _, step, Nat.min_le_right _ _⟩
  | decline => exact ⟨_, _, step, inside rfl⟩

/-- Without the check, the sentinel behind a blank is wrapped and the lexer leaves its text. -/
theorem nextToken_unchecked (inert : s.sentinel.Inert) (unchecked : ¬ Transform.ChecksBlanks ts)
    (blank : s.clusters.toList = [.single ' ']) :
    (running ts s 0).nextToken.2 = running ts s 2 := by
  have blanks : .whitespace ∈ ts := by
    by_contra plain
    exact unchecked fun member => absurd member plain
  obtain ⟨before, after, rfl, first⟩ := List.eq_append_cons_of_mem blanks
  have unasked := mt (Transform.checksBlanks_append first).mpr unchecked
  have size : s.length = 1 := by
    rw [Source.length, ← Array.length_toList, blank, List.length_singleton]
  have rest : s.rest 0 = [.single ' '] := blank
  have solid : s.solid 0 = s.length := by
    rw [Source.solid, rest, size]
    rfl
  have offered : Stage.offer ((before ++ .whitespace :: after).map .builtin) (s.reading 0) =
      Scan.decline.verdict s s.length := by
    rw [Stage.offer_blanks inert (Nat.zero_le _) first, rest,
      if_pos (Transform.scanFirst_blank before), solid, s.rest_final,
      Transform.scanFirst_nil.mpr unasked]
  rw [nextToken_of_offer (Nat.zero_le _) offered, Scan.outcome, size]

/-! ## Actions -/

/-- What a host may do with a lexer. -/
inductive Action where
  | nextToken
  | tryNextToken
  | seek (position : Binary64)
  | setText (text : String)

/-- The lexer after an action.  A lexer that cannot be moved, or cannot be given another text, stays
as it is. -/
def perform (l : Lexer) : Action → Lexer
  | .nextToken => l.nextToken.2
  | .tryNextToken => l.tryNextToken.2
  | .seek position => (l.seek position).toOption.getD l
  | .setText text => (l.setText text).toOption.getD l

/-- The lexer after actions, one after the other. -/
def performAll (l : Lexer) (actions : List Action) : Lexer := actions.foldl perform l

/-- The position of a lexer is a place of its text, and the lexer can be moved to where it is. -/
structure Placed (l : Lexer) : Prop where
  nonneg : 0 ≤ l.position
  le_length : l.position ≤ (Cluster.ofText l.text).length
  seek : ∀ position : Binary64, position.toInt? = some l.position → l.seek position = .ok l

/-- A lexer over the given transforms that reads up to the usual sentinel and stands in its text, or
at most so many places behind it. -/
inductive Within (ts : List Transform) (spare : Nat) : Lexer → Prop where
  | intro {s : Source} {p : Nat} (sentinel : s.sentinel = .single '\x00')
      (cut : Cluster.ofText s.text = s.clusters.toList) (bound : p ≤ s.length + spare) :
      Within ts spare (running ts s p)

namespace Within

variable {spare : Nat} {l : Lexer}

theorem ofText {text : String} (noticed : .endOfInput ∈ ts)
    (opened : Lexer.ofText text { stages := ts.map .builtin } = .ok l) : Within ts spare l := by
  obtain ⟨s, clusters, sentinel, rfl⟩ := exists_of_ofText noticed ofText?_defaultSentinel opened
  refine .intro sentinel ?_ (Nat.zero_le _)
  rw [Source.text, clusters, Cluster.joinText_ofText]

theorem seek {m : Lexer} {position : Binary64} (within : Within ts spare l)
    (moved : l.seek position = .ok m) : Within ts spare m := by
  obtain ⟨sentinel, cut, _⟩ := within
  rename_i s p _
  simp only [Lexer.seek, Cursor.seek] at moved
  split at moved
  · next n whole =>
    split at moved
    · next inside =>
      -- a number that is accepted is a place of the text
      obtain ⟨q, rfl⟩ := Int.eq_ofNat_of_zero_le inside.1
      cases moved
      have bound : q ≤ s.length := Int.ofNat_le.mp inside.2
      exact .intro sentinel cut (Nat.le_trans bound (Nat.le_add_right _ _))
    · contradiction
  · contradiction

theorem setText {m : Lexer} {text : String} (within : Within ts spare l)
    (replaced : l.setText text = .ok m) : Within ts spare m := by
  obtain ⟨sentinel, cut, _⟩ := within
  simp only [Lexer.setText, Source.ofClusters] at replaced
  split at replaced
  · contradiction
  · cases replaced
    refine .intro sentinel ?_ (Nat.zero_le _)
    rw [Source.text, List.toList_toArray, Cluster.joinText_ofText]

/-- What a step keeps, every action keeps. -/
theorem perform (keeps : ∀ {s : Source} {p : Nat}, s.sentinel.Inert → p ≤ s.length + spare →
      ∃ stop, (running ts s p).nextToken.2 = running ts s stop ∧ stop ≤ s.length + spare)
    (within : Within ts spare l) (action : Action) : Within ts spare (l.perform action) := by
  have next : Within ts spare l.nextToken.2 := by
    obtain ⟨sentinel, cut, bound⟩ := within
    obtain ⟨stop, step, kept⟩ := keeps (sentinel ▸ Cluster.inert_nul) bound
    rw [step]
    exact .intro sentinel cut kept
  cases action with
  | nextToken => exact next
  | tryNextToken =>
    rw [Lexer.perform, tryNextToken_snd]
    exact next
  | seek position =>
    rw [Lexer.perform]
    cases moved : l.seek position with
    | error => exact within
    | ok m => exact within.seek moved
  | setText text =>
    rw [Lexer.perform]
    cases replaced : l.setText text with
    | error => exact within
    | ok m => exact within.setText replaced

theorem performAll (keeps : ∀ {s : Source} {p : Nat}, s.sentinel.Inert → p ≤ s.length + spare →
      ∃ stop, (running ts s p).nextToken.2 = running ts s stop ∧ stop ≤ s.length + spare)
    (within : Within ts spare l) (actions : List Action) :
    Within ts spare (l.performAll actions) := by
  induction actions generalizing l with
  | nil => exact within
  | cons action actions ih => exact ih (within.perform keeps action)

theorem bounds (within : Within ts spare l) :
    0 ≤ l.position ∧ l.position ≤ (Cluster.ofText l.text).length + spare := by
  obtain ⟨_, cut, bound⟩ := within
  rename_i s p _
  have text : (Lexer.running ts s p).text = s.text := rfl
  have position : (Lexer.running ts s p).position = p := rfl
  rw [text, position, cut, Array.length_toList]
  simp only [Source.length] at bound
  omega

theorem placed (within : Within ts 0 l) : l.Placed where
  nonneg := within.bounds.1
  le_length := within.bounds.2
  seek position whole := by
    obtain ⟨_, _, bound⟩ := within
    exact seek_eq_moveTo whole bound

end Within

end Lexer

theorem Advances.stop_le {length p stop : Nat} {outcome : Except LexFailure Token}
    (advances : Advances length p outcome stop) : stop ≤ length + 1 := by
  cases advances with
  | fails within => exact Nat.le_succ_of_le within
  | ends => exact Nat.le_succ length
  | moves _ _ _ within => exact within

/-- A lexer over builtin transforms that notice the end of the text stands in its text or one place
behind it, whatever is done with it.  It always stands in its text, and can be moved to where it is,
just if its transforms look for the end of the text after blanks. -/
theorem Lexer.placed_iff {ts : List Transform} (noticed : .endOfInput ∈ ts) :
    (∀ text lexer actions, Lexer.ofText text { stages := ts.map .builtin } = .ok lexer →
      0 ≤ (lexer.performAll actions).position ∧ (lexer.performAll actions).position ≤
        (Cluster.ofText (lexer.performAll actions).text).length + 1) ∧
    ((∀ text lexer actions, Lexer.ofText text { stages := ts.map .builtin } = .ok lexer →
      (lexer.performAll actions).Placed) ↔ Transform.ChecksBlanks ts) := by
  refine ⟨fun text lexer actions opened => ?_, fun placed => ?_,
    fun checks text lexer actions opened => ?_⟩
  · have within : Within ts 1 lexer := .ofText noticed opened
    refine (within.performAll (fun inert bound => ?_) actions).bounds
    obtain ⟨outcome, stop, step, advances⟩ := nextToken_advances inert noticed bound
    exact ⟨stop, by rw [step], advances.stop_le⟩
  · by_contra unchecked
    -- one blank is enough: the end of the text behind it is not noticed
    have clusters : Cluster.ofText " " = [.single ' '] := by decide +kernel
    have absent : Cluster.single '\x00' ∉ Cluster.ofText " " := by
      rw [clusters]
      decide
    obtain ⟨s, cut, sentinel, opened⟩ := ofText_running noticed ofText?_defaultSentinel absent
    have inert : s.sentinel.Inert := sentinel ▸ Cluster.inert_nul
    have left : (running ts s 0).performAll [.nextToken] = running ts s 2 :=
      nextToken_unchecked inert unchecked (cut.trans clusters)
    have bound := (placed " " _ [.nextToken] opened).le_length
    have text : (running ts s 2).text = " " := by
      rw [Lexer.text, running, Source.text, cut, Cluster.joinText_ofText]
    rw [left, text, clusters] at bound
    have place : (running ts s 2).position = 2 := rfl
    rw [place] at bound
    contradiction
  · have within : Within ts 0 lexer := .ofText noticed opened
    refine (within.performAll (fun inert bound => ?_) actions).placed
    obtain ⟨outcome, stop, step, kept⟩ := nextToken_checked inert noticed checks bound
    exact ⟨stop, by rw [step], kept⟩

/-- The usual transforms look for the end of the text right after blanks. -/
theorem Lexer.placed_defaults :
    ∃ lexer, Lexer.ofText " " {} = .ok lexer ∧
      (lexer.performAll [.nextToken, .setText "'a", .tryNextToken]).Placed := by
  have placed := (placed_iff (by decide : .endOfInput ∈ Transform.defaultOrder)).2.mpr (by decide)
  exact ⟨_, rfl, placed " " _ _ rfl⟩

/-- Without the check, a lexer of one blank reports the place 2, and cannot be moved there. -/
theorem Lexer.not_placed_blanks_last :
    ∃ lexer, Lexer.ofText " " { stages := [.builtin .endOfInput, .builtin .whitespace] } =
        .ok lexer ∧
      (lexer.perform .nextToken).position = 2 ∧
      (Cluster.ofText (lexer.perform .nextToken).text).length = 1 ∧
      (lexer.perform .nextToken).seek (.ofInt 2) = .error (.badPosition 1 (.ofInt 2)) :=
  ⟨_, rfl, by decide +kernel, by decide +kernel, rfl⟩

end LiteralLexer
