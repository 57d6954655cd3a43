import LiteralLexer.Proofs.Lexer.Checked
import LiteralLexer.Proofs.Sequence

/-!
# Strides

Whether a read finds a cluster and whether it moves the cursor are two questions.  It finds one as long
as its stride stays within the text, and it moves as long as the stride leads at most to the sentinel
right behind the text.  So a cursor can stand at one place more than it can be moved to by hand, the
exhausted one, and gets there by a stride that ends exactly at the sentinel.  A longer stride finds the
sentinel as well, and does not move.

A host makes its calls with numbers, and a call that is refused has no effect.  What one call does is
said for each kind of call; the laws in `Source.Strides` follow from that for all places where a cursor
can stand, and calls lead to no others (`Cursor.performAll_strides`).
-/

namespace LiteralLexer

/-! ## Calls -/

namespace Cursor

/-- What a host may ask of a cursor. -/
inductive Call where
  | next
  | peek (stride : Binary64)
  | advance (stride : Binary64)
  | seek (position : Binary64)

/-- What a call comes to: a cluster, nothing if the cursor is only moved, or a refusal. -/
abbrev Answer := Except CursorError (Option Cluster)

/-- The answer to a read, and the cursor after it.  A refusal leaves the cursor as it is. -/
def performRead (c : Cursor) (stride : Binary64) (keep : Bool) : Answer × Cursor :=
  match c.read stride keep with
  | .ok (found, moved) => (.ok (some found), moved)
  | .error refusal => (.error refusal, c)

/-- The answer to a call, and the cursor after it. -/
def perform (c : Cursor) : Call → Answer × Cursor
  | .next => c.performRead (.ofInt 1) false
  | .peek stride => c.performRead stride true
  | .advance stride => c.performRead stride false
  | .seek position =>
    match c.seek position with
    | .ok moved => (.ok none, moved)
    | .error refusal => (.error refusal, c)

/-- The answers to calls, one after the other, and the cursor after them. -/
def performAll (c : Cursor) : List Call → List Answer × Cursor
  | [] => ([], c)
  | call :: calls =>
    let (answer, c) := c.perform call
    let (answers, c) := c.performAll calls
    (answer :: answers, c)

/-! ## Refusals -/

variable {c : Cursor} {stride position : Binary64}

theorem performRead_refused (refused : ∀ k : Nat, 0 < k → stride.toInt? ≠ some (k : Int))
    (keep : Bool) : c.performRead stride keep = (.error (.badStride stride), c) := by
  have nothing : stride.toInt?.bind (c.read? · keep) = none := by
    rw [Option.bind_eq_none_iff]
    intro n whole
    refine if_neg fun positive => ?_
    obtain ⟨k, rfl⟩ := Int.eq_ofNat_of_zero_le (Int.le_trans Int.one_nonneg positive)
    exact refused k (Int.ofNat_le.mp positive) whole
  rw [performRead, read_eq, nothing]

theorem performRead_keep {k : Nat} (positive : 0 < k) (whole : stride.toInt? = some (k : Int)) :
    c.performRead stride true = (.ok (some (c.peek k)), c) := by
  rw [performRead, read_eq, whole, Option.bind_some, c.read?_keep positive]

theorem performRead_advance {k : Nat} (positive : 0 < k) (whole : stride.toInt? = some (k : Int)) :
    c.performRead stride false = (.ok (some (c.advance k).1), (c.advance k).2) := by
  rw [performRead, read_eq, whole, Option.bind_some, c.read?_advance positive]

/-- A read is refused, whether it keeps the cursor or not, or it has a stride. -/
theorem performRead_cases (c : Cursor) (stride : Binary64) :
    (∀ keep, c.performRead stride keep = (.error (.badStride stride), c)) ∨
      ∃ k, 0 < k ∧ c.performRead stride true = (.ok (some (c.peek k)), c) ∧
        c.performRead stride false = (.ok (some (c.advance k).1), (c.advance k).2) := by
  by_cases valid : ∃ k : Nat, 0 < k ∧ stride.toInt? = some (k : Int)
  · obtain ⟨k, positive, whole⟩ := valid
    exact .inr ⟨k, positive, performRead_keep positive whole, performRead_advance positive whole⟩
  · exact .inl (performRead_refused fun k positive whole => valid ⟨k, positive, whole⟩)

theorem perform_seek {q : Nat} (bound : q ≤ c.length) (whole : position.toInt? = some (q : Int)) :
    c.perform (.seek position) = (.ok none, { c with position := q }) := by
  rw [perform, seek_place whole bound]

theorem perform_seek_refused (outside : ∀ q ≤ c.length, position.toInt? ≠ some (q : Int)) :
    c.perform (.seek position) = (.error (.badPosition c.length position), c) := by
  rw [perform, seek_refused outside]

end Cursor

namespace Source

variable {s : Source} {p : Nat}

/-! ## Where calls lead -/

theorem perform_next (bound : p ≤ s.length + 1) :
    (s.cursor p).perform .next =
      (.ok (some (s.clusterAt p)), s.cursor (min (p + 1) (s.length + 1))) := by
  have whole : (Binary64.ofInt 1).toInt? = some ((1 : Nat) : Int) := by decide
  rw [Cursor.perform, Cursor.performRead_advance Nat.one_pos whole]
  obtain within | exhausted := Nat.lt_or_eq_of_le bound
  · rw [advance_cursor rfl (Nat.le_of_lt_succ within), Nat.min_eq_left within]
  · rw [advance_beyond (by omega), clusterAt_behind (by omega), Nat.min_eq_right (by omega),
      exhausted]

theorem exists_advance (bound : p ≤ s.length + 1) {k : Nat} (positive : 0 < k) :
    ∃ q ≤ s.length + 1, ((s.cursor p).advance k).2 = s.cursor q := by
  obtain beyond | within := Nat.lt_or_ge (s.length + 1) (p + k)
  · exact ⟨p, bound, by rw [advance_beyond beyond]⟩
  · obtain ⟨q, target⟩ := Nat.exists_eq_add_one_of_ne_zero (show p + k ≠ 0 by omega)
    exact ⟨q + 1, by omega, by rw [advance_cursor target (by omega)]⟩

/-- No call leads to a place beyond the exhausted one. -/
theorem exists_perform (bound : p ≤ s.length + 1) (call : Cursor.Call) :
    ∃ q ≤ s.length + 1, ((s.cursor p).perform call).2 = s.cursor q := by
  cases call with
  | next => exact ⟨_, Nat.min_le_right _ _, by rw [perform_next bound]⟩
  | peek stride =>
    refine ⟨p, bound, ?_⟩
    rw [Cursor.perform]
    obtain refused | ⟨k, _, kept, _⟩ := (s.cursor p).performRead_cases stride
    · rw [refused]
    · rw [kept]
  | advance stride =>
    rw [Cursor.perform]
    obtain refused | ⟨k, positive, _, read⟩ := (s.cursor p).performRead_cases stride
    · exact ⟨p, bound, by rw [refused]⟩
    · rw [read]
      exact exists_advance bound positive
  | seek position =>
    by_cases inside : ∃ q ≤ s.length, position.toInt? = some (q : Int)
    · obtain ⟨q, place, whole⟩ := inside
      exact ⟨q, Nat.le_succ_of_le place, by rw [Cursor.perform_seek place whole]; rfl⟩
    · have outside : ∀ q ≤ (s.cursor p).length, position.toInt? ≠ some (q : Int) :=
        fun q place whole => inside ⟨q, place, whole⟩
      exact ⟨p, bound, by rw [Cursor.perform_seek_refused outside]⟩

theorem exists_performAll (bound : p ≤ s.length + 1) (calls : List Cursor.Call) :
    ∃ q ≤ s.length + 1, ((s.cursor p).performAll calls).2 = s.cursor q := by
  induction calls generalizing p with
  | nil => exact ⟨p, bound, rfl⟩
  | cons call calls ih =>
    obtain ⟨q, kept, step⟩ := exists_perform bound call
    obtain ⟨r, within, run⟩ := ih kept
    refine ⟨r, within, ?_⟩
    rw [← run, ← step]
    rfl

/-! ## Steps -/

theorem rest_next (bound : p ≤ s.length + 1) :
    s.rest (min (p + 1) (s.length + 1)) = (s.rest p).tail := by
  obtain within | rfl := Nat.lt_or_eq_of_le bound
  · rw [Nat.min_eq_left within, rest, rest, List.tail_drop]
  · have empty : s.rest (s.length + 1) = [] := by rw [← drop_rest, rest_final, List.drop_nil]
    rw [Nat.min_eq_right (Nat.le_succ _), empty, List.tail_nil]

/-- Steps find the clusters from the place on, and the sentinel once there are none left. -/
theorem performAll_next (bound : p ≤ s.length + 1) (n : Nat) :
    (s.cursor p).performAll (List.replicate n .next) =
      (((s.rest p).takeD n s.sentinel).map fun c => .ok (some c),
        s.cursor (min (p + n) (s.length + 1))) := by
  -- the place stays free: the first step leads to another one
  induction n generalizing p with
  | zero =>
    rw [Nat.add_zero, Nat.min_eq_left bound]
    rfl
  | succ n ih =>
    have first : s.clusterAt p = (s.rest p).head?.getD s.sentinel := by
      rw [List.head?_eq_getElem?]
      exact clusterAt_add 0
    have stop : min (min (p + 1) (s.length + 1) + n) (s.length + 1) =
        min (p + (n + 1)) (s.length + 1) := by omega
    rw [List.replicate_succ, Cursor.performAll, perform_next bound]
    simp only [ih (Nat.min_le_right _ _), rest_next bound, first, stop, List.takeD_succ,
      List.map_cons]

/-! ## Laws -/

/-- What a cursor does that stands at the place `p`.  A number that is not a whole stride from 1, or not
a place of the text, is refused. -/
structure Strides (s : Source) (p : Nat) : Prop where
  refuses_stride {stride : Binary64}
      (refused : ∀ k : Nat, 0 < k → stride.toInt? ≠ some (k : Int)) :
    (s.cursor p).perform (.peek stride) = (.error (.badStride stride), s.cursor p) ∧
      (s.cursor p).perform (.advance stride) = (.error (.badStride stride), s.cursor p)
  refuses_position {position : Binary64}
      (outside : ∀ q ≤ s.length, position.toInt? ≠ some (q : Int)) :
    (s.cursor p).perform (.seek position) = (.error (.badPosition s.length position), s.cursor p)
  seeks {position : Binary64} {q : Nat} (place : q ≤ s.length)
      (whole : position.toInt? = some (q : Int)) :
    (s.cursor p).perform (.seek position) = (.ok none, s.cursor q)
  /-- Peeking finds what advancing would find. -/
  peeks (stride : Binary64) :
    (s.cursor p).perform (.peek stride) = (((s.cursor p).perform (.advance stride)).1, s.cursor p)
  /-- A stride that ends at the sentinel or before it is that many steps. -/
  advances {stride : Binary64} {k : Nat} (positive : 0 < k) (whole : stride.toInt? = some (k : Int))
      (within : p + k ≤ s.length + 1) :
    ((s.cursor p).performAll (List.replicate k .next)).1.getLast? =
        some ((s.cursor p).perform (.advance stride)).1 ∧
      ((s.cursor p).performAll (List.replicate k .next)).2 =
        ((s.cursor p).perform (.advance stride)).2
  /-- A longer stride finds the sentinel and does not move. -/
  stays {stride : Binary64} {k : Nat} (whole : stride.toInt? = some (k : Int))
      (beyond : s.length + 1 < p + k) :
    (s.cursor p).perform (.advance stride) = (.ok (some s.sentinel), s.cursor p)
  steps (n : Nat) :
    (s.cursor p).performAll (List.replicate n .next) =
      (((s.rest p).takeD n s.sentinel).map fun c => .ok (some c),
        s.cursor (min (p + n) (s.length + 1)))

theorem strides (bound : p ≤ s.length + 1) : s.Strides p where
  refuses_stride refused :=
    ⟨Cursor.performRead_refused refused true, Cursor.performRead_refused refused false⟩
  refuses_position outside := Cursor.perform_seek_refused outside
  seeks place whole := Cursor.perform_seek place whole
  peeks stride := by
    rw [Cursor.perform, Cursor.perform]
    obtain refused | ⟨k, _, kept, read⟩ := (s.cursor p).performRead_cases stride
    · rw [refused, refused]
    · rw [kept, read]
      rfl
  advances {stride k} positive whole within := by
    obtain ⟨k, rfl⟩ := Nat.exists_eq_add_one_of_ne_zero positive.ne'
    have moved : (s.cursor p).advance (k + 1) =
        (s.clusterAt (p + k : Nat), s.cursor (p + (k + 1))) := advance_cursor rfl (by omega)
    rw [performAll_next bound, Cursor.perform, Cursor.performRead_advance positive whole, moved,
      Nat.min_eq_left within]
    refine ⟨?_, rfl⟩
    rw [List.getLast?_eq_getElem?, List.length_map, List.takeD_length, Nat.add_sub_cancel,
      List.getElem?_map, getElem?_takeD k.lt_succ_self, Option.map_some, clusterAt_add]
  stays {stride k} whole beyond := by
    rw [Cursor.perform, Cursor.performRead_advance (by omega) whole, advance_beyond beyond]
  steps n := performAll_next bound n

end Source

/-- On a text that does not have its sentinel, after any calls: the cursor stands at a place of the text,
right behind it, or exhausted one place further, and keeps to the laws of strides from there. -/
theorem Cursor.performAll_strides {text sentinel : String} {mark : Cluster}
    (alone : Cluster.ofText? sentinel = some mark) (absent : mark ∉ Cluster.ofText text) :
    ∃ s, Source.ofText text sentinel = .ok s ∧ s.clusters.toList = Cluster.ofText text ∧
      s.sentinel = mark ∧ ∀ calls, ∃ p ≤ s.length + 1,
        ((s.cursor 0).performAll calls).2 = s.cursor p ∧ s.Strides p := by
  obtain ⟨s, opened⟩ := Source.exists_ofText alone absent
  obtain ⟨clusters, same⟩ := Source.of_ofText alone opened
  refine ⟨s, opened, clusters, same, fun calls => ?_⟩
  obtain ⟨p, bound, run⟩ := Source.exists_performAll (Nat.zero_le _) calls
  exact ⟨p, bound, run, Source.strides bound⟩

/-- A stride over both clusters, a position that is refused and a step exhaust the cursor. -/
theorem Cursor.performAll_strides_exhausted :
    ∃ s, Source.ofText "ab" "\x00" = .ok s ∧ s.length = 2 ∧
      ((s.cursor 0).performAll [.advance (.ofInt 2), .seek (.ofInt 7), .next]).2 = s.cursor 3 ∧
      s.Strides 3 := by
  have spelled : Cluster.ofText "ab" = [.single 'a', .single 'b'] := by decide +kernel
  have alone : Cluster.ofText? "\x00" = some (.single '\x00') := by decide +kernel
  have absent : Cluster.single '\x00' ∉ Cluster.ofText "ab" := by
    rw [spelled]
    decide
  obtain ⟨s, opened, clusters, _, laws⟩ := performAll_strides alone absent
  have length : s.length = 2 := by
    rw [Source.length, ← Array.length_toList, clusters, spelled]
    rfl
  obtain ⟨p, _, run, strides⟩ := laws [.advance (.ofInt 2), .seek (.ofInt 7), .next]
  obtain rfl : 3 = p := by
    cases opened
    exact Int.ofNat_inj.mp (congrArg Cursor.position run)
  exact ⟨s, opened, length, run, strides⟩

end LiteralLexer
