import LiteralLexer.Proofs.Suggestion.Distance
import LiteralLexer.Suggestion.Basic
import Mathlib.Data.List.Pairwise

/-!
# The best matches

The names within reach are ranked by their distance and then by the alphabet, names that neither tells apart
in the order in which they were given, and the first three of the ranking are suggested
(`similarNamesBy_best`).

Nothing is asked of the alphabetical order but that it compares the candidates at hand in a consistent way, so
the facts about sorting are stated for a relation that is a total preorder on the items of one list.
-/

namespace LiteralLexer.Suggestion

/-! ## Sorting what is comparable -/

section Sorting

variable {β : Type} {le : β → β → Bool} {l : List β}

/-- A comparison that is transitive and total on the items of a list. -/
structure PreorderOn (le : β → β → Bool) (l : List β) : Prop where
  trans : ∀ a ∈ l, ∀ b ∈ l, ∀ c ∈ l, le a b → le b c → le a c
  total : ∀ a ∈ l, ∀ b ∈ l, le a b || le b a

/-- Sorting a list is sorting its items as members of it. -/
theorem map_mergeSort_attach (le : β → β → Bool) (l : List β) :
    (l.attach.mergeSort fun a b => le a.1 b.1).map Subtype.val = l.mergeSort le := by
  have mapped : (l.attach.mergeSort fun a b => le a.1 b.1).map Subtype.val =
      (l.attach.map Subtype.val).mergeSort le := List.map_mergeSort fun _ _ _ _ => rfl
  rw [mapped, List.attach_map_subtype_val]

theorem PreorderOn.pairwise_mergeSort (preorder : PreorderOn le l) :
    (l.mergeSort le).Pairwise fun a b => le a b = true := by
  rw [← map_mergeSort_attach, List.pairwise_map]
  exact List.pairwise_mergeSort (fun a b c => preorder.trans a.1 a.2 b.1 b.2 c.1 c.2)
    (fun a b => preorder.total a.1 a.2 b.1 b.2) _

theorem PreorderOn.sublist_mergeSort (preorder : PreorderOn le l) {p : β → Bool}
    (level : ∀ a ∈ l, ∀ b ∈ l, p a → p b → le a b) : (l.filter p).Sublist (l.mergeSort le) := by
  have members : l.filter p = (l.attach.filter (p ∘ Subtype.val)).map Subtype.val := by
    rw [← List.filter_map, List.attach_map_subtype_val]
  rw [members, ← map_mergeSort_attach]
  refine List.Sublist.map _ (List.sublist_mergeSort
    (fun a b c => preorder.trans a.1 a.2 b.1 b.2 c.1 c.2)
    (fun a b => preorder.total a.1 a.2 b.1 b.2) ?_ List.filter_sublist)
  rw [List.pairwise_filter]
  exact List.pairwise_of_forall fun a b => level a.1 a.2 b.1 b.2

/-- Items that are level with one another keep their order. -/
theorem PreorderOn.filter_mergeSort (preorder : PreorderOn le l) {p : β → Bool}
    (level : ∀ a ∈ l, ∀ b ∈ l, p a → p b → le a b) : (l.mergeSort le).filter p = l.filter p := by
  have kept := (preorder.sublist_mergeSort level).filter p
  rw [List.filter_filter] at kept
  simp only [Bool.and_self] at kept
  exact (kept.eq_of_length ((List.mergeSort_perm l le).filter p).length_eq.symm).symm

end Sorting

/-! ## Ranked names -/

/-- An alphabetical order that compares some names in a consistent way: either of two stands before the other
or they are level, and the order between three names closes. -/
structure Alphabetical (order : String → String → Ordering) (names : List String) : Prop where
  swap : ∀ a ∈ names, ∀ b ∈ names, order a b = (order b a).swap
  trans : ∀ a ∈ names, ∀ b ∈ names, ∀ c ∈ names,
    (order a b).isLE → (order b c).isLE → (order a c).isLE

theorem Alphabetical.of_transCmp (order : String → String → Ordering) [Std.TransCmp order]
    (names : List String) : Alphabetical order names where
  swap := fun _ _ _ _ => Std.OrientedCmp.eq_swap
  trans := fun _ _ _ _ _ _ => Std.TransCmp.isLE_trans

instance : Std.TransCmp collate :=
  inferInstanceAs <| Std.TransCmp <| compareLex (compareOn fun s => (collationKey s).1)
    (compareOn fun s => (collationKey s).2)

/-- How far a name is from the target. -/
def away (target name : String) : Nat := levenshtein (textUnits target) (textUnits name)

/-- The candidates within two edits of the target. -/
def near (target : String) (candidates : List String) : List String :=
  candidates.filter fun name => away target name ≤ 2

section Ranks

variable (order : String → String → Ordering) (target : String)

/-- A name may stand before another: it is closer to the target, or as close and not behind the other one in
the alphabet. -/
def RankedBefore (a b : String) : Prop :=
  away target a < away target b ∨ away target a = away target b ∧ (order a b).isLE = true

instance (a b : String) : Decidable (RankedBefore order target a b) :=
  inferInstanceAs (Decidable (_ ∨ _))

/-- Neither distance nor alphabet tells two names apart. -/
def Level (a b : String) : Prop := RankedBefore order target a b ∧ RankedBefore order target b a

instance (a b : String) : Decidable (Level order target a b) := inferInstanceAs (Decidable (_ ∧ _))

/-- A list of names in the order of their ranks, where names that are level keep the order they had. -/
structure IsRanking (names ranked : List String) : Prop where
  perm : ranked.Perm names
  sorted : ranked.Pairwise (RankedBefore order target)
  stable : ∀ a ∈ names, ranked.filter (Level order target a) = names.filter (Level order target a)

/-- The best three candidates for a target, in the order of their ranks. -/
structure BestMatches (candidates best : List String) : Prop where
  ranking : ∃ ranked, IsRanking order target (near target candidates) ranked ∧ best = ranked.take 3 ∧
    ∀ name ∈ best, ∀ omitted ∈ ranked.drop 3, RankedBefore order target name omitted
  length : best.length = min 3 (near target candidates).length
  sound : ∀ name ∈ best, name ∈ candidates ∧ away target name ≤ 2
  exact : target ∈ candidates → best.head? = some target

end Ranks

variable {order : String → String → Ordering} {target : String} {candidates : List String}

theorem mem_near {name : String} : name ∈ near target candidates ↔ name ∈ candidates ∧ away target name ≤ 2 := by
  simp [near]

theorem away_eq_zero_iff {name : String} : away target name = 0 ↔ target = name := by
  rw [away, levenshtein_eq_zero_iff, textUnits_inj]

theorem Level.symm {a b : String} (level : Level order target a b) : Level order target b a :=
  And.symm level

/-- Ranks compare as consistently as the alphabet does. -/
theorem Alphabetical.preorderOn (alphabetical : Alphabetical order candidates) (target : String) :
    PreorderOn (fun a b => decide (RankedBefore order target a b)) (near target candidates) where
  trans := by
    intro a inA b inB c inC first second
    have closes := alphabetical.trans a (mem_near.mp inA).1 b (mem_near.mp inB).1 c (mem_near.mp inC).1
    simp only [decide_eq_true_eq] at first second ⊢
    rcases first with closer | ⟨same, before⟩
    · rcases second with closer' | ⟨same', _⟩
      · exact .inl (closer.trans closer')
      · exact .inl (same' ▸ closer)
    · rcases second with closer' | ⟨same', before'⟩
      · exact .inl (same ▸ closer')
      · exact .inr ⟨same.trans same', closes before before'⟩
  total := by
    intro a inA b inB
    have swap := alphabetical.swap a (mem_near.mp inA).1 b (mem_near.mp inB).1
    simp only [Bool.or_eq_true, decide_eq_true_eq]
    rcases Nat.lt_trichotomy (away target a) (away target b) with closer | same | farther
    · exact .inl (.inl closer)
    · -- equally close: one of the two comparisons of the alphabet decides
      cases compared : order b a with
      | lt => exact .inr (.inr ⟨same.symm, by rw [compared]; rfl⟩)
      | eq => exact .inr (.inr ⟨same.symm, by rw [compared]; rfl⟩)
      | gt => exact .inl (.inr ⟨same, by rw [swap, compared]; rfl⟩)
    · exact .inr (.inl farther)

/-! ## The ranking that is computed -/

/-- The names within reach, sorted. -/
def ranking (order : String → String → Ordering) (target : String) (candidates : List String) : List String :=
  (near target candidates).mergeSort fun a b => decide (RankedBefore order target a b)

theorem distance_of_mem_scored {a : Scored} (member : a ∈ scored target candidates) :
    a.distance = away target a.name := by
  obtain ⟨name, _, rfl⟩ := List.mem_map.mp (List.mem_filter.mp member).1
  exact distance_eq target name

theorem map_scored (target : String) (candidates : List String) :
    (scored target candidates).map (·.name) = near target candidates := by
  simp only [scored, List.filter_map, List.map_map, near, Function.comp_def, List.map_id', distance_eq,
    maxDistance, away]
  rfl

theorem before_eq {a b : Scored} (inA : a ∈ scored target candidates) (inB : b ∈ scored target candidates) :
    Scored.before order a b = decide (RankedBefore order target a.name b.name) := by
  rw [Bool.eq_iff_iff, decide_eq_true_eq, RankedBefore, ← distance_of_mem_scored inA,
    ← distance_of_mem_scored inB, Scored.before, Ordering.isLE_then_iff_or, Nat.compare_eq_lt,
    Nat.compare_eq_eq]

theorem similarNamesBy_eq (nonempty : target ≠ "") :
    similarNamesBy order target candidates = (ranking order target candidates).take 3 := by
  have sorted : ((scored target candidates).mergeSort (Scored.before order)).map (·.name) =
      ranking order target candidates := by
    rw [ranking, ← map_scored]
    exact List.map_mergeSort fun a inA b inB => before_eq inA inB
  rw [similarNamesBy, ← sorted, ← List.map_take]
  split
  · -- without candidates the early exit gives what sorting would
    next none =>
    rcases none with empty | rfl
    · contradiction
    · simp [scored]
  · rfl

theorem isRanking_ranking (alphabetical : Alphabetical order candidates) (target : String) :
    IsRanking order target (near target candidates) (ranking order target candidates) where
  perm := List.mergeSort_perm _ _
  sorted := by
    have sorted := (alphabetical.preorderOn target).pairwise_mergeSort
    simpa only [decide_eq_true_eq, ranking] using sorted
  stable := by
    intro a inA
    have preorder := alphabetical.preorderOn target
    apply preorder.filter_mergeSort
    -- two names that are level with `a` are level with each other
    intro b inB c inC levelB levelC
    simp only [decide_eq_true_eq] at levelB levelC
    exact preorder.trans b inB a inA c inC (decide_eq_true levelB.2) (decide_eq_true levelC.1)

namespace IsRanking

variable {names ranked : List String}

/-- The target itself is at distance zero, and nothing else is. -/
theorem head?_eq (ranking : IsRanking order target names ranked) (member : target ∈ names) :
    ranked.head? = some target := by
  have within : target ∈ ranked := ranking.perm.mem_iff.mpr member
  cases ranked with
  | nil => contradiction
  | cons first rest =>
    rcases List.mem_cons.mp within with rfl | later
    · rfl
    · have zero : away target target = 0 := away_eq_zero_iff.mpr rfl
      have closest : away target first = 0 := by
        rcases List.rel_of_pairwise_cons ranking.sorted later with closer | ⟨same, _⟩
        · omega
        · rw [same, zero]
      rw [List.head?_cons, away_eq_zero_iff.mp closest]

theorem before_drop (ranking : IsRanking order target names ranked) (n : Nat) :
    ∀ name ∈ ranked.take n, ∀ omitted ∈ ranked.drop n, RankedBefore order target name omitted := by
  have sorted := ranking.sorted
  rw [← List.take_append_drop n ranked, List.pairwise_append] at sorted
  exact sorted.2.2

/-- There is only one ranking of names that are told apart. -/
theorem unique {names' ranked' : List String} (ranking : IsRanking order target names ranked)
    (ranking' : IsRanking order target names' ranked') (perm : names'.Perm names)
    (apart : names.Pairwise fun a b => ¬ Level order target a b) : ranked' = ranked := by
  have symm : Std.Symm fun a b => ¬ Level order target a b := ⟨fun _ _ apart level => apart level.symm⟩
  have only : ∀ a b, a ∈ ranked' → b ∈ ranked → RankedBefore order target a b →
      RankedBefore order target b a → a = b := by
    intro a b inA inB before behind
    by_contra other
    have memberA : a ∈ names := perm.mem_iff.mp (ranking'.perm.mem_iff.mp inA)
    exact apart.forall memberA (ranking.perm.mem_iff.mp inB) other ⟨before, behind⟩
  -- both are sorted by an order that is antisymmetric on them
  exact List.Perm.eq_of_pairwise only ranking'.sorted ranking.sorted
    (ranking'.perm.trans (perm.trans ranking.perm.symm))

end IsRanking

theorem Alphabetical.perm {permuted : List String} (alphabetical : Alphabetical order candidates)
    (perm : permuted.Perm candidates) : Alphabetical order permuted where
  swap := fun a inA b inB => alphabetical.swap a (perm.mem_iff.mp inA) b (perm.mem_iff.mp inB)
  trans := fun a inA b inB c inC =>
    alphabetical.trans a (perm.mem_iff.mp inA) b (perm.mem_iff.mp inB) c (perm.mem_iff.mp inC)

/-- The suggestions for a name are the best three matches among the candidates, whatever the alphabetical order
is.  If distance and alphabet tell the names within reach apart, it makes no difference in which order the
candidates are given. -/
theorem similarNamesBy_best (nonempty : target ≠ "") (alphabetical : Alphabetical order candidates) :
    BestMatches order target candidates (similarNamesBy order target candidates) ∧
      ((near target candidates).Pairwise (fun a b => ¬ Level order target a b) →
        ∀ permuted, permuted.Perm candidates →
          similarNamesBy order target permuted = similarNamesBy order target candidates) := by
  have ranks := isRanking_ranking alphabetical target
  rw [similarNamesBy_eq nonempty]
  refine ⟨⟨⟨_, ranks, rfl, ranks.before_drop 3⟩, ?_, ?_, ?_⟩, ?_⟩
  · rw [List.length_take, ranks.perm.length_eq]
  · intro name member
    exact mem_near.mp (ranks.perm.mem_iff.mp (List.mem_of_mem_take member))
  · intro member
    have within : target ∈ near target candidates :=
      mem_near.mpr ⟨member, (away_eq_zero_iff.mpr rfl).trans_le (by decide)⟩
    rw [List.head?_take, ranks.head?_eq within]
    rfl
  · intro apart permuted perm
    have ranks' := isRanking_ranking (alphabetical.perm perm) target
    rw [similarNamesBy_eq nonempty, ranks.unique ranks' (perm.filter _) apart]

/-- Of five candidates, four are within reach; three of them are as close as each other, and the alphabet
decides between them. -/
theorem similarNamesBy_best_flag :
    "flag" ≠ "" ∧ Alphabetical collate ["string", "flog", "Flag", "flag", "flat"] ∧
      (similarNamesBy collate "flag" ["string", "flog", "Flag", "flag", "flat"]).length = 3 ∧
      (similarNamesBy collate "flag" ["string", "flog", "Flag", "flag", "flat"]).head? = some "flag" ∧
      similarNamesBy collate "flag" ["flat", "Flag", "string", "flag", "flog"] =
        similarNamesBy collate "flag" ["string", "flog", "Flag", "flag", "flat"] := by
  have alphabetical := Alphabetical.of_transCmp collate ["string", "flog", "Flag", "flag", "flat"]
  obtain ⟨best, same⟩ := similarNamesBy_best (by decide : "flag" ≠ "") alphabetical
  have reach : (near "flag" ["string", "flog", "Flag", "flag", "flat"]).length = 4 := by decide +kernel
  have apart : (near "flag" ["string", "flog", "Flag", "flag", "flat"]).Pairwise
      fun a b => ¬ Level collate "flag" a b := by decide +kernel
  exact ⟨by decide, alphabetical, best.length.trans (by rw [reach]; rfl), best.exact (by decide),
    same apart _ (by decide)⟩

end LiteralLexer.Suggestion
