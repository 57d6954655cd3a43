import Mathlib.Order.Bounds.Basic

/-!
# Scripts of edits

An edit inserts an item into a list, deletes one or puts another in its place; a script makes edits one
after the other.  `levenshtein` is the recursion that compares two lists from their fronts, and it is the
length of a shortest script (`isLeast_levenshtein`): its own case split builds a script of that length, and
no edit of the first list brings it closer to the second by more than one.

All that is known of distances follows from scripts: they can be read backwards, joined, and mirrored.  The
last of these gives the recursion from the ends of the lists (`levenshtein_concat`), which is the one that a
table of prefixes is filled in by.
-/

namespace LiteralLexer.Suggestion

variable {α : Type} {as bs cs : List α} {n m : Nat}

/-! ## Edits and scripts -/

/-- One insertion, deletion or substitution, anywhere in a list. -/
inductive Edit : List α → List α → Prop where
  | insert (before : List α) (a : α) (behind : List α) :
      Edit (before ++ behind) (before ++ a :: behind)
  | delete (before : List α) (a : α) (behind : List α) :
      Edit (before ++ a :: behind) (before ++ behind)
  | substitute (before : List α) (a b : α) (behind : List α) :
      Edit (before ++ a :: behind) (before ++ b :: behind)

/-- A script of `n` edits that turns one list into another. -/
inductive Edits : Nat → List α → List α → Prop where
  | done {as : List α} : Edits 0 as as
  | edit {n : Nat} {as bs cs : List α} (first : Edit as bs) (rest : Edits n bs cs) : Edits (n + 1) as cs

namespace Edit

theorem symm (edit : Edit as bs) : Edit bs as := by
  cases edit with
  | insert before a behind => exact .delete before a behind
  | delete before a behind => exact .insert before a behind
  | substitute before a b behind => exact .substitute before b a behind

theorem cons (a : α) (edit : Edit as bs) : Edit (a :: as) (a :: bs) := by
  cases edit with
  | insert before b behind => exact .insert (a :: before) b behind
  | delete before b behind => exact .delete (a :: before) b behind
  | substitute before b c behind => exact .substitute (a :: before) b c behind

theorem reverse (edit : Edit as bs) : Edit as.reverse bs.reverse := by
  cases edit with
  | insert before a behind => simpa using Edit.insert behind.reverse a before.reverse
  | delete before a behind => simpa using Edit.delete behind.reverse a before.reverse
  | substitute before a b behind => simpa using Edit.substitute behind.reverse a b before.reverse

theorem length_le (edit : Edit as bs) : as.length ≤ bs.length + 1 := by
  cases edit with
  | insert | delete | substitute =>
    simp only [List.length_append, List.length_cons]
    omega

end Edit

namespace Edits

theorem single (edit : Edit as bs) : Edits 1 as bs := .edit edit .done

theorem trans (left : Edits n as bs) (right : Edits m bs cs) : Edits (n + m) as cs := by
  induction left with
  | done => rwa [Nat.zero_add]
  | edit first _ ih =>
    rw [Nat.add_right_comm]
    exact .edit first (ih right)

theorem symm (edits : Edits n as bs) : Edits n bs as := by
  induction edits with
  | done => exact .done
  | edit first _ ih => exact ih.trans (single first.symm)

theorem cons (a : α) (edits : Edits n as bs) : Edits n (a :: as) (a :: bs) := by
  induction edits with
  | done => exact .done
  | edit first _ ih => exact .edit (first.cons a) ih

theorem reverse (edits : Edits n as bs) : Edits n as.reverse bs.reverse := by
  induction edits with
  | done => exact .done
  | edit first _ ih => exact .edit first.reverse ih

theorem length_le (edits : Edits n as bs) : as.length ≤ bs.length + n := by
  induction edits with
  | done => exact Nat.le_refl _
  | edit first _ ih =>
    have := first.length_le
    omega

theorem eq_of_zero (edits : Edits 0 as bs) : as = bs := by
  cases edits with
  | done => rfl

/-- Inserting all items of a list one by one. -/
theorem of_nil (bs : List α) : Edits bs.length [] bs := by
  induction bs with
  | nil => exact .done
  | cons b bs ih => exact .edit (.insert [] b []) (ih.cons b)

end Edits

/-! ## The recursive distance -/

variable [DecidableEq α]

/-- The distance of two lists by recursion from their fronts: the first item of the one is deleted, the
first item of the other is inserted, or the two are matched, which costs nothing if they are equal. -/
def levenshtein : List α → List α → Nat
  | [], bs => bs.length
  | as, [] => as.length
  | a :: as, b :: bs =>
    min (min (levenshtein as (b :: bs) + 1) (levenshtein (a :: as) bs + 1))
      (levenshtein as bs + if a = b then 0 else 1)
termination_by as bs => as.length + bs.length

@[simp] theorem levenshtein_nil_left (bs : List α) : levenshtein [] bs = bs.length := by
  rw [levenshtein]

@[simp] theorem levenshtein_nil_right (as : List α) : levenshtein as [] = as.length := by
  cases as <;> simp [levenshtein]

theorem levenshtein_cons_cons (a b : α) (as bs : List α) :
    levenshtein (a :: as) (b :: bs) =
      min (min (levenshtein as (b :: bs) + 1) (levenshtein (a :: as) bs + 1))
        (levenshtein as bs + if a = b then 0 else 1) := by
  rw [levenshtein]

theorem levenshtein_self (as : List α) : levenshtein as as = 0 := by
  induction as with
  | nil => simp
  | cons a as ih => simp [levenshtein_cons_cons, ih]

/-- The recursion describes a script of that many edits. -/
theorem edits_levenshtein (as bs : List α) : Edits (levenshtein as bs) as bs := by
  induction as, bs using levenshtein.induct with
  | case1 bs =>
    rw [levenshtein_nil_left]
    exact .of_nil bs
  | case2 as _ =>
    rw [levenshtein_nil_right]
    exact (Edits.of_nil as).symm
  | case3 a as b bs deleted inserted matched =>
    rw [levenshtein_cons_cons]
    -- whichever of the three is least, there is a script for it
    refine min_rec' (Edits · _ _) (min_rec' (Edits · _ _) ?_ ?_) ?_
    · exact .edit (.delete [] a as) deleted
    · exact inserted.trans (.single (.insert [] b bs))
    · split
      · next same =>
        subst same
        exact matched.cons a
      · exact .edit (.substitute [] a b as) (matched.cons b)

/-! ## Edits against the recursion -/

/-- Deleting the first item costs at most one. -/
theorem levenshtein_cons_le (a : α) (as bs : List α) :
    levenshtein (a :: as) bs ≤ levenshtein as bs + 1 := by
  cases bs with
  | nil => simp
  | cons b bs =>
    rw [levenshtein_cons_cons]
    omega

/-- Inserting a first item into the second list costs at most one. -/
theorem levenshtein_le_cons (as : List α) (b : α) (bs : List α) :
    levenshtein as (b :: bs) ≤ levenshtein as bs + 1 := by
  cases as with
  | nil => simp
  | cons a as =>
    rw [levenshtein_cons_cons]
    omega

theorem levenshtein_le_insert (a : α) (as bs : List α) :
    levenshtein as bs ≤ levenshtein (a :: as) bs + 1 := by
  induction bs with
  | nil =>
    rw [levenshtein_nil_right, levenshtein_nil_right, List.length_cons]
    omega
  | cons b bs ih =>
    have := levenshtein_le_cons as b bs
    rw [levenshtein_cons_cons]
    omega

theorem levenshtein_le_substitute (a b : α) (as bs : List α) :
    levenshtein (a :: as) bs ≤ levenshtein (b :: as) bs + 1 := by
  induction bs with
  | nil => simp
  | cons c bs ih =>
    rw [levenshtein_cons_cons, levenshtein_cons_cons]
    split <;> split <;> omega

/-- An edit behind the first items brings the lists no closer than it brings the rest of them. -/
theorem levenshtein_le_behind (c : α) (closer : ∀ cs, levenshtein as cs ≤ levenshtein bs cs + 1)
    (cs : List α) : levenshtein (c :: as) cs ≤ levenshtein (c :: bs) cs + 1 := by
  induction cs with
  | nil => simpa using closer []
  | cons d cs ih =>
    have longer := closer (d :: cs)
    have shorter := closer cs
    rw [levenshtein_cons_cons, levenshtein_cons_cons]
    omega

theorem levenshtein_le_append (before : List α)
    (closer : ∀ cs, levenshtein as cs ≤ levenshtein bs cs + 1) (cs : List α) :
    levenshtein (before ++ as) cs ≤ levenshtein (before ++ bs) cs + 1 := by
  induction before generalizing cs with
  | nil => exact closer cs
  | cons c before ih => exact levenshtein_le_behind c ih cs

/-- An edit brings a list closer to another by at most one. -/
theorem Edit.levenshtein_le (edit : Edit as bs) (cs : List α) :
    levenshtein as cs ≤ levenshtein bs cs + 1 := by
  cases edit with
  | insert before a behind => exact levenshtein_le_append before (levenshtein_le_insert a behind) cs
  | delete before a behind => exact levenshtein_le_append before (levenshtein_cons_le a behind) cs
  | substitute before a b behind =>
    exact levenshtein_le_append before (levenshtein_le_substitute a b behind) cs

theorem levenshtein_le_of_edits (edits : Edits n as bs) : levenshtein as bs ≤ n := by
  induction edits with
  | done => exact (levenshtein_self _).le
  | edit first _ ih => exact (first.levenshtein_le _).trans (Nat.succ_le_succ ih)

/-- The recursion computes the length of a shortest script. -/
theorem isLeast_levenshtein (as bs : List α) : IsLeast {n | Edits n as bs} (levenshtein as bs) :=
  ⟨edits_levenshtein as bs, fun _ => levenshtein_le_of_edits⟩

/-! ## What follows from scripts -/

theorem levenshtein_comm (as bs : List α) : levenshtein as bs = levenshtein bs as :=
  Nat.le_antisymm (levenshtein_le_of_edits (edits_levenshtein bs as).symm)
    (levenshtein_le_of_edits (edits_levenshtein as bs).symm)

theorem levenshtein_triangle (as bs cs : List α) :
    levenshtein as cs ≤ levenshtein as bs + levenshtein bs cs :=
  levenshtein_le_of_edits ((edits_levenshtein as bs).trans (edits_levenshtein bs cs))

theorem levenshtein_eq_zero_iff : levenshtein as bs = 0 ↔ as = bs := by
  constructor
  · intro zero
    have edits := edits_levenshtein as bs
    rw [zero] at edits
    exact edits.eq_of_zero
  · rintro rfl
    exact levenshtein_self as

theorem length_le_levenshtein (as bs : List α) : as.length ≤ bs.length + levenshtein as bs :=
  (edits_levenshtein as bs).length_le

/-- Substituting as long as there are items on both sides. -/
theorem levenshtein_le_max (as bs : List α) : levenshtein as bs ≤ max as.length bs.length := by
  -- only the matching branch is needed, the other two can only be less
  induction as, bs using levenshtein.induct with
  | case1 bs => simp
  | case2 as _ => simp
  | case3 a as b bs _ _ matched =>
    rw [levenshtein_cons_cons, List.length_cons, List.length_cons]
    split <;> omega

theorem levenshtein_reverse (as bs : List α) :
    levenshtein as.reverse bs.reverse = levenshtein as bs := by
  apply Nat.le_antisymm
  · exact levenshtein_le_of_edits (edits_levenshtein as bs).reverse
  · have edits := (edits_levenshtein as.reverse bs.reverse).reverse
    rw [List.reverse_reverse, List.reverse_reverse] at edits
    exact levenshtein_le_of_edits edits

/-- The recursion from the ends of the lists. -/
theorem levenshtein_concat (as : List α) (a : α) (bs : List α) (b : α) :
    levenshtein (as ++ [a]) (bs ++ [b]) =
      min (min (levenshtein as (bs ++ [b]) + 1) (levenshtein (as ++ [a]) bs + 1))
        (levenshtein as bs + if a = b then 0 else 1) := by
  rw [← levenshtein_reverse, ← levenshtein_reverse as (bs ++ [b]), ← levenshtein_reverse (as ++ [a]) bs,
    ← levenshtein_reverse as bs, List.reverse_concat, List.reverse_concat, levenshtein_cons_cons]

/-- A distance of lists that is the length of a shortest script, and what follows from that. -/
structure IsEditDistance (distance : List α → List α → Nat) : Prop where
  least : ∀ as bs, IsLeast {n | Edits n as bs} (distance as bs)
  symm : ∀ as bs, distance as bs = distance bs as
  eq_zero_iff : ∀ as bs, distance as bs = 0 ↔ as = bs
  length_le : ∀ as bs, ((as.length : Int) - bs.length).natAbs ≤ distance as bs
  le_length : ∀ as bs, distance as bs ≤ max as.length bs.length
  triangle : ∀ as bs cs, distance as cs ≤ distance as bs + distance bs cs

theorem isEditDistance_levenshtein : IsEditDistance (@levenshtein α _) where
  least := isLeast_levenshtein
  symm := levenshtein_comm
  eq_zero_iff := fun _ _ => levenshtein_eq_zero_iff
  length_le := by
    intro as bs
    have left := length_le_levenshtein as bs
    have right := length_le_levenshtein bs as
    rw [levenshtein_comm] at right
    omega
  le_length := levenshtein_le_max
  triangle := levenshtein_triangle

end LiteralLexer.Suggestion
