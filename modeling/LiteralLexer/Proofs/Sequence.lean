import Mathlib.Data.List.Basic
import Mathlib.Data.List.TakeDrop

/-!
# Lists and arrays

Facts about places in lists and arrays, and about lists that are put together from known parts.
-/

namespace LiteralLexer

/-! ## Places -/

theorem getElem?_takeD {α : Type} {n i : Nat} {l : List α} {a : α} (inside : i < n) :
    (l.takeD n a)[i]? = some (l[i]?.getD a) := by
  induction n generalizing i l with
  | zero => contradiction
  | succ n ih =>
    rw [List.takeD_succ]
    cases i with
    | zero => rw [List.getElem?_cons_zero, List.head?_eq_getElem?]
    | succ i => rw [List.getElem?_cons_succ, ih (Nat.lt_of_succ_lt_succ inside), List.getElem?_tail]

theorem getD_setIfInBounds (row : Array Nat) {i : Nat} (inside : i < row.size) (entry k : Nat) :
    (row.setIfInBounds i entry).getD k 0 = if i = k then entry else row.getD k 0 := by
  rw [Array.getD_eq_getD_getElem?, Array.getD_eq_getD_getElem?, Array.getElem?_setIfInBounds]
  split <;> simp_all

/-! ## Parts -/

/-- What stands before the first separator can be told from what stands behind it. -/
theorem append_cons_inj {α : Type} {c : α} {before before' behind behind' : List α} (absent : c ∉ before)
    (absent' : c ∉ before') (same : before ++ c :: behind = before' ++ c :: behind') :
    before = before' ∧ behind = behind' := by
  rcases List.append_eq_append_iff.mp same with ⟨more, rfl, rest⟩ | ⟨more, rfl, rest⟩
  · cases more with
    | nil => simpa using rest
    | cons d more =>
      cases rest
      simp at absent'
  · cases more with
    | nil => simpa [eq_comm] using rest
    | cons d more =>
      cases rest
      simp at absent

theorem intercalate_cons {α : Type} (separator x : List α) (xs : List (List α)) :
    separator.intercalate (x :: xs) = x ++ xs.flatMap (separator ++ ·) := by
  induction xs generalizing x with
  | nil => simp
  | cons y xs ih =>
    rw [List.intercalate_cons_cons, ih, List.flatMap_cons, List.append_assoc, List.append_assoc]

/-- An element of a list with known ends is one of them, or has the first of them behind it. -/
theorem ends_cases {α : Type} {left right front : List α} {a c d : α}
    (split : left ++ a :: right = front ++ [c, d]) : a = d ∨ a = c ∨ c ∈ right := by
  have ends : front ++ [c, d] = front ++ [c] ++ [d] := by simp
  rw [ends] at split
  rcases List.eq_nil_or_concat' right with rfl | ⟨right, last, rfl⟩
  · exact .inl (List.cons.inj (List.append_inj' split rfl).2).1
  · rw [← List.cons_append, ← List.append_assoc] at split
    have inner := (List.append_inj' split rfl).1
    rcases List.eq_nil_or_concat' right with rfl | ⟨right, second, rfl⟩
    · exact .inr (.inl (List.cons.inj (List.append_inj' inner rfl).2).1)
    · rw [← List.cons_append, ← List.append_assoc] at inner
      have same : second = c := (List.cons.inj (List.append_inj' inner rfl).2).1
      exact .inr (.inr (by simp [same]))

end LiteralLexer
