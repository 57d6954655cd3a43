import LiteralLexer.Cluster.Basic
import Mathlib.Data.List.TakeWhile

/-!
# Longest runs

A loop that reads on while a property holds cuts a list of clusters in two: a *run* in which the
property holds throughout, and a remainder that does not begin with it.  The two facts determine the
cut, so `List.takeWhile` can be exchanged for them in either direction.
-/

namespace LiteralLexer

/-- A loop that reads on while `keep` holds does not go into these clusters. -/
def Stops (keep : Cluster → Bool) (rest : List Cluster) : Prop :=
  ∀ c, rest.head? = some c → keep c = false

variable {keep : Cluster → Bool}

@[simp] theorem stops_nil : Stops keep [] := by
  intro c head
  contradiction

@[simp] theorem stops_cons {c : Cluster} {cs : List Cluster} :
    Stops keep (c :: cs) ↔ keep c = false := by
  simp [Stops]

/-- Every list is a run and a remainder that stops the loop. -/
theorem exists_run (keep : Cluster → Bool) (cs : List Cluster) :
    ∃ run rest, cs = run ++ rest ∧ (∀ c ∈ run, keep c = true) ∧ Stops keep rest ∧
      cs.takeWhile keep = run := by
  refine ⟨cs.takeWhile keep, cs.dropWhile keep, List.takeWhile_append_dropWhile.symm,
    fun _ => List.mem_takeWhile_imp, ?_, rfl⟩
  intro c head
  have stop := List.head?_dropWhile_not keep cs
  rw [head] at stop
  simpa using stop

/-- The cut into a run and a remainder is the one that the loop makes. -/
theorem takeWhile_run {run rest : List Cluster} (inside : ∀ c ∈ run, keep c = true)
    (stops : Stops keep rest) : (run ++ rest).takeWhile keep = run := by
  rw [List.takeWhile_append_of_pos inside]
  cases rest with
  | nil => simp
  | cons c rest => simp [stops_cons.mp stops]

end LiteralLexer
