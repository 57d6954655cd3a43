import LiteralLexer.Proofs.Cluster
import LiteralLexer.Proofs.Segmentation
import Mathlib.Data.List.Chain

/-!
# Characters within a cluster

Whether a cluster goes on with a character depends on all of the cluster that was read, but whether it may
go on does not: `Joins x d` says that some cluster that ends with `x` goes on with `d`, and every two
neighbours within a cluster are joined (`Cluster.isChain_of_mem_segment`).  So the characters around one that
hardly joins any other are known.  Before a character of ASCII there can only be signs that are prepended
to it, and a character that ends a line shares its cluster with no other one, apart from the line feed that
a carriage return takes in.
-/

namespace LiteralLexer

/-- A cluster may go on from one character to another. -/
def Joins (x d : Char) : Prop := ∃ b : Boundary, b.last = .of x ∧ b.joins d = true

namespace Cluster

theorem isChain_segmentFrom {b : Boundary} {x : Char} (last : b.last = .of x) (cs : List Char) :
    (x :: (segmentFrom b cs).1).IsChain Joins ∧
      ∀ c ∈ (segmentFrom b cs).2, c.toList.IsChain Joins := by
  induction cs generalizing b x with
  | nil => simp [segmentFrom]
  | cons d cs ih =>
    rw [segmentFrom]
    split
    · next joined =>
      obtain ⟨chain, others⟩ := ih (b := b.push d) (x := d) rfl
      exact ⟨List.isChain_cons_cons.mpr ⟨⟨b, last, joined⟩, chain⟩, others⟩
    · -- the cluster ends before `d`, which begins the next one
      obtain ⟨chain, others⟩ := ih (b := .start d) (x := d) rfl
      exact ⟨List.isChain_singleton x, List.forall_mem_cons.mpr ⟨chain, others⟩⟩

/-- Neighbours within a cluster are joined. -/
theorem isChain_of_mem_segment {cs : List Char} {c : Cluster} (member : c ∈ segment cs) :
    c.toList.IsChain Joins := by
  cases cs with
  | nil => contradiction
  | cons x cs =>
    obtain ⟨chain, others⟩ := isChain_segmentFrom (b := .start x) (x := x) rfl cs
    rcases List.mem_cons.mp member with rfl | later
    · exact chain
    · exact others c later

end Cluster

/-! ## Characters of ASCII -/

/-- A character of ASCII that is no control goes on with a cluster just behind a sign that is prepended. -/
theorem Joins.prepend {x d : Char} (joins : Joins x d) (ascii : d.toNat < 0x80)
    (other : BreakClass.of d = .other) : BreakClass.of x = .prepend := by
  obtain ⟨b, last, joined⟩ := joins
  have role : ConjunctRole.of d = .none := if_pos ascii
  rw [← last]
  -- behind the rule for signs, every rule asks for a class or a role that `d` does not have
  cases before : b.last with
  | prepend => rfl
  | _ => simp [Boundary.joins, before, other, role, Boundary.joinsHangul] at joined

/-! ## Ends of lines -/

/-- The classes of characters that stand alone, or with each other. -/
def BreakClass.hard : List BreakClass := [.carriageReturn, .lineFeed, .control]

/-- There are few enough characters that end a line to look at each. -/
theorem Unicode.forall_isNewline {p : Char → Prop}
    (all : ∀ n ∈ [0x0A, 0x0B, 0x0C, 0x0D, 0x85, 0x2028, 0x2029], p (.ofNat n)) {c : Char}
    (newline : isNewline c = true) : p c := by
  have code : c.toNat ∈ [0x0A, 0x0B, 0x0C, 0x0D, 0x85, 0x2028, 0x2029] := by
    simp only [isNewline, Bool.or_eq_true, Bool.and_eq_true, decide_eq_true_eq] at newline
    simp only [List.mem_cons, List.not_mem_nil, or_false]
    omega
  have holds := all c.toNat code
  rwa [Char.ofNat_toNat] at holds

theorem BreakClass.of_newline {c : Char} (newline : Unicode.isNewline c = true) :
    BreakClass.of c ∈ hard :=
  Unicode.forall_isNewline (p := fun c => BreakClass.of c ∈ hard) (by decide +kernel) newline

theorem Boundary.joins_hard {b : Boundary} {d : Char} (joined : b.joins d = true)
    (hard : b.last ∈ BreakClass.hard ∨ BreakClass.of d ∈ BreakClass.hard) :
    b.last = .carriageReturn ∧ BreakClass.of d = .lineFeed := by
  -- the rules for these classes come first, so nothing else of the cluster matters
  rcases hard with before | behind
  · simp only [BreakClass.hard, List.mem_cons, List.not_mem_nil, or_false] at before
    rcases before with last | last | last <;> cases next : BreakClass.of d <;>
      simp [joins, last, next] at joined ⊢
  · simp only [BreakClass.hard, List.mem_cons, List.not_mem_nil, or_false] at behind
    rcases behind with next | next | next <;> cases last : b.last <;>
      simp [joins, last, next] at joined ⊢

/-- A line ends within a cluster only between a carriage return and a line feed. -/
theorem Joins.lineEnd {x d : Char} (joins : Joins x d)
    (newline : Unicode.isNewline x = true ∨ Unicode.isNewline d = true) : x = '\r' ∧ d = '\n' := by
  obtain ⟨b, last, joined⟩ := joins
  have hard : b.last ∈ BreakClass.hard ∨ BreakClass.of d ∈ BreakClass.hard := by
    rw [last]
    exact newline.imp BreakClass.of_newline BreakClass.of_newline
  obtain ⟨returns, feeds⟩ := Boundary.joins_hard joined hard
  exact ⟨BreakClass.eq_return (last ▸ returns), BreakClass.eq_lineFeed feeds⟩

theorem Joins.chain_lineEnd {cs : List Char} (chain : cs.IsChain Joins) {c : Char} (member : c ∈ cs)
    (newline : Unicode.isNewline c = true) : cs = [c] ∨ cs = ['\r', '\n'] := by
  induction cs generalizing c with
  | nil => contradiction
  | cons x cs ih =>
    cases cs with
    | nil => exact .inl (by rw [List.mem_singleton.mp member])
    | cons y cs =>
      obtain ⟨joins, rest⟩ := List.isChain_cons_cons.mp chain
      rcases List.mem_cons.mp member with rfl | later
      · obtain ⟨rfl, rfl⟩ := joins.lineEnd (.inl newline)
        -- the line feed is a newline itself, so the rest of the cluster is nothing but it
        rcases ih rest List.mem_cons_self (by decide) with alone | pair
        · exact .inr (by rw [alone])
        · cases pair
      · rcases ih rest later newline with alone | pair
        · cases alone
          obtain ⟨rfl, rfl⟩ := joins.lineEnd (.inr newline)
          exact .inr rfl
        · cases pair
          exact absurd (joins.lineEnd (.inr (by decide))).2 (by decide)

theorem Unicode.not_isAlphanumeric_of_isNewline {c : Char} (newline : isNewline c = true) :
    isAlphanumeric c = false :=
  forall_isNewline (p := fun c => isAlphanumeric c = false) (by decide +kernel) newline

/-- A cluster in which a line ends belongs to no word. -/
theorem Cluster.not_isAlphanumeric_of_isNewline {cs : List Char} {c : Cluster}
    (member : c ∈ segment cs) (newline : c.isNewline = true) : c.isAlphanumeric = false := by
  obtain ⟨d, inside, newline⟩ := List.any_eq_true.mp newline
  rcases Joins.chain_lineEnd (isChain_of_mem_segment member) inside newline with alone | pair
  · rw [isAlphanumeric, alone, List.any_cons, Unicode.not_isAlphanumeric_of_isNewline newline]
    rfl
  · rw [isAlphanumeric, pair]
    decide

end LiteralLexer
