import LiteralLexer.Proofs.Digits
import LiteralLexer.Text.Quoted

/-!
# Quoted text reads back

A quoted text says itself where it ends: the text, and whatever follows the closing quote, can be told from the
characters (`quote_append_inj`).  It has no control characters in it, so it stands on one line.
-/

namespace LiteralLexer.Text

/-! ## One character -/

/-- The characters that have a letter behind the backslash. -/
def letters : List (Char × Char) :=
  [('"', '"'), ('\\', '\\'), ('\n', 'n'), ('\r', 'r'), ('\t', 't'), (Char.ofNat 0x08, 'b'),
    (Char.ofNat 0x0C, 'f')]

/-- How a character may be written between quotes. -/
inductive Escaped : Char → List Char → Prop where
  | letter {c l : Char} (pair : (c, l) ∈ letters) : Escaped c ['\\', l]
  | code {c : Char} (control : c.toNat < 0x20) :
      Escaped c ['\\', 'u', '0', '0', hexDigit (c.toNat / 16), hexDigit (c.toNat % 16)]
  | itself {c : Char} (printable : 0x20 ≤ c.toNat) (quote : c ≠ '"') (backslash : c ≠ '\\') :
      Escaped c [c]

theorem escaped (c : Char) : Escaped c (escape c) := by
  have named {n : Nat} (code : c.toNat = n) : c = Char.ofNat n := by rw [← code, Char.ofNat_toNat]
  unfold escape
  split
  · next same => exact .letter (by simp [letters, same])
  split
  · next same => exact .letter (by simp [letters, same])
  split
  · next same => exact .letter (by simp [letters, same])
  split
  · next same => exact .letter (by simp [letters, same])
  split
  · next same => exact .letter (by simp [letters, same])
  split
  · next code => exact .letter (by rw [named code]; decide)
  split
  · next code => exact .letter (by rw [named code]; decide)
  split
  · next control => exact .code control
  · next quote backslash _ _ _ _ _ printable => exact .itself (Nat.le_of_not_lt printable) quote backslash

/-- The character at the front of a quoted text, and what follows it. -/
def unescape? : List Char → Option (Char × List Char)
  | '\\' :: 'u' :: a :: b :: c :: d :: cs => some (Char.ofNat (Radix.hexadecimal.value [a, b, c, d]), cs)
  | '\\' :: l :: cs => (letters.find? (·.2 = l)).map (·.1, cs)
  | c :: cs => some (c, cs)
  | [] => none

theorem value_hexDigit {n : Nat} (control : n < 0x20) :
    Radix.hexadecimal.value ['0', '0', hexDigit (n / 16), hexDigit (n % 16)] = n := by
  revert n
  decide

variable {c : Char} {es : List Char}

theorem Escaped.unescape? (escaped : Escaped c es) (cs : List Char) :
    unescape? (es ++ cs) = some (c, cs) := by
  cases escaped with
  | letter pair =>
    simp only [letters, List.mem_cons, Prod.mk.injEq, List.not_mem_nil, or_false] at pair
    rcases pair with ⟨rfl, rfl⟩ | ⟨rfl, rfl⟩ | ⟨rfl, rfl⟩ | ⟨rfl, rfl⟩ | ⟨rfl, rfl⟩ | ⟨rfl, rfl⟩ |
      ⟨rfl, rfl⟩ <;> rfl
  | code control =>
    have read (a b : Char) : Text.unescape? (['\\', 'u', '0', '0', a, b] ++ cs) =
      some (Char.ofNat (Radix.hexadecimal.value ['0', '0', a, b]), cs) := rfl
    rw [read, value_hexDigit control, Char.ofNat_toNat]
  | itself _ _ backslash =>
    rw [List.singleton_append, Text.unescape?.eq_def]
    split
    · next same => exact absurd (List.cons.inj same).1 backslash
    · next same => exact absurd (List.cons.inj same).1 backslash
    · next same =>
      cases same
      rfl
    · contradiction

theorem Escaped.head_ne (escaped : Escaped c es) (cs : List Char) : (es ++ cs).head? ≠ some '"' := by
  cases escaped with
  | letter => simp
  | code => simp
  | itself _ quote => simpa using quote

theorem printable_hexDigit {n : Nat} (small : n < 16) : 0x20 ≤ (hexDigit n).toNat := by
  revert n
  decide

theorem Escaped.printable (escaped : Escaped c es) : ∀ d ∈ es, 0x20 ≤ d.toNat := by
  cases escaped with
  | letter pair =>
    have table : ∀ pair ∈ letters, 0x20 ≤ pair.2.toNat := by decide
    have letter := table _ pair
    intro d member
    simp only [List.mem_cons, List.not_mem_nil, or_false] at member
    rcases member with rfl | rfl
    · decide
    · exact letter
  | code control =>
    have high := printable_hexDigit (n := c.toNat / 16) (by omega)
    have low := printable_hexDigit (n := c.toNat % 16) (by omega)
    simp [high, low]
  | itself printable => simpa using printable

/-! ## A whole text -/

theorem flatMap_escape_inj {as bs s t : List Char}
    (same : as.flatMap escape ++ '"' :: s = bs.flatMap escape ++ '"' :: t) : as = bs ∧ s = t := by
  -- no escape begins with the closing quote, so the two texts end together
  induction as generalizing bs with
  | nil =>
    cases bs with
    | nil => exact ⟨rfl, (List.cons.inj same).2⟩
    | cons b bs =>
      rw [List.flatMap_cons, List.append_assoc] at same
      exact absurd (by rw [← same]; rfl) ((escaped b).head_ne _)
  | cons a as ih =>
    rw [List.flatMap_cons, List.append_assoc] at same
    cases bs with
    | nil => exact absurd (by rw [same]; rfl) ((escaped a).head_ne _)
    | cons b bs =>
      rw [List.flatMap_cons, List.append_assoc] at same
      have read := congrArg unescape? same
      rw [(escaped a).unescape?, (escaped b).unescape?] at read
      obtain ⟨rfl, rest⟩ := Prod.mk.inj (Option.some.inj read)
      obtain ⟨rfl, rfl⟩ := ih rest
      exact ⟨rfl, rfl⟩

/-- A quoted text ends where its closing quote stands. -/
theorem quote_append_inj {a b : String} {s t : List Char}
    (same : (quote a).toList ++ s = (quote b).toList ++ t) : a = b ∧ s = t := by
  simp only [quote, String.toList_ofList, List.cons_append, List.append_assoc, List.cons.injEq,
    true_and] at same
  obtain ⟨texts, rest⟩ := flatMap_escape_inj same
  exact ⟨String.toList_inj.mp texts, rest⟩

@[simp] theorem quote_inj {a b : String} : quote a = quote b ↔ a = b := by
  refine ⟨?_, congrArg quote⟩
  intro same
  have texts : (quote a).toList ++ [] = (quote b).toList ++ [] := by rw [same]
  exact (quote_append_inj texts).1

theorem printable_quote (s : String) : ∀ c ∈ (quote s).toList, 0x20 ≤ c.toNat := by
  intro c member
  simp only [quote, String.toList_ofList, List.cons_append, List.mem_cons, List.mem_append, List.mem_flatMap,
    List.not_mem_nil, or_false] at member
  rcases member with rfl | ⟨d, _, inside⟩ | rfl
  · decide
  · exact (escaped d).printable c inside
  · decide

theorem lineFeed_notMem_quote (s : String) : '\n' ∉ (quote s).toList :=
  fun member => absurd (printable_quote s _ member) (by decide)

end LiteralLexer.Text
