import LiteralLexer.Proofs.Binary64.Shortest
import LiteralLexer.Proofs.Number.Conversion

/-!
# Texts of numbers

The plain text of a number reads back as that number: the layout of a decimal, wherever its point stands, is
the text of that decimal (`decimal?_layout`), and the decimal is in the interval of the number.  So two numbers
have the same text just when they are the same (`text_eq_iff`), the two zeros included.
-/

namespace LiteralLexer.Binary64

/-! ## Layouts -/

theorem trimZeros_append (cs : List Char) :
    (trimZeros cs).1 ++ List.replicate (trimZeros cs).2 '0' = cs := by
  have zero : ∀ c ∈ cs.reverse.takeWhile (· = '0'), c = '0' := by
    intro c member
    simpa using List.mem_takeWhile_imp member
  have zeros := List.eq_replicate_of_mem zero
  have parts : (cs.reverse.dropWhile (· = '0')).reverse ++ (cs.reverse.takeWhile (· = '0')).reverse = cs := by
    rw [← List.reverse_append, List.takeWhile_append_dropWhile, List.reverse_reverse]
  have dropped : (trimZeros cs).2 = (cs.reverse.takeWhile (· = '0')).length := by
    have lengths := congrArg List.length parts
    simp only [List.length_append, List.length_reverse] at lengths
    simp only [trimZeros, List.length_reverse]
    omega
  rw [dropped, ← List.reverse_replicate, ← zeros]
  exact parts

/-- The exponent behind a mantissa. -/
def exponentText (e : Int) : List Char :=
  'e' :: (if 0 ≤ e then '+' else '-') :: Nat.toDigits 10 e.natAbs

theorem exponentText_eq (e : Int) : plain.exponentMark.toList ++
    ((if 0 ≤ e then plain.positiveExponentSign.toList else "-".toList) ++ (toString e.natAbs).toList) =
      exponentText e := by
  have digits : (toString e.natAbs).toList = Nat.toDigits 10 e.natAbs := by
    rw [Nat.toString_eq_repr, Nat.repr_eq_ofList_toDigits, String.toList_ofList]
  rw [digits, exponentText]
  split <;> rfl

/-- The texts of digits that are counted in a power of ten. -/
inductive Laid : List Char → Int → List Char → Prop where
  | whole (kept : List Char) (k : Nat) : Laid kept k (kept ++ List.replicate k '0')
  | inside {whole : List Char} (nonempty : whole ≠ []) (fraction : List Char) :
      Laid (whole ++ fraction) (-(fraction.length : Int)) (whole ++ '.' :: fraction)
  | before (kept : List Char) (k : Nat) :
      Laid kept (-((k + kept.length : Nat) : Int)) ('0' :: '.' :: (List.replicate k '0' ++ kept))
  | alone (d : Char) (e : Int) : Laid [d] e (d :: exponentText e)
  | behind (d : Char) (ds : List Char) (e : Int) :
      Laid (d :: ds) (e - (ds.length : Int)) (d :: '.' :: (ds ++ exponentText e))

variable {digits : Nat} {exponent p : Int} {kept text : List Char}

theorem laid_layout (digits : Nat) (exponent : Int) (some : (trimZeros (Nat.toDigits 10 digits)).1 ≠ []) :
    Laid (trimZeros (Nat.toDigits 10 digits)).1 (exponent + (trimZeros (Nat.toDigits 10 digits)).2)
      (plain.layout digits exponent).toList := by
  have least : plain.leastPoint = -6 := rfl
  have greatest : plain.greatestPoint = 21 := rfl
  simp only [NumberStyle.layout]
  generalize (trimZeros (Nat.toDigits 10 digits)).1 = kept at some ⊢
  generalize exponent + ((trimZeros (Nat.toDigits 10 digits)).2 : Int) = p
  simp only [apply_ite String.toList, Bool.and_eq_true, decide_eq_true_eq, zeros, String.toList_append,
    String.toList_ofList]
  split
  · next range =>
    -- zeros stand behind the digits, or nothing does
    obtain ⟨k, rfl⟩ := Int.eq_ofNat_of_zero_le (a := p) (by omega)
    have count : (kept.length + (k : Int) - kept.length).toNat = k := by omega
    rw [count]
    exact .whole kept k
  · split
    · next _ range =>
      -- the point stands among the digits
      obtain ⟨k, point⟩ : ∃ k : Nat, (kept.length + p).toNat = k + 1 :=
        ⟨(kept.length + p).toNat - 1, by omega⟩
      have inside : kept.take (k + 1) ≠ [] := by simp [some]
      have behind : -((kept.drop (k + 1)).length : Int) = p := by
        rw [List.length_drop]
        omega
      have laid := Laid.inside inside (kept.drop (k + 1))
      rw [List.take_append_drop, behind] at laid
      rw [point]
      simpa using laid
    · split
      · next _ _ range =>
        -- the point stands before them
        have before : -(((-(kept.length + p)).toNat + kept.length : Nat) : Int) = p := by omega
        have laid := Laid.before kept (-(kept.length + p)).toNat
        rw [before] at laid
        simpa using laid
      · -- it stands too far out, and an exponent says where
        simp only [List.append_assoc, exponentText_eq]
        cases kept with
        | nil => contradiction
        | cons d ds =>
          cases ds with
          | nil =>
            have exponent : (([d].length : Nat) : Int) + p - 1 = p := by simp
            rw [exponent]
            simpa using Laid.alone d p
          | cons d' ds =>
            have laid := Laid.behind d (d' :: ds) (((d :: d' :: ds).length : Nat) + p - 1)
            have exponent : (((d :: d' :: ds).length : Nat) + p - 1) - ((d' :: ds).length : Nat) = p := by
              simp only [List.length_cons]
              omega
            rw [exponent] at laid
            simpa using laid

/-! ## Reading back -/

theorem isDigit_of_mem_decimal {n : Nat} : ∀ c ∈ Nat.toDigits 10 n, c.isDigit = true :=
  fun _ => Nat.isDigit_of_mem_toDigits (by decide) (by decide)

theorem isDigit_of_mem_zeros {k : Nat} : ∀ c ∈ List.replicate k '0', c.isDigit = true := by
  intro c member
  rw [List.eq_of_mem_replicate member]
  rfl

theorem exponent?_exponentText (e : Int) : Text.exponent? (exponentText e) = some e := by
  have digits := digits?_eq Nat.toDigits_ne_nil (isDigit_of_mem_decimal (n := e.natAbs))
  have value : Radix.decimal.value (Nat.toDigits 10 e.natAbs) = e.natAbs := Radix.decimal.value_toDigits _
  rw [value] at digits
  unfold exponentText
  split
  · next positive => simp [Text.exponent?, Text.splitSign, digits, abs_of_nonneg positive]
  · next negative => simp [Text.exponent?, Text.splitSign, digits, abs_of_neg (Int.not_le.mp negative)]

theorem not_isDigit_exponentText {e : Int} {c : Char} (head : (exponentText e).head? = some c) :
    c.isDigit = false ∧ c ≠ '.' := by
  cases head
  decide

/-- Digits in a layout are read with the power of ten that they are counted in. -/
theorem Laid.decimal? (laid : Laid kept p text) (nonempty : kept ≠ [])
    (all : ∀ c ∈ kept, c.isDigit = true) : ∃ n k, decimal? text = some (n, k) ∧
      (n : ℚ) * 10 ^ k = Radix.decimal.value kept * 10 ^ p := by
  cases laid with
  | whole _ k =>
    have zeros := List.forall_mem_append.mpr ⟨all, isDigit_of_mem_zeros (k := k)⟩
    have alone : ∀ c, ([] : List Char).head? = some c → c.isDigit = false ∧ c ≠ '.' := by
      intro c head
      contradiction
    have digits := decimal?_append (by simp [nonempty]) zeros alone
    refine ⟨_, 0, by simpa using digits, ?_⟩
    rw [Radix.value_append_zeros]
    simp [Radix.base]
  | inside before _ =>
    obtain ⟨whole, fraction⟩ := List.forall_mem_append.mp all
    exact ⟨_, _, decimal?_point before whole fraction, rfl⟩
  | before _ k =>
    have zeros := List.forall_mem_append.mpr ⟨isDigit_of_mem_zeros (k := k), all⟩
    have digits := decimal?_point (List.cons_ne_nil '0' []) (by simp) zeros
    have value : Radix.decimal.value (['0'] ++ (List.replicate k '0' ++ kept)) = Radix.decimal.value kept := by
      rw [← List.append_assoc, ← List.replicate_one, List.replicate_append_replicate, Radix.value_zeros]
    rw [value, List.length_append, List.length_replicate] at digits
    exact ⟨_, _, digits, rfl⟩
  | alone d =>
    have digits := decimal?_append nonempty all fun c => not_isDigit_exponentText (e := p)
    rw [exponent?_exponentText] at digits
    exact ⟨_, _, digits, rfl⟩
  | behind d ds e =>
    obtain ⟨first, others⟩ := List.forall_mem_cons.mp all
    have digits := decimal?_point_append (List.cons_ne_nil d []) (by simpa using first) others
      fun c head => (not_isDigit_exponentText (e := e) head).1
    rw [exponent?_exponentText] at digits
    exact ⟨_, _, digits, rfl⟩

theorem trimZeros_toDigits (positive : 0 < digits) :
    (trimZeros (Nat.toDigits 10 digits)).1 ≠ [] ∧
      (∀ c ∈ (trimZeros (Nat.toDigits 10 digits)).1, c.isDigit = true) ∧
      Radix.decimal.value (trimZeros (Nat.toDigits 10 digits)).1 *
        10 ^ (trimZeros (Nat.toDigits 10 digits)).2 = digits := by
  have parts := trimZeros_append (Nat.toDigits 10 digits)
  have value : Radix.decimal.value (Nat.toDigits 10 digits) = digits := Radix.decimal.value_toDigits _
  rw [← parts, Radix.value_append_zeros] at value
  refine ⟨?_, ?_, value⟩
  · intro empty
    rw [empty] at value
    have zero : Radix.decimal.value [] = 0 := rfl
    rw [zero, Nat.zero_mul] at value
    omega
  · intro c member
    apply isDigit_of_mem_decimal (n := digits)
    rw [← parts]
    exact List.mem_append_left _ member

/-- The text of a decimal reads back as that decimal. -/
theorem decimal?_layout (positive : 0 < digits) (exponent : Int) :
    ∃ n k, Binary64.decimal? (plain.layout digits exponent).toList = some (n, k) ∧
      (n : ℚ) * 10 ^ k = digits * 10 ^ exponent := by
  obtain ⟨nonempty, all, value⟩ := trimZeros_toDigits positive
  obtain ⟨n, k, read, same⟩ := (laid_layout digits exponent nonempty).decimal? nonempty all
  refine ⟨n, k, read, same.trans ?_⟩
  rw [add_comm, zpow_add₀ (by norm_num), zpow_natCast, ← mul_assoc]
  exact_mod_cast congrArg (fun n : Nat => (n : ℚ) * 10 ^ exponent) value

theorem lineFeed_notMem_digits {ds : List Char} (all : ∀ c ∈ ds, c.isDigit = true) : '\n' ∉ ds :=
  fun member => absurd (all _ member) (by decide)

theorem lineFeed_notMem_exponentText (e : Int) : '\n' ∉ exponentText e := by
  have digits := lineFeed_notMem_digits (isDigit_of_mem_decimal (n := e.natAbs))
  unfold exponentText
  split <;> simp [digits]

theorem Laid.lineFeed_notMem (laid : Laid kept p text) (all : ∀ c ∈ kept, c.isDigit = true) :
    '\n' ∉ text := by
  have digits := lineFeed_notMem_digits all
  cases laid with
  | whole => simp [digits]
  | inside => simpa using digits
  | before => simp [digits]
  | alone => simpa [lineFeed_notMem_exponentText] using digits
  | behind => simpa [lineFeed_notMem_exponentText] using digits

/-! ## Signs and special texts -/

@[simp] theorem text_zero (negative : Bool) (e : Int) : (finite negative 0 e).text = "0" := by
  cases negative <;> simp [text, NumberStyle.text, plain]

theorem text_finite {m : Nat} (positive : 0 < m) (negative : Bool) (e : Int) :
    (finite negative m e).text.toList =
      behindSign negative (plain.layout (shortest m e).1 (shortest m e).2).toList := by
  cases negative <;> simp [text, NumberStyle.text, behindSign, Nat.pos_iff_ne_zero.mp positive]

/-- How a number other than NaN is written: whether with a sign, and the text behind that. -/
inductive Written : Binary64 → Bool → List Char → Prop where
  | infinite (negative : Bool) : Written (.infinite negative) negative "Infinity".toList
  | zero (negative : Bool) (e : Int) : Written (.finite negative 0 e) false ['0']
  | finite (negative : Bool) {m : Nat} {e : Int} {body : List Char} {n : Nat} {k : Int} (positive : 0 < m)
      (read : decimal? body = some (n, k)) (holds : (readInterval m e).Holds (n * 10 ^ k)) :
      Written (.finite negative m e) negative body

variable {x y : Binary64} {negative : Bool} {body : List Char}

theorem exists_written (representable : x.Representable) (number : x ≠ .nan) : ∃ negative body,
    Written x negative body ∧ x.text.toList = behindSign negative body := by
  cases x with
  | nan => contradiction
  | infinite negative =>
    refine ⟨negative, _, .infinite negative, ?_⟩
    cases negative <;> rfl
  | finite negative m e =>
    rcases Nat.eq_zero_or_pos m with rfl | positive
    · exact ⟨false, _, .zero negative e, by simp [behindSign]⟩
    · obtain ⟨n, k, read, same⟩ := decimal?_layout (shortest_pos positive) (shortest m e).2
      have holds := Normalized.holds_shortest representable positive
      rw [← same] at holds
      exact ⟨negative, _, .finite negative positive read holds, text_finite positive negative e⟩

/-- No sign stands behind the sign. -/
theorem Written.head_ne (written : Written x negative body) : body.head? ≠ some '-' := by
  intro sign
  cases written with
  | infinite => simp at sign
  | zero => simp at sign
  | finite _ _ read =>
    cases body with
    | nil => contradiction
    | cons c cs =>
      cases sign
      have unread : decimal? ('-' :: cs) = none := by simp [decimal?, Text.digits?]
      rw [unread] at read
      contradiction

theorem Written.eq_of_infinity (written : Written x negative "Infinity".toList) :
    x = .infinite negative := by
  have unread : decimal? "Infinity".toList = none := by decide
  generalize special : "Infinity".toList = body at written
  cases written with
  | infinite => rfl
  | zero => simp at special
  | finite _ _ read =>
    rw [← special, unread] at read
    contradiction

theorem Written.eq_of_zero (written : Written x negative ['0']) :
    negative = false ∧ ∃ sign e, x = .finite sign 0 e := by
  have zero : decimal? ['0'] = some (0, 0) := by decide
  generalize special : ['0'] = body at written
  cases written with
  | infinite => simp at special
  | zero sign e => exact ⟨rfl, sign, e, rfl⟩
  | finite _ positive read holds =>
    rw [← special, zero] at read
    cases read
    rw [Nat.cast_zero, zero_mul] at holds
    exact absurd holds (not_holds_zero positive)

/-- A text is that of one number only. -/
theorem Written.same (written : Written x negative body) (written' : Written y negative body)
    (representable : x.Representable) (representable' : y.Representable) : x.same y = true := by
  cases written with
  | infinite =>
    rw [written'.eq_of_infinity]
    simp [Binary64.same]
  | zero =>
    obtain ⟨_, sign, e, rfl⟩ := written'.eq_of_zero
    simp [Binary64.same]
  | finite _ positive read holds =>
    have written : Written (.finite negative _ _) negative body := .finite negative positive read holds
    cases written' with
    | infinite => cases written.eq_of_infinity
    | zero =>
      obtain ⟨_, sign, e, zero⟩ := written.eq_of_zero
      cases zero
      contradiction
    | finite _ positive' read' holds' =>
      rw [read] at read'
      cases read'
      obtain ⟨rfl, rfl⟩ := Normalized.unique representable representable' positive positive' holds holds'
      simp [Binary64.same]

/-- The text of a number stands on one line. -/
theorem lineFeed_notMem_text (x : Binary64) : '\n' ∉ x.text.toList := by
  cases x with
  | nan => decide
  | infinite negative => cases negative <;> decide
  | finite negative m e =>
    rcases Nat.eq_zero_or_pos m with rfl | positive
    · simp
    · obtain ⟨nonempty, all, _⟩ := trimZeros_toDigits (shortest_pos (e := e) positive)
      have body := (laid_layout _ (shortest m e).2 nonempty).lineFeed_notMem all
      rw [text_finite positive]
      cases negative <;> simp [behindSign, body]

theorem text_of_same (same : x.same y = true) : x.text = y.text := by
  cases x with
  | nan => contradiction
  | infinite negative =>
    cases y with
    | infinite negative' =>
      have equal : negative = negative' := eq_of_beq same
      rw [equal]
    | _ => contradiction
  | finite negative m e =>
    cases y with
    | finite negative' m' e' =>
      by_cases zero : m = 0
      · have zero' : m' = 0 := by simpa [Binary64.same, zero] using same
        rw [zero, zero', text_zero, text_zero]
      · have equal : (negative = negative' ∧ m = m') ∧ e = e' := by simpa [Binary64.same, zero] using same
        obtain ⟨⟨rfl, rfl⟩, rfl⟩ := equal
        rfl
    | _ => contradiction

/-- Numbers have the same text just when they are the same number. -/
theorem text_eq_iff (representable : x.Representable) (representable' : y.Representable) (number : x ≠ .nan)
    (number' : y ≠ .nan) : x.text = y.text ↔ x.same y = true := by
  refine ⟨?_, text_of_same⟩
  intro texts
  obtain ⟨negative, body, written, text⟩ := exists_written representable number
  obtain ⟨negative', body', written', text'⟩ := exists_written representable' number'
  rw [texts, text'] at text
  obtain ⟨rfl, rfl⟩ := behindSign_inj written'.head_ne written.head_ne text
  exact written.same written' representable representable'

end LiteralLexer.Binary64
