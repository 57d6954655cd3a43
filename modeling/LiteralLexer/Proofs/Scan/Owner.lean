import LiteralLexer.Proofs.Cluster
import LiteralLexer.Proofs.Scan.Basic

/-!
# Which transform a text belongs to

No two transforms compete for a text.  The first cluster, and for `-` the one after it, single out
the one transform that can begin a literal there: `Transform.owner?`.  All others decline, so asking
a list of transforms for the first that does not decline comes to asking whether the owner is among
them (`Transform.scanFirst_eq`).  In what order they are asked does not matter.
-/

namespace LiteralLexer.Transform

/-- The only transform that can find a literal at the beginning of the clusters. -/
def owner? : List Cluster → Option Transform
  | [] => some .endOfInput
  | c :: cs =>
    if c.isNewline then some .newLine
    else if c = .single '/' then some .comment
    else if c = .single 't' ∨ c = .single 'f' then some .boolean
    else if c.isDigit then some .number
    else if c = .single '\'' then some .character
    else if c = .single '"' then some .string
    else if c = .single '-' then
      -- the one character that begins two kinds of literals
      if cs.head?.any Cluster.isDigit then some .number else some .flag
    else none

/-- The scan of the first transform that does not decline. -/
def scanFirst : List Transform → List Cluster → Scan
  | [], _ => .decline
  | t :: ts, cs =>
    match t.scan cs with
    | .decline => scanFirst ts cs
    | scan => scan

/-! ## Everyone else declines -/

theorem owner?_of_newLine {cs : List Cluster} (scans : Scan.newLine cs ≠ .decline) :
    owner? cs = some .newLine := by
  cases cs with
  | nil => contradiction
  | cons c cs =>
    cases newline : c.isNewline with
    | true => simp [owner?, newline]
    | false => simp [Scan.newLine, newline] at scans

theorem owner?_of_comment {cs : List Cluster} (scans : Scan.comment cs ≠ .decline) :
    owner? cs = some .comment := by
  unfold Scan.comment at scans
  split at scans
  · next first =>
    obtain ⟨rest, rfl⟩ := Scan.exists_cons first
    rfl
  · contradiction

theorem owner?_of_boolean {cs : List Cluster} (scans : Scan.boolean cs ≠ .decline) :
    owner? cs = some .boolean := by
  unfold Scan.boolean at scans
  split at scans
  · next begins =>
    obtain ⟨rest, rfl⟩ := begins
    rfl
  · split at scans
    · next begins =>
      obtain ⟨rest, rfl⟩ := begins
      rfl
    · contradiction

theorem owner?_of_number {cs : List Cluster} (scans : Scan.number cs ≠ .decline) :
    owner? cs = some .number := by
  unfold Scan.number at scans
  split at scans
  · next negative =>
    obtain ⟨rest, rfl⟩ := Scan.exists_cons negative
    split at scans
    · next digit =>
      have follows : rest.head?.any Cluster.isDigit = true := by
        rw [List.head?_eq_getElem?]
        exact digit
      change (if rest.head?.any Cluster.isDigit then some number else some flag) = _
      rw [if_pos follows]
    · contradiction
  · split at scans
    · next first =>
      obtain ⟨c, first, digit⟩ := (Option.any_eq_true _ _).mp first
      obtain ⟨rest, rfl⟩ := Scan.exists_cons first
      -- a digit passes every test that comes before its own
      have slash : c ≠ .single '/' := Cluster.ne_single_of_isDigit digit (by decide)
      have yes : c ≠ .single 't' := Cluster.ne_single_of_isDigit digit (by decide)
      have no : c ≠ .single 'f' := Cluster.ne_single_of_isDigit digit (by decide)
      simp [owner?, Cluster.class_of_isDigit digit, slash, yes, no, digit]
    · contradiction

theorem owner?_of_character {cs : List Cluster} (scans : Scan.character cs ≠ .decline) :
    owner? cs = some .character := by
  unfold Scan.character at scans
  split at scans
  · next first =>
    obtain ⟨rest, rfl⟩ := Scan.exists_cons first
    rfl
  · contradiction

theorem owner?_of_string {cs : List Cluster} (scans : Scan.string cs ≠ .decline) :
    owner? cs = some .string := by
  unfold Scan.string at scans
  split at scans
  · next first =>
    obtain ⟨rest, rfl⟩ := Scan.exists_cons first
    rfl
  · contradiction

/-- A letter is no digit, so what a `-` begins is a number or a flag but not both. -/
theorem owner?_of_flag {cs : List Cluster} (scans : Scan.flag cs ≠ .decline) :
    owner? cs = some .flag := by
  unfold Scan.flag at scans
  split at scans
  · next begins =>
    obtain ⟨c, second, letter⟩ := (Option.any_eq_true _ _).mp begins.2
    obtain ⟨rest, rfl⟩ := Scan.exists_cons_cons begins.1 second
    have digit : c.isDigit ≠ true := by
      intro digit
      rw [(Cluster.class_of_isDigit digit).2] at letter
      contradiction
    change (if c.isDigit then some number else some flag) = _
    rw [if_neg digit]
  · contradiction

/-- A transform that does not decline is the owner. -/
theorem owner?_of_scan {t : Transform} {cs : List Cluster} (scans : t.scan cs ≠ .decline) :
    owner? cs = some t := by
  cases t with
  | whitespace => contradiction
  | endOfInput =>
    cases cs with
    | nil => rfl
    | cons c cs => contradiction
  | newLine => exact owner?_of_newLine scans
  | comment => exact owner?_of_comment scans
  | boolean => exact owner?_of_boolean scans
  | number => exact owner?_of_number scans
  | character => exact owner?_of_character scans
  | string => exact owner?_of_string scans
  | flag => exact owner?_of_flag scans

/-! ## The first that does not decline -/

/-- The first transform that does not decline is the owner, if it is among those asked. -/
theorem scanFirst_eq (ts : List Transform) (cs : List Cluster) :
    scanFirst ts cs =
      match owner? cs with
      | some t => if t ∈ ts then t.scan cs else .decline
      | none => .decline := by
  induction ts with
  | nil => cases owner? cs <;> simp [scanFirst]
  | cons t ts ih =>
    by_cases declines : t.scan cs = .decline
    · rw [scanFirst, declines, ih]
      cases owner? cs with
      | none => rfl
      | some owner =>
        -- a transform that declines changes nothing, even if it is the owner
        by_cases same : owner = t
        · subst same
          simp [declines]
        · simp [same]
    · rw [owner?_of_scan declines]
      simp only [List.mem_cons_self, if_true, scanFirst]

/-- Which transforms are asked matters, and nothing else. -/
theorem scanFirst_congr {ts ts' : List Transform} (same : ∀ t, t ∈ ts ↔ t ∈ ts')
    (cs : List Cluster) : scanFirst ts cs = scanFirst ts' cs := by
  simp only [scanFirst_eq, same]

theorem scanFirst_of_mem {ts : List Transform} {t : Transform} {cs : List Cluster}
    (member : t ∈ ts) (scans : t.scan cs ≠ .decline) : scanFirst ts cs = t.scan cs := by
  simp [scanFirst_eq, owner?_of_scan scans, member]

theorem exists_of_scanFirst {ts : List Transform} {cs : List Cluster}
    (scans : scanFirst ts cs ≠ .decline) : ∃ t ∈ ts, t.scan cs = scanFirst ts cs := by
  rw [scanFirst_eq] at scans ⊢
  cases owner : owner? cs with
  | none => simp [owner] at scans
  | some t =>
    by_cases member : t ∈ ts
    · exact ⟨t, member, by simp [member]⟩
    · simp [owner, member] at scans

end LiteralLexer.Transform
