import Mathlib.Data.List.Forall2
import LiteralLexer.Proofs.Binary64.Text
import LiteralLexer.Proofs.Lexer.Partition
import LiteralLexer.Proofs.Quoted
import LiteralLexer.Proofs.Sequence
import LiteralLexer.Token.Printer

/-!
# Printed tokens

What is printed of a token is its kind and its payload as text, its `face`, and tokens are the same just when
they have the same face (`Token.same_iff`).  Both layouts print the faces so that they can be told apart: in
running text a token stands on a line of its own, and in JSON the end of each record can be seen
(`OutputFormat.print_eq_iff`).  What is asked of the numbers is true of all tokens of a text
(`Token.numeric_of_tokenize`).
-/

namespace LiteralLexer

/-! ## Kinds -/

namespace TokenKind

theorem mem_all (kind : TokenKind) : kind ∈ all := by
  cases kind <;> decide

theorem label_inj {kind kind' : TokenKind} (same : kind.label = kind'.label) : kind = kind' := by
  have labels : ∀ k ∈ all, ∀ k' ∈ all, k.label = k'.label → k = k' := by decide
  exact labels _ kind.mem_all _ kind'.mem_all same

theorem tag_inj {kind kind' : TokenKind} (same : kind.tag = kind'.tag) : kind = kind' := by
  have tags : ∀ k ∈ all, ∀ k' ∈ all, k.tag = k'.tag → k = k' := by decide
  exact tags _ kind.mem_all _ kind'.mem_all same

/-- The label of a kind neither opens a payload nor breaks a line. -/
theorem notMem_label (kind : TokenKind) : '(' ∉ kind.label.toList ∧ '\n' ∉ kind.label.toList := by
  have labels : ∀ k ∈ all, '(' ∉ k.label.toList ∧ '\n' ∉ k.label.toList := by decide
  exact labels _ kind.mem_all

end TokenKind

namespace Token

/-! ## Faces -/

/-- The payload of a token in running text. -/
def shown? : Token → Option String
  | .endOfInput | .newLine => none
  | .boolean b => some (if b then "true" else "false")
  | .integer n => some (toString n)
  | .floatingPoint x => some x.text
  | .comment s | .character s | .uninterpolatedString s | .flag s | .undefined s => some (Text.quote s)

/-- What is printed of a token. -/
def face (t : Token) : TokenKind × Option String := (t.kind, t.shown?)

/-- The number that a token holds, if it holds one, is of the format and not NaN. -/
def Numeric : Token → Prop
  | .floatingPoint x => x.Representable ∧ x ≠ .nan
  | _ => True

/-- The number that a token holds, if it holds one, is finite. -/
def Finite : Token → Prop
  | .floatingPoint x => x.isFinite = true
  | _ => True

variable {t u : Token}

theorem same_iff (numeric : t.Numeric) (numeric' : u.Numeric) : t.same u = true ↔ t.face = u.face := by
  have decimal {n k : Int} : n.repr = k.repr ↔ n = k := ⟨toString_inj, congrArg Int.repr⟩
  -- the faces of two kinds differ already in the kind
  cases t <;> cases u <;> simp [same, face, kind, shown?, decimal]
  case boolean.boolean b b' => cases b <;> cases b' <;> simp
  case floatingPoint.floatingPoint x y =>
    exact (Binary64.text_eq_iff numeric.1 numeric'.1 numeric.2 numeric'.2).symm

/-- No payload is broken over lines. -/
theorem lineFeed_notMem_shown {payload : String} (shown : t.shown? = some payload) :
    '\n' ∉ payload.toList := by
  cases t with
  | endOfInput => contradiction
  | newLine => contradiction
  | boolean b => cases b <;> cases shown <;> decide
  | integer n =>
    cases shown
    have digits : '\n' ∉ Nat.toDigits 10 n.natAbs :=
      fun member => absurd (Radix.decimal.isDigit_of_mem_toDigits member) (by decide)
    rw [toList_toString, behindSign]
    split <;> simp [digits]
  | floatingPoint x =>
    cases shown
    exact x.lineFeed_notMem_text
  | comment s | character s | uninterpolatedString s | flag s | undefined s =>
    cases shown
    exact Text.lineFeed_notMem_quote s

/-! ## Running text -/

/-- A token in running text, from its face. -/
def displayed : TokenKind × Option String → String
  | (kind, none) => kind.label
  | (kind, some payload) => kind.label ++ "(" ++ payload ++ ")"

theorem display_eq (t : Token) : t.display = displayed t.face := by
  cases t <;> rfl

theorem toList_displayed (kind : TokenKind) (payload : String) :
    (displayed (kind, some payload)).toList = kind.label.toList ++ '(' :: (payload.toList ++ [')']) := by
  simp [displayed]

theorem displayed_inj {face face' : TokenKind × Option String} (same : displayed face = displayed face') :
    face = face' := by
  obtain ⟨kind, payload?⟩ := face
  obtain ⟨kind', payload?'⟩ := face'
  have texts := congrArg String.toList same
  cases payload? with
  | none =>
    cases payload?' with
    | none => rw [TokenKind.label_inj same]
    | some payload' =>
      rw [toList_displayed] at texts
      refine absurd ?_ kind.notMem_label.1
      rw [← displayed, texts]
      simp
  | some payload =>
    rw [toList_displayed] at texts
    cases payload?' with
    | none =>
      refine absurd ?_ kind'.notMem_label.1
      rw [← displayed, ← texts]
      simp
    | some payload' =>
      rw [toList_displayed] at texts
      obtain ⟨labels, payloads⟩ := append_cons_inj kind.notMem_label.1 kind'.notMem_label.1 texts
      rw [TokenKind.label_inj (String.toList_inj.mp labels),
        String.toList_inj.mp (List.append_cancel_right payloads)]

theorem display_ne_empty (t : Token) : t.display ≠ "" := by
  have label : t.kind.label ≠ "" := by cases t.kind <;> decide
  rw [display_eq, face]
  cases t.shown? <;> simp [displayed, label]

theorem lineFeed_notMem_display (t : Token) : '\n' ∉ t.display.toList := by
  have label := t.kind.notMem_label.2
  rw [display_eq, face]
  cases shown : t.shown? with
  | none => exact label
  | some payload =>
    rw [toList_displayed]
    simp [label, lineFeed_notMem_shown shown]

end Token

/-! ## Lists of lines -/

/-- The lines of a text; an empty text has none. -/
def lines (text : String) : List String :=
  if text = "" then [] else (text.toList.splitOn '\n').map String.ofList

theorem lines_intercalate {texts : List String} (short : ∀ text ∈ texts, '\n' ∉ text.toList)
    (nonempty : ∀ text ∈ texts, text ≠ "") : lines (String.intercalate "\n" texts) = texts := by
  cases texts with
  | nil => rfl
  | cons text more =>
    have split : (String.intercalate "\n" (text :: more)).toList.splitOn '\n' =
        (text :: more).map String.toList := by
      rw [String.toList_intercalate]
      apply List.splitOn_intercalate '\n' _ (by simp)
      intro line member
      obtain ⟨text, inside, rfl⟩ := List.mem_map.mp member
      exact short text inside
    have some : String.intercalate "\n" (text :: more) ≠ "" := by
      intro empty
      rw [empty, String.toList_empty, List.splitOn_nil, List.map_cons] at split
      have first := (List.cons.inj split).1
      exact nonempty text List.mem_cons_self (String.toList_eq_nil_iff.mp first.symm)
    rw [lines, if_neg some, split, List.map_map]
    simp [Function.comp_def]

namespace Token

theorem lines_print (ts : List Token) : lines (OutputFormat.text.print ts) = ts.map display := by
  apply lines_intercalate
  · intro text member
    obtain ⟨t, _, rfl⟩ := List.mem_map.mp member
    exact t.lineFeed_notMem_display
  · intro text member
    obtain ⟨t, _, rfl⟩ := List.mem_map.mp member
    exact t.display_ne_empty

theorem print_text_eq_iff {ts us : List Token} :
    OutputFormat.text.print ts = OutputFormat.text.print us ↔ ts.map face = us.map face := by
  have faces (ts : List Token) : ts.map display = (ts.map face).map displayed := by
    rw [List.map_map]
    exact List.map_congr_left fun t _ => t.display_eq
  constructor
  · intro same
    have displays := congrArg lines same
    rw [lines_print, lines_print, faces, faces] at displays
    exact List.map_injective_iff.mpr (fun _ _ => displayed_inj) displays
  · intro same
    rw [OutputFormat.print, OutputFormat.print, faces, faces, same]

end Token

/-! ## Records -/

namespace Token

/-- The payload of a token in a record: an integer is quoted. -/
def enclosed (kind : TokenKind) (payload : String) : String :=
  if kind = .integer then Text.quote payload else payload

/-- A token as a record over several lines, from its face. -/
def recorded : TokenKind × Option String → String
  | (kind, none) => Value.enclose 1 "\x7b" [Text.quote "type" ++ ": " ++ Text.quote kind.tag] "\x7d"
  | (kind, some payload) =>
    Value.enclose 1 "\x7b" [Text.quote "type" ++ ": " ++ Text.quote kind.tag,
      Text.quote "value" ++ ": " ++ enclosed kind payload] "\x7d"

theorem prettyAt_toValue {t : Token} (finite : t.Finite) : t.toValue.prettyAt 1 = recorded t.face := by
  cases t with
  | floatingPoint x =>
    have number : x.isFinite = true := finite
    have plain : Value.jsonNumber x = x.text := if_pos number
    simp only [toValue, payload?, Value.prettyAt, Value.prettyEntries, plain]
    rfl
  | _ => rfl

theorem enclosed_inj {kind : TokenKind} {payload payload' : String}
    (same : enclosed kind payload = enclosed kind payload') : payload = payload' := by
  unfold enclosed at same
  split at same
  · exact Text.quote_inj.mp same
  · exact same

theorem lineFeed_notMem_enclosed {kind : TokenKind} {payload : String} (short : '\n' ∉ payload.toList) :
    '\n' ∉ (enclosed kind payload).toList := by
  unfold enclosed
  split
  · exact Text.lineFeed_notMem_quote payload
  · exact short

/-- What stands in front of the kind in a record. -/
def lead : List Char := "\x7b".toList ++ ((Value.lineBreak 2).toList ++ (Text.quote "type" ++ ": ").toList)

/-- What stands behind the entries of a record, apart from the line break. -/
def trail : List Char := List.replicate 2 ' ' ++ "\x7d".toList

/-- What stands behind the kind in a record: the payload if there is one, the end, and what follows it. -/
def recordedRest (kind : TokenKind) : Option String → List Char → List Char
  | none, rest => '\n' :: (trail ++ rest)
  | some payload, rest => ',' :: ((Value.lineBreak 2).toList ++ (Text.quote "value" ++ ": ").toList ++
      ((enclosed kind payload).toList ++ '\n' :: (trail ++ rest)))

theorem toList_recorded (kind : TokenKind) (payload? : Option String) (rest : List Char) :
    (recorded (kind, payload?)).toList ++ rest =
      lead ++ ((Text.quote kind.tag).toList ++ recordedRest kind payload? rest) := by
  cases payload? <;> simp [recorded, recordedRest, Value.enclose, lead, trail, Value.lineBreak]

/-- A record says itself where it ends. -/
theorem recorded_append_inj {t u : Token} {rest rest' : List Char}
    (same : (recorded t.face).toList ++ rest = (recorded u.face).toList ++ rest') :
    t.face = u.face ∧ rest = rest' := by
  unfold face at same ⊢
  rw [toList_recorded, toList_recorded] at same
  obtain ⟨tags, behind⟩ := Text.quote_append_inj (List.append_cancel_left same)
  rw [TokenKind.tag_inj tags] at behind ⊢
  -- a comma or a line break says whether there is a payload
  cases shown : t.shown? with
  | none =>
    cases shown' : u.shown? with
    | none =>
      rw [shown, shown'] at behind
      exact ⟨rfl, List.append_cancel_left (List.cons.inj behind).2⟩
    | some payload' =>
      rw [shown, shown'] at behind
      exact absurd (List.cons.inj behind).1 (by decide)
  | some payload =>
    cases shown' : u.shown? with
    | none =>
      rw [shown, shown'] at behind
      exact absurd (List.cons.inj behind).1 (by decide)
    | some payload' =>
      rw [shown, shown'] at behind
      -- the line of a payload ends where the payload does
      obtain ⟨payloads, trails⟩ := append_cons_inj
        (lineFeed_notMem_enclosed (lineFeed_notMem_shown shown))
        (lineFeed_notMem_enclosed (lineFeed_notMem_shown shown'))
        (List.append_cancel_left (List.cons.inj behind).2)
      rw [enclosed_inj (String.toList_inj.mp payloads)]
      exact ⟨rfl, List.append_cancel_left trails⟩

/-! ## Lists of records -/

/-- What stands behind the first of several records: the others and the closing bracket. -/
def recordedBehind (ts : List Token) : List Char :=
  ts.flatMap (fun t => ',' :: ((Value.lineBreak 1).toList ++ (recorded t.face).toList)) ++ ['\n', ']']

theorem recordedBehind_cons (t : Token) (ts : List Token) : recordedBehind (t :: ts) =
    ',' :: ((Value.lineBreak 1).toList ++ ((recorded t.face).toList ++ recordedBehind ts)) := by
  simp [recordedBehind]

theorem recordedBehind_inj {ts us : List Token} (same : recordedBehind ts = recordedBehind us) :
    ts.map face = us.map face := by
  induction ts generalizing us with
  | nil =>
    cases us with
    | nil => rfl
    | cons u us =>
      rw [recordedBehind_cons] at same
      exact absurd (List.cons.inj same).1 (by decide)
  | cons t ts ih =>
    rw [recordedBehind_cons] at same
    cases us with
    | nil => exact absurd (List.cons.inj same).1 (by decide)
    | cons u us =>
      rw [recordedBehind_cons] at same
      obtain ⟨first, rest⟩ := recorded_append_inj (List.append_cancel_left (List.cons.inj same).2)
      rw [List.map_cons, List.map_cons, first, ih rest]

theorem prettyItems_toValue {ts : List Token} (finite : ∀ t ∈ ts, t.Finite) :
    Value.prettyItems 1 (ts.map toValue) = ts.map fun t => recorded t.face := by
  induction ts with
  | nil => rfl
  | cons t ts ih =>
    obtain ⟨first, others⟩ := List.forall_mem_cons.mp finite
    have record : ∃ entries, t.toValue = .mapping entries := by
      unfold toValue
      split <;> exact ⟨_, rfl⟩
    obtain ⟨entries, mapping⟩ := record
    rw [List.map_cons, List.map_cons, ← ih others, ← prettyAt_toValue first, mapping]
    rfl

theorem print_json_eq {ts : List Token} (finite : ∀ t ∈ ts, t.Finite) :
    OutputFormat.json.print ts = Value.enclose 0 "[" ((ts.map face).map recorded) "]" := by
  simp only [OutputFormat.print, Value.prettyJson, Value.prettyAt, prettyItems_toValue finite, List.map_map]
  rfl

theorem toList_print_json {t : Token} {ts : List Token} (finite : ∀ u ∈ t :: ts, u.Finite) :
    (OutputFormat.json.print (t :: ts)).toList =
      '[' :: ((Value.lineBreak 1).toList ++ ((recorded t.face).toList ++ recordedBehind ts)) := by
  have last : (Value.lineBreak 0).toList = ['\n'] := by simp [Value.lineBreak]
  rw [print_json_eq finite]
  simp [Value.enclose, String.toList_intercalate, intercalate_cons, recordedBehind, List.flatMap_map, last]

theorem print_json_eq_iff {ts us : List Token} (finite : ∀ t ∈ ts, t.Finite) (finite' : ∀ u ∈ us, u.Finite) :
    OutputFormat.json.print ts = OutputFormat.json.print us ↔ ts.map face = us.map face := by
  constructor
  · intro same
    have texts := congrArg String.toList same
    have none : (OutputFormat.json.print []).toList = ['[', ']'] := by decide
    have breaks : (Value.lineBreak 1).toList = '\n' :: [' ', ' '] := by simp [Value.lineBreak]
    -- between the brackets of an empty list no line ends
    cases ts with
    | nil =>
      cases us with
      | nil => rfl
      | cons u us =>
        rw [none, toList_print_json finite', breaks] at texts
        simp at texts
    | cons t ts =>
      rw [toList_print_json finite] at texts
      cases us with
      | nil =>
        rw [none, breaks] at texts
        simp at texts
      | cons u us =>
        rw [toList_print_json finite'] at texts
        obtain ⟨first, rest⟩ := recorded_append_inj (List.append_cancel_left (List.cons.inj texts).2)
        rw [List.map_cons, List.map_cons, first, recordedBehind_inj rest]
  · intro faces
    rw [print_json_eq finite, print_json_eq finite', faces]

end Token

/-! ## Tokens of a text -/

namespace Token

/-- The number that is read from a lexeme is one that printing can tell from others. -/
theorem numeric_of_spells {final : Prop} {t : Token} {lexeme : List Cluster}
    (spells : Spells final t lexeme) : t.Numeric := by
  cases spells with
  | floatingPoint => exact ⟨Binary64.ofDecimal_representable _ _ _, Binary64.ofDecimal_ne_nan _ _ _⟩
  | _ => trivial

theorem numeric_of_tokenize {text : String} {ts : List Token} (run : tokenize text {} true = .ok ts) :
    ∀ t ∈ ts, t.Numeric := by
  obtain ⟨_, _, _, spans, rfl, partition, _⟩ := exists_spans_of_tokenize run
  intro t member
  rcases List.mem_append.mp member with inner | last
  · obtain ⟨span, inside, rfl⟩ := List.mem_map.mp inner
    exact numeric_of_spells (partition.spelled span inside)
  · rw [List.mem_singleton.mp last]
    trivial

end Token

/-! ## Both layouts -/

theorem Token.forall₂_same_iff {ts us : List Token} (numeric : ∀ t ∈ ts, t.Numeric)
    (numeric' : ∀ u ∈ us, u.Numeric) :
    List.Forall₂ (fun t u => t.same u = true) ts us ↔ ts.map face = us.map face := by
  induction ts generalizing us with
  | nil => cases us <;> simp
  | cons t ts ih =>
    cases us with
    | nil => simp
    | cons u us =>
      obtain ⟨here, others⟩ := List.forall_mem_cons.mp numeric
      obtain ⟨there, others'⟩ := List.forall_mem_cons.mp numeric'
      rw [List.forall₂_cons, same_iff here there, ih others others', List.map_cons, List.map_cons,
        List.cons.injEq]

namespace OutputFormat

/-- What is printed determines the tokens.  In running text each token has a line of its own, whatever its
payload is, and two lists are printed alike just when they are as long and hold the same tokens.  In JSON this
is so as well if all numbers are finite. -/
theorem print_eq_iff {ts us : List Token} (numeric : ∀ t ∈ ts, t.Numeric) (numeric' : ∀ u ∈ us, u.Numeric) :
    lines (text.print ts) = ts.map Token.display ∧
      (text.print ts = text.print us ↔ List.Forall₂ (fun t u => t.same u = true) ts us) ∧
      ((∀ t ∈ ts, t.Finite) → (∀ u ∈ us, u.Finite) →
        (json.print ts = json.print us ↔ List.Forall₂ (fun t u => t.same u = true) ts us)) := by
  rw [Token.forall₂_same_iff numeric numeric']
  exact ⟨Token.lines_print ts, Token.print_text_eq_iff, Token.print_json_eq_iff⟩

/-- The two zeros are printed alike, and a comment that looks like two tokens stays on its line. -/
theorem print_eq_iff_zeros :
    let ts : List Token := [.floatingPoint (.zero true), .comment "\")\nflag(\"b"]
    let us : List Token := [.floatingPoint (.zero false), .comment "\")\nflag(\"b"]
    (∀ t ∈ ts, t.Numeric) ∧ (∀ u ∈ us, u.Numeric) ∧ (lines (text.print ts)).length = 2 ∧
      text.print ts = text.print us ∧ json.print ts = json.print us := by
  intro ts us
  have zero (negative : Bool) : (Token.floatingPoint (.zero negative)).Numeric :=
    ⟨Binary64.zero_representable negative, by simp [Binary64.zero]⟩
  have numeric : ∀ t ∈ ts, t.Numeric := List.forall_mem_cons.mpr ⟨zero true, by simp [Token.Numeric]⟩
  have numeric' : ∀ u ∈ us, u.Numeric := List.forall_mem_cons.mpr ⟨zero false, by simp [Token.Numeric]⟩
  have finite : ∀ t ∈ ts, t.Finite := by simp [ts, Token.Finite, Binary64.zero, Binary64.isFinite]
  have finite' : ∀ u ∈ us, u.Finite := by simp [us, Token.Finite, Binary64.zero, Binary64.isFinite]
  have same : List.Forall₂ (fun t u => t.same u = true) ts us := .cons rfl (.cons (by decide) .nil)
  obtain ⟨split, running, records⟩ := print_eq_iff numeric numeric'
  exact ⟨numeric, numeric', by rw [split]; rfl, running.mpr same, (records finite finite').mpr same⟩

end OutputFormat

end LiteralLexer
