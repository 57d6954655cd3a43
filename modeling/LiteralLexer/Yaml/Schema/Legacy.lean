import LiteralLexer.Yaml.Schema.Atom

/-!
# The legacy schema

What a plain scalar means in documents of version 1.1: more words for booleans, numbers with
underscores, octal numbers behind a zero, numbers to the base of sixty, and dates.
-/

namespace LiteralLexer.Yaml.Legacy

/-- A boolean. -/
def boolean? (text : String) : Option Atom :=
  if text ∈ ["Y", "y", "Yes", "yes", "YES", "True", "true", "TRUE", "On", "on", "ON"] then
    some (.bool true)
  else if text ∈ ["N", "n", "No", "no", "NO", "False", "false", "FALSE", "Off", "off", "OFF"] then
    some (.bool false)
  else none

/-- A digit of a base, or an underscore. -/
def isDigitOf (base : Nat) (c : Char) : Bool := c = '_' || (Text.digits? base [c]).isSome

/-- Digits in groups: not empty, and made of digits and underscores. -/
def isGrouped (base : Nat) (cs : List Char) : Bool := !cs.isEmpty && cs.all (isDigitOf base)

/-- A text without its underscores. -/
def ungroup (cs : List Char) : List Char := cs.filter (· ≠ '_')

/-- The number that grouped digits stand for; no digits at all give the number that is none. -/
def grouped (negative : Bool) (base : Nat) (format : NumberFormat) (cs : List Char) : Atom :=
  match Text.digits? base (ungroup cs) with
  | some n => .number (Binary64.ofDecimal negative n 0) format
  | none => .number .nan format

/-- Whether digits start with a digit and go on with digits and underscores. -/
def isWhole (cs : List Char) : Bool := cs.head?.any Char.isDigit && cs.all (isDigitOf 10)

/-- An integer in binary, octal, decimal or hexadecimal. -/
def integer? (text : String) : Option Atom :=
  let (negative, cs) := Text.splitSign text.toList
  match cs with
  | '0' :: 'b' :: ds => if isGrouped 2 ds then some (grouped negative 2 .binary ds) else none
  | '0' :: 'x' :: ds => if isGrouped 16 ds then some (grouped negative 16 .hexadecimal ds) else none
  | cs =>
    if cs.head? = some '0' && isGrouped 8 (cs.drop 1) then
      some (grouped negative 8 .octal (cs.drop 1))
    else if isWhole cs then some (grouped negative 10 (.decimal 0) cs)
    else none

/-- A number with a decimal point or an exponent. -/
def decimal? (text : String) : Option Atom :=
  let (negative, cs) := Text.splitSign text.toList
  let whole := if cs.head?.any Char.isDigit then cs.takeWhile (isDigitOf 10) else []
  let behind := cs.drop whole.length
  let (fraction, rest, pointed) := match behind with
    | '.' :: cs => (cs.takeWhile (isDigitOf 10), cs.dropWhile (isDigitOf 10), true)
    | cs => ([], cs, false)
  let fraction := ungroup fraction
  let number (exponent : Int) : Binary64 :=
    match Text.digits? 10 (ungroup whole ++ fraction) with
    | some digits => Binary64.ofDecimal negative digits (exponent - fraction.length)
    | none => .nan
  if rest.isEmpty then
    let places := if fraction.getLast? = some '0' then fraction.length else 0
    if pointed then some (.number (number 0) (.decimal places)) else none
  else (Text.exponent? rest).map fun exponent => .number (number exponent) .exponent

/-- A number with a fraction, an exponent or no finite value. -/
def float? (text : String) : Option Atom := (special? text).or (decimal? text)

/-! ## To the base of sixty -/

/-- Cuts a text at every colon. -/
def splitColons (cs : List Char) : List (List Char) :=
  cs.foldr (fun c parts => match parts with
    | part :: parts => if c = ':' then [] :: part :: parts else (c :: part) :: parts
    | [] => [[c]]) [[]]

/-- A number below sixty: one digit, or two of which the first is below six. -/
def isSixtieth : List Char → Bool
  | [d] => d.isDigit
  | [t, d] => '0' ≤ t && t ≤ '5' && d.isDigit
  | _ => false

/-- A natural number added to a number, rounded. -/
def addNat (n : Nat) (x : Binary64) : Binary64 :=
  match x with
  | .finite false significand (.negSucc k) =>
    let total := significand + n * Nat.pow 2 (k + 1)
    if total = 0 then x else Binary64.ofFraction false total (Nat.pow 2 (k + 1))
  | .finite false significand (.ofNat k) =>
    Binary64.ofDecimal false (n + significand * Nat.pow 2 k) 0
  | x => x

/-- A number with the given sign. -/
def signed (negative : Bool) : Binary64 → Binary64
  | .finite _ significand exponent => .finite negative significand exponent
  | .infinite _ => .infinite negative
  | .nan => .nan

/-- The number of the groups before the last one, times sixty. -/
def sixties (parts : List (List Char)) : Nat :=
  parts.foldl (fun n part => (n + (Text.digits? 10 (ungroup part)).getD 0) * 60) 0

/-- Groups to the base of sixty with colons between them; the last one may have a fraction. -/
def sexagesimal? (fractional : Bool) (text : String) : Option Atom :=
  let (negative, cs) := Text.splitSign text.toList
  let parts := splitColons cs
  let last := parts.getLast?.getD []
  let (whole, fraction, pointed) := match last.dropWhile Char.isDigit with
    | '.' :: fraction => (last.takeWhile Char.isDigit, fraction, true)
    | _ => (last, [], false)
  let before := parts.dropLast
  if before.isEmpty || !before.head?.any isWhole || !(before.drop 1).all isSixtieth
      || !isSixtieth whole || pointed != fractional || !fraction.all (isDigitOf 10) then none
  else
    let fraction := ungroup fraction
    let digits := (Text.digits? 10 (whole ++ fraction)).getD 0
    let seconds := Binary64.ofDecimal false digits (-(fraction.length : Int))
    some (.number (signed negative (addNat (sixties before) seconds)) .sexagesimal)

/-! ## Dates -/

/-- Digits at the front of a text, at least one and at most the given number, and the rest. -/
def upToDigits (count : Nat) (cs : List Char) : Option (Int × List Char) :=
  let ds := (cs.takeWhile Char.isDigit).take count
  (Text.digits? 10 ds).map fun n => (n, cs.drop ds.length)

/-- The rest behind a character. -/
def behind? (c : Char) : List Char → Option (List Char)
  | d :: cs => if c = d then some cs else none
  | [] => none

/-- The offset of a time zone in minutes: nothing, `Z`, or a sign with hours and perhaps minutes.  A
number below thirty counts hours. -/
def zoneOffset? (cs : List Char) : Option Int :=
  let cs := cs.dropWhile (fun c => c = ' ' || c = '\t')
  match cs with
  | [] | ['Z'] => some 0
  | sign :: cs =>
    if sign ≠ '-' && sign ≠ '+' then none
    else
      let hours := cs.takeWhile Char.isDigit
      let isHours := match hours with
        | [_] => true
        | [t, _] => t ≤ '2'
        | _ => false
      let minutes? : Option (Option Nat) := match cs.drop hours.length with
        | [] => some none
        | ':' :: ds => if ds.length = 2 then (Text.digits? 10 ds).map some else none
        | _ => none
      match isHours, Text.digits? 10 hours, minutes? with
      | true, some hours, some minutes =>
        let total : Int := match minutes with
          | some minutes => hours * 60 + minutes
          | none => hours
        let total := if total < 30 then total * 60 else total
        some (if sign = '-' then -total else total)
      | _, _, _ => none

/-- The milliseconds of a fraction of a second, and what follows it. -/
def fraction? : List Char → Option (Int × List Char)
  | '.' :: cs =>
    let ds := cs.takeWhile Char.isDigit
    if ds.isEmpty then none
    else (Text.digits? 10 ((ds ++ ['0', '0']).take 3)).map fun n => (n, cs.drop ds.length)
  | cs => some (0, cs)

/-- A date, perhaps with a time and a time zone. -/
def instant? (text : String) : Option Instant := do
  let cs := text.toList
  if !(cs.take 4).all Char.isDigit then none
  let year ← Text.digits? 10 (cs.take 4)
  if cs.length < 4 then none
  let (month, cs) ← upToDigits 2 (← behind? '-' (cs.drop 4))
  let (day, cs) ← upToDigits 2 (← behind? '-' cs)
  match cs with
  | [] => some (.ofDate year month day 0 0 0 0)
  | c :: rest =>
    let rest :=
      if c = 't' || c = 'T' then rest else (c :: rest).dropWhile (fun c => c = ' ' || c = '\t')
    if c ≠ 't' && c ≠ 'T' && c ≠ ' ' && c ≠ '\t' then none
    let (hour, cs) ← upToDigits 2 rest
    let (minute, cs) ← upToDigits 2 (← behind? ':' cs)
    let (second, cs) ← upToDigits 2 (← behind? ':' cs)
    let (millisecond, cs) ← fraction? cs
    let offset ← zoneOffset? cs
    let reading := Instant.ofDate year month day hour minute second millisecond
    some ⟨reading.milliseconds - 60000 * offset⟩

/-- The meaning of a plain scalar other than text.  Only a key can be the merge key. -/
def plain? (atKey : Bool) (text : String) : Option Atom :=
  (null? text).or <| (boolean? text).or <| (integer? text).or <| (float? text).or <|
    (if atKey && text = "<<" then some .mergeKey else none).or <|
    (sexagesimal? false text).or <| (sexagesimal? true text).or <| (instant? text).map .instant

end LiteralLexer.Yaml.Legacy
