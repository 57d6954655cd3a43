import Mathlib.Data.List.Nodup
import LiteralLexer.Config.Lexing
import LiteralLexer.Proofs.Lexer.Checked
import LiteralLexer.Proofs.Result
import LiteralLexer.Yaml.Parser

/-!
# Which configurations there are

`Config.Describes` says which value spells which configuration, without a word about how it is checked.
`Config.ofValue` accepts these values, and beside them every object that is no list and has no fields of its
own: an instant, a set, an ordered mapping, or no octets (`Config.ofValue_eq_ok_iff`).  It takes them for
mappings that leave everything out.  Every other value is refused with a reason.

What is accepted is fit for a lexer, so that nothing can go wrong with the lexer itself later on
(`Config.accepted_safe`).  The parser of the documents may be any; a list that holds itself is refused in
words of its own.
-/

namespace LiteralLexer

namespace Transform

/-- The name under which a configuration lists a transform. -/
def spelling : Transform → String
  | .whitespace => "whitespace"
  | .endOfInput => "endOfInput"
  | .newLine => "newLine"
  | .comment => "comment"
  | .boolean => "boolean"
  | .number => "number"
  | .character => "character"
  | .string => "string"
  | .flag => "flag"

theorem ofName?_spelling (t : Transform) : ofName? t.spelling = some t := by
  cases t <;> decide

/-- The transforms are told apart by their names. -/
theorem ofName?_eq_some_iff {name : String} {t : Transform} :
    ofName? name = some t ↔ name = t.spelling := by
  constructor
  · intro found
    have named := List.find?_some found
    rw [← of_decide_eq_true named]
    cases t <;> rfl
  · rintro rfl
    exact ofName?_spelling t

end Transform

theorem Cluster.isSome_ofText? (text : String) :
    (ofText? text).isSome ↔ (ofText text).length = 1 := by
  rw [ofText?, List.length_eq_one_iff]
  split
  · next c cut => simp [cut]
  · next other => simpa using other

namespace ConfigError

/-- An error about a configuration, and not about data that hold themselves. -/
def Plain (e : ConfigError) : Prop := ∀ message, e ≠ .circular message

theorem Plain.message_eq {e : ConfigError} (plain : e.Plain) :
    e.message = "Invalid configuration: " ++ e.reason := by
  cases e with
  | circular message => exact absurd rfl (plain message)
  | _ => rfl

end ConfigError

namespace Config

variable {entries : List (String × Value)} {name : String}

/-! ## Fields -/

/-- A field spells something, or it is left out and this is the default. -/
inductive HasField {α : Type} (entries : List (String × Value)) (name : String) (default : α)
    (spelling : α → Value) (a : α) : Prop where
  | given (spelled : entries.lookup name = some (spelling a))
  | omitted (absent : entries.lookup name = none) (usual : a = default)

/-- A field is read to what it spells, if its own reader does so. -/
theorem field_eq_ok_iff {α : Type} {default : α} {read : Value → Except ConfigError α}
    {spelling : α → Value} {Fit : α → Prop} (fit : Fit default)
    (reads : ∀ value a, read value = .ok a ↔ value = spelling a ∧ Fit a) {a : α} :
    field entries name default read = .ok a ↔ HasField entries name default spelling a ∧ Fit a := by
  rw [field]
  cases found : entries.lookup name with
  | none =>
    -- the default is fit, so nothing has to be checked
    constructor
    · intro same
      cases same
      exact ⟨.omitted found rfl, fit⟩
    · rintro ⟨spells, _⟩
      cases spells with
      | given spelled => rw [spelled] at found; contradiction
      | omitted absent usual => exact congrArg Except.ok usual.symm
  | some value =>
    rw [reads]
    refine and_congr_left fun _ => ⟨fun same => .given (same ▸ found), fun spells => ?_⟩
    cases spells with
    | given spelled => exact Option.some.inj (found.symm.trans spelled)
    | omitted absent => rw [absent] at found; contradiction

theorem exists_of_field_error {α : Type} {default : α} {read : Value → Except ConfigError α}
    {e : ConfigError} (refused : field entries name default read = .error e) :
    ∃ value, read value = .error e := by
  rw [field] at refused
  split at refused
  · exact ⟨_, refused⟩
  · contradiction

/-- A list of transforms is spelled by their names. -/
def transformNames (ts : List Transform) : Value := .list (ts.map fun t => .text t.spelling)

/-- Transforms that a lexer can run: none comes twice, and one notices the end of the text. -/
structure Runnable (ts : List Transform) : Prop where
  distinct : ts.Nodup
  noticed : .endOfInput ∈ ts

instance (ts : List Transform) : Decidable (Runnable ts) :=
  decidable_of_iff (ts.Nodup ∧ .endOfInput ∈ ts)
    ⟨fun parts => ⟨parts.1, parts.2⟩, fun runnable => ⟨runnable.distinct, runnable.noticed⟩⟩

/-- The names of transforms are read to these transforms. -/
theorem transformsAfter_names {before more : List Transform} (runnable : Runnable (before ++ more)) :
    transformsAfter before (more.map fun t => .text t.spelling) = .ok (before ++ more) := by
  induction more generalizing before with
  | nil =>
    rw [List.append_nil] at runnable ⊢
    exact if_pos runnable.noticed
  | cons t more ih =>
    -- the first name is none of those before it, so it joins them
    have fresh : t ∉ before := by
      intro member
      exact (List.nodup_append.mp runnable.distinct).2.2 t member t List.mem_cons_self rfl
    have split : before ++ t :: more = before ++ [t] ++ more := by simp
    rw [split] at runnable ⊢
    simp only [List.map_cons, transformsAfter, Transform.ofName?_spelling, fresh, if_false]
    exact ih runnable

/-- What is read are names of transforms, the ones that came before left out. -/
theorem of_transformsAfter {before ts : List Transform} {entries : List Value}
    (distinct : before.Nodup) (read : transformsAfter before entries = .ok ts) :
    Runnable ts ∧ ∃ more, ts = before ++ more ∧ entries = more.map fun t => .text t.spelling := by
  induction entries generalizing before with
  | nil =>
    rw [transformsAfter] at read
    split at read
    · next noticed =>
      cases read
      exact ⟨⟨distinct, noticed⟩, [], (List.append_nil _).symm, rfl⟩
    · contradiction
  | cons entry entries ih =>
    cases entry with
    | text name =>
      rw [transformsAfter] at read
      split at read
      · contradiction
      · next t named =>
        split at read
        · contradiction
        · next fresh =>
          have longer : (before ++ [t]).Nodup := by
            rw [← List.concat_eq_append]
            exact List.Nodup.concat fresh distinct
          obtain ⟨runnable, more, rfl, rfl⟩ := ih longer read
          refine ⟨runnable, t :: more, by simp, ?_⟩
          rw [List.map_cons, Transform.ofName?_eq_some_iff.mp named]
    | _ => contradiction

theorem transformsOf_eq_ok_iff (value : Value) (ts : List Transform) :
    transformsOf value = .ok ts ↔ value = transformNames ts ∧ Runnable ts := by
  constructor
  · intro read
    cases value with
    | list entries =>
      obtain ⟨runnable, more, rfl, rfl⟩ := of_transformsAfter List.nodup_nil read
      exact ⟨rfl, runnable⟩
    | _ => contradiction
  · rintro ⟨rfl, runnable⟩
    exact transformsAfter_names (show Runnable ([] ++ ts) from runnable)

theorem sentinelOf_eq_ok_iff (value : Value) (s : String) :
    sentinelOf value = .ok s ↔ value = .text s ∧ (Cluster.ofText s).length = 1 := by
  cases value with
  | text t =>
    simp only [sentinelOf, Cluster.isSome_ofText?, Value.text.injEq]
    by_cases single : (Cluster.ofText t).length = 1
    · simp only [single, if_true, Except.ok.injEq]
      exact ⟨fun same => ⟨same, same ▸ single⟩, And.left⟩
    · simp only [single, if_false, reduceCtorEq, false_iff]
      rintro ⟨rfl, other⟩
      exact single other
  | _ => simp [sentinelOf]

theorem includeComments_eq_ok_iff {b : Bool} :
    field entries "includeComments" true includeCommentsOf = .ok b ↔
      HasField entries "includeComments" true .bool b := by
  -- either boolean will do
  have reads (value : Value) (b : Bool) :
      includeCommentsOf value = .ok b ↔ value = .bool b ∧ True := by
    cases value <;> simp [includeCommentsOf]
  rw [field_eq_ok_iff trivial reads, and_true]

theorem transforms_eq_ok_iff {ts : List Transform} :
    field entries "transforms" Transform.defaultOrder transformsOf = .ok ts ↔
      HasField entries "transforms" Transform.defaultOrder transformNames ts ∧ Runnable ts :=
  field_eq_ok_iff (by decide) transformsOf_eq_ok_iff

theorem sentinel_eq_ok_iff {s : String} :
    field entries "endOfInput" Source.defaultSentinel sentinelOf = .ok s ↔
      HasField entries "endOfInput" Source.defaultSentinel .text s ∧ (Cluster.ofText s).length = 1 :=
  field_eq_ok_iff (by decide +kernel) sentinelOf_eq_ok_iff

/-! ## Documents -/

/-- A value spells a configuration: nothing at all spells the default one, and a mapping of known fields
the one that has these fields, and the defaults for the rest. -/
inductive Describes : Value → Config → Prop where
  | empty : Describes .null {}
  | mapping {entries : List (String × Value)} {config : Config}
      (known : ∀ entry ∈ entries, entry.1 ∈ ["transforms", "includeComments", "endOfInput"])
      (transforms : HasField entries "transforms" Transform.defaultOrder transformNames
        config.transforms)
      (runnable : Runnable config.transforms)
      (includeComments : HasField entries "includeComments" true .bool config.includeComments)
      (sentinel : HasField entries "endOfInput" Source.defaultSentinel .text config.sentinel)
      (single : (Cluster.ofText config.sentinel).length = 1) :
      Describes (.mapping entries) config

/-- An object that is neither a list nor a mapping, and that has no fields of its own. -/
inductive Fieldless : Value → Prop where
  | instant (t : Instant) : Fieldless (.instant t)
  | box (isSet : Bool) : Fieldless (.box isSet)
  | noBytes : Fieldless (.bytes [])

theorem Fieldless.not_describes {value : Value} {config : Config} (fieldless : Fieldless value) :
    ¬ Describes value config := by
  intro describes
  cases fieldless <;> cases describes

/-- A value is accepted as a configuration: it spells it, or it is an object without fields and the
configuration is the default one. -/
def Accepts (value : Value) (config : Config) : Prop :=
  Describes value config ∨ (Fieldless value ∧ config = {})

theorem Describes.fit {value : Value} {config : Config} (describes : Describes value config) :
    Runnable config.transforms ∧ ∃ mark, Cluster.ofText? config.sentinel = some mark := by
  simp only [← Option.isSome_iff_exists, Cluster.isSome_ofText?]
  cases describes with
  | empty => exact ⟨by decide, by decide +kernel⟩
  | mapping _ _ runnable _ _ single => exact ⟨runnable, single⟩

/-- Known fields are read one by one. -/
theorem ofFields_known (known : ∀ entry ∈ entries, entry.1 ∈ fields) :
    ofFields entries =
      (field entries "includeComments" true includeCommentsOf).bind fun includeComments =>
      (field entries "transforms" Transform.defaultOrder transformsOf).bind fun transforms =>
      (field entries "endOfInput" Source.defaultSentinel sentinelOf).bind fun sentinel =>
        .ok { transforms, includeComments, sentinel } := by
  -- the search for an unknown field is in vain
  have all : entries.find? (·.1 ∉ fields) = none := by
    rw [List.find?_eq_none]
    intro entry member
    simpa using known entry member
  rw [ofFields, all]
  rfl

theorem ofFields_unknown (unknown : ¬ ∀ entry ∈ entries, entry.1 ∈ fields) :
    ∃ name, ofFields entries = .error (.unknownField name) := by
  cases found : entries.find? (·.1 ∉ fields) with
  | none =>
    refine absurd (fun entry member => ?_) unknown
    simpa using List.find?_eq_none.mp found entry member
  | some entry => exact ⟨entry.1, by rw [ofFields, found]⟩

theorem ofFields_eq_ok_iff {config : Config} :
    ofFields entries = .ok config ↔ Describes (.mapping entries) config := by
  by_cases known : ∀ entry ∈ entries, entry.1 ∈ fields
  · simp only [ofFields_known known, bind_eq_ok_iff, includeComments_eq_ok_iff,
      transforms_eq_ok_iff, sentinel_eq_ok_iff]
    constructor
    · rintro ⟨_, includeComments, _, ⟨transforms, runnable⟩, _, ⟨sentinel, single⟩, same⟩
      cases same
      exact .mapping known transforms runnable includeComments sentinel single
    · intro describes
      cases describes with
      | mapping _ transforms runnable includeComments sentinel single =>
        exact ⟨_, includeComments, _, ⟨transforms, runnable⟩, _, ⟨sentinel, single⟩, rfl⟩
  · obtain ⟨name, refused⟩ := ofFields_unknown known
    rw [refused]
    constructor
    · intro read
      contradiction
    · intro describes
      cases describes with
      | mapping all => exact absurd all known

/-- The values that are accepted are those that spell a configuration, and the objects without fields. -/
theorem ofValue_eq_ok_iff {value : Value} {config : Config} :
    ofValue value = .ok config ↔ Accepts value config := by
  constructor
  · intro accepted
    cases value with
    | null =>
      cases accepted
      exact .inl .empty
    | mapping entries => exact .inl (ofFields_eq_ok_iff.mp accepted)
    | instant t =>
      cases accepted
      exact .inr ⟨.instant t, rfl⟩
    | box isSet =>
      cases accepted
      exact .inr ⟨.box isSet, rfl⟩
    | bytes octets =>
      cases octets with
      | nil =>
        cases accepted
        exact .inr ⟨.noBytes, rfl⟩
      -- the first octet has a field, under the name 0
      | cons octet octets => contradiction
    | _ => contradiction
  · rintro (describes | ⟨fieldless, rfl⟩)
    · cases describes with
      | empty => rfl
      | mapping known transforms runnable includeComments sentinel single =>
        exact ofFields_eq_ok_iff.mpr
          (.mapping known transforms runnable includeComments sentinel single)
    · cases fieldless <;> rfl

/-- What is accepted is fit for a lexer. -/
theorem Accepts.fit {value : Value} {config : Config} (accepts : Accepts value config) :
    Runnable config.transforms ∧ ∃ mark, Cluster.ofText? config.sentinel = some mark := by
  rcases accepts with describes | ⟨_, rfl⟩
  · exact describes.fit
  · exact Describes.empty.fit

/-! ## Refusals -/

theorem plain_of_transformsAfter {before : List Transform} {entries : List Value} {e : ConfigError}
    (refused : transformsAfter before entries = .error e) : e.Plain := by
  induction entries generalizing before with
  | nil =>
    rw [transformsAfter] at refused
    split at refused <;> cases refused
    nofun
  | cons entry entries ih =>
    cases entry with
    | text name =>
      rw [transformsAfter] at refused
      split at refused
      · cases refused
        nofun
      · split at refused
        · cases refused
          nofun
        · exact ih refused
    | _ =>
      cases refused
      nofun

theorem plain_of_ofFields {e : ConfigError} (refused : ofFields entries = .error e) : e.Plain := by
  by_cases known : ∀ entry ∈ entries, entry.1 ∈ fields
  · rw [ofFields_known known] at refused
    simp only [bind_eq_error_iff] at refused
    -- the first field that is refused, in the order in which they are read
    rcases refused with refused | ⟨_, _, refused | ⟨_, _, refused | ⟨_, _, refused⟩⟩⟩
    · obtain ⟨value, refused⟩ := exists_of_field_error refused
      cases value <;> cases refused <;> nofun
    · obtain ⟨value, refused⟩ := exists_of_field_error refused
      cases value with
      | list entries => exact plain_of_transformsAfter refused
      | _ => cases refused; nofun
    · obtain ⟨value, refused⟩ := exists_of_field_error refused
      cases value with
      | text s =>
        rw [sentinelOf] at refused
        split at refused <;> cases refused
        nofun
      | _ => cases refused; nofun
    · contradiction
  · obtain ⟨name, unknown⟩ := ofFields_unknown known
    rw [unknown] at refused
    cases refused
    nofun

theorem plain_of_ofValue {value : Value} {e : ConfigError} (refused : ofValue value = .error e) :
    e.Plain := by
  unfold ofValue at refused
  split at refused
  · contradiction
  · split at refused
    · exact plain_of_ofFields refused
    · cases refused
      nofun

/-- Whether an item of the list of transforms in a document holds itself, and what is said about it. -/
def Circular (document : ConfigDocument) (message : String) : Prop :=
  ∃ index, document.itemFault? "transforms" index = some message

theorem errorIn_cases (document : ConfigDocument) {e : ConfigError} (plain : e.Plain) :
    (errorIn document e).Plain ∨
      ∃ message, Circular document message ∧ errorIn document e = .circular message := by
  cases e with
  | transformNotText index entry =>
    rw [errorIn]
    cases faults : document.itemFault? "transforms" index with
    | none => exact .inl plain
    | some message => exact .inr ⟨message, ⟨index, faults⟩, rfl⟩
  | _ => exact .inl plain

variable {parse : DocumentParser} {text : String}

theorem ofText_eq_ok_iff {config : Config} : Config.ofText parse text = .ok config ↔
    ∃ document, parse text = .ok document ∧ Accepts document.value config := by
  rw [Config.ofText]
  cases parse text with
  | error reason => simp
  | ok document =>
    simp only [Except.ok.injEq, exists_eq_left', ← ofValue_eq_ok_iff]
    cases ofValue document.value <;> simp

theorem ofText_error {e : ConfigError} (refused : Config.ofText parse text = .error e) :
    e.Plain ∨ ∃ document message,
      parse text = .ok document ∧ Circular document message ∧ e = .circular message := by
  rw [Config.ofText] at refused
  cases parsed : parse text with
  | error reason =>
    rw [parsed] at refused
    cases refused
    exact .inl nofun
  | ok document =>
    rw [parsed] at refused
    cases read : ofValue document.value with
    | ok config =>
      simp only [read, mapError_ok, reduceCtorEq] at refused
    | error reason =>
      simp only [read, mapError_error, Except.error.injEq] at refused
      subst refused
      rcases errorIn_cases document (plain_of_ofValue read) with plain | ⟨message, circular, same⟩
      · exact .inl plain
      · exact .inr ⟨document, message, rfl, circular, same⟩

end Config

/-- Lexing under a configuration, no stride and no position is refused, and every text has tokens or is
at fault: there is nothing wrong with the lexer itself, and it comes to an end. -/
structure Config.Safe (config : Config) : Prop where
  checked : ∀ text keep,
    tokenize? text { stages := config.transforms.map .builtin, sentinel := config.sentinel } keep =
      some (LiteralLexer.tokenize text
        { stages := config.transforms.map .builtin, sentinel := config.sentinel } keep)
  total : ∀ text keep,
    (∃ tokens, LiteralLexer.tokenize text
      { stages := config.transforms.map .builtin, sentinel := config.sentinel } keep = .ok tokens) ∨
    ∃ found, LiteralLexer.tokenize text
      { stages := config.transforms.map .builtin, sentinel := config.sentinel } keep =
        .error (.malformed found)

theorem Config.Accepts.safe {value : Value} {config : Config} (accepts : Accepts value config) :
    ∃ mark, Cluster.ofText? config.sentinel = some mark ∧ (mark.Inert → config.Safe) := by
  obtain ⟨runnable, mark, alone⟩ := accepts.fit
  refine ⟨mark, alone, fun inert => ⟨fun text keep => ?_, fun text keep => ?_⟩⟩
  · exact tokenize?_eq runnable.noticed alone inert keep
  · exact tokenize_total runnable.noticed alone inert keep

/-- Whatever the parser is, a text is accepted if its document spells the configuration, or if the document is
an object without fields and the configuration is the default one; so what is accepted is what is spelled
unless the document is such an object.  Every other text is refused as an invalid configuration, unless its
document holds itself.  An accepted configuration with an inert sentinel is safe. -/
theorem Config.accepted_safe (parse : DocumentParser) (text : String) :
    (∀ config, Config.ofText parse text = .ok config ↔ ∃ document, parse text = .ok document ∧
      (Describes document.value config ∨ (Fieldless document.value ∧ config = {}))) ∧
    (∀ document, parse text = .ok document →
      ((∀ config, Config.ofText parse text = .ok config ↔ Describes document.value config) ↔
        ¬ Fieldless document.value)) ∧
    (∀ e, Config.ofText parse text = .error e →
      e.message = "Invalid configuration: " ++ e.reason ∨ ∃ document message,
        parse text = .ok document ∧ Circular document message) ∧
    ∀ config, Config.ofText parse text = .ok config →
      ∃ mark, Cluster.ofText? config.sentinel = some mark ∧ (mark.Inert → config.Safe) := by
  refine ⟨fun _ => ofText_eq_ok_iff, fun document parsed => ?_, fun e refused => ?_,
    fun config read => ?_⟩
  · have accepted (config : Config) : Config.ofText parse text = .ok config ↔
        Describes document.value config ∨ (Fieldless document.value ∧ config = {}) := by
      rw [ofText_eq_ok_iff, parsed]
      simp only [Except.ok.injEq, exists_eq_left', Accepts]
    constructor
    · intro spelled fieldless
      exact fieldless.not_describes ((spelled {}).mp ((accepted {}).mpr (.inr ⟨fieldless, rfl⟩)))
    · intro fields config
      rw [accepted, or_iff_left fun bare => fields bare.1]
  · rcases ofText_error refused with plain | ⟨document, message, parsed, circular, _⟩
    · exact .inl plain.message_eq
    · exact .inr ⟨document, message, parsed, circular⟩
  · obtain ⟨document, _, accepts⟩ := ofText_eq_ok_iff.mp read
    exact accepts.safe

theorem Config.accepted_safe_dollar : ∃ config,
    Config.ofText Yaml.parse "transforms: [number, endOfInput]\nendOfInput: $" = .ok config ∧
      config.transforms = [.number, .endOfInput] ∧ config.sentinel = "$" ∧ config.Safe := by
  have read : Config.ofText Yaml.parse "transforms: [number, endOfInput]\nendOfInput: $" =
      .ok { transforms := [.number, .endOfInput], sentinel := "$" } :=
    toOption_eq_some_iff.mp (by decide +kernel)
  obtain ⟨_, _, _, safe⟩ := accepted_safe Yaml.parse _
  obtain ⟨mark, alone, safe⟩ := safe _ read
  have dollar : Cluster.ofText? "$" = some (.single '$') := by decide +kernel
  cases dollar.symm.trans alone
  exact ⟨_, read, rfl, rfl, safe ⟨by decide, by decide, by decide, by decide⟩⟩

/-- A document that is an instant is accepted, although it is no mapping. -/
theorem Config.accepts_instant : ∃ document, Yaml.parse "!!timestamp 2001-12-14" = .ok document ∧
    (∀ config, ¬ Describes document.value config) ∧
    Config.ofText Yaml.parse "!!timestamp 2001-12-14" = .ok {} := by
  have instant : (Yaml.parse "!!timestamp 2001-12-14").toOption.any (fun document =>
      match document.value with
      | .instant _ => true
      | _ => false) = true := by decide +kernel
  cases parsed : Yaml.parse "!!timestamp 2001-12-14" with
  | error reason =>
    rw [parsed] at instant
    contradiction
  | ok document =>
    simp only [parsed, Except.toOption, Option.any_some] at instant
    split at instant
    · next t same =>
      have fieldless : Fieldless document.value := same ▸ .instant t
      exact ⟨document, rfl, fun config => fieldless.not_describes,
        ofText_eq_ok_iff.mpr ⟨document, parsed, .inr ⟨fieldless, rfl⟩⟩⟩
    · contradiction

end LiteralLexer
