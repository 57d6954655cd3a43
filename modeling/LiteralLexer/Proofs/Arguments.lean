import LiteralLexer.Command.Arguments
import Mathlib.Data.List.Induction

/-!
# Command lines in groups

A command line without mistakes is made of groups: a path, an option with its value, or an option that
takes none.  What it asks for can be said without any order between different options, since of each option
only the last value counts (`ArgumentGroup.command`).  `Command.ofArguments_groups` says that this is how a
command line is understood, whatever its values look like, and that a request for help or for the version
ends the reading.

Reading is followed group by group: `ArgumentGroup.settings` is what the groups amount to, and one more group
changes it the way the reader changes its settings (`ArgumentGroup.settings_concat`).
-/

namespace LiteralLexer

/-- The name under which a layout is asked for. -/
def OutputFormat.name : OutputFormat → String
  | .text => "text"
  | .json => "json"

theorem OutputFormat.ofName?_name (layout : OutputFormat) : ofName? layout.name = some layout := by
  cases layout <;> rfl

/-- Arguments that belong together.  A path is a single dash or does not start with one; the values of
options may be anything, but for the name of a layout. -/
inductive ArgumentGroup where
  | path (file : String) (plain : file = "-" ∨ file.toList.head? ≠ some '-')
  | format (layout : OutputFormat)
  | config (file : String)
  | explain (code : String)
  | inlineText (text : String)
  | dropComments

namespace ArgumentGroup

/-- A group as it stands in a command line. -/
def arguments : ArgumentGroup → List String
  | .path file _ => [file]
  | .format layout => ["--format", layout.name]
  | .config file => ["--config", file]
  | .explain code => ["--explain", code]
  | .inlineText text => ["-e", text]
  | .dropComments => ["--no-comments"]

/-- What a group is about. -/
def option : ArgumentGroup → Argument
  | .path .. => .path
  | .format _ => .format
  | .config _ => .config
  | .explain _ => .explain
  | .inlineText _ => .inlineText
  | .dropComments => .dropComments

/-- The value of a group, which is empty for an option that takes none. -/
def value : ArgumentGroup → String
  | .path file _ => file
  | .format layout => layout.name
  | .config file => file
  | .explain code => code
  | .inlineText text => text
  | .dropComments => ""

/-! ## What groups ask for -/

/-- The values that are given for an option, in their order. -/
def given (option : Argument) (groups : List ArgumentGroup) : List String :=
  (groups.filter (·.option = option)).map value

/-- The last value that is given for an option. -/
def last? (option : Argument) (groups : List ArgumentGroup) : Option String :=
  (given option groups).getLast?

/-- The request to lex a text that the groups amount to. -/
def request (groups : List ArgumentGroup) (origin : TextOrigin) : LexRequest where
  origin
  format := ((last? .format groups).bind OutputFormat.ofName?).getD .text
  configPath := last? .config groups
  includeComments := given .dropComments groups = []

/-- What the groups ask for: an explanation before a text, and a text before a file. -/
def command (groups : List ArgumentGroup) : Except ArgumentError Command :=
  match last? .explain groups, last? .inlineText groups, last? .path groups with
  | some code, _, _ => .ok (.explain code)
  | none, some text, _ => .ok (.lex (request groups (.inline text)))
  | none, none, some file => .ok (.lex (request groups (.file file)))
  | none, none, none => .error .missingInput

/-- Two command lines that differ at most in the order of groups of different options. -/
def Rearranged (groups others : List ArgumentGroup) : Prop :=
  ∀ option : Argument, groups.filter (·.option = option) = others.filter (·.option = option)

/-! ## Reading group by group -/

/-- The settings that the groups amount to. -/
def settings (groups : List ArgumentGroup) : Settings where
  path := last? .path groups
  inlineText := last? .inlineText groups
  explain := last? .explain groups
  format := ((last? .format groups).bind OutputFormat.ofName?).getD .text
  configPath := last? .config groups
  includeComments := given .dropComments groups = []

/-- The settings after one more group. -/
def apply (s : Settings) : ArgumentGroup → Settings
  | .path file _ => { s with path := some file }
  | .format layout => { s with format := layout }
  | .config file => { s with configPath := some file }
  | .explain code => { s with explain := some code }
  | .inlineText text => { s with inlineText := some text }
  | .dropComments => { s with includeComments := false }

theorem command_settings (groups : List ArgumentGroup) :
    (settings groups).command = command groups := by
  simp only [Settings.command, command, settings]
  rfl

theorem given_concat (option : Argument) (groups : List ArgumentGroup) (g : ArgumentGroup) :
    given option (groups ++ [g]) =
      given option groups ++ if g.option = option then [g.value] else [] := by
  simp only [given, List.filter_append, List.map_append, List.filter_cons, List.filter_nil,
    decide_eq_true_eq]
  split <;> rfl

theorem last?_concat (option : Argument) (groups : List ArgumentGroup) (g : ArgumentGroup) :
    last? option (groups ++ [g]) = if g.option = option then some g.value else last? option groups := by
  rw [last?, given_concat]
  split <;> simp [last?]

theorem settings_concat (groups : List ArgumentGroup) (g : ArgumentGroup) :
    settings (groups ++ [g]) = apply (settings groups) g := by
  cases g <;>
    simp [settings, apply, last?_concat, given_concat, option, value, OutputFormat.ofName?_name]

theorem classify_path {file : String} (plain : file = "-" ∨ file.toList.head? ≠ some '-') :
    Argument.classify file = .path := by
  rw [Argument.classify, if_pos]
  rcases plain with dash | plain
  · simp [dash]
  · simp [plain]

/-- A group is read as a whole, whatever its value is and whatever follows. -/
theorem ofArgumentsAfter_group {s : Settings} {g : ArgumentGroup}
    (first : g.option = .path → s.path = none) (rest : List String) :
    Command.ofArgumentsAfter s (g.arguments ++ rest) = Command.ofArgumentsAfter (apply s g) rest := by
  cases g with
  | path file plain =>
    simp [arguments, Command.ofArgumentsAfter, classify_path plain, first rfl, apply]
  | format layout =>
    have asked : Argument.classify "--format" = .format := by decide
    simp [arguments, Command.ofArgumentsAfter, asked, Settings.withValue, OutputFormat.ofName?_name,
      apply]
  | config file =>
    have asked : Argument.classify "--config" = .config := by decide
    simp [arguments, Command.ofArgumentsAfter, asked, Settings.withValue, apply]
  | explain code =>
    have asked : Argument.classify "--explain" = .explain := by decide
    simp [arguments, Command.ofArgumentsAfter, asked, Settings.withValue, apply]
  | inlineText text =>
    have asked : Argument.classify "-e" = .inlineText := by decide
    simp [arguments, Command.ofArgumentsAfter, asked, Settings.withValue, apply]
  | dropComments =>
    have asked : Argument.classify "--no-comments" = .dropComments := by decide
    simp [arguments, Command.ofArgumentsAfter, asked, apply]

/-- Where there is but one path, none has been read before it. -/
theorem path_settings {groups : List ArgumentGroup} {g : ArgumentGroup}
    (single : (given .path (groups ++ [g])).length ≤ 1) (here : g.option = .path) :
    (settings groups).path = none := by
  rw [given_concat, if_pos here, List.length_append, List.length_singleton] at single
  have none : given .path groups = [] := by
    apply List.eq_nil_of_length_eq_zero
    omega
  rw [settings, last?, none]
  rfl

theorem ofArguments_append {groups : List ArgumentGroup} (single : (given .path groups).length ≤ 1)
    (rest : List String) :
    Command.ofArguments (groups.flatMap arguments ++ rest) =
      Command.ofArgumentsAfter (settings groups) rest := by
  induction groups using List.reverseRecOn generalizing rest with
  | nil => rfl
  | append_singleton groups g ih =>
    have before : (given .path groups).length ≤ 1 := by
      rw [given_concat, List.length_append] at single
      omega
    calc Command.ofArguments ((groups ++ [g]).flatMap arguments ++ rest)
        = Command.ofArguments (groups.flatMap arguments ++ (g.arguments ++ rest)) := by simp
      _ = Command.ofArgumentsAfter (settings groups) (g.arguments ++ rest) := ih before _
      _ = Command.ofArgumentsAfter (apply (settings groups) g) rest :=
          ofArgumentsAfter_group (path_settings single) rest
      _ = Command.ofArgumentsAfter (settings (groups ++ [g])) rest := by rw [settings_concat]

/-! ## The order of groups -/

namespace Rearranged

variable {groups others : List ArgumentGroup}

theorem given (rearranged : Rearranged groups others) (option : Argument) :
    ArgumentGroup.given option groups = ArgumentGroup.given option others := by
  rw [ArgumentGroup.given, rearranged option, ArgumentGroup.given]

theorem settings (rearranged : Rearranged groups others) :
    ArgumentGroup.settings groups = ArgumentGroup.settings others := by
  simp only [ArgumentGroup.settings, last?, rearranged.given]

end Rearranged

end ArgumentGroup

open ArgumentGroup in
/-- Command lines in groups, with one path at most, are understood by the last value of each option.  The
order of different options makes no difference, and behind the groups a request for help or for the version
is answered whatever follows it. -/
theorem Command.ofArguments_groups (groups : List ArgumentGroup)
    (single : (given .path groups).length ≤ 1) :
    ofArguments (groups.flatMap arguments) = command groups ∧
      (∀ others, Rearranged groups others →
        ofArguments (others.flatMap arguments) = ofArguments (groups.flatMap arguments)) ∧
      (∀ flag ∈ ["-h", "--help"], ∀ rest,
        ofArguments (groups.flatMap arguments ++ flag :: rest) = .ok .help) ∧
      ∀ flag ∈ ["-v", "--version"], ∀ rest,
        ofArguments (groups.flatMap arguments ++ flag :: rest) = .ok .version := by
  have understood {groups : List ArgumentGroup} (single : (given .path groups).length ≤ 1) :
      ofArguments (groups.flatMap arguments) = command groups := by
    have read := ofArguments_append single []
    rw [List.append_nil] at read
    rw [read, ← command_settings]
    rfl
  refine ⟨understood single, ?_, ?_, ?_⟩
  · intro others rearranged
    have single' : (given .path others).length ≤ 1 := rearranged.given .path ▸ single
    rw [understood single, understood single', ← command_settings, ← command_settings,
      rearranged.settings]
  · intro flag member rest
    have asked : Argument.classify flag = .help := by
      revert flag
      decide
    rw [ofArguments_append single, ofArgumentsAfter, asked]
  · intro flag member rest
    have asked : Argument.classify flag = .version := by
      revert flag
      decide
    rw [ofArguments_append single, ofArgumentsAfter, asked]

open ArgumentGroup in
/-- Values that look like options and paths are values. -/
theorem Command.ofArguments_groups_dashes :
    (given .path [.inlineText "-v", .path "-" (.inl rfl), .config "--help", .format .json,
        .inlineText "a.txt", .dropComments]).length ≤ 1 ∧
      ofArguments ["-e", "-v", "-", "--config", "--help", "--format", "json", "-e", "a.txt",
        "--no-comments"] = .ok (.lex ⟨.inline "a.txt", .json, some "--help", false⟩) := by
  have single : (given .path [.inlineText "-v", .path "-" (.inl rfl), .config "--help", .format .json,
      .inlineText "a.txt", .dropComments]).length ≤ 1 := by decide
  exact ⟨single, (ofArguments_groups _ single).1⟩

end LiteralLexer
