import LiteralLexer.Command.Basic
import LiteralLexer.Proofs.Config
import LiteralLexer.Proofs.Lexer.Fault
import LiteralLexer.Proofs.Lexer.Sentinel

/-!
# What a command prints

A command prints one text and nothing else: what was asked for, or what is wrong.  For a request to lex a
text it depends on three things, one after the other, whether there are tokens to print: the configuration
is loaded (`Command.Loads`), the text is read (`Command.Supplies`), and the text has tokens
(`Command.Lexes`).  The parser of configurations and the files are parameters.
-/

namespace LiteralLexer

/-- Whatever keeps a configured lexer from its tokens can be reported. -/
theorem exists_report_of_tokenize {ts : List Transform} {text sentinel : String} {mark : Cluster}
    (noticed : .endOfInput ∈ ts) (alone : Cluster.ofText? sentinel = some mark) (inert : mark.Inert)
    {keep : Bool} {failure : LexFailure}
    (fails : tokenize text { stages := ts.map .builtin, sentinel } keep = .error failure) :
    ∃ shown, failure.report text = .ok shown := by
  obtain ⟨found, rfl⟩ : ∃ found, failure = .malformed found := by
    rcases tokenize_total noticed alone inert keep with ⟨tokens, run⟩ | ⟨found, run⟩
    · rw [run] at fails
      contradiction
    · rw [run] at fails
      exact ⟨found, (Except.error.inj fails).symm⟩
  -- a place that was counted lies in some column, so there is room for the caret
  obtain ⟨q, place, _⟩ := tokenize_blames noticed alone inert fails
  refine Diagnostic.exists_report (fun l located => ?_) text
  cases located
  rw [place]
  exact Location.foldl_after_column (Int.le_refl 1) _

/-- Printing tokens, they are all found first, and then those that are not asked for are left out. -/
theorem Config.printTokens_eq (config : Config) (text : String) (format : OutputFormat)
    (keep : Bool) : config.printTokens text format keep =
      (LiteralLexer.tokenize text config.lexerOptions true).map fun tokens =>
        format.print (filterComments (config.includeComments && keep) tokens) := by
  have restricted :
      Config.tokenize { config with includeComments := config.includeComments && keep } text =
        (LiteralLexer.tokenize text config.lexerOptions true).map
          (filterComments (config.includeComments && keep)) :=
    tokenize_filter text config.lexerOptions _
  rw [printTokens, restricted]
  cases LiteralLexer.tokenize text config.lexerOptions true <;> rfl

namespace Command

variable {parse : DocumentParser} {env : Environment Id} {request : LexRequest} {path : Option String}

/-! ## Configurations -/

/-- What loading a configuration comes to.  The file that is looked for is there or not; if it is, it is
read, parsed and checked. -/
inductive Loads (parse : DocumentParser) (env : Environment Id) (path : Option String) :
    Except RunError Config → Prop where
  | accepted {octets : List UInt8} {document : ConfigDocument} {config : Config}
      (present : (env.isPresent (path.getD ".litlex.yaml")).run = true)
      (read : (env.read (path.getD ".litlex.yaml")).run = .ok octets)
      (parsed : parse (Text.decodeUtf8 octets) = .ok document)
      (accepts : Config.Accepts document.value config) : Loads parse env path (.ok config)
  | refused {octets : List UInt8} {e : ConfigError}
      (present : (env.isPresent (path.getD ".litlex.yaml")).run = true)
      (read : (env.read (path.getD ".litlex.yaml")).run = .ok octets)
      (invalid : Config.ofText parse (Text.decodeUtf8 octets) = .error e) :
      Loads parse env path (.error (.config e))
  | unreadable {reason : ReadError} (present : (env.isPresent (path.getD ".litlex.yaml")).run = true)
      (failed : (env.read (path.getD ".litlex.yaml")).run = .error reason) :
      Loads parse env path (.error (.config (.unreadable reason)))
  | missing {named : String} (asked : path = some named)
      (absent : (env.isPresent named).run = false) :
      Loads parse env path (.error (.configNotFound named))
  | usual (plain : path = none) (absent : (env.isPresent ".litlex.yaml").run = false) :
      Loads parse env path (.ok {})

theorem loadConfig_present (present : (env.isPresent (path.getD ".litlex.yaml")).run = true) :
    (loadConfig parse env path).run =
      match (env.read (path.getD ".litlex.yaml")).run with
      | .ok octets => (Config.ofText parse (Text.decodeUtf8 octets)).mapError .config
      | .error e => .error (.config (.unreadable e)) := by
  simp only [loadConfig, Id.run_bind, Config.fileName, present, if_true]
  cases (env.read (path.getD ".litlex.yaml")).run <;> rfl

theorem loadConfig_absent (absent : (env.isPresent (path.getD ".litlex.yaml")).run = false) :
    (loadConfig parse env path).run =
      match path with
      | some named => .error (.configNotFound named)
      | none => .ok {} := by
  simp only [loadConfig, Id.run_bind, Config.fileName, absent, Bool.false_eq_true, if_false]
  cases path <;> rfl

/-- A configuration is loaded as the files and the parser say. -/
theorem loads_iff {result : Except RunError Config} :
    Loads parse env path result ↔ (loadConfig parse env path).run = result := by
  constructor
  · intro loads
    cases loads with
    | accepted present read parsed accepts =>
      have checked := Config.ofText_eq_ok_iff.mpr ⟨_, parsed, accepts⟩
      simp only [loadConfig_present present, read, checked, mapError_ok]
    | refused present read invalid =>
      simp only [loadConfig_present present, read, invalid, mapError_error]
    | unreadable present failed => simp only [loadConfig_present present, failed]
    | missing asked absent =>
      cases asked
      rw [loadConfig_absent absent]
    | usual plain absent =>
      cases plain
      rw [loadConfig_absent absent]
  · rintro rfl
    cases present : (env.isPresent (path.getD ".litlex.yaml")).run with
    | false =>
      rw [loadConfig_absent present]
      cases path with
      | some named => exact .missing rfl present
      | none => exact .usual rfl present
    | true =>
      rw [loadConfig_present present]
      cases read : (env.read (path.getD ".litlex.yaml")).run with
      | error reason => exact .unreadable present read
      | ok octets =>
        change Loads parse env path
          ((Config.ofText parse (Text.decodeUtf8 octets)).mapError .config)
        cases checked : Config.ofText parse (Text.decodeUtf8 octets) with
        | error e => exact .refused present read checked
        | ok config =>
          obtain ⟨document, parsed, accepts⟩ := Config.ofText_eq_ok_iff.mp checked
          exact .accepted present read parsed accepts

/-- A configuration that is loaded is fit for a lexer, be it read from a file or the default one. -/
theorem Loads.fit {config : Config} (loads : Loads parse env path (.ok config)) :
    Config.Runnable config.transforms ∧ ∃ mark, Cluster.ofText? config.sentinel = some mark := by
  cases loads with
  | accepted present read parsed accepts => exact accepts.fit
  | usual => exact Config.Describes.empty.fit

/-! ## Texts -/

/-- What reading the text of a request comes to.  The path `-` is the standard input. -/
inductive Supplies (env : Environment Id) : TextOrigin → Except RunError String → Prop where
  | inline (text : String) : Supplies env (.inline text) (.ok text)
  | standardInput {octets : List UInt8} (read : env.readStandardInput.run = .ok octets) :
      Supplies env (.file "-") (.ok (Text.decodeUtf8 octets))
  | noStandardInput {reason : ReadError} (failed : env.readStandardInput.run = .error reason) :
      Supplies env (.file "-") (.error (.source reason))
  | file {path : String} {octets : List UInt8} (other : path ≠ "-")
      (read : (env.read path).run = .ok octets) :
      Supplies env (.file path) (.ok (Text.decodeUtf8 octets))
  | noFile {path : String} {reason : ReadError} (other : path ≠ "-")
      (failed : (env.read path).run = .error reason) :
      Supplies env (.file path) (.error (.source reason))

theorem readText_standardInput : (readText env (.file "-")).run =
    (env.readStandardInput.run.map Text.decodeUtf8).mapError .source := by
  simp only [readText, Id.run_bind, if_true]
  rfl

theorem readText_file {path : String} (other : path ≠ "-") : (readText env (.file path)).run =
    ((env.read path).run.map Text.decodeUtf8).mapError .source := by
  simp only [readText, Id.run_bind, other, if_false]
  rfl

theorem supplies_iff {origin : TextOrigin} {result : Except RunError String} :
    Supplies env origin result ↔ (readText env origin).run = result := by
  constructor
  · intro supplies
    cases supplies with
    | inline text => rfl
    | standardInput read | noStandardInput read =>
      rw [readText_standardInput, read]
      rfl
    | file other read | noFile other read =>
      rw [readText_file other, read]
      rfl
  · rintro rfl
    cases origin with
    | inline text => exact .inline text
    | file path =>
      by_cases input : path = "-"
      · subst input
        rw [readText_standardInput]
        cases read : env.readStandardInput.run with
        | ok octets => exact .standardInput read
        | error reason => exact .noStandardInput read
      · rw [readText_file input]
        cases read : (env.read path).run with
        | ok octets => exact .file input read
        | error reason => exact .noFile input read

/-! ## Requests -/

/-- What lexing a text under a configuration comes to, comments included. -/
def lexed (config : Config) (text : String) : Except LexFailure (List Token) :=
  tokenize text { stages := config.transforms.map .builtin, sentinel := config.sentinel } true

/-- All tokens of the text that is asked for, under the configuration that is asked for. -/
structure Lexes (parse : DocumentParser) (env : Environment Id) (request : LexRequest)
    (config : Config) (tokens : List Token) : Prop where
  loads : Loads parse env request.configPath (.ok config)
  lexes : ∃ text, Supplies env request.origin (.ok text) ∧ lexed config text = .ok tokens

/-- What keeps a request from being answered: the configuration, the text that is asked for, or what stands
in the text. -/
inductive Fails (parse : DocumentParser) (env : Environment Id) (request : LexRequest) :
    RunError → Prop where
  | config {e : RunError} (loads : Loads parse env request.configPath (.error e)) :
      Fails parse env request e
  | source {config : Config} {e : RunError} (loads : Loads parse env request.configPath (.ok config))
      (supplies : Supplies env request.origin (.error e)) : Fails parse env request e
  | lexing {config : Config} {text : String} {failure : LexFailure}
      (loads : Loads parse env request.configPath (.ok config))
      (supplies : Supplies env request.origin (.ok text))
      (fails : lexed config text = .error failure) : Fails parse env request (.lexing text failure)

/-- The tokens that are printed: comments are left out if the configuration or the request does so. -/
def shown (request : LexRequest) (config : Config) (tokens : List Token) : List Token :=
  if config.includeComments = true ∧ request.includeComments = true then tokens
  else tokens.filter fun
    | .comment _ => false
    | _ => true

theorem filterComments_eq (request : LexRequest) (config : Config) (tokens : List Token) :
    filterComments (config.includeComments && request.includeComments) tokens =
      shown request config tokens := by
  have kept : (fun token : Token => !token.isComment) = fun
      | .comment _ => false
      | _ => true := by
    funext token
    cases token <;> rfl
  simp only [filterComments, shown, Bool.and_eq_true, kept]

theorem lexText_eq (parse : DocumentParser) (env : Environment Id) (request : LexRequest) :
    (lexText parse env request).run =
      (loadConfig parse env request.configPath).run.bind fun config =>
      (readText env request.origin).run.bind fun text =>
        ((lexed config text).map fun tokens =>
          request.format.print (shown request config tokens)).mapError (.lexing text) := by
  rw [lexText, Id.run_bind]
  cases (loadConfig parse env request.configPath).run with
  | error => rfl
  | ok config =>
    simp only [Id.run_bind, Except.bind]
    cases (readText env request.origin).run with
    | error => rfl
    | ok text =>
      simp only [Id.run_pure, Config.printTokens_eq, filterComments_eq]
      rfl

theorem lexText_eq_ok_iff {output : String} : (lexText parse env request).run = .ok output ↔
    ∃ config tokens, Lexes parse env request config tokens ∧
      request.format.print (shown request config tokens) = output := by
  simp only [lexText_eq, bind_eq_ok_iff, mapError_eq_ok_iff, map_eq_ok_iff, ← loads_iff,
    ← supplies_iff]
  constructor
  · rintro ⟨config, loads, text, supplies, tokens, found, printed⟩
    exact ⟨config, tokens, ⟨loads, text, supplies, found⟩, printed⟩
  · rintro ⟨config, tokens, ⟨loads, text, supplies, found⟩, printed⟩
    exact ⟨config, loads, text, supplies, tokens, found, printed⟩

theorem lexText_eq_error_iff {e : RunError} : (lexText parse env request).run = .error e ↔
    Fails parse env request e := by
  simp only [lexText_eq, bind_eq_error_iff, mapError_eq_error_iff, map_eq_error_iff, ← loads_iff,
    ← supplies_iff]
  constructor
  · rintro (loads | ⟨config, loads, supplies | ⟨text, supplies, failure, fails, rfl⟩⟩)
    · exact .config loads
    · exact .source loads supplies
    · exact .lexing loads supplies fails
  · intro fails
    cases fails with
    | config loads => exact .inl loads
    | source loads supplies => exact .inr ⟨_, loads, .inl supplies⟩
    | lexing loads supplies fails => exact .inr ⟨_, loads, .inr ⟨_, supplies, _, fails, rfl⟩⟩

/-- No configuration that the arguments ask for has a sentinel that is part of a literal or a blank. -/
def Restricted (parse : DocumentParser) (env : Environment Id) (arguments : List String) : Prop :=
  ∀ request config mark, ofArguments arguments = .ok (.lex request) →
    Loads parse env request.configPath (.ok config) →
    Cluster.ofText? config.sentinel = some mark → mark.Inert

/-- Whatever keeps a request from being answered can be reported. -/
theorem Fails.exists_report {arguments : List String} {e : RunError}
    (fails : Fails parse env request e) (restricted : Restricted parse env arguments)
    (asked : ofArguments arguments = .ok (.lex request)) : ∃ told, e.report = .ok told := by
  cases fails with
  | config loads => cases loads <;> exact ⟨_, rfl⟩
  | source _ supplies =>
    generalize request.origin = origin at supplies
    cases supplies <;> exact ⟨_, rfl⟩
  | lexing loads _ fails =>
    obtain ⟨runnable, mark, alone⟩ := loads.fit
    have inert := restricted _ _ mark asked loads alone
    exact exists_report_of_tokenize runnable.noticed alone inert fails

/-- An outcome answers a request: it succeeds just if there are tokens, prints the tokens that are to be
shown, and otherwise says what is wrong. -/
structure Answers (parse : DocumentParser) (env : Environment Id) (request : LexRequest)
    (outcome : Outcome) : Prop where
  succeeds : outcome.exitCode = 0 ↔ ∃ config tokens, Lexes parse env request config tokens
  prints : ∀ config tokens, Lexes parse env request config tokens → outcome =
    { exitCode := 0, output := [request.format.print (shown request config tokens)], errors := [] }
  complains : ∀ e, Fails parse env request e → ∃ told, e.report = .ok told ∧
    outcome = { exitCode := 1, output := [], errors := [told] }

theorem answers_of_ok {output : String} (result : (lexText parse env request).run = .ok output) :
    Answers parse env request (.success output) := by
  obtain ⟨config, tokens, lexes, _⟩ := lexText_eq_ok_iff.mp result
  refine ⟨⟨fun _ => ⟨config, tokens, lexes⟩, fun _ => rfl⟩, fun config tokens lexes => ?_,
    fun e fails => ?_⟩
  · have same := result.symm.trans (lexText_eq_ok_iff.mpr ⟨config, tokens, lexes, rfl⟩)
    rw [Except.ok.inj same]
    rfl
  · rw [lexText_eq_error_iff.mpr fails] at result
    contradiction

theorem answers_of_error {e : RunError} {told : String}
    (result : (lexText parse env request).run = .error e) (drawn : e.report = .ok told) :
    Answers parse env request (.failure told) := by
  have none : ∀ config tokens, ¬ Lexes parse env request config tokens := by
    intro config tokens lexes
    rw [lexText_eq_ok_iff.mpr ⟨config, tokens, lexes, rfl⟩] at result
    contradiction
  refine ⟨⟨nofun, ?_⟩, fun config tokens lexes => absurd lexes (none _ _), fun other fails => ?_⟩
  · rintro ⟨config, tokens, lexes⟩
    exact absurd lexes (none _ _)
  · cases Except.error.inj (result.symm.trans (lexText_eq_error_iff.mpr fails))
    exact ⟨told, drawn, rfl⟩

/-! ## Runs -/

/-- A run prints one text: it succeeds with what was asked for, or fails with what is wrong. -/
inductive Concludes : Outcome → Prop where
  | success (text : String) : Concludes { exitCode := 0, output := [text], errors := [] }
  | failure (text : String) : Concludes { exitCode := 1, output := [], errors := [text] }

theorem exists_conclude {result : Except RunError String}
    (reported : ∀ e, result = .error e → ∃ told, e.report = .ok told) :
    ∃ outcome, conclude result = .ok outcome ∧ Concludes outcome := by
  cases result with
  | ok text => exact ⟨_, rfl, .success text⟩
  | error e =>
    obtain ⟨told, drawn⟩ := reported e rfl
    exact ⟨.failure told, by rw [conclude, drawn]; rfl, .failure told⟩

theorem eq_versionHidden {description : Value} {e : RunError}
    (fails : versionOf description = .error e) : e = .versionHidden := by
  unfold versionOf at fails
  split at fails
  · split at fails
    · split at fails <;> cases fails
      rfl
    · contradiction
  · contradiction

/-- Whatever keeps the version from being shown can be reported. -/
theorem exists_report_of_showVersion {e : RunError} (fails : (showVersion env).run = .error e) :
    ∃ told, e.report = .ok told := by
  rw [showVersion, Id.run_bind] at fails
  split at fails
  · cases fails
    exact ⟨_, rfl⟩
  · simp only at fails
    split at fails
    · cases eq_versionHidden (map_eq_error_iff.mp fails)
      exact ⟨_, rfl⟩
    · cases fails
      exact ⟨_, rfl⟩

theorem run_lex {arguments : List String} (asked : ofArguments arguments = .ok (.lex request)) :
    (run parse env arguments).run = conclude (lexText parse env request).run := by
  rw [run, asked]
  rfl

end Command

/-- Every command succeeds and prints one text, or fails and prints one text that says why; there is
nothing that it cannot report.  A request to lex a text is answered. -/
theorem Command.run_prints (parse : DocumentParser) (env : Environment Id) (arguments : List String)
    (restricted : Restricted parse env arguments) :
    ∃ outcome, (run parse env arguments).run = .ok outcome ∧ Concludes outcome ∧
      ∀ request, ofArguments arguments = .ok (.lex request) → Answers parse env request outcome := by
  cases asked : ofArguments arguments with
  | error e => exact ⟨.failure e.message, by rw [run, asked]; rfl, .failure _, nofun⟩
  | ok command =>
    cases command with
    | help => exact ⟨.success helpText, by rw [run, asked]; rfl, .success _, nofun⟩
    | version =>
      have reported : ∀ e, (showVersion env).run = .error e → ∃ told, e.report = .ok told :=
        fun _ => exists_report_of_showVersion
      obtain ⟨outcome, ended, concludes⟩ := exists_conclude reported
      exact ⟨outcome, by rw [run, asked]; exact ended, concludes, nofun⟩
    | explain code =>
      refine ⟨explanation code, by rw [run, asked]; rfl, ?_, nofun⟩
      rw [explanation]
      split
      · exact .success _
      · exact .failure _
    | lex request =>
      rw [run_lex asked]
      cases result : (lexText parse env request).run with
      | ok output =>
        refine ⟨.success output, rfl, .success output, ?_⟩
        rintro _ ⟨⟩
        exact answers_of_ok result
      | error e =>
        obtain ⟨told, drawn⟩ := (lexText_eq_error_iff.mp result).exists_report restricted asked
        refine ⟨.failure told, by rw [conclude, drawn]; rfl, .failure told, ?_⟩
        rintro _ ⟨⟩
        exact answers_of_error result drawn

/-- An environment whose only file is a configuration that leaves comments out. -/
def Environment.quiet : Environment Id where
  isPresent path := decide (path = ".litlex.yaml")
  read path :=
    if path = ".litlex.yaml" then
      .ok ("includeComments: false".toList.map fun c => UInt8.ofNat c.toNat)
    else .error (.notFound path)
  readStandardInput := .ok []
  packagePath := "package.json"
  jsonFault _ := "not valid JSON"

theorem Command.run_prints_quiet :
    (run Yaml.parse Environment.quiet ["-e", "1 // one"]).run =
      .ok { exitCode := 0, output := ["integer(1)\nendOfInput"], errors := [] } := by
  obtain ⟨request, asked, usual, inline, format⟩ : ∃ request, ofArguments ["-e", "1 // one"] =
      .ok (.lex request) ∧ request.configPath = none ∧ request.origin = .inline "1 // one" ∧
        request.format = .text :=
    ⟨_, rfl, rfl, rfl, rfl⟩
  have loads : Loads Yaml.parse Environment.quiet request.configPath
      (.ok { includeComments := false }) := by
    rw [usual, loads_iff]
    exact toOption_eq_some_iff.mp (by decide +kernel)
  have restricted : Restricted Yaml.parse Environment.quiet ["-e", "1 // one"] := by
    intro other config mark same loaded alone
    cases asked.symm.trans same
    cases (loads_iff.mp loads).symm.trans (loads_iff.mp loaded)
    cases Lexer.ofText?_defaultSentinel.symm.trans alone
    exact Cluster.inert_nul
  have found : lexed { includeComments := false } "1 // one" =
      .ok [.integer 1, .comment " one", .endOfInput] := by decide +kernel
  have lexes : Lexes Yaml.parse Environment.quiet request { includeComments := false } _ :=
    ⟨loads, "1 // one", inline ▸ .inline _, found⟩
  obtain ⟨outcome, ran, _, answers⟩ := run_prints _ _ _ restricted
  rw [ran, (answers request asked).prints _ _ lexes, format]
  rfl

end LiteralLexer
