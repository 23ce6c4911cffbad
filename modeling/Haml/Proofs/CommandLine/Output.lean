import Haml.CommandLine.Run
import Haml.Proofs.CommandLine.Ending
import Haml.Proofs.Render.Warnings
import Haml.Proofs.Settings.Precedence
import Haml.Proofs.Text.Utf8

/-! # What a run prints

A run prints what the library makes of the template: the program under the settings that the
arguments lead to, or a dump of the outline. The text is trimmed and a line feed is put behind it.
By the ways in which outputs end, this is the same as replacing the line feeds at the end by one,
except for tree views, which lose the blank characters at the end of their last line with them. What
is dropped while a program is rendered is warned of, also where rendering fails later on.
-/

namespace Haml.CommandLine

/-- The name of a format. -/
def Format.name : Format → Text
  | .program => "js".toList
  | .tree => "tree".toList
  | .json => "json".toList
  | .yaml => "yaml".toList

/-- A command line that says what the arguments do, with every value behind the name of its
option. -/
def Arguments.spelled (arguments : Arguments) : List Text :=
  (arguments.format.map ("--format=".toList ++ ·.name)).toList ++
    (arguments.config.map ("--config=".toList ++ ·)).toList ++
    (if arguments.doctypes then ["--doctypes".toList] else []) ++
    (arguments.path.map (["--".toList, ·])).getD []

/-- The format that the arguments ask for. -/
def Arguments.chosenFormat (arguments : Arguments) : Format :=
  arguments.format.getD .program

/-- A command line that asks for what the arguments say, where the template can be read. -/
structure Asks (files : Files) (input : Bytes) (line : List Text) (arguments : Arguments)
    (template : Text) : Prop where
  reads : Arguments.none.read line = .ok arguments
  gives : readTemplate files input arguments.path = .ok template

/-- What the library makes of a template, without the command line. -/
def produced (settings : Settings) (template : Text) : Format → Except CompileError Text
  | .program => (compile (Script.target settings.script) settings.options template).outcome
  | .tree => ((Outline.parse template).mapError .indentation).map Outline.treeView
  | .json => ((Outline.parse template).mapError .indentation).map Outline.jsonDump
  | .yaml => ((Outline.parse template).mapError .indentation).map Outline.yamlDump

/-- The warnings of the lines that are rendered, in the order in which they are. -/
def warned (settings : Settings) (template : Text) : Format → List Warning
  | .program =>
    match Outline.parse template with
    | .ok outline =>
      let rendered := outline.postorder.takeWhile fun line =>
        (Render.node (Script.target settings.script) settings.options line).outcome.isOk
      rendered.filterMap (Render.warning? settings.options)
    | .error _ => []
  | .tree | .json | .yaml => []

/-- What a run leaves out at the end of the text that the library makes, besides line feeds. -/
def omitted (template : Text) : Format → Text
  | .tree => Outline.hiddenEnd template
  | .program | .json | .yaml => []

theorem ofName?_name (format : Format) : Format.ofName? format.name = some format := by
  cases format <;> rfl

namespace Arguments

variable (path config : Option Text) (format : Option Format) (doctypes : Bool) (later : List Text)

private theorem read_format :
    read ⟨path, .none, config, doctypes⟩
        ((format.map ("--format=".toList ++ ·.name)).toList ++ later) =
      read ⟨path, format, config, doctypes⟩ later := by
  cases format with
  | none => rfl
  | some format =>
    have argument : readArgument ("--format=".toList ++ format.name) =
        .value .format (some format.name) := rfl
    rw [Option.map_some, Option.toList_some, List.singleton_append, read, argument]
    simp [addValue, ofName?_name]

private theorem read_config :
    read ⟨path, format, .none, doctypes⟩ ((config.map ("--config=".toList ++ ·)).toList ++ later) =
      read ⟨path, format, config, doctypes⟩ later := by
  cases config with
  | none => rfl
  | some name =>
    have argument : readArgument ("--config=".toList ++ name) = .value .config (some name) := rfl
    rw [Option.map_some, Option.toList_some, List.singleton_append, read, argument]
    simp [addValue]

private theorem read_doctypes :
    read ⟨path, format, config, false⟩
        ((if doctypes then ["--doctypes".toList] else []) ++ later) =
      read ⟨path, format, config, doctypes⟩ later := by
  cases doctypes <;> rfl

private theorem read_path :
    read ⟨.none, format, config, doctypes⟩ ((path.map (["--".toList, ·])).getD []) =
      .ok ⟨path, format, config, doctypes⟩ := by
  cases path <;> rfl

/-- Every combination of arguments can be given. -/
theorem read_spelled (arguments : Arguments) :
    Arguments.none.read arguments.spelled = .ok arguments := by
  rw [spelled, List.append_assoc, List.append_assoc, none, read_format, read_config,
    read_doctypes, read_path]

end Arguments

/-- Every template can be given with any arguments, in a file or as standard input. -/
theorem asks_spelled {files : Files} {arguments : Arguments} {template : Text}
    (present : ∀ path ∈ arguments.path, files path = .ok template.utf8) :
    Asks files template.utf8 arguments.spelled arguments template where
  reads := arguments.read_spelled
  gives := by
    cases given : arguments.path with
    | none => simp [readTemplate, Utf8.decode?_utf8]
    | some path => simp [readTemplate, present path given, Utf8.decode?_utf8]

theorem dumpTemplate_eq (dump : Outline → Text) (template : Text) :
    dumpTemplate dump template =
      (((Outline.parse template).mapError .indentation).map dump).mapError .template := by
  rw [dumpTemplate]
  cases Outline.parse template <;> rfl

/-- Only for a program the settings matter. -/
theorem process_eq {files : Files} {arguments : Arguments} {settings : Settings}
    (valid : arguments.chosenFormat = .program →
      Setting.load (layers files arguments) = .ok settings) (template : Text) :
    process files arguments template =
      (produced settings template arguments.chosenFormat).mapError .template := by
  have asked : arguments.format.getD .program = arguments.chosenFormat := rfl
  rw [process, asked]
  cases format : arguments.chosenFormat with
  | program =>
    simp only [compileTemplate, valid format, except_mapError_ok, except_ok_bind]
    rfl
  | tree => exact dumpTemplate_eq ..
  | json => exact dumpTemplate_eq ..
  | yaml => exact dumpTemplate_eq ..

theorem warnings_eq {files : Files} {arguments : Arguments} {settings : Settings}
    (valid : arguments.chosenFormat = .program →
      Setting.load (layers files arguments) = .ok settings) (template : Text) :
    warnings files arguments template = warned settings template arguments.chosenFormat := by
  have asked : arguments.format.getD .program = arguments.chosenFormat := rfl
  rw [warnings, asked]
  cases format : arguments.chosenFormat with
  | program =>
    rw [valid format, warned]
    cases Outline.parse template with
    | error error => rfl
    | ok outline =>
      have full : (Script.target settings.script).missing = [] := rfl
      simp only [Outline.warnings]
      rw [Render.takeWhile_accepts full]
  | tree => rfl
  | json => rfl
  | yaml => rfl

private theorem exists_outline_of_produced {template text : Text} {dump : Outline → Text}
    (success : ((Outline.parse template).mapError CompileError.indentation).map dump = .ok text) :
    ∃ outline, Outline.parse template = .ok outline ∧ text = dump outline := by
  cases parsed : Outline.parse template with
  | error error =>
    rw [parsed] at success
    cases success
  | ok outline =>
    rw [parsed] at success
    exact ⟨outline, rfl, (Except.ok.inj success).symm⟩

/-- Trimming takes from the end of an output what is omitted, and besides that only line feeds. -/
theorem endedOnce_produced {settings : Settings} {template text : Text} {format : Format}
    (success : produced settings template format = .ok text) :
    text.endedOnce = text.trimEnd ++ omitted template format ++ ['\n'] := by
  cases format with
  | program =>
    rw [omitted, List.append_nil]
    exact (Script.isClosed_of_compile success).endedOnce_eq
  | tree =>
    obtain ⟨outline, parsed, rfl⟩ := exists_outline_of_produced success
    exact Outline.endedOnce_treeView parsed
  | json =>
    obtain ⟨outline, _, rfl⟩ := exists_outline_of_produced success
    rw [omitted, List.append_nil]
    exact outline.isClosed_jsonDump.endedOnce_eq
  | yaml =>
    obtain ⟨outline, _, rfl⟩ := exists_outline_of_produced success
    rw [omitted, List.append_nil]
    exact outline.isClosed_yamlDump.endedOnce_eq

namespace Asks

variable {files : Files} {input : Bytes} {line : List Text} {arguments : Arguments}
variable {template : Text}

theorem run_of_success (asks : Asks files input line arguments template) {text : Text}
    (success : process files arguments template = .ok text) :
    run files input line =
      { Outcome.success (text.trimEnd ++ ['\n']) with
        warnings := warnings files arguments template } := by
  simp only [run, asks.reads, runWith, asks.gives, success]

theorem run_of_failure (asks : Asks files input line arguments template) {failure : Failure}
    (failed : process files arguments template = .error failure) :
    run files input line =
      { failure.outcome with warnings := warnings files arguments template } := by
  simp only [run, asks.reads, runWith, asks.gives, failed]

end Asks

/-- A run prints what the library makes of the template, with one line feed in place of those at its
end. Of a tree view it also leaves out the blank characters at the end of the last line that is not
blank, unless the view cuts that line; of all else it changes nothing. Where the library fails, the
run prints nothing and ends with code 1. In both cases it warns of the elements that close themselves
around other lines, as far as the template is rendered. -/
theorem run_prints_produced {files : Files} {arguments : Arguments} {settings : Settings}
    (valid : arguments.chosenFormat = .program →
      Setting.load (layers files arguments) = .ok settings) (template : Text) :
    ((∀ path ∈ arguments.path, files path = .ok template.utf8) →
      Asks files template.utf8 arguments.spelled arguments template) ∧
    ∀ input line, Asks files input line arguments template →
      (∀ text, produced settings template arguments.chosenFormat = .ok text →
        ∃ kept, run files input line =
            ⟨0, kept ++ ['\n'], [], warned settings template arguments.chosenFormat⟩ ∧
          text.endedOnce = kept ++ omitted template arguments.chosenFormat ++ ['\n']) ∧
      ∀ error, produced settings template arguments.chosenFormat = .error error →
        run files input line = ⟨1, [], ("Error: " ++ error.message).toList ++ ['\n'],
          warned settings template arguments.chosenFormat⟩ := by
  refine ⟨asks_spelled, fun input line asks => ⟨fun text success => ?_, fun error failed => ?_⟩⟩
  · have made : process files arguments template = .ok text := by
      rw [process_eq valid, success]
      rfl
    rw [← warnings_eq valid]
    exact ⟨text.trimEnd, asks.run_of_success made, endedOnce_produced success⟩
  · have refused : process files arguments template = .error (.template error) := by
      rw [process_eq valid, failed]
      rfl
    rw [← warnings_eq valid]
    exact asks.run_of_failure refused

/-- A file with one setting. -/
def siteFiles : Files := fun path =>
  if path = ['c'] then .ok (Text.utf8 "javascript.output_variable=\"o\"\n".toList)
  else .error .notFound

/-- That file, and document types enabled. -/
def siteArguments : Arguments :=
  ⟨none, none, some ['c'], true⟩

/-- The settings that come of them. -/
def siteSettings : Settings :=
  ⟨{ Options.standard with doctypes := true }, { Script.Options.standard with output := ['o'] }⟩

theorem load_siteArguments : Setting.load (layers siteFiles siteArguments) = .ok siteSettings := by
  have found : layers siteFiles siteArguments =
      [.file ['c'] (.document ⟨['c'], "javascript.output_variable=\"o\"\n".toList⟩) true,
        .override "compiler.doctypes".toList (.atom none (.boolean true))] := by
    have config : findConfig siteFiles ['c'] =
        .document ⟨['c'], "javascript.output_variable=\"o\"\n".toList⟩ := by
      rw [findConfig, configCandidates, List.findSome?_cons, siteFiles]
      simp only [↓reduceIte, readConfig, Utf8.decode?_utf8]
      decide
    rw [layers, siteArguments]
    simp only [config]
    rfl
  rw [found]
  exact Setting.load_eq_of_resolved (by decide +kernel) (by decide +kernel)

/-- A template with blank lines at its end, under settings from a file and from the arguments. What is
nested under its last element is dropped. -/
theorem run_prints_produced_of_site :
    let template : Text := "!!! 5\n%br\n  = x \n\n".toList
    Setting.load (layers siteFiles siteArguments) = .ok siteSettings ∧
      Asks siteFiles template.utf8 siteArguments.spelled siteArguments template ∧
      run siteFiles template.utf8 siteArguments.spelled =
        ⟨0, "var o = \"\";\nvar _$line = 0;\n_$line = 1;\no += \"<!DOCTYPE html>\";\n".toList ++
          "_$line = 2;\no += \"<br />\";\nreturn o;\n".toList, [], [⟨2, "br".toList⟩]⟩ := by
  have parsed : Outline.parse "!!! 5\n%br\n  = x \n\n".toList =
      .ok [⟨"!!! 5".toList, 1, 1, []⟩, ⟨"%br".toList, 2, 2, [⟨"= x ".toList, 3, 3, []⟩]⟩] := by cbv
  have made : produced siteSettings "!!! 5\n%br\n  = x \n\n".toList .program =
      .ok ("var o = \"\";\nvar _$line = 0;\n_$line = 1;\no += \"<!DOCTYPE html>\";\n".toList ++
        "_$line = 2;\no += \"<br />\";\nreturn o;".toList) := by
    rw [produced, compile, parsed]
    decide +kernel
  have dropped : warned siteSettings "!!! 5\n%br\n  = x \n\n".toList .program =
      [⟨2, "br".toList⟩] := by
    rw [warned, parsed]
    decide +kernel
  intro template
  obtain ⟨gives, prints⟩ := run_prints_produced (fun _ => load_siteArguments) template
  have asks := gives (by rintro path ⟨⟩)
  obtain ⟨kept, ran, ended⟩ := (prints _ _ asks).1 _ made
  change _ = kept ++ [] ++ ['\n'] at ended
  rw [List.append_nil] at ended
  refine ⟨load_siteArguments, asks, ?_⟩
  rw [ran, ← ended]
  refine congrArg₂ (fun output warnings => Outcome.mk 0 output [] warnings) ?_ dropped
  decide +kernel

/-- The blank at the end of the last line is shown in the view, but it is not printed. -/
theorem run_omits_blank :
    let template : Text := "%p \n".toList
    run (fun _ => .error .notFound) template.utf8 ["-f".toList, "tree".toList] =
        ⟨0, "◇   1 %p\n".toList, [], []⟩ ∧
      produced ⟨.standard, .standard⟩ template .tree = .ok "◇   1 %p \n".toList ∧
      Text.endedOnce "◇   1 %p \n".toList ≠ "◇   1 %p\n".toList := by
  have parsed : Outline.parse "%p \n".toList = .ok [⟨"%p ".toList, 1, 1, []⟩] := by cbv
  intro template
  have asks : Asks (fun _ => .error .notFound) template.utf8 ["-f".toList, "tree".toList]
      ⟨none, some .tree, none, false⟩ template := by
    refine ⟨rfl, ?_⟩
    simp [readTemplate, Utf8.decode?_utf8]
  have view : produced ⟨.standard, .standard⟩ template .tree = .ok "◇   1 %p \n".toList := by
    rw [produced, parsed]
    decide +kernel
  refine ⟨?_, view, by decide⟩
  have made : process (fun _ => .error .notFound) ⟨none, some .tree, none, false⟩ template =
      .ok "◇   1 %p \n".toList := by
    have shows := congrArg (Except.mapError Failure.template) view
    exact (process_eq (fun program => by cases program) template).trans shows
  exact (asks.run_of_success made).trans (by decide)

end Haml.CommandLine
