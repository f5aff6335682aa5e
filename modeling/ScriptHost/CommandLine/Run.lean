import ScriptHost.CommandLine.Arguments
import ScriptHost.Engine.Dispatch
import ScriptHost.Value.Text

/-!
# Running one script

The program runs one script in a fresh realm that has a `version` and a function
`print`.  It prints what the script prints, line by line, and then the script's
value unless that is undefined.  Where something fails the error goes to the
other output, with its cause.

How files are read is a parameter, so that the whole program is a function.
-/

namespace ScriptHost.CommandLine

/-! ## The exports -/

/-- The callbacks of the program. -/
inductive Printer where
  | print
  deriving DecidableEq

/-- The version that scripts see. -/
def version : String := "0.1.0"

/-- What the program remembers: the lines printed, the latest first. -/
abbrev Printed := List String

/-- The line that a call prints. -/
def printedLine (arguments : List (Value Printer)) : String :=
  " ".intercalate (arguments.map (·.display))

/-- The exports of a run. -/
def exports (id : ValueId) : Namespace Printer :=
  (ExportBuilder.ofExports
    [("version", .value (.string id version)), ("print", .callback .print)]).build

/-- The host of the program. -/
def host : Host Printer Unit Printed :=
  { behave := fun _ i => .remember (fun lines => printedLine i.arguments :: lines) .done
    generate := fun _ id lines => ⟨exports id, 1, lines⟩ }

/-! ## Output -/

/-- How the program ends. -/
structure Output where
  code : Nat
  stdout : List String
  stderr : String
  deriving DecidableEq

/-- A line without the carriage return that belongs to its end. -/
private def withoutReturn (line : String) : String :=
  match line.toList.reverse with
  | '\r' :: rest => String.ofList rest.reverse
  | _ => line

/-- The lines that a program printed.  What is printed at once can hold several. -/
def Output.lines (o : Output) : List String :=
  o.stdout.flatMap fun printed => (printed.splitOn "\n").map withoutReturn

/-- A record as a line. -/
def recordLine (level : LogLevel) (place message : String) : String :=
  let name := level.name
  name ++ String.ofList (List.replicate (5 - name.length) ' ') ++ " [" ++ place ++ "] " ++ message

/-- The lines of the records that are shown. -/
def recordLines (v : Verbosity) (log : List Event) : List String :=
  (log.filter fun e => e.level.rank ≤ v).map fun e => recordLine e.level e.place e.message

/-- The line that says what is run. -/
def announcement (v : Verbosity) (script : String) : List String :=
  if LogLevel.debug.rank ≤ v then
    [recordLine .debug "run_js" ("running " ++ script ++ " on " ++ scriptBackend)]
  else []

/-- A text with every line after the first one indented as the first. -/
def indent (s : String) : String :=
  "    " ++ String.join (s.toList.map fun c => if c = '\n' then "\n    " else String.singleton c)

/-- The report of an error, with its cause if there is one. -/
def errorReport (message : String) (cause : Option String) : String :=
  "Error: " ++ message ++
    (match cause with
      | some c => "\n\nCaused by:\n" ++ indent c
      | none => "") ++ "\n"

/-- The help text. -/
def helpLines : List String :=
  ["Run a javascript file", "", "Usage: run-js [OPTIONS] <SCRIPT>", "", "Arguments:",
    "  <SCRIPT>  The script to run", "", "Options:",
    "  -c, --config <CONFIG>        Engine configuration (json)",
    "  -l, --log-level <LOG_LEVEL>  [default: warn] [possible values: off, error, warn, info, " ++
      "debug, trace]",
    "  -h, --help                   Print help", "  -V, --version                Print version"]

/-! ## The program -/

/-- The line of a value, which undefined does not have. -/
def valueLines {φ : Type} : Value φ → List String
  | .undefined => []
  | v => [v.display]

variable [Machine]

/-- Runs a source on an engine. -/
def runScript (o : Options) (config : EngineConfig) (source : String) : Output :=
  let (w, result) := host.run ⟨config, ()⟩ source (World.start [])
  let lines := announcement o.verbosity o.script ++ recordLines o.verbosity w.log.reverse ++
    w.host.reverse
  match result with
  | .ok v => ⟨0, lines ++ valueLines v, ""⟩
  | .error e => ⟨1, lines, errorReport e.message e.cause?⟩

/-- The configuration that the options name. -/
def configFrom (path : String) (file : Except FileError String) : Except Failure EngineConfig :=
  EngineConfig.ofFile (fun _ => file) path

variable {m : Type → Type} [Monad m]

/-- Runs the script that the options name. -/
def runOptions (read : String → m (Except FileError String)) (o : Options) : m Output := do
  let config ←
    match o.config with
    | none => pure (.ok .standard)
    | some path => do
      let file ← read path
      pure (configFrom path file)
  match config with
  | .error e => pure ⟨1, [], errorReport e.message e.cause?⟩
  | .ok config => do
    let source ← read o.script
    match source with
    | .error e => pure ⟨1, [], errorReport (unreadable o.script e) none⟩
    | .ok source => pure (runScript o config source)

/-- Runs the program. -/
def run (read : String → m (Except FileError String)) (args : List String) : m Output :=
  match request args with
  | .run o => runOptions read o
  | .help => pure ⟨0, helpLines, ""⟩
  | .version => pure ⟨0, ["run-js " ++ version], ""⟩
  | .misuse => pure ⟨2, [], "error: invalid arguments\n\nFor more information, try '--help'.\n"⟩

end ScriptHost.CommandLine
