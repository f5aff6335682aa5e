import ScriptHost.World.Event

/-!
# Command line arguments

The arguments are read from left to right, and the first that is wrong, or that
asks for help or for the version, decides.  An option takes its value from the
same argument or from the next one, which then must not look like an option; no
option may be given twice.  After `--` nothing is an option.  What is left over
is the script, and there is exactly one.
-/

namespace ScriptHost.CommandLine

/-- How much is logged. -/
abbrev Verbosity := Nat

/-- The log levels by name, with the rank up to which records are shown. -/
def verbosities : List (String × Verbosity) :=
  [("off", 0), ("error", 1), ("warn", 2), ("info", 3), ("debug", 4), ("trace", 5)]

/-- What was asked for. -/
structure Options where
  config : Option String
  verbosity : Verbosity
  script : String
  deriving DecidableEq

/-- What the arguments say. -/
inductive Request where
  | run (o : Options)
  | help
  | version
  /-- The arguments make no sense. -/
  | misuse
  deriving DecidableEq

/-- What has been read of the arguments. -/
structure Partial where
  config : Option String := none
  verbosity : Option Verbosity := none
  script : Option String := none

/-- The options that take a value. -/
inductive Valued where
  | config
  | logLevel
  deriving DecidableEq

/-- What an argument is read as. -/
inductive Flag where
  | valued (v : Valued)
  | help
  | version
  deriving DecidableEq

def longFlag? (name : List Char) : Option Flag :=
  match String.ofList name with
  | "config" => some (.valued .config)
  | "log-level" => some (.valued .logLevel)
  | "help" => some .help
  | "version" => some .version
  | _ => none

def shortFlag? (c : Char) : Option Flag :=
  if c = 'c' then some (.valued .config)
  else if c = 'l' then some (.valued .logLevel)
  else if c = 'h' then some .help
  else if c = 'V' then some .version
  else none

/-- Gives an option its value, unless it has one already or the value is none of
its values. -/
def Partial.set (p : Partial) (v : Valued) (value : String) : Option Partial :=
  match v with
  | .config => if p.config.isSome || value = "" then none else some { p with config := some value }
  | .logLevel =>
    if p.verbosity.isSome then none
    else
      (verbosities.find? fun l => l.1 == value).map fun l => { p with verbosity := some l.2 }

/-- Takes an argument that is no option. -/
def Partial.setScript (p : Partial) (value : String) : Option Partial :=
  if p.script.isSome || value = "" then none else some { p with script := some value }

/-- What all the arguments say. -/
def Partial.finish (p : Partial) : Request :=
  match p.script with
  | some script => .run ⟨p.config, p.verbosity.getD 2, script⟩
  | none => .misuse

/-- Whether an argument cannot be the value of the option in front of it. -/
def looksLikeOption (arg : String) : Bool :=
  match arg.toList with
  | '-' :: _ :: _ => true
  | _ => false

/-- What one argument does: it asks for something at once, it completes an
option, or it waits for the next argument. -/
inductive Effect where
  | stop (r : Request)
  | set (v : Valued) (value : String)
  | await (v : Valued)
  | script (value : String)
  /-- Only scripts follow. -/
  | plain

private def ofFlag (f : Option Flag) (attached : Option String) : Effect :=
  match f, attached with
  | some (.valued v), some value => .set v value
  | some (.valued v), none => .await v
  | some .help, none => .stop .help
  | some .version, none => .stop .version
  | _, _ => .stop .misuse

private def readLong (name : List Char) : Effect :=
  match name.dropWhile (· != '=') with
  | '=' :: value => ofFlag (longFlag? (name.takeWhile (· != '='))) (some (String.ofList value))
  | _ => ofFlag (longFlag? name) none

private def attachedValue (rest : List Char) : Option String :=
  match rest with
  | [] => none
  | '=' :: value => some (String.ofList value)
  | value => some (String.ofList value)

private def readShort (c : Char) (rest : List Char) : Effect :=
  match shortFlag? c with
  | some (.valued v) => ofFlag (some (.valued v)) (attachedValue rest)
  | some f => ofFlag (some f) none
  | none => .stop .misuse

/-- Reads one argument. -/
def effectOf (arg : String) : Effect :=
  match arg.toList with
  | ['-', '-'] => .plain
  | '-' :: '-' :: name => readLong name
  | '-' :: c :: rest => readShort c rest
  | _ => .script arg

/-- Reads the arguments after `--`. -/
def readPlain : List String → Partial → Request
  | [], p => p.finish
  | arg :: rest, p =>
    match p.setScript arg with
    | some p => readPlain rest p
    | none => .misuse

/-- Reads the arguments from left to right; `waiting` is the option in front that
still needs a value. -/
def readFrom : List String → Option Valued → Partial → Request
  | [], some _, _ => .misuse
  | [], none, p => p.finish
  | arg :: rest, some v, p =>
    if looksLikeOption arg then .misuse
    else
      match p.set v arg with
      | some p => readFrom rest none p
      | none => .misuse
  | arg :: rest, none, p =>
    match effectOf arg with
    | .stop r => r
    | .await v => readFrom rest (some v) p
    | .plain => readPlain rest p
    | .set v value =>
      match p.set v value with
      | some p => readFrom rest none p
      | none => .misuse
    | .script value =>
      match p.setScript value with
      | some p => readFrom rest none p
      | none => .misuse

/-- What the arguments ask for. -/
def request (args : List String) : Request := readFrom args none {}

end ScriptHost.CommandLine
