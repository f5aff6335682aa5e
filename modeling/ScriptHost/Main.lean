import ScriptHost.CommandLine.Run
import ScriptHost.Script.Interpreter

/-!
# The command line program

The program runs one script under a configuration.  It is the outermost layer of the library.

* `Value`, `World`, `Callback`, `Boundary` and `Engine` are the host: its values, realms and
  callbacks, how values cross into a realm and back, and how runs and calls nest.  They know an
  engine as far as `Script.Machine` describes one.
* `Script` has the language and an interpreter for it, which is such an engine.
* `Config`, `Files`, `Number` and `Text` read and write configurations, numbers and texts.
* `Session` is a host whose callbacks are described by data.  It names what it makes, asks for
  it again and hides what differs from run to run, so that what the library does can be written
  down and compared.

What is left out:

* There is one kind of script engine.  Realms of other backends hold a text, and what a function
  of another backend does when it is called is up to the host.
* Of the language the interpreter has no `switch`, no loops over the items of something, no
  templates, no spreading and taking apart, no classes with members, no modules and no `eval`;
  sources with these are refused like any other source that spells no program.  Promises stay
  pending.  Patterns capture and repeat nothing.
* The interpreter weighs sources, strings and rows of elements, and what the host makes in a
  realm, each by itself against the limit of its memory.  What it makes for its own use it has
  room for.  How much each of these takes, and how much stack, is fitted to a few measurements;
  theorems about hosts hold for every engine, whatever it grants.
-/

namespace ScriptHost.CommandLine

/-- Why the system could not read a file. -/
def fileErrorOf : IO.Error → FileError
  | .noFileOrDirectory _ _ _ => .notFound
  | .inappropriateType _ _ _ => .isDirectory
  | .invalidArgument _ _ _ => .nulInName
  | _ => .notFound

/-- Reads a file as text. -/
def readFile (path : String) : IO (Except FileError String) := do
  try
    let bytes ← IO.FS.readBinFile path
    return textOf bytes.toList
  catch e => return .error (fileErrorOf e)

end ScriptHost.CommandLine

def main (args : List String) : IO UInt32 := do
  let output ← ScriptHost.CommandLine.run ScriptHost.CommandLine.readFile args
  for line in output.stdout do
    IO.println line
  IO.eprint output.stderr
  return UInt32.ofNat output.code
