import ScriptHost.Boundary.Report

/-!
# Masked texts

Stack traces and addresses differ from run to run.  A masked text has no stack
trace, only a note about it, and no addresses; of the reason why a source was
rejected it keeps nothing.
-/

namespace ScriptHost.Session

/-- What is known of a stack trace. -/
inductive StackNote where
  | missing
  /-- It names a place in the source that was rejected. -/
  | parser
  | trace
  deriving DecidableEq, Repr

def StackNote.name : StackNote → String
  | .missing => "missing"
  | .parser => "parser"
  | .trace => "trace"

/-! ## Finding a text in another -/

/-- What follows a beginning. -/
def dropFront : List Char → List Char → Option (List Char)
  | [], cs => some cs
  | p :: ps, c :: cs => if p = c then dropFront ps cs else none
  | _ :: _, [] => none

/-- The text in front of the first occurrence of a pattern, and behind it. -/
def splitAtFirst (pattern : List Char) : List Char → Option (List Char × List Char)
  | [] => if pattern.isEmpty then some ([], []) else none
  | c :: cs =>
    match dropFront pattern (c :: cs) with
    | some rest => some ([], rest)
    | none => (splitAtFirst pattern cs).map fun (front, rest) => (c :: front, rest)

/-! ## Masks -/

private def isHexDigit (c : Char) : Bool :=
  c.isDigit || ('a' ≤ c && c ≤ 'f') || ('A' ≤ c && c ≤ 'F')

/-- Removes the digits of addresses. -/
def withoutAddresses : Nat → List Char → List Char
  | 0, cs => cs
  | fuel + 1, cs =>
    match splitAtFirst "(0x".toList cs with
    | none => cs
    | some (front, rest) =>
      front ++ "(0x".toList ++ withoutAddresses fuel (rest.dropWhile isHexDigit)

/-- What a rejected source is called. -/
def rejection : List Char := rejectedName.toList

/-- Cuts a text behind the name of a rejection that is followed by its reason. -/
def cutRejection (cs : List Char) : List Char :=
  match splitAtFirst (rejection ++ [':', ' ']) cs with
  | some (front, _) => front ++ rejection
  | none => cs

/-- A text in front of its stack trace, and the note about that. -/
def maskStack (cs : List Char) : List Char × Option StackNote :=
  match splitAtFirst stackHeading.toList cs with
  | none => (cs, none)
  | some (front, rest) =>
    if (dropFront " <missing information>".toList rest).isSome then (front, some .missing)
    else
      let rejected := (splitAtFirst (rejection ++ [':', ' ']) front).isSome
      let atPlace := (dropFront "\n    at eval_script:".toList rest).isSome
      if rejected && atPlace then (cutRejection front, some .parser) else (front, some .trace)

/-- A masked failure. -/
structure MaskedFailure where
  kind : String
  message : String
  stack : Option StackNote

/-- The name of a kind of failure. -/
def kindName : Failure → String
  | .script (.compile _) => "Compile"
  | .script (.exception _) => "Exception"
  | .script (.conversion _) => "Conversion"
  | .script (.startup _) => "Initialize"
  | .script (.execution _) => "Execution"
  | .script .busy => "ContextBusy"
  | .script (.unreachable _ _) => "UnknownNativeFunction"
  | .config _ => "Config"

def mask (f : Failure) : MaskedFailure :=
  let (message, note) := maskStack f.message.toList
  ⟨kindName f, String.ofList (withoutAddresses message.length message), note⟩

/-- The masked text of a failure. -/
def maskedText (f : Failure) : String := (mask f).message

/-- The masked text of what a program writes about an error. -/
def maskedOutput (s : String) : String :=
  let cs := (maskStack s.toList).1
  String.ofList (withoutAddresses cs.length (cutRejection cs))

end ScriptHost.Session
