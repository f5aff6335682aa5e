import ScriptHost.CommandLine.Run
import ScriptHost.Proofs.Boundary.Rejected
import ScriptHost.Proofs.Callback.Lookup
import ScriptHost.Proofs.World.Oblivious

/-!
# Transcripts of a run

Every host call of a script that the program runs is a call of `print`.  Its arguments are made
host values first, and script code can run meanwhile: a string that is not well formed is made
so by the realm, with whatever a script has put in the place of the built-ins that this uses.
So calls nest, and a run has made a forest of them.

`transcribing` answers host calls by writing them down.  It knows nothing of realms, of slots
or of what is exported, and it prints nothing; the forest that it leaves is the transcript of
the run.  That the program prints what the transcript says takes two steps:

* `printing` writes down lines instead of calls.  It follows `transcribing` along the
  projection that reads the lines off the calls.
* The dispatcher of the program does what `printing` does: the only callback that a script can
  reach is `print`, however it has come by the function.
-/

namespace ScriptHost.CommandLine

open Script (HostCall Val)

/-! ## Calls of `print` -/

/-- A call of `print`. -/
structure PrintCall where
  call : HostCall
  /-- The calls that were made while the arguments of this one were made host values. -/
  during : List PrintCall
  /-- The arguments, unless there is one that has no host value. -/
  arguments : Option (List (Value Printer))

/-- The line that a call prints by itself, if its arguments have become host values. -/
def PrintCall.line? (c : PrintCall) : Option String := c.arguments.map printedLine

mutual
/-- The lines of a call.  Those of the calls in between come before its own. -/
def PrintCall.lines : PrintCall → List String
  | ⟨_, during, arguments⟩ => linesOf during ++ (arguments.map printedLine).toList

/-- The lines of calls that were made one after the other. -/
def linesOf : List PrintCall → List String
  | [] => []
  | c :: cs => c.lines ++ linesOf cs
end

mutual
/-- A call and those in between, in the order in which they were made. -/
def PrintCall.inOrder : PrintCall → List PrintCall
  | ⟨call, during, arguments⟩ => ⟨call, during, arguments⟩ :: inOrderOf during

/-- Calls and those in between, in the order in which they were made. -/
def inOrderOf : List PrintCall → List PrintCall
  | [] => []
  | c :: cs => c.inOrder ++ inOrderOf cs
end

section Machine

variable [Machine]

/-! ## Writing calls down -/

/-- The calls of a run so far, the latest first. -/
abbrev Transcript := List PrintCall

/-- What is printed in the end, the latest line first, where some lines were printed before. -/
def Transcript.printed (before : Printed) (t : Transcript) : Printed :=
  (linesOf t.reverse).reverse ++ before

/-- Every argument that is a string is the string of a text. -/
def PrintCall.WellFormed (c : PrintCall) : Prop :=
  ∀ s, Val.string s ∈ c.call.arguments → ∃ t, s = Units.ofString t

/-- If its arguments are well formed then the call prints, and no other call is made meanwhile. -/
def PrintCall.Direct (c : PrintCall) : Prop :=
  c.WellFormed → c.during = [] ∧ c.arguments.isSome = true

section WellFormed

variable {φ σ : Type} (c : Crossing φ σ)

end WellFormed

end Machine

end ScriptHost.CommandLine
