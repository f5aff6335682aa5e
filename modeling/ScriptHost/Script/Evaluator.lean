import ScriptHost.Script.Run

/-!
# Evaluators

The rules of the language are written one at a time: a rule says what one
expression, statement or call does, and leaves the evaluation of its parts to an
evaluator that it is given.  `Interpreter` ties the rules together by giving
each rule an evaluator for one level less.
-/

namespace ScriptHost.Script

/-- Where code runs. -/
structure Env where
  scope : ScopeRef
  /-- What `this` is. -/
  receiver : Val
  /-- The scope that holds the value of a script while its statements run. -/
  completion : Option ScopeRef := none
  /-- The labels of the statement that runs. -/
  labels : List Name := []

/-- Where a statement leads to. -/
inductive Flow where
  | next
  | leave (label : Option Name)
  | advance (label : Option Name)
  | answer (v : Val)

/-- How the parts of a piece of code are evaluated. -/
structure Evaluator where
  expr : Env → Expr → Action Val
  stmt : Env → Stmt → Action Flow
  /-- Calls a function on a receiver. -/
  call : Val → Val → List Val → Action Val
  construct : Val → List Val → Action Val
  /-- The stack that the code runs on. -/
  stack : Stack
  /-- Whether something that takes a number of bytes can be made. -/
  grants : Heap → Nat → Bool

/-! ## Errors -/

/-- The longest text of a message that the language itself makes, in units; only
names in ASCII make a message that long. -/
def messageLimit : Nat := 255

/-- The longest text of a name in a message, in bytes, unless it is in ASCII. -/
def nameLimit : Nat := 63

/-- The number of bytes that a unit takes inside a name. -/
private def unitSize (u : UInt16) : Nat :=
  if u < 0x80 then 1 else if u < 0x800 then 2 else 3

/-- The units of a name that fit into a number of bytes.  A pair of surrogates is
kept or left out as a whole. -/
private def fitting : Nat → Units → Units
  | _, [] => []
  | room, [u] => if unitSize u ≤ room then [u] else []
  | room, u :: v :: rest =>
    if Units.isHigh u && Units.isLow v then
      if 4 ≤ room then u :: v :: fitting (room - 4) rest else []
    else if unitSize u ≤ room then u :: fitting (room - unitSize u) (v :: rest)
    else []

/-- A name inside a message: the part that fits, up to its first NUL. -/
def shownName (n : Units) : Units :=
  let shown := if n.all (· < 0x80) then n else fitting nameLimit n
  shown.takeWhile (· != 0)

/-- The properties of a new error. -/
def errorProperties (message stack : Option Units) : List (Key × Property) :=
  (message.map fun m => (key "message", Property.hidden (.string m))).toList ++
    (stack.map fun s => (key "stack", Property.hidden (.string s))).toList

/-- A new error, with a message and a stack trace if they are given. -/
def newError (t : ErrorType) (message stack : Option Units) : Action Val :=
  Action.update fun h =>
    let (r, h) := h.allocate
      (.make .error (some (Place.errorPrototype t)) (errorProperties message stack))
    (.object r, h)

/-- Throws an error of the language.  It has no stack trace yet. -/
def raiseError {α : Type} (t : ErrorType) (message : Units) : Action α := do
  let e ← newError t (some (message.take messageLimit)) none
  Action.raise e

/-- Throws the error of code that nests too deep. -/
def raiseTooDeep {α : Type} : Action α :=
  raiseError .range (text "Maximum call stack size exceeded")

/-- Throws the error of a memory that is used up, unless so many bytes can be taken. -/
def reserve (ev : Evaluator) (bytes : Nat) : Action Unit := do
  let fine ← Action.read fun h => ev.grants h bytes
  if fine then pure () else raiseError .internal (text "out of memory")

/-- The bytes of a string: one for each unit, or two if some unit needs them. -/
def stringBytes (s : Units) : Nat := if s.all (· < 256) then s.length else 2 * s.length

/-- A new string. -/
def newString (ev : Evaluator) (s : Units) : Action Val := do
  reserve ev (stringBytes s)
  pure (.string s)

/-- Throws an error about a name. -/
def raiseAbout {α : Type} (t : ErrorType) (front : String) (n : Units) (back : String) :
    Action α :=
  raiseError t (text front ++ shownName n ++ text back)

/-- Throws an error about a key; a symbol is shown by its description. -/
def raiseAboutKey {α : Type} (t : ErrorType) (front : String) (k : Key) (back : String) :
    Action α := do
  let shown ← Action.read fun h =>
    match k with
    | .name s => s
    | .symbol id => (h.description? id).getD []
  raiseAbout t front shown back

/-- Gives a thrown error the trace of a stack, unless it has one. -/
def traced (s : Stack) (v : Val) : Action Unit :=
  match v with
  | .object r => Action.change fun h =>
      let o := h.object r
      if o.isError && o.extensible && (o.own? (key "stack")).isNone then
        h.setObject r (o.put (key "stack") (Property.hidden (.string s.trace)))
      else h
  | _ => pure ()

/-- Runs code in a frame of a stack: an error that leaves it has a stack trace. -/
def framed {α : Type} (s : Stack) (x : Action α) : Action α :=
  x.recover fun v => do
    traced s v
    Action.raise v

end ScriptHost.Script
