import ScriptHost.Script.Grammar.Basic

/-!
# Reading functions

Parameters are plain names; a body is a statement list between braces.  A
function body starts with new surroundings: no loop, no label, and its own
answer to what can be waited for or yielded.  A function remembers the text that
it was read from.
-/

namespace ScriptHost.Script

/-- Reads a function together with its text. -/
def withText (read : Reader Lambda) : Reader Lambda := fun ls => do
  let (f, rest) ← read ls
  .ok (f.withSource (sourceBetween ls rest), rest)

/-- Reads the parameters after the opening parenthesis. -/
def parameterList (s : Surroundings) : Reader (List Name) := fun ls => do
  let (ps, ls) ← listUntil ")" (binding s) s.rounds [] ls
  if hasRepeats ps then unexpected else .ok (ps, ls)

/-- Reads statements up to the closing brace, which is read too. -/
def statementsUntilBrace (g : Grammar) (s : Surroundings) :
    Nat → List Stmt → Reader (List Stmt)
  | 0, _, _ => unexpected
  | fuel + 1, read, ls =>
    if nextIsMark ls "\x7d" then .ok (read.reverse, ls.tail)
    else do
      let (x, ls) ← g.statement s true ls
      statementsUntilBrace g s fuel (x :: read) ls

/-- The surroundings in the body of a function. -/
def Surroundings.ofBody (s : Surroundings) (q : Suspension) : Surroundings :=
  { rounds := s.rounds, room := s.room, inFunction := true, awaits := q == .waits,
    yields := q == .yields }

/-- Reads the body of a function with the given parameters. -/
def functionBody (g : Grammar) (s : Surroundings) (q : Suspension) (parameters : List Name) :
    Reader (List Stmt) := fun ls => do
  let ls ← expectMark "\x7b" ls
  let (body, ls) ←
    (s.ofBody q).within bodyWeight (fun s ls => statementsUntilBrace g s s.rounds [] ls) ls
  if bodyIsSound parameters body then .ok (body, ls) else unexpected

/-- Reads parameters and body. -/
def functionRest (g : Grammar) (s : Surroundings) (name : Name) (style : FunctionStyle)
    (q : Suspension) (bindsItself : Bool) : Reader Lambda := fun ls => do
  let ls ← expectMark "(" ls
  let (ps, ls) ← parameterList (s.ofBody q) ls
  let (body, ls) ← functionBody g s q ps ls
  .ok (.mk name style q ps bindsItself body [], ls)

/-- The suspension of a function with or without the two marks. -/
def suspensionOf (isAsync starred : Bool) : Suspension :=
  if starred then .yields else if isAsync then .waits else .none

/-- Reads a function after its keyword; `needsName` if it is a declaration. -/
def functionAfterKeyword (g : Grammar) (s : Surroundings) (isAsync needsName : Bool) :
    Reader Lambda := fun ls =>
  let starred := nextIsMark ls "*"
  let ls := if starred then ls.tail else ls
  let q := suspensionOf isAsync starred
  match nextWord? ls with
  | some n =>
    let inside : Surroundings := if needsName then s else s.ofBody q
    if isBindable inside n then functionRest g s n .ordinary q (!needsName) ls.tail
    else unexpected
  | none => if needsName then unexpected else functionRest g s [] .ordinary q false ls

/-- Reads a class after its keyword.  Its body is empty. -/
def classAfterKeyword (s : Surroundings) (needsName : Bool) : Reader Lambda := fun ls => do
  let name := nextWord? ls
  if name.any (fun n => !isBindable s n) || (needsName && name.isNone) then unexpected
  else do
    let ls ← expectMark "\x7b" (if name.isSome then ls.tail else ls)
    let ls ← expectMark "\x7d" (ls.dropWhile fun l => l.isMark ";")
    .ok (.mk (name.getD []) .classBody .none [] (!needsName && name.isSome) [] [], ls)

/-! ## Functions by their first words -/

/-- Whether a function that waits starts here. -/
def startsAsyncFunction (ls : List Lexeme) : Bool :=
  nextIsWord ls "async" && nextIsWord ls.tail "function" && !freshLine ls.tail

/-- Reads a function or a class, if its keyword comes next. -/
def functionOrClass? (g : Grammar) (s : Surroundings) (needsName : Bool) (ls : List Lexeme) :
    Option (Except Rejection (Lambda × List Lexeme)) :=
  if nextIsWord ls "function" then
    some (withText (fun ls => functionAfterKeyword g s false needsName ls.tail) ls)
  else if startsAsyncFunction ls then
    some (withText (fun ls => functionAfterKeyword g s true needsName ls.tail.tail) ls)
  else if nextIsWord ls "class" then
    some (withText (fun ls => classAfterKeyword s needsName ls.tail) ls)
  else none

/-! ## Arrows -/

/-- The parameters in front of an arrow, and what follows the arrow. -/
def arrowHead? (s : Surroundings) (ls : List Lexeme) : Option (List Name × List Lexeme) :=
  let head : Except Rejection (List Name × List Lexeme) := do
    let (ps, rest) ←
      if nextIsMark ls "(" then parameterList s ls.tail
      else do
        let (n, rest) ← binding s ls
        .ok ([n], rest)
    let after ← expectMark "=>" rest
    if freshLine rest then unexpected else .ok (ps, after)
  head.toOption

/-- Reads what follows an arrow. -/
def arrowBody (g : Grammar) (s : Surroundings) (q : Suspension) (ps : List Name) :
    Reader Lambda := fun ls =>
  if nextIsMark ls "\x7b" then do
    let (body, ls) ← functionBody g s q ps ls
    .ok (.mk [] .arrow q ps false body [], ls)
  else do
    let (e, ls) ←
      s.within bodyWeight
        (fun s => g.assignment { s with awaits := q == .waits, yields := false }) ls
    .ok (.mk [] .arrow q ps false [.return (some e)] [], ls)

/-- Reads an arrow function, if there is one. -/
def arrowFunction? (g : Grammar) (s : Surroundings) (ls : List Lexeme) :
    Option (Except Rejection (Lambda × List Lexeme)) :=
  let waiting :=
    if nextIsWord ls "async" && !freshLine ls.tail then
      arrowHead? { s with awaits := true } ls.tail
    else none
  match waiting with
  | some (ps, after) => some (withText (fun _ => arrowBody g s .waits ps after) ls)
  | none =>
    (arrowHead? s ls).map fun (ps, after) =>
      withText (fun _ => arrowBody g s .none ps after) ls

end ScriptHost.Script
