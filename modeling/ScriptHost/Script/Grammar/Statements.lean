import ScriptHost.Script.Grammar.Expressions

/-!
# Reading statements

Declarations stand in statement lists only; the body of a condition or a loop is
a statement that declares nothing.  A semicolon may be left out where a line, a
block or the source ends.
-/

namespace ScriptHost.Script

/-- Reads the end of a statement that holds an expression. -/
def closing (x : Stmt) : Reader Stmt := fun ls => do
  let ls ← endOfStatement ls
  .ok (x, ls)

/-- Reads a block after its opening brace. -/
def blockRest (g : Grammar) (s : Surroundings) : Reader (List Stmt) := fun ls => do
  let (body, ls) ← s.within blockWeight (fun s ls => statementsUntilBrace g s s.rounds [] ls) ls
  if blockIsSound body then .ok (body, ls) else unexpected

def block (g : Grammar) (s : Surroundings) : Reader (List Stmt) := fun ls => do
  let ls ← expectMark "\x7b" ls
  blockRest g s ls

/-! ## Declarations -/

def isConst : Declarator → Bool
  | .const => true
  | _ => false

/-- Reads the first value of a declared name. -/
def firstValue (g : Grammar) (s : Surroundings) (d : Declarator) (n : Name) :
    Reader (Option Expr) := fun ls =>
  if nextIsMark ls "=" then do
    let (e, ls) ← g.assignment s ls.tail
    .ok (some (e.named n), ls)
  else if isConst d then unexpected
  else .ok (none, ls)

/-- Reads declared names with their first values. -/
def bindingList (g : Grammar) (s : Surroundings) (d : Declarator) :
    Nat → List (Name × Option Expr) → Reader (List (Name × Option Expr))
  | 0, _, _ => unexpected
  | fuel + 1, read, ls => do
    let (n, ls) ← binding s ls
    let (e, ls) ← firstValue g s d n ls
    if nextIsMark ls "," then bindingList g s d fuel ((n, e) :: read) ls.tail
    else .ok (((n, e) :: read).reverse, ls)

def declarator? (l : Lexeme) : Option Declarator :=
  if l.isWord "var" then some .var
  else if l.isWord "let" then some .let
  else if l.isWord "const" then some .const
  else none

def declaration (g : Grammar) (s : Surroundings) (d : Declarator) : Reader Stmt :=
  fun ls => do
    let (bs, ls) ← bindingList g s d s.rounds [] ls
    .ok (.declare d bs, ls)

def closedDeclaration (g : Grammar) (s : Surroundings) (d : Declarator) : Reader Stmt :=
  fun ls => do
    let (x, ls) ← declaration g s d ls
    closing x ls

/-! ## Loops -/

def inside (s : Surroundings) : Surroundings := { s with inLoop := true }

def parenthesized (g : Grammar) (s : Surroundings) : Reader Expr := fun ls => do
  let ls ← expectMark "(" ls
  let (e, ls) ← expression g s ls
  let ls ← expectMark ")" ls
  .ok (e, ls)

/-- Reads an expression unless the mark comes first; the mark is read too. -/
def optionalUntil (g : Grammar) (s : Surroundings) (m : String) :
    Reader (Option Expr) := fun ls =>
  if nextIsMark ls m then .ok (none, ls.tail)
  else do
    let (e, ls) ← expression g s ls
    let ls ← expectMark m ls
    .ok (some e, ls)

/-- Reads the first part of a counting loop with its semicolon. -/
def loopStart (g : Grammar) (s : Surroundings) : Reader Stmt := fun ls =>
  match ls.head?.bind declarator? with
  | some d => do
    let (x, ls) ← declaration g s d ls.tail
    let ls ← expectMark ";" ls
    if hasRepeats ((lexicalNames [x]).map (·.1)) then unexpected else .ok (x, ls)
  | none => do
    let (e, ls) ← optionalUntil g s ";" ls
    .ok (match e with
      | some e => .expr e
      | none => .empty, ls)

def loopRest (g : Grammar) (s : Surroundings) : Reader Stmt := fun ls => do
  let ls ← expectMark "(" ls
  let (start, ls) ← loopStart g s ls
  let (c, ls) ← optionalUntil g s ";" ls
  let (next, ls) ← optionalUntil g s ")" ls
  let (body, ls) ← g.statement (inside s) false ls
  let lexical := (lexicalNames [start]).map (·.1)
  if body.varNames.any lexical.contains then unexpected else .ok (.loop start c next body, ls)

def whileRest (g : Grammar) (s : Surroundings) : Reader Stmt := fun ls => do
  let (c, ls) ← parenthesized g s ls
  let (body, ls) ← g.statement (inside s) false ls
  .ok (.while c body, ls)

def repeatRest (g : Grammar) (s : Surroundings) : Reader Stmt := fun ls => do
  let (body, ls) ← g.statement (inside s) false ls
  let ls ← expectWord "while" ls
  let (c, ls) ← parenthesized g s ls
  .ok (.repeatWhile body c, if nextIsMark ls ";" then ls.tail else ls)

/-! ## Conditions and ends of control -/

def choiceRest (g : Grammar) (s : Surroundings) : Reader Stmt := fun ls => do
  let (c, ls) ← parenthesized g s ls
  let (a, ls) ← g.statement s false ls
  if nextIsWord ls "else" then do
    let (b, ls) ← g.statement s false ls.tail
    .ok (.choose c a b, ls)
  else .ok (.choose c a .empty, ls)

/-- Reads `break` or `continue` after its keyword. -/
def jump (s : Surroundings) (allowed : Bool) (ofLabel : Bool → Bool)
    (make : Option Name → Stmt) : Reader Stmt := fun ls =>
  match (if freshLine ls then none else nextWord? ls) with
  | some n =>
    if (s.labels.find? fun l => l.1 == n).any fun l => ofLabel l.2 then
      closing (make (some n)) ls.tail
    else unexpected
  | none => if allowed then closing (make none) ls else unexpected

def returned (g : Grammar) (s : Surroundings) : Reader Stmt := fun ls =>
  if !s.inFunction then unexpected
  else if ls.isEmpty || nextIsMark ls ";" || nextIsMark ls "\x7d" || freshLine ls then
    closing (.return none) ls
  else do
    let (e, ls) ← expression g s ls
    closing (.return (some e)) ls

def raised (g : Grammar) (s : Surroundings) : Reader Stmt := fun ls =>
  if freshLine ls then unexpected
  else do
    let (e, ls) ← expression g s ls
    closing (.raise e) ls

/-! ## Guarded blocks -/

/-- Reads the parameter of a handler, if it has one. -/
def handlerParameter (s : Surroundings) : Reader (Option Name) := fun ls =>
  if nextIsMark ls "(" then do
    let (n, ls) ← binding s ls.tail
    let ls ← expectMark ")" ls
    .ok (some n, ls)
  else .ok (none, ls)

/-- Reads the handler of a guarded block, if there is one. -/
def handler (g : Grammar) (s : Surroundings) :
    Reader (Option (Option Name × List Stmt)) := fun ls =>
  if nextIsWord ls "catch" then do
    let (param, ls) ← handlerParameter s ls.tail
    let (body, ls) ← block g s ls
    let declared := (lexicalNames body).map (·.1) ++ (functionsOf body).map (·.name)
    if param.any declared.contains then unexpected else .ok (some (param, body), ls)
  else .ok (none, ls)

/-- Reads the last part of a guarded block, if there is one. -/
def finalizer (g : Grammar) (s : Surroundings) : Reader (Option (List Stmt)) := fun ls =>
  if nextIsWord ls "finally" then do
    let (f, ls) ← block g s ls.tail
    .ok (some f, ls)
  else .ok (none, ls)

def guardedRest (g : Grammar) (s : Surroundings) : Reader Stmt := fun ls => do
  let (body, ls) ← block g s ls
  let (h, ls) ← handler g s ls
  let (f, ls) ← finalizer g s ls
  if h.isNone && f.isNone then unexpected else .ok (.guarded body h f, ls)

/-! ## Statements -/

/-- Whether a label that stands here is on a loop. -/
def startsLoop (ls : List Lexeme) : Bool :=
  nextIsWord ls "for" || nextIsWord ls "while" || nextIsWord ls "do"

def labelledRest (g : Grammar) (s : Surroundings) (n : Name) : Reader Stmt := fun ls =>
  if s.labels.any fun l => l.1 == n then unexpected
  else do
    let (x, ls) ← g.statement { s with labels := (n, startsLoop ls) :: s.labels } false ls
    .ok (.labelled n x, ls)

/-- Whether a declaration starts here that may only stand in a statement list. -/
def startsListed (ls : List Lexeme) : Bool :=
  nextIsWord ls "function" || startsAsyncFunction ls || nextIsWord ls "class" ||
    nextIsWord ls "let" || nextIsWord ls "const"

/-- The declaration of a function or a class. -/
def declarationOf (f : Lambda) : Stmt :=
  if f.style = .classBody then .classes f else .function f

/-- Reads a declaration that may only stand in a statement list. -/
def listedDeclaration (g : Grammar) (s : Surroundings) : Reader Stmt := fun ls =>
  match functionOrClass? g s true ls with
  | some read => read.map fun (f, rest) => (declarationOf f, rest)
  | none =>
    match ls.head?.bind declarator? with
    | some d => closedDeclaration g s d ls.tail
    | none => unexpected

/-- Reads a statement that is an expression, or one behind a label. -/
def unmarkedStatement (g : Grammar) (s : Surroundings) : Reader Stmt := fun ls =>
  match nextWord? ls, nextIsMark ls.tail ":" with
  | some n, true => if isReference s n then labelledRest g s n ls.tail.tail else unexpected
  | _, _ => do
    let (e, ls) ← expression g s ls
    closing (.expr e) ls

/-- Reads a statement that declares at most `var` names. -/
def plainStatement (g : Grammar) (s : Surroundings) : Reader Stmt := fun ls =>
  match ls with
  | [] => unexpected
  | l :: rest =>
    if l.isMark "\x7b" then (blockRest g s rest).map fun (b, ls) => (.block b, ls)
    else if l.isMark ";" then .ok (.empty, rest)
    else if l.isWord "var" then closedDeclaration g s .var rest
    else if l.isWord "if" then choiceRest g s rest
    else if l.isWord "while" then whileRest g s rest
    else if l.isWord "do" then repeatRest g s rest
    else if l.isWord "for" then loopRest g s rest
    else if l.isWord "return" then returned g s rest
    else if l.isWord "throw" then raised g s rest
    else if l.isWord "try" then guardedRest g s rest
    else if l.isWord "break" then jump s s.inLoop (fun _ => true) .leave rest
    else if l.isWord "continue" then jump s s.inLoop id .advance rest
    else if l.isWord "debugger" then closing .empty rest
    else if startsListed ls then unexpected
    else unmarkedStatement g s ls

def statementRule (g : Grammar) (listed : Bool) (s : Surroundings) : Reader Stmt := fun ls =>
  if listed && startsListed ls then listedDeclaration g s ls else plainStatement g s ls

/-! ## Programs -/

/-- The readers down to a nesting depth. -/
def Grammar.ofFuel : Nat → Grammar
  | 0 =>
    ⟨fun _ _ => .error .tooDeep, fun _ _ => .error .tooDeep, fun _ _ _ => .error .tooDeep⟩
  | fuel + 1 =>
    ⟨fun s => s.within readerWeight (assignmentRule (ofFuel fuel)),
      fun s => s.within readerWeight (unaryRule (ofFuel fuel)),
      fun s listed => s.within readerWeight (statementRule (ofFuel fuel) listed)⟩

def readStatements (g : Grammar) (s : Surroundings) :
    Nat → List Stmt → List Lexeme → Except Rejection (List Stmt)
  | 0, _, _ => unexpected
  | fuel + 1, read, ls =>
    if ls.isEmpty then .ok read.reverse
    else do
      let (x, ls) ← g.statement s true ls
      readStatements g s fuel (x :: read) ls

/-- The program that tokens spell.  Every reader takes some of the room before it
calls another, so the readers go no deeper than the room does. -/
def programOf (room : Nat) (ls : List Lexeme) : Except Rejection (List Stmt) := do
  let s : Surroundings := { rounds := ls.length + 1, room := room }
  let body ← readStatements (.ofFuel (room + 1)) s s.rounds [] ls
  if scriptIsSound body then .ok body else unexpected

/-- The program that a source spells, read with a part of the stack. -/
def parse (room : Nat) (source : String) : Except Rejection (List Stmt) :=
  if room < programWeight then .error .tooDeep
  else
    match Lexeme.ofSource source.toList with
    | some ls => programOf (room - programWeight) ls
    | none => unexpected

end ScriptHost.Script
