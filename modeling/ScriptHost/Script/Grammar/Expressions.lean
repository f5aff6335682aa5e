import ScriptHost.Script.Grammar.Functions

/-!
# Reading expressions

Operators bind in levels, from the sequence at the outside to members and calls
at the inside; operators of one level group to the left, assignment and the
conditional to the right.
-/

namespace ScriptHost.Script

/-! ## Targets -/

/-- The place that an expression stands for, if it can be assigned to. -/
def Expr.target? : Expr → Except Rejection Target
  | .get (.name n) => if protectedNames.contains n then unexpected else .ok (.name n)
  | .get t => .ok t
  | _ => unexpected

/-- What a place is called on, or holds. -/
def Expr.callWith (arguments : List Expr) : Expr → Expr
  | .get (.name n) => .call (.get (.name n)) arguments
  | .get t => .callOn t arguments
  | e => .call e arguments

/-! ## Primary expressions -/

/-- A sequence in parentheses, or anywhere commas are operators. -/
def sequenceRest (g : Grammar) (s : Surroundings) : Nat → Expr → Reader Expr
  | 0, _, _ => unexpected
  | fuel + 1, e, ls =>
    if nextIsMark ls "," then do
      let (next, ls) ← g.assignment s ls.tail
      sequenceRest g s fuel (.sequence e next) ls
    else .ok (e, ls)

def expression (g : Grammar) (s : Surroundings) : Reader Expr := fun ls => do
  let (e, ls) ← g.assignment s ls
  sequenceRest g s s.rounds e ls

/-- Reads an expression in brackets after the opening one. -/
def bracketed (g : Grammar) (s : Surroundings) (close : String) : Reader Expr := fun ls => do
  let (e, ls) ← s.within bracketWeight (fun s => expression g s) ls
  let ls ← expectMark close ls
  .ok (e, ls)

/-! ## Object literals -/

/-- Reads a key of an object literal. -/
def memberKey (g : Grammar) (s : Surroundings) : Reader Expr := fun ls =>
  match ls.head?.map Lexeme.token with
  | some (.word n _) => .ok (.literal (.string n), ls.tail)
  | some (.literal l) => .ok (.literal l, ls.tail)
  | _ =>
    if nextIsMark ls "[" then do
      let (e, ls) ← s.within bracketWeight (fun s => g.assignment s) ls.tail
      let ls ← expectMark "]" ls
      .ok (e, ls)
    else unexpected

/-- Whether a member that starts here sets the prototype. -/
def startsPrototype (ls : List Lexeme) : Bool :=
  match ls.head?.map Lexeme.token with
  | some (.word n _) => n == text "__proto__"
  | some (.literal (.string u)) => u == text "__proto__"
  | _ => false

/-- Whether the token after a contextual word still belongs to the same member. -/
def continuesMember (ls : List Lexeme) : Bool :=
  !(nextIsMark ls "," || nextIsMark ls ":" || nextIsMark ls "(" || nextIsMark ls "\x7d")

/-- Reads the key and the function of a method that starts at `start`. -/
def method (g : Grammar) (s : Surroundings) (q : Suspension) (start : List Lexeme) :
    Reader (Expr × Lambda) := fun ls => do
  let (key, ls) ← memberKey g s ls
  let (f, rest) ← functionRest g s [] .method q false ls
  .ok ((key, f.withSource (sourceBetween start rest)), rest)

/-- Reads a member that holds a value. -/
def dataMember (g : Grammar) (s : Surroundings) : Reader Member := fun ls => do
  let (key, rest) ← memberKey g s ls
  if nextIsMark rest "(" then do
    let (f, after) ← functionRest g s [] .method .none false rest
    .ok (.data key (.function (f.withSource (sourceBetween ls after))), after)
  else if nextIsMark rest ":" then do
    let (e, after) ← g.assignment s rest.tail
    .ok (if startsPrototype ls then .prototype e else .data key e, after)
  else
    match nextWord? ls with
    | some n => if isReference s n then .ok (.data key (.get (.name n)), rest) else unexpected
    | none => unexpected

/-- Reads one member of an object literal. -/
def member (g : Grammar) (s : Surroundings) : Reader Member := fun ls =>
  if nextIsWord ls "get" && continuesMember ls.tail then do
    let ((key, f), rest) ← method g s .none ls ls.tail
    if f.parameters.isEmpty then .ok (.getter key f, rest) else unexpected
  else if nextIsWord ls "set" && continuesMember ls.tail then do
    let ((key, f), rest) ← method g s .none ls ls.tail
    if f.parameters.length = 1 then .ok (.setter key f, rest) else unexpected
  else if nextIsMark ls "*" then do
    let ((key, f), rest) ← method g s .yields ls ls.tail
    .ok (.data key (.function f), rest)
  else if nextIsWord ls "async" && continuesMember ls.tail && !freshLine ls.tail then do
    let starred := nextIsMark ls.tail "*"
    let ((key, f), rest) ←
      method g s (suspensionOf true starred) ls (if starred then ls.tail.tail else ls.tail)
    .ok (.data key (.function f), rest)
  else dataMember g s ls

def isPrototype : Member → Bool
  | .prototype _ => true
  | _ => false

/-- Reads an object literal after its opening brace. -/
def objectRest (g : Grammar) (s : Surroundings) : Reader Expr := fun ls => do
  let (ms, ls) ← listUntil "\x7d" (member g s) s.rounds [] ls
  if 1 < (ms.filter isPrototype).length then unexpected else .ok (.object ms, ls)

/-- Reads an array literal after its opening bracket. -/
def arrayRest (g : Grammar) (s : Surroundings) : Reader Expr := fun ls => do
  let (es, ls) ← elementsUntil (g.assignment s) s.rounds [] ls
  .ok (.array es, ls)

/-- What a word by itself stands for. -/
def namedValue (s : Surroundings) (l : Lexeme) : Except Rejection Expr :=
  if l.isWord "this" then .ok .this
  else if l.isWord "null" then .ok (.literal .null)
  else if l.isWord "true" then .ok (.literal (.bool true))
  else if l.isWord "false" then .ok (.literal (.bool false))
  else
    match l.token with
    | .word n _ => if isReference s n then .ok (.get (.name n)) else unexpected
    | .literal l => .ok (.literal l)
    | .pattern l => .ok (.pattern l)
    | .mark _ => unexpected

/-- Reads a primary expression. -/
def primary (g : Grammar) (s : Surroundings) : Reader Expr := fun ls =>
  match ls with
  | [] => unexpected
  | l :: rest =>
    if l.isMark "(" then bracketed g s ")" rest
    else if l.isMark "[" then s.within bracketWeight (fun s => arrayRest g s) rest
    else if l.isMark "\x7b" then s.within bracketWeight (fun s => objectRest g s) rest
    else
      match functionOrClass? g s false ls with
      | some read => read.map fun (f, rest) => (.function f, rest)
      | none => (namedValue s l).map fun e => (e, rest)

/-! ## Members and calls -/

def argumentList (g : Grammar) (s : Surroundings) : Reader (List Expr) :=
  s.within bracketWeight fun s ls => listUntil ")" (g.assignment s) s.rounds [] ls

/-- Reads what follows an expression: members, and calls where `calls` allows
them. -/
def memberRest (g : Grammar) (s : Surroundings) (calls : Bool) : Nat → Expr → Reader Expr
  | 0, _, _ => unexpected
  | fuel + 1, e, ls =>
    if nextIsMark ls "." then
      match nextWord? ls.tail with
      | some n => memberRest g s calls fuel (.get (.field e n)) ls.tail.tail
      | none => unexpected
    else if nextIsMark ls "[" then do
      let (key, ls) ← bracketed g s "]" ls.tail
      memberRest g s calls fuel (.get (.item e key)) ls
    else if calls && nextIsMark ls "(" then do
      let (es, ls) ← argumentList g s ls.tail
      memberRest g s calls fuel (e.callWith es) ls
    else .ok (e, ls)

/-- Reads a primary expression or a construction. -/
def constructed (g : Grammar) : Nat → Surroundings → Reader Expr
  | 0, _, _ => unexpected
  | fuel + 1, s, ls =>
    if nextIsWord ls "new" then do
      let (f, ls) ← s.within readerWeight (constructed g fuel) ls.tail
      let (f, ls) ← memberRest g s false s.rounds f ls
      if nextIsMark ls "(" then do
        let (es, ls) ← argumentList g s ls.tail
        .ok (.construct f es, ls)
      else .ok (.construct f [], ls)
    else primary g s ls

def leftHandSide (g : Grammar) (s : Surroundings) : Reader Expr := fun ls => do
  let (e, ls) ← constructed g s.rounds s ls
  memberRest g s true s.rounds e ls

/-! ## Unary operators -/

def postfixed (g : Grammar) (s : Surroundings) : Reader Expr := fun ls => do
  let (e, ls) ← leftHandSide g s ls
  if freshLine ls then .ok (e, ls)
  else if nextIsMark ls "++" then e.target?.map fun t => (.bump 1 true t, ls.tail)
  else if nextIsMark ls "--" then e.target?.map fun t => (.bump (-1) true t, ls.tail)
  else .ok (e, ls)

/-- The unary operators that are written in front. -/
def unaryOp? (l : Lexeme) : Option UnaryOp :=
  if l.isMark "+" then some .plus
  else if l.isMark "-" then some .minus
  else if l.isMark "!" then some .not
  else if l.isWord "typeof" then some .typeOf
  else if l.isWord "void" then some .discard
  else none

/-- An expression after `delete`. A plain name cannot be deleted. -/
def removed : Expr → Except Rejection Expr
  | .get (.name _) => unexpected
  | .get t => .ok (.remove t)
  | e => .ok (.sequence e (.literal (.bool true)))

def unaryRule (g : Grammar) (s : Surroundings) : Reader Expr := fun ls =>
  match ls with
  | [] => unexpected
  | l :: rest =>
    let operand (make : Expr → Except Rejection Expr) : Except Rejection (Expr × List Lexeme) := do
      let (e, ls) ← g.unary s rest
      let e ← make e
      .ok (e, ls)
    match unaryOp? l with
    | some op => operand fun e => .ok (.unary op e)
    | none =>
      if l.isWord "delete" then operand removed
      else if l.isMark "++" then operand fun e => e.target?.map (.bump 1 false)
      else if l.isMark "--" then operand fun e => e.target?.map (.bump (-1) false)
      else if s.awaits && l.isWord "await" then operand fun e => .ok (.await e)
      else postfixed g s ls

/-! ## Binary operators -/

/-- The binary operators, tightest level first. -/
def binaryLevels : List (List (String × BinaryOp)) :=
  [[("*", .mul), ("/", .div), ("%", .rem)],
    [("+", .add), ("-", .sub)],
    [("<", .less), ("<=", .lessEq), (">", .greater), (">=", .greaterEq),
      ("instanceof", .instanceOf), ("in", .member)],
    [("===", .identical), ("!==", .different), ("==", .equal), ("!=", .unequal)]]

def operator? (ops : List (String × BinaryOp)) (ls : List Lexeme) : Option BinaryOp :=
  (ops.find? fun o => nextIsMark ls o.1 || nextIsWord ls o.1).map (·.2)

/-- Reads operands of one level with operators between them, after the first. -/
def chainRest (ops : List (String × BinaryOp)) (operand : Reader Expr) :
    Nat → Expr → Reader Expr
  | 0, _, _ => unexpected
  | fuel + 1, e, ls =>
    match operator? ops ls with
    | some op => do
      let (b, ls) ← operand ls.tail
      chainRest ops operand fuel (.binary op e b) ls
    | none => .ok (e, ls)

def chain (rounds : Nat) (operand : Reader Expr) (ops : List (String × BinaryOp)) :
    Reader Expr := fun ls => do
  let (e, ls) ← operand ls
  chainRest ops operand rounds e ls

def binaryRule (g : Grammar) (s : Surroundings) : Reader Expr :=
  binaryLevels.foldl (chain s.rounds) (unaryRule g s)

def shortChainRest (mark : String) (op : ShortCircuit) (operand : Reader Expr) :
    Nat → Expr → Reader Expr
  | 0, _, _ => unexpected
  | fuel + 1, e, ls =>
    if nextIsMark ls mark then do
      let (b, ls) ← operand ls.tail
      shortChainRest mark op operand fuel (.shortCircuit op e b) ls
    else .ok (e, ls)

/-- Reads operands with `&&` between them. -/
def conjunction (rounds : Nat) (operand : Reader Expr) : Reader Expr := fun ls => do
  let (e, ls) ← operand ls
  shortChainRest "&&" .and operand rounds e ls

/-- Reads `&&` and `||`, or `??`; the two cannot be mixed. -/
def shortCircuitRule (g : Grammar) (s : Surroundings) : Reader Expr := fun ls => do
  let operand := binaryRule g s
  let (e, ls) ← operand ls
  if nextIsMark ls "??" then do
    let (e, ls) ← shortChainRest "??" .nullish operand s.rounds e ls
    if nextIsMark ls "||" || nextIsMark ls "&&" then unexpected else .ok (e, ls)
  else do
    let (e, ls) ← shortChainRest "&&" .and operand s.rounds e ls
    let (e, ls) ← shortChainRest "||" .or (conjunction s.rounds operand) s.rounds e ls
    if nextIsMark ls "??" then unexpected else .ok (e, ls)

/-! ## Assignment -/

def conditionalRule (g : Grammar) (s : Surroundings) : Reader Expr := fun ls => do
  let (c, ls) ← shortCircuitRule g s ls
  if nextIsMark ls "?" then do
    let (a, ls) ← s.within branchWeight (fun s => g.assignment s) ls.tail
    let ls ← expectMark ":" ls
    let (b, ls) ← s.within branchWeight (fun s => g.assignment s) ls
    .ok (.conditional c a b, ls)
  else .ok (c, ls)

/-- The operators that change a place. -/
def updateOperators : List (String × BinaryOp) :=
  [("+=", .add), ("-=", .sub), ("*=", .mul), ("/=", .div), ("%=", .rem)]

/-- The name that a place gives to a function stored in it.  The place has to be
written without parentheses. -/
def Target.functionName (start : List Lexeme) : Target → Name
  | .name n => if nextWord? start = some n then n else []
  | _ => []

/-- Reads `yield` with or without a value. -/
def yielded (g : Grammar) (s : Surroundings) : Reader Expr := fun ls =>
  let bare := ls.isEmpty || freshLine ls ||
    [")", "]", "\x7d", ",", ";", ":"].any fun m => nextIsMark ls m
  if bare then .ok (.await (.literal .null), ls)
  else do
    let (e, ls) ← g.assignment s (if nextIsMark ls "*" then ls.tail else ls)
    .ok (.await e, ls)

/-- Reads an expression that is no arrow function, and what is assigned to it. -/
def assignmentRest (g : Grammar) (s : Surroundings) : Reader Expr := fun start => do
  let (e, ls) ← conditionalRule g s start
  if nextIsMark ls "=" then do
    let t ← e.target?
    let (v, ls) ← g.assignment s ls.tail
    .ok (.assign t (v.named (t.functionName start)), ls)
  else
    match updateOperators.find? fun o => nextIsMark ls o.1 with
    | some (_, op) => do
      let t ← e.target?
      let (v, ls) ← g.assignment s ls.tail
      .ok (.update op t v, ls)
    | none => .ok (e, ls)

def assignmentRule (g : Grammar) (s : Surroundings) : Reader Expr := fun ls =>
  if s.yields && nextIsWord ls "yield" then yielded g s ls.tail
  else
    match arrowFunction? g s ls with
    | some read => read.map fun (f, rest) => (.function f, rest)
    | none => assignmentRest g s ls

end ScriptHost.Script
