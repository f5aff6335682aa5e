import ScriptHost.Script.Token

/-!
# Reading programs: words, marks and contexts

A reader takes the tokens that are left and gives a piece of the tree together
with the tokens after it, unless the tokens do not spell one or nest too deep.  The
readers for expressions and statements need each other; what they may call is
handed to them as a `Grammar`, and `Grammar.ofFuel` closes the circle.
-/

namespace ScriptHost.Script

/-- Why a source cannot be read. -/
inductive Rejection where
  /-- It spells no program. -/
  | unexpected
  /-- Its parts are nested too deep. -/
  | tooDeep
  deriving DecidableEq

/-- A reader of a piece of a program. -/
abbrev Reader (α : Type) := List Lexeme → Except Rejection (α × List Lexeme)

/-- There is no program here. -/
def unexpected {α : Type} : Except Rejection α := .error .unexpected

/-- What surrounds the code that is read. -/
structure Surroundings where
  /-- More than the number of tokens of the source, so that no loop over tokens takes
  so many rounds. -/
  rounds : Nat
  /-- How much deeper the code may nest. -/
  room : Nat
  inFunction : Bool := false
  /-- Values can be waited for. -/
  awaits : Bool := false
  /-- Values can be yielded. -/
  yields : Bool := false
  inLoop : Bool := false
  /-- The labels in scope, and whether each stands on a loop. -/
  labels : List (Name × Bool) := []

/-- The readers that call each other. -/
structure Grammar where
  assignment : Surroundings → Reader Expr
  unary : Surroundings → Reader Expr
  statement : Surroundings → Bool → Reader Stmt

/-! ## Depth

Reading takes its room from the same stack as running: a program takes some of it, every
reader that is called takes some, and what holds other code takes more. -/

/-- What reading a program takes. -/
def programWeight : Nat := 40

/-- What every reader takes that calls others. -/
def readerWeight : Nat := 3

def blockWeight : Nat := 3

def branchWeight : Nat := 12

def bracketWeight : Nat := 17

def bodyWeight : Nat := 27

/-- Reads something that lies deeper by `depth`. -/
def Surroundings.within {α : Type} (s : Surroundings) (depth : Nat)
    (read : Surroundings → Reader α) : Reader α := fun ls =>
  if s.room < depth then .error .tooDeep else read { s with room := s.room - depth } ls

/-! ## Words -/

/-- Words that never name anything. -/
def reservedWords : List Name :=
  ["break", "case", "catch", "class", "const", "continue", "debugger", "default", "delete", "do",
    "else", "enum", "export", "extends", "false", "finally", "for", "function", "if", "import",
    "in", "instanceof", "new", "null", "return", "super", "switch", "this", "throw", "true", "try",
    "typeof", "var", "void", "while", "with", "implements", "interface", "let", "package",
    "private", "protected", "public", "static", "yield"].map text

/-- Names that cannot be declared or assigned to. -/
def protectedNames : List Name := ["eval", "arguments"].map text

/-- Whether a word can be used as a name here. -/
def isReference (s : Surroundings) (n : Name) : Bool :=
  !reservedWords.contains n && !(s.awaits && n == text "await")

/-- Whether a word can be declared here. -/
def isBindable (s : Surroundings) (n : Name) : Bool :=
  isReference s n && !protectedNames.contains n

namespace Lexeme

/-- Whether a token is this word, written letter by letter. -/
def isWord (l : Lexeme) (w : String) : Bool :=
  match l.token with
  | .word n escaped => !escaped && n == text w
  | _ => false

def isMark (l : Lexeme) (m : String) : Bool :=
  match l.token with
  | .mark t => t == m
  | _ => false

end Lexeme

/-- Whether the next token is this mark. -/
def nextIsMark (ls : List Lexeme) (m : String) : Bool := ls.head?.any fun l => l.isMark m

/-- Whether the next token is this word. -/
def nextIsWord (ls : List Lexeme) (w : String) : Bool := ls.head?.any fun l => l.isWord w

/-- Whether a line ends in front of the next token. -/
def freshLine (ls : List Lexeme) : Bool := ls.head?.any fun l => l.freshLine

/-- The word that comes next. -/
def nextWord? (ls : List Lexeme) : Option Name :=
  match ls.head?.map Lexeme.token with
  | some (.word n _) => some n
  | _ => none

/-- Reads one mark. -/
def expectMark (m : String) (ls : List Lexeme) : Except Rejection (List Lexeme) :=
  if nextIsMark ls m then .ok ls.tail else unexpected

/-- Reads one word. -/
def expectWord (w : String) (ls : List Lexeme) : Except Rejection (List Lexeme) :=
  if nextIsWord ls w then .ok ls.tail else unexpected

/-- Reads a name that is declared. -/
def binding (s : Surroundings) : Reader Name := fun ls =>
  match nextWord? ls with
  | some n => if isBindable s n then .ok (n, ls.tail) else unexpected
  | none => unexpected

/-- Reads the end of a statement: a semicolon, or a place where one may be left
out. -/
def endOfStatement (ls : List Lexeme) : Except Rejection (List Lexeme) :=
  if nextIsMark ls ";" then .ok ls.tail
  else if ls.isEmpty || nextIsMark ls "\x7d" || freshLine ls then .ok ls
  else unexpected

/-- The source from the first token of a list to the last one in front of another
list that ends it. -/
def sourceBetween (ls rest : List Lexeme) : Units :=
  match ls.head?, (ls.take (ls.length - rest.length)).getLast? with
  | some first, some last =>
    text (String.ofList (first.source.take (first.source.length - last.after.length)))
  | _, _ => []

/-! ## Declarations that clash -/

def hasRepeats : List Name → Bool
  | [] => false
  | n :: rest => rest.contains n || hasRepeats rest

/-- A block declares every lexical name once, and not as `var` too.  Functions
count as lexical inside blocks. -/
def blockIsSound (body : List Stmt) : Bool :=
  let lexical := (lexicalNames body).map (·.1) ++ (functionsOf body).map (·.name)
  !hasRepeats lexical && !(varNamesOf body).any lexical.contains

/-- In the body of a function, functions and parameters count as `var`. -/
def bodyIsSound (parameters : List Name) (body : List Stmt) : Bool :=
  let lexical := (lexicalNames body).map (·.1)
  let vars := varNamesOf body ++ (functionsOf body).map (·.name) ++ parameters
  !hasRepeats lexical && !vars.any lexical.contains

/-- Whether a statement declares a lexical name that is among some names or among
the functions in front of it. -/
private def coversFunction : List Name → List Stmt → Bool
  | _, [] => false
  | functions, s :: rest =>
    ((lexicalNames [s]).any fun n => functions.contains n.1) ||
      coversFunction (functions ++ (functionsOf [s]).map (·.name)) rest

/-- In a script, a function may follow a lexical name of the same spelling, which
keeps it out of sight, but not the other way round; and `undefined` is no lexical
name. -/
def scriptIsSound (body : List Stmt) : Bool :=
  let lexical := (lexicalNames body).map (·.1)
  !hasRepeats lexical && !(varNamesOf body).any lexical.contains && !coversFunction [] body &&
    !lexical.contains (text "undefined")

/-! ## Repetition -/

/-- Reads items until the closing mark, with commas between them; a comma may
stand in front of the closing mark. -/
def listUntil {α : Type} (close : String) (item : Reader α) :
    Nat → List α → Reader (List α)
  | 0, _, _ => unexpected
  | fuel + 1, read, ls =>
    if nextIsMark ls close then .ok (read.reverse, ls.tail)
    else do
      let (x, ls) ← item ls
      if nextIsMark ls "," then listUntil close item fuel (x :: read) ls.tail
      else do
        let ls ← expectMark close ls
        .ok ((x :: read).reverse, ls)

/-- Reads the elements of an array up to the closing bracket.  A comma with no
element in front of it leaves one out. -/
def elementsUntil (item : Reader Expr) : Nat → List (Option Expr) → Reader (List (Option Expr))
  | 0, _, _ => unexpected
  | fuel + 1, read, ls =>
    if nextIsMark ls "]" then .ok (read.reverse, ls.tail)
    else if nextIsMark ls "," then elementsUntil item fuel (none :: read) ls.tail
    else do
      let (x, ls) ← item ls
      if nextIsMark ls "," then elementsUntil item fuel (some x :: read) ls.tail
      else do
        let ls ← expectMark "]" ls
        .ok ((some x :: read).reverse, ls)

end ScriptHost.Script
