import ScriptHost.Number.Double
import ScriptHost.Script.Pattern

/-!
# Script programs

The tree of a script: expressions, statements and functions.  Names are code
unit strings, the same as property keys, so that a global name and a property of
the global object are one thing.

Scripts are strict throughout; the tree has no place for anything that strict
code cannot say.
-/

namespace ScriptHost.Script

/-- An identifier. -/
abbrev Name := Units

/-- The code units of a text. -/
def text (s : String) : Units := Units.ofString s

/-- A value that is written down. -/
inductive Literal where
  | null
  | bool (b : Bool)
  | int (n : Int32)
  | float (x : Double)
  | bigint (n : Nat)
  | string (s : Units)

inductive UnaryOp where
  | plus
  | minus
  | not
  | typeOf
  | discard
  deriving DecidableEq

inductive BinaryOp where
  | add
  | sub
  | mul
  | div
  | rem
  | less
  | lessEq
  | greater
  | greaterEq
  | identical
  | different
  | equal
  | unequal
  | instanceOf
  | member
  deriving DecidableEq

/-- Operators that may leave their second operand alone. -/
inductive ShortCircuit where
  | and
  | or
  | nullish
  deriving DecidableEq

/-- What makes one function differ from another when it is called. -/
inductive FunctionStyle where
  /-- Has a receiver and can construct. -/
  | ordinary
  /-- Has the receiver of its surroundings. -/
  | arrow
  /-- Has a receiver. -/
  | method
  /-- Can only construct. -/
  | classBody
  deriving DecidableEq

/-- Whether a call runs to its end. -/
inductive Suspension where
  | none
  /-- Answers a promise, and stops at the first value that it waits for. -/
  | waits
  /-- Answers an iterator, whose body starts later. -/
  | yields
  deriving DecidableEq

/-- How a name is declared. -/
inductive Declarator where
  | var
  | «let»
  | const
  deriving DecidableEq

mutual
inductive Expr where
  | literal (l : Literal)
  | pattern (l : Pattern.Literal)
  | this
  /-- A list of elements, some of which may be left out. -/
  | array (items : List (Option Expr))
  | object (members : List Member)
  | function (f : Lambda)
  | unary (op : UnaryOp) (e : Expr)
  /-- Removes a property. -/
  | remove (t : Target)
  /-- Adds `delta` to what the target holds; `old` asks for the value before. -/
  | bump (delta : Int32) (old : Bool) (t : Target)
  | binary (op : BinaryOp) (a b : Expr)
  | shortCircuit (op : ShortCircuit) (a b : Expr)
  | conditional (c a b : Expr)
  | assign (t : Target) (e : Expr)
  | update (op : BinaryOp) (t : Target) (e : Expr)
  | sequence (a b : Expr)
  /-- What the target holds. -/
  | get (t : Target)
  | call (f : Expr) (arguments : List Expr)
  /-- Calls what the target holds on the object that holds it. -/
  | callOn (t : Target) (arguments : List Expr)
  | construct (f : Expr) (arguments : List Expr)
  | await (e : Expr)

/-- A place that can be assigned to. -/
inductive Target where
  | name (n : Name)
  | field (object : Expr) (key : Name)
  | item (object key : Expr)

/-- A member of an object literal. -/
inductive Member where
  | data (key : Expr) (value : Expr)
  /-- Sets the prototype instead of a property. -/
  | prototype (value : Expr)
  | getter (key : Expr) (f : Lambda)
  | setter (key : Expr) (f : Lambda)

/-- A function, with the text that it was read from. -/
inductive Lambda where
  | mk (name : Name) (style : FunctionStyle) (suspension : Suspension) (parameters : List Name)
      (bindsItself : Bool) (body : List Stmt) (source : Units)

inductive Stmt where
  | empty
  | expr (e : Expr)
  | block (body : List Stmt)
  | declare (d : Declarator) (bindings : List (Name × Option Expr))
  | function (f : Lambda)
  | classes (f : Lambda)
  | choose (c : Expr) (a b : Stmt)
  | «while» (c : Expr) (body : Stmt)
  | repeatWhile (body : Stmt) (c : Expr)
  | loop (start : Stmt) (c : Option Expr) (next : Option Expr) (body : Stmt)
  | «return» (e : Option Expr)
  | raise (e : Expr)
  | guarded (body : List Stmt) (handler : Option (Option Name × List Stmt))
      (finalizer : Option (List Stmt))
  | leave (label : Option Name)
  | advance (label : Option Name)
  | labelled (label : Name) (body : Stmt)
end

namespace Lambda

def name : Lambda → Name
  | mk n _ _ _ _ _ _ => n

def style : Lambda → FunctionStyle
  | mk _ s _ _ _ _ _ => s

def suspension : Lambda → Suspension
  | mk _ _ s _ _ _ _ => s

def parameters : Lambda → List Name
  | mk _ _ _ ps _ _ _ => ps

/-- Whether the body sees the function under its own name. -/
def bindsItself : Lambda → Bool
  | mk _ _ _ _ b _ _ => b

def body : Lambda → List Stmt
  | mk _ _ _ _ _ b _ => b

def source : Lambda → Units
  | mk _ _ _ _ _ _ t => t

/-- The function under another name. -/
def rename (n : Name) : Lambda → Lambda
  | mk _ s q ps b body t => mk n s q ps b body t

/-- The function with the text that it was read from. -/
def withSource (t : Units) : Lambda → Lambda
  | mk n s q ps b body _ => mk n s q ps b body t

/-- The functions that can be called by `new`. -/
def constructs (f : Lambda) : Bool :=
  f.suspension == .none && (f.style == .ordinary || f.style == .classBody)

end Lambda

/-- Gives a function without name the name of the place it is stored in. -/
def Expr.named (n : Name) : Expr → Expr
  | .function f => if f.name.isEmpty then .function (f.rename n) else .function f
  | e => e

/-! ## Declarations

A declaration takes effect where its block starts: `var` names of a whole
function body, lexical names and functions of one block. -/

mutual
/-- The names that a statement declares for the function it stands in. -/
def Stmt.varNames : Stmt → List Name
  | .block body => varNamesOf body
  | .declare .var bindings => bindings.map (·.1)
  | .choose _ a b => a.varNames ++ b.varNames
  | .while _ body => body.varNames
  | .repeatWhile body _ => body.varNames
  | .loop start _ _ body => start.varNames ++ body.varNames
  | .guarded body handler finalizer =>
    varNamesOf body ++
      (match handler with
        | some (_, h) => varNamesOf h
        | none => []) ++
      (match finalizer with
        | some f => varNamesOf f
        | none => [])
  | .labelled _ body => body.varNames
  | _ => []

def varNamesOf : List Stmt → List Name
  | [] => []
  | s :: rest => s.varNames ++ varNamesOf rest
end

/-- The lexical names that a statement list declares, and whether each can be
assigned to. -/
def lexicalNames (body : List Stmt) : List (Name × Bool) :=
  body.flatMap fun s =>
    match s with
    | .declare .let bindings => bindings.map fun b => (b.1, true)
    | .declare .const bindings => bindings.map fun b => (b.1, false)
    | .classes f => [(f.name, true)]
    | _ => []

/-- The functions that a statement list declares. -/
def functionsOf (body : List Stmt) : List Lambda :=
  body.filterMap fun s =>
    match s with
    | .function f => some f
    | _ => none

end ScriptHost.Script
