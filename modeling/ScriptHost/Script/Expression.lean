import ScriptHost.Script.Call

/-!
# Evaluating expressions

Operands are evaluated from left to right.  A name is looked up in the scopes
around it, then among the properties of the global object.  The left side of an
assignment is looked up before the value is there, and written afterwards.
-/

namespace ScriptHost.Script

variable (ev : Evaluator)

/-! ## Names -/

/-- The value of a name; `missing` decides about names that nobody declared. -/
def readName (env : Env) (n : Name) (missing : Action Val) : Action Val := do
  let found ← Action.read fun h => h.resolve? env.scope n
  match found with
  | some (_, ⟨some v, _⟩) => pure v
  | some (_, ⟨none, _⟩) => raiseAbout .reference "" n " is not initialized"
  | none => do
    let p ← Action.read fun h => h.findProperty? Place.global (.name n)
    match p with
    | some (_, p) => p.slot.value ev (.object Place.global)
    | none => missing

/-- Throws the error about a name that nobody declared. -/
def raiseUndeclared {α : Type} (n : Name) : Action α :=
  raiseAbout .reference "" n " is not defined"

def raiseReadOnly {α : Type} (n : Name) : Action α :=
  raiseAbout .type "'" n "' is read-only"

/-- Looks a name up that is to be assigned to, and answers whether there is such a
name.  A name that a function or a block declares and that cannot be assigned to is
refused at once; whatever the scripts of a realm share is only looked at again when
the value is there. -/
def lookUp (env : Env) (n : Name) : Action Bool := do
  let found ← Action.read fun h => h.resolve? env.scope n
  match found with
  | some (r, b) =>
    if b.mutable || r = Place.globalScope then pure true else raiseReadOnly n
  | none => Action.read fun h => (h.findProperty? Place.global (.name n)).isSome

/-- Assigns to a name that was looked up.  No assignment makes a global name. -/
def writeName (env : Env) (n : Name) (known : Bool) (v : Val) : Action Unit :=
  if !known then raiseUndeclared n
  else do
    let found ← Action.read fun h => h.resolve? env.scope n
    match found with
    | some (_, ⟨none, _⟩) => raiseAbout .reference "" n " is not initialized"
    | some (_, ⟨_, false⟩) => raiseReadOnly n
    | some (r, _) => Action.change fun h => h.modifyScope r fun s => s.assign n v
    | none => setPropertyOr ev (fun _ => raiseUndeclared n) (.object Place.global) (.name n) v

/-! ## Items

The key of an item is a value, which becomes a key only when it is needed. -/

private def isMissing : Val → Bool
  | .undefined => true
  | .null => true
  | _ => false

/-- Reads an item.  The key does not matter to null and undefined, which have none. -/
def getItem (object k : Val) : Action Val :=
  match object with
  | .undefined => raiseError .type (text "cannot read property of undefined")
  | .null => raiseError .type (text "cannot read property of null")
  | object => do
    let k ← toKey ev k
    getProperty ev object k

/-! ## Targets -/

/-- What the target of a call or of a reading holds, and the object that holds it. -/
def readTarget (env : Env) (t : Target) : Action (Val × Val) :=
  match t with
  | .name n => do
    let v ← readName ev env n (raiseUndeclared n)
    pure (v, .undefined)
  | .field o n => do
    let o ← ev.expr env o
    let v ← getProperty ev o (.name n)
    pure (v, o)
  | .item o k => do
    let o ← ev.expr env o
    let k ← ev.expr env k
    let v ← getItem ev o k
    pure (v, o)

/-- Assigns what an expression gives. -/
def assignTarget (env : Env) (t : Target) (e : Expr) : Action Val :=
  match t with
  | .name n => do
    let known ← lookUp env n
    let v ← ev.expr env e
    writeName ev env n known v
    pure v
  | .field o n => do
    let o ← ev.expr env o
    let v ← ev.expr env e
    setProperty ev o (.name n) v
    pure v
  | .item o k => do
    let o ← ev.expr env o
    let k ← ev.expr env k
    let v ← ev.expr env e
    let k ← toKey ev k
    setProperty ev o k v
    pure v

/-- A place that is read and then written, after its parts have been evaluated. -/
inductive Located where
  | name (n : Name) (known : Bool)
  | property (object : Val) (key : Key)

/-- Evaluates the parts of a place that is read and then written. -/
def findPlace (env : Env) (t : Target) : Action Located :=
  match t with
  | .name n => do
    let known ← lookUp env n
    pure (.name n known)
  | .field o n => do
    let o ← ev.expr env o
    pure (.property o (.name n))
  | .item o k => do
    let o ← ev.expr env o
    let k ← ev.expr env k
    if isMissing o then raiseError .type (text "value has no property")
    else do
      let k ← toKey ev k
      pure (.property o k)

def readPlace (env : Env) (p : Located) : Action Val :=
  match p with
  | .name n _ => readName ev env n (raiseUndeclared n)
  | .property o k => getProperty ev o k

def writePlace (env : Env) (p : Located) (v : Val) : Action Unit :=
  match p with
  | .name n known => writeName ev env n known v
  | .property o k => setProperty ev o k v

/-- Removes what a target holds. -/
def removeTarget (env : Env) (t : Target) : Action Bool :=
  match t with
  | .name _ => pure true
  | .field o n => do
    let o ← ev.expr env o
    removeProperty o (.name n)
  | .item o k => do
    let o ← ev.expr env o
    let k ← ev.expr env k
    let k ← toKey ev k
    removeProperty o k

/-! ## Object literals -/

/-- Adds or replaces a listed accessor. -/
def defineAccessor (r : ObjectRef) (k : Key) (getter setter : Option Val) :
    Action Unit :=
  Action.change fun h => h.modify r fun o =>
    let old : Val × Val :=
      match o.own? k with
      | some ⟨.accessor g s, _, _⟩ => (g, s)
      | _ => (.undefined, .undefined)
    o.put k ⟨.accessor (getter.getD old.1) (setter.getD old.2), true, true⟩

/-- The name that a key gives to a function. -/
def keyFunctionName (k : Key) : Action Name :=
  match k with
  | .name s => pure s
  | .symbol id => Action.read fun h =>
    match h.description? id with
    | some d => text "[" ++ d ++ text "]"
    | none => []

def literalKey (env : Env) (e : Expr) : Action Key := do
  let k ← ev.expr env e
  toKey ev k

/-- Evaluates one member into an object. -/
def addMember (env : Env) (r : ObjectRef) (m : Member) : Action Unit :=
  match m with
  | .data k e => do
    let k ← literalKey ev env k
    let n ← keyFunctionName k
    let v ← ev.expr env (e.named n)
    Action.change fun h => h.modify r fun o => o.put k (.plain v)
  | .prototype e => do
    let v ← ev.expr env e
    let _ ← assignPrototype (.object r) v
    pure ()
  | .getter k f => do
    let k ← literalKey ev env k
    let n ← keyFunctionName k
    let f ← makeFunction env (f.rename (text "get " ++ n))
    defineAccessor r k (some f) none
  | .setter k f => do
    let k ← literalKey ev env k
    let n ← keyFunctionName k
    let f ← makeFunction env (f.rename (text "set " ++ n))
    defineAccessor r k none (some f)

def objectLiteral (env : Env) (ms : List Member) : Action Val := do
  let o ← newObject .plain Place.objectPrototype []
  match o with
  | .object r => do
    let _ ← Action.each (addMember ev env r) ms
    pure o
  | v => pure v

/-! ## Expressions -/

def literalValue : Literal → Val
  | .null => .null
  | .bool b => .bool b
  | .int n => .int n
  | .float x => .float x
  | .bigint n => .bigint n
  | .string s => .string s

/-- Adds to what a place holds. -/
def bumpPlace (env : Env) (delta : Int32) (old : Bool) (t : Target) : Action Val := do
  let p ← findPlace ev env t
  let v ← readPlace ev env p
  let x ← toNumeric ev v
  let y := arithmetic .add x (.int delta)
  writePlace ev env p y
  pure (if old then x else y)

/-- Changes what a place holds by an operator. -/
def updatePlace (env : Env) (op : BinaryOp) (t : Target) (e : Expr) : Action Val := do
  let p ← findPlace ev env t
  let x ← readPlace ev env p
  let y ← ev.expr env e
  let v ← applyBinary ev op x y
  writePlace ev env p v
  pure v

def element (env : Env) (e : Option Expr) : Action (Option Val) :=
  match e with
  | some e => do
    let v ← ev.expr env e
    pure (some v)
  | none => pure none

/-- The value of an expression. -/
def exprRule (env : Env) (e : Expr) : Action Val :=
  match e with
  | .literal l => pure (literalValue l)
  | .pattern l => newPattern l
  | .this => pure env.receiver
  | .array es => do
    let vs ← Action.each (element ev env) es
    newSparseArray vs
  | .object ms => objectLiteral ev env ms
  | .function f => makeFunction env f
  | .unary .typeOf (.get (.name n)) => do
    let v ← readName ev env n (pure .undefined)
    applyUnary ev .typeOf v
  | .unary op e => do
    let v ← ev.expr env e
    applyUnary ev op v
  | .remove t => do
    let done ← removeTarget ev env t
    pure (.bool done)
  | .bump delta old t => bumpPlace ev env delta old t
  | .binary op a b => do
    let x ← ev.expr env a
    let y ← ev.expr env b
    applyBinary ev op x y
  | .shortCircuit op a b => do
    let x ← ev.expr env a
    let done : Bool :=
      match op with
      | .and => !x.truthy
      | .or => x.truthy
      | .nullish => !isMissing x
    if done then pure x else ev.expr env b
  | .conditional c a b => do
    let x ← ev.expr env c
    if x.truthy then ev.expr env a else ev.expr env b
  | .assign t e => assignTarget ev env t e
  | .update op t e => updatePlace ev env op t e
  | .sequence a b => do
    let _ ← ev.expr env a
    ev.expr env b
  | .get t => do
    let r ← readTarget ev env t
    pure r.1
  | .call f es => do
    let f ← ev.expr env f
    let vs ← Action.each (ev.expr env) es
    ev.call f .undefined vs
  | .callOn t es => do
    let (f, receiver) ← readTarget ev env t
    let vs ← Action.each (ev.expr env) es
    ev.call f receiver vs
  | .construct f es => do
    let f ← ev.expr env f
    let vs ← Action.each (ev.expr env) es
    ev.construct f vs
  | .await e => do
    let _ ← ev.expr env e
    Action.suspend

end ScriptHost.Script
