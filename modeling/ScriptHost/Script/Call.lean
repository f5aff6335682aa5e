import ScriptHost.Script.Builtin.Pattern

/-!
# Calls

What a call and a construction do, by what is called.
-/

namespace ScriptHost.Script

variable (ev : Evaluator)

/-- Calls a function that every realm has. -/
def callBuiltin (b : Builtin) (receiver : Val) (vs : List Val) : Action Val :=
  let a := argument vs 0
  match b with
  | .object =>
    match a with
    | .undefined => newObject .plain Place.objectPrototype []
    | .null => newObject .plain Place.objectPrototype []
    | v => toObject v
  | .objectKeys => objectKeys a
  | .objectIs => pure (.bool (a.sameValue (argument vs 1)))
  | .objectFreeze => objectFreeze a
  | .objectDefineProperty => objectDefineProperty ev a (argument vs 1) (argument vs 2)
  | .objectGetPrototypeOf => prototypeValue a (raiseError .type (text "not an object"))
  | .objectCreate => objectCreate a
  | .objectToString => objectToString ev receiver
  | .objectValueOf => toObject receiver
  | .objectHasOwnProperty => objectHasOwnProperty ev receiver a
  | .prototypeGetter => prototypeValue receiver raiseNoObject
  | .prototypeSetter => assignPrototype receiver a
  | .functionPrototype => pure .undefined
  | .functionCall => ev.call receiver a vs.tail
  | .functionApply => do
    let list ← listValues ev (argument vs 1)
    ev.call receiver a list
  | .functionBind => bindFunction ev receiver vs
  | .functionToString => functionToString ev receiver
  | .error t => errorOf ev t a (argument vs 1)
  | .errorToString => errorToString ev receiver
  | .array => arrayOf vs
  | .arrayIsArray => Action.read fun h => .bool (
      match a with
      | .object r => (h.object r).isArray
      | _ => false)
  | .arrayJoin => arrayJoin ev receiver a
  | .arrayPush => arrayPush ev receiver vs
  | .arrayToString => arrayToString ev receiver
  | .string =>
    match vs with
    | [] => pure (.string [])
    | .symbol id :: _ => symbolToString (.symbol id)
    | v :: _ => do
      let s ← toUnits ev v
      pure (.string s)
  | .stringFromCharCode => stringFromCharCode ev vs
  | .stringToUpperCase => do
    let s ← receiverUnits ev receiver
    pure (.string (upperUnits s))
  | .stringRepeat => stringRepeat ev receiver a
  | .stringReplace => stringReplace ev receiver a (argument vs 1)
  | .stringValue => stringReceiver receiver
  | .patternExec => do
    let s ← toUnits ev a
    patternExec ev receiver s
  | .patternReplace => patternReplace ev receiver a (argument vs 1)
  | .patternFlags => patternFlags ev receiver
  | .patternFlag flag => patternFlag receiver flag
  | .number => if vs.isEmpty then pure (.int 0) else toNumeric ev a
  | .numberValue => numberReceiver receiver
  | .numberToString => numberToString ev receiver a
  | .boolean => pure (.bool a.truthy)
  | .booleanValue => booleanReceiver receiver
  | .booleanToString => do
    let v ← booleanReceiver receiver
    pure (.string (v.text?.getD []))
  | .mathHypot => mathHypot ev vs
  | .mathMax => mathExtreme ev true vs
  | .mathMin => mathExtreme ev false vs
  | .symbol => newSymbol ev a
  | .symbolValue => symbolReceiver receiver
  | .symbolToString => do
    let v ← symbolReceiver receiver
    symbolToString v
  | .symbolDescription => do
    let v ← symbolReceiver receiver
    let d ← symbolDescription v
    pure ((d.map Val.string).getD .undefined)
  | .forbidden => raiseError .type (text "invalid property access")
  | .unsupported _ => raiseUnsupported

/-! ## The stack

Every call takes something from what is left of the stack. -/

/-- How much of the stack a call takes. -/
def Callable.weight : Callable → Nat
  | .closure _ _ _ => 35
  | .builtin _ => 6
  | .native _ => 40
  | .bound _ _ _ _ => 6

/-- The line of a stack trace for a call of a function. -/
def frameLine (name : Units) (place : String) : Units :=
  text "    at " ++ (if name.isEmpty then text "<anonymous>" else name) ++
    text (" (" ++ place ++ ")\n")

/-- The name that a stack trace shows for a function. -/
def Object.shownName (o : Object) : Units :=
  match o.own? (key "name") with
  | some ⟨.data (.string n) _, _, _⟩ => n
  | _ => []

/-- What a stack trace shows for a call of a value. -/
def Heap.frames (h : Heap) (f : Val) : List Units :=
  match f with
  | .object r =>
    let o := h.object r
    match o.callable? with
    | some (.closure _ _ _) => [frameLine o.shownName "eval_script"]
    | some (.builtin _) => [frameLine o.shownName "native"]
    | some (.native _) => [frameLine o.shownName "native"]
    | _ => []
  | _ => []

/-- How much of the stack a call of a value takes. -/
def Heap.callWeight (h : Heap) (f : Val) : Nat := ((h.callable? f).map Callable.weight).getD 1

/-- The stack inside a call of a value, if there is room for it. -/
def Heap.stackIn? (h : Heap) (s : Stack) (f : Val) : Option Stack :=
  if s.room < h.callWeight f then none
  else some ⟨s.room - h.callWeight f, h.frames f ++ s.frames⟩

/-! ## Calling and constructing -/

/-- Calls a value. -/
def callRule (f receiver : Val) (vs : List Val) : Action Val := do
  let target ← Action.read fun h => h.callable? f
  match target with
  | none => raiseError .type (text "not a function")
  | some (.closure lambda scope outer) =>
    framed ev.stack (
      match lambda.style with
      | .classBody => raiseError .type (text "class constructors must be invoked with 'new'")
      | .arrow => callClosure ev f lambda scope outer vs
      | _ => callClosure ev f lambda scope receiver vs)
  | some (.builtin b) => framed ev.stack (callBuiltin ev b receiver vs)
  | some (.native k) => callNative ev k vs
  | some (.bound target outer bound _) => ev.call (.object target) outer (bound ++ vs)

def boxedOf (make : Action Val) : Action Val := do
  let v ← make
  toObject v

/-- Throws the error of a value that constructs nothing. -/
def raiseNoConstructor {α : Type} (f : Val) : Action α :=
  raiseError .type (text (
    match f with
    | .object _ => "not a constructor"
    | _ => "not a function"))

/-- Constructs with a function that every realm has. -/
def constructBuiltin (f : Val) (b : Builtin) (vs : List Val) : Action Val :=
  match b with
  | .object => callBuiltin ev .object .undefined vs
  | .error t => errorOf ev t (argument vs 0) (argument vs 1)
  | .array => arrayOf vs
  | .string => boxedOf do
      let s ← if vs.isEmpty then pure [] else toUnits ev (argument vs 0)
      pure (.string s)
  | .number => boxedOf (callBuiltin ev .number .undefined vs)
  | .boolean => boxedOf (callBuiltin ev .boolean .undefined vs)
  | .unsupported true => raiseUnsupported
  | _ => raiseNoConstructor f

/-- Constructs with a value. -/
def constructRule (f : Val) (vs : List Val) : Action Val := do
  let target ← Action.read fun h => h.callable? f
  match target with
  | some (.closure lambda scope _) =>
    if lambda.constructs then framed ev.stack (constructClosure ev f lambda scope vs)
    else raiseNoConstructor f
  | some (.builtin b) => framed ev.stack (constructBuiltin ev f b vs)
  | some (.bound target _ bound constructs) =>
    if constructs then ev.construct (.object target) (bound ++ vs) else raiseNoConstructor f
  | _ => raiseNoConstructor f

end ScriptHost.Script
