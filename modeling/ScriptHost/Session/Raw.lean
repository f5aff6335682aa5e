import ScriptHost.Boundary.Crossing
import ScriptHost.Script.Builtin.Object

/-!
# Script values from the inside

A raw value is a script value as the realm has it, before it crosses over.  It
can be described by what it is to be, and it can be shown: its type, the name
and the length of a function, and the listed properties of an object down to a
fixed depth.
-/

namespace ScriptHost.Session

open Script (Val Heap Evaluator Object Lambda)

/-- The functions that can be made raw. -/
inductive RawFunction where
  | plain
  | anonymous
  | arrow
  | classBody
  | async
  | generator
  | bound
  | builtin
  | constructor
  | proxy
  | method
  deriving DecidableEq

/-- The objects that can be made raw. -/
inductive RawObject where
  | array
  | plain
  | error
  | boxed
  | boxedString
  | promise
  | bytes
  /-- An object of another class that lists no property. -/
  | other
  | global
  deriving DecidableEq

/-- A script value to make. -/
inductive RawSpec where
  | null
  | undefined
  | bool (b : Bool)
  | int (n : Int)
  | float (x : Double)
  | string (s : Units)
  | bigint (n : Int)
  | symbol
  | function (f : RawFunction)
  | object (o : RawObject)

/-! ## Making raw values -/

private def names (ns : List String) : List Script.Name := ns.map Script.text

/-- The scope that raw functions are made in. -/
private def rawEnv : Script.Env :=
  { scope := Script.Place.globalScope, receiver := .object Script.Place.global }

private def makeLambda (name : String) (style : Script.FunctionStyle) (q : Script.Suspension)
    (ps : List String) : Script.Action Val :=
  Script.makeFunction rawEnv (Lambda.mk (Script.text name) style q (names ps) false [] [])

/-- Reads a property of a property of the global object. -/
private def globalProperty (ev : Evaluator) (path : List String) : Script.Action Val :=
  path.foldlM (fun v name => Script.getProperty ev v (Script.key name))
    (.object Script.Place.global)

private def RawFunction.make (ev : Evaluator) : RawFunction → Script.Action Val
  | .plain => makeLambda "plain" .ordinary .none ["a", "b"]
  | .anonymous => makeLambda "" .ordinary .none []
  | .arrow => makeLambda "" .arrow .none ["a"]
  | .classBody => do
    let f ← makeLambda "Shape" .classBody .none ["a"]
    pure f
  | .async => makeLambda "later" .ordinary .waits []
  | .generator => makeLambda "items" .ordinary .yields ["a", "b", "c"]
  | .bound => do
    let f ← makeLambda "plain" .ordinary .none ["a", "b"]
    Script.bindFunction ev f [.null, .int 1]
  | .builtin => globalProperty ev ["Math", "max"]
  | .constructor => globalProperty ev ["Array"]
  | .proxy => makeLambda "plain" .ordinary .none ["a"]
  | .method => makeLambda "method" .method .none ["a"]

private def plainObject (properties : List (Script.Key × Script.Property)) : Script.Action Val :=
  Script.newObject .plain Script.Place.objectPrototype properties

private def RawObject.make : RawObject → Script.Action Val
  | .array => Script.newArray [.int 1]
  | .plain =>
    plainObject [(Script.key "a", .plain (.int 1)), (Script.key "length", .plain (.int 2))]
  | .error => Script.newError .error none none
  | .boxed => Script.toObject (.int 1)
  | .boxedString => Script.toObject (.string (Script.text "text"))
  | .promise => Script.newObject .promise Script.Place.promisePrototype []
  | .bytes => plainObject ((List.range 4).map fun i => (Script.indexKey i, .plain (.int 0)))
  | .other => plainObject []
  | .global => pure (.object Script.Place.global)

/-- Makes a script value. -/
def RawSpec.make (ev : Evaluator) : RawSpec → Script.Action Val
  | .null => pure .null
  | .undefined => pure .undefined
  | .bool b => pure (.bool b)
  | .int n => pure (.int (Int32.ofInt n))
  | .float x => pure (.float x)
  | .string s => pure (.string s)
  | .bigint n => pure (.bigint n)
  | .symbol => Script.Action.update fun h =>
      let (id, h) := h.allocateSymbol none
      (.symbol id, h)
  | .function f => f.make ev
  | .object o => o.make

/-! ## Showing raw values -/

/-- What a script value is to its realm. -/
inductive RawView where
  | int (n : Int)
  | float (x : Double)
  | bool (b : Bool)
  | string (s : String)
  /-- A string that is not well formed. -/
  | unpaired
  | function (name : String) (length : Int)
  | object (properties : List (String × RawView))
  /-- A value of which only the type is shown. -/
  | bare (type : String)

private def ownText (o : Object) (name : String) : String :=
  match o.own? (Script.key name) with
  | some ⟨.data (.string s) _, _, _⟩ => String.ofList s.decodeLossy
  | _ => ""

/-- A number cut to an integer of thirty-two bits. -/
private def clamped (x : Double) : Int :=
  if x.isNaN then 0
  else if x.isInfinite then (if x.negative then -2147483648 else 2147483647)
  else Max.max (-2147483648) (Min.min 2147483647 x.truncate)

private def ownInteger (o : Object) (name : String) : Int :=
  match o.own? (Script.key name) with
  | some ⟨.data v _, _, _⟩ => (v.number?.map clamped).getD 0
  | _ => 0

private def ownValue (o : Object) (s : Units) : Val :=
  match o.own? (.name s) with
  | some ⟨.data v _, _, _⟩ => v
  | _ => .undefined

/-- A key as it is shown: up to its first NUL. -/
private def shownKey (s : Units) : String :=
  String.ofList (Units.decodeLossy (s.takeWhile (· != 0)))

/-- How many levels of objects are shown with their properties. -/
def shownLevels : Nat := 5

/-- Shows a value with a number of levels of objects. -/
def viewAt (h : Heap) : Nat → Val → RawView
  | _, .int n => .int n.toInt
  | _, .float x => .float x
  | _, .bool b => .bool b
  | _, .string s =>
    match s.toString? with
    | some t => .string t
    | none => .unpaired
  | n, .object r =>
    let o := h.object r
    if r = Script.Place.global then .bare "global"
    else if o.callable?.isSome then .function (ownText o "name") (ownInteger o "length")
    else
      match conversionTypeName h (.object r), n with
      | "object", n + 1 =>
        .object (o.listedNames.map fun s => (shownKey s, viewAt h n (ownValue o s)))
      | type, _ => .bare type
  | _, v => .bare (conversionTypeName h v)

/-- Shows a value. -/
def view (h : Heap) (v : Val) : RawView := viewAt h shownLevels v

end ScriptHost.Session
