import ScriptHost.Realm.NativeKey
import ScriptHost.Script.Program
import ScriptHost.Value.Basic

/-!
# Script values and the heap

A script value is a primitive or a reference to an object.  Numbers have two
representations that scripts cannot tell apart and a host can: small integers
and doubles.  Objects and the scopes of running code live in a heap; both are
known by the order in which they were made, and nothing is ever removed, so a
reference stays valid for good.
-/

namespace ScriptHost.Script

/-- A scope, by the order of creation. -/
abbrev ScopeRef := Nat

inductive Val where
  | undefined
  | null
  | bool (b : Bool)
  | int (n : Int32)
  | float (x : Double)
  | string (s : Units)
  | symbol (id : Nat)
  | bigint (n : Int)
  | object (ref : ObjectRef)
  deriving DecidableEq, Inhabited

/-- The name of a property. -/
inductive Key where
  | name (s : Units)
  | symbol (id : Nat)
  deriving DecidableEq

/-- A property by a plain name. -/
def key (s : String) : Key := .name (text s)

/-- What a property holds. -/
inductive Slot where
  | data (value : Val) (writable : Bool)
  /-- Functions that are called instead; undefined where there is none. -/
  | accessor (getter setter : Val)
  deriving DecidableEq

structure Property where
  slot : Slot
  enumerable : Bool
  configurable : Bool
  deriving DecidableEq

/-- A property that a plain assignment makes. -/
def Property.plain (v : Val) : Property := ⟨.data v true, true, true⟩

/-- A property that is not listed and can be changed. -/
def Property.hidden (v : Val) : Property := ⟨.data v true, false, true⟩

/-- A property that is not listed and can only be redefined. -/
def Property.readOnly (v : Val) : Property := ⟨.data v false, false, true⟩

/-- A property that is not listed and stays as it is. -/
def Property.fixed (v : Val) : Property := ⟨.data v false, false, false⟩

/-- The property that a plain assignment makes, with nothing but its value. -/
def Property.plain? : Property → Option Val
  | ⟨.data v true, true, true⟩ => some v
  | _ => none

/-- The constructors of error objects. -/
inductive ErrorType where
  | error
  | type
  | range
  | reference
  | parse
  | eval
  | uri
  | internal
  deriving DecidableEq

def ErrorType.all : List ErrorType :=
  [.error, .type, .range, .reference, .parse, .eval, .uri, .internal]

/-- The name of an error constructor, which its instances inherit. -/
def ErrorType.name : ErrorType → String
  | .error => "Error"
  | .type => "TypeError"
  | .range => "RangeError"
  | .reference => "ReferenceError"
  | .parse => "SyntaxError"
  | .eval => "EvalError"
  | .uri => "URIError"
  | .internal => "InternalError"

/-- The flags of a pattern and the properties that tell of them, in the order in which they
are written. -/
def patternFlagNames : List (Char × String) :=
  [('d', "hasIndices"), ('g', "global"), ('i', "ignoreCase"), ('m', "multiline"),
    ('s', "dotAll"), ('u', "unicode"), ('v', "unicodeSets"), ('y', "sticky")]

/-- The functions that every realm has. -/
inductive Builtin where
  | object
  | objectKeys
  | objectIs
  | objectFreeze
  | objectDefineProperty
  | objectGetPrototypeOf
  | objectCreate
  | objectToString
  | objectValueOf
  | objectHasOwnProperty
  | prototypeGetter
  | prototypeSetter
  | functionPrototype
  | functionCall
  | functionApply
  | functionBind
  | functionToString
  | error (t : ErrorType)
  | errorToString
  | array
  | arrayIsArray
  | arrayJoin
  | arrayPush
  | arrayToString
  | string
  | stringFromCharCode
  | stringToUpperCase
  | stringRepeat
  | stringReplace
  | stringValue
  | patternExec
  | patternReplace
  | patternFlags
  /-- Tells whether a pattern has a flag. -/
  | patternFlag (flag : Char)
  | number
  | numberValue
  | boolean
  | booleanValue
  | numberToString
  | booleanToString
  | mathHypot
  | mathMax
  | mathMin
  | symbol
  | symbolToString
  | symbolValue
  | symbolDescription
  /-- Refuses every access to the property that it guards. -/
  | forbidden
  /-- Is there by name only: calling it is an error. -/
  | unsupported (constructs : Bool)
  deriving DecidableEq

/-- The functions that count as ones that `new` calls, `Symbol` among them,
which then refuses. -/
def Builtin.constructs : Builtin → Bool
  | .object => true
  | .error _ => true
  | .array => true
  | .string => true
  | .number => true
  | .boolean => true
  | .symbol => true
  | .unsupported constructs => constructs
  | _ => false

/-- What happens when a function object is called. -/
inductive Callable where
  /-- A function of a program, with the scope it was made in and, for an arrow,
  the receiver of its surroundings. -/
  | closure (f : Lambda) (scope : ScopeRef) (receiver : Val)
  | builtin (b : Builtin)
  /-- A host function. -/
  | native (key : NativeKey)
  /-- Another function with its receiver and first arguments fixed. -/
  | bound (target : ObjectRef) (receiver : Val) (arguments : List Val) (constructs : Bool)

/-- Whether a function counts as one that `new` calls. -/
def Callable.constructs : Callable → Bool
  | .closure f _ _ => f.constructs
  | .builtin b => b.constructs
  | .native _ => false
  | .bound _ _ _ constructs => constructs

inductive ObjectKind where
  | plain
  | array
  /-- Holds the arguments of a call. -/
  | arguments
  | error
  | promise
  | function (c : Callable)
  /-- A primitive value wrapped in an object. -/
  | boxed (v : Val)
  | pattern (l : Pattern.Literal)

/-- An object.  Properties that a plain assignment makes under the keys 0, 1, …
one after the other are kept as a row; every other property stands in a list. -/
structure Object where
  kind : ObjectKind
  prototype : Option ObjectRef
  extensible : Bool
  /-- The plain properties under the keys 0, 1, … -/
  elements : Array Val
  /-- The other properties, the newest first. -/
  properties : List (Key × Property)

/-- A new object with properties in the order of their creation. -/
def Object.make (kind : ObjectKind) (prototype : Option ObjectRef)
    (properties : List (Key × Property)) : Object :=
  ⟨kind, prototype, true, #[], properties.reverse⟩

/-- An object without properties. -/
def Object.ofKind (kind : ObjectKind) (prototype : Option ObjectRef) : Object :=
  .make kind prototype []

instance : Inhabited Object := ⟨.ofKind .plain none⟩

/-- A declared name: its value once it has one, and whether it can be assigned to. -/
structure Binding where
  value : Option Val
  mutable : Bool

structure Scope where
  bindings : List (Name × Binding)
  parent : Option ScopeRef
  deriving Inhabited

structure Heap where
  objects : Array Object
  scopes : Array Scope
  /-- The descriptions of the symbols made. -/
  symbols : Array (Option Units)
  /-- The limit of the memory that was asked for, in bytes. -/
  memory : Option Nat
  deriving Inhabited

/-! ## Properties of an object -/

/-- The value of a key in an association list. -/
def findKey? (k : Key) : List (Key × Property) → Option Property
  | [] => none
  | (k', p) :: rest => if k' = k then some p else findKey? k rest

/-- Replaces the property of a key where it stands. -/
def replaceKey (k : Key) (p : Property) : List (Key × Property) → List (Key × Property)
  | [] => []
  | (k', p') :: rest => if k' = k then (k, p) :: rest else (k', p') :: replaceKey k p rest

/-- Replaces the property of a key where it stands, or adds it as the newest. -/
def putKey (k : Key) (p : Property) (ps : List (Key × Property)) : List (Key × Property) :=
  if (findKey? k ps).isSome then replaceKey k p ps else (k, p) :: ps

/-- The position that a key sorts by among the integer keys. -/
def Key.index? : Key → Option Nat
  | .name s => s.arrayIndex?
  | .symbol _ => none

/-- The key of an index. -/
def indexKey (n : Nat) : Key := .name (text n.repr)

namespace Object

/-- The value that the row holds under a key. -/
def element? (o : Object) (k : Key) : Option Val := k.index?.bind fun i => o.elements[i]?

def own? (o : Object) (k : Key) : Option Property :=
  match o.element? k with
  | some v => some (.plain v)
  | none => findKey? k o.properties

/-- Moves the row into the list. -/
def spread (o : Object) : Object :=
  { o with
    elements := #[]
    properties :=
      (o.elements.toList.zipIdx.map fun (v, i) => (indexKey i, Property.plain v)).reverse ++
        o.properties }

/-- Adds or replaces a property. -/
def put (o : Object) (k : Key) (p : Property) : Object :=
  match k.index? with
  | none => { o with properties := putKey k p o.properties }
  | some i =>
    if i < o.elements.size then
      match p.plain? with
      | some v => { o with elements := o.elements.setIfInBounds i v }
      | none =>
        let o := o.spread
        { o with properties := putKey k p o.properties }
    else if i = o.elements.size && p.plain?.isSome && (findKey? k o.properties).isNone then
      { o with elements := o.elements.push (p.plain?.getD .undefined) }
    else { o with properties := putKey k p o.properties }

/-- Removes a property. -/
def erase (o : Object) (k : Key) : Object :=
  if (o.element? k).isSome then
    if k.index? = some (o.elements.size - 1) then { o with elements := o.elements.pop }
    else
      let o := o.spread
      { o with properties := o.properties.filter fun e => e.1 != k }
  else { o with properties := o.properties.filter fun e => e.1 != k }

/-- Changes every property. -/
def mapProperties (f : Property → Property) (o : Object) : Object :=
  let o := o.spread
  { o with properties := o.properties.map fun e => (e.1, f e.2) }

def callable? (o : Object) : Option Callable :=
  match o.kind with
  | .function c => some c
  | _ => none

def isError (o : Object) : Bool :=
  match o.kind with
  | .error => true
  | _ => false

def isArray (o : Object) : Bool :=
  match o.kind with
  | .array => true
  | _ => false

/-- The properties that have names: integers in ascending order, then the others
as they were made. -/
def named (o : Object) : List (Units × Property) :=
  let made := o.properties.reverse
  let row := o.elements.toList.zipIdx.map fun (v, i) => (text i.repr, Property.plain v)
  let integers := made.filterMap fun e =>
    match e.1 with
    | .name s => s.arrayIndex?.map fun n => (n, s, e.2)
    | .symbol _ => none
  let others := made.filterMap fun e =>
    match e.1 with
    | .name s => if s.arrayIndex?.isNone then some (s, e.2) else none
    | .symbol _ => none
  row ++ (integers.mergeSort fun a b => decide (a.1 ≤ b.1)).map (·.2) ++ others

/-- The names of the properties. -/
def names (o : Object) : List Units := o.named.map (·.1)

/-- The names that are listed. -/
def listedNames (o : Object) : List Units :=
  (o.named.filter fun e => e.2.enumerable).map (·.1)

end Object

/-! ## The heap -/

namespace Heap

def object (h : Heap) (r : ObjectRef) : Object := h.objects.getD r default

def setObject (h : Heap) (r : ObjectRef) (o : Object) : Heap :=
  { h with objects := h.objects.setIfInBounds r o }

/-- Changes one object. -/
def modify (h : Heap) (r : ObjectRef) (f : Object → Object) : Heap :=
  { h with objects := h.objects.modify r f }

/-- A new object. -/
def allocate (h : Heap) (o : Object) : ObjectRef × Heap :=
  (h.objects.size, { h with objects := h.objects.push o })

def scope (h : Heap) (r : ScopeRef) : Scope := h.scopes.getD r default

def modifyScope (h : Heap) (r : ScopeRef) (f : Scope → Scope) : Heap :=
  { h with scopes := h.scopes.modify r f }

/-- A new scope. -/
def allocateScope (h : Heap) (s : Scope) : ScopeRef × Heap :=
  (h.scopes.size, { h with scopes := h.scopes.push s })

/-- A new symbol. -/
def allocateSymbol (h : Heap) (description : Option Units) : Nat × Heap :=
  (h.symbols.size, { h with symbols := h.symbols.push description })

/-- The description of a symbol. -/
def description? (h : Heap) (id : Nat) : Option Units := (h.symbols[id]?).join

/-- The property of a key along the prototypes of an object, and its owner.
There are no more prototypes than objects. -/
def findProperty? (h : Heap) (r : ObjectRef) (k : Key) : Option (ObjectRef × Property) :=
  go h.objects.size r
where
  go : Nat → ObjectRef → Option (ObjectRef × Property)
    | 0, _ => none
    | fuel + 1, r =>
      let o := h.object r
      match o.own? k with
      | some p => some (r, p)
      | none =>
        match o.prototype with
        | some r => go fuel r
        | none => none

/-- Whether `p` is among the prototypes of `r`. -/
def inherits (h : Heap) (r p : ObjectRef) : Bool := go h.objects.size r
where
  go : Nat → ObjectRef → Bool
    | 0, _ => false
    | fuel + 1, r =>
      match (h.object r).prototype with
      | some q => q == p || go fuel q
      | none => false

/-- The function that a value is. -/
def callable? (h : Heap) : Val → Option Callable
  | .object r => (h.object r).callable?
  | _ => none

/-- Whether a value can be called. -/
def isCallable (h : Heap) (v : Val) : Bool := (h.callable? v).isSome

end Heap

/-! ## Scopes -/

namespace Scope

def find? (s : Scope) (n : Name) : Option Binding :=
  (s.bindings.find? fun b => b.1 == n).map (·.2)

/-- Declares a name, or declares it anew. -/
def declare (s : Scope) (n : Name) (b : Binding) : Scope :=
  { s with bindings := (n, b) :: s.bindings.filter fun e => e.1 != n }

/-- Gives a declared name a value. -/
def assign (s : Scope) (n : Name) (v : Val) : Scope :=
  { s with bindings := s.bindings.map fun e =>
      if e.1 == n then (n, { e.2 with value := some v }) else e }

end Scope

/-- The innermost scope that declares a name.  A scope is older than the scopes
inside it. -/
def Heap.resolve? (h : Heap) (r : ScopeRef) (n : Name) : Option (ScopeRef × Binding) :=
  go (r + 1) r
where
  go : Nat → ScopeRef → Option (ScopeRef × Binding)
    | 0, _ => none
    | fuel + 1, r =>
      let s := h.scope r
      match s.find? n with
      | some b => some (r, b)
      | none =>
        match s.parent with
        | some r => go fuel r
        | none => none

/-! ## Where the standard objects are

The language itself refers to a few objects; every realm has them in the same
places. -/

namespace Place

def global : ObjectRef := 0
def objectPrototype : ObjectRef := 1
def functionPrototype : ObjectRef := 2
def arrayPrototype : ObjectRef := 3
def stringPrototype : ObjectRef := 4
def numberPrototype : ObjectRef := 5
def booleanPrototype : ObjectRef := 6
def symbolPrototype : ObjectRef := 7
def promisePrototype : ObjectRef := 8
def patternPrototype : ObjectRef := 9

def bigintPrototype : ObjectRef := 10
def iteratorPrototype : ObjectRef := 11

/-- The function that guards what scripts must not see. -/
def forbidden : ObjectRef := 20

def errorPrototype : ErrorType → ObjectRef
  | .error => 12
  | .type => 13
  | .range => 14
  | .reference => 15
  | .parse => 16
  | .eval => 17
  | .uri => 18
  | .internal => 19

/-- The symbol under which an object keeps the word that says what it is. -/
def tagSymbol : Nat := 0

/-- The symbol under which a pattern keeps the function that replaces what it matches. -/
def replaceSymbol : Nat := 1

/-- The scope of the lexical names that the scripts of a realm share. -/
def globalScope : ScopeRef := 0

end Place

end ScriptHost.Script
