import ScriptHost.Number.Double

/-!
# Host values

A host value is what a script value looks like from outside: null, undefined, a
number, a string, a function, or an object that is only known by what it
exports.  An export is a value, a host callback or a nested namespace, and a
namespace is a list of named exports.

Values are immutable, so sharing one can be told from copying it only by asking
whether two handles hold the same value.  Every value that is made therefore
carries an identity, and handles to one value are copies with the same identity.
Null and undefined are each a single value and need none.

What a host callback is, is left open: `φ` is the type of the names of callbacks.
-/

namespace ScriptHost

/-- The identity of a value that was made. -/
abbrev ValueId := Nat

/-- A realm, by the order of creation. -/
abbrev RealmRef := Nat

/-- An object of a realm, by the order of creation. -/
abbrev ObjectRef := Nat

/-- What the host holds of a function. -/
inductive FunctionRef where
  /-- A function object of a script realm. -/
  | captured (realm : RealmRef) (object : ObjectRef)
  /-- A function of another backend: called without arguments it is busy, else
  it answers how many it got. -/
  | foreign (backend : String)
  deriving DecidableEq, Repr

/-- The backend of the script realms. -/
def scriptBackend : String := "quickjs"

/-- The backend that a function belongs to. -/
def FunctionRef.backend : FunctionRef → String
  | .captured _ _ => scriptBackend
  | .foreign backend => backend

mutual
/-- A host value. -/
inductive Value (φ : Type) where
  | null
  | undefined
  | number (id : ValueId) (x : Double)
  | string (id : ValueId) (s : String)
  | function (id : ValueId) (f : FunctionRef)
  | object (id : ValueId) (exports : Namespace φ)

/-- Named exports in order. -/
inductive Namespace (φ : Type) where
  | empty
  | entry (name : String) (item : Export φ) (rest : Namespace φ)

/-- One thing that a script may see. -/
inductive Export (φ : Type) where
  | value (v : Value φ)
  | callback (f : φ)
  | nested (n : Namespace φ)
end

instance {φ : Type} : Inhabited (Value φ) := ⟨.undefined⟩

instance {φ : Type} : Inhabited (Namespace φ) := ⟨.empty⟩

/-! ## Kinds -/

/-- The kind of a value. -/
inductive ValueType where
  | function
  | null
  | number
  | object
  | string
  | undefined
  deriving DecidableEq, Repr

def ValueType.name : ValueType → String
  | .function => "function"
  | .null => "null"
  | .number => "number"
  | .object => "object"
  | .string => "string"
  | .undefined => "undefined"

/-- The name of a kind in a debug text. -/
def ValueType.debugName : ValueType → String
  | .function => "Function"
  | .null => "Null"
  | .number => "Number"
  | .object => "Object"
  | .string => "String"
  | .undefined => "Undefined"

/-- Every kind once. -/
def ValueType.all : List ValueType := [.function, .null, .number, .object, .string, .undefined]

namespace Value

variable {φ : Type}

def type : Value φ → ValueType
  | .null => .null
  | .undefined => .undefined
  | .number _ _ => .number
  | .string _ _ => .string
  | .function _ _ => .function
  | .object _ _ => .object

/-- The number of a number, and minus one of everything else. -/
def numberValue : Value φ → Double
  | .number _ x => x
  | _ => Double.ofInt (-1)

/-- The text of a string, and nothing of everything else. -/
def string? : Value φ → Option String
  | .string _ s => some s
  | _ => none

/-- The text of a string, and the empty one of everything else. -/
def stringValue (v : Value φ) : String := v.string?.getD ""

def function? : Value φ → Option FunctionRef
  | .function _ f => some f
  | _ => none

def namespace? : Value φ → Option (Namespace φ)
  | .object _ n => some n
  | _ => none

end Value

/-! ## Identities -/

/-- What tells one value from another: the two sentinels, and everything made. -/
inductive Identity where
  | null
  | undefined
  | made (id : ValueId)
  deriving DecidableEq, Repr

/-- The identity of a value. -/
def Value.identity {φ : Type} : Value φ → Identity
  | .null => .null
  | .undefined => .undefined
  | .number id _ => .made id
  | .string id _ => .made id
  | .function id _ => .made id
  | .object id _ => .made id

/-- Whether two handles hold the same value. -/
def Value.same {φ : Type} (a b : Value φ) : Bool := a.identity == b.identity

/-! ## Namespaces as lists -/

namespace Namespace

variable {φ : Type}

/-- The namespace with the given entries. -/
def ofList : List (String × Export φ) → Namespace φ
  | [] => .empty
  | (name, item) :: rest => .entry name item (ofList rest)

def toList : Namespace φ → List (String × Export φ)
  | .empty => []
  | .entry name item rest => (name, item) :: toList rest

@[simp] theorem toList_ofList (entries : List (String × Export φ)) :
    (ofList entries).toList = entries := by
  induction entries with
  | nil => rfl
  | cons e rest ih => cases e; simp [ofList, toList, ih]

def names (n : Namespace φ) : List String := n.toList.map (·.1)

def size (n : Namespace φ) : Nat := n.toList.length

def isEmpty (n : Namespace φ) : Bool := n.toList.isEmpty

/-- The export of a name. -/
def get? (n : Namespace φ) (name : String) : Option (Export φ) :=
  (n.toList.find? fun e => e.1 == name).map (·.2)

end Namespace

end ScriptHost
