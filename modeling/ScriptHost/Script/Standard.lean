import ScriptHost.Script.Property

/-!
# The heap of an empty realm

Before anything is exported, a realm holds the global object, the prototypes and
the functions that scripts can count on.  Nearly all their properties are
unlisted, so that listing the global object shows little but what was put there.

Of the functions that the language defines, those that scripts of this library
call are there with their work; the others are there by name, since a name that
is taken behaves differently from one that is free.
-/

namespace ScriptHost.Script

namespace Standard

/-- A plain object that inherits from another. -/
def plain (prototype : ObjectRef) : Object := .ofKind .plain (some prototype)

/-- The objects that have fixed places, in the order of their places. -/
def places : List Object :=
  [plain Place.objectPrototype,
    .ofKind .plain none,
    .make (.function (.builtin .functionPrototype)) (some Place.objectPrototype)
      (functionProperties [] 0),
    .make .array (some Place.objectPrototype) [lengthProperty 0],
    .make (.boxed (.string [])) (some Place.objectPrototype)
      [(key "length", .fixed (.int 0))],
    .ofKind (.boxed (.int 0)) (some Place.objectPrototype),
    .ofKind (.boxed (.bool false)) (some Place.objectPrototype),
    plain Place.objectPrototype,
    plain Place.objectPrototype,
    plain Place.objectPrototype,
    plain Place.objectPrototype,
    plain Place.objectPrototype,
    plain Place.objectPrototype] ++
    (ErrorType.all.tail.map fun _ => plain (Place.errorPrototype .error)) ++
    [.make (.function (.builtin .forbidden)) (some Place.functionPrototype)
      [(key "length", .fixed (.int 0)), (key "name", .fixed (.string []))]]

/-- Adds a property to an object. -/
def add (owner : ObjectRef) (k : Key) (p : Property) (h : Heap) : Heap :=
  h.modify owner fun o => o.put k p

/-- A new function object. -/
def function (h : Heap) (name : String) (b : Builtin) (length : Nat) : ObjectRef × Heap :=
  h.allocate (.make (.function (.builtin b)) (some Place.functionPrototype)
    (functionProperties (text name) length))

/-- Adds functions to an object. -/
def addFunctions (owner : ObjectRef) (fs : List (String × Builtin × Nat)) (h : Heap) : Heap :=
  fs.foldl (fun h f =>
    let (r, h) := function h f.1 f.2.1 f.2.2
    add owner (key f.1) (.hidden (.object r)) h) h

/-- Adds a constructor with its prototype and its own functions to the global
object. -/
def addConstructor (name : String) (b : Builtin) (length : Nat) (prototype : ObjectRef)
    (fs : List (String × Builtin × Nat)) (h : Heap) : Heap :=
  let (r, h) := function h name b length
  let h := add r (key "prototype") (.fixed (.object prototype)) h
  let h := add prototype (key "constructor") (.hidden (.object r)) h
  let h := add Place.global (key name) (.hidden (.object r)) h
  addFunctions r fs h

/-- Adds the name and the empty message of an error type. -/
def addError (t : ErrorType) (h : Heap) : Heap :=
  let p := Place.errorPrototype t
  let h := addConstructor t.name (.error t) 1 p [] h
  let h := add p (key "name") (.hidden (.string (text t.name))) h
  add p (key "message") (.hidden (.string [])) h

/-- Adds an accessor without setter. -/
def addGetter (owner : ObjectRef) (name : String) (b : Builtin) (h : Heap) : Heap :=
  let (g, h) := function h ("get " ++ name) b 0
  add owner (key name) ⟨.accessor (.object g) .undefined, false, true⟩ h

/-- Adds the names that would tell more about a call than scripts may know. -/
def addGuards (h : Heap) : Heap :=
  let guard : Val := .object Place.forbidden
  ["caller", "arguments"].foldl (fun h name =>
    add Place.functionPrototype (key name) ⟨.accessor guard guard, false, true⟩ h) h

/-- Adds the accessor for prototypes. -/
def addPrototypeAccessor (h : Heap) : Heap :=
  let (g, h) := function h "get __proto__" .prototypeGetter 0
  let (s, h) := function h "set __proto__" .prototypeSetter 1
  add Place.objectPrototype (key "__proto__") ⟨.accessor (.object g) (.object s), false, true⟩ h

/-- Adds the names of the global object that are not functions. -/
def addGlobals (h : Heap) : Heap :=
  let h := add Place.global (key "globalThis") (.hidden (.object Place.global)) h
  let h := add Place.global (key "undefined") (.fixed .undefined) h
  let h := add Place.global (key "NaN") (.fixed (.float .nan)) h
  add Place.global (key "Infinity") (.fixed (.float (.infinity false))) h

/-- Adds the word that says what an object is. -/
def addTag (owner : ObjectRef) (word : String) (h : Heap) : Heap :=
  add owner (.symbol Place.tagSymbol) (.readOnly (.string (text word))) h

/-- Adds a global object that holds functions. -/
def addHolder (name : String) (fs : List (String × Builtin × Nat)) (h : Heap) : Heap :=
  let (r, h) := h.allocate (plain Place.objectPrototype)
  let h := add Place.global (key name) (.hidden (.object r)) h
  addTag r name (addFunctions r fs h)

/-- Adds the clock, the one standard name that is listed. -/
def addClock (h : Heap) : Heap :=
  let (r, h) := h.allocate (plain Place.objectPrototype)
  let (now, h) := function h "now" (.unsupported false) 0
  let h := add r (key "now") (.plain (.object now)) h
  let h := add r (key "timeOrigin") ⟨.data (.float (.zero false)) false, true, false⟩ h
  add Place.global (key "performance") (.plain (.object r)) h

/-- The functions of the global object that are there by name only, with the
number of their parameters. -/
def namedFunctions : List (String × Nat) :=
  [("parseInt", 2), ("parseFloat", 1), ("isNaN", 1), ("isFinite", 1), ("queueMicrotask", 1),
    ("decodeURI", 1), ("decodeURIComponent", 1), ("encodeURI", 1), ("encodeURIComponent", 1),
    ("escape", 1), ("unescape", 1), ("eval", 1)]

/-- The constructors that are there by name only. -/
def namedConstructors : List (String × Nat) :=
  [("AggregateError", 2), ("Iterator", 0), ("Date", 7), ("Proxy", 2), ("Map", 0), ("Set", 0),
    ("WeakMap", 0), ("WeakSet", 0), ("ArrayBuffer", 1), ("SharedArrayBuffer", 1),
    ("Uint8ClampedArray", 3), ("Int8Array", 3), ("Uint8Array", 3), ("Int16Array", 3),
    ("Uint16Array", 3), ("Int32Array", 3), ("Uint32Array", 3), ("BigInt64Array", 3),
    ("BigUint64Array", 3), ("Float16Array", 3), ("Float32Array", 3), ("Float64Array", 3),
    ("DataView", 1), ("WeakRef", 1), ("FinalizationRegistry", 1)]

/-- Adds a constructor that is there by name only, with a prototype of its own. -/
def addNamedConstructor (h : Heap) (c : String × Nat) : Heap :=
  let (p, h) := h.allocate (plain Place.objectPrototype)
  addConstructor c.1 (.unsupported true) c.2 p [] h

/-- Adds what patterns can do, and what they are only known to do by name. -/
def addPatterns (h : Heap) : Heap :=
  let h := addFunctions Place.patternPrototype
    [("exec", .patternExec, 1), ("test", .unsupported false, 1),
      ("compile", .unsupported false, 2), ("toString", .unsupported false, 0)] h
  let (r, h) := function h "[Symbol.replace]" .patternReplace 2
  let h := add Place.patternPrototype (.symbol Place.replaceSymbol) (.hidden (.object r)) h
  let h := addGetter Place.patternPrototype "flags" .patternFlags h
  patternFlagNames.foldl (fun h f => addGetter Place.patternPrototype f.2 (.patternFlag f.1) h) h

/-- Adds what is there by name only. -/
def addNamed (h : Heap) : Heap :=
  let h := addFunctions Place.global (namedFunctions.map fun f => (f.1, .unsupported false, f.2)) h
  let h := namedConstructors.foldl addNamedConstructor h
  let h := addConstructor "Function" (.unsupported true) 1 Place.functionPrototype [] h
  let h := addConstructor "Promise" (.unsupported true) 1 Place.promisePrototype [] h
  let h := addConstructor "RegExp" (.unsupported true) 2 Place.patternPrototype [] h
  let h := addPatterns h
  let h := addConstructor "BigInt" (.unsupported true) 1 Place.bigintPrototype [] h
  let h := ["JSON", "Reflect", "Atomics"].foldl (fun h name => addHolder name [] h) h
  let h := addTag Place.promisePrototype "Promise" h
  let h := addTag Place.bigintPrototype "BigInt" h
  addTag Place.iteratorPrototype "Generator" h

/-- Adds the symbols. -/
def addSymbols (h : Heap) : Heap :=
  let h := addConstructor "Symbol" .symbol 0 Place.symbolPrototype [] h
  let h := addFunctions Place.symbolPrototype
    [("toString", .symbolToString, 0), ("valueOf", .symbolValue, 0)] h
  let h := addGetter Place.symbolPrototype "description" .symbolDescription h
  let h := addTag Place.symbolPrototype "Symbol" h
  match (h.object Place.global).own? (key "Symbol") with
  | some ⟨.data (.object r) _, _, _⟩ =>
    let h := add r (key "toStringTag") (.fixed (.symbol Place.tagSymbol)) h
    add r (key "replace") (.fixed (.symbol Place.replaceSymbol)) h
  | _ => h

end Standard

/-- The heap of an empty realm. -/
def Heap.standard : Heap :=
  let h : Heap :=
    ⟨Standard.places.toArray, #[⟨[], none⟩],
      #[some (text "Symbol.toStringTag"), some (text "Symbol.replace")], none⟩
  let h := Standard.addNamed h
  let h := Standard.addClock h
  let h := Standard.addGlobals h
  let h := Standard.addTag Place.global "global" h
  let h := Standard.addConstructor "Object" .object 1 Place.objectPrototype
    [("keys", .objectKeys, 1), ("is", .objectIs, 2), ("freeze", .objectFreeze, 1),
      ("defineProperty", .objectDefineProperty, 3),
      ("getPrototypeOf", .objectGetPrototypeOf, 1), ("create", .objectCreate, 2)] h
  let h := Standard.addFunctions Place.objectPrototype
    [("toString", .objectToString, 0), ("valueOf", .objectValueOf, 0),
      ("hasOwnProperty", .objectHasOwnProperty, 1)] h
  let h := Standard.addPrototypeAccessor h
  let h := Standard.addFunctions Place.functionPrototype
    [("call", .functionCall, 1), ("apply", .functionApply, 2), ("bind", .functionBind, 1),
      ("toString", .functionToString, 0)] h
  let h := Standard.addGuards h
  let h := ErrorType.all.foldl (fun h t => Standard.addError t h) h
  let h := Standard.addFunctions (Place.errorPrototype .error) [("toString", .errorToString, 0)] h
  let h := Standard.addConstructor "Array" .array 1 Place.arrayPrototype
    [("isArray", .arrayIsArray, 1)] h
  let h := Standard.addFunctions Place.arrayPrototype
    [("join", .arrayJoin, 1), ("push", .arrayPush, 1), ("toString", .arrayToString, 0)] h
  let h := Standard.addConstructor "String" .string 1 Place.stringPrototype
    [("fromCharCode", .stringFromCharCode, 1)] h
  let h := Standard.addFunctions Place.stringPrototype
    [("toUpperCase", .stringToUpperCase, 0), ("repeat", .stringRepeat, 1),
      ("replace", .stringReplace, 2), ("toString", .stringValue, 0),
      ("valueOf", .stringValue, 0)] h
  let h := Standard.addConstructor "Number" .number 1 Place.numberPrototype [] h
  let h := Standard.addFunctions Place.numberPrototype
    [("toString", .numberToString, 1), ("valueOf", .numberValue, 0)] h
  let h := Standard.addConstructor "Boolean" .boolean 1 Place.booleanPrototype [] h
  let h := Standard.addFunctions Place.booleanPrototype
    [("toString", .booleanToString, 0), ("valueOf", .booleanValue, 0)] h
  let h := Standard.addSymbols h
  Standard.addHolder "Math"
    [("hypot", .mathHypot, 2), ("max", .mathMax, 2), ("min", .mathMin, 2)] h

end ScriptHost.Script
