import ScriptHost.Session.Spec
import ScriptHost.Value.Store

/-!
# Handles step by step

Named handles are made, copied, wrapped into objects and given back, while their
values are asked how often they are held and which of them are the same.
-/

namespace ScriptHost.Session

inductive HandleStep where
  | new (name : String) (v : ValueSpec)
  | clone (of name : String)
  | drop (name : String)
  | count (name : String)
  | same (a b : String)
  | text (name : String)
  /-- Makes an object that exports a handle under its name. -/
  | wrap (of name : String)

inductive HandleResult where
  | none
  | refused (message : String)
  | bool (b : Bool)
  | count (n : Option Nat)
  | text (display debug : String)

structure HandleState where
  ledger : Ledger Callback := {}
  making : ValueId × Memory := (0, {})

mutual
/-- How a value is made anew, with everything in it. -/
def makingOf : Value Callback → ValueMaking Callback
  | .null => .null
  | .undefined => .undefined
  | .number _ x => .number x
  | .string _ s => .string s
  | .function _ f => .function f
  | .object _ n => .object (.build (makingsOf n))

def makingsOf : Namespace Callback → ExportsMaking Callback
  | .empty => .nil
  | .entry name (.value v) rest => .value name (makingOf v) (makingsOf rest)
  | .entry name (.callback f) rest => .callback name f (makingsOf rest)
  | .entry name (.nested n) rest => .nested name (.build (makingsOf n)) (makingsOf rest)
end

private def noHandle (name : String) : HandleResult := .refused ("no handle " ++ name)

/-- Follows an operation if the handle that it uses is there. -/
private def operate (s : HandleState) (of : String) (x : HandleOperation Callback) :
    HandleResult × HandleState :=
  match s.ledger.handles.lookup of with
  | some _ => (.none, { s with ledger := s.ledger.step x })
  | none => (noHandle of, s)

def followHandle (s : HandleState) : HandleStep → HandleResult × HandleState
  | .new name v =>
    let (x, making) := v.make s.making
    (.none, { ledger := s.ledger.step (.value name (makingOf x)), making := making })
  | .clone of name => operate s of (.value name (.clone { name := of }))
  | .drop name =>
    (.bool (s.ledger.handles.lookup name).isSome, { s with ledger := s.ledger.step (.drop name) })
  | .count name => (.count (s.ledger.shareCount? name), s)
  | .same a b =>
    match s.ledger.handles.lookup a, s.ledger.handles.lookup b with
    | some c, some d => (.bool (c == d), s)
    | none, _ => (noHandle a, s)
    | _, none => (noHandle b, s)
  | .text name =>
    match (s.ledger.handles.lookup name).map s.ledger.store.read with
    | some v => (.text v.display v.debugTree.compact, s)
    | none => (noHandle name, s)
  | .wrap of name =>
    operate s of (.value name (.object (.build (.value of (.clone { name := of }) .nil))))

/-- Follows all steps from a state. -/
def handleResults : List HandleStep → HandleState → List HandleResult
  | [], _ => []
  | x :: rest, s =>
    let (r, s) := followHandle s x
    r :: handleResults rest s

end ScriptHost.Session
