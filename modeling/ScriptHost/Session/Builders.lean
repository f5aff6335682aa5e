import ScriptHost.Session.Behaviour

/-!
# Building namespaces step by step

One builder takes exports, and the namespace that was finished last can be looked
at, exported again, and made a value.
-/

namespace ScriptHost.Session

inductive BuilderStep where
  | «export» (name : String) (item : ExportSpec)
  | exportCallback (name : String) (f : Callback)
  /-- Exports the finished namespace. -/
  | exportBuilt (name : String)
  | contains (name : String)
  | size
  | build
  | summary
  | get (name : String)
  | tree
  | debug
  | toValue

/-- What an export looks like. -/
inductive Shape where
  | value (display : String) (type : ValueType)
  | callback
  | nested (entries : List (String × Shape))

mutual
def shapeOf : Export Callback → Shape
  | .value v => .value v.display v.type
  | .callback _ => .callback
  | .nested n => .nested (shapesOf n)

def shapesOf : Namespace Callback → List (String × Shape)
  | .empty => []
  | .entry name item rest => (name, shapeOf item) :: shapesOf rest
end

inductive BuilderResult where
  | count (n : Nat)
  | bool (b : Bool)
  | size (n : Nat) (isEmpty : Bool)
  | summary (n : Nat) (isEmpty : Bool) (names : List String)
  | shape (s : Option Shape)
  | tree (entries : List (String × Shape))
  | debug (compact pretty : String)
  | value (a : Appearance) (display debug : String)

structure BuilderState where
  builder : ExportBuilder Callback := {}
  built : Namespace Callback := .empty
  making : ValueId × Memory := (0, {})

private def summaryOf (n : Namespace Callback) : BuilderResult := .summary n.size n.isEmpty n.names

private def put (s : BuilderState) (name : String) (item : Export Callback) :
    BuilderResult × BuilderState :=
  let b := s.builder.export name item
  (.count b.size, { s with builder := b })

def followBuilder (s : BuilderState) : BuilderStep → BuilderResult × BuilderState
  | .export name item =>
    let (x, making) := item.make s.making
    put { s with making := making } name x
  | .exportCallback name f => put s name (.callback f)
  | .exportBuilt name => put s name (.nested s.built)
  | .contains name => (.bool (s.builder.contains name), s)
  | .size => (.size s.builder.size s.builder.isEmpty, s)
  | .build =>
    let n := s.builder.build
    (summaryOf n, { s with builder := {}, built := n })
  | .summary => (summaryOf s.built, s)
  | .get name => (.shape ((s.built.get? name).map shapeOf), s)
  | .tree => (.tree (shapesOf s.built), s)
  | .debug => (.debug s.built.debugTree.compact s.built.debugTree.pretty, s)
  | .toValue =>
    let v : Value Callback := .object s.making.1 s.built
    (.value (appearance v) v.display v.debugTree.compact,
      { s with making := (s.making.1 + 1, s.making.2) })

/-- Follows all steps from an empty builder. -/
def builderResults : List BuilderStep → BuilderState → List BuilderResult
  | [], _ => []
  | x :: rest, s =>
    let (r, s) := followBuilder s x
    r :: builderResults rest s

end ScriptHost.Session
