import ScriptHost.Value.Basic

/-!
# Building a namespace

Names are exported one after the other.  A name that was exported before keeps
its place and takes the new payload, so a finished namespace lists every name
once, in the order of the first exports.
-/

namespace ScriptHost

/-- The exports made so far. -/
structure ExportBuilder (φ : Type) where
  entries : List (String × Export φ) := []

namespace ExportBuilder

variable {φ : Type}

/-- The entries after exporting `item` under `name`. -/
def put {α : Type} (name : String) (item : α) : List (String × α) → List (String × α)
  | [] => [(name, item)]
  | (n, x) :: rest => if n = name then (n, item) :: rest else (n, x) :: put name item rest

/-- Exports an item under a name. -/
def «export» (b : ExportBuilder φ) (name : String) (item : Export φ) : ExportBuilder φ :=
  ⟨put name item b.entries⟩

def contains (b : ExportBuilder φ) (name : String) : Bool :=
  b.entries.any fun e => e.1 == name

def size (b : ExportBuilder φ) : Nat := b.entries.length

def isEmpty (b : ExportBuilder φ) : Bool := b.entries.isEmpty

/-- The finished namespace. -/
def build (b : ExportBuilder φ) : Namespace φ := .ofList b.entries

/-- The builder after a sequence of exports. -/
def ofExports (items : List (String × Export φ)) : ExportBuilder φ :=
  items.foldl (fun b e => b.export e.1 e.2) {}

end ExportBuilder

end ScriptHost
