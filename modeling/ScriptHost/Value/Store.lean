import ScriptHost.Value.Builder

/-!
# Counted references

Handles share what they hold.  A value is a cell of the store together with the
number of references to it, and so is a namespace: an object refers to its
namespace, and a namespace refers to the values and the namespaces among its
exports.  A host refers to a cell by a handle.  The two sentinels have a
reference more than that, the thread's own copy.

The last reference to a cell takes the cell along, and with it the references
that the cell holds, through any depth.  What a cell holds never changes, and its
number is never given to another cell, so the cell that a handle refers to says
which value it is for as long as the store lives.
-/

namespace ScriptHost

/-- A cell of the store, by the order of creation. -/
abbrev CellRef := Nat

/-- One export of a stored namespace. -/
inductive StoredExport (φ : Type) where
  | value (c : CellRef)
  | callback (f : φ)
  | nested (c : CellRef)

/-- What a cell holds: a value, or the exports of a namespace. -/
inductive Content (φ : Type) where
  | null
  | undefined
  | number (x : Double)
  | string (s : String)
  | function (f : FunctionRef)
  | object (c : CellRef)
  | exports (entries : List (String × StoredExport φ))

/-- A cell and how many references to it there are. -/
structure Cell (φ : Type) where
  strong : Nat
  content : Content φ

/-- All cells that were ever made. -/
structure Store (φ : Type) where
  cells : List (Cell φ)

variable {φ : Type}

/-- The cell that an export refers to. -/
def StoredExport.cell? : StoredExport φ → Option CellRef
  | .value c => some c
  | .callback _ => none
  | .nested c => some c

/-- The cells that exports refer to, in order. -/
def cellsOf (entries : List (String × StoredExport φ)) : List CellRef :=
  entries.filterMap (·.2.cell?)

/-- The cells that a cell refers to, in the order in which they are given back. -/
def Content.refs : Content φ → List CellRef
  | .object c => [c]
  | .exports entries => cellsOf entries
  | _ => []

/-- Whether a cell is a value, and not a namespace. -/
def Content.isValue : Content φ → Bool
  | .exports _ => false
  | _ => true

namespace Store

/-- The cell of the null value. -/
def null : CellRef := 0

/-- The cell of the undefined value. -/
def undefined : CellRef := 1

/-- The store of a thread that has made nothing yet. -/
def start : Store φ := ⟨[⟨1, .null⟩, ⟨1, .undefined⟩]⟩

def size (s : Store φ) : Nat := s.cells.length

def content? (s : Store φ) (c : CellRef) : Option (Content φ) := s.cells[c]?.map (·.content)

/-- The number of references to a cell. -/
def strong (s : Store φ) (c : CellRef) : Nat := (s.cells[c]?.map (·.strong)).getD 0

def refs (s : Store φ) (c : CellRef) : List CellRef := ((s.content? c).map Content.refs).getD []

def isValue (s : Store φ) (c : CellRef) : Bool := ((s.content? c).map Content.isValue).getD false

/-! ## Taking and giving back references -/

def setStrong (s : Store φ) (c : CellRef) (n : Nat) : Store φ :=
  ⟨s.cells.modify c fun cell => { cell with strong := n }⟩

/-- A new cell, and the first reference to it. -/
def alloc (s : Store φ) (content : Content φ) : CellRef × Store φ :=
  (s.size, ⟨s.cells ++ [⟨1, content⟩]⟩)

/-- One more reference to a cell. -/
def retain (s : Store φ) (c : CellRef) : Store φ := s.setStrong c (s.strong c + 1)

/-- One reference to a cell less.  The last one gives back what the cell refers to, which is
older than the cell. -/
def release (s : Store φ) (c : CellRef) : Store φ :=
  if s.strong c = 1 then
    (s.refs c).foldl (fun t d => if _ : d < c then t.release d else t) (s.setStrong c 0)
  else s.setStrong c (s.strong c - 1)
termination_by c

/-! ## Looking at cells -/

/-- The exports of a namespace, or of an object's namespace. -/
def exports (s : Store φ) (c : CellRef) : List (String × StoredExport φ) :=
  match s.content? c with
  | some (.exports entries) => entries
  | some (.object n) =>
    match s.content? n with
    | some (.exports entries) => entries
    | _ => []
  | _ => []

/-- The cell that is reached from another one by the names of exports. -/
def follow (s : Store φ) : CellRef → List String → Option CellRef
  | c, [] => some c
  | c, name :: path =>
    match ((s.exports c).lookup name).bind StoredExport.cell? with
    | some d => s.follow d path
    | none => none

mutual
/-- The value that a cell holds, with the cell as its identity. -/
def read (s : Store φ) (c : CellRef) : Value φ :=
  match s.content? c with
  | some .null => .null
  | some (.number x) => .number c x
  | some (.string x) => .string c x
  | some (.function f) => .function c f
  | some (.object n) => .object c (if _ : n < c then s.readNamespace n else .empty)
  | _ => .undefined
termination_by c

/-- The namespace that a cell holds. -/
def readNamespace (s : Store φ) (c : CellRef) : Namespace φ :=
  match s.content? c with
  | some (.exports entries) =>
    .ofList (entries.map fun e => (e.1,
      match e.2 with
      | .value d => .value (if _ : d < c then s.read d else .undefined)
      | .callback f => .callback f
      | .nested d => .nested (if _ : d < c then s.readNamespace d else .empty)))
  | _ => .empty
termination_by c
end

end Store

/-! ## What is made -/

/-- Something that is there already: what is held under a name, or what its exports lead to. -/
structure Place where
  name : String
  path : List String := []

mutual
/-- A value to make.  A clone of what is not there, or is no value, is undefined. -/
inductive ValueMaking (φ : Type) where
  | null
  | undefined
  | number (x : Double)
  | string (s : String)
  | function (f : FunctionRef)
  | object (n : NamespaceMaking φ)
  | clone (of : Place)

/-- A namespace to make.  A clone of what is not there, or is no namespace, is an empty one. -/
inductive NamespaceMaking (φ : Type) where
  | build (exports : ExportsMaking φ)
  | clone (of : Place)

/-- Things to export one after the other. -/
inductive ExportsMaking (φ : Type) where
  | nil
  | value (name : String) (v : ValueMaking φ) (rest : ExportsMaking φ)
  | callback (name : String) (f : φ) (rest : ExportsMaking φ)
  | nested (name : String) (n : NamespaceMaking φ) (rest : ExportsMaking φ)
end

/-- The named handles of a host. -/
abbrev Handles := List (String × CellRef)

/-- The cell at a place. -/
def Store.find (s : Store φ) (handles : Handles) (of : Place) : Option CellRef :=
  (handles.lookup of.name).bind fun c => s.follow c of.path

/-- Exports a stored item under a name.  What was exported under it before is given back. -/
def Store.put (s : Store φ) (entries : List (String × StoredExport φ)) (name : String)
    (item : StoredExport φ) : List (String × StoredExport φ) × Store φ :=
  (ExportBuilder.put name item entries,
    match (entries.lookup name).bind StoredExport.cell? with
    | some old => s.release old
    | none => s)

mutual
/-- Makes a value.  The reference to it belongs to whoever asked. -/
def ValueMaking.run (handles : Handles) : ValueMaking φ → Store φ → CellRef × Store φ
  | .null, s => (Store.null, s.retain Store.null)
  | .undefined, s => (Store.undefined, s.retain Store.undefined)
  | .number x, s => s.alloc (.number x)
  | .string x, s => s.alloc (.string x)
  | .function f, s => s.alloc (.function f)
  | .object n, s =>
    let (c, s) := n.run handles s
    s.alloc (.object c)
  | .clone of, s =>
    let c := ((s.find handles of).filter fun c => s.isValue c).getD Store.undefined
    (c, s.retain c)

/-- Makes a namespace. -/
def NamespaceMaking.run (handles : Handles) : NamespaceMaking φ → Store φ → CellRef × Store φ
  | .build exports, s =>
    let (entries, s) := exports.run handles [] s
    s.alloc (.exports entries)
  | .clone of, s =>
    match (s.find handles of).filter fun c => !s.isValue c with
    | some c => (c, s.retain c)
    | none => s.alloc (.exports [])

/-- Exports one thing after the other. -/
def ExportsMaking.run (handles : Handles) : ExportsMaking φ → List (String × StoredExport φ) →
    Store φ → List (String × StoredExport φ) × Store φ
  | .nil, entries, s => (entries, s)
  | .value name v rest, entries, s =>
    let (c, s) := v.run handles s
    let (entries, s) := s.put entries name (.value c)
    rest.run handles entries s
  | .callback name f rest, entries, s =>
    let (entries, s) := s.put entries name (.callback f)
    rest.run handles entries s
  | .nested name n rest, entries, s =>
    let (c, s) := n.run handles s
    let (entries, s) := s.put entries name (.nested c)
    rest.run handles entries s
end

/-- What a host does with its handles. -/
inductive HandleOperation (φ : Type) where
  | value (name : String) (v : ValueMaking φ)
  | nested (name : String) (n : NamespaceMaking φ)
  | drop (name : String)

/-- The named handles of a host, and the store they refer to. -/
structure Ledger (φ : Type) where
  handles : Handles := []
  store : Store φ := .start

namespace Ledger

/-- Gives the handle of a name back. -/
def drop (l : Ledger φ) (name : String) : Ledger φ :=
  match l.handles.lookup name with
  | some c => ⟨l.handles.filter fun e => e.1 != name, l.store.release c⟩
  | none => l

/-- Keeps a reference under a name.  The handle that the name had before is given back. -/
def keep (l : Ledger φ) (name : String) (made : CellRef × Store φ) : Ledger φ :=
  let free := Ledger.drop ⟨l.handles, made.2⟩ name
  ⟨(name, made.1) :: free.handles, free.store⟩

def step (l : Ledger φ) : HandleOperation φ → Ledger φ
  | .value name v => l.keep name (v.run l.handles l.store)
  | .nested name n => l.keep name (n.run l.handles l.store)
  | .drop name => l.drop name

/-- The handles and the store after some operations. -/
def after (operations : List (HandleOperation φ)) : Ledger φ := operations.foldl step {}

/-- How often the value is shared that a name holds. -/
def shareCount? (l : Ledger φ) (name : String) : Option Nat :=
  (l.handles.lookup name).map l.store.strong

/-- Whether two names hold one value. -/
def same? (l : Ledger φ) (a b : String) : Option Bool :=
  (l.handles.lookup a).bind fun c => (l.handles.lookup b).map fun d => c == d

end Ledger

end ScriptHost
