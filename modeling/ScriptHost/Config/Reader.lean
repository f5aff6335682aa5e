import ScriptHost.Config.Basic
import ScriptHost.Config.Skip

/-!
# Reading a configuration

A section of a configuration is spelled as an object, whose known fields stand
in any order and at most once among any number of unknown ones, or as a list of
the values of its first fields in the order of their declaration.  Fields that
are not mentioned keep their defaults.

A field is described by its name and by how its value changes the section, so
the three sections are three short lists of fields read by one reader.
-/

namespace ScriptHost.Config

/-- A field of a section: its name, and the reader of its value. -/
structure Field (σ : Type) where
  name : String
  read : σ → Cursor → Except ReadError (σ × Cursor)

/-- The error for a value that cannot stand where `expected` is wanted.  The
value is read first, except for the brackets of a list or an object. -/
def wrongType {α : Type} (expected : String) (c : Cursor) : Except ReadError α :=
  match c.rest with
  | [] => c.failPeek .expectedValue
  | b :: _ =>
    if b = ascii 'n' then do
      let c ← readWord ['u', 'l', 'l'] c.next
      c.fail (.wrongType .null expected)
    else if b = ascii 't' then do
      let c ← readWord ['r', 'u', 'e'] c.next
      c.fail (.wrongType (.bool true) expected)
    else if b = ascii 'f' then do
      let c ← readWord ['a', 'l', 's', 'e'] c.next
      c.fail (.wrongType (.bool false) expected)
    else if b = ascii '-' || isDigit b then do
      let (n, c) ← readNumeral c
      c.fail (.wrongType n.found expected)
    else if b = ascii '"' then do
      let (bytes, c) ← readString c.next
      c.fail (.wrongType (.string (textOfBytes bytes)) expected)
    else if b = ascii '[' then c.fail (.wrongType .list expected)
    else if b = ascii '\x7b' then c.fail (.wrongType .object expected)
    else c.failPeek .expectedValue

/-! ## Numbers -/

/-- A size: an integer of sixty-four bits without sign. -/
def readSize (c : Cursor) : Except ReadError (UInt64 × Cursor) :=
  let c := c.skipBlanks
  match c.rest with
  | [] => c.failPeek .endInValue
  | b :: _ =>
    if b = ascii '-' || isDigit b then do
      let (n, c) ← readNumeral c
      match n with
      | .natural n => .ok (UInt64.ofNat n, c)
      | .negative n => c.fail (.wrongValue (.integer (-(n : Int))) "usize")
      | .float x => c.fail (.wrongType (.float x) "usize")
    else wrongType "usize" c

/-- A size or `null`. -/
def readLimit (c : Cursor) : Except ReadError (Option UInt64 × Cursor) :=
  let c := c.skipBlanks
  if c.sees 'n' then (readWord ['u', 'l', 'l'] c.next).map (none, ·)
  else (readSize c).map fun r => (some r.1, r.2)

/-! ## Sections -/

/-- Whether another item of a list follows; `first` says that none was read yet.
The cursor then stands before the item. -/
def nextItem (first : Bool) (c : Cursor) : Except ReadError (Bool × Cursor) :=
  let c := c.skipBlanks
  match c.rest with
  | [] => c.failPeek .endInList
  | b :: _ =>
    if b = ascii ']' then .ok (false, c)
    else if first then .ok (true, c)
    else if b = ascii ',' then
      let c := c.next.skipBlanks
      match c.rest with
      | [] => c.failPeek .endInValue
      | b :: _ => if b = ascii ']' then c.failPeek .trailingComma else .ok (true, c)
    else c.failPeek .expectedCommaOrBracket

/-- The items of a list as the values of the fields, in order. -/
def readItems {σ : Type} (first : Bool) :
    List (Field σ) → σ → Cursor → Except ReadError (σ × Cursor)
  | [], s, c => .ok (s, c)
  | field :: fields, s, c => do
    let (more, c) ← nextItem first c
    if more then
      let (s, c) ← field.read s c
      readItems false fields s c
    else .ok (s, c)

/-- The end of a list. -/
def endList (c : Cursor) : Except ReadError Cursor :=
  let c := c.skipBlanks
  match c.rest with
  | [] => c.failPeek .endInList
  | b :: _ =>
    if b = ascii ']' then .ok c.next
    else if b = ascii ',' then
      let c := c.next.skipBlanks
      if c.sees ']' then c.failPeek .trailingComma else c.failPeek .trailingCharacters
    else c.failPeek .trailingCharacters

/-- Whether another member of an object follows.  The cursor then stands behind
the opening quote of its key. -/
def nextMember (first : Bool) (c : Cursor) : Except ReadError (Bool × Cursor) :=
  let c := c.skipBlanks
  match c.rest with
  | [] => c.failPeek .endInObject
  | b :: _ =>
    if b = ascii '\x7d' then .ok (false, c)
    else if first then
      if b = ascii '"' then .ok (true, c.next) else c.failPeek .keyNotString
    else if b = ascii ',' then
      let c := c.next.skipBlanks
      match c.rest with
      | [] => c.failPeek .endInValue
      | b :: _ =>
        if b = ascii '"' then .ok (true, c.next)
        else if b = ascii '\x7d' then c.failPeek .trailingComma
        else c.failPeek .keyNotString
    else c.failPeek .expectedCommaOrBrace

/-- The colon behind a key. -/
def readColon (c : Cursor) : Except ReadError Cursor :=
  let c := c.skipBlanks
  match c.rest with
  | [] => c.failPeek .endInObject
  | b :: _ => if b = ascii ':' then .ok c.next else c.failPeek .expectedColon

/-- A repeated field is reported where the object would go on: behind the blanks
after the key, and behind the closing brace if that is what follows. -/
def repeated {α : Type} (name : String) (c : Cursor) : Except ReadError α :=
  let c := c.skipBlanks
  (if c.sees '\x7d' then c.next else c).fail (.duplicateField name)

/-- The members of an object.  Every member takes at least one byte, so the
number of bytes left is enough fuel. -/
def readMembers {σ : Type} (fields : List (Field σ)) :
    Nat → Bool → List String → σ → Cursor → Except ReadError (σ × Cursor)
  | 0, _, _, _, c => c.fail .endInObject
  | fuel + 1, first, seen, s, c => do
    let (more, c) ← nextMember first c
    if more then
      let (key, c) ← readString c
      match fields.find? fun f => f.name.toUTF8.toList == key with
      | some field =>
        if seen.contains field.name then repeated field.name c
        else
          let c ← readColon c
          let (s, c) ← field.read s c
          readMembers fields fuel false (field.name :: seen) s c
      | none =>
        let c ← readColon c
        let c ← skipValue c.skipBlanks
        readMembers fields fuel false seen s c
    else .ok (s, c.next)

/-- A section with the given fields.  `expected` is how messages name it. -/
def readSection {σ : Type} (expected : String) (fields : List (Field σ)) (standard : σ)
    (c : Cursor) : Except ReadError (σ × Cursor) :=
  let c := c.skipBlanks
  match c.rest with
  | [] => c.failPeek .endInValue
  | b :: _ =>
    if b = ascii '[' then do
      let (s, c) ← readItems true fields standard c.next
      let c ← endList c
      .ok (s, c)
    else if b = ascii '\x7b' then
      readMembers fields (c.rest.length + 1) true [] standard c.next
    else wrongType expected c

/-- The fields of the isolate section. -/
def isolateFields : List (Field IsolateLimits) :=
  [⟨"initial_heap_bytes", fun s c =>
      (readSize c).map fun r => (⟨r.1, s.maxHeap⟩, r.2)⟩,
    ⟨"max_heap_bytes", fun s c =>
      (readLimit c).map fun r => (⟨s.initialHeap, r.1⟩, r.2)⟩]

/-- The fields of the runtime section. -/
def runtimeFields : List (Field RuntimeLimits) :=
  [⟨"memory_limit", fun s c =>
      (readLimit c).map fun r => (⟨r.1, s.stack, s.collector⟩, r.2)⟩,
    ⟨"max_stack_size", fun s c =>
      (readLimit c).map fun r => (⟨s.memory, r.1, s.collector⟩, r.2)⟩,
    ⟨"gc_threshold", fun s c =>
      (readLimit c).map fun r => (⟨s.memory, s.stack, r.1⟩, r.2)⟩]

/-- The sections of a configuration. -/
def configFields : List (Field EngineConfig) :=
  [⟨"v8", fun s c =>
      (readSection "struct V8Config" isolateFields {} c).map
        fun r => (⟨r.1, s.runtime⟩, r.2)⟩,
    ⟨"quickjs", fun s c =>
      (readSection "struct QuickJsConfig" runtimeFields {} c).map
        fun r => (⟨s.isolate, r.1⟩, r.2)⟩]

/-- A whole document: one configuration and nothing but blanks after it. -/
def readDocument (text : String) : Except ReadError EngineConfig := do
  let (config, c) ← readSection "struct EngineConfig" configFields {} (Cursor.ofString text)
  let c := c.skipBlanks
  match c.rest with
  | [] => .ok config
  | _ => c.failPeek .trailingCharacters

end ScriptHost.Config
