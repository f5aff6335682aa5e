import ScriptHost.Config.Reader

/-!
# Spellings of a configuration

What a document has to look like, and what it then says, without a word about how it is read.
A text is a list of bytes here, as it is for the reader; that it encodes characters plays no
part, because every byte of a character that is not ASCII stands for itself inside quotes and
nowhere else.

Blanks may stand around everything inside brackets.  `Elements` is what lies between two
brackets, for lists and objects alike, and for values of every depth as well as for sections.
A section is given by the members of an object, or by a list, which is the same as the members
that pair its values with the first names of the fields.  Then each field has one value at most,
and what the section says of it is `FieldIs`.
-/

namespace ScriptHost.Config

/-- A part of a document. -/
abbrev Bytes := List UInt8

/-- The bytes of a text. -/
def bytes (s : String) : Bytes := s.toUTF8.toList

/-- Space, line feed, carriage return and tab. -/
def Blank (b : UInt8) : Prop := b = ascii ' ' ∨ b = ascii '\n' ∨ b = ascii '\r' ∨ b = ascii '\t'

def Blanks (bs : Bytes) : Prop := ∀ b ∈ bs, Blank b

/-! ## Strings -/

/-- A byte that stands for itself inside quotes. -/
def Plain (b : UInt8) : Prop := 0x20 ≤ b.toNat ∧ b ≠ ascii '"' ∧ b ≠ ascii '\\'

/-- The letters of the short escapes, and what they stand for. -/
def escapes : List (Char × UInt8) :=
  [('"', 0x22), ('\\', 0x5C), ('/', 0x2F), ('b', 0x08), ('f', 0x0C), ('n', 0x0A), ('r', 0x0D),
    ('t', 0x09)]

/-- A hexadecimal digit and its value. -/
inductive HexDigit : UInt8 → Nat → Prop
  | digit {n : Nat} : n < 10 → HexDigit (UInt8.ofNat ('0'.toNat + n)) n
  | lower {n : Nat} : n < 6 → HexDigit (UInt8.ofNat ('a'.toNat + n)) (10 + n)
  | upper {n : Nat} : n < 6 → HexDigit (UInt8.ofNat ('A'.toNat + n)) (10 + n)

/-- Four hexadecimal digits and their value. -/
inductive Hex : Bytes → Nat → Prop
  | intro {a b c d : UInt8} {i j k l : Nat} :
      HexDigit a i → HexDigit b j → HexDigit c k → HexDigit d l →
        Hex [a, b, c, d] (((i * 16 + j) * 16 + k) * 16 + l)

/-- What stands behind a backslash, and the bytes that it stands for.  No character has the
number of a surrogate, so surrogates come in pairs. -/
inductive Escape : Bytes → Bytes → Prop
  | short {letter : Char} {b : UInt8} : (letter, b) ∈ escapes → Escape [ascii letter] [b]
  | character {digits : Bytes} {c : Char} :
      Hex digits c.toNat → Escape (ascii 'u' :: digits) (bytes (String.singleton c))
  | pair {first second : Bytes} {high low : Nat} {c : Char} :
      Hex first high → Hex second low →
      0xD800 ≤ high → high ≤ 0xDBFF → 0xDC00 ≤ low → low ≤ 0xDFFF →
      c.toNat = 0x10000 + (high - 0xD800) * 0x400 + (low - 0xDC00) →
        Escape (ascii 'u' :: (first ++ ascii '\\' :: ascii 'u' :: second))
          (bytes (String.singleton c))

/-- What stands inside the quotes of a string, and its text. -/
inductive Spelled : Bytes → Bytes → Prop
  | nil : Spelled [] []
  | plain {b : UInt8} {source text : Bytes} :
      Plain b → Spelled source text → Spelled (b :: source) (b :: text)
  | escape {e t source text : Bytes} :
      Escape e t → Spelled source text → Spelled (ascii '\\' :: (e ++ source)) (t ++ text)

/-- What stands inside the quotes of a string that need not have a text: surrogates may be
unpaired. -/
inductive Quotable : Bytes → Prop
  | nil : Quotable []
  | plain {b : UInt8} {source : Bytes} : Plain b → Quotable source → Quotable (b :: source)
  | short {letter : Char} {b : UInt8} {source : Bytes} :
      (letter, b) ∈ escapes → Quotable source →
        Quotable (ascii '\\' :: ascii letter :: source)
  | hex {digits : Bytes} {n : Nat} {source : Bytes} :
      Hex digits n → Quotable source →
        Quotable (ascii '\\' :: ascii 'u' :: (digits ++ source))

/-! ## Numbers -/

def Digit (b : UInt8) : Prop := ascii '0' ≤ b ∧ b ≤ ascii '9'

def Digits (ds : Bytes) : Prop := ds ≠ [] ∧ ∀ d ∈ ds, Digit d

/-- An integer without a sign, which does not begin with a zero unless it is one. -/
def Integer (ds : Bytes) : Prop := Digits ds ∧ (ds.head? = some (ascii '0') → ds = [ascii '0'])

/-- The value of digits. -/
def decimal (ds : Bytes) : Nat := ds.foldl (fun n d => n * 10 + (d.toNat - (ascii '0').toNat)) 0

/-- Nothing, or a point and digits. -/
inductive Fraction : Bytes → Prop
  | none : Fraction []
  | point {ds : Bytes} : Digits ds → Fraction (ascii '.' :: ds)

def Sign (bs : Bytes) : Prop := bs = [] ∨ bs = [ascii '+'] ∨ bs = [ascii '-']

/-- Nothing, or the letter of an exponent, a sign and digits. -/
inductive Exponent : Bytes → Prop
  | none : Exponent []
  | power {e : UInt8} {sign ds : Bytes} :
      e = ascii 'e' ∨ e = ascii 'E' → Sign sign → Digits ds → Exponent (e :: (sign ++ ds))

inductive Number : Bytes → Prop
  | positive {i f e : Bytes} : Integer i → Fraction f → Exponent e → Number (i ++ f ++ e)
  | negative {i f e : Bytes} :
      Integer i → Fraction f → Exponent e → Number (ascii '-' :: (i ++ f ++ e))

/-! ## Lists and objects -/

/-- What leads to an element: blanks, and a comma unless it is the first one. -/
inductive Lead : Bool → Bytes → Prop
  | first {b : Bytes} : Blanks b → Lead true b
  | next {b b' : Bytes} : Blanks b → Blanks b' → Lead false (b ++ ascii ',' :: b')

/-- Elements and the bracket behind them.  `first` says that no element stands in front. -/
inductive Elements {α : Type} (R : α → Bytes → Prop) (bracket : Char) :
    Bool → List α → Bytes → Prop
  | close {first : Bool} {b : Bytes} :
      Blanks b → Elements R bracket first [] (b ++ [ascii bracket])
  | element {first : Bool} {lead source rest : Bytes} {a : α} {as : List α} :
      Lead first lead → R a source → Elements R bracket false as rest →
        Elements R bracket first (a :: as) (lead ++ source ++ rest)

/-- Elements between two brackets. -/
def Bracketed {α : Type} (R : α → Bytes → Prop) (left right : Char) (as : List α)
    (source : Bytes) : Prop :=
  ∃ inner, source = ascii left :: inner ∧ Elements R right true as inner

/-- A list has the sources of its items. -/
def Item (item source : Bytes) : Prop := source = item

/-- An object has keys and the sources of their values.  `Key` says what stands inside the
quotes of a key. -/
def Member {κ : Type} (Key : Bytes → κ → Prop) (m : κ × Bytes) (source : Bytes) : Prop :=
  ∃ key b b', Key key m.1 ∧ Blanks b ∧ Blanks b' ∧
    source = ascii '"' :: (key ++ ascii '"' :: (b ++ ascii ':' :: (b' ++ m.2)))

/-- A key that is as it is written. -/
def RawKey (source key : Bytes) : Prop := Quotable source ∧ key = source

/-- Any value, of any depth. -/
inductive Value : Bytes → Prop
  | null : Value (bytes "null")
  | true : Value (bytes "true")
  | false : Value (bytes "false")
  | number {source : Bytes} : Number source → Value source
  | string {source : Bytes} : Quotable source → Value (ascii '"' :: (source ++ [ascii '"']))
  | list {items : List Bytes} {source : Bytes} :
      Bracketed Item '[' ']' items source → (∀ item ∈ items, Value item) → Value source
  | object {members : List (Bytes × Bytes)} {source : Bytes} :
      Bracketed (Member RawKey) '\x7b' '\x7d' members source →
        (∀ m ∈ members, Value m.2) → Value source

/-! ## Sections -/

/-- A section gives values to names. -/
inductive Gives (names : List String) : Bytes → List (Bytes × Bytes) → Prop
  | object {members : List (Bytes × Bytes)} {source : Bytes} :
      Bracketed (Member Spelled) '\x7b' '\x7d' members source →
        (∀ m ∈ members, Value m.2) → Gives names source members
  | list {items : List Bytes} {source : Bytes} :
      Bracketed Item '[' ']' items source → (∀ item ∈ items, Value item) →
        items.length ≤ names.length → Gives names source ((names.map bytes).zip items)

/-- The sources of the values that a name is given. -/
def given (members : List (Bytes × Bytes)) (name : String) : List Bytes :=
  (members.filter (·.1 = bytes name)).map (·.2)

/-- A field that is given no value has its default, and one that is given one value has what
this value spells. -/
def FieldIs {α : Type} (spells : Bytes → α → Prop) (standard : α) : List Bytes → α → Prop
  | [], x => x = standard
  | [source], x => spells source x
  | _, _ => False

/-- A size is an integer of at most sixty-four bits, without sign, fraction or exponent. -/
def SpellsSize (source : Bytes) (n : UInt64) : Prop :=
  Integer source ∧ decimal source = n.toNat

/-- A limit is a size or `null`. -/
inductive SpellsLimit : Bytes → Option UInt64 → Prop
  | null : SpellsLimit (bytes "null") none
  | size {source : Bytes} {n : UInt64} : SpellsSize source n → SpellsLimit source (some n)

def SpellsIsolate (source : Bytes) (l : IsolateLimits) : Prop :=
  ∃ members, Gives ["initial_heap_bytes", "max_heap_bytes"] source members ∧
    FieldIs SpellsSize 0 (given members "initial_heap_bytes") l.initialHeap ∧
    FieldIs SpellsLimit none (given members "max_heap_bytes") l.maxHeap

def SpellsRuntime (source : Bytes) (l : RuntimeLimits) : Prop :=
  ∃ members, Gives ["memory_limit", "max_stack_size", "gc_threshold"] source members ∧
    FieldIs SpellsLimit none (given members "memory_limit") l.memory ∧
    FieldIs SpellsLimit none (given members "max_stack_size") l.stack ∧
    FieldIs SpellsLimit none (given members "gc_threshold") l.collector

def SpellsConfig (source : Bytes) (c : EngineConfig) : Prop :=
  ∃ members, Gives ["v8", "quickjs"] source members ∧
    FieldIs SpellsIsolate {} (given members "v8") c.isolate ∧
    FieldIs SpellsRuntime {} (given members "quickjs") c.runtime

/-- A document with one value in it, and blanks around that. -/
def Document (P : Bytes → Prop) (text : Bytes) : Prop :=
  ∃ b source b', Blanks b ∧ Blanks b' ∧ text = b ++ source ++ b' ∧ P source

end ScriptHost.Config
