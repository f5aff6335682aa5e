import ScriptHost.Number.Layout
import ScriptHost.Text.Quoted

/-!
# A place in a document

A document is read as a list of bytes.  A cursor is what is left of it together
with the line and the number of bytes since the last line feed, so the position
of an error is read off the cursor where it is noticed.  An error noticed by
looking at the next byte points behind that byte.
-/

namespace ScriptHost.Config

/-- The unread part of a document and where it begins. -/
structure Cursor where
  rest : List UInt8
  line : Nat := 1
  column : Nat := 0
  deriving DecidableEq, Repr, Inhabited

/-- The byte of an ASCII character. -/
def ascii (c : Char) : UInt8 := UInt8.ofNat c.toNat

/-- A value that does not fit the place where it stands. -/
inductive Found where
  | null
  | bool (b : Bool)
  | integer (n : Int)
  | float (x : Double)
  | string (s : String)
  | list
  | object
  deriving DecidableEq, Repr

/-- How a value is named in a message. -/
def Found.describe : Found → String
  | .null => "null"
  | .bool true => "boolean \x60true\x60"
  | .bool false => "boolean \x60false\x60"
  | .integer n => "integer \x60" ++ toString n ++ "\x60"
  | .float x => "floating point \x60" ++ configLayout.render x ++ "\x60"
  | .string s => "string " ++ Text.quote s
  | .list => "sequence"
  | .object => "map"

/-- Why a document is no configuration. -/
inductive Cause where
  | endInList
  | endInObject
  | endInString
  | endInValue
  | expectedColon
  | expectedCommaOrBracket
  | expectedCommaOrBrace
  | expectedIdent
  | expectedValue
  | invalidEscape
  | invalidNumber
  | numberOutOfRange
  | controlCharacter
  | keyNotString
  | loneSurrogate
  | endOfHexEscape
  | trailingComma
  | trailingCharacters
  | wrongType (found : Found) (expected : String)
  | wrongValue (found : Found) (expected : String)
  | duplicateField (name : String)
  deriving DecidableEq, Repr

/-- The message of a cause, without its position. -/
def Cause.message : Cause → String
  | .endInList => "EOF while parsing a list"
  | .endInObject => "EOF while parsing an object"
  | .endInString => "EOF while parsing a string"
  | .endInValue => "EOF while parsing a value"
  | .expectedColon => "expected \x60:\x60"
  | .expectedCommaOrBracket => "expected \x60,\x60 or \x60]\x60"
  | .expectedCommaOrBrace => "expected \x60,\x60 or \x60\x7d\x60"
  | .expectedIdent => "expected ident"
  | .expectedValue => "expected value"
  | .invalidEscape => "invalid escape"
  | .invalidNumber => "invalid number"
  | .numberOutOfRange => "number out of range"
  | .controlCharacter =>
    "control character (\\u0000-\\u001F) found while parsing a string"
  | .keyNotString => "key must be a string"
  | .loneSurrogate => "lone leading surrogate in hex escape"
  | .endOfHexEscape => "unexpected end of hex escape"
  | .trailingComma => "trailing comma"
  | .trailingCharacters => "trailing characters"
  | .wrongType found expected => "invalid type: " ++ found.describe ++ ", expected " ++ expected
  | .wrongValue found expected => "invalid value: " ++ found.describe ++ ", expected " ++ expected
  | .duplicateField name => "duplicate field \x60" ++ name ++ "\x60"

/-- A cause and the place where it was noticed. -/
structure ReadError where
  cause : Cause
  line : Nat
  column : Nat
  deriving DecidableEq, Repr

/-- The whole message. -/
def ReadError.message (e : ReadError) : String :=
  e.cause.message ++ " at line " ++ e.line.repr ++ " column " ++ e.column.repr

/-- A reading step: what was read, and the cursor behind it. -/
abbrev Reading (α : Type) := Except ReadError (α × Cursor)

namespace Cursor

/-- The start of a document. -/
def ofString (s : String) : Cursor := { rest := s.toUTF8.toList }

/-- The cursor behind the next byte; the end of the document stays where it is. -/
def next (c : Cursor) : Cursor :=
  match c.rest with
  | [] => c
  | b :: rest =>
    if b = ascii '\n' then ⟨rest, c.line + 1, 0⟩ else ⟨rest, c.line, c.column + 1⟩

/-- The cursor behind the next `n` bytes. -/
def skip (c : Cursor) : Nat → Cursor
  | 0 => c
  | n + 1 => c.next.skip n

def peek (c : Cursor) : Option UInt8 := c.rest.head?

/-- Whether the next byte is the given character. -/
def sees (c : Cursor) (ch : Char) : Bool := c.peek == some (ascii ch)

/-- An error at the cursor. -/
def fail {α : Type} (c : Cursor) (cause : Cause) : Except ReadError α :=
  .error ⟨cause, c.line, c.column⟩

/-- An error about the next byte. -/
def failPeek {α : Type} (c : Cursor) (cause : Cause) : Except ReadError α :=
  c.next.fail cause

/-- Space, line feed, tab and carriage return. -/
def isBlank (b : UInt8) : Bool :=
  b == ascii ' ' || b == ascii '\n' || b == ascii '\t' || b == ascii '\r'

def skipBlanksFrom : List UInt8 → Nat → Nat → Cursor
  | [], line, column => ⟨[], line, column⟩
  | b :: rest, line, column =>
    if isBlank b then
      if b = ascii '\n' then skipBlanksFrom rest (line + 1) 0
      else skipBlanksFrom rest line (column + 1)
    else ⟨b :: rest, line, column⟩

/-- The cursor at the next byte that is not blank. -/
def skipBlanks (c : Cursor) : Cursor := skipBlanksFrom c.rest c.line c.column

end Cursor

end ScriptHost.Config
