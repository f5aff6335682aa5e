import ScriptHost.Config.Cursor

/-!
# Strings of a document

Inside the quotes every byte from the space on stands for itself, a backslash
begins an escape, and control characters are errors.  A string that is read must
be well-formed text, so surrogate escapes have to come in pairs; in a string
that is only skipped any four hexadecimal digits will do.
-/

namespace ScriptHost.Config

/-- The value of a hexadecimal digit. -/
def hexValue (b : UInt8) : Option Nat :=
  let n := b.toNat
  if 48 ≤ n ∧ n ≤ 57 then some (n - 48)
  else if 97 ≤ n ∧ n ≤ 102 then some (n - 87)
  else if 65 ≤ n ∧ n ≤ 70 then some (n - 55)
  else none

/-- Four hexadecimal digits. -/
def readHex (c : Cursor) : Reading Nat :=
  match c.rest with
  | a :: b :: d :: e :: _ =>
    match hexValue a, hexValue b, hexValue d, hexValue e with
    | some a, some b, some d, some e =>
      .ok (((a * 16 + b) * 16 + d) * 16 + e, c.skip 4)
    | _, _, _, _ => (c.skip 4).fail .invalidEscape
  | rest => (c.skip rest.length).fail .endInString

/-- The byte that an escape of one letter stands for. -/
def simpleEscape (b : UInt8) : Option UInt8 :=
  if b = ascii '"' then some b
  else if b = ascii '\\' then some b
  else if b = ascii '/' then some b
  else if b = ascii 'b' then some 8
  else if b = ascii 'f' then some 12
  else if b = ascii 'n' then some 10
  else if b = ascii 'r' then some 13
  else if b = ascii 't' then some 9
  else none

/-- The bytes of the character with a code point. -/
def codePointBytes (n : Nat) : List UInt8 := (String.singleton (Char.ofNat n)).toUTF8.toList

/-- A byte that has to follow the first half of a surrogate pair. -/
def expectByte (ch : Char) (c : Cursor) : Except ReadError Cursor :=
  match c.rest with
  | [] => c.fail .endInString
  | b :: _ => if b = ascii ch then .ok c.next else c.next.fail .endOfHexEscape

/-- The bytes of the character that `\u` introduces. -/
def readUnicode (c : Cursor) : Except ReadError (List UInt8 × Cursor) := do
  let (n, c) ← readHex c
  if 0xDC00 ≤ n ∧ n ≤ 0xDFFF then c.fail .loneSurrogate
  else if n < 0xD800 ∨ 0xDBFF < n then .ok (codePointBytes n, c)
  else
    let c ← expectByte '\\' c
    let c ← expectByte 'u' c
    let (low, c) ← readHex c
    if low < 0xDC00 ∨ 0xDFFF < low then c.fail .loneSurrogate
    else .ok (codePointBytes ((n - 0xD800) * 0x400 + (low - 0xDC00) + 0x10000), c)

/-- The bytes of an escape, behind its backslash. -/
def readEscape (c : Cursor) : Reading (List UInt8) :=
  match c.rest with
  | [] => c.fail .endInString
  | b :: _ =>
    match simpleEscape b with
    | some byte => .ok ([byte], c.next)
    | none => if b = ascii 'u' then readUnicode c.next else c.next.fail .invalidEscape

/-- The bytes of a string, up to and over the closing quote.  Every step reads
at least one byte, so the number of bytes left is enough fuel. -/
def readBody : Nat → Cursor → Except ReadError (List UInt8 × Cursor)
  | 0, c => c.fail .endInString
  | fuel + 1, c =>
    match c.rest with
    | [] => c.fail .endInString
    | b :: _ =>
      if b = ascii '"' then .ok ([], c.next)
      else if b = ascii '\\' then do
        let (bytes, c) ← readEscape c.next
        let (more, c) ← readBody fuel c
        .ok (bytes ++ more, c)
      else if b.toNat < 0x20 then c.next.fail .controlCharacter
      else do
        let (more, c) ← readBody fuel c.next
        .ok (b :: more, c)

/-- The bytes of the string whose opening quote was just read. -/
def readString (c : Cursor) : Reading (List UInt8) := readBody (c.rest.length + 1) c

/-- The text of bytes read from a document. -/
def textOfBytes (bytes : List UInt8) : String :=
  (String.fromUTF8? (ByteArray.mk bytes.toArray)).getD ""

/-! ## Skipping a string -/

def skipEscape (c : Cursor) : Except ReadError Cursor :=
  match c.rest with
  | [] => c.fail .endInString
  | b :: _ =>
    if (simpleEscape b).isSome then .ok c.next
    else if b = ascii 'u' then (readHex c.next).map (·.2)
    else c.next.fail .invalidEscape

def skipBody : Nat → Cursor → Except ReadError Cursor
  | 0, c => c.fail .endInString
  | fuel + 1, c =>
    match c.rest with
    | [] => c.fail .endInString
    | b :: _ =>
      if b = ascii '"' then .ok c.next
      else if b = ascii '\\' then do
        let c ← skipEscape c.next
        skipBody fuel c
      else if b.toNat < 0x20 then c.fail .controlCharacter
      else skipBody fuel c.next

/-- The cursor behind the string whose opening quote was just read. -/
def skipString (c : Cursor) : Except ReadError Cursor := skipBody (c.rest.length + 1) c

end ScriptHost.Config
