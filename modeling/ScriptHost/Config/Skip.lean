import ScriptHost.Config.Numeral
import ScriptHost.Config.Quoted

/-!
# Values that do not matter

An unknown field may hold any well-formed value.  Its brackets are kept on a
stack of their own, so nesting has no limit; what is checked is the syntax alone.
-/

namespace ScriptHost.Config

/-- An open bracket. -/
inductive Frame where
  | list
  | object
  deriving DecidableEq, Repr

/-- The cursor behind the remaining letters of a word. -/
def readWord : List Char → Cursor → Except ReadError Cursor
  | [], c => .ok c
  | ch :: letters, c =>
    match c.rest with
    | [] => c.fail .endInValue
    | b :: _ => if b = ascii ch then readWord letters c.next else c.next.fail .expectedIdent

/-- Opens the value at the cursor: a bracket is pushed, any other value is read
whole. -/
def openValue (c : Cursor) : Except ReadError (Option Frame × Cursor) :=
  match c.rest with
  | [] => c.failPeek .endInValue
  | b :: _ =>
    if b = ascii 'n' then (readWord ['u', 'l', 'l'] c.next).map (none, ·)
    else if b = ascii 't' then (readWord ['r', 'u', 'e'] c.next).map (none, ·)
    else if b = ascii 'f' then (readWord ['a', 'l', 's', 'e'] c.next).map (none, ·)
    else if b = ascii '-' || isDigit b then (skipNumeral c).map (none, ·)
    else if b = ascii '"' then (skipString c.next).map (none, ·)
    else if b = ascii '[' then .ok (some .list, c.next)
    else if b = ascii '\x7b' then .ok (some .object, c.next)
    else c.failPeek .expectedValue

/-- The key of a member and its colon. -/
def skipKey (c : Cursor) : Except ReadError Cursor := do
  let c := c.skipBlanks
  match c.rest with
  | [] => c.failPeek .endInObject
  | b :: _ =>
    if b = ascii '"' then
      let c ← skipString c.next
      let c := c.skipBlanks
      match c.rest with
      | [] => c.failPeek .endInObject
      | b :: _ => if b = ascii ':' then .ok c.next else c.failPeek .expectedColon
    else c.failPeek .keyNotString

/-- Closes brackets as long as they close, then stands before the next value of
the innermost one; nothing is returned once the last bracket is closed.  `comma`
says that a value was just read, so a comma may follow. -/
def closeFrames (comma : Bool) : List Frame → Cursor → Except ReadError (List Frame × Cursor)
  | [], c => .ok ([], c)
  | frame :: outer, c =>
    let c := c.skipBlanks
    match c.rest with
    | [] => c.failPeek (match frame with
      | .list => .endInList
      | .object => .endInObject)
    | b :: _ =>
      if b = ascii ',' && comma then .ok (frame :: outer, c.next)
      else if (b = ascii ']' && frame == .list) || (b = ascii '\x7d' && frame == .object) then
        closeFrames true outer c.next
      else if comma then c.failPeek (match frame with
        | .list => .expectedCommaOrBracket
        | .object => .expectedCommaOrBrace)
      else .ok (frame :: outer, c)

/-- Reads values until all brackets are closed.  Every round reads at least one
byte, so the number of bytes left is enough fuel. -/
def skipValues : Nat → List Frame → Cursor → Except ReadError Cursor
  | 0, _, c => c.fail .endInValue
  | fuel + 1, frames, c => do
    let (opened, c) ← openValue c.skipBlanks
    let (frames, c) ← match opened with
      | some frame => closeFrames false (frame :: frames) c
      | none => closeFrames true frames c
    match frames with
    | [] => .ok c
    | .list :: _ => skipValues fuel frames c
    | .object :: _ => do
      let c ← skipKey c
      skipValues fuel frames c

/-- The cursor behind the value at the cursor. -/
def skipValue (c : Cursor) : Except ReadError Cursor := skipValues (c.rest.length + 1) [] c

end ScriptHost.Config
