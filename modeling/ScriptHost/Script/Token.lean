import ScriptHost.Script.Program
import ScriptHost.Text.Identifier

/-!
# Tokens

A source is cut into words, literals and punctuation marks; blanks and comments
only leave a trace in the note whether a line ended in front of a token.  The
longest mark wins.  A source that cannot be cut has no tokens at all, since a
script is read as a whole before any of it runs.
-/

namespace ScriptHost.Script

inductive Token where
  /-- An identifier or keyword; `escaped` if it was not written letter by letter. -/
  | word (name : Name) (escaped : Bool)
  | literal (l : Literal)
  | pattern (l : Pattern.Literal)
  | mark (text : String)

/-- A token and where it stands. -/
structure Lexeme where
  token : Token
  /-- Whether a line ended between this token and the one before. -/
  freshLine : Bool
  /-- The source from the first character of the token on. -/
  source : List Char
  /-- The source behind the token. -/
  after : List Char

namespace Lexeme

/-! ## Blanks -/

def isLineEnd (c : Char) : Bool :=
  c == '\n' || c == '\r' || c == '\u2028' || c == '\u2029'

/-- The blanks that do not end a line. -/
def isBlank (c : Char) : Bool :=
  c == ' ' || c == '\t' || c == '\x0b' || c == '\x0c' || c == '\xa0' || c == '\ufeff' ||
    c == '\u1680' || (0x2000 ≤ c.toNat && c.toNat ≤ 0x200a) || c == '\u202f' ||
    c == '\u205f' || c == '\u3000'

private def afterLine (cs : List Char) : List Char := cs.dropWhile fun c => !isLineEnd c

/-- What follows a block comment, and whether it held the end of a line. -/
private def afterBlock : List Char → Bool → Option (List Char × Bool)
  | '*' :: '/' :: rest, fresh => some (rest, fresh)
  | c :: rest, fresh => afterBlock rest (fresh || isLineEnd c)
  | [], _ => none

/-- Skips blanks and comments. -/
def skip : Nat → List Char → Bool → Option (List Char × Bool)
  | 0, cs, fresh => some (cs, fresh)
  | fuel + 1, cs, fresh =>
    match cs with
    | [] => some ([], fresh)
    | '/' :: '/' :: rest => skip fuel (afterLine rest) fresh
    | '/' :: '*' :: rest => do
      let (rest, fresh) ← afterBlock rest fresh
      skip fuel rest fresh
    | '<' :: '!' :: '-' :: '-' :: rest => skip fuel (afterLine rest) fresh
    | c :: rest =>
      if isLineEnd c then skip fuel rest true
      else if isBlank c then skip fuel rest fresh
      else if fresh && c == '-' && rest.take 2 == ['-', '>'] then skip fuel (afterLine rest) fresh
      else some (cs, fresh)

/-! ## Escapes -/

/-- A number of exactly `n` hexadecimal digits. -/
private def hexDigits : Nat → List Char → Nat → Option (Nat × List Char)
  | 0, cs, value => some (value, cs)
  | n + 1, c :: cs, value => (hexDigit? c).bind fun d => hexDigits n cs (16 * value + d)
  | _ + 1, [], _ => none

/-- A code point between braces. -/
private def bracedCode : List Char → Nat → Bool → Option (Nat × List Char)
  | '\x7d' :: cs, value, true => some (value, cs)
  | c :: cs, value, _ => do
    let d ← hexDigit? c
    if 16 * value + d ≤ 0x10ffff then bracedCode cs (16 * value + d) true else none
  | [], _, _ => none

/-- The code after `\u`. -/
private def unicodeEscape : List Char → Option (Nat × List Char)
  | '\x7b' :: cs => bracedCode cs 0 false
  | cs => hexDigits 4 cs 0

/-- The units of a code point, a lone surrogate included. -/
private def unitsOfCode (n : Nat) : Units :=
  if n < 0x10000 then [UInt16.ofNat n] else Units.ofChar (Char.ofNat n)

/-! ## Words -/

/-- Reads an identifier up to its end. -/
private def readWord : Nat → List Char → Units → Bool → Bool → Option (Units × Bool × List Char)
  | 0, _, _, _, _ => none
  | fuel + 1, cs, name, escaped, first =>
    let accepts (c : Char) : Bool :=
      if first then Text.isIdentifierStart c else Text.isIdentifierPart c
    match cs with
    | '\\' :: 'u' :: rest => do
      let (code, rest) ← unicodeEscape rest
      if accepts (Char.ofNat code) then
        readWord fuel rest (name ++ unitsOfCode code) true false
      else none
    | '\\' :: _ => none
    | c :: rest =>
      if accepts c then readWord fuel rest (name ++ Units.ofChar c) escaped false
      else if first then none else some (name, escaped, cs)
    | [] => if first then none else some (name, escaped, [])

/-! ## Numbers -/

/-- Digits of a base, with single underscores between them. -/
private def readDigits (base : Nat) : List Char → Nat → Nat → Option (Nat × Nat × List Char)
  | '_' :: c :: rest, value, count =>
    match hexDigit? c with
    | some d =>
      if d < base && 0 < count then readDigits base rest (base * value + d) (count + 1) else none
    | none => none
  | c :: rest, value, count =>
    match hexDigit? c with
    | some d =>
      if d < base then readDigits base rest (base * value + d) (count + 1)
      else some (value, count, c :: rest)
    | none => if c = '_' then none else some (value, count, c :: rest)
  | [], value, count => some (value, count, [])

/-- A number as a literal: a small integer if it is one. -/
def ofNumber (x : Double) : Literal :=
  match x.toInt32? with
  | some n => .int (Int32.ofInt n)
  | none => .float x

/-- The decimal exponent at the front of a text, zero if there is none. -/
private def readExponent (cs : List Char) : Option (Int × List Char) :=
  let digits (negative : Bool) (rest : List Char) : Option (Int × List Char) := do
    let (value, count, rest) ← readDigits 10 rest 0 0
    if count = 0 then none else some (if negative then -(value : Int) else value, rest)
  match cs with
  | c :: rest =>
    if c = 'e' || c = 'E' then
      match rest with
      | '+' :: rest => digits false rest
      | '-' :: rest => digits true rest
      | rest => digits false rest
    else some (0, cs)
  | [] => some (0, [])

/-- An integer of a given base after its two-character mark. -/
private def readBased (base : Nat) (cs : List Char) : Option (Literal × List Char) := do
  let (value, count, rest) ← readDigits base cs 0 0
  if count = 0 then none
  else
    match rest with
    | 'n' :: rest => some (.bigint value, rest)
    | rest => some (ofNumber (Double.ofInt value), rest)

private def readDecimal (cs : List Char) : Option (Literal × List Char) := do
  let (whole, wholeCount, rest) ← readDigits 10 cs 0 0
  if 1 < wholeCount && cs.head? == some '0' then none
  else
    match rest with
    | 'n' :: rest => if wholeCount = 0 then none else some (.bigint whole, rest)
    | '.' :: rest =>
      let (digits, count, rest) ← readDigits 10 rest whole 0
      let (e, rest) ← readExponent rest
      if wholeCount + count = 0 then none
      else some (ofNumber (Double.ofDecimal false digits (e - count)), rest)
    | rest =>
      let (e, rest) ← readExponent rest
      if wholeCount = 0 then none
      else some (ofNumber (Double.ofDecimal false whole e), rest)

/-- Reads a number; no word may follow it at once. -/
private def readNumber (cs : List Char) : Option (Literal × List Char) := do
  let (l, rest) ←
    match cs with
    | '0' :: c :: rest =>
      if c = 'x' || c = 'X' then readBased 16 rest
      else if c = 'o' || c = 'O' then readBased 8 rest
      else if c = 'b' || c = 'B' then readBased 2 rest
      else readDecimal cs
    | cs => readDecimal cs
  match rest with
  | c :: _ => if Text.isIdentifierPart c || c = '\\' then none else some (l, rest)
  | [] => some (l, [])

/-! ## Strings -/

/-- Reads a string up to the quote that opened it. -/
private def readString (quote : Char) : Nat → List Char → Units → Option (Units × List Char)
  | 0, _, _ => none
  | fuel + 1, cs, read =>
    let go (rest : List Char) (us : Units) : Option (Units × List Char) :=
      readString quote fuel rest (us.reverse ++ read)
    match cs with
    | [] => none
    | '\\' :: rest =>
      match rest with
      | [] => none
      | 'n' :: rest => go rest [10]
      | 't' :: rest => go rest [9]
      | 'r' :: rest => go rest [13]
      | 'b' :: rest => go rest [8]
      | 'v' :: rest => go rest [11]
      | 'f' :: rest => go rest [12]
      | '\r' :: '\n' :: rest => go rest []
      | 'x' :: rest => (hexDigits 2 rest 0).bind fun (code, rest) => go rest (unitsOfCode code)
      | 'u' :: rest => (unicodeEscape rest).bind fun (code, rest) => go rest (unitsOfCode code)
      | c :: rest =>
        if c = '0' && !(rest.head?.any Char.isDigit) then go rest [0]
        else if c.isDigit then none
        else if isLineEnd c then go rest []
        else go rest (Units.ofChar c)
    | c :: rest =>
      if c = quote then some (read.reverse, rest)
      else if c = '\n' || c = '\r' then none
      else go rest (Units.ofChar c)

/-! ## Marks -/

/-- The punctuation marks, longer ones in front of their beginnings. -/
def marks : List String :=
  [">>>=", "...", "===", "!==", "**=", "<<=", ">>=", ">>>", "&&=", "||=", "??=", "=>", "==", "!=",
    "<=", ">=", "&&", "||", "??", "++", "--", "+=", "-=", "*=", "/=", "%=", "&=", "|=", "^=", "<<",
    ">>", "**", "\x7b", "\x7d", "(", ")", "[", "]", ";", ",", "<", ">", "+", "-", "*", "/", "%",
    "&", "|", "^", "!", "~", "?", ":", "=", "."]

/-- What is left after the characters of `m`. -/
private def dropMark : List Char → List Char → Option (List Char)
  | [], cs => some cs
  | m :: ms, c :: cs => if m = c then dropMark ms cs else none
  | _ :: _, [] => none

private def readMark (cs : List Char) : Option (Token × List Char) :=
  marks.findSome? fun m => (dropMark m.toList cs).map fun rest => (.mark m, rest)

/-! ## The whole source -/

/-- The words that an expression follows. -/
def operatorWords : List Name :=
  ["return", "typeof", "void", "delete", "throw", "new", "in", "instanceof", "case", "do",
    "else"].map text

/-- Whether a slash behind a token starts a pattern.  Behind the end of an expression it
divides; a parenthesis or a brace that closes is taken for such an end. -/
def startsPattern : Option Token → Bool
  | none => true
  | some (.word n _) => operatorWords.contains n
  | some (.literal _) => false
  | some (.pattern _) => false
  | some (.mark m) => m ∉ [")", "]", "\x7d", "++", "--"]

/-- Reads one token behind another; `fuel` is more than the length of the source. -/
private def readToken (fuel : Nat) (before : Option Token) (cs : List Char) :
    Option (Token × List Char) :=
  match cs with
  | [] => none
  | c :: rest =>
    if c = '/' && startsPattern before then
      (Pattern.read rest).map fun (l, rest) => (.pattern l, rest)
    else if c = '"' || c = '\'' then
      (readString c fuel rest []).map fun (s, rest) => (.literal (.string s), rest)
    else if c.isDigit || (c = '.' && rest.head?.any Char.isDigit) then
      (readNumber cs).map fun (l, rest) => (.literal l, rest)
    else if c = '\\' || Text.isIdentifierStart c then
      (readWord fuel cs [] false true).map fun (n, escaped, rest) =>
        (.word n escaped, rest)
    else readMark cs

/-- Reads all tokens.  Every token takes a character at least, so what is left of the
fuel is always more than what is left of the source. -/
private def readAll : Nat → List Char → Bool → List Lexeme → Option (List Lexeme)
  | 0, _, _, _ => none
  | fuel + 1, cs, fresh, read => do
    let (cs, fresh) ← skip (fuel + 1) cs fresh
    match cs with
    | [] => some read.reverse
    | cs => do
      let (token, rest) ← readToken (fuel + 1) (read.head?.map Lexeme.token) cs
      readAll fuel rest false (⟨token, fresh, cs, rest⟩ :: read)

/-- The tokens of a source.  A line that starts with `#!` in front of everything
is left out. -/
def ofSource (source : List Char) : Option (List Lexeme) :=
  let cs :=
    match source with
    | '#' :: '!' :: rest => afterLine rest
    | cs => cs
  readAll (cs.length + 1) cs true []

end Lexeme

end ScriptHost.Script
