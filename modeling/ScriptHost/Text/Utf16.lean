/-!
# Strings of UTF-16 code units

A script string is a list of sixteen-bit units.  It is well formed when every
surrogate unit belongs to a pair, a high one followed at once by a low one; then
it is the encoding of exactly one text.  `decode` reads well-formed strings,
`decodeLossy` reads every string and puts one U+FFFD in the place of each
unpaired surrogate.
-/

namespace ScriptHost

/-- A string as a script holds it. -/
abbrev Units := List UInt16

namespace Units

/-- The first unit of a pair. -/
def isHigh (u : UInt16) : Bool := decide (0xD800 ≤ u.toNat ∧ u.toNat ≤ 0xDBFF)

/-- The second unit of a pair. -/
def isLow (u : UInt16) : Bool := decide (0xDC00 ≤ u.toNat ∧ u.toNat ≤ 0xDFFF)

/-- The character of a pair. -/
def pairChar (high low : UInt16) : Char :=
  Char.ofNat (0x10000 + (high.toNat - 0xD800) * 0x400 + (low.toNat - 0xDC00))

/-- The units of one character. -/
def ofChar (c : Char) : Units :=
  if c.toNat < 0x10000 then [UInt16.ofNat c.toNat]
  else
    let n := c.toNat - 0x10000
    [UInt16.ofNat (0xD800 + n / 0x400), UInt16.ofNat (0xDC00 + n % 0x400)]

/-- The encoding of a text. -/
def encode (cs : List Char) : Units := cs.flatMap ofChar

/-- The encoding of a string. -/
def ofString (s : String) : Units := encode s.toList

/-- The text of a well-formed string. -/
def decode : Units → Option (List Char)
  | [] => some []
  | [u] => if isHigh u || isLow u then none else some [Char.ofNat u.toNat]
  | u :: v :: rest =>
    if isHigh u then
      if isLow v then (decode rest).map (pairChar u v :: ·) else none
    else if isLow u then none
    else (decode (v :: rest)).map (Char.ofNat u.toNat :: ·)

/-- The character that stands for what cannot be read. -/
def replacement : Char := '\uFFFD'

/-- The text of any string: pairs are decoded, each unpaired surrogate becomes
one replacement character, every other unit stands for itself. -/
def decodeLossy : Units → List Char
  | [] => []
  | [u] => if isHigh u || isLow u then [replacement] else [Char.ofNat u.toNat]
  | u :: v :: rest =>
    if isHigh u then
      if isLow v then pairChar u v :: decodeLossy rest
      else replacement :: decodeLossy (v :: rest)
    else if isLow u then replacement :: decodeLossy (v :: rest)
    else Char.ofNat u.toNat :: decodeLossy (v :: rest)

/-- The string of a well-formed unit list. -/
def toString? (us : Units) : Option String := (decode us).map String.ofList

/-- Number of UTF-8 bytes in front of the first unpaired surrogate. -/
def validUpTo : Units → Nat
  | [] => 0
  | [u] => if isHigh u || isLow u then 0 else (Char.ofNat u.toNat).utf8Size
  | u :: v :: rest =>
    if isHigh u then
      if isLow v then (pairChar u v).utf8Size + validUpTo rest else 0
    else if isLow u then 0
    else (Char.ofNat u.toNat).utf8Size + validUpTo (v :: rest)

/-! ## Keys that are array indices -/

/-- The digit that a unit is. -/
def digitOf (u : UInt16) : Option Nat :=
  if 48 ≤ u.toNat ∧ u.toNat ≤ 57 then some (u.toNat - 48) else none

/-- The number that digits spell behind those of a number. -/
def readDigits : Units → Nat → Option Nat
  | [], n => some n
  | u :: rest, n => (digitOf u).bind fun d => readDigits rest (n * 10 + d)

/-- The number that a string spells in canonical decimal form, if it is at most
`2 ^ 32 - 2`. -/
def arrayIndex? (us : Units) : Option Nat :=
  match us with
  | [] => none
  | u :: rest =>
    if (digitOf u).isNone then none
    else if u = 48 then (if rest.isEmpty then some 0 else none)
    else if 10 < us.length then none
    else (readDigits us 0).bind fun n => if n ≤ 4294967294 then some n else none

end Units

end ScriptHost
