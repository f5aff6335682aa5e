import ScriptHost.Text.Utf16

/-!
# Patterns

A regular expression matches at a place of a string, between what is in front of it and
what is behind it, and may look in both directions.  Patterns here take no part more than
once and capture nothing; of the flags there is only the one for all matches.

A string is searched from left to right.  Where something was found the search goes on
behind it, so matches do not overlap, and nothing that is found changes what is looked at.
-/

namespace ScriptHost.Script

/-- Units, from the first to the last of every range. -/
structure UnitClass where
  ranges : List (UInt16 × UInt16)
  /-- Whether the class has all units but these. -/
  negated : Bool := false
  deriving DecidableEq

namespace UnitClass

def accepts (c : UnitClass) (u : UInt16) : Bool :=
  (c.ranges.any fun r => r.1 ≤ u && u ≤ r.2) != c.negated

/-- The units of a list. -/
def ofUnits (us : Units) : UnitClass := ⟨us.map fun u => (u, u), false⟩

/-- Every unit that does not end a line. -/
def dot : UnitClass := { ofUnits [10, 13, 0x2028, 0x2029] with negated := true }

end UnitClass

inductive Pattern where
  | empty
  /-- One unit. -/
  | unit (c : UnitClass)
  | seq (p q : Pattern)
  /-- The first of two that leads to a match. -/
  | either (p q : Pattern)
  /-- Looks whether something is, or is not, behind a place or in front of it. -/
  | look (ahead wanted : Bool) (p : Pattern)
  /-- The beginning or the end of the string. -/
  | edge (atEnd : Bool)
  deriving DecidableEq

/-! ## Matching -/

/-- A place in a string: the units in front of it, the nearest first, and those behind. -/
structure Cursor where
  front : Units
  back : Units
  deriving DecidableEq

/-- The places where a match that starts at a place can end, or that ends at a place can
start, the one to be tried first in front. -/
def Pattern.ends : Pattern → Bool → Cursor → List Cursor
  | .empty, _, at_ => [at_]
  | .unit c, true, ⟨front, u :: back⟩ => if c.accepts u then [⟨u :: front, back⟩] else []
  | .unit c, false, ⟨u :: front, back⟩ => if c.accepts u then [⟨front, u :: back⟩] else []
  | .unit _, _, _ => []
  | .seq p q, true, at_ => (p.ends true at_).flatMap (q.ends true)
  | .seq p q, false, at_ => (q.ends false at_).flatMap (p.ends false)
  | .either p q, forward, at_ => p.ends forward at_ ++ q.ends forward at_
  | .look ahead wanted p, _, at_ => if (p.ends ahead at_).isEmpty = wanted then [] else [at_]
  | .edge atEnd, _, at_ => if (if atEnd then at_.back else at_.front).isEmpty then [at_] else []

/-- How many units a match takes that starts at a place. -/
def Pattern.length? (p : Pattern) (front back : Units) : Option Nat :=
  (p.ends true ⟨front, back⟩).head?.map fun e => back.length - e.back.length

/-- What a search finds in a string: matches, and the units between them. -/
inductive Piece where
  | kept (u : UInt16)
  | found (front matched back : Units)
  deriving DecidableEq

/-- What a search finds behind a place, after the match that `pending` more units belong
to.  A match that takes nothing keeps the next unit. -/
def Pattern.piecesFrom (p : Pattern) : Units → Nat → Units → List Piece
  | front, 0, [] =>
    match p.length? front [] with
    | some _ => [.found front.reverse [] []]
    | none => []
  | _, _ + 1, [] => []
  | front, 0, u :: back =>
    match p.length? front (u :: back) with
    | none => .kept u :: p.piecesFrom (u :: front) 0 back
    | some 0 =>
      .found front.reverse [] (u :: back) :: .kept u :: p.piecesFrom (u :: front) 0 back
    | some (n + 1) =>
      .found front.reverse ((u :: back).take (n + 1)) ((u :: back).drop (n + 1)) ::
        p.piecesFrom (u :: front) n back
  | front, n + 1, u :: back => p.piecesFrom (u :: front) n back

/-- What a search finds in a string. -/
def Pattern.pieces (p : Pattern) (s : Units) : List Piece := p.piecesFrom [] 0 s

/-- The string that pieces make, with something in place of each match. -/
def Piece.joined (replace : Units → Units → Units → Units) (ps : List Piece) : Units :=
  ps.flatMap fun
    | .kept u => [u]
    | .found front matched back => replace front matched back

/-- The string with every match replaced. -/
def Pattern.replaceAll (p : Pattern) (replacement s : Units) : Units :=
  Piece.joined (fun _ _ _ => replacement) (p.pieces s)

/-! ## Reading patterns -/

/-- The value of a hexadecimal digit. -/
def hexDigit? (c : Char) : Option Nat :=
  if '0' ≤ c && c ≤ '9' then some (c.toNat - 48)
  else if 'a' ≤ c && c ≤ 'f' then some (c.toNat - 87)
  else if 'A' ≤ c && c ≤ 'F' then some (c.toNat - 55)
  else none

namespace Pattern

/-- The value of hexadecimal digits. -/
private def hexValue (ds : List Char) : Option Nat :=
  ds.foldlM (fun n d => (hexDigit? d).map (16 * n + ·)) 0

/-- The unit of an escape after the backslash.  What has a meaning that is not known here
is none. -/
private def escapedUnit : List Char → Option (UInt16 × List Char)
  | 'u' :: a :: b :: c :: d :: rest => (hexValue [a, b, c, d]).map fun n => (UInt16.ofNat n, rest)
  | 'x' :: a :: b :: rest => (hexValue [a, b]).map fun n => (UInt16.ofNat n, rest)
  | 'n' :: rest => some (10, rest)
  | 't' :: rest => some (9, rest)
  | 'r' :: rest => some (13, rest)
  | 'v' :: rest => some (11, rest)
  | 'f' :: rest => some (12, rest)
  | c :: rest => if c.isAlphanum || 127 < c.toNat then none else some (UInt16.ofNat c.toNat, rest)
  | [] => none

/-- A member of a class: units of which only the last can start a range. -/
private def classMember : List Char → Option (Units × List Char)
  | '\\' :: rest => (escapedUnit rest).map fun (u, rest) => ([u], rest)
  | c :: rest => some (Units.ofChar c, rest)
  | [] => none

private def singles (us : Units) : List (UInt16 × UInt16) := us.map fun u => (u, u)

/-- The ranges of what `us` ends with and `vs` starts with, and of the other units. -/
private def rangesBetween (us vs : Units) : Option (List (UInt16 × UInt16)) :=
  match us.reverse, vs with
  | first :: others, last :: more =>
    if last < first then none else some (singles others.reverse ++ (first, last) :: singles more)
  | _, _ => none

/-- Reads the members of a class up to the closing bracket. -/
private def classRest : Nat → List (UInt16 × UInt16) → List Char →
    Option (List (UInt16 × UInt16) × List Char)
  | 0, _, _ => none
  | _ + 1, ranges, ']' :: rest => some (ranges, rest)
  | fuel + 1, ranges, cs => do
    let (us, rest) ← classMember cs
    match rest with
    | '-' :: c :: after =>
      if c = ']' then classRest fuel (ranges ++ singles us) rest
      else do
        let (vs, rest) ← classMember (c :: after)
        let between ← rangesBetween us vs
        classRest fuel (ranges ++ between) rest
    | rest => classRest fuel (ranges ++ singles us) rest

private def classOf (cs : List Char) : Option (UnitClass × List Char) :=
  match cs with
  | '^' :: rest => (classRest (cs.length + 1) [] rest).map fun (rs, rest) => (⟨rs, true⟩, rest)
  | cs => (classRest (cs.length + 1) [] cs).map fun (rs, rest) => (⟨rs, false⟩, rest)

/-- What a group is for, after its opening parenthesis. -/
private def groupStart : List Char → Option ((Pattern → Pattern) × List Char)
  | '?' :: ':' :: rest => some (id, rest)
  | '?' :: '=' :: rest => some (.look true true, rest)
  | '?' :: '!' :: rest => some (.look true false, rest)
  | '?' :: '<' :: '=' :: rest => some (.look false true, rest)
  | '?' :: '<' :: '!' :: rest => some (.look false false, rest)
  | _ => none

/-- Characters with a meaning of their own. -/
private def isSpecial (c : Char) : Bool := "^$\\.*+?()[]\x7b\x7d|/".contains c

/-- The units one after the other. -/
private def ofUnits (us : Units) : Pattern :=
  us.foldr (fun u p => .seq (.unit (.ofUnits [u])) p) .empty

mutual
/-- Reads one term. -/
private def term : Nat → List Char → Option (Pattern × List Char)
  | 0, _ => none
  | fuel + 1, cs =>
    match cs with
    | '.' :: rest => some (.unit .dot, rest)
    | '^' :: rest => some (.edge false, rest)
    | '$' :: rest => some (.edge true, rest)
    | '[' :: rest => (classOf rest).map fun (c, rest) => (.unit c, rest)
    | '\\' :: rest => (escapedUnit rest).map fun (u, rest) => (.unit (.ofUnits [u]), rest)
    | '(' :: rest => do
      let (make, rest) ← groupStart rest
      let (p, rest) ← choice fuel rest
      match rest with
      | ')' :: rest => some (make p, rest)
      | _ => none
    | c :: rest => if isSpecial c then none else some (ofUnits (Units.ofChar c), rest)
    | [] => none

/-- Reads terms up to the end of an alternative, after some. -/
private def sequence : Nat → Option Pattern → List Char → Option (Pattern × List Char)
  | 0, _, _ => none
  | fuel + 1, read, cs =>
    match cs with
    | [] => some (read.getD .empty, [])
    | '|' :: _ => some (read.getD .empty, cs)
    | ')' :: _ => some (read.getD .empty, cs)
    | cs => do
      let (p, rest) ← term fuel cs
      let p :=
        match read with
        | some q => .seq q p
        | none => p
      sequence fuel (some p) rest

/-- Reads alternatives. -/
private def choice : Nat → List Char → Option (Pattern × List Char)
  | 0, _ => none
  | fuel + 1, cs => do
    let (p, rest) ← sequence fuel none cs
    match rest with
    | '|' :: rest => do
      let (q, rest) ← choice fuel rest
      some (.either p q, rest)
    | rest => some (p, rest)
end

/-- The pattern that a text spells. -/
def ofText (cs : List Char) : Option Pattern :=
  match choice (2 * cs.length + 2) cs with
  | some (p, []) => some p
  | _ => none

/-- The text of a pattern up to the slash that ends it, outside every class. -/
private def textOf : Bool → List Char → List Char → Option (List Char × List Char)
  | _, _, [] => none
  | inClass, read, '\\' :: c :: rest =>
    if c = '\n' || c = '\r' then none else textOf inClass (c :: '\\' :: read) rest
  | inClass, read, c :: rest =>
    if c = '\n' || c = '\r' || c = '\u2028' || c = '\u2029' then none
    else if c = '/' && !inClass then some (read.reverse, rest)
    else textOf ((inClass || c = '[') && c != ']') (c :: read) rest

/-- A pattern with its flags. -/
structure Literal where
  pattern : Pattern
  /-- Whether all matches are looked for. -/
  all : Bool
  deriving DecidableEq

/-- Reads a pattern after the slash in front of it, and its flags. -/
def read (cs : List Char) : Option (Literal × List Char) := do
  let (body, rest) ← textOf false [] cs
  let p ← ofText body
  let flags := rest.takeWhile fun c => c.isAlphanum || c = '_' || c = '$'
  let rest := rest.drop flags.length
  match flags with
  | [] => some (⟨p, false⟩, rest)
  | ['g'] => some (⟨p, true⟩, rest)
  | _ => none

end Pattern

end ScriptHost.Script
