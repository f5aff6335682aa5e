import ScriptHost.Text.Quoted

/-!
# Debug texts

A debug text is the drawing of a small tree: a leaf, a name with unnamed fields,
a name with named fields, or a map.  The compact drawing stands on one line; the
pretty one gives every field a line of its own, four spaces deeper than the name
it belongs to.
-/

namespace ScriptHost

/-- What a debug text draws. -/
inductive DebugTree where
  | leaf (text : String)
  /-- A name and its unnamed fields. -/
  | tuple (name : String) (fields : List DebugTree)
  /-- Quoted keys and their values, in order. -/
  | map (entries : List (String × DebugTree))
  /-- A name and its named fields; `rest` says that more is not shown. -/
  | record (name : String) (fields : List (String × DebugTree)) (rest : Bool)

namespace DebugTree

mutual
/-- The drawing on one line. -/
def compact : DebugTree → String
  | leaf text => text
  | tuple name fields => name ++ "(" ++ ", ".intercalate (compactAll fields) ++ ")"
  | map entries =>
    "\x7b" ++ ", ".intercalate (compactEntries Text.quote entries) ++ "\x7d"
  | record name fields rest =>
    name ++ " \x7b " ++
      ", ".intercalate (compactEntries id fields ++ (if rest then [".."] else [])) ++ " \x7d"

def compactAll : List DebugTree → List String
  | [] => []
  | t :: ts => compact t :: compactAll ts

def compactEntries (key : String → String) : List (String × DebugTree) → List String
  | [] => []
  | (k, t) :: ts => (key k ++ ": " ++ compact t) :: compactEntries key ts
end

/-- `n` levels of indentation. -/
private def margin (n : Nat) : String := String.ofList (List.replicate (4 * n) ' ')

/-- Lines between an opening and a closing bracket, nothing between them if there
are none. -/
private def block (depth : Nat) (opening closing : String) (lines : List String) : String :=
  if lines.isEmpty then opening ++ closing
  else
    opening ++ "\n" ++ String.join (lines.map fun l => margin (depth + 1) ++ l ++ ",\n") ++
      margin depth ++ closing

mutual
/-- The drawing over several lines, at a depth. -/
def prettyAt (depth : Nat) : DebugTree → String
  | leaf text => text
  | tuple name fields => name ++ block depth "(" ")" (prettyAll (depth + 1) fields)
  | map entries => block depth "\x7b" "\x7d" (prettyEntries (depth + 1) Text.quote entries)
  | record name fields _ =>
    name ++ " " ++ block depth "\x7b" "\x7d" (prettyEntries (depth + 1) id fields)

def prettyAll (depth : Nat) : List DebugTree → List String
  | [] => []
  | t :: ts => prettyAt depth t :: prettyAll depth ts

def prettyEntries (depth : Nat) (key : String → String) :
    List (String × DebugTree) → List String
  | [] => []
  | (k, t) :: ts => (key k ++ ": " ++ prettyAt depth t) :: prettyEntries depth key ts
end

/-- The drawing over several lines. -/
def pretty (t : DebugTree) : String := prettyAt 0 t

end DebugTree

end ScriptHost
