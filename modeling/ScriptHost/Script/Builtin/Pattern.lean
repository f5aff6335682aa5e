import ScriptHost.Script.Builtin.Text

/-!
# Functions of patterns

A pattern replaces what it matches by way of its own properties: its flags say whether all
matches are looked for, and its function `exec` looks for one match at a time.  Scripts can
replace both.  As long as `exec` is the function that every realm has, no code of a script
runs during the search, so it is made at once.
-/

namespace ScriptHost.Script

variable (ev : Evaluator)

/-! ## Flags -/

/-- The pattern that a value is. -/
def Heap.pattern? (h : Heap) : Val → Option Pattern.Literal
  | .object r =>
    match (h.object r).kind with
    | .pattern l => some l
    | _ => none
  | _ => none

/-- Whether a pattern has a flag.  The object that patterns inherit from has none. -/
def patternFlag (receiver : Val) (flag : Char) : Action Val := do
  let l ← Action.read fun h => h.pattern? receiver
  match l with
  | some l => pure (.bool (flag = 'g' && l.all))
  | none =>
    if receiver = .object Place.patternPrototype then pure .undefined
    else raiseError .type (text "RegExp object expected")

/-- The flags of a pattern, each by its own property. -/
def patternFlags (receiver : Val) : Action Val :=
  match receiver with
  | .object _ => do
    let flags ← Action.each (fun (flag, name) => do
      let v ← getProperty ev receiver (key name)
      pure (if v.truthy then [flag] else [])) patternFlagNames
    pure (.string (text (String.ofList flags.flatten)))
  | _ => raiseError .type (text "not an object")

/-! ## Looking for a match -/

/-- A number that a value gives, from zero on. -/
def toIndex (v : Val) : Action Nat := do
  let x ← toDouble ev v
  pure (if x.isFinite then x.truncate.toNat else 0)

/-- What a search has found: the text and where it starts. -/
structure Found where
  start : Nat
  matched : Units

/-- The matches in a string. -/
def Piece.found? : Piece → Option Found
  | .kept _ => none
  | .found front matched _ => some ⟨front.length, matched⟩

/-- The matches that a search finds in a string from a place on. -/
def Pattern.matchesFrom (p : Pattern) (start : Nat) (s : Units) : List Found :=
  (p.piecesFrom (s.take start).reverse 0 (s.drop start)).filterMap Piece.found?

/-- The first match, from a place on if all matches are looked for. -/
def Pattern.Literal.nextMatch (l : Pattern.Literal) (last : Nat) (s : Units) : Option Found :=
  let start := if l.all then last else 0
  if s.length < start then none else (l.pattern.matchesFrom start s).head?

/-- The object that says what was found. -/
def matchObject (f : Found) (s : Units) : Action Val := do
  let m ← newArray [.string f.matched]
  match m with
  | .object r => do
    Action.change fun h => h.modify r fun o =>
      ((o.put (key "index") (.plain (.ofNat f.start))).put (key "input")
        (.plain (.string s))).put (key "groups") (.plain .undefined)
    pure m
  | m => pure m

/-- Remembers where the next search starts, if all matches are looked for. -/
def setLastIndex (receiver : Val) (all : Bool) (n : Nat) : Action Unit :=
  if all then setProperty ev receiver (key "lastIndex") (.ofNat n) else pure ()

/-- Where the next search starts. -/
def lastIndexOf (receiver : Val) : Action Nat := do
  let n ← getProperty ev receiver (key "lastIndex")
  toIndex ev n

/-- Looks for the next match of a pattern, which remembers where to go on if all matches
are looked for. -/
def patternExec (receiver : Val) (s : Units) : Action Val := do
  let l ← Action.read fun h => h.pattern? receiver
  match l with
  | none => raiseError .type (text "RegExp object expected")
  | some l => do
    let last ← lastIndexOf ev receiver
    match l.nextMatch last s with
    | none => do
      setLastIndex ev receiver l.all 0
      pure .null
    | some f => do
      setLastIndex ev receiver l.all (f.start + f.matched.length)
      matchObject f s

/-! ## Replacing -/

/-- Calls what a value has as `exec`. -/
def execOf (receiver : Val) (s : Units) : Action Val := do
  let f ← getProperty ev receiver (key "exec")
  let callable ← Action.read fun h => h.isCallable f
  if callable then do
    let m ← ev.call f receiver [.string s]
    match m with
    | .object _ => pure m
    | .null => pure m
    | _ => raiseError .type (text "object or null expected")
  else patternExec ev receiver s

/-- What an object says that was found. -/
def foundIn (m : Val) : Action Found := do
  let t ← getProperty ev m (indexKey 0)
  let t ← toUnits ev t
  let i ← getProperty ev m (key "index")
  let i ← toIndex ev i
  pure ⟨i, t⟩

/-- Goes on behind a match.  One that takes nothing is not looked for again. -/
def passMatch (receiver m : Val) : Action Unit := do
  let t ← getProperty ev m (indexKey 0)
  let t ← toUnits ev t
  if t.isEmpty then do
    let last ← lastIndexOf ev receiver
    setLastIndex ev receiver true (last + 1)
  else pure ()

/-- Looks for matches by `exec`, until none is found or one is enough. -/
def execAll (receiver : Val) (all : Bool) (s : Units) : Nat → List Val → Action (List Val)
  | 0, _ => raiseTooDeep
  | n + 1, found => do
    let m ← execOf ev receiver s
    if m = .null then pure found.reverse
    else if all then do
      passMatch ev receiver m
      execAll receiver all s n (m :: found)
    else pure (m :: found).reverse

/-- Whether `exec` of a value is the function that every realm has. -/
def Heap.execIntact (h : Heap) (v : Val) : Bool :=
  match v with
  | .object r =>
    match h.findProperty? r (key "exec") with
    | some (_, ⟨.data f _, _, _⟩) =>
      match h.callable? f with
      | some (.builtin .patternExec) => true
      | _ => false
    | _ => false
  | _ => false

/-- The matches of a pattern, all of them or the first one. -/
def matchesOf (receiver : Val) (all : Bool) (s : Units) : Action (List Found) := do
  let l ← Action.read fun h =>
    if h.execIntact receiver then (h.pattern? receiver).filter fun l => l.all == all else none
  match l with
  | some l =>
    let found := l.pattern.matchesFrom 0 s
    pure (if all then found else found.take 1)
  | none => do
    let found ← execAll ev receiver all s (Nat.pow 2 53) []
    Action.each (foundIn ev) found

/-- The string with something in place of every match, after `done` of its units.  A match
that starts in front of what is done is left out. -/
def replaceFound (s : Units) : Nat → List (Found × Units) → Units
  | done, [] => s.drop done
  | done, (f, r) :: rest =>
    if done ≤ f.start then
      (s.drop done).take (f.start - done) ++ r ++
        replaceFound s (f.start + f.matched.length) rest
    else replaceFound s done rest

/-- What is put in place of a match: a function is asked, and a text is filled in. -/
def replacementFor (replacement : Val) (template : Option Units) (s : Units) (f : Found) :
    Action (Found × Units) :=
  match template with
  | some t =>
    pure (f, fillReplacement (s.take f.start) f.matched (s.drop (f.start + f.matched.length)) t)
  | none => do
    let v ← ev.call replacement .undefined [.string f.matched, .ofNat f.start, .string s]
    let t ← toUnits ev v
    pure (f, t)

/-- The text of a replacement that is no function. -/
def templateOf (replacement : Val) : Action (Option Units) := do
  let callable ← Action.read fun h => h.isCallable replacement
  if callable then pure none
  else do
    let t ← toUnits ev replacement
    pure (some t)

/-- Replaces what a pattern matches. -/
def patternReplace (receiver s replacement : Val) : Action Val :=
  match receiver with
  | .object _ => do
    let s ← toUnits ev s
    let template ← templateOf ev replacement
    let flags ← getProperty ev receiver (key "flags")
    let flags ← toUnits ev flags
    let all := flags.contains 103
    setLastIndex ev receiver all 0
    let found ← matchesOf ev receiver all s
    let replaced ← Action.each (replacementFor ev replacement template s) found
    newString ev (replaceFound s 0 replaced)
  | _ => raiseError .type (text "not an object")

end ScriptHost.Script
