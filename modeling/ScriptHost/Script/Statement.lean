import ScriptHost.Script.Expression

/-!
# Running statements

A statement leads to the next one, out of a loop, on to the next round, or out of
the function with an answer.  While the statements of a script itself run, the
value of every expression statement is noted; conditions, loops and guarded
blocks start by noting undefined.
-/

namespace ScriptHost.Script

variable (ev : Evaluator)

/-! ## The value of a script -/

/-- The name that the value of a script is kept under; no program can say it. -/
def completionName : Name := []

/-- Notes the value of a script. -/
def note (env : Env) (v : Val) : Action Unit :=
  match env.completion with
  | some r => Action.change fun h => h.modifyScope r fun s => s.assign completionName v
  | none => pure ()

/-- The value that is noted. -/
def noted (env : Env) : Action Val :=
  match env.completion with
  | some r =>
    Action.read fun h => ((h.scope r).find? completionName).bind (·.value) |>.getD .undefined
  | none => pure .undefined

/-! ## Blocks and declarations -/

/-- A scope inside the scope of an environment. -/
def innerScope (env : Env) (bindings : List (Name × Binding)) : Action Env := do
  let r ← Action.update fun h => h.allocateScope ⟨bindings, some env.scope⟩
  pure { env with scope := r, labels := [] }

/-- Enters a block. -/
def enterBlock (env : Env) (body : List Stmt) : Action Env :=
  if (lexicalNames body).isEmpty && (functionsOf body).isEmpty then
    pure { env with labels := [] }
  else do
    let env ← innerScope env []
    declareLexical env.scope body
    declareFunctions env body
    pure env

def runBlock (env : Env) (body : List Stmt) : Action Flow := do
  let env ← enterBlock env body
  runAll ev env body

/-- Gives a lexical name its first value. -/
def giveFirstValue (env : Env) (n : Name) (v : Val) : Action Unit :=
  Action.change fun h => h.modifyScope env.scope fun s => s.assign n v

def declareOne (env : Env) (d : Declarator) (b : Name × Option Expr) : Action Unit :=
  match d, b.2 with
  | .var, none => pure ()
  | .var, some e => do
    let known ← lookUp env b.1
    let v ← ev.expr env e
    writeName ev env b.1 known v
  | _, e => do
    let v ←
      match e with
      | some e => ev.expr env e
      | none => pure .undefined
    giveFirstValue env b.1 v

/-! ## Loops -/

/-- How many rounds a loop runs at most. -/
def roundLimit : Nat := Nat.pow 2 53

/-- What a loop does after a round: go on, or lead somewhere. -/
def afterRound (labels : List Name) (flow : Flow) : Option Flow :=
  match flow with
  | .next => none
  | .advance none => none
  | .leave none => some .next
  | .advance (some l) => if labels.contains l then none else some (.advance (some l))
  | flow => some flow

/-- Runs rounds until one leads somewhere.  A round is told the environment and
gives the one for the next round. -/
def rounds (labels : List Name) (round : Env → Action (Option Flow × Env)) :
    Nat → Env → Action Flow
  | 0, _ => raiseTooDeep
  | n + 1, env => do
    let (flow, env) ← round env
    match flow with
    | none => rounds labels round n env
    | some flow => pure flow

def whileRound (c : Expr) (labels : List Name) (body : Stmt) (env : Env) :
    Action (Option Flow × Env) := do
  let v ← ev.expr env c
  if v.truthy then do
    let flow ← ev.stmt env body
    pure (afterRound labels flow, env)
  else pure (some .next, env)

def repeatRound (c : Expr) (labels : List Name) (body : Stmt) (env : Env) :
    Action (Option Flow × Env) := do
  let flow ← ev.stmt env body
  match afterRound labels flow with
  | some flow => pure (some flow, env)
  | none => do
    let v ← ev.expr env c
    pure (if v.truthy then none else some .next, env)

/-- A scope for the next round, with the values of this one. -/
def copyScope (env : Env) : Action Env := do
  let r ← Action.update fun h => h.allocateScope (h.scope env.scope)
  pure { env with scope := r }

def optionalExpr (env : Env) (e : Option Expr) (absent : Val) : Action Val :=
  match e with
  | some e => ev.expr env e
  | none => pure absent

def loopRound (fresh : Bool) (c next : Option Expr) (labels : List Name) (body : Stmt)
    (env : Env) : Action (Option Flow × Env) := do
  let v ← optionalExpr ev env c (.bool true)
  if v.truthy then do
    let flow ← ev.stmt env body
    match afterRound labels flow with
    | some flow => pure (some flow, env)
    | none => do
      let env ← if fresh then copyScope env else pure env
      let _ ← optionalExpr ev env next .undefined
      pure (none, env)
  else pure (some .next, env)

def runLoop (env : Env) (start : Stmt) (c next : Option Expr) (body : Stmt) :
    Action Flow := do
  let labels := env.labels
  let fresh := !(lexicalNames [start]).isEmpty
  let env ← enterBlock env [start]
  let silent := { env with completion := none }
  let _ ← ev.stmt silent start
  rounds labels (loopRound ev fresh c next labels body) roundLimit env

/-! ## Guarded blocks -/

/-- Runs the handler of a guarded block. -/
def runHandler (env : Env) (param : Option Name) (body : List Stmt) (v : Val) :
    Action Flow := do
  let env ←
    match param with
    | some n => innerScope env [(n, ⟨some v, true⟩)]
    | none => pure env
  runBlock ev env body

/-- Runs a guarded block with its handler. -/
def runGuarded (env : Env) (body : List Stmt)
    (handler : Option (Option Name × List Stmt)) : Action Flow :=
  match handler with
  | none => framed ev.stack (runBlock ev env body)
  | some (param, h) =>
    (framed ev.stack (runBlock ev env body)).recover fun v => runHandler ev env param h v

/-- Runs the last part of a guarded block, whatever happened before.  Unless it
leads somewhere itself, what happened goes on, and the value of the script is
what it was. -/
def runFinalizer (env : Env) (body : List Stmt) (o : Outcome Flow) : Action Flow := do
  let before ← noted env
  note env .undefined
  let flow ← runBlock ev env body
  note env before
  match flow with
  | .next => Action.ofOutcome o
  | flow => pure flow

/-! ## Statements -/

def stmtRule (env : Env) (s : Stmt) : Action Flow :=
  let inner : Env := { env with labels := [] }
  match s with
  | .empty => pure .next
  | .expr e => do
    let v ← ev.expr inner e
    note env v
    pure .next
  | .block body => runBlock ev inner body
  | .declare d bindings => do
    let _ ← Action.each (declareOne ev inner d) bindings
    pure .next
  | .function _ => pure .next
  | .classes f => do
    let v ← makeFunction inner f
    giveFirstValue inner f.name v
    pure .next
  | .choose c a b => do
    note env .undefined
    let v ← ev.expr inner c
    ev.stmt inner (if v.truthy then a else b)
  | .while c body => do
    note env .undefined
    rounds env.labels (whileRound ev c env.labels body) roundLimit inner
  | .repeatWhile body c => do
    note env .undefined
    rounds env.labels (repeatRound ev c env.labels body) roundLimit inner
  | .loop start c next body => do
    note env .undefined
    runLoop ev env start c next body
  | .return e => do
    let v ← optionalExpr ev inner e .undefined
    pure (.answer v)
  | .raise e => do
    let v ← ev.expr inner e
    framed ev.stack (Action.raise v)
  | .guarded body handler finalizer => do
    note env .undefined
    match finalizer with
    | none => runGuarded ev inner body handler
    | some f => do
      let o ← (framed ev.stack (runGuarded ev inner body handler)).outcome
      match o with
      | .suspended => Action.suspend
      | o => runFinalizer ev inner f o
  | .leave label => pure (.leave label)
  | .advance label => pure (.advance label)
  | .labelled n body => do
    let flow ← ev.stmt { env with labels := n :: env.labels } body
    match flow with
    | .leave (some l) => pure (if l = n then .next else .leave (some l))
    | flow => pure flow

end ScriptHost.Script
