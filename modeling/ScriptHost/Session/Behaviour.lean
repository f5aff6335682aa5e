import ScriptHost.Session.Masked
import ScriptHost.Session.Spec

/-!
# How described callbacks behave

Every call is counted first.  Callbacks that forward the outcome of a call answer
its result, and fail with the masked text of its failure.
-/

namespace ScriptHost.Session

/-- The steps of a session's callbacks. -/
abbrev Steps := Body Callback ExportSpecs Memory

/-- Makes a number and goes on with it. -/
private def withNumber (x : Double) (next : Value Callback → Steps) : Steps :=
  .make (fun id m => ⟨.number id x, 1, m⟩) next

private def answerNumber (x : Double) : Steps := withNumber x fun v => .answer v .done

private def answerNat (n : Nat) : Steps := answerNumber (Double.ofInt n)

private def answerText (s : String) : Steps :=
  .make (fun id m => ⟨.string id s, 1, m⟩) fun v => .answer v .done

/-- Why something that a callback needs is not there. -/
def absent (what name : String) : String := "driver: no " ++ what ++ " " ++ name

/-- Makes a described value, unless a variable is missing. -/
private def withSpec (v : ValueSpec) (next : Value Callback → Steps) : Steps :=
  .recall fun m =>
    match v.missing? m with
    | some name => .fail (absent "var" name) .done
    | none => .make v.made next

/-- Answers a result, or fails with a failure. -/
private def forward (result : Except Failure (Value Callback)) : Steps :=
  match result with
  | .ok v => .answer v .done
  | .error e => .fail (maskedText e) .done

/-- Calls a value.  What is not a function answers undefined. -/
private def callValue (f : Value Callback) (arguments : List (Value Callback))
    (next : Except Failure (Value Callback) → Steps) : Steps :=
  match f.function? with
  | some f => .call f arguments next
  | none => next (.ok .undefined)

/-- Answers a result, or what kind of failure there was. -/
private def answerKind (result : Except Failure (Value Callback)) : Steps :=
  match result with
  | .ok v => .answer v .done
  | .error e => answerText (kindName e)

/-- Calls a function with the numbers from `i` on, `n` times, and adds the results. -/
private def mapFrom (f : Value Callback) : Nat → Nat → Double → Steps
  | 0, _, total => answerNumber total
  | n + 1, i, total =>
    withNumber (Double.ofInt i) fun v => callValue f [v] fun result =>
      match result with
      | .ok x => mapFrom f n (i + 1) (total.add x.numberValue)
      | .error e => .fail (maskedText e) .done

private def total (vs : List (Value Callback)) : Double :=
  vs.foldl (fun x v => x.add v.numberValue) (.zero false)

/-- The steps of a callback after the call was counted. -/
def stepsOf (f : Callback) (i : Invocation Callback) : Steps :=
  let args := i.arguments
  match f with
  | .noop => .done
  | .identity => .answer (i.argument 0) .done
  | .arg n => .answer (i.argument n) .done
  | .const v => withSpec v fun x => .answer x .done
  | .collect =>
    .remember (fun m => { m with collected := args.map appearance :: m.collected }) .done
  | .define name => .remember (fun m => { m with vars := m.vars.put name (i.argument 0) }) .done
  | .forget name => .remember (fun m => { m with vars := m.vars.erase name }) .done
  | .sum => answerNumber (total args)
  | .double => answerNumber ((i.argument 0).numberValue.mul (Double.ofInt 2))
  | .concat => answerText (String.join (args.map (·.stringValue)))
  | .describe => answerText (",".intercalate (args.map (·.type.name)))
  | .display => answerText (" ".intercalate (args.map (·.display)))
  | .count => answerNat args.length
  | .fail message => .fail message .done
  | .failValue => .fail (i.argument 0).display .done
  | .answerFail v message => withSpec v fun x => .answer x (.fail message .done)
  | .failAnswer v message => .fail message (withSpec v fun x => .answer x .done)
  | .failTwice message second => .fail message (.fail second .done)
  | .answerTwice v second =>
    withSpec v fun x => .answer x (withSpec second fun y => .answer y .done)
  | .apply => callValue (i.argument 0) args.tail forward
  | .tryApply => callValue (i.argument 0) args.tail answerKind
  | .map => mapFrom (i.argument 1) (i.argument 0).numberValue.clampInt32.toNat 0 (.zero false)
  | .callVar name => withSpec (.var name) fun f => callValue f args forward
  | .run engine source => .recall fun m =>
    match m.engines.find? engine with
    | some e => .run e (source.getD (i.argument 0).stringValue) forward
    | none => .fail (absent "engine" engine) .done
  | .depth => .look fun v => answerNat v.depth
  | .current => .look fun v =>
    match v.current with
    | some id => answerNat id.toNat
    | none => answerNumber (Double.ofInt (-1))
  | .realm => .look fun v => answerNat v.realm.toNat
  | .natives => .look fun v => answerNat v.natives

/-- The host of a session.  Functions of other backends count their arguments, and are busy if
there are none. -/
def host : Host Callback ExportSpecs Memory :=
  { behave := fun f i => .remember (fun m => { m with calls := m.calls + 1 }) (stepsOf f i)
    generate := fun exports id m => exports.generate id m
    act := fun _ args => if args.isEmpty then .fail "" .done else answerNat args.length
    outcome := fun completion _ =>
      match completion with
      | .returned v => .ok v
      | .thrown _ => .error (.script .busy) }

end ScriptHost.Session
