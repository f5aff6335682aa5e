import ScriptHost.Proofs.Script.Rename.Pattern

/-!
# The functions of every realm do not depend on the names of realms

One lemma for each of them, and then calls and constructions as a whole.  What is called is the
only thing read from the heap that is renamed, and it is a host function then, whose call asks
the host for the renamed one.
-/

namespace ScriptHost.Script

variable {ρ : UInt32 → UInt32} {α : Type} {ev : Evaluator}

/-! ## Texts -/

theorem receiverUnits_uniform (hev : ev.Uniform ρ) (receiver : Val) :
    Action.Uniform ρ (receiverUnits ev receiver) := by
  unfold receiverUnits
  split
  · exact raiseError_uniform _ _
  · exact raiseError_uniform _ _
  · exact toUnits_uniform hev _

theorem stringRepeat_uniform (hev : ev.Uniform ρ) (receiver n : Val) :
    Action.Uniform ρ (stringRepeat ev receiver n) := by
  refine (receiverUnits_uniform hev receiver).bind fun s =>
    (toDouble_uniform hev n).bind fun x => ?_
  refine .ite (raiseError_uniform _ _) (.ite (.pure _) (.ite (raiseError_uniform _ _) ?_))
  exact (reserve_uniform hev _).bind fun _ => .pure _

theorem stringFromCharCode_uniform (hev : ev.Uniform ρ) (vs : List Val) :
    Action.Uniform ρ (stringFromCharCode ev vs) :=
  (Action.Uniform.each (fun v => (toDouble_uniform hev v).bind fun _ => .pure _) vs).bind
    fun _ => .pure _

theorem methodOf_uniform (hev : ev.Uniform ρ) (v : Val) (symbol : Nat) :
    Action.Uniform ρ (methodOf ev v symbol) := by
  unfold methodOf
  split
  · exact .pure _
  · exact .pure _
  · exact (getProperty_uniform hev _ _).bind fun _ => .pure _

theorem stringReplace_uniform (hev : ev.Uniform ρ) (receiver pattern replacement : Val) :
    Action.Uniform ρ (stringReplace ev receiver pattern replacement) := by
  refine .ite (raiseError_uniform _ _) ?_
  refine (methodOf_uniform hev pattern _).bind fun f => .ite (hev.call _ _ _) ?_
  refine (toUnits_uniform hev receiver).bind fun s => ?_
  refine (toUnits_uniform hev pattern).bind fun p => ?_
  refine (isCallable_uniform replacement).bind fun callable => ?_
  refine .default_bind (toUnits_uniform hev replacement) fun r => ?_
  split
  · exact .pure _
  · refine .ite ?_ (.pure _)
    exact (hev.call _ _ _).bind fun v => (toUnits_uniform hev v).bind fun _ => .pure _

/-! ## Receivers that are primitive -/

theorem unboxed_uniform (accepts : Val → Bool) (receiver : Val) (complaint : String) :
    Action.Uniform ρ (unboxed accepts receiver complaint) := by
  refine (Action.Uniform.read fun h => ?_).bind fun v => .ite (.pure _) (raiseError_uniform _ _)
  cases receiver with
  | object r =>
      simp only [h.object_rename, Object.kind_rename]
      cases (h.object r).kind <;> rfl
  | _ => rfl

/-! ## Arrays -/

theorem lengthOf_uniform (hev : ev.Uniform ρ) (v : Val) : Action.Uniform ρ (lengthOf ev v) :=
  (getProperty_uniform hev v _).bind fun n => (toDouble_uniform hev n).bind fun _ => .pure _

theorem elementText_uniform (hev : ev.Uniform ρ) (v : Val) :
    Action.Uniform ρ (elementText ev v) := by
  unfold elementText
  split
  · exact .pure _
  · exact .pure _
  · exact toUnits_uniform hev _

theorem arrayJoin_uniform (hev : ev.Uniform ρ) (receiver separator : Val) :
    Action.Uniform ρ (arrayJoin ev receiver separator) := by
  refine (toObject_uniform receiver).bind fun o => (lengthOf_uniform hev o).bind fun n => ?_
  refine .default_bind (toUnits_uniform hev separator) fun sep => ?_
  refine (Action.Uniform.each (fun i => ?_) _).bind fun _ => newString_uniform hev _
  exact (getProperty_uniform hev o _).bind fun v => elementText_uniform hev v

theorem arrayPush_uniform (hev : ev.Uniform ρ) (receiver : Val) (vs : List Val) :
    Action.Uniform ρ (arrayPush ev receiver vs) := by
  refine (toObject_uniform receiver).bind fun o => (lengthOf_uniform hev o).bind fun n => ?_
  refine .ite (raiseError_uniform _ _) ?_
  refine (Action.Uniform.each (fun _ => setProperty_uniform hev o _ _) _).bind fun _ => ?_
  exact (setProperty_uniform hev o _ _).bind fun _ => .pure _

theorem arrayOf_uniform (vs : List Val) : Action.Uniform ρ (arrayOf vs) := by
  unfold arrayOf
  split
  · split
    · exact newArray_uniform _
    · split
      · exact .ite (newObject_uniform rfl _ _) (raiseError_uniform _ _)
      · exact raiseError_uniform _ _
  · exact newArray_uniform _

theorem arrayToString_uniform (hev : ev.Uniform ρ) (receiver : Val) :
    Action.Uniform ρ (arrayToString ev receiver) := by
  refine (getProperty_uniform hev receiver _).bind fun f => (isCallable_uniform f).bind fun _ => ?_
  exact .ite (hev.call _ _ _) (objectToString_uniform hev receiver)

/-! ## Numbers -/

theorem raiseUnsupported_uniform : Action.Uniform ρ (raiseUnsupported : Action α) :=
  raiseError_uniform _ _

theorem numberToString_uniform (hev : ev.Uniform ρ) (receiver radix : Val) :
    Action.Uniform ρ (numberToString ev receiver radix) := by
  refine (unboxed_uniform _ receiver _).bind fun v => .ite (.pure _) ?_
  refine (toDouble_uniform hev radix).bind fun x => .ite (raiseError_uniform _ _) ?_
  refine .ite (.pure _) ?_
  split
  · exact .pure _
  · exact .ite raiseUnsupported_uniform (.pure _)

theorem mathHypot_uniform (hev : ev.Uniform ρ) (vs : List Val) :
    Action.Uniform ρ (mathHypot ev vs) :=
  (Action.Uniform.each (toDouble_uniform hev) vs).bind fun _ => .pure _

theorem mathExtreme_uniform (hev : ev.Uniform ρ) (largest : Bool) (vs : List Val) :
    Action.Uniform ρ (mathExtreme ev largest vs) :=
  (Action.Uniform.each (toDouble_uniform hev) vs).bind fun _ => .pure _

/-! ## Symbols -/

theorem symbolDescription_uniform (v : Val) : Action.Uniform ρ (symbolDescription v) := by
  unfold symbolDescription
  split
  · exact .read fun _ => rfl
  · exact .pure _

theorem symbolToString_uniform (v : Val) : Action.Uniform ρ (symbolToString v) :=
  (symbolDescription_uniform v).bind fun _ => .pure _

theorem newSymbol_uniform (hev : ev.Uniform ρ) (description : Val) :
    Action.Uniform ρ (newSymbol ev description) := by
  have hmake (d : Option Units) : Action.Uniform ρ (Action.update fun h =>
      (Val.symbol (h.allocateSymbol d).1, (h.allocateSymbol d).2)) :=
    .update fun _ => rfl
  refine .ite ((Action.Uniform.pure _).bind hmake) ?_
  exact (toUnits_uniform hev description).bind fun s => (Action.Uniform.pure _).bind hmake

/-! ## Errors -/

theorem errorToString_uniform (hev : ev.Uniform ρ) (receiver : Val) :
    Action.Uniform ρ (errorToString ev receiver) := by
  unfold errorToString
  split
  · refine (getProperty_uniform hev _ _).bind fun name => ?_
    refine .default_bind (toUnits_uniform hev name) fun name => ?_
    refine (getProperty_uniform hev _ _).bind fun message => ?_
    exact .default_bind (toUnits_uniform hev message) fun _ => .pure _
  · exact raiseError_uniform _ _

theorem causeOf_uniform (hev : ev.Uniform ρ) (details : Val) :
    Action.Uniform ρ (causeOf ev details) := by
  unfold causeOf
  split
  · refine (Action.Uniform.read fun h => by rw [h.findProperty?_rename]).bind fun found => ?_
    exact .ite ((getProperty_uniform hev _ _).bind fun _ => .pure _) (.pure _)
  · exact .pure _

theorem errorOf_uniform (hev : ev.Uniform ρ) (t : ErrorType) (message details : Val) :
    Action.Uniform ρ (errorOf ev t message details) := by
  unfold errorOf
  extract_lets -underBinder finish
  have hfinish (m : Option Units) : Action.Uniform ρ (finish m) := by
    refine (causeOf_uniform hev details).bind fun cause => (newError_uniform t m _).bind fun e => ?_
    split
    · exact (Action.Uniform.modify _ fun o => o.rename_put ρ _ _).bind fun _ => .pure _
    · exact .pure _
  refine .ite ((Action.Uniform.pure _).bind hfinish) ?_
  exact (toUnits_uniform hev message).bind fun m => (Action.Uniform.pure _).bind hfinish

/-! ## Calls -/

theorem callBuiltin_uniform (hev : ev.Uniform ρ) (b : Builtin) (receiver : Val)
    (vs : List Val) : Action.Uniform ρ (callBuiltin ev b receiver vs) := by
  cases b with
  | object =>
      simp only [callBuiltin]
      split
      · exact newObject_uniform rfl _ _
      · exact newObject_uniform rfl _ _
      · exact toObject_uniform _
  | objectKeys => exact objectKeys_uniform _
  | objectIs => exact .pure _
  | objectFreeze => exact objectFreeze_uniform _
  | objectDefineProperty => exact objectDefineProperty_uniform hev _ _ _
  | objectGetPrototypeOf => exact prototypeValue_uniform _ (raiseError_uniform _ _)
  | objectCreate => exact objectCreate_uniform _
  | objectToString => exact objectToString_uniform hev receiver
  | objectValueOf => exact toObject_uniform receiver
  | objectHasOwnProperty => exact objectHasOwnProperty_uniform hev receiver _
  | prototypeGetter => exact prototypeValue_uniform receiver raiseNoObject_uniform
  | prototypeSetter => exact assignPrototype_uniform receiver _
  | functionPrototype => exact .pure _
  | functionCall => exact hev.call _ _ _
  | functionApply => exact (listValues_uniform hev _).bind fun list => hev.call _ _ _
  | functionBind => exact bindFunction_uniform hev receiver vs
  | functionToString => exact functionToString_uniform hev receiver
  | error t => exact errorOf_uniform hev t _ _
  | errorToString => exact errorToString_uniform hev receiver
  | array => exact arrayOf_uniform vs
  | arrayIsArray =>
      refine .read fun h => ?_
      generalize argument vs 0 = a
      cases a with
      | object r => simp only [h.object_rename, Object.isArray_rename]
      | _ => rfl
  | arrayJoin => exact arrayJoin_uniform hev receiver _
  | arrayPush => exact arrayPush_uniform hev receiver vs
  | arrayToString => exact arrayToString_uniform hev receiver
  | string =>
      simp only [callBuiltin]
      split
      · exact .pure _
      · exact symbolToString_uniform _
      · exact (toUnits_uniform hev _).bind fun _ => .pure _
  | stringFromCharCode => exact stringFromCharCode_uniform hev vs
  | stringToUpperCase => exact (receiverUnits_uniform hev receiver).bind fun _ => .pure _
  | stringRepeat => exact stringRepeat_uniform hev receiver _
  | stringReplace => exact stringReplace_uniform hev receiver _ _
  | stringValue => exact unboxed_uniform _ receiver _
  | patternExec => exact (toUnits_uniform hev _).bind fun s => patternExec_uniform hev receiver s
  | patternReplace => exact patternReplace_uniform hev receiver _ _
  | patternFlags => exact patternFlags_uniform hev receiver
  | patternFlag flag => exact patternFlag_uniform receiver flag
  | number => exact .ite (.pure _) (toNumeric_uniform hev _)
  | numberValue => exact unboxed_uniform _ receiver _
  | numberToString => exact numberToString_uniform hev receiver _
  | boolean => exact .pure _
  | booleanValue => exact unboxed_uniform _ receiver _
  | booleanToString => exact (unboxed_uniform _ receiver _).bind fun _ => .pure _
  | mathHypot => exact mathHypot_uniform hev vs
  | mathMax => exact mathExtreme_uniform hev true vs
  | mathMin => exact mathExtreme_uniform hev false vs
  | symbol => exact newSymbol_uniform hev _
  | symbolValue => exact unboxed_uniform _ receiver _
  | symbolToString =>
      exact (unboxed_uniform _ receiver _).bind fun v => symbolToString_uniform v
  | symbolDescription =>
      exact (unboxed_uniform _ receiver _).bind fun v =>
        (symbolDescription_uniform v).bind fun _ => .pure _
  | forbidden => exact raiseError_uniform _ _
  | unsupported constructs => exact raiseUnsupported_uniform

theorem callRule_uniform (hev : ev.Uniform ρ) (f receiver : Val) (vs : List Val) :
    Action.Uniform ρ (callRule ev f receiver vs) := by
  refine .read_bind fun h => ?_
  rw [h.callable?_rename]
  cases h.callable? f with
  | none => exact raiseError_uniform _ _
  | some c =>
      cases c with
      | closure lambda scope outer =>
          refine framed_uniform _ ?_
          split
          · exact raiseError_uniform _ _
          · exact callClosure_uniform hev f lambda scope outer vs
          · exact callClosure_uniform hev f lambda scope receiver vs
      | builtin b => exact framed_uniform _ (callBuiltin_uniform hev b receiver vs)
      | native k => exact callNative_renames hev k vs
      | bound target outer bound constructs => exact hev.call _ _ _

theorem raiseNoConstructor_uniform (f : Val) :
    Action.Uniform ρ (raiseNoConstructor f : Action α) :=
  raiseError_uniform _ _

theorem boxedOf_uniform {make : Action Val} (hmake : make.Uniform ρ) :
    Action.Uniform ρ (boxedOf make) :=
  hmake.bind fun v => toObject_uniform v

theorem constructBuiltin_uniform (hev : ev.Uniform ρ) (f : Val) (b : Builtin) (vs : List Val) :
    Action.Uniform ρ (constructBuiltin ev f b vs) := by
  unfold constructBuiltin
  split
  · exact callBuiltin_uniform hev .object .undefined vs
  · exact errorOf_uniform hev _ _ _
  · exact arrayOf_uniform vs
  · have hmake : Action.Uniform ρ (do
        let s ← if vs.isEmpty then pure [] else toUnits ev (argument vs 0)
        pure (Val.string s)) :=
      .default_bind (toUnits_uniform hev _) fun _ => .pure _
    exact boxedOf_uniform hmake
  · exact boxedOf_uniform (callBuiltin_uniform hev .number .undefined vs)
  · exact boxedOf_uniform (callBuiltin_uniform hev .boolean .undefined vs)
  · exact raiseUnsupported_uniform
  · exact raiseNoConstructor_uniform f

theorem constructRule_uniform (hev : ev.Uniform ρ) (f : Val) (vs : List Val) :
    Action.Uniform ρ (constructRule ev f vs) := by
  refine .read_bind fun h => ?_
  rw [h.callable?_rename]
  cases h.callable? f with
  | none => exact raiseNoConstructor_uniform f
  | some c =>
      cases c with
      | closure lambda scope outer =>
          exact Action.Uniform.ite
            (framed_uniform _ (constructClosure_uniform hev f lambda scope vs))
            (raiseNoConstructor_uniform f)
      | builtin b => exact framed_uniform _ (constructBuiltin_uniform hev f b vs)
      | native k => exact raiseNoConstructor_uniform f
      | bound target outer bound constructs =>
          exact Action.Uniform.ite (hev.construct _ _) (raiseNoConstructor_uniform f)

end ScriptHost.Script
