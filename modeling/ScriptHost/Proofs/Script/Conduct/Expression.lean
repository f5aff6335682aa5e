import ScriptHost.Proofs.Script.Conduct.Builtin
import ScriptHost.Script.Expression

/-!
# Expressions conduct themselves

The value of a name stands in a scope or in the global object.  What an expression gives
is put where it is assigned to, one part after the other, and stays sound while the rest
is evaluated.
-/

namespace ScriptHost.Script

variable {R : RefRule} {h : Heap} {ev : Evaluator}

theorem Env.Sound.later {env : Env} {h' : Heap} (henv : env.Sound R h.size) (hl : h.Later h') :
    env.Sound R h'.size :=
  Val.Sound.mono henv hl.size_le

/-! ## Names -/

theorem readName_conducts (hev : ev.Conducts R) (env : Env) (n : Name) {missing : Action Val}
    (hmissing : Action.Conducts R h (.val R) missing) :
    Action.Conducts R h (.val R) (readName ev env n missing) := by
  refine .read_bind fun h₁ hl₁ hs₁ => ?_
  split
  · rename_i v w hfound
    exact .pure (hs₁.resolve? hfound v rfl)
  · exact raiseAbout_conducts _ _ _ _
  · refine .read_bind fun h₂ hl₂ hs₂ => ?_
    split
    · exact Slot.value_conducts hev (hs₂.place (by decide)) (hs₂.findProperty? ‹_›)
    · exact hmissing.later (hl₁.trans hl₂)

theorem readName_declared_conducts (hev : ev.Conducts R) (env : Env) (n : Name) :
    Action.Conducts R h (.val R) (readName ev env n (raiseUndeclared n)) :=
  readName_conducts hev env n (raiseAbout_conducts _ _ _ _)

theorem lookUp_conducts (env : Env) (n : Name) : Action.Conducts R h .any (lookUp env n) := by
  refine .read_bind fun h₁ _ _ => ?_
  split
  · exact .ite (fun _ => .pure trivial) fun _ => raiseAbout_conducts _ _ _ _
  · exact .read fun _ _ _ => trivial

theorem writeName_conducts (hev : ev.Conducts R) (env : Env) (n : Name) (known : Bool) {v : Val}
    (hv : v.Sound R h.size) : Action.Conducts R h .any (writeName ev env n known v) := by
  refine .ite (fun _ => raiseAbout_conducts _ _ _ _) fun _ => .here fun h₁ hl₁ hs₁ => ?_
  refine .read_bind fun h₂ hl₂ _ => ?_
  split
  · exact raiseAbout_conducts _ _ _ _
  · exact raiseAbout_conducts _ _ _ _
  · exact .modifyScope _ fun h₃ s hl₃ _ hs =>
      hs.assign n (hv.mono ((hl₁.trans hl₂).trans hl₃).size_le)
  · exact setPropertyOr_conducts hev _ (fun _ _ _ => raiseAbout_conducts _ _ _ _)
      (R.mono hl₂.size_le (hs₁.place (by decide))) (hv.mono (hl₁.trans hl₂).size_le)

/-! ## Targets -/

theorem getItem_conducts (hev : ev.Conducts R) {object k : Val}
    (hobject : object.Sound R h.size) (hk : k.Sound R h.size) :
    Action.Conducts R h (.val R) (getItem ev object k) := by
  unfold getItem
  split
  · exact raiseError_conducts _ _
  · exact raiseError_conducts _ _
  · exact (toKey_conducts hev hk).bind fun _ _ hl _ _ =>
      getProperty_conducts hev (hobject.mono hl.size_le) _

variable {env : Env}

/-- Two expressions, one after the other. -/
theorem expr_both_conducts {α : Type} {P : Post α} (hev : ev.Conducts R)
    (henv : env.Sound R h.size) (a b : Expr) {f : Val → Val → Action α}
    (hf : ∀ h' x y, h.Later h' → x.Sound R h'.size → y.Sound R h'.size →
      Action.Conducts R h' P (f x y)) :
    Action.Conducts R h P (do
      let x ← ev.expr env a
      let y ← ev.expr env b
      f x y) :=
  (hev.expr a henv).bind fun _ _ hl₁ _ hx =>
    (hev.expr b (henv.later hl₁)).bind fun _ _ hl₂ _ hy =>
      hf _ _ _ (hl₁.trans hl₂) (hx.mono hl₂.size_le) hy

theorem readTarget_conducts (hev : ev.Conducts R) (henv : env.Sound R h.size) (t : Target) :
    Action.Conducts R h (.pair (.val R) (.val R)) (readTarget ev env t) := by
  cases t with
  | name n =>
      exact (readName_declared_conducts hev env n).bind fun _ _ _ _ hv => .pure ⟨hv, trivial⟩
  | field o n =>
      refine (hev.expr o henv).bind fun _ o _ _ ho => ?_
      exact (getProperty_conducts hev ho _).bind fun _ _ hl _ hv => .pure ⟨hv, ho.mono hl.size_le⟩
  | item o k =>
      refine expr_both_conducts hev henv o k fun _ o k _ ho hk => ?_
      exact (getItem_conducts hev ho hk).bind fun _ _ hl _ hv => .pure ⟨hv, ho.mono hl.size_le⟩

theorem assignTarget_conducts (hev : ev.Conducts R) (henv : env.Sound R h.size) (t : Target)
    (e : Expr) : Action.Conducts R h (.val R) (assignTarget ev env t e) := by
  cases t with
  | name n =>
      refine (lookUp_conducts env n).bind fun h₁ known hl₁ _ _ => ?_
      refine (hev.expr e (henv.later hl₁)).bind fun h₂ v _ _ hv => ?_
      exact (writeName_conducts hev env n known hv).bind fun _ _ hl _ _ =>
        .pure (hv.mono hl.size_le)
  | field o n =>
      refine expr_both_conducts hev henv o e fun h₁ o v _ ho hv => ?_
      exact (setProperty_conducts hev _ ho hv).bind fun _ _ hl _ _ => .pure (hv.mono hl.size_le)
  | item o k =>
      refine expr_both_conducts hev henv o k fun h₁ o k hl₁ ho hk => ?_
      refine (hev.expr e (henv.later hl₁)).bind fun h₂ v hl₂ _ hv => ?_
      refine (toKey_conducts hev (hk.mono hl₂.size_le)).bind fun h₃ k hl₃ _ _ => ?_
      have hv₃ := hv.mono hl₃.size_le
      exact (setProperty_conducts hev k (ho.mono (hl₂.trans hl₃).size_le) hv₃).bind
        fun _ _ hl _ _ => .pure (hv₃.mono hl.size_le)

/-! ## Places -/

/-- The object of a place is sound. -/
def Located.Sound (R : RefRule) (n : Nat) : Located → Prop
  | .name _ _ => True
  | .property object _ => object.Sound R n

def Post.located (R : RefRule) : Post Located where
  Holds := Located.Sound R
  mono {n m p} hnm hp := by
    cases p with
    | name n known => trivial
    | property object k => exact Val.Sound.mono hp hnm

theorem findPlace_conducts (hev : ev.Conducts R) (henv : env.Sound R h.size) (t : Target) :
    Action.Conducts R h (.located R) (findPlace ev env t) := by
  cases t with
  | name n => exact (lookUp_conducts env n).bind fun _ _ _ _ _ => .pure trivial
  | field o n => exact (hev.expr o henv).bind fun _ _ _ _ ho => .pure ho
  | item o k =>
      refine expr_both_conducts hev henv o k fun h₁ o k _ ho hk => ?_
      refine .ite (fun _ => raiseError_conducts _ _) fun _ => ?_
      exact (toKey_conducts hev hk).bind fun _ _ hl _ _ => .pure (ho.mono hl.size_le)

theorem readPlace_conducts (hev : ev.Conducts R) (env : Env) {p : Located}
    (hp : p.Sound R h.size) : Action.Conducts R h (.val R) (readPlace ev env p) := by
  cases p with
  | name n known => exact readName_declared_conducts hev env n
  | property o k => exact getProperty_conducts hev hp k

theorem writePlace_conducts (hev : ev.Conducts R) (env : Env) {p : Located} {v : Val}
    (hp : p.Sound R h.size) (hv : v.Sound R h.size) :
    Action.Conducts R h .any (writePlace ev env p v) := by
  cases p with
  | name n known => exact writeName_conducts hev env n known hv
  | property o k => exact setProperty_conducts hev k hp hv

theorem removeTarget_conducts (hev : ev.Conducts R) (henv : env.Sound R h.size) (t : Target) :
    Action.Conducts R h .any (removeTarget ev env t) := by
  cases t with
  | name n => exact .pure trivial
  | field o n => exact (hev.expr o henv).bind fun _ _ _ _ _ => removeProperty_conducts _ _
  | item o k =>
      refine expr_both_conducts hev henv o k fun _ o k _ _ hk => ?_
      exact (toKey_conducts hev hk).bind fun _ _ _ _ _ => removeProperty_conducts _ _

theorem bumpPlace_conducts (hev : ev.Conducts R) (henv : env.Sound R h.size) (delta : Int32)
    (old : Bool) (t : Target) :
    Action.Conducts R h (.val R) (bumpPlace ev env delta old t) := by
  refine (findPlace_conducts hev henv t).bind fun h₁ p hl₁ _ hp => ?_
  refine (readPlace_conducts hev env hp).bind fun h₂ v hl₂ _ hv => ?_
  refine (toNumeric_conducts hev hv).bind fun h₃ x hl₃ _ hx => ?_
  have hp₃ := Post.mono (.located R) (hl₂.trans hl₃).size_le hp
  refine (writePlace_conducts hev env hp₃ (arithmetic_sound _ _ _)).bind fun _ _ hl _ _ => .pure ?_
  split
  · exact hx.mono hl.size_le
  · exact arithmetic_sound _ _ _

theorem updatePlace_conducts (hev : ev.Conducts R) (henv : env.Sound R h.size) (op : BinaryOp)
    (t : Target) (e : Expr) : Action.Conducts R h (.val R) (updatePlace ev env op t e) := by
  refine (findPlace_conducts hev henv t).bind fun h₁ p hl₁ _ hp => ?_
  refine (readPlace_conducts hev env hp).bind fun h₂ x hl₂ _ hx => ?_
  refine (hev.expr e (henv.later (hl₁.trans hl₂))).bind fun h₃ y hl₃ _ hy => ?_
  refine (applyBinary_conducts hev op (hx.mono hl₃.size_le) hy).bind fun h₄ v hl₄ _ hv => ?_
  have hp₄ := Post.mono (.located R) ((hl₂.trans hl₃).trans hl₄).size_le hp
  exact (writePlace_conducts hev env hp₄ hv).bind fun _ _ hl _ _ => .pure (hv.mono hl.size_le)

/-! ## Object literals -/

/-- The functions of an accessor that is replaced, or undefined if there is none. -/
private theorem oldAccessor_sound {n : Nat} {o : Object} (ho : o.Sound R n) (k : Key) :
    Slot.Sound R n (.accessor
      (match o.own? k with
        | some ⟨.accessor g s, _, _⟩ => (g, s)
        | _ => (.undefined, .undefined)).1
      (match o.own? k with
        | some ⟨.accessor g s, _, _⟩ => (g, s)
        | _ => (.undefined, .undefined)).2) := by
  split
  · rename_i g s _ _ hown
    exact ho.own? hown
  · exact ⟨trivial, trivial⟩

theorem defineAccessor_conducts (r : ObjectRef) (k : Key) {getter setter : Option Val}
    (hgetter : ∀ v ∈ getter, v.Sound R h.size) (hsetter : ∀ v ∈ setter, v.Sound R h.size) :
    Action.Conducts R h .any (defineAccessor r k getter setter) := by
  refine .modify r (fun o => (o.shape_put k _).kind) fun h' o hl _ ho => ho.put k ?_
  have hold := oldAccessor_sound ho k
  exact ⟨Val.sound_getD (fun v hv => (hgetter v hv).mono hl.size_le) hold.1,
    Val.sound_getD (fun v hv => (hsetter v hv).mono hl.size_le) hold.2⟩

theorem keyFunctionName_conducts (k : Key) :
    Action.Conducts R h .any (keyFunctionName k) := by
  cases k with
  | name s => exact .pure trivial
  | symbol id => exact .read fun _ _ _ => trivial

theorem literalKey_conducts (hev : ev.Conducts R) (henv : env.Sound R h.size) (e : Expr) :
    Action.Conducts R h .any (literalKey ev env e) :=
  (hev.expr e henv).bind fun _ _ _ _ hk => toKey_conducts hev hk

/-- A function under the name that its key gives. -/
theorem namedFunction_conducts {α : Type} {P : Post α} (hev : ev.Conducts R)
    (henv : env.Sound R h.size) (e : Expr) (f : Name → Lambda) {g : Key → Val → Action α}
    (hg : ∀ h' k v, v.Sound R h'.size → Action.Conducts R h' P (g k v)) :
    Action.Conducts R h P (do
      let k ← literalKey ev env e
      let n ← keyFunctionName k
      let v ← makeFunction env (f n)
      g k v) := by
  refine (literalKey_conducts hev henv e).bind fun h₁ k hl₁ _ _ => ?_
  refine (keyFunctionName_conducts k).bind fun h₂ n hl₂ _ _ => ?_
  exact (makeFunction_conducts (henv.later (hl₁.trans hl₂)) _).bind fun h₃ v _ _ hv => hg h₃ k v hv

theorem addMember_conducts (hev : ev.Conducts R) (henv : env.Sound R h.size) (r : ObjectRef)
    (m : Member) : Action.Conducts R h .any (addMember ev env r m) := by
  have hnone {n : Nat} : ∀ v ∈ (none : Option Val), v.Sound R n :=
    fun _ hv => absurd hv (Option.not_mem_none _)
  cases m with
  | data k e =>
      refine (literalKey_conducts hev henv k).bind fun h₁ k hl₁ _ _ => ?_
      refine (keyFunctionName_conducts k).bind fun h₂ n hl₂ _ _ => ?_
      refine (hev.expr _ (henv.later (hl₁.trans hl₂))).bind fun h₃ v _ _ hv => ?_
      exact .modify r (fun o => (o.shape_put k _).kind) fun _ _ hl _ ho =>
        ho.put k (hv.mono hl.size_le)
  | prototype e =>
      refine (hev.expr e henv).bind fun _ v _ _ hv => ?_
      exact (assignPrototype_conducts _ hv).bind fun _ _ _ _ _ => .pure trivial
  | getter k f =>
      refine namedFunction_conducts hev henv k _ fun _ k v hv =>
        defineAccessor_conducts r k ?_ hnone
      exact fun x hx => by cases hx; exact hv
  | setter k f =>
      refine namedFunction_conducts hev henv k _ fun _ k v hv =>
        defineAccessor_conducts r k hnone ?_
      exact fun x hx => by cases hx; exact hv

theorem objectLiteral_conducts (hev : ev.Conducts R) (henv : env.Sound R h.size)
    (ms : List Member) : Action.Conducts R h (.val R) (objectLiteral ev env ms) := by
  refine (newPlain_conducts (place_allowed (by decide))).bind fun h₁ o hl₁ _ ho => ?_
  split
  · refine (Action.Conducts.each (P := .any) fun h₂ m _ hl₂ _ => ?_).bind
      fun h₃ _ hl₃ _ _ => .pure (Post.mono (.val R) hl₃.size_le ho)
    exact addMember_conducts hev (henv.later (hl₁.trans hl₂)) _ m
  · exact .pure ho

/-! ## Expressions -/

theorem literalValue_sound (l : Literal) {n : Nat} : (literalValue l).Sound R n := by
  cases l <;> trivial

theorem element_conducts (hev : ev.Conducts R) (henv : env.Sound R h.size) (e : Option Expr) :
    Action.Conducts R h (.option (.val R)) (element ev env e) := by
  cases e with
  | none => exact .pure fun _ hv => absurd hv (Option.not_mem_none _)
  | some e =>
      refine (hev.expr e henv).bind fun _ v _ _ hv => .pure ?_
      exact fun x hx => by cases hx; exact hv

theorem exprs_conduct (hev : ev.Conducts R) (henv : env.Sound R h.size) (es : List Expr) :
    Action.Conducts R h (.list (.val R)) (Action.each (ev.expr env) es) :=
  .each fun _ e _ hl _ => hev.expr e (henv.later hl)

theorem unary_conducts (hev : ev.Conducts R) (henv : env.Sound R h.size) (op : UnaryOp)
    (e : Expr) : Action.Conducts R h (.val R) (exprRule ev env (.unary op e)) := by
  have hoperand (op : UnaryOp) (e : Expr) : Action.Conducts R h (.val R) (do
      let v ← ev.expr env e
      applyUnary ev op v) :=
    (hev.expr e henv).bind fun _ _ _ _ hv => applyUnary_conducts hev op hv
  -- The type of a name that nobody declared is no error.
  have hname (n : Name) : Action.Conducts R h (.val R) (do
      let v ← readName ev env n (pure .undefined)
      applyUnary ev .typeOf v) := by
    refine Action.Conducts.bind (readName_conducts hev env n ?_) fun _ _ _ _ hv =>
      applyUnary_conducts hev .typeOf hv
    exact .pure trivial
  cases op with
  | typeOf =>
      cases e with
      | get t =>
          cases t with
          | name n => exact hname n
          | field o n => exact hoperand .typeOf (.get (.field o n))
          | item o k => exact hoperand .typeOf (.get (.item o k))
      | _ => exact hoperand .typeOf _
  | plus => exact hoperand .plus e
  | minus => exact hoperand .minus e
  | not => exact hoperand .not e
  | discard => exact hoperand .discard e

theorem exprRule_conducts (hev : ev.Conducts R) (henv : env.Sound R h.size) (e : Expr) :
    Action.Conducts R h (.val R) (exprRule ev env e) := by
  cases e with
  | literal l => exact .pure (literalValue_sound l)
  | pattern l => exact newPattern_conducts l
  | this => exact .pure henv
  | array es =>
      refine (Action.Conducts.each fun _ e _ hl _ => element_conducts hev (henv.later hl) e).bind
        fun _ vs _ _ hvs => newSparseArray_conducts fun v hv => hvs _ hv v rfl
  | object ms => exact objectLiteral_conducts hev henv ms
  | function f => exact makeFunction_conducts henv f
  | unary op e => exact unary_conducts hev henv op e
  | remove t => exact (removeTarget_conducts hev henv t).bind fun _ _ _ _ _ => .pure trivial
  | bump delta old t => exact bumpPlace_conducts hev henv delta old t
  | binary op a b =>
      exact expr_both_conducts hev henv a b fun _ _ _ _ hx hy => applyBinary_conducts hev op hx hy
  | shortCircuit op a b =>
      refine (hev.expr a henv).bind fun _ x hl _ hx => .ite (fun _ => .pure hx) fun _ => ?_
      exact hev.expr b (henv.later hl)
  | conditional c a b =>
      refine (hev.expr c henv).bind fun _ x hl _ _ => .ite (fun _ => ?_) fun _ => ?_
      · exact hev.expr a (henv.later hl)
      · exact hev.expr b (henv.later hl)
  | assign t e => exact assignTarget_conducts hev henv t e
  | update op t e => exact updatePlace_conducts hev henv op t e
  | sequence a b =>
      exact (hev.expr a henv).bind fun _ _ hl _ _ => hev.expr b (henv.later hl)
  | get t => exact (readTarget_conducts hev henv t).bind fun _ _ _ _ hr => .pure hr.1
  | call f es =>
      refine (hev.expr f henv).bind fun _ f hl _ hf => ?_
      exact (exprs_conduct hev (henv.later hl) es).bind fun _ vs hl' _ hvs =>
        hev.call (hf.mono hl'.size_le) trivial hvs
  | callOn t es =>
      refine (readTarget_conducts hev henv t).bind fun _ r hl _ hr => ?_
      exact (exprs_conduct hev (henv.later hl) es).bind fun _ vs hl' _ hvs =>
        hev.call (hr.1.mono hl'.size_le) (hr.2.mono hl'.size_le) hvs
  | construct f es =>
      refine (hev.expr f henv).bind fun _ f hl _ hf => ?_
      exact (exprs_conduct hev (henv.later hl) es).bind fun _ vs hl' _ hvs =>
        hev.construct (hf.mono hl'.size_le) hvs
  | await e => exact (hev.expr e henv).bind fun _ _ _ _ _ => .suspend

end ScriptHost.Script
