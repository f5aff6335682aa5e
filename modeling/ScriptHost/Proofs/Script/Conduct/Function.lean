import ScriptHost.Proofs.Script.Conduct.Property

/-!
# Assignments and functions conduct themselves

Writing a property puts a sound value where a sound heap has an object, or calls a setter
that the heap holds.  A function of a program keeps a scope and a receiver; its call binds
sound arguments and runs the body.  A host function is the one thing that asks the host,
and it is called through its object.
-/

namespace ScriptHost.Script

variable {R : RefRule} {h : Heap} {α : Type} {P : Post α} {ev : Evaluator}

/-! ## Arrays -/

theorem lengthOfDouble_conducts (x : Double) : Action.Conducts R h .any (lengthOfDouble x) := by
  unfold lengthOfDouble
  split
  · split
    · exact .pure trivial
    · exact raiseError_conducts _ _
  · exact raiseError_conducts _ _

theorem toArrayLength_conducts (hev : ev.Conducts R) {v : Val} (hv : v.Sound R h.size) :
    Action.Conducts R h .any (toArrayLength ev v) := by
  unfold toArrayLength
  split
  · exact .pure trivial
  · exact .pure trivial
  · exact lengthOfDouble_conducts _
  · exact lengthOfDouble_conducts _
  · refine toDouble_both_conducts hev hv hv fun _ x y _ => ?_
    refine (lengthOfDouble_conducts y).bind fun _ n _ _ _ => ?_
    exact .ite (fun _ => .pure trivial) fun _ => raiseError_conducts _ _

theorem assignLength_conducts (hev : ev.Conducts R) (r : ObjectRef) {v : Val}
    (hv : v.Sound R h.size) : Action.Conducts R h .any (assignLength ev r v) := by
  refine (toArrayLength_conducts hev hv).bind fun h₁ n _ _ _ => .read_bind fun h₂ _ _ => ?_
  refine .ite (fun _ => raiseError_conducts _ _) fun _ => .read_bind fun h₃ _ _ => ?_
  refine Action.Conducts.bind (.modify r (fun o => (o.shape_truncate n).kind)
    fun _ _ _ _ ho => ho.truncate n) fun _ _ _ _ _ => ?_
  exact .ite (fun _ => raiseError_conducts _ _) fun _ => .pure trivial

/-! ## Writing and removing -/

theorem callSetter_conducts (hev : ev.Conducts R) {setter receiver v : Val}
    (hsetter : setter.Sound R h.size) (hreceiver : receiver.Sound R h.size)
    (hv : v.Sound R h.size) : Action.Conducts R h .any (callSetter ev setter receiver v) := by
  unfold callSetter
  split
  · exact raiseError_conducts _ _
  · refine (hev.call hsetter hreceiver fun x hx => ?_).bind fun _ _ _ _ _ => .pure trivial
    rw [List.mem_singleton.mp hx]
    exact hv

theorem reserveProperty_conducts (r : ObjectRef) :
    Action.Conducts R h .any (reserveProperty ev r) :=
  .read_bind fun _ _ _ => .ite (fun _ => .pure trivial) fun _ => reserve_conducts _ _

theorem addProperty_conducts (r : ObjectRef) (k : Key) {v : Val} (hv : v.Sound R h.size) :
    Action.Conducts R h .any (addProperty ev r k v) := by
  refine .read_bind fun h₁ hl₁ _ => ?_
  split
  · exact raiseError_conducts _ _
  · refine (reserveProperty_conducts r).bind fun h₂ _ hl₂ _ _ => ?_
    refine .modify r (fun o => (o.shape_define k _).kind) fun h' o hl _ ho => ho.define k ?_
    exact Property.sound_plain (hv.mono ((hl₁.trans hl₂).trans hl).size_le)

theorem storeProperty_conducts (r : ObjectRef) (k : Key) (e c : Bool) {v : Val}
    (hv : v.Sound R h.size) : Action.Conducts R h .any (storeProperty r k e c v) :=
  .modify r (fun o => (o.shape_put k _).kind) fun _ _ hl _ ho => ho.put k (hv.mono hl.size_le)

theorem setPropertyOr_conducts (hev : ev.Conducts R) {add : ObjectRef → Action Unit}
    {target v : Val} (k : Key)
    (hadd : ∀ h' r, h.Later h' → Action.Conducts R h' .any (add r))
    (htarget : target.Sound R h.size) (hv : v.Sound R h.size) :
    Action.Conducts R h .any (setPropertyOr ev add target k v) := by
  unfold setPropertyOr
  split
  · exact raiseAboutKey_conducts _ _ _ _
  · rename_i r _
    refine .read_bind fun h₁ hl₁ hs₁ => .read_bind fun h₂ hl₂ _ => ?_
    have hl := hl₁.trans hl₂
    split
    · refine .ite (fun _ => assignLength_conducts hev r (hv.mono hl.size_le)) fun _ => ?_
      refine .ite (fun _ => raiseAboutKey_conducts _ _ _ _) fun _ => ?_
      refine .ite (fun _ => raiseError_conducts _ _) fun _ => ?_
      exact .ite (fun _ => storeProperty_conducts r k _ _ (hv.mono hl.size_le))
        fun _ => hadd h₂ r hl
    · have hslot : Slot.Sound R h₁.size _ := hs₁.findProperty? ‹_›
      exact callSetter_conducts hev (hslot.2.mono hl₂.size_le) (htarget.mono hl.size_le)
        (hv.mono hl.size_le)
    · exact .ite (fun _ => raiseError_conducts _ _) fun _ => hadd h₂ r hl

theorem setProperty_conducts (hev : ev.Conducts R) {target v : Val} (k : Key)
    (htarget : target.Sound R h.size) (hv : v.Sound R h.size) :
    Action.Conducts R h .any (setProperty ev target k v) :=
  setPropertyOr_conducts hev k (fun _ r hl => addProperty_conducts r k (hv.mono hl.size_le))
    htarget hv

theorem removeProperty_conducts (target : Val) (k : Key) :
    Action.Conducts R h .any (removeProperty target k) := by
  unfold removeProperty
  split
  · exact raiseError_conducts _ _
  · exact raiseError_conducts _ _
  · exact .ite (fun _ => raiseError_conducts _ _) fun _ => .pure trivial
  · rename_i r
    refine .read_bind fun h₁ _ _ => ?_
    split
    · exact .pure trivial
    · refine .ite (fun _ => ?_) fun _ => raiseError_conducts _ _
      refine Action.Conducts.bind (.modify r (fun o => (o.shape_erase k).kind)
        fun _ _ _ _ ho => ho.erase k) fun _ _ _ _ _ => .pure trivial
  · exact .pure trivial

/-! ## Making functions -/

theorem instancePrototype_sound (hs : h.Sound R) (f : Lambda) {self : ObjectRef} {n : Nat}
    (hn : h.size ≤ n) (hself : R.Allows n self) : (instancePrototype f self).Sound R n := by
  unfold instancePrototype
  split
  · refine Object.sound_make trivial (fun p hp => ?_) fun e he => absurd he List.not_mem_nil
    cases hp
    exact R.mono hn (hs.place (by decide))
  · refine Object.sound_make trivial (fun p hp => ?_) fun e he => ?_
    · cases hp
      exact R.mono hn (hs.place (by decide))
    · rw [List.mem_singleton.mp he]
      exact hself

theorem functionScope_objects (f : Lambda) (scope : ScopeRef) (self : ObjectRef) :
    (functionScope h f scope self).2.objects = h.objects := by
  unfold functionScope
  split <;> rfl

/-- The scope may refer to a function that is not made yet. -/
theorem functionScope_sound {n : Nat} (hs : h.SoundAt R n) (f : Lambda) (scope : ScopeRef)
    {self : ObjectRef} (hself : R.Allows n self) :
    (functionScope h f scope self).2.SoundAt R n := by
  unfold functionScope
  split
  · refine hs.allocateScope fun b hb v hv => ?_
    rw [List.mem_singleton.mp hb] at hv
    cases hv
    exact hself
  · exact hs

/-- The object of a function is sound from the size on that the heap had before it. -/
theorem functionObject_sound (hs : h.Sound R) {env : Env} (henv : env.Sound R h.size)
    (f : Lambda) (scope : ScopeRef) {ps : List (Key × Property)} {n : Nat} (hn : h.size ≤ n)
    (hps : ∀ e ∈ ps, e.2.Sound R n) :
    (Object.make (.function (.closure f scope env.receiver)) (some Place.functionPrototype)
      ps).Sound R n := by
  refine Object.sound_make (Val.Sound.mono henv hn) (fun p hp => ?_) hps
  cases hp
  exact R.mono hn (hs.place (by decide))

/-- The function and the object that others inherit from are made together, and everything
is sound for the size that the heap has then. -/
theorem makeFunction_conducts {env : Env} (henv : env.Sound R h.size) (f : Lambda) :
    Action.Conducts R h (.val R) (makeFunction env f) := by
  refine .update fun h' hl hs => ?_
  dsimp only
  have hobjects := functionScope_objects (h := h') f env.scope h'.objects.size
  have hscope (n : Nat) (hn : h'.size < n) :
      (functionScope h' f env.scope h'.objects.size).2.SoundAt R n :=
    functionScope_sound (hs.mono (Nat.le_of_lt hn)) f env.scope (R.existing hn)
  generalize functionScope h' f env.scope h'.objects.size = made at hobjects hscope ⊢
  obtain ⟨scope, h₁⟩ := made
  dsimp only at hobjects hscope ⊢
  have hsize : h₁.size = h'.size := congrArg Array.size hobjects
  have hran : h'.Ran h₁ := .of_objects_eq hobjects
  have hfunction {ps : List (Key × Property)} {n : Nat} (hn : h'.size < n)
      (hps : ∀ e ∈ ps, e.2.Sound R n) :=
    functionObject_sound hs (Val.Sound.mono henv hl.size_le) f scope (Nat.le_of_lt hn) hps
  have hproperties (n : Nat) :=
    functionProperties_sound (R := R) f.name f.parameters.length (n := n)
  by_cases hp : hasPrototype f
  · simp only [hp, if_true]
    -- the function and its instances refer to each other, so neither is sound before both
    -- are there: the size that counts is the one after two allocations
    have hself : R.Allows (h'.size + 2) (h'.size + 1) := R.existing (Nat.lt_succ_self _)
    have hlt : h'.size < h'.size + 2 := Nat.lt_add_of_pos_right Nat.zero_lt_two
    refine ⟨(hran.trans (.allocate h₁ _ fun k hk => by cases hk)).trans
      (.allocate _ _ fun k hk => ?_), ?_, ?_⟩
    · unfold instancePrototype at hk
      split at hk <;> cases hk
    · unfold Heap.Sound
      rw [Heap.size_allocate, Heap.size_allocate, hsize]
      refine ((hscope _ hlt).allocate (hfunction hlt fun e he => ?_)).allocate
        (instancePrototype_sound hs f (Nat.le_add_right _ 2) ?_)
      · rcases List.mem_append.mp he with he | he
        · exact hproperties _ e he
        · rw [List.mem_singleton.mp he]
          exact hself
      · rw [Heap.ref_allocate, hsize]
        exact R.existing hlt
    · rw [Heap.size_allocate, Heap.size_allocate, Heap.ref_allocate, hsize]
      exact R.existing hlt
  · simp only [hp]
    refine ⟨hran.trans (.allocate h₁ _ fun k hk => by cases hk), ?_, ?_⟩
    · unfold Heap.Sound
      rw [if_neg (by decide), Heap.size_allocate, hsize]
      exact (hscope _ (Nat.lt_succ_self _)).allocate
        (hfunction (Nat.lt_succ_self _) (hproperties _))
    · rw [if_neg (by decide), Heap.size_allocate, Heap.ref_allocate, hsize]
      exact R.existing (Nat.lt_succ_self _)

/-! ## Entering a body -/

theorem bindParameters_sound {vs : List Val} {n : Nat} (ps : List Name)
    (hvs : ∀ v ∈ vs, v.Sound R n) : ∀ b ∈ bindParameters ps vs, b.2.Sound R n := by
  induction ps generalizing vs with
  | nil => exact fun b hb => absurd hb List.not_mem_nil
  | cons p ps ih =>
      intro b hb
      cases vs with
      | nil =>
          rcases List.mem_cons.mp hb with rfl | hb
          · exact fun v hv => by cases hv; trivial
          · exact ih hvs b hb
      | cons v vs =>
          rcases List.mem_cons.mp hb with rfl | hb
          · exact fun x hx => by cases hx; exact hvs v List.mem_cons_self
          · exact ih (fun x hx => hvs x (List.mem_cons_of_mem v hx)) b hb

theorem declareVars_sound {n : Nat} (names : List Name) {bs : List (Name × Binding)}
    (hbs : ∀ b ∈ bs, b.2.Sound R n) : ∀ b ∈ declareVars names bs, b.2.Sound R n := by
  induction names generalizing bs with
  | nil => exact hbs
  | cons name names ih =>
      refine ih fun b hb => ?_
      dsimp only at hb
      split at hb
      · exact hbs b hb
      · rcases List.mem_cons.mp hb with rfl | hb
        · exact fun v hv => by cases hv; trivial
        · exact hbs b hb

theorem declareLexical_conducts (r : ScopeRef) (body : List Stmt) :
    Action.Conducts R h .any (declareLexical r body) := by
  refine .modifyScope r fun h' s _ _ hs => ?_
  generalize lexicalNames body = names
  induction names generalizing s with
  | nil => exact hs
  | cons n names ih =>
      exact ih _ (hs.declare n.1 fun v hv => absurd hv (Option.not_mem_none v))

theorem declareFunctions_conducts {env : Env} (henv : env.Sound R h.size) (body : List Stmt) :
    Action.Conducts R h .any (declareFunctions env body) := by
  refine (Action.Conducts.each (P := .any) fun h' f _ hl _ => ?_).bind
    fun _ _ _ _ _ => .pure trivial
  refine (makeFunction_conducts (Post.mono (.env R) hl.size_le henv) f).bind
    fun h₁ v _ _ hv => .modifyScope env.scope fun h₂ s hl₂ _ hs => hs.declare f.name ?_
  exact fun x hx => by cases hx; exact hv.mono hl₂.size_le

theorem argumentsObject_conducts {vs : List Val} (hvs : ∀ v ∈ vs, v.Sound R h.size) :
    Action.Conducts R h (.val R) (argumentsObject vs) := by
  refine .here fun h' hl hs => .allocate (fun k hk => ?_) (Object.Sound.fill ?_ 0 fun v hv => ?_)
  · rw [(Object.shape_fill _ _ _).kind] at hk
    cases hk
  · have hguard : R.Allows h'.size Place.forbidden := hs.place (Nat.le_refl _)
    refine Object.sound_make trivial (fun p hp => ?_) fun e he => ?_
    · cases hp
      exact hs.place (by decide)
    · simp only [List.mem_cons, List.not_mem_nil, or_false] at he
      rcases he with rfl | rfl
      · exact Val.sound_ofNat _
      · exact ⟨hguard, hguard⟩
  · obtain ⟨x, hx, he⟩ := List.mem_map.mp hv
    cases he
    exact (hvs v hx).mono hl.size_le

/-- The values of bindings are sound. -/
def Post.bindings (R : RefRule) : Post (List (Name × Binding)) :=
  ⟨fun n bs => ∀ b ∈ bs, b.2.Sound R n, fun hnm hbs b hb v hv => (hbs b hb v hv).mono hnm⟩

theorem enterBody_conducts (f : Lambda) (scope : ScopeRef) {receiver : Val} {vs : List Val}
    (hreceiver : receiver.Sound R h.size) (hvs : ∀ v ∈ vs, v.Sound R h.size) :
    Action.Conducts R h (.env R) (enterBody f scope receiver vs) := by
  unfold enterBody
  extract_lets -underBinder enter
  have henter {h₁ : Heap} {own : List (Name × Binding)} (hl₁ : h.Later h₁)
      (hown : (Post.bindings R).Holds h₁.size own) : Action.Conducts R h₁ (.env R) (enter own) := by
    refine Action.Conducts.bind (.allocateScope fun h' hl _ => ?_) fun h₂ r hl₂ _ _ => ?_
    · have hle := (hl₁.trans hl).size_le
      refine declareVars_sound _ fun b hb => ?_
      rcases List.mem_append.mp hb with hb | hb
      · exact bindParameters_sound _ (fun v hv => (hvs v hv).mono hle) b hb
      · split at hb
        · exact absurd hb List.not_mem_nil
        · exact fun v hv => (hown b hb v hv).mono hl.size_le
    · have henv {h' : Heap} (hl : h₂.Later h') : Env.Sound R h'.size ⟨r, receiver, none, []⟩ :=
        hreceiver.mono ((hl₁.trans hl₂).trans hl).size_le
      refine (declareLexical_conducts r _).bind fun h₃ _ hl₃ _ _ => ?_
      refine (declareFunctions_conducts (henv hl₃) _).bind fun h₄ _ hl₄ _ _ => ?_
      exact .pure (henv (hl₃.trans hl₄))
  split
  · refine Action.Conducts.bind (P := .bindings R) (.pure fun b hb => ?_) fun _ _ hl _ => henter hl
    exact absurd hb List.not_mem_nil
  · refine (argumentsObject_conducts hvs).bind fun h₁ a hl₁ _ ha => ?_
    refine Action.Conducts.bind (P := .bindings R) (.pure fun b hb => ?_)
      fun _ _ hl _ => henter (hl₁.trans hl)
    rw [List.mem_singleton.mp hb]
    exact fun v hv => by cases hv; exact ha

/-! ## Running a body -/

theorem runAll_conducts (hev : ev.Conducts R) {env : Env} (henv : env.Sound R h.size)
    (body : List Stmt) : Action.Conducts R h (.flow R) (runAll ev env body) := by
  induction body generalizing h with
  | nil => exact .pure trivial
  | cons s rest ih =>
      refine (hev.stmt s henv).bind fun h' flow hl _ hflow => ?_
      split
      · exact ih (Post.mono (.env R) hl.size_le henv)
      · exact .pure hflow

theorem runBody_conducts (hev : ev.Conducts R) (f : Lambda) (scope : ScopeRef) {receiver : Val}
    {vs : List Val} (hreceiver : receiver.Sound R h.size) (hvs : ∀ v ∈ vs, v.Sound R h.size) :
    Action.Conducts R h (.val R) (runBody ev f scope receiver vs) := by
  refine (enterBody_conducts f scope hreceiver hvs).bind fun _ env _ _ henv => ?_
  refine (runAll_conducts hev henv f.body).bind fun _ flow _ _ hflow => ?_
  split
  · exact .pure hflow
  · exact .pure trivial

theorem newPromise_conducts : Action.Conducts R h (.val R) newPromise :=
  newObject_conducts (fun k hk => by cases hk) trivial (place_allowed (by decide))
    fun e he => absurd he List.not_mem_nil

/-- An empty object that inherits from another one. -/
theorem newPlain_conducts {p : ObjectRef}
    (hp : ∀ h', h.Later h' → h'.Sound R → R.Allows h'.size p) :
    Action.Conducts R h (.val R) (newObject .plain p []) :=
  newObject_conducts (fun k hk => by cases hk) trivial hp fun e he => absurd he List.not_mem_nil

theorem prototypeFor_conducts (hev : ev.Conducts R) {f : Val} (hf : f.Sound R h.size)
    {default : ObjectRef} (hdefault : default ≤ Place.forbidden) :
    Action.Conducts R h (.ref R) (prototypeFor ev f default) := by
  refine .here fun h' hl hs => ?_
  refine (getProperty_conducts hev (hf.mono hl.size_le) _).bind fun h₁ p hl₁ hs₁ hp => ?_
  split
  · exact .pure hp
  · exact .pure (hs₁.place hdefault)

theorem callClosure_conducts (hev : ev.Conducts R) (f : Lambda) (scope : ScopeRef)
    {self receiver : Val} {vs : List Val} (hself : self.Sound R h.size)
    (hreceiver : receiver.Sound R h.size) (hvs : ∀ v ∈ vs, v.Sound R h.size) :
    Action.Conducts R h (.val R) (callClosure ev self f scope receiver vs) := by
  unfold callClosure
  split
  · exact runBody_conducts hev f scope hreceiver hvs
  · exact (runBody_conducts hev f scope hreceiver hvs).outcome.bind fun _ _ _ _ _ =>
      newPromise_conducts
  · exact (prototypeFor_conducts hev hself (by decide)).bind fun h' p _ _ hp =>
      newPlain_conducts fun _ hl _ => R.mono hl.size_le hp

theorem constructClosure_conducts (hev : ev.Conducts R) (f : Lambda) (scope : ScopeRef)
    {self : Val} {vs : List Val} (hself : self.Sound R h.size)
    (hvs : ∀ v ∈ vs, v.Sound R h.size) :
    Action.Conducts R h (.val R) (constructClosure ev self f scope vs) := by
  refine (prototypeFor_conducts hev hself (by decide)).bind fun h₁ p hl₁ _ hp => ?_
  refine (newPlain_conducts fun _ hl _ => R.mono hl.size_le hp).bind
    fun h₂ receiver hl₂ _ hreceiver => ?_
  refine (runBody_conducts hev f scope hreceiver fun v hv =>
    (hvs v hv).mono (hl₁.trans hl₂).size_le).bind fun h₃ v hl₃ _ hv => ?_
  split
  · exact .pure hv
  · exact .pure (hreceiver.mono hl₃.size_le)

/-! ## Host functions -/

theorem raiseFailed_conducts (hev : ev.Conducts R) (message : String) :
    Action.Conducts R h (.val R) (raiseFailed ev message) := by
  refine Action.Conducts.bind (P := .val R) ?_ fun _ e _ _ he => ?_
  · exact newObject_conducts (fun k hk => by cases hk) trivial (place_allowed (by decide))
      fun e he => absurd he List.not_mem_nil
  · refine (setProperty_conducts hev _ he ?_).bind fun _ _ hl _ _ => .raise (he.mono hl.size_le)
    exact Val.sound_of_isObject rfl

theorem afterReply_conducts (hev : ev.Conducts R) {reply : Reply} (h : Heap)
    (hreply : (Post.reply R).Holds h.size reply) :
    Action.Conducts R h (.val R) (afterReply ev reply) := by
  cases reply with
  | returned v => exact .pure hreply
  | thrown v => exact .raise hreply
  | failed message => exact raiseFailed_conducts hev message
  | tooDeep => exact raiseTooDeep_conducts

/-- The host is asked for a function that the heap has an object of. -/
theorem callNative_conducts (hev : ev.Conducts R) {r : ObjectRef} {k : NativeKey}
    (hr : h.native? r = some k) {vs : List Val} (hvs : ∀ v ∈ vs, v.Sound R h.size) :
    Action.Conducts R h (.val R) (callNative ev k vs) := by
  refine Action.Conducts.bind (.ask fun h' hl _ => ?_) fun h₁ reply _ _ hreply =>
    afterReply_conducts hev h₁ hreply
  exact ⟨⟨r, hl.native? hr⟩, fun v hv => (hvs v hv).mono hl.size_le⟩

end ScriptHost.Script
