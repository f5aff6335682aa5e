import ScriptHost.Proofs.Boundary.Builds

/-!
# Scripts do not see what the host remembers

What a host remembers is part of the world, but only callbacks and generators look at it.  So
a run can be repeated with a host that remembers something else, as long as host calls are
answered in the same way; then everything comes out the same but for what is remembered.

* **The projection.**  `World.mapHost f` is the world in which the host remembers `f` of what
  it does.
* **The relation.**  `Frame` lists all that the program does to a world.  A script that calls
  the host does far less by itself: it changes heaps, and values are made of what it hands out.
  That is all that `Outward` asks of a relation, so much stricter ones are kept to.
* **The dispatchers.**  `Follows f Rel d d'` says that `d'` answers on the projection as `d`
  does on the world itself, and that `d` keeps to the relation.

Then the same is shown of all that a script can reach: its run, the values that it hands out
and the way that it ends.
-/

namespace ScriptHost

variable {φ σ τ α β : Type}

/-! ## The projection -/

/-- The world in which the host remembers a function of what it does. -/
def World.mapHost (f : σ → τ) (w : World φ σ) : World φ τ :=
  ⟨w.realms, w.active, w.live, w.nextRealm, w.nextValue, w.log, f w.host⟩

namespace World

variable (f : σ → τ) (w : World φ σ)

@[simp] theorem heap_mapHost (r : RealmRef) : (w.mapHost f).heap r = w.heap r := rfl

@[simp] theorem setHeap_mapHost (r : RealmRef) (h : Script.Heap) :
    (w.mapHost f).setHeap r h = (w.setHeap r h).mapHost f := rfl

end World

/-- The projection of a result. -/
def follow (f : σ → τ) (a : World φ σ × α) : World φ τ × α := (a.1.mapHost f, a.2)

/-- What goes on alike after a conversion and its projection. -/
theorem sequel_follow (f : σ → τ) (a : World φ σ × Except Failure α)
    {next : World φ σ → α → World φ σ × Except Failure β}
    {next' : World φ τ → α → World φ τ × Except Failure β}
    (hnext : ∀ w x, next' (w.mapHost f) x = follow f (next w x)) :
    sequel (follow f a) next' = follow f (sequel a next) := by
  obtain ⟨w, e | x⟩ := a
  · rfl
  · exact hnext w x

theorem World.withContext_follow (f : σ → τ) (w : World φ σ) (r : RealmRef) (left : Script.Stack)
    (x : RealmRef → Script.Stack → World φ σ → World φ σ × Except Failure α)
    (y : RealmRef → Script.Stack → World φ τ → World φ τ × Except Failure α)
    (hxy : ∀ context stack w, y context stack (w.mapHost f) = follow f (x context stack w)) :
    (w.mapHost f).withContext r left y = follow f (w.withContext r left x) := by
  have hcontext : (w.mapHost f).context? r = w.context? r := rfl
  unfold World.withContext
  rw [hcontext]
  cases w.context? r with
  | some context => exact hxy context left w
  | none =>
      by_cases hscript : (w.realm r).isScript = true
      · have hlive := hxy r (w.realm r).stack { w with live := r :: w.live }
        have hscript' : ((w.mapHost f).realm r).isScript = true := hscript
        dsimp only
        rw [if_pos hscript, if_pos hscript']
        exact congrArg (fun a => ({ a.1 with live := a.1.live.tail }, a.2)) hlive
      · have hscript' : ¬((w.mapHost f).realm r).isScript = true := hscript
        dsimp only
        rw [if_neg hscript, if_neg hscript']
        rfl

/-! ## What scripts do to a world -/

/-- A relation between an earlier and a later world that scripts keep to by themselves. -/
structure Outward (Rel : World φ σ → World φ σ → Prop) : Prop where
  refl (w : World φ σ) : Rel w w
  trans {w₁ w₂ w₃ : World φ σ} : Rel w₁ w₂ → Rel w₂ w₃ → Rel w₁ w₃
  setHeap (w : World φ σ) (r : RealmRef) (h : Script.Heap) : Rel w (w.setHeap r h)
  made (w : World φ σ) (n : ValueId) : Rel w { w with nextValue := n }

theorem Outward.and {Rel Rel' : World φ σ → World φ σ → Prop} (R : Outward Rel)
    (R' : Outward Rel') : Outward fun w w' => Rel w w' ∧ Rel' w w' where
  refl w := ⟨R.refl w, R'.refl w⟩
  trans h h' := ⟨R.trans h.1 h'.1, R'.trans h.2 h'.2⟩
  setHeap w r h := ⟨R.setHeap w r h, R'.setHeap w r h⟩
  made w n := ⟨R.made w n, R'.made w n⟩

/-- No realm is made, no callback is registered and nothing is recorded. -/
structure Quiet (w w' : World φ σ) : Prop where
  size_eq : w'.realms.size = w.realms.size
  natives_eq (r : RealmRef) : (w'.realm r).natives = (w.realm r).natives
  log_eq : w'.log = w.log

theorem Quiet.outward : Outward (Quiet (φ := φ) (σ := σ)) where
  refl _ := ⟨rfl, fun _ => rfl, rfl⟩
  trans h h' := ⟨h'.size_eq.trans h.size_eq, fun r => (h'.natives_eq r).trans (h.natives_eq r),
    h'.log_eq.trans h.log_eq⟩
  setHeap w r h := ⟨w.size_setHeap r h, fun s => w.natives_setHeap r s h, rfl⟩
  made _ _ := ⟨rfl, fun _ => rfl, rfl⟩

/-! ## Two dispatchers -/

/-- The second result is the projection of the first, whose world keeps to a relation. -/
structure Echoes (f : σ → τ) (Rel : World φ σ → World φ σ → Prop) (w : World φ σ)
    (first : World φ σ × α) (second : World φ τ × α) : Prop where
  same : second = follow f first
  bound : Rel w first.1

namespace Echoes

variable {f : σ → τ} {Rel : World φ σ → World φ σ → Prop} {w w' : World φ σ}

theorem refl (R : Outward Rel) (x : α) : Echoes f Rel w (w, x) (w.mapHost f, x) := ⟨rfl, R.refl w⟩

/-- A value is made. -/
theorem made (R : Outward Rel) (n : ValueId) (x : α) :
    Echoes f Rel w ({ w with nextValue := n }, x) ({ w.mapHost f with nextValue := n }, x) :=
  ⟨rfl, R.made w n⟩

theorem after (R : Outward Rel) {a : World φ σ × α} {b : World φ τ × α} (h : Rel w w')
    (ha : Echoes f Rel w' a b) : Echoes f Rel w a b :=
  ⟨ha.same, R.trans h ha.bound⟩

end Echoes

/-- A dispatcher answers on the projection of a world as another does on the world, which keeps
to a relation. -/
structure Follows (f : σ → τ) (Rel : World φ σ → World φ σ → Prop) (d : Dispatcher φ σ)
    (d' : Dispatcher φ τ) : Prop where
  outward : Outward Rel
  answers (context : RealmRef) (call : Script.HostCall) (w : World φ σ) :
    Echoes f Rel w (d context call w) (d' context call (w.mapHost f))

namespace Follows

variable {f : σ → τ} {Rel : World φ σ → World φ σ → Prop} {d : Dispatcher φ σ}
variable {d' : Dispatcher φ τ} (F : Follows f Rel d d')
variable [Machine] (context realm : RealmRef) (stack : Script.Stack)

include F

/-! ## Scripts in a context -/

omit [Machine] in
/-- A run is driven alike. -/
theorem drive (x : Script.Run α) (w : World φ σ) :
    Echoes f Rel w (drive d context x w) (drive d' context x (w.mapHost f)) := by
  induction x generalizing w with
  | finished h o => exact ⟨rfl, F.outward.setHeap w context h⟩
  | host h call resume ih =>
      obtain ⟨hsame, hbound⟩ := F.answers context call (w.setHeap context h)
      simp only [ScriptHost.drive, World.setHeap_mapHost, hsame]
      exact (ih _ _ _).after F.outward (F.outward.trans (F.outward.setHeap w context h) hbound)

omit [Machine] in
theorem run (x : Script.Action α) (w : World φ σ) :
    Echoes f Rel w (Crossing.run ⟨d, context, realm, stack⟩ x w)
      (Crossing.run ⟨d', context, realm, stack⟩ x (w.mapHost f)) :=
  F.drive context (x (w.heap context)) w

/-! ## From scripts to the host -/

theorem text (s : Units) (w : World φ σ) :
    Echoes f Rel w (Crossing.text ⟨d, context, realm, stack⟩ s w)
      (Crossing.text ⟨d', context, realm, stack⟩ s (w.mapHost f)) := by
  unfold Crossing.text
  cases s.toString? with
  | some t => exact .refl F.outward _
  | none =>
      obtain ⟨hsame, hbound⟩ :=
        F.run context realm stack (makeWellFormed stack s) w
      simp only [hsame]
      generalize Crossing.run ⟨d, context, realm, stack⟩ _ w = a at hbound ⊢
      obtain ⟨w', o⟩ := a
      cases o <;> exact ⟨rfl, hbound⟩

theorem toValue (v : Script.Val) (w : World φ σ) :
    Echoes f Rel w (Crossing.toValue ⟨d, context, realm, stack⟩ v w)
      (Crossing.toValue ⟨d', context, realm, stack⟩ v (w.mapHost f)) := by
  cases v with
  | int n => exact .made F.outward (w.nextValue + 1) _
  | float x => exact .made F.outward (w.nextValue + 1) _
  | string s =>
      obtain ⟨hsame, hbound⟩ := F.text context realm stack s w
      unfold Crossing.toValue
      dsimp only
      rw [hsame]
      generalize Crossing.text ⟨d, context, realm, stack⟩ s w = a at hbound ⊢
      obtain ⟨w', e | t⟩ := a
      · exact ⟨rfl, hbound⟩
      · exact .after F.outward hbound (.made F.outward (w'.nextValue + 1) _)
  | object r =>
      unfold Crossing.toValue
      dsimp only
      rw [World.heap_mapHost]
      split
      · exact .made F.outward _ _
      · exact .refl F.outward _
  | _ => exact .refl F.outward _

/-- A list of values comes out alike. -/
theorem toValues (vs : List Script.Val) (w : World φ σ) :
    Echoes f Rel w (Crossing.toValues ⟨d, context, realm, stack⟩ vs w)
      (Crossing.toValues ⟨d', context, realm, stack⟩ vs (w.mapHost f)) := by
  induction vs generalizing w with
  | nil => exact .refl F.outward _
  | cons v vs ih =>
      obtain ⟨hsame, hbound⟩ := F.toValue context realm stack v w
      simp only [Crossing.toValues, hsame]
      generalize Crossing.toValue ⟨d, context, realm, stack⟩ v w = a at hbound ⊢
      obtain ⟨w', e | x⟩ := a
      · exact ⟨rfl, hbound⟩
      · obtain ⟨hsame', hbound'⟩ := ih w'
        simp only [follow, hsame']
        generalize Crossing.toValues ⟨d, context, realm, stack⟩ vs w' = b at hbound' ⊢
        obtain ⟨w'', e | xs⟩ := b
        · exact ⟨rfl, F.outward.trans hbound hbound'⟩
        · exact ⟨rfl, F.outward.trans hbound hbound'⟩

theorem report (v : Script.Val) (w : World φ σ) :
    Echoes f Rel w (Crossing.report ⟨d, context, realm, stack⟩ v w)
      (Crossing.report ⟨d', context, realm, stack⟩ v (w.mapHost f)) := by
  obtain ⟨hsame, hbound⟩ := F.run context realm stack (reportOf (Machine.evaluator stack) v) w
  simp only [Crossing.report, Crossing.evaluator, hsame]
  generalize Crossing.run ⟨d, context, realm, stack⟩ _ w = a at hbound ⊢
  obtain ⟨w', o⟩ := a
  cases o <;> exact ⟨rfl, hbound⟩

theorem conclude (o : Script.Outcome Script.Val) (w : World φ σ) :
    Echoes f Rel w (Crossing.conclude ⟨d, context, realm, stack⟩ o w)
      (Crossing.conclude ⟨d', context, realm, stack⟩ o (w.mapHost f)) := by
  cases o with
  | returned v => exact F.toValue context realm stack v w
  | thrown v =>
      obtain ⟨hsame, hbound⟩ := F.report context realm stack v w
      simp only [Crossing.conclude, hsame]
      exact ⟨rfl, hbound⟩
  | suspended => exact .refl F.outward _

theorem runSource (source : String) (w : World φ σ) :
    Echoes f Rel w (Crossing.runSource ⟨d, context, realm, stack⟩ source w)
      (Crossing.runSource ⟨d', context, realm, stack⟩ source (w.mapHost f)) := by
  unfold Crossing.runSource
  cases nulPosition? source with
  | some n => exact .refl F.outward _
  | none =>
      obtain ⟨hsame, hbound⟩ := F.run context realm stack (Machine.runSource stack source) w
      simp only [hsame]
      exact (F.conclude context realm stack _ _).after F.outward hbound

/-! ## From the host to scripts -/

theorem assign (target : ObjectRef) (name : String) (v : Script.Val) (w : World φ σ) :
    Echoes f Rel w (Crossing.assign ⟨d, context, realm, stack⟩ target name v w)
      (Crossing.assign ⟨d', context, realm, stack⟩ target name v (w.mapHost f)) := by
  obtain ⟨hsame, hbound⟩ := F.run context realm stack
    (Script.setProperty (Machine.evaluator stack) (.object target) (Script.key name) v) w
  simp only [Crossing.assign, Crossing.evaluator, hsame]
  generalize Crossing.run ⟨d, context, realm, stack⟩ _ w = a at hbound ⊢
  obtain ⟨w', o⟩ := a
  cases o <;> exact ⟨rfl, hbound⟩

omit F

omit [Machine] in
private theorem restore_follow (g : FunctionRef) (w : World φ σ) :
    Crossing.restore ⟨d', context, realm, stack⟩ g (w.mapHost f) =
      follow f (Crossing.restore ⟨d, context, realm, stack⟩ g w) := by
  cases g with
  | «foreign» backend => rfl
  | captured origin o =>
      have hid (r : RealmRef) : (w.mapHost f).idOf r = w.idOf r := rfl
      simp only [Crossing.restore, hid]
      split
      · rfl
      · rfl

private theorem allocate_follow (bytes : Nat) (o : Script.Object) (w : World φ σ) :
    Crossing.allocate ⟨d', context, realm, stack⟩ bytes o (w.mapHost f) =
      follow f (Crossing.allocate ⟨d, context, realm, stack⟩ bytes o w) := by
  unfold Crossing.allocate
  rw [apply_ite (follow f)]
  rfl

/-- A fresh object gets the exports of a namespace. -/
private theorem object_follow (id : ValueId) {exports : Namespace φ}
    (hinstall : ∀ target (w : World φ σ),
      exports.install ⟨d', context, realm, stack⟩ target (w.mapHost f) =
        follow f (exports.install ⟨d, context, realm, stack⟩ target w)) (w : World φ σ) :
    (Value.object id exports).extract ⟨d', context, realm, stack⟩ (w.mapHost f) =
      follow f ((Value.object id exports).extract ⟨d, context, realm, stack⟩ w) := by
  rw [extract_object, extract_object, Crossing.allocatePlain, allocate_follow]
  refine sequel_follow f _ fun w' target => ?_
  rw [hinstall]
  exact sequel_follow f _ fun w'' _ => rfl

mutual
theorem extract (F : Follows f Rel d d') (context realm : RealmRef) (stack : Script.Stack)
    (v : Value φ) (w : World φ σ) :
    v.extract ⟨d', context, realm, stack⟩ (w.mapHost f) =
      follow f (v.extract ⟨d, context, realm, stack⟩ w) := by
  cases v with
  | null => rfl
  | undefined => rfl
  | number id x => rfl
  | string id s =>
      unfold Value.extract
      rw [apply_ite (follow f)]
      rfl
  | function id g => exact restore_follow context realm stack g w
  | object id exports =>
      exact object_follow context realm stack id (fun target w =>
        F.install context realm stack exports target w) w

theorem install (F : Follows f Rel d d') (context realm : RealmRef) (stack : Script.Stack)
    (n : Namespace φ) (target : ObjectRef) (w : World φ σ) :
    n.install ⟨d', context, realm, stack⟩ target (w.mapHost f) =
      follow f (n.install ⟨d, context, realm, stack⟩ target w) := by
  cases n with
  | empty => rfl
  | entry name item rest =>
      rw [install_entry, install_entry, F.realise context realm stack item name w]
      refine sequel_follow f _ fun w' v => ?_
      rw [(F.assign context realm stack target name v w').same]
      exact sequel_follow f _ fun w'' _ => F.install context realm stack rest target w''

theorem realise (F : Follows f Rel d d') (context realm : RealmRef) (stack : Script.Stack)
    (item : Export φ) (name : String) (w : World φ σ) :
    item.realise ⟨d', context, realm, stack⟩ name (w.mapHost f) =
      follow f (item.realise ⟨d, context, realm, stack⟩ name w) := by
  cases item with
  | value v => exact F.extract context realm stack v w
  | callback g =>
      have hmake : Crossing.makeNative ⟨d', context, realm, stack⟩ name g (w.mapHost f) =
          follow f (Crossing.makeNative ⟨d, context, realm, stack⟩ name g w) :=
        allocate_follow context realm stack _ _ (w.register realm g).2
      rw [realise_callback, realise_callback, hmake]
      exact sequel_follow f _ fun w' _ => rfl
  | nested exports =>
      rw [realise_nested _ _ 0, realise_nested _ _ 0]
      exact object_follow context realm stack 0 (fun target w =>
        F.install context realm stack exports target w) w
end

include F

/-! ## Realms and runs -/

theorem createRealm (left : Script.Stack) (config : EngineConfig) (n : Namespace φ)
    (w : World φ σ) :
    createRealm d' left config n (w.mapHost f) = follow f (createRealm d left config n w) := by
  unfold ScriptHost.createRealm
  split
  · let heap := { Script.Heap.standard with memory := config.runtime.memory.map UInt64.toNat }
    let w₁ := (w.addRealm scriptBackend (.script heap) (Machine.stack config.runtime)).2
    have hinstall := w₁.withContext_follow f w.realms.size left
      (fun context stack w' => n.install ⟨d, context, w.realms.size, stack⟩ Script.Place.global w')
      (fun context stack w' => n.install ⟨d', context, w.realms.size, stack⟩ Script.Place.global w')
      fun context stack w' => F.install context w.realms.size stack n Script.Place.global w'
    have hmade : ((w.mapHost f).addRealm scriptBackend (.script heap)
        (Machine.stack config.runtime)).2 = w₁.mapHost f := rfl
    have hsize : (w.mapHost f).realms.size = w.realms.size := rfl
    simp only [World.ref_addRealm, hsize]
    rw [hmade, hinstall]
    generalize World.withContext _ w.realms.size left _ = a
    obtain ⟨w₂, e | u⟩ := a
    · rfl
    · rfl
  · rfl

theorem execute (left : Script.Stack) (r : RealmRef) (source : String) (w : World φ σ) :
    execute d' left r source (w.mapHost f) = follow f (execute d left r source w) :=
  w.withContext_follow f r left (fun context stack w' =>
      Crossing.runSource ⟨d, context, r, stack⟩ source w')
    (fun context stack w' => Crossing.runSource ⟨d', context, r, stack⟩ source w')
    fun context stack w' => (F.runSource context r stack source w').same

/-- A run in a realm that carries given exports goes alike. -/
theorem runExports (left : Script.Stack) (config : EngineConfig) (n : Namespace φ)
    (source : String) (w : World φ σ) :
    runExports d' left config n source (w.mapHost f) =
      follow f (runExports d left config n source w) := by
  unfold ScriptHost.runExports
  rw [F.createRealm]
  generalize ScriptHost.createRealm d left config n w = a
  obtain ⟨w₂, e | r⟩ := a
  · rfl
  · have hexecute := F.execute left r source
      ((w₂.record (.running source.utf8ByteSize (w₂.idOf r) w₂.depth)).enter r).2
    exact congrArg (fun a => (a.1.leave ⟨w₂.depth⟩, a.2)) hexecute

end Follows

end ScriptHost
