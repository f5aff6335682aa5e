import ScriptHost.Proofs.Boundary.Builds
import ScriptHost.Proofs.Boundary.Reachable

/-!
# Slots are handed out in order

Every callback that goes into a realm gets the next slot of its table, once for each time that
it is exported, depth first.  Slots are never given back: what was there before stays, and when
a conversion stops early the callbacks that it has reached have their slots already.

The table of a realm is a list, so all of this is one equation: the table afterwards is the
table before, followed by `callbacks`, or by a part of them that they begin with.  As with what
is recorded, it is shown of silent conversions, since a host call can register more.  A
conversion is silent in a realm that no script has touched, and in any other as long as the
target and the prototype of plain objects have no setter of a script and nothing is exported
as `__proto__`.  Such an export can bring a setter in: `slot_beyond_exports`.
-/

namespace ScriptHost

open Script (Ground Heap Val)

variable {φ γ σ α β : Type}

/-! ## The callbacks in a value -/

mutual
/-- The callbacks that a value exports, depth first. -/
def Value.callbacks : Value φ → List φ
  | .object _ exports => exports.callbacks
  | .null => []
  | .undefined => []
  | .number _ _ => []
  | .string _ _ => []
  | .function _ _ => []

/-- The callbacks in a namespace, in the order of its exports. -/
def Namespace.callbacks : Namespace φ → List φ
  | .empty => []
  | .entry _ item rest => item.callbacks ++ rest.callbacks

/-- The callbacks in an export. -/
def Export.callbacks : Export φ → List φ
  | .value v => v.callbacks
  | .callback f => [f]
  | .nested exports => exports.callbacks
end

/-! ## What is registered -/

/-- These callbacks are registered in a realm, and nothing in any other. -/
structure Registers (r : RealmRef) (fs : List φ) (w w' : World φ σ) : Prop where
  size_eq : w'.realms.size = w.realms.size
  table : (w'.realm r).natives.toList = (w.realm r).natives.toList ++ fs
  others (s : RealmRef) : s ≠ r → (w'.realm s).natives = (w.realm s).natives

namespace Registers

variable {r : RealmRef} {fs gs : List φ} {w w' w'' : World φ σ}

theorem refl (w : World φ σ) : Registers r [] w w := ⟨rfl, (List.append_nil _).symm, fun _ _ => rfl⟩

theorem trans (h : Registers r fs w w') (h' : Registers r gs w' w'') :
    Registers r (fs ++ gs) w w'' := by
  refine ⟨h'.size_eq.trans h.size_eq, ?_, fun s hs => (h'.others s hs).trans (h.others s hs)⟩
  rw [h'.table, h.table, List.append_assoc]

theorem record (w : World φ σ) (e : Event) : Registers r [] w (w.record e) :=
  ⟨rfl, (List.append_nil _).symm, fun _ _ => rfl⟩

theorem setHeap (w : World φ σ) (s : RealmRef) (h : Heap) : Registers r [] w (w.setHeap s h) := by
  refine ⟨w.size_setHeap s h, ?_, fun t _ => w.natives_setHeap s t h⟩
  rw [w.natives_setHeap, List.append_nil]

theorem register (hr : r < w.realms.size) (f : φ) : Registers r [f] w (w.register r f).2 := by
  refine ⟨w.size_register r f, ?_, fun s hs => ?_⟩
  · rw [w.natives_register r f hr, Array.toList_push]
  · unfold World.register
    rw [w.realm_modifyRealm, if_neg fun hand => hs hand.1.symm]

/-- Where host calls are refused, scripts register nothing. -/
theorem drive (x : Script.Run α) (context : RealmRef) (w : World φ σ) :
    Registers r [] w (drive refusing context x w).1 := by
  induction x generalizing w with
  | finished h o => exact setHeap w context h
  | host h call resume ih => exact (setHeap w context h).trans (ih _ _ _)

end Registers

/-- A conversion registers callbacks in order, all of them if it succeeds. -/
structure Fills (r : RealmRef) (fs : List φ) (w : World φ σ) (a : World φ σ × Except Failure α) :
    Prop where
  begins : ∃ gs, gs <+: fs ∧ Registers r gs w a.1
  all (x : α) : a.2 = .ok x → Registers r fs w a.1

namespace Fills

variable {r : RealmRef} {fs gs : List φ} {w w' : World φ σ}

theorem returned {x : α} (h : Registers r fs w w') :
    Fills r fs w (w', (.ok x : Except Failure α)) :=
  ⟨⟨fs, List.prefix_rfl, h⟩, fun _ _ => h⟩

theorem ended {x : Except Failure α} (h : Registers r [] w w') : Fills r [] w (w', x) :=
  ⟨⟨[], List.prefix_rfl, h⟩, fun _ _ => h⟩

theorem after {a : World φ σ × Except Failure α} (h : Registers r [] w w')
    (ha : Fills r fs w' a) : Fills r fs w a := by
  obtain ⟨gs, hprefix, hgs⟩ := ha.begins
  exact ⟨⟨gs, hprefix, h.trans hgs⟩, fun x hx => h.trans (ha.all x hx)⟩

/-- A conversion that has reached all of the first callbacks goes on with the others. -/
theorem sequel {a : World φ σ × Except Failure α}
    {next : World φ σ → α → World φ σ × Except Failure β} (ha : Fills r fs w a)
    (hnext : ∀ w' x, w'.realms.size = w.realms.size → Fills r gs w' (next w' x)) :
    Fills r (fs ++ gs) w (ScriptHost.sequel a next) := by
  obtain ⟨w', e | x⟩ := a
  · obtain ⟨hs, hprefix, h⟩ := ha.begins
    exact ⟨⟨hs, hprefix.trans (List.prefix_append _ _), h⟩, fun _ hx => (nomatch hx)⟩
  · have hfirst := ha.all x rfl
    obtain ⟨⟨hs, hprefix, hrest⟩, hall⟩ := hnext w' x hfirst.size_eq
    exact ⟨⟨fs ++ hs, (List.prefix_append_right_inj fs).mpr hprefix, hfirst.trans hrest⟩,
      fun y hy => hfirst.trans (hall y hy)⟩

end Fills

/-! ## Conversions where host calls are refused -/

section Refused

variable [Machine] {r : RealmRef} (stack : Script.Stack)

private theorem allocate_fills (bytes : Nat) (o : Script.Object) (w : World φ σ) :
    Fills r [] w (Crossing.allocate ⟨refusing, r, r, stack⟩ bytes o w) := by
  rw [Crossing.allocate_eq]
  split
  · exact .ended (.setHeap w r _)
  · exact .ended (.refl w)

/-- A callback is registered even if its function cannot be made. -/
private theorem makeNative_fills (name : String) (f : φ) {w : World φ σ}
    (hr : r < w.realms.size) :
    Fills r [f] w (Crossing.makeNative ⟨refusing, r, r, stack⟩ name f w) := by
  have hregister : Fills r [f] w ((w.register r f).2, (.ok () : Except Failure Unit)) :=
    .returned (.register hr f)
  exact hregister.sequel fun w' _ _ => allocate_fills stack _ _ w'

private theorem assign_fills (target : ObjectRef) (name : String) (v : Val) (w : World φ σ) :
    Fills r [] w (Crossing.assign ⟨refusing, r, r, stack⟩ target name v w) := by
  have hrun := Registers.drive (r := r) (Script.setProperty (Machine.evaluator stack)
    (.object target) (Script.key name) v (w.heap r)) r w
  simp only [Crossing.assign, Crossing.run, Crossing.evaluator]
  generalize ScriptHost.drive refusing r _ w = a at hrun ⊢
  obtain ⟨w', o⟩ := a
  cases o with
  | returned u => exact .ended hrun
  | thrown e => exact .ended hrun
  | suspended => exact .ended hrun

omit [Machine] in
private theorem restore_fills (f : FunctionRef) (w : World φ σ) :
    Fills r [] w (Crossing.restore ⟨refusing, r, r, stack⟩ f w) := by
  cases f with
  | foreign backend => exact .ended (.record w _)
  | captured s o =>
      simp only [Crossing.restore]
      split
      · exact .ended (.refl w)
      · exact .ended (.record w _)

/-- A fresh object gets the exports of a namespace. -/
private theorem object_fills (i : ValueId) {exports : Namespace φ} {w : World φ σ}
    (hinstall : ∀ {target : ObjectRef} {w : World φ σ}, r < w.realms.size →
      Fills r exports.callbacks w (exports.install ⟨refusing, r, r, stack⟩ target w))
    (hr : r < w.realms.size) :
    Fills r exports.callbacks w ((Value.object i exports).extract ⟨refusing, r, r, stack⟩ w) := by
  rw [extract_object, ← List.nil_append exports.callbacks, ← List.append_nil exports.callbacks]
  refine .sequel (allocate_fills stack _ _ w) fun w' target hsize => ?_
  exact .sequel (hinstall (hsize ▸ hr)) fun w'' _ _ => .ended (.refl w'')

mutual
theorem extract_fills (v : Value φ) {w : World φ σ} (hr : r < w.realms.size) :
    Fills r v.callbacks w (v.extract ⟨refusing, r, r, stack⟩ w) := by
  cases v with
  | null => exact .ended (.refl w)
  | undefined => exact .ended (.refl w)
  | number id x => exact .ended (.refl w)
  | string id s =>
      unfold Value.extract
      split
      · exact .ended (.refl w)
      · exact .ended (.refl w)
  | function id f => exact restore_fills stack f w
  | object id exports => exact object_fills stack id (fun hr => install_fills exports hr) hr

theorem install_fills (n : Namespace φ) {target : ObjectRef} {w : World φ σ}
    (hr : r < w.realms.size) :
    Fills r n.callbacks w (n.install ⟨refusing, r, r, stack⟩ target w) := by
  cases n with
  | empty => exact .ended (.refl w)
  | entry name item rest =>
      rw [install_entry]
      refine .sequel (realise_fills item name hr) fun w₁ v hsize₁ => ?_
      refine .sequel (assign_fills stack target name v w₁) fun w₂ _ hsize₂ => ?_
      exact install_fills rest (hsize₂ ▸ hsize₁ ▸ hr)

theorem realise_fills (item : Export φ) (name : String) {w : World φ σ}
    (hr : r < w.realms.size) :
    Fills r item.callbacks w (item.realise ⟨refusing, r, r, stack⟩ name w) := by
  cases item with
  | value v => exact extract_fills v hr
  | callback f =>
      rw [realise_callback]
      change Fills r ([f] ++ []) w _
      exact (makeNative_fills stack name f hr).sequel fun w' _ _ => .ended (.refl w')
  | nested exports =>
      rw [realise_nested _ _ 0]
      exact object_fills stack 0 (fun hr => install_fills exports hr) hr
end

end Refused

/-! ## Everything about slots -/

/-- What goes into a realm without a host call fills the next slots of its table, in order; and
when nothing calls the host. -/
structure HandsOut [Machine] (c : Crossing φ σ) (w : World φ σ) : Prop where
  exports (n : Namespace φ) (target : ObjectRef) : Silent c (fun c => n.install c target w) →
    Fills c.realm n.callbacks w (n.install c target w)
  value (v : Value φ) : Silent c (fun c => v.extract c w) →
    Fills c.realm v.callbacks w (v.extract c w)
  /-- What goes in twice fills as many slots again. -/
  again (v : Value φ) (x y : Val) : Silent c (fun c => v.extract c w) →
    (v.extract c w).2 = .ok x → Silent c (fun c' => v.extract c' (v.extract c w).1) →
      (v.extract c (v.extract c w).1).2 = .ok y →
        Registers c.realm (v.callbacks ++ v.callbacks) w (v.extract c (v.extract c w).1).1
  fresh (n : Namespace φ) (target : ObjectRef) : FreshTarget c.context target w →
    Silent c fun c => n.install c target w
  freshValue (v : Value φ) : FreshContext c.context w → Silent c fun c => v.extract c w
  rooted (n : Namespace φ) (target : ObjectRef) : (w.heap c.context).Rooted False →
    (∀ name ∈ n.names, (w.heap c.context).TakesName False target name) →
      Script.prototypeName ∉ n.exportNames → Silent c fun c => n.install c target w
  rootedValue (v : Value φ) : (w.heap c.context).Rooted False →
    Script.prototypeName ∉ v.exportNames → Silent c fun c => v.extract c w

/-- In every realm slots are handed out in order. -/
theorem slots_handed_out [Machine] [LawfulMachine] (d : Dispatcher φ σ) (stack : Script.Stack)
    {r : RealmRef} {w : World φ σ} (hr : r < w.realms.size) (hfew : w.realms.size < 2 ^ 32)
    (hn : w.Numbered) :
    HandsOut ⟨d, r, r, stack⟩ w := by
  have hvalue {w : World φ σ} (hr : r < w.realms.size) (v : Value φ)
      (hsilent : Silent ⟨d, r, r, stack⟩ fun c => v.extract c w) :
      Fills r v.callbacks w (v.extract ⟨d, r, r, stack⟩ w) := by
    have hrefused : v.extract ⟨refusing, r, r, stack⟩ w = v.extract ⟨d, r, r, stack⟩ w :=
      hsilent refusing
    exact hrefused ▸ extract_fills stack v hr
  have hfree {names : List String} (hnames : Script.prototypeName ∉ names) :
      ∀ name ∈ names, name ≠ Script.prototypeName := by
    rintro name hname rfl
    exact hnames hname
  refine ⟨fun n target hsilent => ?_, fun v hsilent => hvalue hr v hsilent,
    fun v x y hsilent hx hagain hy => ?_,
    fun n target ht d' => (install_fresh d' n target ht).same,
    fun v hc d' => (extract_fresh d' v hc).same, fun n target hg ht hnames d' => ?_,
    fun v hg hnames d' => ?_⟩
  · have hrefused : n.install ⟨refusing, r, r, stack⟩ target w =
        n.install ⟨d, r, r, stack⟩ target w := hsilent refusing
    exact hrefused ▸ install_fills stack n hr
  · have hfirst := (hvalue hr v hsilent).all x hx
    exact hfirst.trans ((hvalue (hfirst.size_eq ▸ hr) v hagain).all y hy)
  · have hs : Site (Ground.rooted False) r w := ⟨hr, hfew, hn, hg⟩
    exact (install_builds stack n (hfree hnames) hs ht (Nat.le_refl _)).same d' d
  · have hs : Site (Ground.rooted False) r w := ⟨hr, hfew, hn, hg⟩
    exact (extract_builds stack v (hfree hnames) hs).same d' d

/-- A namespace with callbacks on three levels. -/
def threeCallbacks : Namespace Nat :=
  .entry "a" (.callback 1)
    (.entry "ns" (.nested (.entry "b" (.callback 2) .empty))
      (.entry "o" (.value (.object 0 (.entry "c" (.callback 3) .empty))) .empty))

/-- An empty realm. -/
def emptyWorld : World Nat Unit :=
  ((World.start ()).addRealm scriptBackend (.script { Heap.standard with memory := none })
    (Machine.stack {})).2

theorem slots_handed_out_threeCallbacks :
    0 < emptyWorld.realms.size ∧ emptyWorld.realms.size < 2 ^ 32 ∧ emptyWorld.Numbered ∧
      Fills 0 [1, 2, 3] emptyWorld
        (threeCallbacks.install ⟨refusing, 0, 0, (Machine.stack {})⟩ Script.Place.global
          emptyWorld) := by
  have hsize : emptyWorld.realms.size = 1 := World.size_addRealm _ _ _ _
  have hr : 0 < emptyWorld.realms.size := hsize ▸ Nat.zero_lt_one
  have hfew : emptyWorld.realms.size < 2 ^ 32 := hsize ▸ by decide
  have hn : emptyWorld.Numbered := (World.Numbered.start ()).addRealm _ _ _
  have hheap : emptyWorld.heap 0 = { Heap.standard with memory := none } :=
    World.heap_addRealm_self _ _ _ _
  have hfresh : FreshTarget 0 Script.Place.global emptyWorld := by
    refine ⟨⟨hr, ?_⟩, ?_, ?_⟩
    all_goals rw [hheap]
    · exact Heap.Pristine.standard.withMemory none
    · exact (Heap.Pristine.standard_global none).1
    · exact (Heap.Pristine.standard_global none).2
  have hslots := slots_handed_out refusing (Machine.stack {}) hr hfew hn
  exact ⟨hr, hfew, hn, hslots.exports threeCallbacks _ (hslots.fresh threeCallbacks _ hfresh)⟩

/-- A host whose one callback answers with an object that has a callback. -/
def registeringHost : Host Unit Unit Unit where
  behave _ _ := .answer (.object 0 (.entry "h" (.callback ()) .empty)) .done
  generate _ _ s := ⟨.entry "warner" (.callback ()) .empty, 0, s⟩

/-- The realm in which a function calls that callback when its property is assigned. -/
def registeringWorld : World Unit Unit :=
  ((registeringHost.run ⟨{}, ()⟩ setterSource (.start ())).1.enter 0).2

/-- An object that gets that function for its prototype, and has a callback. -/
def registeringValue : Value Unit :=
  .object 7 (.entry "__proto__" (.value (.function 8 (.captured 0 158)))
    (.entry "x" (.value .null) (.entry "g" (.callback ()) .empty)))

/-- A setter that an export brings in can call the host, and then more slots are taken than
callbacks are exported; the prototype of plain objects need not be touched. -/
theorem slot_beyond_exports :
    ((registeringWorld.heap 0).object Script.Place.objectPrototype).properties =
        (Heap.standard.object Script.Place.objectPrototype).properties ∧
      (registeringValue.extract (registeringHost.crossing 0 0 (Machine.stack {}))
        registeringWorld).2.isOk ∧
      registeringValue.callbacks.length = 1 ∧
      ((registeringValue.extract (registeringHost.crossing 0 0 (Machine.stack {}))
        registeringWorld).1.realm 0).natives.size =
          (registeringWorld.realm 0).natives.size + 2 := by
  decide +kernel

end ScriptHost
