import ScriptHost.Script.Statement

/-!
# Renaming realms

Of realms a script has nothing but the identifiers in the keys of host functions, and it treats
them as they are: no rule of the language compares two of them or makes one.  `Heap.rename` puts
other identifiers in their place.  Code that starts from the renamed heap asks the host for the
same functions, renamed, and ends the same way in a renamed heap, as long as the host answers
alike; then it is `Action.Uniform`.

The lemmas are one for each operation on heaps and one for each way of building code.
-/

namespace ScriptHost

/-- The key of the same slot in a renamed realm. -/
def NativeKey.rename (ρ : UInt32 → UInt32) (k : NativeKey) : NativeKey := ⟨ρ k.realm, k.slot⟩

namespace Script

variable (ρ : UInt32 → UInt32) {α β : Type}

def Callable.rename : Callable → Callable
  | .native k => .native (k.rename ρ)
  | c => c

def ObjectKind.rename : ObjectKind → ObjectKind
  | .function c => .function (c.rename ρ)
  | k => k

def Object.rename (o : Object) : Object := { o with kind := o.kind.rename ρ }

/-- The heap with renamed realms in the keys of its host functions. -/
def Heap.rename (h : Heap) : Heap := { h with objects := h.objects.map (Object.rename ρ) }

def HostCall.rename (c : HostCall) : HostCall := { c with key := c.key.rename ρ }

/-! ## Objects -/

@[simp] theorem Callable.constructs_rename (c : Callable) :
    (c.rename ρ).constructs = c.constructs := by cases c <;> rfl

@[simp] theorem Callable.weight_rename (c : Callable) : (c.rename ρ).weight = c.weight := by
  cases c <;> rfl

@[simp] theorem ObjectKind.word_rename (k : ObjectKind) : (k.rename ρ).word = k.word := by
  cases k <;> rfl

namespace Object

variable (o : Object)

@[simp] theorem kind_rename : (o.rename ρ).kind = o.kind.rename ρ := rfl

@[simp] theorem prototype_rename : (o.rename ρ).prototype = o.prototype := rfl

@[simp] theorem extensible_rename : (o.rename ρ).extensible = o.extensible := rfl

@[simp] theorem elements_rename : (o.rename ρ).elements = o.elements := rfl

@[simp] theorem own?_rename (k : Key) : (o.rename ρ).own? k = o.own? k := rfl

@[simp] theorem listedNames_rename : (o.rename ρ).listedNames = o.listedNames := rfl

@[simp] theorem arrayLength_rename : (o.rename ρ).arrayLength = o.arrayLength := rfl

@[simp] theorem lengthIsWritable_rename : (o.rename ρ).lengthIsWritable = o.lengthIsWritable := rfl

@[simp] theorem leastLength_rename (n : Nat) : (o.rename ρ).leastLength n = o.leastLength n := rfl

@[simp] theorem isArray_rename : (o.rename ρ).isArray = o.isArray := by
  unfold isArray
  rw [kind_rename]
  cases o.kind <;> rfl

@[simp] theorem isError_rename : (o.rename ρ).isError = o.isError := by
  unfold isError
  rw [kind_rename]
  cases o.kind <;> rfl

@[simp] theorem callable?_rename : (o.rename ρ).callable? = o.callable?.map (·.rename ρ) := by
  unfold callable?
  rw [kind_rename]
  cases o.kind <;> rfl

@[simp] theorem refusal?_rename (k : Key) : (o.rename ρ).refusal? k = o.refusal? k := by
  unfold refusal?
  rw [isArray_rename]
  rfl

theorem rename_put (k : Key) (p : Property) : (o.rename ρ).put k p = (o.put k p).rename ρ := by
  unfold put
  cases k.index? with
  | none => rfl
  | some i =>
      simp only [elements_rename, apply_ite (Object.rename ρ)]
      cases p.plain? <;> rfl

theorem rename_erase (k : Key) : (o.rename ρ).erase k = (o.erase k).rename ρ := by
  unfold erase
  rw [apply_ite (Object.rename ρ), apply_ite (Object.rename ρ)]
  rfl

theorem rename_withLength (n : Nat) : (o.rename ρ).withLength n = (o.withLength n).rename ρ :=
  o.rename_put ρ _ _

theorem rename_define (k : Key) (p : Property) :
    (o.rename ρ).define k p = (o.define k p).rename ρ := by
  unfold define
  rw [isArray_rename, apply_ite (Object.rename ρ)]
  cases k.index? with
  | none => simp only [rename_put]
  | some i =>
      simp only [arrayLength_rename, rename_withLength, ← apply_ite (Object.rename ρ), rename_put]

theorem rename_truncate (n : Nat) : (o.rename ρ).truncate n = (o.truncate n).rename ρ := by
  unfold truncate
  rw [← rename_withLength]
  rfl

theorem rename_fill (n : Nat) (vs : List (Option Val)) :
    (o.rename ρ).fill n vs = (o.fill n vs).rename ρ := by
  induction vs generalizing o n with
  | nil => rfl
  | cons v vs ih =>
      cases v with
      | none => exact ih o (n + 1)
      | some v =>
          simp only [fill, rename_put]
          exact ih _ _

end Object

/-! ## Heaps -/

namespace Heap

variable (h : Heap)

@[simp] theorem size_objects_rename : (h.rename ρ).objects.size = h.objects.size :=
  Array.size_map

@[simp] theorem memory_rename : (h.rename ρ).memory = h.memory := rfl

@[simp] theorem scope_rename (r : ScopeRef) : (h.rename ρ).scope r = h.scope r := rfl

@[simp] theorem resolve?_rename (r : ScopeRef) (n : Name) :
    (h.rename ρ).resolve? r n = h.resolve? r n := by
  have hgo (fuel : Nat) (r : ScopeRef) :
      resolve?.go (h.rename ρ) n fuel r = resolve?.go h n fuel r := by
    induction fuel generalizing r with
    | zero => rfl
    | succ fuel ih =>
        simp only [resolve?.go, scope_rename]
        cases (h.scope r).find? n with
        | some b => rfl
        | none =>
            cases (h.scope r).parent with
            | none => rfl
            | some r => exact ih r
  exact hgo _ _

@[simp] theorem description?_rename (id : Nat) : (h.rename ρ).description? id = h.description? id :=
  rfl

@[simp] theorem object_rename (r : ObjectRef) : (h.rename ρ).object r = (h.object r).rename ρ := by
  unfold object rename
  simp only [Array.getD_eq_getD_getElem?, Array.getElem?_map]
  cases h.objects[r]? <;> rfl

theorem rename_modify (r : ObjectRef) {f : Object → Object}
    (hf : ∀ o, f (o.rename ρ) = (f o).rename ρ) :
    (h.rename ρ).modify r f = (h.modify r f).rename ρ := by
  unfold modify rename
  congr 1
  refine Array.ext (by simp only [Array.size_modify, Array.size_map]) fun i hi hi' => ?_
  simp only [Array.getElem_modify, Array.getElem_map]
  split
  · exact hf _
  · rfl

theorem rename_setObject (r : ObjectRef) (o : Object) :
    (h.rename ρ).setObject r (o.rename ρ) = (h.setObject r o).rename ρ := by
  unfold setObject rename
  rw [Array.map_setIfInBounds]

theorem rename_allocate (o : Object) :
    (h.rename ρ).allocate (o.rename ρ) = ((h.allocate o).1, (h.allocate o).2.rename ρ) := by
  unfold allocate rename
  simp only [Array.size_map, Array.map_push]

theorem rename_allocate_of_eq {o : Object} (ho : o.rename ρ = o) :
    (h.rename ρ).allocate o = ((h.allocate o).1, (h.allocate o).2.rename ρ) := by
  rw [← h.rename_allocate ρ o, ho]

@[simp] theorem callable?_rename (v : Val) :
    (h.rename ρ).callable? v = (h.callable? v).map (·.rename ρ) := by
  cases v <;> first
    | rfl
    | simp only [callable?, object_rename, Object.callable?_rename]

@[simp] theorem isCallable_rename (v : Val) : (h.rename ρ).isCallable v = h.isCallable v := by
  unfold isCallable
  rw [callable?_rename, Option.isSome_map]

@[simp] theorem typeName_rename (v : Val) : (h.rename ρ).typeName v = h.typeName v := by
  cases v <;> first
    | rfl
    | simp only [typeName, object_rename, Object.callable?_rename, Option.isSome_map]

@[simp] theorem callWeight_rename (v : Val) : (h.rename ρ).callWeight v = h.callWeight v := by
  unfold callWeight
  rw [callable?_rename, Option.map_map]
  exact congrArg (fun f => ((h.callable? v).map f).getD 1)
    (funext fun c => Callable.weight_rename ρ c)

@[simp] theorem frames_rename (v : Val) : (h.rename ρ).frames v = h.frames v := by
  cases v with
  | object r =>
      simp only [frames, object_rename, Object.callable?_rename, Object.shownName,
        Object.own?_rename]
      cases (h.object r).callable? with
      | none => rfl
      | some c => cases c <;> rfl
  | _ => rfl

@[simp] theorem stackIn?_rename (s : Stack) (v : Val) :
    (h.rename ρ).stackIn? s v = h.stackIn? s v := by
  simp only [stackIn?, callWeight_rename, frames_rename]

@[simp] theorem findProperty?_rename (r : ObjectRef) (k : Key) :
    (h.rename ρ).findProperty? r k = h.findProperty? r k := by
  have hgo (fuel : Nat) (r : ObjectRef) :
      findProperty?.go (h.rename ρ) k fuel r = findProperty?.go h k fuel r := by
    induction fuel generalizing r with
    | zero => rfl
    | succ fuel ih =>
        simp only [findProperty?.go, object_rename, Object.own?_rename, Object.prototype_rename]
        cases (h.object r).own? k with
        | some p => rfl
        | none =>
            cases (h.object r).prototype with
            | none => rfl
            | some r => exact ih r
  unfold findProperty?
  rw [size_objects_rename, hgo]

@[simp] theorem inherits_rename (r p : ObjectRef) : (h.rename ρ).inherits r p = h.inherits r p := by
  have hgo (fuel : Nat) (r : ObjectRef) :
      inherits.go (h.rename ρ) p fuel r = inherits.go h p fuel r := by
    induction fuel generalizing r with
    | zero => rfl
    | succ fuel ih =>
        simp only [inherits.go, object_rename, Object.prototype_rename]
        cases (h.object r).prototype <;> simp only [ih]
  unfold inherits
  rw [size_objects_rename, hgo]

@[simp] theorem unbound_rename (r : ObjectRef) : (h.rename ρ).unbound r = h.unbound r := by
  have hgo (fuel : Nat) (r : ObjectRef) :
      unbound.go (h.rename ρ) fuel r = unbound.go h fuel r := by
    induction fuel generalizing r with
    | zero => rfl
    | succ fuel ih =>
        simp only [unbound.go, object_rename, Object.kind_rename]
        cases (h.object r).kind with
        | function c => cases c <;> first | rfl | exact ih _
        | _ => rfl
  unfold unbound
  rw [size_objects_rename, hgo]

end Heap

/-! ## Runs -/

/-- Two runs that differ by the names of realms, as long as the host leaves heaps behind that do
so and answers alike. -/
inductive Run.Renames : Run α → Run α → Prop
  | finished (h : Heap) (o : Outcome α) : Renames (.finished h o) (.finished (h.rename ρ) o)
  | host (h : Heap) (call : HostCall) {resume resume' : Heap → Reply → Run α} :
      (∀ next reply, Renames (resume next reply) (resume' (next.rename ρ) reply)) →
        Renames (.host h call resume) (.host (h.rename ρ) (call.rename ρ) resume')

/-- The first code does from every heap what the second one does from the renamed heap. -/
def Action.Renames (x x' : Action α) : Prop := ∀ h, (x h).Renames ρ (x' (h.rename ρ))

/-- The code does not depend on the names of realms. -/
def Action.Uniform (x : Action α) : Prop := x.Renames ρ x

variable {ρ}

/-- Runs that differ in names go on as ones that do. -/
theorem Run.Renames.andThen {x x' : Run α} (hx : x.Renames ρ x')
    {next next' : Heap → Outcome α → Run β}
    (hnext : ∀ h o, (next h o).Renames ρ (next' (h.rename ρ) o)) :
    (x.andThen next).Renames ρ (x'.andThen next') := by
  induction hx with
  | finished h o => exact hnext h o
  | host h call _ ih => exact .host h call ih

/-! ## Code -/

namespace Action.Uniform

theorem pure (a : α) : Uniform ρ (pure a) := fun h => .finished h _

theorem raise (v : Val) : Uniform ρ (raise v : Action α) := fun h => .finished h _

theorem suspend : Uniform ρ (suspend : Action α) := fun h => .finished h _

theorem bind {x : Action α} {f : α → Action β} (hx : Uniform ρ x) (hf : ∀ a, Uniform ρ (f a)) :
    Uniform ρ (x >>= f) := by
  refine fun h => (hx h).andThen fun h o => ?_
  cases o with
  | returned a => exact hf a h
  | thrown v => exact .finished h _
  | suspended => exact .finished h _

theorem read {f : Heap → α} (hf : ∀ h, f (h.rename ρ) = f h) : Uniform ρ (read f) := by
  intro h
  unfold Action.read
  rw [hf]
  exact .finished h _

/-- What is read may depend on the names of realms, as long as what is done with it does not. -/
theorem read_bind {f : Heap → α} {g : α → Action β}
    (hg : ∀ h, Renames ρ (g (f h)) (g (f (h.rename ρ)))) : Uniform ρ (Action.read f >>= g) :=
  fun h => hg h h

/-- Both ways of a test. -/
theorem ite {c : Prop} [Decidable c] {x y : Action α} (hx : Uniform ρ x) (hy : Uniform ρ y) :
    Uniform ρ (if c then x else y) := by
  split
  · exact hx
  · exact hy

/-- What code gives, or something else instead of it. -/
theorem default_bind {c : Prop} [Decidable c] {a : α} {x : Action α} {g : α → Action β}
    (hx : Uniform ρ x) (hg : ∀ a, Uniform ρ (g a)) :
    Uniform ρ (if c then (Pure.pure a : Action α) >>= g else x >>= g) :=
  ite ((pure a).bind hg) (hx.bind hg)

theorem update {f : Heap → α × Heap}
    (hf : ∀ h, f (h.rename ρ) = ((f h).1, (f h).2.rename ρ)) : Uniform ρ (update f) := by
  intro h
  unfold Action.update
  rw [hf]
  exact .finished _ _

theorem change {f : Heap → Heap} (hf : ∀ h, f (h.rename ρ) = (f h).rename ρ) :
    Uniform ρ (change f) := by
  intro h
  unfold Action.change
  rw [hf]
  exact .finished _ _

theorem recover {x : Action α} {handler : Val → Action α} (hx : Uniform ρ x)
    (hhandler : ∀ v, Uniform ρ (handler v)) : Uniform ρ (x.recover handler) := by
  refine fun h => (hx h).andThen fun h o => ?_
  cases o with
  | returned a => exact .finished h _
  | thrown v => exact hhandler v h
  | suspended => exact .finished h _

theorem outcome {x : Action α} (hx : Uniform ρ x) : Uniform ρ x.outcome :=
  fun h => (hx h).andThen fun h _ => .finished h _

theorem ofOutcome (o : Outcome α) : Uniform ρ (ofOutcome o) := by
  cases o with
  | returned a => exact pure a
  | thrown v => exact raise v
  | suspended => exact suspend

theorem each {f : β → Action α} (hf : ∀ b, Uniform ρ (f b)) (items : List β) :
    Uniform ρ (each f items) := by
  have honto (done : List α) : Uniform ρ (eachOnto f done items) := by
    induction items generalizing done with
    | nil => exact pure _
    | cons b rest ih => exact (hf b).bind fun a => ih (a :: done)
  exact honto []

/-! ## Changing objects and scopes -/

theorem modify (r : ObjectRef) {f : Object → Object} (hf : ∀ o, f (o.rename ρ) = (f o).rename ρ) :
    Uniform ρ (Action.change fun h => h.modify r f) :=
  change fun h => h.rename_modify ρ r hf

theorem modifyScope (r : ScopeRef) (f : Scope → Scope) :
    Uniform ρ (Action.change fun h => h.modifyScope r f) :=
  change fun _ => rfl

theorem allocateScope (s : Scope) : Uniform ρ (Action.update fun h => h.allocateScope s) :=
  update fun _ => rfl

/-- A new object, which is no host function, and a reference to it. -/
theorem allocate {o : Object} (ho : o.rename ρ = o) :
    Uniform ρ (Action.update fun h => (Val.object (h.allocate o).1, (h.allocate o).2)) := by
  refine update fun h => ?_
  rw [h.rename_allocate_of_eq ρ ho]

end Action.Uniform

/-! ## Evaluators -/

/-- No part of a piece of code depends on the names of realms. -/
structure Evaluator.Uniform (ρ : UInt32 → UInt32) (ev : Evaluator) : Prop where
  expr (env : Env) (e : Expr) : Action.Uniform ρ (ev.expr env e)
  stmt (env : Env) (s : Stmt) : Action.Uniform ρ (ev.stmt env s)
  call (f receiver : Val) (vs : List Val) : Action.Uniform ρ (ev.call f receiver vs)
  construct (f : Val) (vs : List Val) : Action.Uniform ρ (ev.construct f vs)
  grants (h : Heap) (bytes : Nat) : ev.grants (h.rename ρ) bytes = ev.grants h bytes

end Script

end ScriptHost
