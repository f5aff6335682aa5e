import ScriptHost.Proofs.World.Nested

/-!
# Functions are confined to their realm

Whatever the host hands to a realm, a function in it goes back in if it was captured there
and becomes undefined otherwise, and then this is recorded.  The program decides by
identifiers; `confine` decides by the realm itself, and among fewer than `2 ^ 32` realms
that is the same.  `Value.confined` is the conversion with `confine` in place of the
program's decision, at any depth of nested objects and namespaces.

Assigning the exports of an object can run setters, and those can run whatever the host
does.  A conversion is `Silent` if it does not matter how host calls would be answered; what
a silent conversion records is exactly the functions that were replaced, in order.
-/

namespace ScriptHost

open Script (RefRule Val)

variable {φ γ σ α : Type}

/-! ## The functions in a value -/

/-- The object of a realm that a function is, if it was captured there. -/
def FunctionRef.objectIn? (r : RealmRef) : FunctionRef → Option ObjectRef
  | .captured s o => if s = r then some o else none
  | .foreign _ => none

/-- What is recorded of a function that does not get into a realm. -/
def FunctionRef.warning (w : World φ σ) (r : RealmRef) : FunctionRef → Event
  | .captured s _ => .misplaced (w.idOf s) (w.idOf r)
  | .foreign _ => .alien

mutual
/-- The functions in a value, depth first. -/
def Value.functions : Value φ → List FunctionRef
  | .function _ f => [f]
  | .object _ exports => exports.functions
  | .null => []
  | .undefined => []
  | .number _ _ => []
  | .string _ _ => []

/-- The functions in a namespace, in the order of its exports. -/
def Namespace.functions : Namespace φ → List FunctionRef
  | .empty => []
  | .entry _ item rest => item.functions ++ rest.functions

/-- The functions in an export; a callback is none. -/
def Export.functions : Export φ → List FunctionRef
  | .value v => v.functions
  | .callback _ => []
  | .nested exports => exports.functions
end

/-- The functions of a list that do not get into a realm. -/
def strangers (r : RealmRef) (fs : List FunctionRef) : List FunctionRef :=
  fs.filter fun f => (f.objectIn? r).isNone

theorem strangers_append (r : RealmRef) (fs gs : List FunctionRef) :
    strangers r (fs ++ gs) = strangers r fs ++ strangers r gs := List.filter_append ..

/-! ## Conversions that confine -/

/-- A function becomes the very object that it is in the realm, or undefined. -/
def Crossing.confine (c : Crossing φ σ) (f : FunctionRef) (w : World φ σ) :
    World φ σ × Except Failure Val :=
  match f.objectIn? c.realm with
  | some o => (w, .ok (.object o))
  | none => (w.record (f.warning w c.realm), .ok .undefined)

section

variable [Machine]

mutual
/-- The script value of a host value whose functions are confined. -/
def Value.confined (c : Crossing φ σ) : Value φ → World φ σ → World φ σ × Except Failure Val
  | .null, w => (w, .ok .null)
  | .undefined, w => (w, .ok .undefined)
  | .number _ x, w => (w, .ok (Val.ofNumber x))
  | .string _ s, w =>
    if c.grants w (Crossing.stringBytes s) then (w, .ok (.string (Units.ofString s)))
    else (w, .error .scriptThrew)
  | .function _ f, w => c.confine f w
  | .object _ exports, w =>
    match c.allocatePlain w with
    | (w, .error e) => (w, .error e)
    | (w, .ok r) =>
      match exports.confined c r w with
      | (w, .ok ()) => (w, .ok (.object r))
      | (w, .error e) => (w, .error e)

/-- Assigns the exports of a namespace whose functions are confined. -/
def Namespace.confined (c : Crossing φ σ) : Namespace φ → ObjectRef → World φ σ →
    World φ σ × Except Failure Unit
  | .empty, _, w => (w, .ok ())
  | .entry name item rest, target, w =>
    match item.confined c name w with
    | (w, .error e) => (w, .error e)
    | (w, .ok v) =>
      match c.assign target name v w with
      | (w, .error e) => (w, .error e)
      | (w, .ok ()) => rest.confined c target w

/-- The script value of an export whose functions are confined. -/
def Export.confined (c : Crossing φ σ) (name : String) : Export φ → World φ σ →
    World φ σ × Except Failure Val
  | .value v, w => v.confined c w
  | .callback f, w =>
    match c.makeNative name f w with
    | (w, .ok r) => (w, .ok (.object r))
    | (w, .error e) => (w, .error e)
  | .nested exports, w =>
    match c.allocatePlain w with
    | (w, .error e) => (w, .error e)
    | (w, .ok r) =>
      match exports.confined c r w with
      | (w, .ok ()) => (w, .ok (.object r))
      | (w, .error e) => (w, .error e)
end

/-! ## The program confines functions -/

section Confining

variable {d : Dispatcher φ σ} {r : RealmRef} {stack : Script.Stack} {w : World φ σ}

omit [Machine] in
theorem restore_eq_confine (hn : w.Numbered) (hfew : w.realms.size < 2 ^ 32)
    (hr : r < w.realms.size) (f : FunctionRef) :
    Crossing.restore ⟨d, r, r, stack⟩ f w = Crossing.confine ⟨d, r, r, stack⟩ f w := by
  cases f with
  | foreign backend => rfl
  | captured s o =>
      by_cases hs : s = r
      · subst hs
        simp only [Crossing.restore, Crossing.confine, FunctionRef.objectIn?, if_true]
      · have hid : w.idOf s ≠ w.idOf r := fun hid => hs (hn.eq_of_idOf hfew hr hid)
        simp only [Crossing.restore, Crossing.confine, FunctionRef.objectIn?, if_neg hs,
          if_neg hid]
        rfl

/-- A fresh object gets the exports of a namespace. -/
private theorem extract_object_confined (id : ValueId) {exports : Namespace φ}
    (hinstall : ∀ {target : ObjectRef} {w : World φ σ}, w.Numbered → r < w.realms.size →
      (exports.install ⟨d, r, r, stack⟩ target w).1.realms.size < 2 ^ 32 →
        exports.install ⟨d, r, r, stack⟩ target w = exports.confined ⟨d, r, r, stack⟩ target w)
    (hn : w.Numbered) (hr : r < w.realms.size)
    (hfew : ((Value.object id exports).extract ⟨d, r, r, stack⟩ w).1.realms.size < 2 ^ 32) :
    (Value.object id exports).extract ⟨d, r, r, stack⟩ w =
      (Value.object id exports).confined ⟨d, r, r, stack⟩ w := by
  have hgrows : Grows w (Crossing.allocatePlain ⟨d, r, r, stack⟩ w).1 :=
    (allocate_later _ _ hr).toGrows
  simp only [Value.extract, Value.confined] at hfew ⊢
  generalize Crossing.allocatePlain ⟨d, r, r, stack⟩ w = a at hgrows hfew ⊢
  obtain ⟨w₁, e | o⟩ := a
  · rfl
  have hsame := @hinstall o w₁ (hgrows.numbered hn) (Nat.lt_of_lt_of_le hr hgrows.size_le)
  dsimp only at hfew ⊢
  generalize exports.install ⟨d, r, r, stack⟩ o w₁ = b at hsame hfew ⊢
  obtain ⟨w', e | u⟩ := b
  · simp only [← hsame hfew]
  · simp only [← hsame hfew]

mutual
theorem extract_eq_confined (C : Comparison (fun _ => True) Grows d d) {w : World φ σ}
    (v : Value φ) (hn : w.Numbered)
    (hr : r < w.realms.size) (hfew : (v.extract ⟨d, r, r, stack⟩ w).1.realms.size < 2 ^ 32) :
    v.extract ⟨d, r, r, stack⟩ w = v.confined ⟨d, r, r, stack⟩ w := by
  cases v with
  | null => rfl
  | undefined => rfl
  | number id x => rfl
  | string id s => rfl
  | function id f =>
      have hgrows := (C.restore (c := ⟨d, r, r, stack⟩) f w).bound
      exact restore_eq_confine hn (Nat.lt_of_le_of_lt hgrows.size_le hfew) hr f
  | object id exports =>
      exact extract_object_confined id
        (fun hn hr hfew => install_eq_confined C exports _ hn hr hfew) hn hr hfew

/-- At any depth of nesting, a namespace is exported with its functions confined. -/
theorem install_eq_confined (C : Comparison (fun _ => True) Grows d d) {w : World φ σ}
    (exports : Namespace φ) (target : ObjectRef)
    (hn : w.Numbered) (hr : r < w.realms.size)
    (hfew : (exports.install ⟨d, r, r, stack⟩ target w).1.realms.size < 2 ^ 32) :
    exports.install ⟨d, r, r, stack⟩ target w = exports.confined ⟨d, r, r, stack⟩ target w := by
  cases exports with
  | empty => rfl
  | entry name item rest =>
      have hitem := realise_eq_confined C (w := w) item name hn hr
      have hgrows := (C.realise (c := ⟨d, r, r, stack⟩) item name (w := w) ⟨⟩).bound
      simp only [Namespace.install, Namespace.confined] at hfew ⊢
      generalize item.realise ⟨d, r, r, stack⟩ name w = a at hitem hgrows hfew ⊢
      obtain ⟨w₁, e | v⟩ := a
      · rw [← hitem hfew]
      · have hassign := (C.assign (c := ⟨d, r, r, stack⟩) target name v (w := w₁) ⟨⟩).bound
        dsimp only at hgrows hitem hfew
        generalize hb : Crossing.assign ⟨d, r, r, stack⟩ target name v w₁ = b at hassign hfew ⊢
        obtain ⟨w₂, e | u⟩ := b
        · rw [← hitem (Nat.lt_of_le_of_lt hassign.size_le hfew)]
          dsimp only
          rw [hb]
        · have hrest := (C.install (c := ⟨d, r, r, stack⟩) rest target (w := w₂) ⟨⟩).bound
          have hgrown := hgrows.trans hassign
          rw [← hitem (Nat.lt_of_le_of_lt (hassign.trans hrest).size_le hfew)]
          dsimp only
          rw [hb]
          exact install_eq_confined C rest target (hgrown.numbered hn)
            (Nat.lt_of_lt_of_le hr hgrown.size_le) hfew

theorem realise_eq_confined (C : Comparison (fun _ => True) Grows d d) {w : World φ σ}
    (item : Export φ) (name : String)
    (hn : w.Numbered) (hr : r < w.realms.size)
    (hfew : (item.realise ⟨d, r, r, stack⟩ name w).1.realms.size < 2 ^ 32) :
    item.realise ⟨d, r, r, stack⟩ name w = item.confined ⟨d, r, r, stack⟩ name w := by
  cases item with
  | value v => exact extract_eq_confined C v hn hr hfew
  | callback f => rfl
  | nested exports =>
      exact extract_object_confined 0
        (fun hn hr hfew => install_eq_confined C exports _ hn hr hfew) hn hr hfew
end

end Confining

end

/-! ## What a silent conversion records -/

/-- No host call happens: it does not matter how it would be answered. -/
def Silent (c : Crossing φ σ) (f : Crossing φ σ → World φ σ × α) : Prop :=
  ∀ d, f (c.through d) = f c

/-- Nothing is recorded but that functions did not get into a realm, in order. -/
structure Warns (r : RealmRef) (fs : List FunctionRef) (w w' : World φ σ) : Prop where
  id_eq (s : RealmRef) : w'.idOf s = w.idOf s
  log : w'.log = (fs.map (·.warning w r)).reverse ++ w.log

namespace Warns

variable {r : RealmRef} {fs gs : List FunctionRef} {w w' w'' : World φ σ}

theorem refl (w : World φ σ) : Warns r [] w w := ⟨fun _ => rfl, rfl⟩

theorem trans (h : Warns r fs w w') (h' : Warns r gs w' w'') : Warns r (fs ++ gs) w w'' := by
  have hwarning (f : FunctionRef) : f.warning w' r = f.warning w r := by
    cases f with
    | foreign backend => rfl
    | captured s o => simp only [FunctionRef.warning, h.id_eq]
  refine ⟨fun s => (h'.id_eq s).trans (h.id_eq s), ?_⟩
  rw [h'.log, h.log, List.map_append, List.reverse_append, List.append_assoc]
  simp only [hwarning]

theorem setHeap (w : World φ σ) (s : RealmRef) (h : Script.Heap) : Warns r [] w (w.setHeap s h) :=
  ⟨fun t => w.idOf_setHeap s t h, rfl⟩

/-- Where host calls are refused, scripts record nothing. -/
theorem drive (x : Script.Run α) (context : RealmRef) (w : World φ σ) :
    Warns r [] w (drive refusing context x w).1 := by
  induction x generalizing w with
  | finished h o => exact setHeap w context h
  | host h call resume ih => exact (setHeap w context h).trans (ih _ _ _)

variable [Machine] (stack : Script.Stack)

/-- Making an object records nothing, whether there is memory for it or not. -/
theorem allocate (bytes : Nat) (o : Script.Object) (w : World φ σ) :
    Warns r [] w (Crossing.allocate ⟨refusing, r, r, stack⟩ bytes o w).1 := by
  unfold Crossing.allocate
  split
  · exact setHeap w r _
  · exact refl w

theorem assign (target : ObjectRef) (name : String) (v : Val) (w : World φ σ) :
    Warns r [] w (Crossing.assign ⟨refusing, r, r, stack⟩ target name v w).1 := by
  have hrun := drive (r := r) (Script.setProperty (Machine.evaluator stack) (.object target)
    (Script.key name) v (w.heap r)) r w
  simp only [Crossing.assign, Crossing.run, Crossing.evaluator]
  generalize ScriptHost.drive refusing r _ w = a at hrun ⊢
  obtain ⟨w', o⟩ := a
  cases o <;> exact hrun

variable {stack}

omit [Machine] in
theorem confine (f : FunctionRef) (w : World φ σ) :
    Warns r (strangers r [f]) w (Crossing.confine ⟨refusing, r, r, stack⟩ f w).1 := by
  unfold Crossing.confine
  cases hf : f.objectIn? r with
  | some o =>
      have hnone : strangers r [f] = [] := by simp [strangers, hf]
      rw [hnone]
      exact .refl w
  | none =>
      have hone : strangers r [f] = [f] := by simp [strangers, hf]
      rw [hone]
      exact ⟨fun _ => rfl, rfl⟩

/-- A fresh object gets the exports of a namespace. -/
private theorem confined_object (id : ValueId) {exports : Namespace φ} {x : Val}
    (hconfined : ∀ {target : ObjectRef} {w : World φ σ},
      (exports.confined ⟨refusing, r, r, stack⟩ target w).2 = .ok () →
        Warns r (strangers r exports.functions) w
          (exports.confined ⟨refusing, r, r, stack⟩ target w).1)
    (h : ((Value.object id exports).confined ⟨refusing, r, r, stack⟩ w).2 = .ok x) :
    Warns r (strangers r exports.functions) w
      ((Value.object id exports).confined ⟨refusing, r, r, stack⟩ w).1 := by
  have hplain : Warns r [] w (Crossing.allocatePlain ⟨refusing, r, r, stack⟩ w).1 :=
    allocate stack _ _ w
  simp only [Value.confined] at h ⊢
  generalize Crossing.allocatePlain ⟨refusing, r, r, stack⟩ w = a at hplain h ⊢
  obtain ⟨w₁, e | o⟩ := a
  · cases h
  have hrest := @hconfined o w₁
  dsimp only at h ⊢
  generalize exports.confined ⟨refusing, r, r, stack⟩ o w₁ = b at hrest h ⊢
  obtain ⟨w', e | u⟩ := b
  · cases h
  · exact hplain.trans (hrest rfl)

mutual
theorem value (v : Value φ) {w : World φ σ} {x : Val}
    (h : (v.confined ⟨refusing, r, r, stack⟩ w).2 = .ok x) :
    Warns r (strangers r v.functions) w (v.confined ⟨refusing, r, r, stack⟩ w).1 := by
  cases v with
  | null => exact .refl w
  | undefined => exact .refl w
  | number id x => exact .refl w
  | string id s =>
      simp only [Value.confined]
      split <;> exact .refl w
  | function id f => exact confine f w
  | object id exports => exact confined_object id (fun h => exported exports h) h

theorem exported (exports : Namespace φ) {target : ObjectRef} {w : World φ σ}
    (h : (exports.confined ⟨refusing, r, r, stack⟩ target w).2 = .ok ()) :
    Warns r (strangers r exports.functions) w
      (exports.confined ⟨refusing, r, r, stack⟩ target w).1 := by
  cases exports with
  | empty => exact .refl w
  | entry name item rest =>
      have hitem (x : Val) := item_warns (w := w) (x := x) item name
      simp only [Namespace.confined] at h ⊢
      rw [Namespace.functions, strangers_append]
      generalize item.confined ⟨refusing, r, r, stack⟩ name w = a at hitem h ⊢
      obtain ⟨w₁, e | v⟩ := a
      · cases h
      · have hassign := assign (r := r) stack target name v w₁
        dsimp only at h ⊢
        generalize Crossing.assign ⟨refusing, r, r, stack⟩ target name v w₁ = b at hassign h ⊢
        obtain ⟨w₂, e | u⟩ := b
        · cases h
        · exact (hitem v rfl).trans (hassign.trans (exported rest h))

theorem item_warns (item : Export φ) (name : String) {w : World φ σ} {x : Val}
    (h : (item.confined ⟨refusing, r, r, stack⟩ name w).2 = .ok x) :
    Warns r (strangers r item.functions) w (item.confined ⟨refusing, r, r, stack⟩ name w).1 := by
  cases item with
  | value v => exact value v h
  | callback f =>
      have hregister : Warns r [] w (w.register r f).2 := ⟨fun s => w.idOf_register r s f, rfl⟩
      have hmade : Warns r [] w (Crossing.makeNative ⟨refusing, r, r, stack⟩ name f w).1 :=
        hregister.trans (allocate stack _ _ _)
      simp only [Export.confined] at h ⊢
      generalize Crossing.makeNative ⟨refusing, r, r, stack⟩ name f w = a at hmade h ⊢
      obtain ⟨w₁, e | o⟩ := a
      · cases h
      · exact hmade
  | nested exports => exact confined_object 0 (fun h => exported exports h) h
end

end Warns

/-- How many warnings have been recorded. -/
def World.warnings (w : World φ σ) : Nat := w.log.countP fun e => e.level == .warn

theorem FunctionRef.level_warning (w : World φ σ) (r : RealmRef) (f : FunctionRef) :
    (f.warning w r).level = .warn := by
  cases f with
  | captured s o => rfl
  | foreign backend => rfl

/-- Every function that did not get into the realm makes for one warning. -/
theorem Warns.warnings_eq {r : RealmRef} {fs : List FunctionRef} {w w' : World φ σ}
    (h : Warns r fs w w') : w'.warnings = w.warnings + fs.length := by
  have hall : ∀ e ∈ (fs.map (·.warning w r)).reverse, (e.level == .warn) = true := by
    intro e he
    obtain ⟨f, -, rfl⟩ := List.mem_map.mp (List.mem_reverse.mp he)
    rw [f.level_warning]
    rfl
  unfold World.warnings
  rw [h.log, List.countP_append, List.countP_eq_length.mpr hall, List.length_reverse,
    List.length_map, Nat.add_comm]

/-! ## Everything about a conversion -/

variable [Machine]

/-- The functions in what crosses into a realm are confined, and when no host call happens on
the way then there is one warning for each function that is replaced, in order. -/
structure Confines (c : Crossing φ σ) (w : World φ σ) : Prop where
  value (v : Value φ) : (v.extract c w).1.realms.size < 2 ^ 32 →
    v.extract c w = v.confined c w
  exports (n : Namespace φ) (target : ObjectRef) :
    (n.install c target w).1.realms.size < 2 ^ 32 →
      n.install c target w = n.confined c target w
  valueWarns (v : Value φ) (x : Val) : (v.extract c w).1.realms.size < 2 ^ 32 →
    Silent c (fun c => v.extract c w) → (v.extract c w).2 = .ok x →
      Warns c.realm (strangers c.realm v.functions) w (v.extract c w).1 ∧
        (v.extract c w).1.warnings = w.warnings + (strangers c.realm v.functions).length
  exportsWarn (n : Namespace φ) (target : ObjectRef) :
    (n.install c target w).1.realms.size < 2 ^ 32 →
      Silent c (fun c => n.install c target w) → (n.install c target w).2 = .ok () →
        Warns c.realm (strangers c.realm n.functions) w (n.install c target w).1 ∧
          (n.install c target w).1.warnings =
            w.warnings + (strangers c.realm n.functions).length
  /-- Nothing that goes into a realm that no script has touched runs a host call. -/
  fresh (n : Namespace φ) (target : ObjectRef) : FreshTarget c.context target w →
    Silent c fun c => n.install c target w

theorem confines [LawfulMachine] {d : Dispatcher φ σ} {r : RealmRef} {w : World φ σ}
    (hd : ∀ context call (w : World φ σ), Grows w (d context call w).1) (hn : w.Numbered)
    (hr : r < w.realms.size) (stack : Script.Stack) : Confines ⟨d, r, r, stack⟩ w := by
  have C : Comparison (fun _ : World φ σ => True) Grows d d := .self Grows.frame hd
  have C' : Comparison (fun _ : World φ σ => True) Grows refusing refusing :=
    .self Grows.frame fun _ _ w => .refl w
  refine ⟨fun v hfew => extract_eq_confined C v hn hr hfew,
    fun n target hfew => install_eq_confined C n target hn hr hfew,
    fun v x hfew hsilent hx => ?_, fun n target hfew hsilent hx => ?_,
    fun n target ht d' => (install_fresh d' n target ht).same⟩
  · have hrefused : v.extract ⟨refusing, r, r, stack⟩ w = v.extract ⟨d, r, r, stack⟩ w :=
      hsilent refusing
    rw [← hrefused] at hfew hx ⊢
    rw [extract_eq_confined C' v hn hr hfew] at hx ⊢
    have hwarns := Warns.value v hx
    exact ⟨hwarns, hwarns.warnings_eq⟩
  · have hrefused : n.install ⟨refusing, r, r, stack⟩ target w =
        n.install ⟨d, r, r, stack⟩ target w := hsilent refusing
    rw [← hrefused] at hfew hx ⊢
    rw [install_eq_confined C' n target hn hr hfew] at hx ⊢
    have hwarns := Warns.exported n hx
    exact ⟨hwarns, hwarns.warnings_eq⟩

end ScriptHost
