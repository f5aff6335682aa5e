import ScriptHost.Proofs.Script.Extended
import ScriptHost.Script.Interpreter

/-!
# Replacing what a pattern matches

A string leaves it to a pattern to replace what the pattern matches.  Each step on the way gets
a property that scripts can change: the string's method `replace`, the pattern's own method for
replacing, its flags and its function `exec`.  If all these are what an empty realm has for
them, then every match is replaced, unless the engine runs out of stack or of memory on the way.
-/

namespace ScriptHost.Script

variable {α : Type} {h₀ h h' : Heap} {ev : Evaluator}

/-! ## What has to be there -/

/-- Strings and patterns have the methods for replacing that they have in an empty realm. -/
structure Heap.RepairIntact (h : Heap) : Prop where
  replace : h.method? Place.stringPrototype (key "replace") = some .stringReplace
  replaces : h.method? Place.patternPrototype (.symbol Place.replaceSymbol) = some .patternReplace
  exec : h.method? Place.patternPrototype (key "exec") = some .patternExec
  flags : h.getter? Place.patternPrototype (key "flags") = some .patternFlags
  flag : ∀ f ∈ patternFlagNames,
    h.getter? Place.patternPrototype (key f.2) = some (.patternFlag f.1)

instance (h : Heap) : Decidable h.RepairIntact :=
  decidable_of_iff (h.method? Place.stringPrototype (key "replace") = some .stringReplace ∧
      h.method? Place.patternPrototype (.symbol Place.replaceSymbol) = some .patternReplace ∧
      h.method? Place.patternPrototype (key "exec") = some .patternExec ∧
      h.getter? Place.patternPrototype (key "flags") = some .patternFlags ∧
      ∀ f ∈ patternFlagNames, h.getter? Place.patternPrototype (key f.2) = some (.patternFlag f.1))
    ⟨fun ⟨h₁, h₂, h₃, h₄, h₅⟩ => ⟨h₁, h₂, h₃, h₄, h₅⟩,
      fun ⟨h₁, h₂, h₃, h₄, h₅⟩ => ⟨h₁, h₂, h₃, h₄, h₅⟩⟩

theorem Heap.repairIntact_standard : Heap.standard.RepairIntact := by
  decide +kernel

/-- A function is called by its rule, unless there is too little stack for the call. -/
def Evaluator.Nests (ev : Evaluator) : Prop :=
  ∀ {h : Heap} {f : Val} {c : Callable}, h.callable? f = some c →
    ∀ (receiver : Val) (vs : List Val), ev.call f receiver vs h = (raiseTooDeep : Action Val) h ∨
      ∃ n stack, ev.call f receiver vs h = callRule (nestedEvaluator n stack) f receiver vs h

theorem bodyEvaluator_call (calls : Evaluator) (n : Nat) :
    (bodyEvaluator calls n).call = calls.call := by
  cases n with
  | zero => rfl
  | succ n => rfl

/-- How deep the code is that calls makes no difference. -/
theorem Evaluator.Nests.body {calls : Evaluator} (hcalls : calls.Nests) (n : Nat) :
    (bodyEvaluator calls n).Nests := by
  intro h f c hf receiver vs
  rw [bodyEvaluator_call]
  exact hcalls hf receiver vs

/-- The code of a body is evaluated with calls that nest. -/
theorem nestedEvaluator_eq_bodyEvaluator (n : Nat) (stack : Stack) :
    ∃ calls : Evaluator, calls.Nests ∧ nestedEvaluator n stack = bodyEvaluator calls bodyDepth := by
  cases n with
  | zero => exact ⟨_, fun _ _ _ => .inl rfl, rfl⟩
  | succ n =>
      refine ⟨_, fun {h f c} _ receiver vs => ?_, rfl⟩
      change withinRoom stack f (fun stack => callRule (nestedEvaluator n stack) f receiver vs) h =
          _ ∨ ∃ m inside, withinRoom stack f
            (fun stack => callRule (nestedEvaluator n stack) f receiver vs) h = _
      cases hinside : h.stackIn? stack f with
      | none =>
          refine .inl ((Action.bind_finished (rfl : Action.read _ h = _)).trans ?_)
          rw [hinside]
      | some inside =>
          refine .inr ⟨n, inside, (Action.bind_finished (rfl : Action.read _ h = _)).trans ?_⟩
          rw [hinside]

theorem nestedEvaluator_nests (n : Nat) (stack : Stack) : (nestedEvaluator n stack).Nests := by
  obtain ⟨calls, hcalls, heq⟩ := nestedEvaluator_eq_bodyEvaluator n stack
  rw [heq]
  exact hcalls.body bodyDepth

section Calls

variable {P : Heap → Val → Prop} {f : Val}

/-- A call of a function that every realm has does what the function does, in a frame. -/
theorem call_builtin_yields {b : Builtin} (hev : ev.Nests) (hx : h₀.Extended h)
    (hf : h.callable? f = some (.builtin b)) {receiver : Val} {vs : List Val}
    (hb : ∀ n stack, Action.Yields h₀ h P (callBuiltin (nestedEvaluator n stack) b receiver vs)) :
    Action.Yields h₀ h P (ev.call f receiver vs) := by
  rcases hev hf receiver vs with hcall | ⟨n, stack, hcall⟩
  · exact (raiseTooDeep_yields hx).congr hcall
  · have hrule : callRule (nestedEvaluator n stack) f receiver vs h =
        framed (nestedEvaluator n stack).stack
          (callBuiltin (nestedEvaluator n stack) b receiver vs) h := by
      refine (Action.bind_finished (rfl : Action.read _ h = _)).trans ?_
      rw [hf]
    exact (framed_yields _ (hb n stack)).congr (hcall.trans hrule)

/-- A call of a function of a program that is written with `function` runs its body, in a
frame. -/
theorem call_closure_yields {lambda : Lambda} {scope : ScopeRef} {outer : Val} (hev : ev.Nests)
    (hx : h₀.Extended h) (hf : h.callable? f = some (.closure lambda scope outer))
    (hstyle : lambda.style = .ordinary) (hruns : lambda.suspension = .none) {receiver : Val}
    {vs : List Val}
    (hb : ∀ n stack,
      Action.Yields h₀ h P (runBody (nestedEvaluator n stack) lambda scope receiver vs)) :
    Action.Yields h₀ h P (ev.call f receiver vs) := by
  rcases hev hf receiver vs with hcall | ⟨n, stack, hcall⟩
  · exact (raiseTooDeep_yields hx).congr hcall
  · have hrule : callRule (nestedEvaluator n stack) f receiver vs h =
        framed (nestedEvaluator n stack).stack
          (runBody (nestedEvaluator n stack) lambda scope receiver vs) h := by
      refine (Action.bind_finished (rfl : Action.read _ h = _)).trans ?_
      rw [hf]
      simp only [hstyle, callClosure, hruns]
    exact (framed_yields _ (hb n stack)).congr (hcall.trans hrule)

end Calls

/-! ## Properties -/

/-- What is found along the prototypes of a value is what it has, unless the value is a string
that has it itself. -/
theorem getProperty_found (ev : Evaluator) {v : Val} {r owner : ObjectRef} {k : Key}
    {p : Property} (hr : prototypeOf? v = some r)
    (hown : ∀ s, v = .string s → stringProperty? s k = none)
    (hfound : h.findProperty? r k = some (owner, p)) :
    getProperty ev v k h = p.slot.value ev v h := by
  have hafter {a : Option (ObjectRef × Property) → Action Val}
      (ha : a (some (owner, p)) h = p.slot.value ev v h) :
      (Action.read (fun h => h.findProperty? r k) >>= a) h = p.slot.value ev v h := by
    refine (Action.bind_finished (rfl : Action.read _ h = _)).trans ?_
    rw [hfound]
    exact ha
  unfold getProperty
  rw [hr]
  cases v with
  | string s =>
      dsimp only
      rw [hown s rfl]
      exact hafter rfl
  | _ => exact hafter rfl

/-- A pattern, as an object that remembers where its next search starts. -/
def patternObject (l : Pattern.Literal) (last : Val) : Object :=
  .make (.pattern l) (some Place.patternPrototype)
    [(key "lastIndex", ⟨.data last true, false, false⟩)]

theorem own?_patternObject (l : Pattern.Literal) (last : Val) (k : Key) :
    (patternObject l last).own? k =
      if k = key "lastIndex" then some ⟨.data last true, false, false⟩ else none := by
  have helement : (patternObject l last).element? k = none := by
    unfold Object.element?
    cases k.index? with
    | none => rfl
    | some i => rfl
  unfold Object.own?
  rw [helement]
  change findKey? k [(key "lastIndex", _)] = _
  simp only [findKey?, eq_comm]

/-- Among the objects that a heap has got since another one, there is a pattern. -/
structure Heap.HasPattern (h₀ h : Heap) (q : ObjectRef) (l : Pattern.Literal) : Prop where
  extended : h₀.Extended h
  new : h₀.size ≤ q
  made : q < h.size
  object : ∃ last, h.object q = patternObject l last

namespace Heap.HasPattern

variable {q : ObjectRef} {l : Pattern.Literal}

theorem pattern? (hq : h₀.HasPattern h q l) : h.pattern? (.object q) = some l := by
  obtain ⟨last, hobject⟩ := hq.object
  rw [Heap.pattern?, hobject]
  rfl

/-- A pattern has what its prototype has. -/
theorem findProperty? (hq : h₀.HasPattern h q l) {k : Key} (hk : k ≠ key "lastIndex")
    {e : ObjectRef × Property} (hfound : h₀.findProperty? Place.patternPrototype k = some e) :
    h.findProperty? q k = some e := by
  obtain ⟨last, hobject⟩ := hq.object
  refine hq.extended.findProperty?_inherited hq.new hq.made ?_ ?_ hfound
  · rw [hobject]
    rfl
  · rw [hobject, own?_patternObject, if_neg hk]

theorem method (hq : h₀.HasPattern h q l) {k : Key} (hk : k ≠ key "lastIndex") {b : Builtin}
    (hm : h₀.method? Place.patternPrototype k = some b) (ev : Evaluator) :
    ∃ owner f writable enumerable configurable,
      h.findProperty? q k = some (owner, ⟨.data f writable, enumerable, configurable⟩) ∧
      getProperty ev (.object q) k h = .finished h (.returned f) ∧
        h.callable? f = some (.builtin b) := by
  obtain ⟨owner, f, writable, enumerable, configurable, hfound, hb⟩ :=
    Heap.findProperty?_of_method? hm
  have hfound' := hq.findProperty? hk hfound
  have hget := getProperty_found (v := .object q) ev rfl (fun _ hs => by cases hs) hfound'
  exact ⟨owner, f, writable, enumerable, configurable, hfound', hget,
    hq.extended.later.callable? hb⟩

/-- What answers for a key of the pattern is called. -/
theorem getter (hq : h₀.HasPattern h q l) {k : Key} (hk : k ≠ key "lastIndex") {b : Builtin}
    (hg : h₀.getter? Place.patternPrototype k = some b) (ev : Evaluator) :
    ∃ f, getProperty ev (.object q) k h = ev.call f (.object q) [] h ∧
      h.callable? f = some (.builtin b) := by
  obtain ⟨owner, f, setter, enumerable, configurable, hfound, hb⟩ :=
    Heap.findProperty?_of_getter? hg
  have hfound' := hq.findProperty? hk hfound
  have hget := getProperty_found (v := .object q) ev rfl (fun _ hs => by cases hs) hfound'
  refine ⟨f, hget.trans ?_, hq.extended.later.callable? hb⟩
  cases f with
  | undefined => cases hb
  | _ => rfl

/-- The next search starts somewhere else. -/
theorem setLastIndex (hq : h₀.HasPattern h q l) (ev : Evaluator) (n : Nat) :
    ∃ h', Script.setLastIndex ev (.object q) true n h = .finished h' (.returned ()) ∧
      h₀.HasPattern h' q l := by
  obtain ⟨last, hobject⟩ := hq.object
  have hown : (h.object q).own? (key "lastIndex") = some ⟨.data last true, false, false⟩ := by
    rw [hobject, own?_patternObject, if_pos rfl]
  have hfound := Heap.findProperty?_own hown
  have hlength : (key "lastIndex" == key "length") = false := by decide
  have hself : (Val.object q != Val.object q) = false := by simp
  refine ⟨h.modify q fun o => o.put (key "lastIndex") ⟨.data (.ofNat n) true, false, false⟩, ?_,
    hq.extended.modify hq.new _, hq.new, ?_, .ofNat n, ?_⟩
  · simp only [Script.setLastIndex, if_true, setProperty, setPropertyOr, prototypeOf?, bind,
      Action.bind, Action.read, Run.andThen_finished, hfound, hlength, Bool.and_false,
      Bool.false_and, Bool.false_eq_true, if_false, Bool.not_true, hself, storeProperty,
      Action.change]
  · rw [h.size_modify]
    exact hq.made
  · rw [h.object_modify, if_pos ⟨rfl, hq.made⟩, hobject]
    rfl

end Heap.HasPattern

/-! ## Replacing what a pattern matches -/

/-- Units of a list from a place on, one more of them. -/
private theorem take_drop_succ {front back : Units} {u : UInt16} {done : Nat}
    (hdone : done ≤ front.length) :
    ((front.reverse ++ u :: back).drop done).take (front.length + 1 - done) =
      ((front.reverse ++ u :: back).drop done).take (front.length - done) ++ [u] := by
  have hlt : front.length < (front.reverse ++ u :: back).length := by simp
  have hu : (front.reverse ++ u :: back)[front.length]? = some u := by
    rw [List.getElem?_append_right (by simp)]
    simp
  rw [show front.length + 1 - done = (front.length - done) + 1 by omega, List.take_add_one,
    List.getElem?_drop, show done + (front.length - done) = front.length by omega, hu]
  rfl

/-- Putting one text in place of every match that a search finds from a place on.  The units
up to `done` have been dealt with, and those from there to the place are kept. -/
theorem replaceFound_piecesFrom (p : Pattern) (r : Units) {s front back : Units}
    (hs : s = front.reverse ++ back) (pending done : Nat) (hpending : pending ≤ back.length)
    (hdone : done ≤ front.length + pending) :
    replaceFound s done
        (((p.piecesFrom front pending back).filterMap Piece.found?).map fun f => (f, r)) =
      (s.drop done).take (front.length + pending - done) ++
        Piece.joined (fun _ _ _ => r) (p.piecesFrom front pending back) := by
  induction back generalizing front pending done with
  | nil =>
      obtain rfl : pending = 0 := Nat.eq_zero_of_le_zero hpending
      have hlength : s.length = front.length := by rw [hs]; simp
      have hall : (s.drop done).take (front.length - done) = s.drop done := by
        refine List.take_of_length_le ?_
        rw [List.length_drop, hlength]
      simp only [Pattern.piecesFrom]
      cases p.length? front [] with
      | none => simp [replaceFound, Piece.joined, hall]
      | some n =>
          have hend : s.drop front.length = [] := List.drop_eq_nil_of_le (Nat.le_of_eq hlength)
          have hle : done ≤ front.length := hdone
          simp [replaceFound, Piece.joined, Piece.found?, hle, hend]
  | cons u back ih =>
      have hs' : s = (u :: front).reverse ++ back := by rw [hs]; simp
      cases pending with
      | succ n =>
          have hnext := ih hs' n done (Nat.le_of_succ_le_succ hpending)
            (by rw [List.length_cons]; omega)
          rw [List.length_cons, show front.length + 1 + n = front.length + (n + 1) by omega]
            at hnext
          exact hnext
      | zero =>
          have hle : done ≤ front.length := hdone
          have hone : ∀ {done}, done ≤ front.length →
              (s.drop done).take (front.length + 1 - done) =
                (s.drop done).take (front.length - done) ++ [u] := by
            rw [hs]
            exact take_drop_succ
          have hrest {done : Nat} (hle : done ≤ front.length + 1) :=
            ih hs' 0 done (Nat.zero_le _) hle
          simp only [List.length_cons, Nat.add_zero] at hrest
          simp only [Pattern.piecesFrom]
          cases hlength : p.length? front (u :: back) with
          | none =>
              -- The next unit is kept.
              change replaceFound s done ((((p.piecesFrom (u :: front) 0 back)).filterMap
                Piece.found?).map fun f => (f, r)) = _ ++ ([u] ++ Piece.joined _ _)
              rw [hrest (Nat.le_succ_of_le hle), hone hle, List.append_assoc]
              rfl
          | some n =>
              cases n with
              | zero =>
                  -- Nothing is taken, and the next unit is kept.
                  have hnext := hrest (Nat.le_succ front.length)
                  rw [hone (Nat.le_refl _), Nat.sub_self, List.take_zero, List.nil_append] at hnext
                  simp [replaceFound, Piece.joined, Piece.found?, hle] at hnext ⊢
                  exact hnext
              | succ n =>
                  have htaken : n + 1 ≤ (u :: back).length := by
                    simp only [Pattern.length?, Option.map_eq_some_iff] at hlength
                    obtain ⟨e, -, he⟩ := hlength
                    omega
                  have hnext := ih hs' n (front.length + (n + 1))
                    (Nat.le_of_succ_le_succ htaken) (by rw [List.length_cons]; omega)
                  have hzero : front.length + 1 + n - (front.length + (n + 1)) = 0 := by omega
                  rw [List.length_cons, hzero, List.take_zero, List.nil_append] at hnext
                  have hmatched : ((u :: back).take (n + 1)).length = n + 1 :=
                    List.length_take_of_le htaken
                  simp only [List.filterMap_cons, Piece.found?, List.map_cons, replaceFound,
                    List.length_reverse, hle, if_true, hmatched, hnext, Nat.add_zero]
                  simp [Piece.joined]

/-- Putting a text in place of every match is replacing all of them. -/
theorem replaceFound_matchesFrom (p : Pattern) (r s : Units) :
    replaceFound s 0 ((p.matchesFrom 0 s).map fun f => (f, r)) = p.replaceAll r s := by
  have hs : s = ([] : Units).reverse ++ s := rfl
  exact replaceFound_piecesFrom p r hs 0 0 (Nat.zero_le _) (Nat.zero_le _)

section Replacing

variable {q : ObjectRef} {l : Pattern.Literal} (hi : h₀.RepairIntact) (hev : ev.Nests)
  (hq : h₀.HasPattern h q l)

include hi hev hq

/-- The property for a flag says whether the pattern has the flag. -/
theorem getFlag_yields {f : Char × String} (hf : f ∈ patternFlagNames) :
    Action.Yields h₀ h (fun h' v => h₀.HasPattern h' q l ∧ v = .bool (f.1 = 'g' && l.all))
      (getProperty ev (.object q) (key f.2)) := by
  have hnames : ∀ f ∈ patternFlagNames, key f.2 ≠ key "lastIndex" := by decide
  obtain ⟨g, hget, hcallable⟩ := hq.getter (hnames f hf) (hi.flag f hf) ev
  refine .congr hget (call_builtin_yields hev hq.extended hcallable fun n stack => ?_)
  exact .read hq.pattern? (.pure hq.extended ⟨hq, rfl⟩)

/-- A pattern for all matches has no other flag. -/
theorem patternFlags_yields (hall : l.all = true) :
    Action.Yields h₀ h (fun h' v => h₀.HasPattern h' q l ∧ v = .string [103])
      (patternFlags ev (.object q)) := by
  have hflags := Action.Yields.each (fun h => h₀.HasPattern h q l)
    (fun flag => do
      let v ← getProperty ev (.object q) (key flag.2)
      pure (if v.truthy then [flag.1] else []))
    (fun f => if (f.1 = 'g' && l.all) = true then [f.1] else []) patternFlagNames
    (fun h' f hf _ hq' => by
      refine (getFlag_yields hi hev hq' hf).bind fun h'' v hx hv => ?_
      rw [hv.2]
      exact .pure hx ⟨hv.1, rfl⟩) hq.extended hq
  refine hflags.bind fun h' flags hx hflags => .pure hx ⟨hflags.1, ?_⟩
  rw [hflags.2, hall]
  decide

theorem getFlags_yields (hall : l.all = true) :
    Action.Yields h₀ h (fun h' v => h₀.HasPattern h' q l ∧ v = .string [103])
      (getProperty ev (.object q) (key "flags")) := by
  obtain ⟨g, hget, hcallable⟩ := hq.getter (key_ne (by decide)) hi.flags ev
  refine .congr hget (call_builtin_yields hev hq.extended hcallable fun n stack => ?_)
  exact patternFlags_yields hi (nestedEvaluator_nests n stack) hq hall

omit hev in
/-- What a pattern matches is found at once. -/
theorem matchesOf_eq (hall : l.all = true) (ev : Evaluator) (s : Units) :
    matchesOf ev (.object q) true s h = .finished h (.returned (l.pattern.matchesFrom 0 s)) := by
  obtain ⟨owner, f, writable, enumerable, configurable, hfound, -, hcallable⟩ :=
    hq.method (key_ne (by decide)) hi.exec ev
  have hintact : h.execIntact (.object q) = true := by
    simp only [Heap.execIntact, hfound, hcallable]
  refine (Action.bind_finished (rfl : Action.read _ h = _)).trans ?_
  simp only [hintact, if_true, hq.pattern?, Option.filter, hall, BEq.rfl]
  rfl

/-- A pattern for all matches replaces all of them. -/
theorem patternReplace_yields (hall : l.all = true) (s : Units) (u : UInt16) :
    Action.Yields h₀ h (fun _ v => v = .string (l.pattern.replaceAll [u] s))
      (patternReplace ev (.object q) (.string s) (.string [u])) := by
  -- The text and its replacement are there at once.
  refine .after (rfl : toUnits ev (.string s) h = _) ?_
  refine .after (rfl : templateOf ev (.string [u]) h = _) ?_
  refine (getFlags_yields hi hev hq hall).bind fun h₁ flags hx₁ hflags => ?_
  obtain ⟨hq₁, rfl⟩ := hflags
  refine .after (rfl : toUnits ev (.string [103]) h₁ = _) ?_
  rw [show ([103] : Units).contains 103 = true by decide]
  obtain ⟨h₂, hset, hq₂⟩ := hq₁.setLastIndex ev 0
  refine .after hset (.after (matchesOf_eq hi hq₂ hall ev s) ?_)
  have hreplaced := Action.Yields.each (fun h => h₀.HasPattern h q l)
    (replacementFor ev (.string [u]) (some [u]) s) (fun f => (f, [u]))
    (l.pattern.matchesFrom 0 s) (fun h' f _ hx hq' => .pure hx ⟨hq', rfl⟩)
    hq₂.extended hq₂
  refine hreplaced.bind fun h₃ replaced hx₃ hreplaced => ?_
  rw [hreplaced.2, replaceFound_matchesFrom]
  exact (reserve_yields ev _ hx₃).bind fun h₄ _ hx₄ _ => .pure hx₄ rfl

/-- A string leaves it to the pattern to replace what it matches. -/
theorem stringReplace_yields (hall : l.all = true) (s : Units) (u : UInt16) :
    Action.Yields h₀ h (fun _ v => v = .string (l.pattern.replaceAll [u] s))
      (stringReplace ev (.string s) (.object q) (.string [u])) := by
  obtain ⟨owner, f, writable, enumerable, configurable, -, hget, hcallable⟩ :=
    hq.method (k := .symbol Place.replaceSymbol) (by intro h; cases h) hi.replaces ev
  have hobject : ∃ r, f = .object r := by
    cases f with
    | object r => exact ⟨r, rfl⟩
    | _ => cases hcallable
  obtain ⟨r, rfl⟩ := hobject
  have hmethod : methodOf ev (.object q) Place.replaceSymbol h =
      .finished h (.returned (.object r)) := (Action.bind_finished hget).trans rfl
  refine .after hmethod (call_builtin_yields hev hq.extended hcallable fun n stack => ?_)
  exact patternReplace_yields hi (nestedEvaluator_nests n stack) hq hall s u

end Replacing

end ScriptHost.Script
