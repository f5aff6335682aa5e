import ScriptHost.Proofs.Callback.Recording
import ScriptHost.Proofs.World.Mirror.Calls
import ScriptHost.Proofs.World.Straight

/-!
# Calls of a realm that is executing already

A function of a realm may be called while the realm is idle, and then its engine is entered, or
from further up while the realm is executing, and then its live context is used.  The two are
compared in worlds that differ in their stacks and records only: which realms are active and
live may be anything.  All realms, and what the hosts remember, are the same.

A callback could tell the worlds apart by how many realms are active.  A blind one does not:
however deep it is called, it goes on alike, and it takes only from the active stack what it has
put there.  Engines could tell the worlds apart by the stack that is left: by how much it is, and
by the calls on it, which a stack trace lists.  So the stack is taken to depend on the engine
alone.  It does not in the program, which gives code the stack that is left if its realm is
live; so for the program itself the other realms have to be live in both worlds or in neither,
and what is left has to be the stack that the engine starts with.

What callbacks are called with is put down by the host itself: by a recording one, which is
as blind as the host.
-/

namespace ScriptHost

variable {φ γ σ τ : Type}

/-! ## The same but for the stacks -/

/-- Realms, identities and what the hosts remember are the same.  It may be asked that the same
realms are live. -/
def Pairing.level (live : Prop) : Pairing φ γ σ σ where
  base := 0
  whole := True
  rename i := i
  ids := Eq
  memory := Eq
  live := live
  callback _ := True
  generator _ := True
  injective _ _ h := h
  rename_succ _ := rfl
  ids_succ h := congrArg (· + 1) h
  rename_eq _ := rfl

section Values

variable {live : Prop} {n : Nat}

theorem FunctionRef.Pairs.level_eq {f f' : FunctionRef}
    (h : f.Pairs (Pairing.level live : Pairing φ γ σ σ) n f') : f' = f := by
  cases h with
  | @captured r hr o =>
      change FunctionRef.captured (0 + r) o = _
      rw [Nat.zero_add]
  | foreign backend => rfl

theorem FunctionRef.pairs_level (f : FunctionRef) :
    f.Pairs (Pairing.level live : Pairing φ γ σ σ) n f := by
  cases f with
  | captured r o =>
      have h : FunctionRef.Pairs (Pairing.level live : Pairing φ γ σ σ) n (.captured r o)
          (.captured (0 + r) o) := .captured (.inl trivial) o
      rwa [Nat.zero_add] at h
  | foreign backend => exact .foreign backend

mutual
theorem Value.Pairs.level_eq {v v' : Value φ} :
    v.Pairs (Pairing.level live : Pairing φ γ σ σ) n v' → v' = v
  | .null => rfl
  | .undefined => rfl
  | .number hi x => congrArg (Value.number · x) (Eq.symm hi)
  | .string hi s => congrArg (Value.string · s) (Eq.symm hi)
  | .function hi hf => congrArg₂ Value.function (Eq.symm hi) hf.level_eq
  | .object hi he => congrArg₂ Value.object (Eq.symm hi) he.level_eq

theorem Namespace.Pairs.level_eq {e e' : Namespace φ} :
    e.Pairs (Pairing.level live : Pairing φ γ σ σ) n e' → e' = e
  | .empty => rfl
  | .entry name hitem hrest => congrArg₂ (Namespace.entry name) hitem.level_eq hrest.level_eq

theorem Export.Pairs.level_eq {e e' : Export φ} :
    e.Pairs (Pairing.level live : Pairing φ γ σ σ) n e' → e' = e
  | .value hv => congrArg Export.value hv.level_eq
  | .callback _ => rfl
  | .nested he => congrArg Export.nested he.level_eq
end

mutual
theorem Value.pairs_level (v : Value φ) : v.Pairs (Pairing.level live : Pairing φ γ σ σ) n v := by
  cases v with
  | null => exact .null
  | undefined => exact .undefined
  | number id x => exact .number rfl x
  | string id s => exact .string rfl s
  | function id f => exact .function rfl f.pairs_level
  | object id exports => exact .object rfl exports.pairs_level

theorem Namespace.pairs_level (e : Namespace φ) :
    e.Pairs (Pairing.level live : Pairing φ γ σ σ) n e := by
  cases e with
  | empty => exact .empty
  | entry name item rest => exact .entry name item.pairs_level rest.pairs_level

theorem Export.pairs_level (e : Export φ) :
    e.Pairs (Pairing.level live : Pairing φ γ σ σ) n e := by
  cases e with
  | value v => exact .value v.pairs_level
  | callback f => exact .callback trivial
  | nested exports => exact .nested exports.pairs_level
end

theorem Value.forall₂_level_eq {vs vs' : List (Value φ)}
    (h : List.Forall₂ (Value.Pairs (Pairing.level live : Pairing φ γ σ σ) n) vs vs') :
    vs' = vs := by
  induction h with
  | nil => rfl
  | cons hv _ ih => rw [hv.level_eq, ih]

theorem Value.forall₂_pairs_level (vs : List (Value φ)) :
    List.Forall₂ (Value.Pairs (Pairing.level live : Pairing φ γ σ σ) n) vs vs :=
  List.forall₂_same.mpr fun v _ => v.pairs_level

theorem Ends.level_eq {x x' : Except Failure (Value φ)}
    (h : Ends (Value.Pairs (Pairing.level live : Pairing φ γ σ σ) n) x x') : x' = x := by
  cases h with
  | ok hv => rw [hv.level_eq]
  | error e => rfl

theorem Ends.level (x : Except Failure (Value φ)) :
    Ends (Value.Pairs (Pairing.level live : Pairing φ γ σ σ) n) x x := by
  cases x with
  | ok v => exact .ok v.pairs_level
  | error e => exact .error e

end Values

/-- The callbacks go on alike at every depth of the active stack, whatever is below its top. -/
def Host.Blind (host : Host φ γ σ) : Prop :=
  ∀ live, (Pairing.level live : Pairing φ γ σ σ).Hosts host host

/-! ## Recording hosts -/

/-- Callbacks that go on alike do so if their hosts remember more. -/
theorem Body.Mirrors.widen {live sees : Prop} {depth depth' n : Nat} {b b' : Body φ γ σ}
    (h : b.Mirrors (Pairing.level live) sees depth depth' n b') :
    (b.widen : Body φ γ (σ × τ)).Mirrors (Pairing.level live) sees depth depth' n b'.widen := by
  induction h with
  | done => exact .done
  | answer hv _ ih =>
      rw [hv.level_eq]
      exact .answer (Value.pairs_level _) ih
  | fail message _ ih => exact .fail message ih
  | call hf harguments _ ih =>
      rw [hf.level_eq, Value.forall₂_level_eq harguments]
      refine .call (FunctionRef.pairs_level _) (Value.forall₂_pairs_level _) fun m x x' hm hx => ?_
      rw [hx.level_eq]
      exact ih m x x hm (Ends.level x)
  | run engine source hengine _ ih =>
      refine .run engine source hengine fun m x x' hm hx => ?_
      rw [hx.level_eq]
      exact ih m x x hm (Ends.level x)
  | look hsees _ ih =>
      refine .look hsees fun m v v' hm hv => ih m v v' hm ⟨hv.realm, ?_, hv.natives, hv.current⟩
      rw [Value.forall₂_level_eq hv.arguments]
      exact Value.forall₂_pairs_level _
  | «recall» _ ih => exact .recall fun s s' hs => ih _ _ (congrArg Prod.fst hs)
  | remember hf _ ih =>
      refine .remember (fun s s' hs => ?_) ih
      cases hs
      exact Prod.ext (hf _ _ rfl) rfl
  | make hf _ ih =>
      refine .make (fun i i' s s' hi hs => ?_) fun v v' hv => ?_
      · cases hs
        obtain ⟨hvalue, hids, hmemory⟩ := hf i i' s.1 s.1 hi rfl
        refine ⟨?_, hids, Prod.ext hmemory rfl⟩
        rw [hvalue.level_eq]
        exact Value.pairs_level _
      · rw [hv.level_eq]
        exact ih v v (Value.pairs_level v)
  | enter hr _ ih => exact .enter hr ih
  | leave k _ ih => exact .leave k ih
  | lookFirst _ ih => exact .lookFirst ih
  | rememberFirst hf _ ih =>
      refine .rememberFirst (fun s s' hs => ?_) ih
      cases hs
      exact Prod.ext (hf _ _ rfl) rfl

/-- Recording is not noticed either. -/
theorem Host.Blind.recording {host : Host φ γ σ} (h : host.Blind) : host.recording.Blind := by
  intro live
  constructor
  · intro n f i i' hf hi depth depth'
    have hrealm : i'.realm = i.realm := hi.realm.trans (Nat.zero_add _)
    have harguments : i'.arguments = i.arguments := Value.forall₂_level_eq hi.arguments
    have hsame : i' = i := by
      cases i
      cases i'
      cases hrealm
      cases harguments
      rfl
    subst hsame
    refine .look trivial fun m v v' hm hv => .remember (fun s s' hs => ?_) ?_
    · have hcurrent : v'.current = v.current := hv.current.trans Option.map_id'
      cases hs
      rw [hcurrent]
      rfl
    · exact ((h live).behave hf ⟨hi.realm, hi.has.mono hm, Value.forall₂_pairs_level _⟩ _ _).widen
  · exact fun hg depth depth' => ((h live).prepare hg depth depth').widen
  · intro g i i' s s' hg hi hs
    cases hi
    cases hs
    exact ⟨Namespace.pairs_level _, rfl, rfl⟩
  · intro n backend arguments arguments' harguments depth depth'
    rw [Value.forall₂_level_eq harguments]
    exact ((h live).act backend (Value.forall₂_pairs_level arguments) depth depth').widen
  · intro n c c' s s' hc hs
    cases hs
    have hcompletion : c' = c := by
      cases hc with
      | returned hv => rw [hv.level_eq]
      | thrown message => rfl
    subst hcompletion
    exact Ends.level _

/-! ## Calls -/

/-- Two worlds differ in nothing but their stacks and records. -/
structure World.SameButStacks (w w' : World φ σ) : Prop where
  realms : w'.realms = w.realms
  nextRealm : w'.nextRealm = w.nextRealm
  nextValue : w'.nextValue = w.nextValue
  host : w'.host = w.host

section

variable {host : Host φ γ σ} {w w' : World φ σ} {p : Policy}

theorem World.SameButStacks.mirrors {live : Prop} (h : w.SameButStacks w')
    (hentered : live → ∀ r, r ∈ w.live ↔ r ∈ w'.live)
    (hlive : ∀ r ∈ w.live, (w.realm r).isScript = true)
    (hlive' : ∀ r ∈ w'.live, (w'.realm r).isScript = true) :
    (Pairing.level live : Pairing φ γ σ σ).Mirrors w w' where
  size := by
    rw [h.realms]
    exact (Nat.zero_add _).symm
  realm {r} _ := by
    change w'.realm (0 + r) = (w.realm r).rename fun i => i
    rw [Nat.zero_add, Realm.rename_id, World.realm, World.realm, h.realms]
  native _ := trivial
  script := .inl trivial
  nextRealm := h.nextRealm
  nextValue := h.nextValue.symm
  memory := h.host.symm
  entered hsame r := by
    change r ∈ w.live ↔ 0 + r ∈ w'.live
    rw [Nat.zero_add]
    exact hentered hsame r
  live := hlive
  live' := hlive'

theorem World.SameButStacks.of_mirrors {live : Prop}
    (h : (Pairing.level live : Pairing φ γ σ σ).Mirrors w w') : w.SameButStacks w' := by
  have hsize : w'.realms.size = w.realms.size := h.size.trans (Nat.zero_add _)
  refine ⟨Array.ext hsize fun r hr hr' => ?_, h.nextRealm, h.nextValue.symm, h.memory.symm⟩
  have hrealm : w'.realm (0 + r) = (w.realm r).rename fun i => i := h.realm (.inl trivial)
  rw [Nat.zero_add, Realm.rename_id, World.realm, World.realm] at hrealm
  simpa [Array.getD_eq_getD_getElem?, hr, hr'] using hrealm

/-- Two calls come out alike: with the same result, in worlds that are still the same. -/
structure SameCall (a b : World φ σ × Except Failure (Value φ)) : Prop where
  result : b.2 = a.2
  worlds : a.1.SameButStacks b.1

theorem SameCall.of_after {live : Prop} {a b : World φ σ × Except Failure (Value φ)}
    (h : (Pairing.level live : Pairing φ γ σ σ).After w w'
      (fun n => Ends (Value.Pairs (Pairing.level live : Pairing φ γ σ σ) n)) a b) :
    SameCall a b :=
  ⟨h.result.level_eq, .of_mirrors h.mirrors⟩

variable [Machine] [LawfulMachine]

omit [Machine] [LawfulMachine] in
/-- The engine of an idle realm is entered with all of its stack.  That is as if its context
had been there already, with so much stack left. -/
theorem withContextBy_entered (hp : p.direct = true) {r : RealmRef} (hidle : r ∉ w.live)
    (hscript : (w.realm r).isScript = true) {left left' : Script.Stack}
    (hstack : p.stack true left' (w.realm r).stack = p.stack false left (w.realm r).stack)
    {f : RealmRef → Script.Stack → World φ σ → World φ σ × Except Failure (Value φ)}
    (hkept : ∀ stack w₁, (f r stack w₁).1.live = w₁.live) :
    w.withContextBy p r left f =
      ({ (World.withContextBy p { w with live := r :: w.live } r left' f).1 with live := w.live },
        (World.withContextBy p { w with live := r :: w.live } r left' f).2) := by
  have hmem : r ∈ r :: w.live := List.mem_cons_self
  rw [Pairing.withContextBy_direct hp left hscript (if_neg hidle).symm rfl (hkept _ _),
    Pairing.withContextBy_direct (w := { w with live := r :: w.live }) hp left' hscript
      (if_pos hmem).symm rfl (hkept _ _)]
  have hfalse : decide (r ∈ w.live) = false := decide_eq_false hidle
  have htrue : decide (r ∈ r :: w.live) = true := decide_eq_true hmem
  simp only [hfalse, htrue, ← hstack]
  rfl

omit [LawfulMachine] in
theorem callFunctionBy_entered (host : Host φ γ σ) {d : Dispatcher φ σ}
    (hd : ∀ context call (w : World φ σ), SameLive w (d context call w).1)
    (hp : p.direct = true) {r : RealmRef} (hidle : r ∉ w.live)
    (hscript : (w.realm r).isScript = true) {left left' : Script.Stack}
    (hstack : p.stack true left' (w.realm r).stack = p.stack false left (w.realm r).stack)
    (o : ObjectRef) (arguments : List (Value φ)) :
    callFunctionBy p host d left (.captured r o) arguments w =
      ({ (callFunctionBy p host d left' (.captured r o) arguments
            { w with live := r :: w.live }).1 with live := w.live },
        (callFunctionBy p host d left' (.captured r o) arguments
          { w with live := r :: w.live }).2) := by
  have hentered := withContextBy_entered
    (w := ((w.record (.calling (w.idOf r) arguments.length)).enter r).2) hp hidle hscript hstack
    (f := fun context stack w₁ =>
      Crossing.callFunction ⟨d, context, r, stack⟩ (.captured r o) arguments w₁)
    fun stack w₁ => ((Comparison.self SameLive.frame hd).callContext (c := ⟨d, r, r, stack⟩)
      (.captured r o) arguments (w := w₁) ⟨⟩).bound
  simp only [callFunctionBy, servicesBy, servicesWithinBy, callWithBy]
  rw [hentered]
  rfl

/-! ## Idle or executing -/

/-- By a policy that looks no identifiers up, calls come out alike. -/
theorem SameCall.straight {live : Prop} (hblind : host.Blind)
    (hp : live ∨ ∀ left own, p.stack true left own = p.stack false left own)
    (hm : (Pairing.level live : Pairing φ γ σ σ).Mirrors w w') (n : Nat) (left : Script.Stack)
    (f : FunctionRef) (arguments : List (Value φ)) :
    SameCall
      (callFunctionBy p.straight host (dispatcherBy p.straight host n) left f arguments w)
      (callFunctionBy p.straight host (dispatcherBy p.straight host n) left f arguments w') := by
  have hfollows : (Pairing.level live : Pairing φ γ σ σ).Follows p.straight := ⟨rfl, hp⟩
  have hserves := Pairing.servesBy hfollows
    (Pairing.dispatcherBy_answers hfollows (hblind live) n) (hblind live) left
  exact .of_after (hserves.call hm f.pairs_level (Value.forall₂_pairs_level arguments))

/-- What comes out alike without looking up does so with it. -/
theorem SameCall.looked {q : Policy} (hpq : q.stack = p.stack) (n : Nat) (left left' : Script.Stack)
    (f : FunctionRef) (arguments : List (Value φ))
    (hw : w.Sound .any (.all : Knowledge φ γ σ)) (hw' : w'.Sound .any (.all : Knowledge φ γ σ))
    (hfew : (callFunctionBy p host (dispatcherBy p host n) left f arguments w).1.realms.size <
      2 ^ 32)
    (h : SameCall (callFunctionBy q host (dispatcherBy q host n) left f arguments w)
      (callFunctionBy q host (dispatcherBy q host n) left' f arguments w')) :
    SameCall (callFunctionBy p host (dispatcherBy p host n) left f arguments w)
      (callFunctionBy p host (dispatcherBy p host n) left' f arguments w') := by
  have hstraight := callFunctionBy_of_stack_eq hpq n left f arguments hw hfew
  have hfew' : (callFunctionBy q host (dispatcherBy q host n) left' f arguments
      w').1.realms.size < 2 ^ 32 := by
    rw [h.worlds.realms, hstraight]
    exact hfew
  rw [hstraight, ← callFunctionBy_of_stack_eq hpq.symm n left' f arguments hw' hfew'] at h
  exact h

/-- Two sound worlds that differ in nothing but their stacks and records. -/
structure World.Comparable (γ : Type) (w w' : World φ σ) : Prop where
  same : w.SameButStacks w'
  sound : w.Sound .any (.all : Knowledge φ γ σ)
  sound' : w'.Sound .any (.all : Knowledge φ γ σ)
  live : ∀ r ∈ w.live, (w.realm r).isScript = true
  live' : ∀ r ∈ w'.live, (w'.realm r).isScript = true

/-- Calls of a function come out alike in two worlds, whatever is active and live in them. -/
structure CallsAgree (host : Host φ γ σ) (w w' : World φ σ) (r : RealmRef) (o : ObjectRef)
    (arguments : List (Value φ)) (n : Nat) (left : Script.Stack) : Prop where
  /-- The stack that code gets depends on the engine alone. -/
  even (stack : Script.Stack → Script.Stack) (left' : Script.Stack) :
    (callFunctionBy (.evenly stack) host (dispatcherBy (.evenly stack) host n) left
        (.captured r o) arguments w).1.realms.size < 2 ^ 32 →
      SameCall
        (callFunctionBy (.evenly stack) host (dispatcherBy (.evenly stack) host n) left
          (.captured r o) arguments w)
        (callFunctionBy (.evenly stack) host (dispatcherBy (.evenly stack) host n) left'
          (.captured r o) arguments w')
  /-- The realm is idle in one world and executing in the other one, where the stack that is left
  is the one that its engine has; and the other live realms are the same. -/
  usual :
    (callFunction host (dispatcher host n) left (.captured r o) arguments w).1.realms.size <
        2 ^ 32 →
      (w.realm r).isScript = true → r ∉ w.live → (∀ s, s ∈ w'.live ↔ s = r ∨ s ∈ w.live) →
      SameCall (callFunction host (dispatcher host n) left (.captured r o) arguments w)
        (callFunction host (dispatcher host n) (w.realm r).stack (.captured r o) arguments w')

omit [LawfulMachine] in
/-- In a sound world any script realms may be live, and any realms active. -/
theorem World.Comparable.restacked (hw : w.Sound .any (.all : Knowledge φ γ σ))
    (hlive : ∀ r ∈ w.live, (w.realm r).isScript = true) (active : List RealmRef)
    {live : List RealmRef} (hlive' : ∀ r ∈ live, (w.realm r).isScript = true) :
    w.Comparable γ { w with active := active, live := live } where
  same := ⟨rfl, rfl, rfl, rfl⟩
  sound := hw
  sound' := hw.withStacks active fun r hr => World.lt_size_of_isScript _ (hlive' r hr)
  live := hlive
  live' := hlive'

theorem World.Comparable.callsAgree (h : w.Comparable γ w') (hblind : host.Blind) (r : RealmRef)
    (o : ObjectRef) (arguments : List (Value φ)) (n : Nat) (left : Script.Stack) :
    CallsAgree host w w' r o arguments n left where
  even stack left' hfew := by
    have hm : (Pairing.level False : Pairing φ γ σ σ).Mirrors w w' :=
      h.same.mirrors False.elim h.live h.live'
    exact .looked (p := .evenly stack) (q := (Policy.evenly stack).straight) rfl n left left' _ _
      h.sound h.sound' hfew (.straight hblind (.inr fun _ _ => rfl) hm n left _ _)
  usual hfew hscript hidle hentered := by
    have hm : (Pairing.level True : Pairing φ γ σ σ).Mirrors { w with live := r :: w.live } w' := by
      refine World.SameButStacks.mirrors { h.same with } (fun _ s => ?_) (fun s hs => ?_) h.live'
      · rw [List.mem_cons, hentered s]
      · rcases List.mem_cons.mp hs with rfl | hs
        · exact hscript
        · exact h.live s hs
    have hstraight := SameCall.straight (p := .usual) hblind (.inl trivial) hm n
      (w.realm r).stack (.captured r o) arguments
    have hd : ∀ context call (w : World φ σ),
        SameLive w (dispatcherBy Policy.usual.straight host n context call w).1 :=
      dispatcherBy_bound SameLive.frame host.settled_sameLive n
    have hstack : Policy.usual.straight.stack true (w.realm r).stack (w.realm r).stack =
        Policy.usual.straight.stack false left (w.realm r).stack := rfl
    have hlater := callFunctionBy_entered host hd rfl hidle hscript hstack o arguments
    have hsame : SameCall
        (callFunctionBy Policy.usual.straight host (dispatcherBy Policy.usual.straight host n)
          left (.captured r o) arguments w)
        (callFunctionBy Policy.usual.straight host (dispatcherBy Policy.usual.straight host n)
          (w.realm r).stack (.captured r o) arguments w') := by
      rw [hlater]
      exact ⟨hstraight.result, { hstraight.worlds with }⟩
    rw [← dispatcherBy_usual, ← callFunctionBy_usual] at hfew ⊢
    rw [← callFunctionBy_usual]
    exact hsame.looked (p := .usual) (q := Policy.usual.straight) rfl n left _ _ _ h.sound
      h.sound' hfew

/-- A call of a function comes out alike in worlds that differ in which realms are active and
live: it has the same result, and the realms and what the host remembers are the same
afterwards.  So it does if the host puts down which callbacks are called, with which arguments,
from which realm and with which realm on top of the active stack. -/
theorem reentrant_calls_agree (hblind : host.Blind) (r : RealmRef) (o : ObjectRef)
    (arguments : List (Value φ)) (n : Nat) (left : Script.Stack) :
    (∀ w w', World.Comparable γ w w' → CallsAgree host w w' r o arguments n left) ∧
      ∀ w w', World.Comparable γ w w' → CallsAgree host.recording w w' r o arguments n left :=
  ⟨fun _ _ h => h.callsAgree hblind r o arguments n left,
    fun _ _ h => h.callsAgree hblind.recording r o arguments n left⟩

end

/-- A callback that calls the function it is given, and else answers what it is given. -/
def callingHost : Host Unit Unit Unit where
  behave _ i :=
    match i.argument 0 with
    | .function _ f => .call f [] fun x =>
      match x with
      | .ok v => .answer v .done
      | .error e => .fail e.message .done
    | v => .answer v .done
  generate _ _ s := ⟨.entry "f" (.callback ()) .empty, 0, s⟩

theorem callingHost_blind : callingHost.Blind := by
  intro live
  constructor
  · intro n f i i' _ hi depth depth'
    have hargument : (i'.argument 0) = i.argument 0 :=
      congrArg (fun vs : List (Value Unit) => vs.getD 0 .undefined)
        (Value.forall₂_level_eq hi.arguments)
    simp only [callingHost, hargument]
    cases i.argument 0 with
    | function id g =>
        refine .call g.pairs_level .nil fun m x x' _ hx => ?_
        rw [hx.level_eq]
        cases x with
        | ok v => exact .answer v.pairs_level .done
        | error e => exact .fail _ .done
    | null => exact .answer .null .done
    | undefined => exact .answer .undefined .done
    | number id x => exact .answer (Value.pairs_level _) .done
    | string id s => exact .answer (Value.pairs_level _) .done
    | object id exports => exact .answer (Value.pairs_level _) .done
  · exact fun _ _ _ => .done
  · intro g i i' s s' _ hi hs
    exact ⟨Namespace.pairs_level _, hi, hs⟩
  · exact fun _ _ _ _ _ _ => .done
  · exact fun hc _ => hc.result

/-- A realm with a function that is called back from inside. -/
def calledWorld : World Unit (Unit × List (Invoked Unit)) :=
  (callingHost.recording.run ⟨{}, ()⟩
    "(function () { return f(function () { return f(7); }); })" (.start ((), []))).1

/-- The function calls out twice, the second time from a call that the host has made. -/
theorem reentrant_calls_agree_callingHost :
    callingHost.Blind ∧
      (callFunction callingHost.recording (dispatcher callingHost.recording 5) (Machine.stack {})
        (.captured 0 158) [] calledWorld).1.host.2.length = 2 ∧
      SameCall
        (callFunction callingHost.recording (dispatcher callingHost.recording 5)
          (Machine.stack {}) (.captured 0 158) [] calledWorld)
        (callFunction callingHost.recording (dispatcher callingHost.recording 5)
          (calledWorld.realm 0).stack (.captured 0 158) []
          { calledWorld with active := [0, 0], live := [0] }) := by
  have hscript : calledWorld.realms.size < 2 ^ 32 ∧ (calledWorld.realm 0).isScript = true := by
    decide +kernel
  have hrun : (callFunction callingHost.recording (dispatcher callingHost.recording 5)
        (Machine.stack {}) (.captured 0 158) [] calledWorld).1.realms.size < 2 ^ 32 ∧
      (callFunction callingHost.recording (dispatcher callingHost.recording 5) (Machine.stack {})
        (.captured 0 158) [] calledWorld).1.host.2.length = 2 := by
    decide +kernel
  have hreaches : callingHost.recording.Reaches calledWorld := .run _ _ (.start ((), []))
  have hidle : calledWorld.live = [] := hreaches.live_eq_nil
  have hcomparable : World.Comparable Unit calledWorld
      { calledWorld with active := [0, 0], live := [0] } := by
    refine .restacked (hreaches.sound_of_few hscript.1) (fun r hr => ?_) [0, 0] fun r hr => ?_
    · rw [hidle] at hr
      cases hr
    · rw [List.mem_singleton.mp hr]
      exact hscript.2
  refine ⟨callingHost_blind, hrun.2, ?_⟩
  refine ((reentrant_calls_agree callingHost_blind 0 158 [] 5 (Machine.stack {})).2 _ _
    hcomparable).usual hrun.1 hscript.2 ?_ fun s => ?_
  · rw [hidle]
    exact List.not_mem_nil
  · rw [hidle, List.mem_singleton]
    exact ⟨.inl, fun h => h.elim id fun h => absurd h List.not_mem_nil⟩

/-- A realm with a function that answers the stack trace of a new error. -/
def tracingWorld : World Unit Unit :=
  (callingHost.run ⟨{}, ()⟩ "(function g() { return new Error().stack; })" (.start ())).1

/-- A stack trace lists all calls on the stack, so the function answers something else if it is
called from inside its realm, however much of the stack is left. -/
theorem traces_tell_calls_apart :
    World.Comparable Unit tracingWorld { tracingWorld with active := [0], live := [0] } ∧
      (callFunction callingHost (dispatcher callingHost 1) (Machine.stack {}) (.captured 0 158) []
        tracingWorld).2.toOption.map Value.stringValue = some "    at g (eval_script)\n" ∧
      (callFunction callingHost (dispatcher callingHost 1)
        { Machine.stack {} with frames := [Script.text "    at <eval> (eval_script)\n"] }
        (.captured 0 158) [] { tracingWorld with active := [0], live := [0] }).2.toOption.map
          Value.stringValue = some "    at g (eval_script)\n    at <eval> (eval_script)\n" ∧
      (callingHost.run ⟨{}, ()⟩ "f(function g() { return new Error().stack; })"
        (.start ())).2.toOption.map Value.stringValue =
          some "    at g (eval_script)\n    at f (native)\n    at <eval> (eval_script)\n" := by
  have hscript : tracingWorld.realms.size < 2 ^ 32 ∧ (tracingWorld.realm 0).isScript = true := by
    decide +kernel
  have hreaches : callingHost.Reaches tracingWorld := .run _ _ (.start ())
  refine ⟨.restacked (hreaches.sound_of_few hscript.1) (fun r hr => ?_) [0] fun r hr => ?_,
    by decide +kernel, by decide +kernel, by decide +kernel⟩
  · rw [hreaches.live_eq_nil] at hr
    cases hr
  · rw [List.mem_singleton.mp hr]
    exact hscript.2

end ScriptHost
