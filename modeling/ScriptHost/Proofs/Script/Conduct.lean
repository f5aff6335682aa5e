import ScriptHost.Proofs.Script.Refs
import ScriptHost.Script.Statement

/-!
# What code may do

Code is a tree of host calls.  It conducts itself if it keeps a sound heap sound, makes
no host function by itself, asks the host only for functions whose objects are in the
heap, and hands nothing but sound values over, as arguments and as results.  The host may
do to the heap what it likes between a call and its answer, as long as the heap is later
and sound again.

`Action.Conducts` is that from a heap on; facts about values are facts about the size of
that heap, which only grows.  The lemmas are one for each way of building code, and a rule
of the language is shown to conduct itself by going along its definition with them.
-/

namespace ScriptHost.Script

variable {α β : Type}

/-! ## Results -/

/-- What is known of a result in a heap of some size; it is still known in a larger one. -/
structure Post (α : Type) where
  Holds : Nat → α → Prop
  mono {n m : Nat} {a : α} : n ≤ m → Holds n a → Holds m a

namespace Post

/-- Nothing is known. -/
def any : Post α := ⟨fun _ _ => True, fun _ _ => trivial⟩

def val (R : RefRule) : Post Val := ⟨Val.Sound R, fun hnm hv => hv.mono hnm⟩

/-- An object that can be referred to. -/
def ref (R : RefRule) : Post ObjectRef := ⟨R.Allows, R.mono⟩

def option (P : Post α) : Post (Option α) :=
  ⟨fun n o => ∀ a ∈ o, P.Holds n a, fun hnm ho a ha => P.mono hnm (ho a ha)⟩

def list (P : Post α) : Post (List α) :=
  ⟨fun n as => ∀ a ∈ as, P.Holds n a, fun hnm has a ha => P.mono hnm (has a ha)⟩

def pair (P : Post α) (P' : Post β) : Post (α × β) :=
  ⟨fun n p => P.Holds n p.1 ∧ P'.Holds n p.2, fun hnm hp => ⟨P.mono hnm hp.1, P'.mono hnm hp.2⟩⟩

end Post

variable (R : RefRule)

/-- How code ends: a result, or a sound value that is thrown. -/
def Post.outcome (P : Post α) : Post (Outcome α) where
  Holds n o :=
    match o with
    | .returned a => P.Holds n a
    | .thrown v => v.Sound R n
    | .suspended => True
  mono {n m o} hnm ho := by
    cases o with
    | returned a => exact P.mono hnm ho
    | thrown v => exact Val.Sound.mono ho hnm
    | suspended => trivial

def Reply.Sound (n : Nat) : Reply → Prop
  | .returned v => v.Sound R n
  | .thrown v => v.Sound R n
  | .failed _ => True
  | .tooDeep => True

def Post.reply : Post Reply where
  Holds := Reply.Sound R
  mono {n m r} hnm hr := by
    cases r with
    | returned v => exact Val.Sound.mono hr hnm
    | thrown v => exact Val.Sound.mono hr hnm
    | failed message => trivial
    | tooDeep => trivial

/-- The call is one of a host function in the heap, with sound arguments. -/
structure HostCall.Sound (h : Heap) (call : HostCall) : Prop where
  native : ∃ r, h.native? r = some call.key
  arguments : ∀ v ∈ call.arguments, v.Sound R h.size

/-! ## Runs -/

/-- From a heap on, every stretch of a run and every host call is as it should be. -/
def Run.Conducts (P : Post α) : Run α → Heap → Prop
  | .finished h' o, h => h.Ran h' ∧ h'.Sound R ∧ (P.outcome R).Holds h'.size o
  | .host h' call resume, h => h.Ran h' ∧ h'.Sound R ∧ call.Sound R h' ∧
    ∀ (next : Heap) (reply : Reply), h'.Later next → next.Sound R →
      reply.Sound R next.size → (resume next reply).Conducts P next

/-- Code conducts itself in every sound heap that is later than a given one. -/
def Action.Conducts (h : Heap) (P : Post α) (x : Action α) : Prop :=
  ∀ h', h.Later h' → h'.Sound R → (x h').Conducts R P h'

variable {R} {h : Heap} {P : Post α} {P' : Post β}

namespace Run.Conducts

theorem of_ran {h' : Heap} (hr : h.Ran h') {x : Run α} (hx : x.Conducts R P h') :
    x.Conducts R P h := by
  cases x with
  | finished h'' o => exact ⟨hr.trans hx.1, hx.2⟩
  | host h'' call resume => exact ⟨hr.trans hx.1, hx.2⟩

/-- The rest of a run goes on from the heap in which its first part ends. -/
theorem andThen {x : Run α} (hx : x.Conducts R P h) {next : Heap → Outcome α → Run β}
    (hnext : ∀ h' o, h.Later h' → h'.Sound R → (P.outcome R).Holds h'.size o →
      (next h' o).Conducts R P' h') :
    (x.andThen next).Conducts R P' h := by
  induction x generalizing h with
  | finished h' o => exact (hnext h' o hx.1.toLater hx.2.1 hx.2.2).of_ran hx.1
  | host h' call resume ih =>
      obtain ⟨hran, hs, hcall, hresume⟩ := hx
      refine ⟨hran, hs, hcall, fun h'' reply hl hs' hreply => ?_⟩
      refine ih _ _ (hresume h'' reply hl hs' hreply) fun h''' o hl' => ?_
      exact hnext h''' o ((hran.toLater.trans hl).trans hl')

end Run.Conducts

/-! ## Code -/

namespace Action.Conducts

theorem later {h' : Heap} {x : Action α} (hx : Conducts R h P x) (hl : h.Later h') :
    Conducts R h' P x :=
  fun h'' hl' => hx h'' (hl.trans hl')

/-- Code may be looked at from the heap that it starts in. -/
theorem here {x : Action α} (hx : ∀ h', h.Later h' → h'.Sound R → Conducts R h' P x) :
    Conducts R h P x :=
  fun h' hl hs => hx h' hl hs h' (.refl h') hs

theorem weaken {Q : Post α} {x : Action α} (hx : Conducts R h P x)
    (hPQ : ∀ n a, P.Holds n a → Q.Holds n a) : Conducts R h Q x := by
  intro h' hl hs
  have hrun := hx h' hl hs
  have hfinish : ((x h').andThen Run.finished).Conducts R Q h' := by
    refine hrun.andThen fun h'' o hl' hs' ho => ⟨.refl h'', hs', ?_⟩
    cases o with
    | returned a => exact hPQ _ a ho
    | thrown v => exact ho
    | suspended => trivial
  have hsame (y : Run α) : y.andThen Run.finished = y := by
    induction y with
    | finished _ _ => rfl
    | host _ _ _ ih => simp only [Run.andThen_host, ih]
  rwa [hsame] at hfinish

theorem pure {a : α} (ha : P.Holds h.size a) : Conducts R h P (pure a) :=
  fun h' hl hs => ⟨.refl h', hs, P.mono hl.size_le ha⟩

theorem raise {v : Val} (hv : v.Sound R h.size) : Conducts R h P (raise v) :=
  fun h' hl hs => ⟨.refl h', hs, hv.mono hl.size_le⟩

theorem suspend : Conducts R h P suspend := fun h' _ hs => ⟨.refl h', hs, trivial⟩

theorem bind {x : Action α} {f : α → Action β} (hx : Conducts R h P x)
    (hf : ∀ h' a, h.Later h' → h'.Sound R → P.Holds h'.size a → Conducts R h' P' (f a)) :
    Conducts R h P' (x >>= f) := by
  intro h' hl hs
  refine (hx h' hl hs).andThen fun h'' o hl' hs' ho => ?_
  cases o with
  | returned a => exact hf h'' a (hl.trans hl') hs' ho h'' (.refl h'') hs'
  | thrown v => exact ⟨.refl h'', hs', ho⟩
  | suspended => exact ⟨.refl h'', hs', trivial⟩

theorem read {f : Heap → α}
    (hf : ∀ h', h.Later h' → h'.Sound R → P.Holds h'.size (f h')) : Conducts R h P (read f) :=
  fun h' hl hs => ⟨.refl h', hs, hf h' hl hs⟩

/-- What is read is known together with the heap that it is read in. -/
theorem read_bind {f : Heap → α} {g : α → Action β}
    (hg : ∀ h', h.Later h' → h'.Sound R → Conducts R h' P' (g (f h'))) :
    Conducts R h P' (Action.read f >>= g) :=
  fun h' hl hs => hg h' hl hs h' (.refl h') hs

/-- Both ways of a test. -/
theorem ite {c : Prop} [Decidable c] {x y : Action α} (hx : c → Conducts R h P x)
    (hy : ¬c → Conducts R h P y) : Conducts R h P (if c then x else y) := by
  split
  · exact hx ‹c›
  · exact hy ‹¬c›

/-- Code that goes on with something known or with what other code finds out. -/
theorem default_bind {c : Prop} [Decidable c] {a : α} {x : Action α} {f : α → Action β}
    (hx : Conducts R h .any x) (hf : ∀ h' a, h.Later h' → Conducts R h' P' (f a)) :
    Conducts R h P' (if c then Pure.pure a >>= f else x >>= f) := by
  split
  · exact hf h a (.refl h)
  · exact hx.bind fun h' a hl _ _ => hf h' a hl

theorem update {f : Heap → α × Heap}
    (hf : ∀ h', h.Later h' → h'.Sound R →
      h'.Ran (f h').2 ∧ (f h').2.Sound R ∧ P.Holds (f h').2.size (f h').1) :
    Conducts R h P (update f) :=
  fun h' hl hs => hf h' hl hs

theorem change {f : Heap → Heap}
    (hf : ∀ h', h.Later h' → h'.Sound R → h'.Ran (f h') ∧ (f h').Sound R) :
    Conducts R h .any (change f) :=
  fun h' hl hs => ⟨(hf h' hl hs).1, (hf h' hl hs).2, trivial⟩

theorem recover {x : Action α} {handler : Val → Action α} (hx : Conducts R h P x)
    (hhandler : ∀ h' v, h.Later h' → h'.Sound R → v.Sound R h'.size →
      Conducts R h' P (handler v)) :
    Conducts R h P (x.recover handler) := by
  intro h' hl hs
  refine (hx h' hl hs).andThen fun h'' o hl' hs' ho => ?_
  cases o with
  | returned a => exact ⟨.refl h'', hs', ho⟩
  | thrown v => exact hhandler h'' v (hl.trans hl') hs' ho h'' (.refl h'') hs'
  | suspended => exact ⟨.refl h'', hs', trivial⟩

theorem outcome {x : Action α} (hx : Conducts R h P x) :
    Conducts R h (P.outcome R) x.outcome := by
  intro h' hl hs
  exact (hx h' hl hs).andThen fun h'' o _ hs' ho => ⟨.refl h'', hs', ho⟩

theorem ofOutcome {o : Outcome α} (ho : (P.outcome R).Holds h.size o) :
    Conducts R h P (ofOutcome o) := by
  cases o with
  | returned a => exact pure ho
  | thrown v => exact raise ho
  | suspended => exact suspend

theorem ask {call : HostCall} (hcall : ∀ h', h.Later h' → h'.Sound R → call.Sound R h') :
    Conducts R h (.reply R) (ask call) :=
  fun h' hl hs => ⟨.refl h', hs, hcall h' hl hs, fun next _ _ hs' hreply =>
    ⟨.refl next, hs', hreply⟩⟩

/-- Code that conducts itself on every item does so on all of them in turn. -/
theorem each {f : β → Action α} {items : List β}
    (hf : ∀ h' b, b ∈ items → h.Later h' → h'.Sound R → Conducts R h' P (f b)) :
    Conducts R h P.list (each f items) := by
  suffices honto : ∀ (items : List β) (done : List α) (h : Heap),
      (∀ h' b, b ∈ items → h.Later h' → h'.Sound R → Conducts R h' P (f b)) →
      (∀ a ∈ done, P.Holds h.size a) → Conducts R h P.list (eachOnto f done items) from
    honto items [] h hf fun a ha => absurd ha List.not_mem_nil
  intro items
  induction items with
  | nil =>
      intro done h _ hdone
      exact pure fun a ha => hdone a (List.mem_reverse.mp ha)
  | cons b rest ih =>
      intro done h hf hdone h' hl hs
      refine bind (hf h' b List.mem_cons_self hl hs) (fun h'' a hl' hs' ha => ?_) h' (.refl h') hs
      refine ih (a :: done) h'' (fun h₃ b' hb' hl'' => ?_) fun a' ha' => ?_
      · exact hf h₃ b' (List.mem_cons_of_mem _ hb') ((hl.trans hl').trans hl'')
      · rcases List.mem_cons.mp ha' with rfl | ha'
        · exact ha
        · exact P.mono (Nat.le_trans hl.size_le hl'.size_le) (hdone a' ha')

/-! ## Changing objects and scopes -/

theorem modify (r : ObjectRef) {f : Object → Object} (hkind : ∀ o, (f o).kind = o.kind)
    (hf : ∀ h' o, h.Later h' → h'.Sound R → o.Sound R h'.size → (f o).Sound R h'.size) :
    Conducts R h .any (Action.change fun h => h.modify r f) :=
  change fun h' hl hs => ⟨.modify h' r hkind, hs.modify r fun o ho => hf h' o hl hs ho⟩

theorem modifyScope (r : ScopeRef) {f : Scope → Scope}
    (hf : ∀ h' s, h.Later h' → h'.Sound R → s.Sound R h'.size → (f s).Sound R h'.size) :
    Conducts R h .any (Action.change fun h => h.modifyScope r f) :=
  change fun h' hl hs => ⟨.of_objects_eq rfl, hs.modifyScope r fun s => hf h' s hl hs⟩

theorem allocateScope {f : Heap → Scope}
    (hf : ∀ h', h.Later h' → h'.Sound R → (f h').Sound R h'.size) :
    Conducts R h .any (Action.update fun h => h.allocateScope (f h)) :=
  update fun h' hl hs => ⟨.of_objects_eq rfl, hs.allocateScope (hf h' hl hs), trivial⟩

/-- A new object, which is no host function, and a reference to it. -/
theorem allocate {o : Object} (hkind : ∀ k, o.kind ≠ .function (.native k))
    (ho : o.Sound R h.size) :
    Conducts R h (.val R)
      (Action.update fun h => (Val.object (h.allocate o).1, (h.allocate o).2)) := by
  refine update fun h' hl hs => ?_
  refine ⟨.allocate h' o hkind, hs.allocate (ho.mono (Nat.le_succ_of_le hl.size_le)), ?_⟩
  exact R.existing (h'.lt_size_allocate o)

end Action.Conducts

/-! ## Evaluators -/

theorem sound_later {vs : List Val} {h' : Heap} (hvs : ∀ v ∈ vs, v.Sound R h.size)
    (hl : h.Later h') : ∀ v ∈ vs, v.Sound R h'.size :=
  fun v hv => (hvs v hv).mono hl.size_le

/-- The receiver is sound. -/
def Env.Sound (R : RefRule) (n : Nat) (env : Env) : Prop := env.receiver.Sound R n

def Post.env (R : RefRule) : Post Env := ⟨Env.Sound R, fun hnm henv => Val.Sound.mono henv hnm⟩

/-- An answer that a statement leads to is sound. -/
def Flow.Sound (R : RefRule) (n : Nat) : Flow → Prop
  | .answer v => v.Sound R n
  | _ => True

def Post.flow (R : RefRule) : Post Flow where
  Holds := Flow.Sound R
  mono {n m f} hnm hf := by
    cases f with
    | answer v => exact Val.Sound.mono hf hnm
    | _ => trivial

/-- The parts of a piece of code conduct themselves. -/
structure Evaluator.Conducts (R : RefRule) (ev : Evaluator) : Prop where
  expr {h : Heap} {env : Env} (e : Expr) : env.Sound R h.size →
    Action.Conducts R h (.val R) (ev.expr env e)
  stmt {h : Heap} {env : Env} (s : Stmt) : env.Sound R h.size →
    Action.Conducts R h (.flow R) (ev.stmt env s)
  call {h : Heap} {f receiver : Val} {vs : List Val} : f.Sound R h.size →
    receiver.Sound R h.size → (∀ v ∈ vs, v.Sound R h.size) →
    Action.Conducts R h (.val R) (ev.call f receiver vs)
  construct {h : Heap} {f : Val} {vs : List Val} : f.Sound R h.size →
    (∀ v ∈ vs, v.Sound R h.size) → Action.Conducts R h (.val R) (ev.construct f vs)

end ScriptHost.Script
