import ScriptHost.Proofs.World.Mirror.Crossing
import ScriptHost.Proofs.World.Policy

/-!
# Runs and calls in worlds that mirror each other

What happens is followed in two worlds at once, by a policy that looks no identifiers up.  A run
makes realms that correspond, a call enters realms that correspond, and what callbacks do
corresponds by assumption, step by step: `Body.Mirrors` relates what two callbacks are going to
do, whatever comes back to them.  A callback may take from the active stack what it has put
there, not what it found; and it sees no more of that stack than its top.

The two policies are one, but the stack that code gets may depend on whether its realm is live.
So either that is the same in both worlds or the policy does not look at it.
-/

namespace ScriptHost

open Script (Heap HostCall Val)

variable {φ γ σ σ' α β : Type}

/-! ## Callbacks that stand for each other -/

/-- What callbacks see of two worlds corresponds, except for how many realms are active. -/
structure View.Mirrors (P : Pairing φ γ σ σ') (n : Nat) (v v' : View φ) : Prop where
  realm : v'.realm = P.rename v.realm
  arguments : List.Forall₂ (Value.Pairs P n) v.arguments v'.arguments
  natives : v'.natives = v.natives
  current : v'.current = v.current.map P.rename

/-- What two callbacks do corresponds, in worlds with at least `n` realms, when so many realms
were active as they were called.  The first one may look and remember more than the second.  If
they do not look, what they see need not correspond. -/
inductive Body.Mirrors (P : Pairing φ γ σ σ') (sees : Prop) (depth depth' : Nat) :
    Nat → Body φ γ σ → Body φ γ σ' → Prop
  | done {n : Nat} : Mirrors P sees depth depth' n .done .done
  | answer {n : Nat} {v v' : Value φ} {next : Body φ γ σ} {next' : Body φ γ σ'}
      (hv : v.Pairs P n v') (hnext : Mirrors P sees depth depth' n next next') :
      Mirrors P sees depth depth' n (.answer v next) (.answer v' next')
  | fail {n : Nat} (message : String) {next : Body φ γ σ} {next' : Body φ γ σ'}
      (hnext : Mirrors P sees depth depth' n next next') :
      Mirrors P sees depth depth' n (.fail message next) (.fail message next')
  | call {n : Nat} {f f' : FunctionRef} {arguments arguments' : List (Value φ)}
      {next : Except Failure (Value φ) → Body φ γ σ}
      {next' : Except Failure (Value φ) → Body φ γ σ'} (hf : f.Pairs P n f')
      (harguments : List.Forall₂ (Value.Pairs P n) arguments arguments')
      (hnext : ∀ m x x', n ≤ m → Ends (Value.Pairs P m) x x' →
        Mirrors P sees depth depth' m (next x) (next' x')) :
      Mirrors P sees depth depth' n (.call f arguments next) (.call f' arguments' next')
  | run {n : Nat} (engine : Engine γ) (source : String)
      {next : Except Failure (Value φ) → Body φ γ σ}
      {next' : Except Failure (Value φ) → Body φ γ σ'} (hengine : P.generator engine.generator)
      (hnext : ∀ m x x', n ≤ m → Ends (Value.Pairs P m) x x' →
        Mirrors P sees depth depth' m (next x) (next' x')) :
      Mirrors P sees depth depth' n (.run engine source next) (.run engine source next')
  | look {n : Nat} {next : View φ → Body φ γ σ} {next' : View φ → Body φ γ σ'} (hsees : sees)
      (hnext : ∀ m v v', n ≤ m → v.Mirrors P m v' →
        Mirrors P sees depth depth' m (next v) (next' v')) :
      Mirrors P sees depth depth' n (.look next) (.look next')
  | «recall» {n : Nat} {next : σ → Body φ γ σ} {next' : σ' → Body φ γ σ'}
      (hnext : ∀ s s', P.memory s s' → Mirrors P sees depth depth' n (next s) (next' s')) :
      Mirrors P sees depth depth' n (.recall next) (.recall next')
  | remember {n : Nat} {f : σ → σ} {f' : σ' → σ'} {next : Body φ γ σ} {next' : Body φ γ σ'}
      (hf : ∀ s s', P.memory s s' → P.memory (f s) (f' s'))
      (hnext : Mirrors P sees depth depth' n next next') :
      Mirrors P sees depth depth' n (.remember f next) (.remember f' next')
  | make {n : Nat} {f : ValueId → σ → Made φ σ} {f' : ValueId → σ' → Made φ σ'}
      {next : Value φ → Body φ γ σ} {next' : Value φ → Body φ γ σ'}
      (hf : ∀ i i' s s', P.ids i i' → P.memory s s' →
        (f i s).value.Pairs P n (f' i' s').value ∧
        P.ids (i + (f i s).taken) (i' + (f' i' s').taken) ∧
        P.memory (f i s).host (f' i' s').host)
      (hnext : ∀ v v', v.Pairs P n v' → Mirrors P sees depth depth' n (next v) (next' v')) :
      Mirrors P sees depth depth' n (.make f next) (.make f' next')
  | enter {n : Nat} {r : RealmRef} {next : World.Guard → Body φ γ σ}
      {next' : World.Guard → Body φ γ σ'} (hr : P.Has n r)
      (hnext : ∀ k, Mirrors P sees depth depth' n (next ⟨depth + k⟩) (next' ⟨depth' + k⟩)) :
      Mirrors P sees depth depth' n (.enter r next) (.enter (P.base + r) next')
  | leave {n : Nat} (k : Nat) {next : Body φ γ σ} {next' : Body φ γ σ'}
      (hnext : Mirrors P sees depth depth' n next next') :
      Mirrors P sees depth depth' n (.leave ⟨depth + k⟩ next) (.leave ⟨depth' + k⟩ next')
  | lookFirst {n : Nat} {next : View φ → Body φ γ σ} {b' : Body φ γ σ'}
      (hnext : ∀ v, Mirrors P sees depth depth' n (next v) b') :
      Mirrors P sees depth depth' n (.look next) b'
  | rememberFirst {n : Nat} {f : σ → σ} {next : Body φ γ σ} {b' : Body φ γ σ'}
      (hf : ∀ s s', P.memory s s' → P.memory (f s) s')
      (hnext : Mirrors P sees depth depth' n next b') :
      Mirrors P sees depth depth' n (.remember f next) b'

/-- Two callbacks are called alike. -/
structure Invocation.Pairs (P : Pairing φ γ σ σ') (n : Nat) (i i' : Invocation φ) : Prop where
  realm : i'.realm = P.base + i.realm
  has : P.Has n i.realm
  arguments : List.Forall₂ (Value.Pairs P n) i.arguments i'.arguments

/-- What the callers of functions get corresponds if the functions end alike. -/
theorem Completion.Pairs.result {P : Pairing φ γ σ σ'} {n : Nat} {c c' : Completion φ}
    (hc : c.Pairs P n c') : Ends (Value.Pairs P n) c.result c'.result := by
  cases hc with
  | returned hv => exact .ok hv
  | thrown message => exact .error _

theorem Invocation.Pairs.mono {P : Pairing φ γ σ σ'} {n m : Nat} {i i' : Invocation φ}
    (hi : i.Pairs P n i') (hnm : n ≤ m) : i.Pairs P m i' :=
  ⟨hi.realm, hi.has.mono hnm, hi.arguments.imp fun _ _ hv => hv.mono hnm⟩

namespace Pairing

variable (P : Pairing φ γ σ σ')

/-- The callbacks and generators of two hosts that take part stand for each other, and so do their
functions of other backends.  Generators and those functions do not look at the active stack,
whose top need not correspond where they are at work. -/
structure Hosts (host : Host φ γ σ) (host' : Host φ γ σ') : Prop where
  behave {n : Nat} {f : φ} {i i' : Invocation φ} : P.callback f → i.Pairs P n i' →
    ∀ depth depth', Body.Mirrors P True depth depth' n (host.behave f i) (host'.behave f i')
  prepare {n : Nat} {g : γ} : P.generator g →
    ∀ depth depth', Body.Mirrors P False depth depth' n (host.prepare g) (host'.prepare g)
  generate {g : γ} {i i' : ValueId} {s : σ} {s' : σ'} : P.generator g → P.ids i i' →
    P.memory s s' →
    (host.generate g i s).exports.Pairs P 0 (host'.generate g i' s').exports ∧
    P.ids (i + (host.generate g i s).taken) (i' + (host'.generate g i' s').taken) ∧
    P.memory (host.generate g i s).host (host'.generate g i' s').host
  act {n : Nat} (backend : String) {arguments arguments' : List (Value φ)} :
    List.Forall₂ (Value.Pairs P n) arguments arguments' → ∀ depth depth',
      Body.Mirrors P False depth depth' n (host.act backend arguments)
        (host'.act backend arguments')
  outcome {n : Nat} {c c' : Completion φ} {s : σ} {s' : σ'} : c.Pairs P n c' → P.memory s s' →
    Ends (Value.Pairs P n) (host.outcome c s) (host'.outcome c' s')

/-- A policy by which two worlds can be followed. -/
structure Follows (p : Policy) : Prop where
  direct : p.direct = true
  even : P.live ∨ ∀ left own, p.stack true left own = p.stack false left own

/-- Calls and runs of callbacks that correspond come out alike. -/
structure Serves (s : Services φ γ σ) (s' : Services φ γ σ') : Prop where
  call {w : World φ σ} {w' : World φ σ'} {f f' : FunctionRef}
    {arguments arguments' : List (Value φ)} : P.Mirrors w w' → f.Pairs P w.realms.size f' →
    List.Forall₂ (Value.Pairs P w.realms.size) arguments arguments' →
      P.After w w' (fun n => Ends (Value.Pairs P n)) (s.call f arguments w)
        (s'.call f' arguments' w')
  run {w : World φ σ} {w' : World φ σ'} (engine : Engine γ) (source : String) :
    P.Mirrors w w' → P.generator engine.generator →
      P.After w w' (fun n => Ends (Value.Pairs P n)) (s.run engine source w)
        (s'.run engine source w')

variable {P} {w : World φ σ} {w' : World φ σ'} {p : Policy} {k : RealmRef}

/-! ## Entering realms -/

/-- Code of a script realm runs with that realm for its context, which is live meanwhile. -/
theorem withContextBy_direct (hp : p.direct = true) {r : RealmRef} (left : Script.Stack)
    {f : RealmRef → Script.Stack → World φ σ → World φ σ × Except Failure α}
    (hscript : (w.realm r).isScript = true) {live : List RealmRef}
    (hlive : live = if r ∈ w.live then w.live else r :: w.live) {a : World φ σ × Except Failure α}
    (ha : f r (p.stack (decide (r ∈ w.live)) left (w.realm r).stack) { w with live := live } = a)
    (hkept : a.1.live = live) :
    w.withContextBy p r left f = ({ a.1 with live := w.live }, a.2) := by
  unfold World.withContextBy World.contextBy?
  rw [if_pos hp]
  by_cases hmem : r ∈ w.live
  · rw [if_pos hmem] at hlive ⊢
    subst hlive
    simp only [hmem, decide_true] at ha
    dsimp only
    rw [ha, ← hkept]
  · rw [if_neg hmem] at hlive ⊢
    subst hlive
    simp only [hmem, decide_false] at ha
    simp only [hscript, if_true]
    rw [ha, hkept, List.tail_cons]

theorem withContextBy_otherBackend (hp : p.direct = true) {r : RealmRef} (left : Script.Stack)
    {f : RealmRef → Script.Stack → World φ σ → World φ σ × Except Failure α}
    (hscript : ¬(w.realm r).isScript = true) (hlive : r ∉ w.live) :
    w.withContextBy p r left f = (w, .error (World.otherBackend (w.realm r))) := by
  unfold World.withContextBy World.contextBy?
  rw [if_pos hp, if_neg hlive]
  simp only [hscript]
  rfl

/-- Realms that correspond leave the same stack to code that runs in them. -/
private theorem Mirrors.room_eq (hm : P.Mirrors w w') (hp : P.Follows p) {r : RealmRef}
    (left : Script.Stack) (hr : P.Has w.realms.size r) :
    p.stack (decide (P.base + r ∈ w'.live)) left (w'.realm (P.base + r)).stack =
      p.stack (decide (r ∈ w.live)) left (w.realm r).stack := by
  rw [hm.realm hr]
  rcases hp.even with hsame | heven
  · simp only [hm.entered hsame r]
    rfl
  · -- the realms need not be live together, but the policy does not ask whether they are
    by_cases hmem : r ∈ w.live <;> by_cases hmem' : P.base + r ∈ w'.live <;>
      simp only [hmem, hmem', decide_true, decide_false, heven] <;> rfl

/-- Worlds still correspond when realms of scripts that correspond are live in both. -/
private theorem Mirrors.madeLive (hm : P.Mirrors w w') {r : RealmRef}
    (hscript : (w.realm r).isScript = true) (hscript' : (w'.realm (P.base + r)).isScript = true)
    {live live' : List RealmRef} (hlive : live = if r ∈ w.live then w.live else r :: w.live)
    (hlive' : live' = if P.base + r ∈ w'.live then w'.live else (P.base + r) :: w'.live) :
    P.Mirrors { w with live := live } { w' with live := live' } := by
  refine hm.withLive (fun hsame s => ?_) (fun s hs => ?_) fun s hs => ?_
  · rw [hlive, hlive']
    by_cases hmem : r ∈ w.live
    · rw [if_pos hmem, if_pos ((hm.entered hsame r).mp hmem)]
      exact hm.entered hsame s
    · rw [if_neg hmem, if_neg fun hmem' => hmem ((hm.entered hsame r).mpr hmem'),
        List.mem_cons, List.mem_cons, Nat.add_left_cancel_iff, hm.entered hsame s]
  · rw [hlive] at hs
    split at hs
    · exact hm.live s hs
    · rcases List.mem_cons.mp hs with rfl | hs
      · exact hscript
      · exact hm.live s hs
  · rw [hlive'] at hs
    split at hs
    · exact hm.live' s hs
    · rcases List.mem_cons.mp hs with rfl | hs
      · exact hscript'
      · exact hm.live' s hs

/-- Code runs in realms that correspond; for each of them it is decided whether it is live. -/
theorem Mirrors.inContext (hm : P.Mirrors w w') (hp : P.Follows p) {r : RealmRef}
    (left : Script.Stack) (hr : P.Has w.realms.size r) {R : Nat → α → β → Prop}
    {f : RealmRef → Script.Stack → World φ σ → World φ σ × Except Failure α}
    {f' : RealmRef → Script.Stack → World φ σ' → World φ σ' × Except Failure β}
    (inside : ∀ stack live live', P.Mirrors { w with live := live } { w' with live := live' } →
      r < w.realms.size →
        P.After { w with live := live } { w' with live := live' } (fun n => Ends (R n))
          (f r stack { w with live := live }) (f' (P.base + r) stack { w' with live := live' })) :
    P.After w w' (fun n => Ends (R n)) (w.withContextBy p r left f)
      (w'.withContextBy p (P.base + r) left f') := by
  have hkind : (w'.realm (P.base + r)).isScript = (w.realm r).isScript := by
    rw [hm.realm hr, Realm.isScript_rename]
  by_cases hscript : (w.realm r).isScript = true
  · have hscript' := hkind.trans hscript
    obtain ⟨live, hlive⟩ : ∃ live, live = if r ∈ w.live then w.live else r :: w.live := ⟨_, rfl⟩
    obtain ⟨live', hlive'⟩ : ∃ live', live' =
        if P.base + r ∈ w'.live then w'.live else (P.base + r) :: w'.live := ⟨_, rfl⟩
    have hinside := inside (p.stack (decide (r ∈ w.live)) left (w.realm r).stack) live live'
      (hm.madeLive hscript hscript' hlive hlive') (World.lt_size_of_isScript _ hscript)
    rw [withContextBy_direct hp.direct left hscript hlive rfl hinside.live,
      withContextBy_direct hp.direct left hscript' hlive' (congrArg (fun stack =>
        f' (P.base + r) stack { w' with live := live' }) (hm.room_eq hp left hr)) hinside.live']
    exact hinside.lived hm
  · have hscript' : ¬(w'.realm (P.base + r)).isScript = true := hkind ▸ hscript
    rw [withContextBy_otherBackend hp.direct left hscript fun h => hscript (hm.live r h),
      withContextBy_otherBackend hp.direct left hscript' fun h => hscript' (hm.live' _ h)]
    -- a realm that no script runs in is met only if the pairing covers the whole world, and
    -- then it has nothing to rename
    have hwhole : P.whole :=
      hm.script.elim id fun hall => hr.elim id fun hr => absurd (hall r hr) hscript
    have hsame : w'.realm (P.base + r) = w.realm r := by
      rw [hm.realm hr, P.rename_eq hwhole, Realm.rename_id]
    rw [hsame]
    exact hm.unchanged (.error _)

/-- A realm is active and live while code of it runs. -/
theorem Mirrors.whileActive (hm : P.Mirrors w w') (hp : P.Follows p) {r : RealmRef}
    (left : Script.Stack) (hr : P.Has w.realms.size r) {R : Nat → α → β → Prop}
    {f : RealmRef → Script.Stack → World φ σ → World φ σ × Except Failure α}
    {f' : RealmRef → Script.Stack → World φ σ' → World φ σ' × Except Failure β}
    (inside : ∀ stack {w₁ : World φ σ} {w₁' : World φ σ'}, w₁.realms = w.realms →
      P.Ready True w₁ w₁' r →
        P.After w₁ w₁' (fun n => Ends (R n)) (f r stack w₁) (f' (P.base + r) stack w₁')) :
    P.After w w' (fun n => Ends (R n))
      (((w.enter r).2.withContextBy p r left f).1.leave (w.enter r).1,
        ((w.enter r).2.withContextBy p r left f).2)
      (((w'.enter (P.base + r)).2.withContextBy p (P.base + r) left f').1.leave
          (w'.enter (P.base + r)).1,
        ((w'.enter (P.base + r)).2.withContextBy p (P.base + r) left f').2) := by
  have hentered : P.Mirrors (w.enter r).2 (w'.enter (P.base + r)).2 := hm.withActive _ _
  refine After.entered (hentered.inContext hp left hr fun stack live live' hready hmade => ?_)
  refine inside stack rfl ⟨hready, hmade, fun _ => ?_⟩
  refine ⟨[r], w.active, w'.active, rfl, rfl, List.mem_singleton_self r, fun s hs => ?_⟩
  rwa [List.mem_singleton.mp hs]

/-! ## Callbacks -/

theorem Mirrors.entering (hm : P.Mirrors w w') {r : RealmRef} (hr : P.Has w.realms.size r)
    {Q : Nat → α → β → Prop} {x : α} {y : β} (hQ : Q w.realms.size x y) :
    P.After w w' Q ((w.enter r).2, x) ((w'.enter (P.base + r)).2, y) where
  mirrors := hm.withActive _ _
  grows := .of_realms_eq rfl rfl List.suffix_rfl
  grows' := .of_realms_eq rfl rfl List.suffix_rfl
  live := rfl
  live' := rfl
  active := ⟨[r], rfl, rfl, fun s hs => by rwa [List.mem_singleton.mp hs]⟩
  still _ _ := rfl
  result := hQ

/-- What was active at the start stays so, if no more is taken off than was put there. -/
theorem After.leaving {Q : Nat → α → β → Prop} {a : World φ σ × α} {b : World φ σ' × β}
    (h : P.After w w' Q a b) (n : Nat) :
    P.After w w' Q (a.1.leave ⟨w.depth + n⟩, a.2) (b.1.leave ⟨w'.depth + n⟩, b.2) := by
  obtain ⟨l, hl, hl', hhas⟩ := h.active
  have hbottom (top base : List RealmRef) : World.bottom (base.length + n) (top ++ base) =
      top.drop (top.length - n) ++ base := by
    unfold World.bottom
    rw [List.length_append, List.drop_append_of_le_length (by omega)]
    congr 2
    omega
  exact { h with
    mirrors := h.mirrors.withActive _ _
    grows := h.grows.trans (.of_realms_eq rfl rfl List.suffix_rfl)
    grows' := h.grows'.trans (.of_realms_eq rfl rfl List.suffix_rfl)
    active := by
      refine ⟨l.drop (l.length - n), ?_, ?_, fun r hr => hhas r (List.mem_of_mem_drop hr)⟩
      · exact (congrArg (World.bottom _) hl).trans (hbottom l w.active)
      · refine (congrArg (World.bottom _) hl').trans ((hbottom _ w'.active).trans ?_)
        rw [List.length_map, List.map_drop] }

/-- A callback of a realm is called in both worlds, and the innermost active realms
correspond. -/
structure Called (P : Pairing φ γ σ σ') (w : World φ σ) (w' : World φ σ') (realm : RealmRef) :
    Prop where
  has : P.Has w.realms.size realm
  current : ∃ r m m', w.active = r :: m ∧ w'.active = (P.base + r) :: m' ∧ P.Has w.realms.size r

theorem Ready.called (hw : P.Ready True w w' k) : P.Called w w' k := by
  obtain ⟨l, m, m', hl, hl', hk, hhas⟩ := hw.active trivial
  obtain ⟨r, l, rfl⟩ := List.exists_cons_of_ne_nil (List.ne_nil_of_mem hk)
  exact ⟨.inr hw.made, r, l ++ m, l.map (P.base + ·) ++ m', hl, hl', hhas r List.mem_cons_self⟩

/-- Two callbacks are called alike, and the innermost active realms correspond. -/
def Looks (P : Pairing φ γ σ σ') (w : World φ σ) (w' : World φ σ')
    (i i' : Option (Invocation φ)) : Prop :=
  ∃ j j', i = some j ∧ i' = some j' ∧ j.Pairs P w.realms.size j' ∧ P.Called w w' j.realm

theorem Called.view {i i' : Invocation φ} (hc : P.Called w w' i.realm) {n : Nat}
    (hi : i.Pairs P n i') {Q : Nat → α → β → Prop}
    {a : World φ σ × α} {b : World φ σ' × β} (h : P.After w w' Q a b) :
    (a.1.view (some i)).Mirrors P n (b.1.view (some i')) := by
  obtain ⟨realm, arguments⟩ := i
  obtain ⟨_, arguments'⟩ := i'
  obtain ⟨rfl, -, harguments⟩ := hi
  have hhas := hc.has.mono h.grows.size_le
  obtain ⟨r, m, m', hm, hm', hr⟩ := hc.current
  obtain ⟨l, hl, hl', hnew⟩ := h.active
  obtain ⟨c, hcurrent, hcurrent', hchas⟩ : ∃ c, a.1.current? = some c ∧
      b.1.current? = some (P.base + c) ∧ P.Has a.1.realms.size c := by
    unfold World.current?
    rw [hl, hl', hm, hm']
    cases l with
    | nil => exact ⟨r, rfl, rfl, hr.mono h.grows.size_le⟩
    | cons c l => exact ⟨c, rfl, rfl, hnew c List.mem_cons_self⟩
  refine ⟨h.mirrors.idOf hhas, harguments, ?_, ?_⟩
  · exact congrArg (fun x => x.natives.size) (h.mirrors.realm hhas)
  · unfold World.view
    dsimp only
    rw [hcurrent, hcurrent', Option.map_some, Option.map_some, Option.map_some,
      h.mirrors.idOf hchas]

end Pairing

/-- What two callbacks have recorded so far corresponds. -/
structure Recorded.Pairs (P : Pairing φ γ σ σ') (n : Nat) (r r' : Recorded φ) : Prop where
  result : r.result.Rel (Value.Pairs P n) r'.result
  error : r'.error = r.error

variable {P : Pairing φ γ σ σ'} {n m : Nat}

theorem Recorded.Pairs.empty : ({} : Recorded φ).Pairs P n {} := ⟨.none, rfl⟩

theorem Recorded.Pairs.mono {r r' : Recorded φ} (hr : r.Pairs P n r') (hnm : n ≤ m) :
    r.Pairs P m r' := by
  obtain ⟨result, error⟩ := r
  obtain ⟨result', error'⟩ := r'
  obtain ⟨hresult, herror⟩ := hr
  refine ⟨?_, herror⟩
  cases hresult with
  | some hv => exact .some (hv.mono hnm)
  | none => exact .none

theorem Recorded.Pairs.completion {r r' : Recorded φ} (hr : r.Pairs P n r') :
    r.completion.Pairs P n r'.completion := by
  obtain ⟨result, error⟩ := r
  obtain ⟨result', error'⟩ := r'
  obtain ⟨hresult, rfl⟩ := hr
  cases error' with
  | some message => exact .thrown message
  | none =>
      cases hresult with
      | some hv => exact .returned hv
      | none => exact .returned .undefined

/-- Callbacks whose steps correspond end alike, in worlds that correspond.  From the start of
the callbacks on nothing that was active is lost, and what is left to do is known to correspond
from the worlds on that it finds. -/
theorem Body.Mirrors.perform {s : Services φ γ σ} {s' : Services φ γ σ'} (hs : P.Serves s s')
    {sees : Prop} {w₀ : World φ σ} {w₀' : World φ σ'} {i i' : Option (Invocation φ)}
    (hlook : sees → P.Looks w₀ w₀' i i')
    {b : Body φ γ σ} {b' : Body φ γ σ'} (hb : b.Mirrors P sees w₀.depth w₀'.depth n b')
    {w : World φ σ} {w' : World φ σ'} {r r' : Recorded φ}
    (h : P.After w₀ w₀' (Recorded.Pairs P) (w, r) (w', r')) (hn : n ≤ w.realms.size) :
    P.After w₀ w₀' (Completion.Pairs P) (b.perform s i r w) (b'.perform s' i' r' w') := by
  induction hb generalizing w w' r r' with
  | done => exact { h with result := h.result.completion }
  | answer hv _ ih => exact ih { h with result := ⟨.some (hv.mono hn), h.result.error⟩ } hn
  | fail message _ ih => exact ih { h with result := ⟨h.result.result, rfl⟩ } hn
  | call hf harguments _ ih =>
      have hcall := hs.call h.mirrors (hf.mono hn) (harguments.imp fun _ _ hv => hv.mono hn)
      have hgrown := Nat.le_trans hn hcall.grows.size_le
      exact ih _ _ _ hgrown hcall.result
        (h.andThen { hcall with result := h.result.mono hcall.grows.size_le }) le_rfl
  | run engine source hengine _ ih =>
      have hrun := hs.run engine source h.mirrors hengine
      have hgrown := Nat.le_trans hn hrun.grows.size_le
      exact ih _ _ _ hgrown hrun.result
        (h.andThen { hrun with result := h.result.mono hrun.grows.size_le }) le_rfl
  | look hsees _ ih =>
      obtain ⟨j, j', rfl, rfl, hj, hc⟩ := hlook hsees
      have hgrown := h.grows.size_le
      exact ih _ _ _ hn (hc.view (hj.mono hgrown) h) h le_rfl
  | «recall» _ ih => exact ih _ _ h.mirrors.memory h hn
  | remember hf _ ih =>
      exact ih (h.andThen (h.mirrors.kept List.suffix_rfl List.suffix_rfl h.mirrors.nextValue
        (hf _ _ h.mirrors.memory) h.result)) hn
  | make hf _ ih =>
      obtain ⟨hvalue, hids, hmemory⟩ := hf _ _ _ _ h.mirrors.nextValue h.mirrors.memory
      exact ih _ _ hvalue (h.andThen (h.mirrors.kept List.suffix_rfl List.suffix_rfl hids hmemory
        h.result)) hn
  | enter hr _ ih =>
      obtain ⟨l, hl, hl', -⟩ := h.active
      -- a guard is the depth of the stack, which grew by as much in both worlds since the start
      have hguard : w.active.length = w₀.depth + l.length := by
        rw [hl, List.length_append, Nat.add_comm]
        rfl
      have hguard' : w'.active.length = w₀'.depth + l.length := by
        rw [hl', List.length_append, List.length_map, Nat.add_comm]
        rfl
      simp only [Body.perform, Body.probed_enter, id_eq, World.enter, hguard, hguard']
      exact ih l.length (h.andThen (h.mirrors.entering (hr.mono hn) h.result)) hn
  | leave k _ ih => exact ih (h.leaving k) hn
  | lookFirst _ ih => exact ih _ h hn
  | rememberFirst hf _ ih =>
      exact ih (h.andThen (h.mirrors.kept List.suffix_rfl List.suffix_rfl h.mirrors.nextValue
        (hf _ _ h.mirrors.memory) h.result)) hn

namespace Pairing

variable {w : World φ σ} {w' : World φ σ'} {k : RealmRef} {p : Policy}

/-! ## Making a realm -/

/-- A realm has been made in both worlds. -/
def Made (P : Pairing φ γ σ σ') (n : Nat) (r r' : RealmRef) : Prop := r < n ∧ r' = P.base + r

section Calls

variable [Machine] [LawfulMachine]
variable {d : Dispatcher φ σ} {d' : Dispatcher φ σ'} (hp : P.Follows p)

include hp

variable (d d') in
/-- Nothing asks the host while a namespace goes into a realm that no script has touched. -/
private theorem install_made (hm : P.Mirrors w w') (left : Script.Stack) {n n' : Namespace φ}
    (hn : n.Pairs P w.realms.size n') {limit : Option Nat} (hk : k < w.realms.size)
    (hheap : w.heap k = { Heap.standard with memory := limit }) :
    P.After w w' (fun _ => Ends fun _ _ => True)
      (w.withContextBy p k left fun context stack w₁ =>
        n.install ⟨d, context, k, stack⟩ Script.Place.global w₁)
      (w'.withContextBy p (P.base + k) left fun context stack w₁ =>
        n'.install ⟨d', context, P.base + k, stack⟩ Script.Place.global w₁) := by
  have hheap' : w'.heap (P.base + k) = { Heap.standard with memory := limit } := by
    rw [hm.heap (.inr hk), hheap]
    exact Heap.rename_withMemory P.rename (Heap.rename_standard P.rename) limit
  refine hm.inContext hp left (.inr hk) fun stack live live' hmirrors _ => ?_
  have hready : P.Ready False { w with live := live } { w' with live := live' } k :=
    ⟨hmirrors, hk, False.elim⟩
  have hrefused : Settles Grows { w with live := live }
      (n.install ⟨refusing, k, k, stack⟩ Script.Place.global { w with live := live })
      (n.install ⟨d, k, k, stack⟩ Script.Place.global { w with live := live }) :=
    Comparison.installFresh Grows.frame stack n hk hheap
  have hrefused' : Settles Grows { w' with live := live' }
      (n'.install ⟨refusing, P.base + k, P.base + k, stack⟩ Script.Place.global
        { w' with live := live' })
      (n'.install ⟨d', P.base + k, P.base + k, stack⟩ Script.Place.global
        { w' with live := live' }) :=
    Comparison.installFresh Grows.frame stack n' (hm.made.mpr hk) hheap'
  -- both sides are replaced by runs that refuse every host call, which need not agree on what is
  -- active
  rw [hrefused.same, hrefused'.same]
  have hpairs : n.Pairs P ({ w with live := live } : World φ σ).realms.size n' := hn
  refine (refusing_answers.install stack Script.Place.global hpairs hready).weaken
    fun _ x y hxy => ?_
  subst hxy
  cases x with
  | ok u => exact .ok trivial
  | error e => exact .error e

variable (d d') in
theorem createRealmBy (hm : P.Mirrors w w') (left : Script.Stack) (config : EngineConfig)
    {n n' : Namespace φ} (hn : n.Pairs P w.realms.size n') :
    P.After w w' (fun m => Ends (P.Made m)) (createRealmBy p d left config n w)
      (createRealmBy p d' left config n' w') := by
  unfold ScriptHost.createRealmBy
  split
  · let heap := { Heap.standard with memory := config.runtime.memory.map UInt64.toNat }
    have hfixed : heap.rename P.rename = heap :=
      Heap.rename_withMemory P.rename (Heap.rename_standard P.rename)
        (config.runtime.memory.map UInt64.toNat)
    have hadd := hm.addRealm hfixed (Machine.stack config.runtime) (Q := fun _ _ _ => True)
      (x := ()) (y := ()) trivial
    have hheap := w.heap_addRealm_self scriptBackend heap (Machine.stack config.runtime)
    have hsize := w.size_addRealm scriptBackend (.script heap) (Machine.stack config.runtime)
    simp only [World.ref_addRealm, hm.size]
    dsimp only [heap] at hadd hheap hsize
    generalize (w.addRealm scriptBackend _ (Machine.stack config.runtime)).2 = w₁
      at hadd hheap hsize ⊢
    generalize (w'.addRealm scriptBackend _ (Machine.stack config.runtime)).2 = w₁' at hadd ⊢
    have hmade : w.realms.size < w₁.realms.size := hsize ▸ Nat.lt_succ_self _
    have hin := install_made d d' hp hadd.mirrors left
      (hn.mono (Nat.le_of_lt hmade)) hmade hheap
    refine hadd.andThen ?_
    dsimp only at hin ⊢
    generalize w₁.withContextBy p w.realms.size left _ = a at hin ⊢
    generalize w₁'.withContextBy p _ left _ = b at hin ⊢
    obtain ⟨w₂, x⟩ := a
    obtain ⟨w₂', x'⟩ := b
    refine hin.andThen ?_
    cases hin.result with
    | error e => exact hin.mirrors.unchanged (.error e)
    | ok _ =>
        exact hin.mirrors.recorded _ _
          (.ok ⟨Nat.lt_of_lt_of_le hmade hin.grows.size_le, rfl⟩)
  · exact hm.unchanged (.error _)

/-! ## Runs and calls -/

omit [Machine] [LawfulMachine] hp in
theorem Serves.generateExports {s : Services φ γ σ} {s' : Services φ γ σ'} (hs : P.Serves s s')
    {host : Host φ γ σ} {host' : Host φ γ σ'} (hhost : P.Hosts host host')
    (hm : P.Mirrors w w') {g : γ} (hg : P.generator g) :
    P.After w w' (fun n => Namespace.Pairs P n) (generateExports host s g w)
      (ScriptHost.generateExports host' s' g w') := by
  have hperform := (hhost.prepare hg w.depth w'.depth).perform hs
    (False.elim : False → P.Looks w w' none none) (hm.unchanged .empty) le_rfl
  obtain ⟨hexports, hids, hmemory⟩ :=
    hhost.generate hg hperform.mirrors.nextValue hperform.mirrors.memory
  unfold ScriptHost.generateExports
  exact hperform.andThen (hperform.mirrors.kept List.suffix_rfl List.suffix_rfl hids hmemory
    (hexports.mono (Nat.zero_le _)))

theorem runExportsBy (A : P.Answers True d d') (hm : P.Mirrors w w') (left : Script.Stack)
    (config : EngineConfig) {n n' : Namespace φ} (hn : n.Pairs P w.realms.size n')
    (source : String) :
    P.After w w' (fun n => Ends (Value.Pairs P n)) (runExportsBy p d left config n source w)
      (ScriptHost.runExportsBy p d' left config n' source w') := by
  have hcreate := createRealmBy d d' hp hm left config hn
  unfold ScriptHost.runExportsBy executeBy
  generalize ScriptHost.createRealmBy p d left config n w = c at hcreate ⊢
  generalize ScriptHost.createRealmBy p d' left config n' w' = c' at hcreate ⊢
  obtain ⟨w₁, x⟩ := c
  obtain ⟨w₁', x'⟩ := c'
  refine hcreate.andThen ?_
  cases hcreate.result with
  | error e => exact hcreate.mirrors.unchanged (.error e)
  | @ok r r' hr =>
      obtain ⟨hmade, rfl⟩ := hr
      dsimp only
      have hrecord := hcreate.mirrors.recorded
        (.running source.utf8ByteSize (w₁.idOf r) w₁.depth)
        (.running source.utf8ByteSize (w₁'.idOf (P.base + r)) w₁'.depth)
        (Q := fun _ => Eq) (x := ()) (y := ()) rfl
      exact hrecord.andThen (hrecord.mirrors.whileActive hp left (.inr hmade)
        fun stack _ _ _ hready => A.runSource stack source hready)

theorem runWithBy (A : P.Answers True d d') {host : Host φ γ σ} {host' : Host φ γ σ'}
    (hhost : P.Hosts host host') {s : Services φ γ σ} {s' : Services φ γ σ'} (hs : P.Serves s s')
    (hm : P.Mirrors w w') (left : Script.Stack) {engine : Engine γ}
    (hengine : P.generator engine.generator) (source : String) :
    P.After w w' (fun n => Ends (Value.Pairs P n)) (runWithBy p host s d left engine source w)
      (ScriptHost.runWithBy p host' s' d' left engine source w') := by
  have hgenerated := hs.generateExports hhost hm hengine
  unfold ScriptHost.runWithBy
  exact hgenerated.andThen (runExportsBy hp A hgenerated.mirrors left engine.config
    hgenerated.result source)

theorem callWithBy (A : P.Answers True d d') {host : Host φ γ σ} {host' : Host φ γ σ'}
    (hhost : P.Hosts host host') {s : Services φ γ σ} {s' : Services φ γ σ'} (hs : P.Serves s s')
    (hm : P.Mirrors w w') (left : Script.Stack) {f f' : FunctionRef}
    {arguments arguments' : List (Value φ)} (hf : f.Pairs P w.realms.size f')
    (harguments : List.Forall₂ (Value.Pairs P w.realms.size) arguments arguments') :
    P.After w w' (fun n => Ends (Value.Pairs P n)) (callWithBy p host s d left f arguments w)
      (ScriptHost.callWithBy p host' s' d' left f' arguments' w') := by
  cases hf with
  | foreign backend =>
      have hperform := (hhost.act backend harguments w.depth w'.depth).perform hs
        (False.elim : False → P.Looks w w' none none) (hm.unchanged .empty) le_rfl
      simp only [ScriptHost.callWithBy]
      exact hperform.andThen (hperform.mirrors.unchanged
        (hhost.outcome hperform.result hperform.mirrors.memory))
  | @captured r hr o =>
      have hrecord := hm.recorded (.calling (w.idOf r) arguments.length)
        (.calling (w'.idOf (P.base + r)) arguments'.length) (Q := fun _ => Eq) (x := ()) (y := ())
        rfl
      simp only [ScriptHost.callWithBy]
      refine hrecord.andThen (hrecord.mirrors.whileActive hp left hr
        fun stack w₁ w₁' hrealms hready => A.callContext stack ?_ ?_ hready)
      · rw [hrealms]
        exact .captured hr o
      · rw [hrealms]
        exact harguments

theorem servesBy (A : P.Answers True d d') {host : Host φ γ σ} {host' : Host φ γ σ'}
    (hhost : P.Hosts host host') (left : Script.Stack) :
    P.Serves (servicesBy p host d left) (servicesBy p host' d' left) := by
  have hwithin (n : Nat) :
      P.Serves (servicesWithinBy p host d left n) (servicesWithinBy p host' d' left n) := by
    induction n with
    | zero =>
        exact ⟨fun hm _ _ => hm.unchanged (.error _), fun _ _ hm _ => hm.unchanged (.error _)⟩
    | succ n ih =>
        exact ⟨fun hm hf harguments => callWithBy hp A hhost ih hm left hf harguments,
          fun _ source hm hengine => runWithBy hp A hhost ih hm left hengine source⟩
  exact hwithin _

end Calls

/-! ## Host calls -/

/-- The callback in a slot is the same in realms that correspond. -/
theorem Serves.invoke {s : Services φ γ σ} {s' : Services φ γ σ'} (hs : P.Serves s s')
    {host : Host φ γ σ} {host' : Host φ γ σ'} (hhost : P.Hosts host host')
    (hw : P.Ready True w w' k) (slot : UInt32) {arguments arguments' : List (Value φ)}
    (harguments : List.Forall₂ (Value.Pairs P w.realms.size) arguments arguments') :
    P.After w w' (Completion.Pairs P) (w.invoke host s k slot arguments)
      (w'.invoke host' s' (P.base + k) slot arguments') := by
  have hslot : (w'.realm (P.base + k)).native? slot = (w.realm k).native? slot := by
    rw [hw.mirrors.realm (.inr hw.made)]
    rfl
  unfold World.invoke World.invokeProbed
  rw [hslot]
  cases hfound : (w.realm k).native? slot with
  | none => exact hw.mirrors.recorded _ _ (.thrown _)
  | some f =>
      have hcalled := hw.called
      have hf := hw.mirrors.native (Array.mem_of_getElem? hfound)
      have hi : Invocation.Pairs P w.realms.size ⟨k, arguments⟩ ⟨P.base + k, arguments'⟩ :=
        ⟨rfl, hcalled.has, harguments⟩
      exact (hhost.behave hf hi _ _).perform hs (fun _ => ⟨_, _, rfl, rfl, hi, hcalled⟩)
        (hw.mirrors.unchanged .empty) le_rfl

variable [Machine] [LawfulMachine]

theorem Answers.answerBy {d : Dispatcher φ σ} {d' : Dispatcher φ σ'} (A : P.Answers True d d')
    (hp : P.Follows p) {host : Host φ γ σ} {host' : Host φ γ σ'} (hhost : P.Hosts host host')
    (call : HostCall) (hw : P.Ready True w w' k) :
    P.After w w' (fun _ => Eq) (answerBy p host d k call w)
      (answerBy p host' d' (P.base + k) (call.rename P.rename) w') := by
  obtain ⟨l, m, m', hl, hl', hk, -⟩ := hw.active trivial
  -- the realm of the call is active itself, so the caller is found without a search
  have hcaller : w.callerBy? p k call.key.realm = some k := by
    unfold World.callerBy?
    rw [if_pos hp.direct, if_pos (hl ▸ List.mem_append_left m hk)]
  have hcaller' : w'.callerBy? p (P.base + k) (call.rename P.rename).key.realm =
      some (P.base + k) := by
    unfold World.callerBy?
    rw [if_pos hp.direct, if_pos (hl' ▸ List.mem_append_left m' (List.mem_map_of_mem hk))]
  unfold ScriptHost.answerBy answerWith
  beta_reduce
  rw [hcaller, hcaller']
  have hvalues := A.toValues call.stack call.arguments hw
  dsimp only [HostCall.rename]
  generalize Crossing.toValues ⟨d, k, k, call.stack⟩ call.arguments w = a at hvalues ⊢
  generalize Crossing.toValues ⟨d', _, _, call.stack⟩ call.arguments w' = b at hvalues ⊢
  have hready := hw.after hvalues
  obtain ⟨w₁, x⟩ := a
  obtain ⟨w₁', x'⟩ := b
  refine hvalues.andThen ?_
  cases hvalues.result with
  | error e => exact hready.mirrors.unchanged rfl
  | ok harguments =>
      have hinvoke := (servesBy hp A hhost call.stack).invoke hhost hready call.key.slot harguments
      exact hinvoke.andThen (A.reply call.stack hinvoke.result (hready.after hinvoke))

/-- Host calls are answered alike at every nesting. -/
theorem dispatcherBy_answers (hp : P.Follows p) {host : Host φ γ σ} {host' : Host φ γ σ'}
    (hhost : P.Hosts host host') (n : Nat) :
    P.Answers True (dispatcherBy p host n) (dispatcherBy p host' n) := by
  induction n with
  | zero => exact fun hw _ => hw.mirrors.unchanged rfl
  | succ n ih => exact fun hw call => ih.answerBy hp hhost call hw

end Pairing

end ScriptHost
