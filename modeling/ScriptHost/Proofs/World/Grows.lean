import ScriptHost.Proofs.Callback.Probe

/-!
# Worlds only grow

Realms are never removed; a realm keeps its identifier, its backend and its stack, and
its table of host functions is only added to at its end.  Records are only added too.
This needs nothing of the host: it holds whatever callbacks do, guards included.

The identifiers of realms are handed out one after the other, so those of fewer than
`2 ^ 32` realms are different.
-/

namespace ScriptHost

variable {φ γ σ : Type}

/-! ## Identifiers -/

/-- Realms are numbered in the order of their creation, from one on. -/
structure World.Numbered (w : World φ σ) : Prop where
  next : w.nextRealm = UInt32.ofNat (w.realms.size + 1)
  id (r : RealmRef) : r < w.realms.size → w.idOf r = UInt32.ofNat (r + 1)

/-- Fewer than `2 ^ 32` numbers from one on stay different, and none becomes zero. -/
private theorem toNat_ofNat_succ {n bound : Nat} (hbound : bound < 2 ^ 32) (hn : n < bound) :
    (UInt32.ofNat (n + 1)).toNat = n + 1 := by
  rw [UInt32.toNat_ofNat']
  exact Nat.mod_eq_of_lt (by omega)

namespace World.Numbered

variable {w : World φ σ}

theorem start (host : σ) : (World.start host : World φ σ).Numbered :=
  ⟨rfl, fun _ hr => absurd hr (Nat.not_lt_zero _)⟩

theorem addRealm (hn : w.Numbered) (backend : String) (state : RealmState) (stack : Script.Stack) :
    (w.addRealm backend state stack).2.Numbered := by
  refine ⟨?_, fun r hr => ?_⟩
  · change w.nextRealm + 1 = _
    rw [hn.next, w.size_addRealm, ← UInt32.ofNat_one, ← UInt32.ofNat_add]
  · unfold World.idOf
    rw [w.realm_addRealm]
    split
    · rename_i hlast
      rw [hlast]
      exact hn.next
    · rw [w.size_addRealm] at hr
      exact hn.id r (Nat.lt_of_le_of_ne (Nat.le_of_lt_succ hr) ‹_›)

/-- Among fewer than `2 ^ 32` realms an identifier belongs to one. -/
theorem id_inj (hn : w.Numbered) (hfew : w.realms.size < 2 ^ 32) {r s : RealmRef}
    (hr : r < w.realms.size) (hs : s < w.realms.size) (heq : w.idOf r = w.idOf s) : r = s := by
  rw [hn.id r hr, hn.id s hs] at heq
  have hnat := congrArg UInt32.toNat heq
  rw [toNat_ofNat_succ hfew hr, toNat_ofNat_succ hfew hs] at hnat
  exact Nat.succ.inj hnat

/-- Among fewer than `2 ^ 32` realms none has the identifier zero. -/
theorem id_ne_zero (hn : w.Numbered) (hfew : w.realms.size < 2 ^ 32) {r : RealmRef}
    (hr : r < w.realms.size) : w.idOf r ≠ 0 := by
  intro heq
  rw [hn.id r hr] at heq
  have hnat := congrArg UInt32.toNat heq
  rw [toNat_ofNat_succ hfew hr] at hnat
  exact Nat.succ_ne_zero r hnat

/-- A realm that was never made has the identifier zero, so an identifier that belongs to a
realm belongs to no other reference either. -/
theorem eq_of_idOf (hn : w.Numbered) (hfew : w.realms.size < 2 ^ 32) {r s : RealmRef}
    (hr : r < w.realms.size) (heq : w.idOf s = w.idOf r) : s = r := by
  rcases Nat.lt_or_ge s w.realms.size with hs | hs
  · exact hn.id_inj hfew hs hr heq
  · refine absurd ?_ (hn.id_ne_zero hfew hr)
    rw [← heq, World.idOf, w.realm_of_size_le hs]
    rfl

end World.Numbered

/-! ## The order -/

/-- What is there stays there. -/
structure Grows (w w' : World φ σ) : Prop where
  size_le : w.realms.size ≤ w'.realms.size
  id_eq (r : RealmRef) : r < w.realms.size → w'.idOf r = w.idOf r
  stack_eq (r : RealmRef) : r < w.realms.size → (w'.realm r).stack = (w.realm r).stack
  isScript (r : RealmRef) : (w.realm r).isScript = true → (w'.realm r).isScript = true
  natives (r : RealmRef) : (w.realm r).natives.toList <+: (w'.realm r).natives.toList
  log : w.log <:+ w'.log
  numbered : w.Numbered → w'.Numbered

namespace Grows

variable {w w' w'' : World φ σ}

theorem refl (w : World φ σ) : Grows w w :=
  ⟨Nat.le_refl _, fun _ _ => rfl, fun _ _ => rfl, fun _ => id, fun _ => List.prefix_rfl,
    List.suffix_rfl, id⟩

theorem trans (h : Grows w w') (h' : Grows w' w'') : Grows w w'' where
  size_le := Nat.le_trans h.size_le h'.size_le
  id_eq r hr := (h'.id_eq r (Nat.lt_of_lt_of_le hr h.size_le)).trans (h.id_eq r hr)
  stack_eq r hr := (h'.stack_eq r (Nat.lt_of_lt_of_le hr h.size_le)).trans (h.stack_eq r hr)
  isScript r hr := h'.isScript r (h.isScript r hr)
  natives r := (h.natives r).trans (h'.natives r)
  log := h.log.trans h'.log
  numbered hn := h'.numbered (h.numbered hn)

/-- Nothing but the stacks, the records and the host changes. -/
theorem of_realms_eq (hrealms : w'.realms = w.realms) (hnext : w'.nextRealm = w.nextRealm)
    (hlog : w.log <:+ w'.log) : Grows w w' := by
  have hrealm (r : RealmRef) : w'.realm r = w.realm r := by simp only [World.realm, hrealms]
  have hid (r : RealmRef) : w'.idOf r = w.idOf r := by simp only [World.idOf, hrealm]
  refine ⟨Nat.le_of_eq (by rw [hrealms]), fun r _ => hid r, fun r _ => by rw [hrealm],
    fun r hr => by rwa [hrealm], fun r => (hrealm r).symm ▸ List.prefix_rfl, hlog,
    fun hn => ⟨by rw [hnext, hrealms]; exact hn.next, fun r hr => ?_⟩⟩
  rw [hrealms] at hr
  exact (hid r).trans (hn.id r hr)

/-- A change of one realm that keeps what it is and adds to its table. -/
theorem modifyRealm (w : World φ σ) (r : RealmRef) {f : Realm φ → Realm φ}
    (hid : ∀ x, (f x).id = x.id) (hstack : ∀ x, (f x).stack = x.stack)
    (hscript : ∀ x, x.isScript = true → (f x).isScript = true)
    (hnatives : ∀ x, x.natives.toList <+: (f x).natives.toList) :
    Grows w (w.modifyRealm r f) where
  size_le := Nat.le_of_eq (w.size_modifyRealm r f).symm
  id_eq s _ := w.realm_modifyRealm_congr Realm.id r s hid
  stack_eq s _ := w.realm_modifyRealm_congr Realm.stack r s hstack
  isScript s hs := by
    rw [w.realm_modifyRealm]
    split
    · exact hscript _ hs
    · exact hs
  natives s := by
    rw [w.realm_modifyRealm]
    split
    · exact hnatives _
    · exact List.prefix_rfl
  log := List.suffix_rfl
  numbered hn := by
    refine ⟨?_, fun s hs => ?_⟩
    · rw [w.size_modifyRealm]
      exact hn.next
    · rw [w.size_modifyRealm] at hs
      exact (w.realm_modifyRealm_congr Realm.id r s hid).trans (hn.id s hs)

theorem setHeap (w : World φ σ) (r : RealmRef) (h : Script.Heap) : Grows w (w.setHeap r h) :=
  modifyRealm w r (fun _ => rfl) (fun _ => rfl) (fun _ _ => rfl) fun _ => List.prefix_rfl

theorem register (w : World φ σ) (r : RealmRef) (f : φ) : Grows w (w.register r f).2 :=
  modifyRealm w r (fun _ => rfl) (fun _ => rfl) (fun _ => id) fun x => by
    simp only [Realm.register, Array.toList_push]
    exact List.prefix_append _ _

theorem addRealm (w : World φ σ) (backend : String) (state : RealmState) (stack : Script.Stack) :
    Grows w (w.addRealm backend state stack).2 := by
  have hold (r : RealmRef) (hr : r < w.realms.size) :
      (w.addRealm backend state stack).2.realm r = w.realm r := by
    rw [w.realm_addRealm, if_neg (Nat.ne_of_lt hr)]
  have hnew (r : RealmRef) (hr : w.realms.size ≤ r) : w.realm r = default :=
    w.realm_of_size_le hr
  refine ⟨?_, fun r hr => ?_, fun r hr => ?_, fun r hr => ?_, fun r => ?_, List.suffix_rfl,
    fun hn => hn.addRealm backend state stack⟩
  · rw [w.size_addRealm]
    exact Nat.le_succ _
  · unfold World.idOf
    rw [hold r hr]
  · rw [hold r hr]
  · rw [hold r (w.lt_size_of_isScript hr)]
    exact hr
  · rcases Nat.lt_or_ge r w.realms.size with hr | hr
    · exact (hold r hr).symm ▸ List.prefix_rfl
    · rw [hnew r hr]
      exact List.nil_prefix

theorem frame : Frame (Grows (φ := φ) (σ := σ)) where
  refl := refl
  trans := trans
  setHeap := setHeap
  register := register
  record w e := of_realms_eq rfl rfl (List.suffix_cons e w.log)
  host _ _ _ := of_realms_eq rfl rfl List.suffix_rfl
  addRealm := addRealm
  active {w w'} r h := by
    have henter : Grows w (w.enter r).2 := of_realms_eq rfl rfl List.suffix_rfl
    have hleave : Grows w' (w'.leave (w.enter r).1) := of_realms_eq rfl rfl List.suffix_rfl
    exact (henter.trans h).trans hleave
  live {w w'} r h := by
    have hpush : Grows w { w with live := r :: w.live } := of_realms_eq rfl rfl List.suffix_rfl
    have hpop : Grows w' { w' with live := w'.live.tail } :=
      of_realms_eq rfl rfl List.suffix_rfl
    exact (hpush.trans h).trans hpop

/-- The callback in a slot stays there. -/
theorem native? (h : Grows w w') {r : RealmRef} {slot : UInt32} {f : φ}
    (hf : (w.realm r).native? slot = some f) : (w'.realm r).native? slot = some f := by
  simp only [Realm.native?, ← Array.getElem?_toList] at hf ⊢
  obtain ⟨hlt, rfl⟩ := List.getElem?_eq_some_iff.mp hf
  exact (List.prefix_iff_getElem?.mp (h.natives r)) _ hlt

end Grows

/-! ## Whatever the host does -/

/-- Calls and runs take nothing away. -/
abbrev Services.Grow (s : Services φ γ σ) : Prop := s.Keep Grows

/-- Whatever steps a callback takes, nothing is taken away. -/
theorem Body.perform_grows {s : Services φ γ σ} (hs : s.Grow) (i : Option (Invocation φ))
    (b : Body φ γ σ) (r : Recorded φ) (w : World φ σ) :
    Grows w (b.perform s i r w).1 :=
  b.perform_bound Grows.frame (fun _ _ => .of_realms_eq rfl rfl List.suffix_rfl) hs i r w

theorem invoke_grows (host : Host φ γ σ) {s : Services φ γ σ} (hs : s.Grow) (r : RealmRef)
    (slot : UInt32) (arguments : List (Value φ)) (w : World φ σ) :
    Grows w (w.invoke host s r slot arguments).1 := by
  unfold World.invoke World.invokeProbed
  cases (w.realm r).native? slot with
  | none => exact Grows.frame.record w _
  | some f => exact Body.perform_grows hs _ _ _ w

/-- Whatever a host does, nothing is taken away. -/
theorem Host.settled_grows (host : Host φ γ σ) : host.Settled (fun _ => True) Grows :=
  Host.settled fun hs i b _ r w => b.perform_grows hs i r w

section Machines

variable [Machine] [LawfulMachine]

theorem services_grow (host : Host φ γ σ) {d : Dispatcher φ σ}
    (h : ∀ context call (w : World φ σ), Grows w (d context call w).1) (left : Script.Stack) :
    (services host d left).Grow :=
  ((Comparison.self Grows.frame h).services .trivial host.settled_grows left).keep

theorem answer_grows (host : Host φ γ σ) {d : Dispatcher φ σ}
    (h : ∀ context call (w : World φ σ), Grows w (d context call w).1) (context : RealmRef)
    (call : Script.HostCall) (w : World φ σ) : Grows w (answer host d context call w).1 := by
  have hanswer : Settles Grows w (answer host d context call w)
      (answerProbed id host d context call w) :=
    (Comparison.self Grows.frame h).answer (fun left f i w _ =>
      ⟨rfl, Body.perform_grows (services_grow host h left) _ _ _ w⟩) context call ⟨⟩
  exact hanswer.bound

/-- The world in which the arguments have been converted lies before the one of the answer. -/
theorem toValues_grows_answer (host : Host φ γ σ) {d : Dispatcher φ σ}
    (h : ∀ context call (w : World φ σ), Grows w (d context call w).1) (context : RealmRef)
    (call : Script.HostCall) {w : World φ σ} {r : RealmRef}
    (hr : w.findActive? call.key.realm = some r) :
    Grows (Crossing.toValues ⟨d, context, r, call.stack⟩ call.arguments w).1
      (answer host d context call w).1 := by
  unfold answer answerProbed answerWith
  dsimp only
  rw [hr]
  dsimp only
  generalize Crossing.toValues ⟨d, context, r, call.stack⟩ call.arguments w = a
  obtain ⟨w', e | arguments⟩ := a
  · exact .refl w'
  · exact (invoke_grows host (services_grow host h call.stack) r call.key.slot arguments w').trans
      ((Comparison.self Grows.frame h).reply (c := ⟨d, context, r, call.stack⟩) _ ⟨⟩).bound

/-- Host calls take nothing away, however deep they nest. -/
theorem dispatcher_grows (host : Host φ γ σ) (n : Nat) (context : RealmRef)
    (call : Script.HostCall) (w : World φ σ) : Grows w (dispatcher host n context call w).1 := by
  induction n generalizing context call w with
  | zero => exact .refl w
  | succ n ih => exact answer_grows host ih context call w

/-- A dispatcher at some depth of nesting, compared with itself. -/
theorem Grows.comparison (host : Host φ γ σ) (n : Nat) :
    Comparison (fun _ => True) Grows (dispatcher host n) (dispatcher host n) :=
  .self Grows.frame (dispatcher_grows host n)

end Machines

end ScriptHost
