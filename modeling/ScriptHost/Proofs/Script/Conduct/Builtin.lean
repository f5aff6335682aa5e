import ScriptHost.Proofs.Script.Conduct.Pattern
import ScriptHost.Script.Call

/-!
# Built-in functions and calls conduct themselves

The functions that every realm has read and define properties, convert values, make objects
of other kinds than host functions, and call what they are given.  What a description of a
property says is sound, since it is read from an object.  What is called decides what a call
does, and a host function is called with the key that its object keeps.
-/

namespace ScriptHost.Script

variable {R : RefRule} {h : Heap} {α : Type} {P : Post α} {ev : Evaluator}

/-! ## Arguments -/

theorem argument_sound {vs : List Val} {n : Nat} (hvs : ∀ v ∈ vs, v.Sound R n) (i : Nat) :
    (argument vs i).Sound R n := by
  unfold argument
  rw [List.getD_eq_getElem?_getD]
  cases hi : vs[i]? with
  | none => trivial
  | some v => exact hvs v (List.mem_of_getElem? hi)

theorem sound_tail {vs : List Val} {n : Nat} (hvs : ∀ v ∈ vs, v.Sound R n) :
    ∀ v ∈ vs.tail, v.Sound R n :=
  fun v hv => hvs v (List.mem_of_mem_tail hv)

/-! ## Objects -/

theorem toObject_conducts {v : Val} (hv : v.Sound R h.size) :
    Action.Conducts R h (.val R) (toObject v) := by
  have hboxed {v : Val} (hv : v.Sound R h.size) (hplace : ∀ r, v ≠ .object r) :
      Action.Conducts R h (.val R)
        (newObject (.boxed v) ((prototypeOf? v).getD Place.objectPrototype) []) := by
    refine newObject_conducts (fun k hk => by cases hk) hv (place_allowed ?_)
      fun e he => absurd he List.not_mem_nil
    cases v with
    | object r => exact absurd rfl (hplace r)
    | _ => exact Nat.le_of_ble_eq_true rfl
  cases v with
  | object r => exact .pure hv
  | undefined => exact raiseError_conducts _ _
  | null => exact raiseError_conducts _ _
  | string s =>
      refine newObject_conducts (fun k hk => by cases hk) hv (place_allowed (by decide))
        fun e he => ?_
      rcases List.mem_append.mp he with he | he
      · obtain ⟨⟨u, i⟩, -, rfl⟩ := List.mem_map.mp he
        trivial
      · rw [List.mem_singleton.mp he]
        exact Val.sound_ofNat _
  | bool b => exact hboxed hv fun r hr => by cases hr
  | int n => exact hboxed hv fun r hr => by cases hr
  | float x => exact hboxed hv fun r hr => by cases hr
  | symbol id => exact hboxed hv fun r hr => by cases hr
  | bigint n => exact hboxed hv fun r hr => by cases hr

theorem objectKeys_conducts {v : Val} (hv : v.Sound R h.size) :
    Action.Conducts R h (.val R) (objectKeys v) := by
  refine (toObject_conducts hv).bind fun _ o _ _ _ => ?_
  split
  · refine .read_bind fun _ _ _ => newArray_conducts fun x hx => ?_
    obtain ⟨s, -, rfl⟩ := List.mem_map.mp hx
    exact Val.sound_of_isObject rfl
  · exact newArray_conducts fun x hx => absurd hx List.not_mem_nil

theorem Property.frozen_sound {p : Property} {n : Nat} (hp : p.Sound R n) :
    p.frozen.Sound R n := by
  unfold Property.frozen
  unfold Property.Sound at hp
  split
  · rename_i v w hslot
    rw [hslot] at hp
    exact hp
  · rename_i g s hslot
    rw [hslot] at hp
    exact hp

theorem objectFreeze_conducts {v : Val} (hv : v.Sound R h.size) :
    Action.Conducts R h (.val R) (objectFreeze v) := by
  unfold objectFreeze
  split
  · refine Action.Conducts.bind (.modify _
      (fun o => (o.shape_mapProperties Property.frozen).kind) fun h' o _ _ ho => ?_)
      fun _ _ hl _ _ => .pure (hv.mono hl.size_le)
    have hmapped := ho.mapProperties (f := Property.frozen) fun _ => Property.frozen_sound
    exact ⟨hmapped.kind, hmapped.prototype, hmapped.held⟩
  · exact .pure hv

/-! ## Defining properties -/

/-- What a description brings into a property. -/
structure Description.Sound (R : RefRule) (n : Nat) (d : Description) : Prop where
  value : ∀ v ∈ d.value, v.Sound R n
  getter : ∀ v ∈ d.getter, v.Sound R n
  setter : ∀ v ∈ d.setter, v.Sound R n

def Post.description (R : RefRule) : Post Description where
  Holds := Description.Sound R
  mono hnm hd := ⟨fun v hv => (hd.value v hv).mono hnm, fun v hv => (hd.getter v hv).mono hnm,
    fun v hv => (hd.setter v hv).mono hnm⟩

theorem Val.sound_getD {o : Option Val} {v : Val} {n : Nat} (ho : ∀ x ∈ o, x.Sound R n)
    (hv : v.Sound R n) : (o.getD v).Sound R n := by
  cases o with
  | none => exact hv
  | some x => exact ho x rfl

theorem described_conducts (hev : ev.Conducts R) {d : Val} (hd : d.Sound R h.size)
    (name : String) : Action.Conducts R h (.option (.val R)) (described ev d name) := by
  unfold described
  split
  · refine .read_bind fun h₁ hl₁ _ => .ite (fun _ => ?_) fun _ => .pure fun _ hv => ?_
    · refine (getProperty_conducts hev (hd.mono hl₁.size_le) _).bind fun _ v _ _ hv => .pure ?_
      exact fun x hx => by cases hx; exact hv
    · exact absurd hv (Option.not_mem_none _)
  · exact .pure fun _ hv => absurd hv (Option.not_mem_none _)

theorem describedFunction_conducts (hev : ev.Conducts R) {d : Val} (hd : d.Sound R h.size)
    (name complaint : String) :
    Action.Conducts R h (.option (.val R)) (describedFunction ev d name complaint) := by
  refine Action.Conducts.bind ((described_conducts hev hd name).recover fun _ _ _ _ _ =>
    raiseError_conducts _ _) fun h₁ f hl₁ _ hf => .read_bind fun h₂ hl₂ _ => ?_
  exact .ite (fun _ => raiseError_conducts _ _) fun _ => .pure (Post.mono _ hl₂.size_le hf)

theorem readDescription_conducts (hev : ev.Conducts R) {d : Val} (hd : d.Sound R h.size) :
    Action.Conducts R h (.description R) (readDescription ev d) := by
  unfold readDescription
  split
  · have hd' {h' : Heap} (hl : h.Later h') : Val.Sound R h'.size _ := hd.mono hl.size_le
    refine (described_conducts hev hd _).bind fun h₁ e hl₁ _ _ => ?_
    refine (described_conducts hev (hd' hl₁) _).bind fun h₂ c hl₂ _ _ => ?_
    have hl₂ := hl₁.trans hl₂
    refine (described_conducts hev (hd' hl₂) _).bind fun h₃ v hl₃ _ hv => ?_
    have hl₃' := hl₂.trans hl₃
    refine (described_conducts hev (hd' hl₃') _).bind fun h₄ w hl₄ _ _ => ?_
    have hl₄' := hl₃'.trans hl₄
    refine (describedFunction_conducts hev (hd' hl₄') _ _).bind fun h₅ g hl₅ _ hg => ?_
    refine (describedFunction_conducts hev (hd' (hl₄'.trans hl₅)) _ _).bind
      fun h₆ s hl₆ _ hs => ?_
    refine .ite (fun _ => raiseError_conducts _ _) fun _ => .pure ⟨?_, ?_, hs⟩
    · exact fun x hx => (hv x hx).mono ((hl₄.trans hl₅).trans hl₆).size_le
    · exact fun x hx => (hg x hx).mono hl₆.size_le
  · exact raiseError_conducts _ _

namespace Description

variable {d : Description} {n : Nat}

theorem Sound.slot (hd : d.Sound R n) : d.slot.Sound R n := by
  unfold Description.slot
  split
  · exact ⟨Val.sound_getD hd.getter trivial, Val.sound_getD hd.setter trivial⟩
  · exact Val.sound_getD hd.value trivial

theorem Sound.merge (hd : d.Sound R n) {s : Slot} (hs : s.Sound R n) :
    (d.merge s).Sound R n := by
  unfold Description.merge
  split
  · split
    · exact hd.slot
    · exact Val.sound_getD hd.value hs
  · split
    · exact hd.slot
    · exact ⟨Val.sound_getD hd.getter hs.1, Val.sound_getD hd.setter hs.2⟩

end Description

theorem defineLength_conducts (hev : ev.Conducts R) (r : ObjectRef) (p : Property)
    {d : Description} (hd : d.Sound R h.size) :
    Action.Conducts R h .any (defineLength ev r p d) := by
  unfold defineLength
  extract_lets -underBinder assign
  have hassign (h₁ : Heap) (n : Option Nat) : Action.Conducts R h₁ .any (assign n) := by
    refine .ite (fun _ => ?_) fun _ => raiseError_conducts _ _
    extract_lets -underBinder finish
    have hfinish (h₂ : Heap) (o : Outcome Unit) (ho : (Post.outcome R .any).Holds h₂.size o) :
        Action.Conducts R h₂ .any (finish o) := by
      refine .ite (fun _ => ?_) fun _ => .ofOutcome ho
      refine Action.Conducts.bind (.modify r (fun o => (o.shape_put _ _).kind)
        fun _ _ _ _ hobject => hobject.put _ (Val.sound_ofNat _)) fun h₃ _ hl₃ _ _ => ?_
      exact .ofOutcome (Post.mono _ hl₃.size_le ho)
    split
    · exact (assignLength_conducts hev r (Val.sound_ofNat _)).outcome.bind
        fun h₂ o _ _ ho => hfinish h₂ o ho
    · exact Action.Conducts.bind (P := .outcome R .any) (.pure trivial)
        fun h₂ o _ _ ho => hfinish h₂ o ho
  split
  · refine (toArrayLength_conducts hev (hd.value _ ‹_›)).bind fun h₁ n _ _ _ => ?_
    exact Action.Conducts.bind (P := .any) (.pure trivial) fun h₂ n _ _ _ => hassign h₂ n
  · exact Action.Conducts.bind (P := .any) (.pure trivial) fun h₂ n _ _ _ => hassign h₂ n

theorem defineNew_conducts (r : ObjectRef) (k : Key) {d : Description}
    (hd : d.Sound R h.size) : Action.Conducts R h .any (defineNew r k d) := by
  refine .read_bind fun h₁ hl₁ _ => .read_bind fun h₂ hl₂ _ => ?_
  refine .ite (fun _ => raiseError_conducts _ _) fun _ => ?_
  refine .ite (fun _ => raiseError_conducts _ _) fun _ => ?_
  refine .modify r (fun o => (o.shape_define k _).kind) fun h' o hl _ ho => ho.define k ?_
  exact Slot.Sound.mono hd.slot ((hl₁.trans hl₂).trans hl).size_le

theorem objectDefineProperty_conducts (hev : ev.Conducts R) {v k d : Val}
    (hv : v.Sound R h.size) (hk : k.Sound R h.size) (hd : d.Sound R h.size) :
    Action.Conducts R h (.val R) (objectDefineProperty ev v k d) := by
  unfold objectDefineProperty
  split
  · rename_i r
    refine (toKey_conducts hev hk).bind fun h₁ k hl₁ _ _ => ?_
    refine (readDescription_conducts hev (hd.mono hl₁.size_le)).bind fun h₂ d hl₂ _ hd => ?_
    refine .read_bind fun h₃ hl₃ hs₃ => .read_bind fun h₄ hl₄ _ => ?_
    have hd₄ : d.Sound R h₄.size := Post.mono (.description R) (hl₃.trans hl₄).size_le hd
    have hl := ((hl₁.trans hl₂).trans hl₃).trans hl₄
    have hanswer {h' : Heap} (hl' : h₄.Later h') : Val.Sound R h'.size (.object r) :=
      hv.mono (hl.trans hl').size_le
    split
    · exact (defineNew_conducts r k hd₄).bind fun _ _ hl' _ _ => .pure (hanswer hl')
    · rename_i p hp
      have hp : p.Sound R h₄.size := ((hs₃.objects r).own? hp).mono hl₄.size_le
      refine .ite (fun _ => ?_) fun _ => .ite (fun _ => ?_) fun _ => raiseError_conducts _ _
      · exact (defineLength_conducts hev r p hd₄).bind fun _ _ hl' _ _ => .pure (hanswer hl')
      · refine Action.Conducts.bind (.modify r (fun o => (o.shape_define k _).kind)
          fun h' o hl' _ ho => ho.define k ?_) fun _ _ hl' _ _ => .pure (hanswer hl')
        exact Slot.Sound.mono (hd₄.merge hp) hl'.size_le
  · exact raiseError_conducts _ _

/-! ## Prototypes -/

private theorem prototypeOrElse_conducts (hs : h.Sound R) {v : Val} (hv : v.Sound R h.size)
    {missing : Action Val} (hmissing : Action.Conducts R h (.val R) missing) :
    Action.Conducts R h (.val R)
      (match prototypeOf? v with
        | some p => pure (.object p)
        | none => missing) := by
  split
  · exact .pure (prototypeOf?_allowed hs hv ‹_›)
  · exact hmissing

theorem prototypeValue_conducts {v : Val} (hv : v.Sound R h.size) {missing : Action Val}
    (hmissing : Action.Conducts R h (.val R) missing) :
    Action.Conducts R h (.val R) (prototypeValue v missing) := by
  refine .here fun h₁ hl₁ hs₁ => ?_
  cases v with
  | object r =>
      refine .read fun h₂ _ hs₂ => ?_
      split
      · exact (hs₂.objects r).prototype _ ‹_›
      · trivial
  | _ => exact prototypeOrElse_conducts hs₁ (hv.mono hl₁.size_le) (hmissing.later hl₁)

theorem setPrototype_conducts (r : ObjectRef) {p : Option ObjectRef}
    (hp : ∀ q ∈ p, R.Allows h.size q) : Action.Conducts R h .any (setPrototype r p) := by
  refine .read_bind fun h₁ hl₁ _ => .read_bind fun h₂ hl₂ _ => ?_
  refine .ite (fun _ => .pure trivial) fun _ => .ite (fun _ => raiseError_conducts _ _) fun _ => ?_
  refine .ite (fun _ => raiseError_conducts _ _) fun _ => ?_
  refine .ite (fun _ => raiseError_conducts _ _) fun _ => ?_
  refine .modify r (fun _ => rfl) fun h' o hl _ ho => ⟨ho.kind, fun q hq => ?_, ho.held⟩
  exact R.mono ((hl₁.trans hl₂).trans hl).size_le (hp q hq)

theorem prototypeArgument?_allowed {v : Val} (hv : v.Sound R h.size) {p : Option ObjectRef}
    (hp : prototypeArgument? v = some p) : ∀ q ∈ p, R.Allows h.size q := by
  intro q hq
  cases v with
  | object r =>
      cases hp
      cases hq
      exact hv
  | null =>
      cases hp
      cases hq
  | _ => cases hp

theorem assignPrototype_conducts (target : Val) {v : Val} (hv : v.Sound R h.size) :
    Action.Conducts R h (.val R) (assignPrototype target v) := by
  unfold assignPrototype
  split
  · exact raiseError_conducts _ _
  · exact raiseError_conducts _ _
  · exact (setPrototype_conducts _ (prototypeArgument?_allowed hv ‹_›)).bind
      fun _ _ _ _ _ => .pure trivial
  · exact .pure trivial

theorem objectCreate_conducts {p : Val} (hp : p.Sound R h.size) :
    Action.Conducts R h (.val R) (objectCreate p) := by
  unfold objectCreate
  split
  · refine .allocate (fun k hk => by cases hk) ?_
    exact Object.sound_make trivial (prototypeArgument?_allowed hp ‹_›)
      fun e he => absurd he List.not_mem_nil
  · exact raiseError_conducts _ _

theorem objectHasOwnProperty_conducts (hev : ev.Conducts R) {receiver k : Val}
    (hreceiver : receiver.Sound R h.size) (hk : k.Sound R h.size) :
    Action.Conducts R h (.val R) (objectHasOwnProperty ev receiver k) := by
  refine (toKey_conducts hev hk).bind fun _ _ hl _ _ => ?_
  refine (toObject_conducts (hreceiver.mono hl.size_le)).bind fun _ o _ _ _ => ?_
  split
  · exact .read fun _ _ _ => trivial
  · exact .pure trivial

theorem objectToString_conducts (hev : ev.Conducts R) {receiver : Val}
    (hreceiver : receiver.Sound R h.size) :
    Action.Conducts R h (.val R) (objectToString ev receiver) := by
  unfold objectToString
  split
  · exact .pure trivial
  · exact .pure trivial
  · refine (toObject_conducts hreceiver).bind fun h₁ o _ _ ho => .read_bind fun h₂ hl₂ _ => ?_
    exact (getProperty_conducts hev (ho.mono hl₂.size_le) _).bind fun _ _ _ _ _ => .pure trivial

/-! ## Functions -/

theorem listValues_conducts (hev : ev.Conducts R) {v : Val} (hv : v.Sound R h.size) :
    Action.Conducts R h (.list (.val R)) (listValues ev v) := by
  unfold listValues
  split
  · exact .pure fun _ hx => absurd hx List.not_mem_nil
  · exact .pure fun _ hx => absurd hx List.not_mem_nil
  · refine (getProperty_conducts hev hv _).bind fun h₁ n hl₁ _ hn => ?_
    refine (toDouble_conducts hev hn).bind fun h₂ n hl₂ _ _ => ?_
    refine .ite (fun _ => raiseError_conducts _ _) fun _ => .each fun h₃ i _ hl₃ _ => ?_
    exact getProperty_conducts hev (hv.mono ((hl₁.trans hl₂).trans hl₃).size_le) _
  · exact raiseError_conducts _ _

theorem bindFunction_conducts (hev : ev.Conducts R) {f : Val} {vs : List Val}
    (hf : f.Sound R h.size) (hvs : ∀ v ∈ vs, v.Sound R h.size) :
    Action.Conducts R h (.val R) (bindFunction ev f vs) := by
  refine .read_bind fun h₁ hl₁ _ => ?_
  split
  · rename_i c r hc
    refine (getProperty_conducts hev (hf.mono hl₁.size_le) _).bind fun h₂ n hl₂ _ _ => ?_
    have hl₂ := hl₁.trans hl₂
    refine (getProperty_conducts hev (hf.mono hl₂.size_le) _).bind fun h₃ name hl₃ _ _ => ?_
    have hle := (hl₂.trans hl₃).size_le
    refine newObject_conducts (fun k hk => by cases hk) ⟨R.mono hle hf, ?_, ?_⟩
      (place_allowed (by decide)) (functionProperties_sound _ _)
    · exact (argument_sound hvs 0).mono hle
    · exact fun v hv => (sound_tail hvs v hv).mono hle
  · exact raiseError_conducts _ _

theorem functionToString_conducts (hev : ev.Conducts R) {f : Val} (hf : f.Sound R h.size) :
    Action.Conducts R h (.val R) (functionToString ev f) := by
  refine .read_bind fun h₁ hl₁ _ => ?_
  split
  · exact .pure trivial
  · refine (getProperty_conducts hev (hf.mono hl₁.size_le) _).bind fun h₂ name _ _ hname => ?_
    exact .default_bind (toUnits_conducts hev hname) fun _ _ _ => .pure trivial
  · exact raiseError_conducts _ _

/-! ## Texts -/

theorem receiverUnits_conducts (hev : ev.Conducts R) {v : Val} (hv : v.Sound R h.size) :
    Action.Conducts R h .any (receiverUnits ev v) := by
  unfold receiverUnits
  split
  · exact raiseError_conducts _ _
  · exact raiseError_conducts _ _
  · exact toUnits_conducts hev hv

theorem stringRepeat_conducts (hev : ev.Conducts R) {receiver n : Val}
    (hreceiver : receiver.Sound R h.size) (hn : n.Sound R h.size) :
    Action.Conducts R h (.val R) (stringRepeat ev receiver n) := by
  refine (receiverUnits_conducts hev hreceiver).bind fun _ s hl _ _ => ?_
  refine (toDouble_conducts hev (hn.mono hl.size_le)).bind fun _ x _ _ _ => ?_
  refine .ite (fun _ => raiseError_conducts _ _) fun _ => .ite (fun _ => .pure trivial) fun _ => ?_
  refine .ite (fun _ => raiseError_conducts _ _) fun _ => ?_
  exact (reserve_conducts _ _).bind fun _ _ _ _ _ => .pure trivial

theorem stringFromCharCode_conducts (hev : ev.Conducts R) {vs : List Val}
    (hvs : ∀ v ∈ vs, v.Sound R h.size) :
    Action.Conducts R h (.val R) (stringFromCharCode ev vs) := by
  refine (Action.Conducts.each (P := .any) fun h' v hv hl _ => ?_).bind
    fun _ _ _ _ _ => .pure trivial
  exact (toDouble_conducts hev ((hvs v hv).mono hl.size_le)).bind fun _ _ _ _ _ => .pure trivial

theorem methodOf_conducts (hev : ev.Conducts R) {v : Val} (hv : v.Sound R h.size)
    (symbol : Nat) : Action.Conducts R h (.val R) (methodOf ev v symbol) := by
  unfold methodOf
  split
  · exact .pure trivial
  · exact .pure trivial
  · refine (getProperty_conducts hev hv _).bind fun _ f _ _ hf => .pure ?_
    split
    · trivial
    · exact hf

theorem stringReplace_conducts (hev : ev.Conducts R) {receiver pattern replacement : Val}
    (hreceiver : receiver.Sound R h.size) (hpattern : pattern.Sound R h.size)
    (hreplacement : replacement.Sound R h.size) :
    Action.Conducts R h (.val R) (stringReplace ev receiver pattern replacement) := by
  refine .ite (fun _ => raiseError_conducts _ _) fun _ => ?_
  refine (methodOf_conducts hev hpattern _).bind fun h₁ f hl₁ _ hf => ?_
  have hreceiver := hreceiver.mono hl₁.size_le
  have hpattern := hpattern.mono hl₁.size_le
  have hreplacement := hreplacement.mono hl₁.size_le
  refine .ite (fun _ => hev.call hf hpattern fun v hv => ?_) fun _ => ?_
  · simp only [List.mem_cons, List.not_mem_nil, or_false] at hv
    rcases hv with rfl | rfl
    · exact hreceiver
    · exact hreplacement
  · refine (toUnits_conducts hev hreceiver).bind fun h₂ s hl₂ _ _ => ?_
    refine (toUnits_conducts hev (hpattern.mono hl₂.size_le)).bind fun h₃ p hl₃ _ _ => ?_
    have hl₃ := hl₂.trans hl₃
    refine .read_bind fun h₄ hl₄ _ => ?_
    have hl₄ := hl₃.trans hl₄
    refine .default_bind (toUnits_conducts hev (hreplacement.mono hl₄.size_le)) fun h₅ r hl₅ => ?_
    split
    · exact .pure trivial
    · refine .ite (fun _ => ?_) fun _ => .pure trivial
      refine Action.Conducts.bind (P := .val R) (hev.call
        (hreplacement.mono (hl₄.trans hl₅).size_le) trivial fun v hv => ?_)
        fun _ v _ _ hv => (toUnits_conducts hev hv).bind fun _ _ _ _ _ => .pure trivial
      simp only [List.mem_cons, List.not_mem_nil, or_false] at hv
      rcases hv with rfl | rfl | rfl
      · trivial
      · exact Val.sound_ofNat _
      · trivial

/-! ## Receivers that are primitive -/

theorem unboxed_conducts (accepts : Val → Bool) {receiver : Val}
    (hreceiver : receiver.Sound R h.size) (complaint : String) :
    Action.Conducts R h (.val R) (unboxed accepts receiver complaint) := by
  refine Action.Conducts.bind (P := .val R) (.read fun h' hl hs => ?_) fun _ v _ _ hv =>
    .ite (fun _ => .pure hv) fun _ => raiseError_conducts _ _
  have hle := hl.size_le
  split
  · rename_i r
    have hkind := (hs.objects r).kind
    split
    · rename_i v hboxed
      rw [hboxed] at hkind
      exact hkind
    · exact hreceiver.mono hle
  · exact hreceiver.mono hle

/-! ## Arrays -/

theorem lengthOf_conducts (hev : ev.Conducts R) {v : Val} (hv : v.Sound R h.size) :
    Action.Conducts R h .any (lengthOf ev v) :=
  (getProperty_conducts hev hv _).bind fun _ _ _ _ hn =>
    (toDouble_conducts hev hn).bind fun _ _ _ _ _ => .pure trivial

theorem elementText_conducts (hev : ev.Conducts R) {v : Val} (hv : v.Sound R h.size) :
    Action.Conducts R h .any (elementText ev v) := by
  unfold elementText
  split
  · exact .pure trivial
  · exact .pure trivial
  · exact toUnits_conducts hev hv

theorem arrayJoin_conducts (hev : ev.Conducts R) {receiver separator : Val}
    (hreceiver : receiver.Sound R h.size) (hseparator : separator.Sound R h.size) :
    Action.Conducts R h (.val R) (arrayJoin ev receiver separator) := by
  refine (toObject_conducts hreceiver).bind fun h₁ o hl₁ _ ho => ?_
  refine (lengthOf_conducts hev ho).bind fun h₂ n hl₂ _ _ => ?_
  refine .default_bind (toUnits_conducts hev (hseparator.mono (hl₁.trans hl₂).size_le))
    fun h₃ sep hl₃ => ?_
  refine (Action.Conducts.each (P := .any) fun h₄ i _ hl₄ _ => ?_).bind
    fun _ _ _ _ _ => newString_conducts _ _
  exact (getProperty_conducts hev (ho.mono ((hl₂.trans hl₃).trans hl₄).size_le) _).bind
    fun _ _ _ _ hv => elementText_conducts hev hv

theorem arrayPush_conducts (hev : ev.Conducts R) {receiver : Val} {vs : List Val}
    (hreceiver : receiver.Sound R h.size) (hvs : ∀ v ∈ vs, v.Sound R h.size) :
    Action.Conducts R h (.val R) (arrayPush ev receiver vs) := by
  refine (toObject_conducts hreceiver).bind fun h₁ o hl₁ _ ho => ?_
  refine (lengthOf_conducts hev ho).bind fun h₂ n hl₂ _ _ => ?_
  refine .ite (fun _ => raiseError_conducts _ _) fun _ => ?_
  refine (Action.Conducts.each (P := .any) fun h₃ e he hl₃ _ => ?_).bind fun h₄ _ hl₄ _ _ => ?_
  · obtain ⟨i, v⟩ := e
    have hv := hvs v (List.of_mem_zip he).2
    exact setProperty_conducts hev _ (ho.mono (hl₂.trans hl₃).size_le)
      (hv.mono ((hl₁.trans hl₂).trans hl₃).size_le)
  · exact (setProperty_conducts hev _ (ho.mono (hl₂.trans hl₄).size_le)
      (Val.sound_ofNat _)).bind fun _ _ _ _ _ => .pure (Val.sound_ofNat _)

theorem arrayOf_conducts {vs : List Val} (hvs : ∀ v ∈ vs, v.Sound R h.size) :
    Action.Conducts R h (.val R) (arrayOf vs) := by
  unfold arrayOf
  split
  · split
    · exact newArray_conducts hvs
    · split
      · refine .ite (fun _ => ?_) fun _ => raiseError_conducts _ _
        refine newObject_conducts (fun k hk => by cases hk) trivial (place_allowed (by decide))
          fun e he => ?_
        rw [List.mem_singleton.mp he]
        exact Val.sound_ofNat _
      · exact raiseError_conducts _ _
  · exact newArray_conducts hvs

theorem arrayToString_conducts (hev : ev.Conducts R) {receiver : Val}
    (hreceiver : receiver.Sound R h.size) :
    Action.Conducts R h (.val R) (arrayToString ev receiver) := by
  refine (getProperty_conducts hev hreceiver _).bind fun h₁ f hl₁ _ hf => ?_
  refine .read_bind fun h₂ hl₂ _ => ?_
  have hreceiver := hreceiver.mono (hl₁.trans hl₂).size_le
  refine .ite (fun _ => ?_) fun _ => objectToString_conducts hev hreceiver
  exact hev.call (hf.mono hl₂.size_le) hreceiver fun v hv => absurd hv List.not_mem_nil

/-! ## Numbers -/

theorem numberToString_conducts (hev : ev.Conducts R) {receiver radix : Val}
    (hreceiver : receiver.Sound R h.size) (hradix : radix.Sound R h.size) :
    Action.Conducts R h (.val R) (numberToString ev receiver radix) := by
  refine (unboxed_conducts _ hreceiver _).bind fun _ v hl _ _ => ?_
  refine .ite (fun _ => .pure trivial) fun _ => ?_
  refine (toDouble_conducts hev (hradix.mono hl.size_le)).bind fun _ _ _ _ _ => ?_
  refine .ite (fun _ => raiseError_conducts _ _) fun _ => .ite (fun _ => .pure trivial) fun _ => ?_
  split
  · exact .pure trivial
  · exact .ite (fun _ => raiseError_conducts _ _) fun _ => .pure trivial

theorem toDoubles_conducts (hev : ev.Conducts R) {vs : List Val}
    (hvs : ∀ v ∈ vs, v.Sound R h.size) :
    Action.Conducts R h .any (Action.each (toDouble ev) vs) :=
  (Action.Conducts.each fun _ v hv hl _ =>
    toDouble_conducts hev ((hvs v hv).mono hl.size_le)).weaken fun _ _ _ => trivial

theorem mathHypot_conducts (hev : ev.Conducts R) {vs : List Val}
    (hvs : ∀ v ∈ vs, v.Sound R h.size) : Action.Conducts R h (.val R) (mathHypot ev vs) := by
  refine (toDoubles_conducts hev hvs).bind fun _ xs _ _ _ => .pure ?_
  cases xs <;> trivial

theorem mathExtreme_conducts (hev : ev.Conducts R) (largest : Bool) {vs : List Val}
    (hvs : ∀ v ∈ vs, v.Sound R h.size) :
    Action.Conducts R h (.val R) (mathExtreme ev largest vs) := by
  refine (toDoubles_conducts hev hvs).bind fun _ xs _ _ _ => .pure ?_
  cases xs with
  | nil => trivial
  | cons x rest => exact Val.sound_ofNumber _

/-! ## Symbols and errors -/

theorem symbolDescription_conducts (v : Val) :
    Action.Conducts R h .any (symbolDescription v) := by
  unfold symbolDescription
  split
  · exact .read fun _ _ _ => trivial
  · exact .pure trivial

theorem symbolToString_conducts (v : Val) : Action.Conducts R h (.val R) (symbolToString v) :=
  (symbolDescription_conducts v).bind fun _ _ _ _ _ => .pure trivial

theorem newSymbol_conducts (hev : ev.Conducts R) {description : Val}
    (hd : description.Sound R h.size) :
    Action.Conducts R h (.val R) (newSymbol ev description) := by
  have hmake (h' : Heap) (d : Option Units) : Action.Conducts R h' (.val R)
      (Action.update fun h => (.symbol (h.allocateSymbol d).1, (h.allocateSymbol d).2)) :=
    .update fun h'' _ hs => ⟨.of_objects_eq rfl, hs.allocateSymbol d, trivial⟩
  unfold newSymbol
  split
  · exact Action.Conducts.bind (P := .any) (.pure trivial) fun h' d _ _ _ => hmake h' d
  · refine (toUnits_conducts hev hd).bind fun _ _ _ _ _ => ?_
    exact Action.Conducts.bind (P := .any) (.pure trivial) fun h' d _ _ _ => hmake h' d

theorem errorToString_conducts (hev : ev.Conducts R) {receiver : Val}
    (hreceiver : receiver.Sound R h.size) :
    Action.Conducts R h (.val R) (errorToString ev receiver) := by
  unfold errorToString
  split
  · refine (getProperty_conducts hev hreceiver _).bind fun h₁ name hl₁ _ hname => ?_
    refine .default_bind (toUnits_conducts hev hname) fun h₂ name hl₂ => ?_
    refine (getProperty_conducts hev (hreceiver.mono (hl₁.trans hl₂).size_le) _).bind
      fun h₃ message _ _ hmessage => ?_
    exact .default_bind (toUnits_conducts hev hmessage) fun _ _ _ => .pure trivial
  · exact raiseError_conducts _ _

theorem causeOf_conducts (hev : ev.Conducts R) {details : Val} (hd : details.Sound R h.size) :
    Action.Conducts R h (.option (.val R)) (causeOf ev details) := by
  have hnone {h' : Heap} : Action.Conducts R h' (.option (.val R)) (pure none) :=
    .pure fun _ hv => absurd hv (Option.not_mem_none _)
  unfold causeOf
  split
  · refine .read_bind fun h₁ hl₁ _ => .ite (fun _ => ?_) fun _ => hnone
    refine (getProperty_conducts hev (hd.mono hl₁.size_le) _).bind fun _ v _ _ hv => .pure ?_
    exact fun x hx => by cases hx; exact hv
  · exact hnone

theorem errorOf_conducts (hev : ev.Conducts R) (t : ErrorType) {message details : Val}
    (hmessage : message.Sound R h.size) (hdetails : details.Sound R h.size) :
    Action.Conducts R h (.val R) (errorOf ev t message details) := by
  unfold errorOf
  extract_lets -underBinder go
  have hgo {h₁ : Heap} (m : Option Units) (hl₁ : h.Later h₁) :
      Action.Conducts R h₁ (.val R) (go m) := by
    refine (causeOf_conducts hev (hdetails.mono hl₁.size_le)).bind fun h₂ cause _ _ hcause => ?_
    refine (newError_conducts t m _).bind fun h₃ e hl₃ _ he => ?_
    split
    · rename_i r c
      refine Action.Conducts.bind (.modify r (fun o => (o.shape_put _ _).kind)
        fun h' o hl' _ ho => ho.put _ ?_)
        fun _ _ hl' _ _ => .pure (Post.mono (.val R) hl'.size_le he)
      exact (hcause c rfl).mono (hl₃.trans hl').size_le
    · exact .pure he
  split
  · exact Action.Conducts.bind (P := .any) (.pure trivial) fun _ m hl _ _ => hgo m hl
  · refine (toUnits_conducts hev hmessage).bind fun h₁ s hl₁ _ _ => ?_
    exact Action.Conducts.bind (P := .any) (.pure trivial) fun _ m hl _ _ => hgo m (hl₁.trans hl)

/-! ## Calls -/

theorem callBuiltin_conducts (hev : ev.Conducts R) (b : Builtin) {receiver : Val}
    {vs : List Val} (hreceiver : receiver.Sound R h.size) (hvs : ∀ v ∈ vs, v.Sound R h.size) :
    Action.Conducts R h (.val R) (callBuiltin ev b receiver vs) := by
  have harg (i : Nat) : (argument vs i).Sound R h.size := argument_sound hvs i
  cases b with
  | object =>
      have hplain : Action.Conducts R h (.val R) (newObject .plain Place.objectPrototype []) :=
        newPlain_conducts (place_allowed (by decide))
      simp only [callBuiltin]
      split
      · exact hplain
      · exact hplain
      · exact toObject_conducts (harg 0)
  | objectKeys => exact objectKeys_conducts (harg 0)
  | objectIs => exact .pure trivial
  | objectFreeze => exact objectFreeze_conducts (harg 0)
  | objectDefineProperty => exact objectDefineProperty_conducts hev (harg 0) (harg 1) (harg 2)
  | objectGetPrototypeOf => exact prototypeValue_conducts (harg 0) (raiseError_conducts _ _)
  | objectCreate => exact objectCreate_conducts (harg 0)
  | objectToString => exact objectToString_conducts hev hreceiver
  | objectValueOf => exact toObject_conducts hreceiver
  | objectHasOwnProperty => exact objectHasOwnProperty_conducts hev hreceiver (harg 0)
  | prototypeGetter => exact prototypeValue_conducts hreceiver (raiseError_conducts _ _)
  | prototypeSetter => exact assignPrototype_conducts receiver (harg 0)
  | functionPrototype => exact .pure trivial
  | functionCall => exact hev.call hreceiver (harg 0) (sound_tail hvs)
  | functionApply =>
      refine (listValues_conducts hev (harg 1)).bind fun _ list hl _ hlist => ?_
      exact hev.call (hreceiver.mono hl.size_le) ((harg 0).mono hl.size_le) hlist
  | functionBind => exact bindFunction_conducts hev hreceiver hvs
  | functionToString => exact functionToString_conducts hev hreceiver
  | error t => exact errorOf_conducts hev t (harg 0) (harg 1)
  | errorToString => exact errorToString_conducts hev hreceiver
  | array => exact arrayOf_conducts hvs
  | arrayIsArray => exact .read fun _ _ _ => trivial
  | arrayJoin => exact arrayJoin_conducts hev hreceiver (harg 0)
  | arrayPush => exact arrayPush_conducts hev hreceiver hvs
  | arrayToString => exact arrayToString_conducts hev hreceiver
  | string =>
      simp only [callBuiltin]
      split
      · exact .pure trivial
      · exact symbolToString_conducts _
      · rename_i v _ _
        exact (toUnits_conducts hev (hvs v List.mem_cons_self)).bind fun _ _ _ _ _ => .pure trivial
  | stringFromCharCode => exact stringFromCharCode_conducts hev hvs
  | stringToUpperCase =>
      exact (receiverUnits_conducts hev hreceiver).bind fun _ _ _ _ _ => .pure trivial
  | stringRepeat => exact stringRepeat_conducts hev hreceiver (harg 0)
  | stringReplace => exact stringReplace_conducts hev hreceiver (harg 0) (harg 1)
  | stringValue => exact unboxed_conducts _ hreceiver _
  | patternExec =>
      refine (toUnits_conducts hev (harg 0)).bind fun _ s hl _ _ => ?_
      exact patternExec_conducts hev (hreceiver.mono hl.size_le) s
  | patternReplace => exact patternReplace_conducts hev hreceiver (harg 0) (harg 1)
  | patternFlags => exact patternFlags_conducts hev hreceiver
  | patternFlag flag => exact patternFlag_conducts receiver flag
  | number =>
      exact .ite (fun _ => .pure trivial) fun _ => toNumeric_conducts hev (harg 0)
  | numberValue => exact unboxed_conducts _ hreceiver _
  | numberToString => exact numberToString_conducts hev hreceiver (harg 0)
  | boolean => exact .pure trivial
  | booleanValue => exact unboxed_conducts _ hreceiver _
  | booleanToString =>
      exact (unboxed_conducts _ hreceiver _).bind fun _ _ _ _ _ => .pure trivial
  | mathHypot => exact mathHypot_conducts hev hvs
  | mathMax => exact mathExtreme_conducts hev true hvs
  | mathMin => exact mathExtreme_conducts hev false hvs
  | symbol => exact newSymbol_conducts hev (harg 0)
  | symbolValue => exact unboxed_conducts _ hreceiver _
  | symbolToString =>
      exact (unboxed_conducts _ hreceiver _).bind fun _ _ _ _ _ => symbolToString_conducts _
  | symbolDescription =>
      refine (unboxed_conducts _ hreceiver _).bind fun _ v _ _ _ => ?_
      refine (symbolDescription_conducts v).bind fun _ d _ _ _ => .pure ?_
      cases d <;> trivial
  | forbidden => exact raiseError_conducts _ _
  | unsupported constructs => exact raiseError_conducts _ _

theorem Heap.native?_of_callable? {f : Val} {k : NativeKey}
    (hk : h.callable? f = some (.native k)) : ∃ r, h.native? r = some k := by
  cases f with
  | object r =>
      refine ⟨r, ?_⟩
      simp only [Heap.callable?, Object.callable?] at hk
      unfold Heap.native?
      split at hk
      · rename_i c hkind
        cases hk
        rw [hkind]
      · cases hk
  | _ => cases hk

theorem callRule_conducts (hev : ev.Conducts R) {f receiver : Val} {vs : List Val}
    (hf : f.Sound R h.size) (hreceiver : receiver.Sound R h.size)
    (hvs : ∀ v ∈ vs, v.Sound R h.size) :
    Action.Conducts R h (.val R) (callRule ev f receiver vs) := by
  refine .here fun h₁ hl₁ hs₁ => .read_bind fun h₂ hl₂ hs₂ => ?_
  have hle := (hl₁.trans hl₂).size_le
  have hf₂ := hf.mono hle
  have hvs₂ := sound_later hvs (hl₁.trans hl₂)
  cases hc : h₂.callable? f with
  | none => exact raiseError_conducts _ _
  | some c =>
      have hsound := hs₂.callable? hc
      cases c with
      | closure lambda scope outer =>
          refine framed_conducts _ ?_
          cases lambda.style with
          | classBody => exact raiseError_conducts _ _
          | arrow => exact callClosure_conducts hev lambda scope hf₂ hsound hvs₂
          | _ => exact callClosure_conducts hev lambda scope hf₂ (hreceiver.mono hle) hvs₂
      | builtin b => exact framed_conducts _ (callBuiltin_conducts hev b (hreceiver.mono hle) hvs₂)
      | native k =>
          obtain ⟨r, hr⟩ := Heap.native?_of_callable? hc
          exact callNative_conducts hev hr hvs₂
      | bound target outer bound constructs =>
          refine hev.call hsound.1 hsound.2.1 fun v hv => ?_
          rcases List.mem_append.mp hv with hv | hv
          · exact hsound.2.2 v hv
          · exact hvs₂ v hv

theorem boxedOf_conducts {make : Action Val} (hmake : Action.Conducts R h (.val R) make) :
    Action.Conducts R h (.val R) (boxedOf make) :=
  hmake.bind fun _ _ _ _ hv => toObject_conducts hv

theorem constructBuiltin_conducts (hev : ev.Conducts R) (f : Val) (b : Builtin) {vs : List Val}
    (hvs : ∀ v ∈ vs, v.Sound R h.size) :
    Action.Conducts R h (.val R) (constructBuiltin ev f b vs) := by
  have harg (i : Nat) : (argument vs i).Sound R h.size := argument_sound hvs i
  have hcall (b : Builtin) : Action.Conducts R h (.val R) (callBuiltin ev b .undefined vs) :=
    callBuiltin_conducts hev b trivial hvs
  unfold constructBuiltin
  split
  · exact hcall .object
  · exact errorOf_conducts hev _ (harg 0) (harg 1)
  · exact arrayOf_conducts hvs
  · refine boxedOf_conducts (.default_bind (toUnits_conducts hev (harg 0)) fun _ _ _ => ?_)
    exact .pure trivial
  · exact boxedOf_conducts (hcall .number)
  · exact boxedOf_conducts (hcall .boolean)
  · exact raiseError_conducts _ _
  · exact raiseError_conducts _ _

theorem constructRule_conducts (hev : ev.Conducts R) {f : Val} {vs : List Val}
    (hf : f.Sound R h.size) (hvs : ∀ v ∈ vs, v.Sound R h.size) :
    Action.Conducts R h (.val R) (constructRule ev f vs) := by
  refine .read_bind fun h₁ hl₁ hs₁ => ?_
  have hf₁ := hf.mono hl₁.size_le
  have hvs₁ := sound_later hvs hl₁
  split
  · refine .ite (fun _ => ?_) fun _ => raiseError_conducts _ _
    exact framed_conducts _ (constructClosure_conducts hev _ _ hf₁ hvs₁)
  · exact framed_conducts _ (constructBuiltin_conducts hev f _ hvs₁)
  · rename_i target outer bound constructs hc
    have hsound := hs₁.callable? hc
    refine .ite (fun _ => hev.construct hsound.1 fun v hv => ?_) fun _ => raiseError_conducts _ _
    rcases List.mem_append.mp hv with hv | hv
    · exact hsound.2.2 v hv
    · exact hvs₁ v hv
  · exact raiseError_conducts _ _

end ScriptHost.Script
