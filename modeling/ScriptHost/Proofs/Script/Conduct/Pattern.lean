import ScriptHost.Proofs.Script.Conduct.Function
import ScriptHost.Script.Builtin.Pattern

/-!
# Functions of patterns conduct themselves

What a search finds is made of strings and numbers; the only objects that come in are what
`exec` answers, which is sound because calls are.
-/

namespace ScriptHost.Script

variable {R : RefRule} {h : Heap} {ev : Evaluator}

/-! ## Flags -/

theorem patternFlag_conducts (receiver : Val) (flag : Char) :
    Action.Conducts R h (.val R) (patternFlag receiver flag) := by
  refine .read_bind fun h₁ _ _ => ?_
  split
  · exact .pure trivial
  · exact .ite (fun _ => .pure trivial) fun _ => raiseError_conducts _ _

theorem patternFlags_conducts (hev : ev.Conducts R) {receiver : Val}
    (hreceiver : receiver.Sound R h.size) :
    Action.Conducts R h (.val R) (patternFlags ev receiver) := by
  unfold patternFlags
  split
  · refine (Action.Conducts.each (P := .any) fun h₁ f _ hl₁ _ => ?_).bind
      fun _ _ _ _ _ => .pure trivial
    exact (getProperty_conducts hev (hreceiver.mono hl₁.size_le) _).bind
      fun _ _ _ _ _ => .pure trivial
  · exact raiseError_conducts _ _

/-! ## Looking for a match -/

theorem toIndex_conducts (hev : ev.Conducts R) {v : Val} (hv : v.Sound R h.size) :
    Action.Conducts R h .any (toIndex ev v) :=
  (toDouble_conducts hev hv).bind fun _ _ _ _ _ => .pure trivial

theorem lastIndexOf_conducts (hev : ev.Conducts R) {receiver : Val}
    (hreceiver : receiver.Sound R h.size) : Action.Conducts R h .any (lastIndexOf ev receiver) :=
  (getProperty_conducts hev hreceiver _).bind fun _ _ _ _ hn => toIndex_conducts hev hn

theorem setLastIndex_conducts (hev : ev.Conducts R) {receiver : Val}
    (hreceiver : receiver.Sound R h.size) (all : Bool) (n : Nat) :
    Action.Conducts R h .any (setLastIndex ev receiver all n) :=
  .ite (fun _ => setProperty_conducts hev _ hreceiver (Val.sound_ofNat n)) fun _ => .pure trivial

theorem matchObject_conducts (f : Found) (s : Units) :
    Action.Conducts R h (.val R) (matchObject f s) := by
  refine (newArray_conducts fun v hv => ?_).bind fun h₁ m _ _ hm => ?_
  · rw [List.mem_singleton.mp hv]
    trivial
  · split
    · refine Action.Conducts.bind (.modify _ (fun o => ?_) fun h' o _ _ ho => ?_)
        fun _ _ hl _ _ => .pure (Post.mono (.val R) hl.size_le hm)
      · exact ((Object.shape_put _ _ _).kind.trans (Object.shape_put _ _ _).kind).trans
          (Object.shape_put _ _ _).kind
      · have hs : (Property.plain (.string s)).Sound R h'.size := Property.sound_plain trivial
        have hu : (Property.plain .undefined).Sound R h'.size := Property.sound_plain trivial
        exact ((ho.put _ (Property.sound_plain (Val.sound_ofNat _))).put _ hs).put _ hu
    · exact .pure hm

theorem patternExec_conducts (hev : ev.Conducts R) {receiver : Val}
    (hreceiver : receiver.Sound R h.size) (s : Units) :
    Action.Conducts R h (.val R) (patternExec ev receiver s) := by
  refine .read_bind fun h₁ hl₁ _ => ?_
  have hreceiver := hreceiver.mono hl₁.size_le
  split
  · exact raiseError_conducts _ _
  · refine (lastIndexOf_conducts hev hreceiver).bind fun h₂ last hl₂ _ _ => ?_
    have hset := setLastIndex_conducts hev (hreceiver.mono hl₂.size_le)
    split
    · exact (hset _ _).bind fun _ _ _ _ _ => .pure trivial
    · exact (hset _ _).bind fun _ _ _ _ _ => matchObject_conducts _ s

/-! ## Replacing -/

theorem execOf_conducts (hev : ev.Conducts R) {receiver : Val}
    (hreceiver : receiver.Sound R h.size) (s : Units) :
    Action.Conducts R h (.val R) (execOf ev receiver s) := by
  refine (getProperty_conducts hev hreceiver _).bind fun h₁ f hl₁ _ hf => ?_
  refine .read_bind fun h₂ hl₂ _ => ?_
  have hreceiver := hreceiver.mono (hl₁.trans hl₂).size_le
  refine .ite (fun _ => ?_) fun _ => patternExec_conducts hev hreceiver s
  refine (hev.call (hf.mono hl₂.size_le) hreceiver fun v hv => ?_).bind fun h₃ m _ _ hm => ?_
  · rw [List.mem_singleton.mp hv]
    trivial
  · split
    · exact .pure hm
    · exact .pure hm
    · exact raiseError_conducts _ _

theorem foundIn_conducts (hev : ev.Conducts R) {m : Val} (hm : m.Sound R h.size) :
    Action.Conducts R h .any (foundIn ev m) := by
  refine (getProperty_conducts hev hm _).bind fun h₁ t hl₁ _ ht => ?_
  refine (toUnits_conducts hev ht).bind fun h₂ _ hl₂ _ _ => ?_
  refine (getProperty_conducts hev (hm.mono (hl₁.trans hl₂).size_le) _).bind
    fun _ i _ _ hi => ?_
  exact (toIndex_conducts hev hi).bind fun _ _ _ _ _ => .pure trivial

theorem passMatch_conducts (hev : ev.Conducts R) {receiver m : Val}
    (hreceiver : receiver.Sound R h.size) (hm : m.Sound R h.size) :
    Action.Conducts R h .any (passMatch ev receiver m) := by
  refine (getProperty_conducts hev hm _).bind fun h₁ t hl₁ _ ht => ?_
  refine (toUnits_conducts hev ht).bind fun h₂ _ hl₂ _ _ =>
    .ite (fun _ => ?_) fun _ => .pure trivial
  have hreceiver := hreceiver.mono (hl₁.trans hl₂).size_le
  exact (lastIndexOf_conducts hev hreceiver).bind fun _ _ hl _ _ =>
    setLastIndex_conducts hev (hreceiver.mono hl.size_le) _ _

/-- However often `exec` is called, what it answers is sound. -/
theorem execAll_conducts (hev : ev.Conducts R) {receiver : Val} (all : Bool) (s : Units)
    (n : Nat) {found : List Val} (hreceiver : receiver.Sound R h.size)
    (hfound : ∀ v ∈ found, v.Sound R h.size) :
    Action.Conducts R h (Post.val R).list (execAll ev receiver all s n found) := by
  induction n generalizing h found with
  | zero => exact raiseTooDeep_conducts
  | succ n ih =>
      refine (execOf_conducts hev hreceiver s).bind fun h₁ m hl₁ _ hm => ?_
      have hreceiver := hreceiver.mono hl₁.size_le
      have hmore : ∀ v ∈ m :: found, v.Sound R h₁.size :=
        List.forall_mem_cons.mpr ⟨hm, sound_later hfound hl₁⟩
      refine .ite (fun _ => .pure fun v hv => ?_) fun _ => .ite (fun _ => ?_) fun _ =>
        .pure fun v hv => hmore v (List.mem_reverse.mp hv)
      · exact (hfound v (List.mem_reverse.mp hv)).mono hl₁.size_le
      · exact (passMatch_conducts hev hreceiver hm).bind fun _ _ hl _ _ =>
          ih (hreceiver.mono hl.size_le) (sound_later hmore hl)

theorem matchesOf_conducts (hev : ev.Conducts R) {receiver : Val}
    (hreceiver : receiver.Sound R h.size) (all : Bool) (s : Units) :
    Action.Conducts R h .any (matchesOf ev receiver all s) := by
  refine .read_bind fun h₁ hl₁ _ => ?_
  split
  · exact .pure trivial
  · refine (execAll_conducts hev all s _ (hreceiver.mono hl₁.size_le)
      fun v hv => absurd hv List.not_mem_nil).bind fun h₂ found _ _ hfound => ?_
    refine (Action.Conducts.each (P := .any) fun h₃ m hm hl₃ _ => ?_).weaken fun _ _ _ => trivial
    exact foundIn_conducts hev ((hfound m hm).mono hl₃.size_le)

theorem templateOf_conducts (hev : ev.Conducts R) {v : Val} (hv : v.Sound R h.size) :
    Action.Conducts R h .any (templateOf ev v) :=
  .read_bind fun _ hl _ => .ite (fun _ => .pure trivial) fun _ =>
    (toUnits_conducts hev (hv.mono hl.size_le)).bind fun _ _ _ _ _ => .pure trivial

theorem replacementFor_conducts (hev : ev.Conducts R) {replacement : Val}
    (hreplacement : replacement.Sound R h.size) (template : Option Units) (s : Units) (f : Found) :
    Action.Conducts R h .any (replacementFor ev replacement template s f) := by
  unfold replacementFor
  split
  · exact .pure trivial
  · have hreceiver : Val.undefined.Sound R h.size := trivial
    refine (hev.call hreplacement hreceiver fun v hv => ?_).bind fun _ v _ _ hv =>
      (toUnits_conducts hev hv).bind fun _ _ _ _ _ => .pure trivial
    simp only [List.mem_cons, List.not_mem_nil, or_false] at hv
    rcases hv with rfl | rfl | rfl
    · trivial
    · exact Val.sound_ofNat _
    · trivial

theorem patternReplace_conducts (hev : ev.Conducts R) {receiver s replacement : Val}
    (hreceiver : receiver.Sound R h.size) (hs : s.Sound R h.size)
    (hreplacement : replacement.Sound R h.size) :
    Action.Conducts R h (.val R) (patternReplace ev receiver s replacement) := by
  unfold patternReplace
  split
  · refine (toUnits_conducts hev hs).bind fun h₁ s hl₁ _ _ => ?_
    refine (templateOf_conducts hev (hreplacement.mono hl₁.size_le)).bind fun h₂ t hl₂ _ _ => ?_
    have hl₂ := hl₁.trans hl₂
    refine (getProperty_conducts hev (hreceiver.mono hl₂.size_le) _).bind
      fun h₃ flags hl₃ _ hflags => ?_
    refine (toUnits_conducts hev hflags).bind fun h₄ flags hl₄ _ _ => ?_
    have hl₄ := (hl₂.trans hl₃).trans hl₄
    refine (setLastIndex_conducts hev (hreceiver.mono hl₄.size_le) _ _).bind
      fun h₅ _ hl₅ _ _ => ?_
    have hl₅ := hl₄.trans hl₅
    refine (matchesOf_conducts hev (hreceiver.mono hl₅.size_le) _ s).bind
      fun h₆ found hl₆ _ _ => ?_
    refine (Action.Conducts.each (P := .any) fun h₇ f _ hl₇ _ => ?_).bind
      fun _ _ _ _ _ => newString_conducts _ _
    exact replacementFor_conducts hev
      (hreplacement.mono ((hl₅.trans hl₆).trans hl₇).size_le) t s f
  · exact raiseError_conducts _ _

end ScriptHost.Script
