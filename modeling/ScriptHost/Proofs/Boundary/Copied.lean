import ScriptHost.Engine.Dispatch
import ScriptHost.Proofs.Script.Repair
import ScriptHost.Proofs.World.Engine

/-!
# Strings on their way out

A string that is well formed is copied as it is.  Any other string is first made well formed by
the realm itself, and what comes out of that is copied.

In a realm that has left the methods for replacing alone, the string that comes out is the
repaired one, and then nothing is left that could not be copied: the host gets the text that a
decoder makes of the string.  The source of the function that repairs strings is read and run
each time, and that takes stack and memory; if there is too little of either, the string is not
copied at all.
-/

namespace ScriptHost

open Script (Heap)

variable {φ σ : Type}

/-! ## What the host gets -/

/-- How a string of any units and the text that the host has of it belong together. -/
structure Units.CopiedAs (s : Units) (t : String) : Prop where
  decoded : t = String.ofList s.decodeLossy
  /-- Each unpaired surrogate has become one replacement character, in its place, and every
  other unit is kept. -/
  units : Units.ofString t = s.mapIdx fun i u => if s.unpaired i then replacementUnit else u
  length : (Units.ofString t).length = s.length
  paired (i : Nat) : (Units.ofString t).unpaired i = false

theorem Units.copiedAs_decodeLossy (s : Units) : s.CopiedAs (String.ofList s.decodeLossy) := by
  have hunits : Units.ofString (String.ofList s.decodeLossy) = s.repaired := by
    rw [Units.ofString, String.toList_ofList, encode_decodeLossy]
  refine ⟨rfl, hunits, ?_, ?_⟩
  · rw [hunits, length_repaired]
  · rw [hunits]
    exact unpaired_of_repaired_eq (repaired_of_decode (decode_repaired s))

/-- A string that is well formed reads as the decoder reads it. -/
theorem Units.eq_decodeLossy_of_toString? {s : Units} {t : String} (ht : s.toString? = some t) :
    t = String.ofList s.decodeLossy := by
  obtain ⟨cs, hcs, rfl⟩ := Option.map_eq_some_iff.mp ht
  rw [Units.decodeLossy_of_decode hcs]

theorem Units.toString?_eq_none_iff {s : Units} :
    s.toString? = none ↔ ∃ i, s.unpaired i = true := by
  rw [Units.toString?, Option.map_eq_none_iff]
  exact Units.decode_eq_none_iff

/-- What the host gets of a string in a realm that has left the methods for replacing alone. -/
theorem Crossing.text_or_exhausts (c : Crossing φ σ) (s : Units) {w : World φ σ}
    (hi : (w.heap c.context).RepairIntact) :
    (c.text s w).2 = .ok (String.ofList s.decodeLossy) ∨
      s.toString? = none ∧ (c.text s w).2 = .error .scriptThrew ∧
        (makeWellFormed c.stack s).Exhausts (w.heap c.context) := by
  unfold Crossing.text Crossing.run
  cases hs : s.toString? with
  | some t => exact .inl (congrArg Except.ok (Units.eq_decodeLossy_of_toString? hs))
  | none =>
      dsimp only
      cases Script.makeWellFormed_yields hi c.stack s with
      | returned hrun hx ht =>
          rw [hrun, ht]
          exact .inl rfl
      | exhausted hrun hx hnew htells =>
          refine .inr ⟨rfl, ?_, _, _, hrun, htells⟩
          rw [hrun]
          rfl

/-- In a realm that has left the methods for replacing alone, every string comes out, unless the
engine runs out of stack or of memory while it makes the string well formed.  The text is the
one that the decoder makes of the string.  A string that is well formed comes out as it is, and
making it well formed would give the same; what that gives has no unpaired surrogate, for any
string; and it is needed exactly if a surrogate is unpaired. -/
theorem strings_copied (c : Crossing φ σ) (s : Units) {w : World φ σ}
    (hi : (w.heap c.context).RepairIntact) :
    ((∃ t, s.CopiedAs t ∧ (c.text s w).2 = .ok t) ∨
        (∃ i, s.unpaired i = true) ∧ (c.text s w).2 = .error .scriptThrew ∧
          (makeWellFormed c.stack s).Exhausts (w.heap c.context)) ∧
      (∀ t, s.toString? = some t → s.CopiedAs t ∧ c.text s w = (w, .ok t)) ∧
      (s.toString? = none ↔ ∃ i, s.unpaired i = true) ∧
      ((Script.wellFormedString c.stack s).Exhausts (w.heap c.context) ∨
        ∃ r : Units, (c.run (Script.wellFormedString c.stack s) w).2 = .returned (.string r) ∧
          (∀ i, r.unpaired i = false) ∧ r.length = s.length ∧
            ∃ t, r.toString? = some t ∧ s.CopiedAs t) := by
  refine ⟨?_, fun t ht => ?_, Units.toString?_eq_none_iff, ?_⟩
  · rcases c.text_or_exhausts s hi with htext | ⟨hs, htext, hexhausts⟩
    · exact .inl ⟨_, s.copiedAs_decodeLossy, htext⟩
    · exact .inr ⟨Units.toString?_eq_none_iff.mp hs, htext, hexhausts⟩
  · refine ⟨?_, ?_⟩
    · rw [Units.eq_decodeLossy_of_toString? ht]
      exact s.copiedAs_decodeLossy
    · simp only [Crossing.text, ht]
  · unfold Crossing.run
    cases Script.wellFormedString_yields hi c.stack s with
    | returned hrun hx hv =>
        refine .inr ⟨s.repaired, ?_, ?_, s.length_repaired, _, Script.toString?_repaired s,
          s.copiedAs_decodeLossy⟩
        · rw [hrun, hv]
          rfl
        · exact Units.unpaired_of_repaired_eq (Units.repaired_of_decode (Units.decode_repaired s))
    | exhausted hrun hx hnew htells => exact .inl ⟨_, _, hrun, htells⟩

/-- A realm without exports. -/
def untouchedWorld : World Unit Unit :=
  (World.addRealm (.start ()) scriptBackend (.script .standard) (.fresh 0)).2

/-- A pair in the middle of surrogates that are unpaired comes out of an empty realm. -/
theorem strings_copied_empty :
    (untouchedWorld.heap 0).RepairIntact ∧
      Units.CopiedAs [0xD800, 0xD800, 0xDC00, 0xDC00] "\uFFFD𐀀\uFFFD" ∧
        (Crossing.text ⟨refusing, 0, 0, .fresh 8000⟩ [0xD800, 0xD800, 0xDC00, 0xDC00]
          untouchedWorld).2 = .ok "\uFFFD𐀀\uFFFD" := by
  have hi : (untouchedWorld.heap 0).RepairIntact := Heap.repairIntact_standard
  have hcopied := strings_copied ⟨refusing, 0, 0, .fresh 8000⟩
    [0xD800, 0xD800, 0xDC00, 0xDC00] hi
  have hreturned : (Crossing.text ⟨refusing, 0, 0, .fresh 8000⟩ [0xD800, 0xD800, 0xDC00, 0xDC00]
      untouchedWorld).2.toOption = some "\uFFFD𐀀\uFFFD" := by
    decide +kernel
  rcases hcopied.1 with ⟨t, hcopied, htext⟩ | ⟨-, htext, -⟩
  · rw [htext] at hreturned
    obtain rfl : t = "\uFFFD𐀀\uFFFD" := Option.some.inj hreturned
    exact ⟨hi, hcopied, htext⟩
  · rw [htext] at hreturned
    cases hreturned

/-- With too little stack an unpaired surrogate does not come out of an empty realm, although
text does. -/
theorem strings_not_copied :
    (untouchedWorld.heap 0).RepairIntact ∧
      (Crossing.text ⟨refusing, 0, 0, .fresh 100⟩ [0xD800] untouchedWorld).2 = .error .scriptThrew ∧
        (Crossing.text ⟨refusing, 0, 0, .fresh 100⟩ [0x61] untouchedWorld).2 = .ok "a" := by
  have hi : (untouchedWorld.heap 0).RepairIntact := Heap.repairIntact_standard
  have hnone : (Crossing.text ⟨refusing, 0, 0, .fresh 100⟩ [0xD800] untouchedWorld).2.toOption =
      none := by
    decide +kernel
  refine ⟨hi, ?_, rfl⟩
  rcases Crossing.text_or_exhausts ⟨refusing, 0, 0, .fresh 100⟩ [0xD800] hi with htext | htext
  · rw [htext] at hnone
    cases hnone
  · exact htext.2.1

end ScriptHost
