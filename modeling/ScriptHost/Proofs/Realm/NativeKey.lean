import Mathlib
import ScriptHost.Realm.NativeKey

/-!
# Keys and their words

The word of a key is a number with two digits to the base `2 ^ 32`: the realm stands in front
of the slot.  Nothing of one digit reaches into the other, so the digits of the word of a key
are the realm and the slot again, and words compare as their digits do, the first one first.

Both directions are shown of these numbers.  A host function is found by the key that its
word is unpacked to, so a word that two keys shared, or a key that came back changed, would
lead to the wrong callback.
-/

namespace ScriptHost.NativeKey

/-! ## The digits of a word -/

/-- The realm is put in front of the slot, and the slot has room there. -/
theorem toNat_toBits (k : NativeKey) :
    k.toBits.toNat = k.realm.toNat * 2 ^ 32 + k.slot.toNat := by
  have hrealm : k.realm.toNat < 2 ^ 32 := k.realm.toNat_lt
  have hslot : k.slot.toNat < 2 ^ 32 := k.slot.toNat_lt
  have hshift : k.realm.toNat <<< 32 % 2 ^ 64 = k.realm.toNat * 2 ^ 32 := by
    rw [Nat.shiftLeft_eq]
    exact Nat.mod_eq_of_lt (by omega)
  calc k.toBits.toNat
      = k.realm.toNat <<< 32 % 2 ^ 64 ||| k.slot.toNat := by
        simp [toBits, UInt64.toNat_or, UInt64.toNat_shiftLeft]
    _ = k.realm.toNat * 2 ^ 32 ||| k.slot.toNat := by rw [hshift]
    _ = 2 ^ 32 * k.realm.toNat + k.slot.toNat := by
        rw [Nat.mul_comm, Nat.two_pow_add_eq_or_of_lt hslot]
    _ = k.realm.toNat * 2 ^ 32 + k.slot.toNat := by rw [Nat.mul_comm]

theorem toNat_realm_ofBits (b : UInt64) : (ofBits b).realm.toNat = b.toNat / 2 ^ 32 := by
  have hb : b.toNat < 2 ^ 64 := b.toNat_lt
  have hquotient : b.toNat / 2 ^ 32 < 2 ^ 32 := by omega
  simp only [ofBits, UInt64.toNat_toUInt32, UInt64.toNat_shiftRight, Nat.shiftRight_eq_div_pow]
  exact Nat.mod_eq_of_lt hquotient

theorem toNat_slot_ofBits (b : UInt64) : (ofBits b).slot.toNat = b.toNat % 2 ^ 32 :=
  UInt64.toNat_toUInt32 b

/-- A key is known by the numbers of its parts. -/
theorem ext_toNat {k k' : NativeKey} (hrealm : k.realm.toNat = k'.realm.toNat)
    (hslot : k.slot.toNat = k'.slot.toNat) : k = k' := by
  obtain ⟨realm, slot⟩ := k
  obtain ⟨realm', slot'⟩ := k'
  obtain rfl : realm = realm' := UInt32.toNat_inj.mp hrealm
  obtain rfl : slot = slot' := UInt32.toNat_inj.mp hslot
  rfl

/-! ## There and back -/

theorem ofBits_toBits (k : NativeKey) : ofBits k.toBits = k := by
  have hslot : k.slot.toNat < 2 ^ 32 := k.slot.toNat_lt
  apply ext_toNat
  · rw [toNat_realm_ofBits, toNat_toBits]
    omega
  · rw [toNat_slot_ofBits, toNat_toBits]
    omega

theorem toBits_ofBits (b : UInt64) : (ofBits b).toBits = b := by
  apply UInt64.toNat_inj.mp
  rw [toNat_toBits, toNat_realm_ofBits, toNat_slot_ofBits]
  exact Nat.div_add_mod' b.toNat (2 ^ 32)

/-- Keys and words, one for one. -/
def packing : NativeKey ≃ UInt64 where
  toFun := toBits
  invFun := ofBits
  left_inv := ofBits_toBits
  right_inv := toBits_ofBits

/-! ## Order -/

/-- Words compare as the realms do, and where these agree as the slots do. -/
theorem toBits_lt_toBits_iff (k k' : NativeKey) :
    k.toBits < k'.toBits ↔ k.realm < k'.realm ∨ k.realm = k'.realm ∧ k.slot < k'.slot := by
  have hslot : k.slot.toNat < 2 ^ 32 := k.slot.toNat_lt
  have hslot' : k'.slot.toNat < 2 ^ 32 := k'.slot.toNat_lt
  rw [UInt64.lt_iff_toNat_lt, toNat_toBits, toNat_toBits, UInt32.lt_iff_toNat_lt,
    UInt32.lt_iff_toNat_lt, ← UInt32.toNat_inj]
  omega

/-- Keys pack without loss.  Packing and unpacking undo each other, so that packing is a
bijection and different keys have different words, and words are in the order of realms and
then of slots. -/
theorem keys_pack_losslessly :
    (∀ k : NativeKey, ofBits k.toBits = k) ∧ (∀ b : UInt64, (ofBits b).toBits = b) ∧
      Function.Bijective toBits ∧ (∀ k k' : NativeKey, k ≠ k' → k.toBits ≠ k'.toBits) ∧
      ∀ k k' : NativeKey, k.toBits < k'.toBits ↔
        Prod.Lex (· < ·) (· < ·) (k.realm, k.slot) (k'.realm, k'.slot) := by
  have hbijective : Function.Bijective toBits := packing.bijective
  refine ⟨ofBits_toBits, toBits_ofBits, hbijective, fun k k' hne => ?_, fun k k' => ?_⟩
  · intro hword
    exact hne (hbijective.injective hword)
  · rw [toBits_lt_toBits_iff, Prod.lex_def]

/-- The largest slot does not reach into the realm. -/
example : (⟨0, 4294967295⟩ : NativeKey).toBits + 1 = (⟨1, 0⟩ : NativeKey).toBits := by decide

end ScriptHost.NativeKey
