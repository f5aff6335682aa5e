/-!
# Keys of host functions

A host function that a script can see is known by its realm and by its slot in
the realm's table.  The pair packs into one word of sixty-four bits, the realm
in the upper half.
-/

namespace ScriptHost

/-- The realm and the slot of a host function. -/
structure NativeKey where
  realm : UInt32
  slot : UInt32
  deriving DecidableEq, Repr, Inhabited

namespace NativeKey

def toBits (k : NativeKey) : UInt64 := (k.realm.toUInt64 <<< 32) ||| k.slot.toUInt64

def ofBits (b : UInt64) : NativeKey := ⟨(b >>> 32).toUInt32, b.toUInt32⟩

/-- The key with the names of its parts. -/
def debugText (k : NativeKey) : String :=
  "NativeKey \x7b realm: " ++ k.realm.toNat.repr ++ ", slot: " ++ k.slot.toNat.repr ++ " \x7d"

end NativeKey

end ScriptHost
