import ScriptHost.Proofs.Boundary.Copied
import ScriptHost.Proofs.Callback.ErrorChain

/-!
# What the host is told of an error

Of an error that nobody catches the name is read first, then the message, then the stack
trace.  The name decides what kind of failure the host gets, and name and message stand at the
beginning of its text.

A string that comes out as a value is repaired by its realm if it has to be.  The name and the
message of an error are not: they are copied if they are well formed, and count as absent if
they are not.  So of an error whose message has an unpaired surrogate the host is told no
message at all; `lost_message` is such an error.
-/

namespace ScriptHost

open Script (Evaluator Heap Outcome Run Val key)

variable {φ γ σ α β : Type}

section Machine

variable [Machine]

/-! ## Reading a property of an error -/

/-- What code has returned, if it has. -/
def Script.Outcome.returned? : Outcome α → Option α
  | .returned a => some a
  | .thrown _ => none
  | .suspended => none

omit [Machine] in
/-- Code that reads a property is driven to its end, and whatever comes of it, the rest goes
on from there. -/
theorem Crossing.run_tryProperty {c : Crossing φ σ}
    (hd : ∀ context call (w : World φ σ), Grows w (c.dispatch context call w).1)
    {w : World φ σ} (hr : c.context < w.realms.size) (ev : Evaluator) (v : Val) (name : String)
    (next : Option Val → Script.Action α) :
    c.run (tryProperty ev v name >>= next) w =
      c.run (next (c.run (Script.getProperty ev v (key name)) w).2.returned?)
        (c.run (Script.getProperty ev v (key name)) w).1 := by
  have hcode (h : Heap) : (tryProperty ev v name >>= next) h =
      (Script.getProperty ev v (key name) h).andThen fun h o => next o.returned? h := by
    simp only [tryProperty, bind, Script.Action.bind, Script.Action.outcome, Run.andThen_assoc,
      Run.andThen_finished]
    congr 1
    funext h o
    cases o <;> rfl
  simp only [Crossing.run, hcode]
  exact drive_andThen hd hr _ _

omit [Machine] in
/-- Code that always returns is driven to its end, and the rest goes on with what it returns. -/
theorem Crossing.run_returning {c : Crossing φ σ}
    (hd : ∀ context call (w : World φ σ), Grows w (c.dispatch context call w).1)
    {w : World φ σ} (hr : c.context < w.realms.size) {x : Script.Action α}
    (hx : (x (w.heap c.context)).Returns) (next : α → Script.Action β) :
    ∃ w' a, c.context < w'.realms.size ∧ c.run (x >>= next) w = c.run (next a) w' := by
  obtain ⟨w', a, hrun⟩ := hx.drive c.dispatch c.context w
  have hgrows := ((Comparison.self Grows.frame hd).drive c.context (x (w.heap c.context))
    (w := w) ⟨⟩).bound
  rw [hrun] at hgrows
  refine ⟨w', a, Nat.lt_of_lt_of_le hr hgrows.size_le, ?_⟩
  have hall := drive_andThen hd hr (x (w.heap c.context)) fun h o =>
    match o with
    | .returned a => next a h
    | .thrown v => .finished h (.thrown v)
    | .suspended => .finished h .suspended
  rw [hrun] at hall
  exact hall

/-- What an error is reported as: its name is what reading the property comes to, and decides
the kind of the failure whatever else is read. -/
theorem Crossing.report_error {c : Crossing φ σ}
    (hd : ∀ context call (w : World φ σ), Grows w (c.dispatch context call w).1)
    {w : World φ σ} (hr : c.context < w.realms.size) {e : ObjectRef}
    (herror : ((w.heap c.context).object e).isError = true) :
    ∃ message stack, (c.report (.object e) w).2 = (Report.error
      (nameOf (c.run (Script.getProperty c.evaluator (.object e) (key "name")) w).2.returned?)
      message stack).failure := by
  -- An error is not shown as a value, and its name is read first.
  have hcode : c.run (reportOf c.evaluator (.object e)) w =
      c.run (tryProperty c.evaluator (.object e) "name" >>= fun name =>
        tryTextOf c.evaluator (.object e) "message" >>= fun message =>
          tryTextOf c.evaluator (.object e) "stack" >>= fun stack =>
            pure (.error (nameOf name) (message.getD "") stack)) w := by
    unfold Crossing.run reportOf
    refine congrArg (fun x => drive c.dispatch c.context x w) ?_
    refine (Script.Action.bind_finished (rfl : Script.Action.read _ _ = _)).trans ?_
    split
    · rfl
    · exact absurd herror ‹_›
  rw [Crossing.run_tryProperty hd hr] at hcode
  generalize hread : c.run (Script.getProperty c.evaluator (.object e) (key "name")) w = a
    at hcode ⊢
  have hgrows := ((Comparison.self Grows.frame hd).run
    (Script.getProperty c.evaluator (.object e) (key "name")) (w := w) ⟨⟩).bound
  rw [hread] at hgrows
  obtain ⟨w₁, o⟩ := a
  have hr₁ := Nat.lt_of_lt_of_le hr hgrows.size_le
  -- Reading the message and the stack comes to an end, whatever code it runs.
  obtain ⟨w₂, message, hr₂, hmessage⟩ := Crossing.run_returning hd hr₁
    (returns_tryTextOf c.evaluator (.object e) "message" _) fun message =>
      tryTextOf c.evaluator (.object e) "stack" >>= fun stack =>
        pure (Report.error (nameOf o.returned?) (message.getD "") stack)
  obtain ⟨w₃, stack, -, hstack⟩ := Crossing.run_returning hd hr₂
    (returns_tryTextOf c.evaluator (.object e) "stack" _) fun stack =>
      pure (Report.error (nameOf o.returned?) (message.getD "") stack)
  refine ⟨message.getD "", stack, ?_⟩
  rw [hmessage, hstack] at hcode
  rw [Crossing.report, hcode]
  rfl

/-! ## Errors whose name and message are strings -/

/-- An object has, or inherits, a string under a name. -/
def Script.Heap.HasString (h : Heap) (r : ObjectRef) (name : String) (s : Units) : Prop :=
  ∃ owner writable enumerable configurable, h.findProperty? r (key name) =
    some (owner, ⟨.data (.string s) writable, enumerable, configurable⟩)

omit [Machine] in
theorem Script.Heap.HasString.getProperty {h : Heap} {r : ObjectRef} {name : String} {s : Units}
    (hs : h.HasString r name s) (ev : Evaluator) :
    Script.getProperty ev (.object r) (key name) h = .finished h (.returned (.string s)) := by
  obtain ⟨owner, writable, enumerable, configurable, hfound⟩ := hs
  simp only [Script.getProperty, Script.prototypeOf?, bind, Script.Action.bind,
    Script.Action.read, Run.andThen_finished, hfound]
  rfl

omit [Machine] in
theorem Script.Heap.HasString.tryTextOf {h : Heap} {r : ObjectRef} {name : String} {s : Units}
    (hs : h.HasString r name s) (ev : Evaluator) :
    ScriptHost.tryTextOf ev (.object r) name h = .finished h (.returned s.toString?) := by
  simp only [ScriptHost.tryTextOf, tryProperty, bind, Script.Action.bind, Script.Action.outcome,
    hs.getProperty ev, Run.andThen_finished]
  rfl

omit [Machine] in
/-- The report of such an error has the texts of both, as far as they have one. -/
theorem reportOf_strings {h : Heap} {e : ObjectRef} {s m : Units}
    (herror : (h.object e).isError = true) (hname : h.HasString e "name" s)
    (hmessage : h.HasString e "message" m) (ev : Evaluator) :
    reportOf ev (.object e) h =
      (tryTextOf ev (.object e) "stack" >>= fun stack =>
        pure (.error (s.toString?.getD defaultErrorName) (m.toString?.getD "") stack)) h := by
  have hname' : tryProperty ev (.object e) "name" h =
      .finished h (.returned (some (.string s))) := by
    simp only [tryProperty, bind, Script.Action.bind, Script.Action.outcome,
      hname.getProperty ev, Run.andThen_finished]
    rfl
  unfold reportOf
  refine (Script.Action.bind_finished (rfl : Script.Action.read _ h = _)).trans ?_
  split
  · refine (Script.Action.bind_finished hname').trans ?_
    exact Script.Action.bind_finished (hmessage.tryTextOf ev)
  · exact absurd herror ‹_›

/-- How the name or the message of an error and what the host is told of it belong together:
it is copied as any string is, or lost if a surrogate is unpaired. -/
structure Units.ToldAs (s : Units) (absent t : String) : Prop where
  copied : (∀ i, s.unpaired i = false) → s.CopiedAs t
  lost : (∃ i, s.unpaired i = true) → t = absent

omit [Machine] in
/-- A string without unpaired surrogates has a text. -/
theorem Units.toString?_of_unpaired {s : Units} (h : ∀ i, s.unpaired i = false) :
    s.toString? = some (String.ofList s.decodeLossy) := by
  rw [Units.toString?]
  cases hs : s.decode with
  | none =>
      obtain ⟨i, hi⟩ := Units.decode_eq_none_iff.mp hs
      rw [h i] at hi
      cases hi
  | some cs => rw [Option.map_some, Units.decodeLossy_of_decode hs]

omit [Machine] in
theorem Units.toldAs_getD (s : Units) (absent : String) :
    s.ToldAs absent (s.toString?.getD absent) := by
  refine ⟨fun h => ?_, fun h => ?_⟩
  · rw [Units.toString?_of_unpaired h, Option.getD_some]
    exact s.copiedAs_decodeLossy
  · have hnone : s.toString? = none := by
      rw [Units.toString?, Option.map_eq_none_iff]
      exact Units.decode_eq_none_iff.mpr h
    rw [hnone, Option.getD_none]

/-- A string without unpaired surrogates comes out as a value with the same text. -/
theorem Crossing.toValue_of_unpaired (c : Crossing φ σ) {s : Units}
    (h : ∀ i, s.unpaired i = false) (absent : String) (w : World φ σ) :
    (c.toValue (.string s) w).2 = .ok (.string w.nextValue (s.toString?.getD absent)) := by
  have htext := Units.toString?_of_unpaired h
  unfold Crossing.toValue
  dsimp only
  unfold Crossing.text
  rw [htext]
  rfl

omit [Machine] in
/-- A failure has the name and the message of the error that was reported in front. -/
theorem Report.failure_starts (name message : String) (stack : Option String) :
    ∃ text, ((Report.error name message stack).failure = .script (.compile text) ∨
        (Report.error name message stack).failure = .script (.exception text)) ∧
      (name ++ ": " ++ message ++ stackHeading).toList <+: text.toList := by
  refine ⟨name ++ ": " ++ message ++ stackHeading ++ stackSection stack, ?_,
    (stackSection stack).toList, (String.toList_append ..).symm⟩
  by_cases hname : name = rejectedName
  · exact .inl (congrArg Failure.script (if_pos hname))
  · exact .inr (congrArg Failure.script (if_neg hname))

/-- An error that nobody catches, and whose name and message are strings, is reported with
both in front.  Each of the two is what the host would get of the same string as a value, if
no surrogate in it is unpaired, and counts as absent otherwise. -/
theorem uncaught_messages_kept [LawfulMachine] {host : Host φ γ σ} {n : Nat}
    {left : Script.Stack} {result : Except Failure (Value φ)} {context r : RealmRef}
    {stack : Script.Stack} {x : Run Val} {w w' : World φ σ} {e : ObjectRef} {s m : Units}
    (hstarts : Starts host (dispatcher host n) left result context r stack x w)
    (hthrown : drive (dispatcher host n) context x w = (w', .thrown (.object e)))
    (herror : ((w'.heap context).object e).isError = true)
    (hname : (w'.heap context).HasString e "name" s)
    (hmessage : (w'.heap context).HasString e "message" m) :
    ∃ text name message,
      (result = .error (.script (.compile text)) ∨ result = .error (.script (.exception text))) ∧
      (name ++ ": " ++ message ++ "\nStacktrace:").toList <+: text.toList ∧
      s.ToldAs "Error" name ∧ m.ToldAs "" message ∧
      ((∀ i, s.unpaired i = false) →
        (Crossing.toValue ⟨dispatcher host n, context, r, stack⟩ (.string s) w').2 =
          .ok (.string w'.nextValue name)) ∧
      ((∀ i, m.unpaired i = false) →
        (Crossing.toValue ⟨dispatcher host n, context, r, stack⟩ (.string m) w').2 =
          .ok (.string w'.nextValue message)) := by
  have hd := dispatcher_grows host n
  have hr : context < w'.realms.size := by
    have hgrows := ((Comparison.self Grows.frame hd).drive context x (w := w) ⟨⟩).bound
    rw [hthrown] at hgrows
    exact Nat.lt_of_lt_of_le (hstarts.lt_size hd) hgrows.size_le
  let c : Crossing φ σ := ⟨dispatcher host n, context, r, stack⟩
  -- Name and message can be read off the heap; only the stack is still asked for.
  obtain ⟨w₁, stack, -, hstack⟩ := Crossing.run_returning (c := c) hd hr
    (returns_tryTextOf c.evaluator (.object e) "stack" _) fun stack =>
      pure (Report.error (s.toString?.getD defaultErrorName) (m.toString?.getD "") stack)
  have hreport : (c.report (.object e) w').2 = (Report.error
      (s.toString?.getD defaultErrorName) (m.toString?.getD "") stack).failure := by
    have hrun : c.run (reportOf c.evaluator (.object e)) w' = _ :=
      (congrArg (fun x => drive c.dispatch c.context x w')
        (reportOf_strings herror hname hmessage c.evaluator)).trans hstack
    rw [Crossing.report, hrun]
    rfl
  have hresult : result = .error (Report.error
      (s.toString?.getD defaultErrorName) (m.toString?.getD "") stack).failure := by
    rw [hstarts.result_eq, hthrown, ← hreport]
    rfl
  obtain ⟨text, hkind, hstart⟩ := Report.failure_starts (s.toString?.getD defaultErrorName)
    (m.toString?.getD "") stack
  refine ⟨text, _, _, ?_, hstart, s.toldAs_getD _, m.toldAs_getD _,
    fun h => c.toValue_of_unpaired h _ w', fun h => c.toValue_of_unpaired h _ w'⟩
  rw [hresult]
  exact hkind.imp (congrArg Except.error) (congrArg Except.error)

end Machine

/-! ## An error whose message is lost -/

deriving instance DecidableEq for Script.Outcome

/-- What something has failed with, if it has failed. -/
def failure? {ε : Type} : Except ε α → Option ε
  | .ok _ => none
  | .error e => some e

theorem failure?_eq_some {ε : Type} {e : ε} {x : Except ε α} :
    failure? x = some e ↔ x = .error e := by
  cases x with
  | ok a => exact iff_of_false nofun nofun
  | error e' => exact (Option.some_inj (a := e')).trans (Except.error.injEq _ _).to_iff.symm

/-- A host that exports nothing. -/
def bareHost : Host Unit Unit Unit where
  behave _ _ := .done
  generate _ _ s := ⟨.empty, 0, s⟩

/-- A script that throws an error whose name is a pair of surrogates, and whose message has one
that is unpaired. -/
def errorSource : String :=
  "var e = new Error('a\\uD800b'); e.name = '\\uD83D\\uDE00'; throw e"

/-- A realm without exports. -/
def bareWorld : World Unit Unit :=
  (createRealm (dispatcher bareHost 1) (Machine.stack {}) {} .empty (.start ())).1

/-- The world in which that script starts there. -/
def errorStart : World Unit Unit :=
  { ((bareWorld.record (.running errorSource.utf8ByteSize (bareWorld.idOf 0)
      bareWorld.depth)).enter 0).2 with live := [0] }

/-- How it ends. -/
def errorEnd : World Unit Unit × Outcome Val :=
  drive (dispatcher bareHost 1) 0
    (Machine.runSource (Machine.stack {}) errorSource (errorStart.heap 0)) errorStart

private theorem errorEnd_facts :
    errorEnd.2 = .thrown (.object 157) ∧ ((errorEnd.1.heap 0).object 157).isError = true ∧
      (errorEnd.1.heap 0).findProperty? 157 (key "name") =
        some (157, ⟨.data (.string [0xD83D, 0xDE00]) true, true, true⟩) ∧
      (errorEnd.1.heap 0).findProperty? 157 (key "message") =
        some (157, ⟨.data (.string [0x61, 0xD800, 0x62]) true, false, true⟩) := by
  decide +kernel

private theorem errorStart_starts :
    Starts bareHost (dispatcher bareHost 1) (Machine.stack {})
      (runEngine bareHost (dispatcher bareHost 1) (Machine.stack {}) ⟨{}, ()⟩ errorSource
        (.start ())).2 0 0 (Machine.stack {})
      (Machine.runSource (Machine.stack {}) errorSource (errorStart.heap 0)) errorStart := by
  obtain ⟨hmade, hnul, hidle, hscript, hroom⟩ :
      (createRealm (dispatcher bareHost 1) (Machine.stack {}) {} .empty
        (.start () : World Unit Unit)).2 = .ok 0 ∧
      nulPosition? errorSource = none ∧
      bareWorld.context? 0 = none ∧ (bareWorld.realm 0).isScript = true ∧
      (bareWorld.realm 0).stack = (Machine.stack {}) := by
    decide +kernel
  have hcontext : InContext ((bareWorld.record (.running errorSource.utf8ByteSize
      (bareWorld.idOf 0) bareWorld.depth)).enter 0).2 0 (Machine.stack {}) 0
      (bareWorld.realm 0).stack errorStart := .idle hidle hscript
  rw [hroom] at hcontext
  exact .run (Prod.snd_eq_iff.mp hmade) hnul hcontext

theorem uncaught_messages_kept_errorSource :
    Starts bareHost (dispatcher bareHost 1) (Machine.stack {})
        (runEngine bareHost (dispatcher bareHost 1) (Machine.stack {}) ⟨{}, ()⟩ errorSource
          (.start ())).2 0 0 (Machine.stack {})
        (Machine.runSource (Machine.stack {}) errorSource (errorStart.heap 0)) errorStart ∧
      errorEnd = (errorEnd.1, .thrown (.object 157)) ∧
      ((errorEnd.1.heap 0).object 157).isError = true ∧
      (errorEnd.1.heap 0).HasString 157 "name" [0xD83D, 0xDE00] ∧
      (errorEnd.1.heap 0).HasString 157 "message" [0x61, 0xD800, 0x62] ∧
      ∃ (text name message : String),
        (name ++ ": " ++ message ++ "\nStacktrace:").toList <+: text.toList ∧
        Units.ToldAs [0xD83D, 0xDE00] "Error" name ∧
        Units.ToldAs [0x61, 0xD800, 0x62] "" message := by
  obtain ⟨hthrown, herror, hname, hmessage⟩ := errorEnd_facts
  have hname' : (errorEnd.1.heap 0).HasString 157 "name" [0xD83D, 0xDE00] :=
    ⟨_, _, _, _, hname⟩
  have hmessage' : (errorEnd.1.heap 0).HasString 157 "message" [0x61, 0xD800, 0x62] :=
    ⟨_, _, _, _, hmessage⟩
  have hend := Prod.snd_eq_iff.mp hthrown
  obtain ⟨text, name, message, -, htext, htold, htold', -⟩ :=
    uncaught_messages_kept errorStart_starts hend herror hname' hmessage'
  exact ⟨errorStart_starts, hend, herror, hname', hmessage', text, name, message, htext, htold,
    htold'⟩

/-- The host is told of that error by its name, and of no message, while a script reads the
message as it is, and as a value it comes out repaired. -/
theorem lost_message :
    failure? (bareHost.run ⟨{}, ()⟩ errorSource (.start ())).2 =
        some (.script (.exception "😀: \nStacktrace:\n    at <eval> (eval_script)\n")) ∧
      ¬"😀: a\uFFFDb".toList <+: "😀: \nStacktrace:\n    at <eval> (eval_script)\n".toList ∧
      (bareHost.run ⟨{}, ()⟩ "new Error('a\\uD800b').message" (.start ())).2.toOption.map
        Value.stringValue = some "a\uFFFDb" := by
  decide +kernel

end ScriptHost
