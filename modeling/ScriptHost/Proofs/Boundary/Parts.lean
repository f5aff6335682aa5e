import ScriptHost.Proofs.Boundary.Builds
import ScriptHost.Proofs.World.History

/-!
# What a realm gets for an export

A namespace asks a realm for one thing for each of its exports, at every depth: a value that is
no object, a function that the realm already has, a new function that leads to a callback, or a
new object.  `pieces` lists what is asked for, each with the names that lead to it, and does
not look at any world.  `parts` follows a conversion as it goes and lists what the realm gives,
as far as the conversion comes.

`Puts` says that between two worlds these parts went into a realm one after the other.
Between one part and the next an assignment may have run code, which may have done anything;
but a heap does not shrink, so a part that was made at some moment differs from every object
that was there at that moment.  Nothing is asked of the realm here: not that scripts have left
it alone, and not that the conversion succeeds.
-/

namespace ScriptHost

open Script (Heap Val)

variable [Machine] {φ γ σ α β : Type}

/-! ## What is asked for -/

/-- What an export asks a realm for. -/
inductive Piece (φ : Type) where
  /-- A value that is no object. -/
  | scalar
  | function (f : FunctionRef)
  | callback (f : φ)
  | object

/-- The object that is asked for, if it is a function of the realm. -/
def Piece.own? (r : RealmRef) : Piece φ → Option ObjectRef
  | .function f => f.objectIn? r
  | _ => none

mutual
/-- All that a value asks for, depth first, with the names that lead there. -/
def Value.pieces (place : List String) : Value φ → List (List String × Piece φ)
  | .object _ exports => (place, .object) :: exports.pieces place
  | .function _ f => [(place, .function f)]
  | .null => [(place, .scalar)]
  | .undefined => [(place, .scalar)]
  | .number _ _ => [(place, .scalar)]
  | .string _ _ => [(place, .scalar)]

/-- All that the exports of a namespace ask for. -/
def Namespace.pieces (place : List String) : Namespace φ → List (List String × Piece φ)
  | .empty => []
  | .entry name item rest => item.pieces (place ++ [name]) ++ rest.pieces place

/-- All that an export asks for. -/
def Export.pieces (place : List String) : Export φ → List (List String × Piece φ)
  | .value v => v.pieces place
  | .callback f => [(place, .callback f)]
  | .nested exports => (place, .object) :: exports.pieces place
end

/-! ## What is given -/

/-- Something that was asked for, and the script value that was given for it. -/
structure Part (φ : Type) where
  place : List String
  piece : Piece φ
  value : Val

namespace Part

/-- What was asked for. -/
def asked (p : Part φ) : List String × Piece φ := (p.place, p.piece)

/-- The object that was given. -/
def object? (p : Part φ) : Option ObjectRef :=
  match p.value with
  | .object o => some o
  | _ => none

/-- The object that was made for it. -/
def made? (p : Part φ) : Option ObjectRef :=
  match p.piece with
  | .callback _ => p.object?
  | .object => p.object?
  | _ => none

/-- What was given is what was asked for. -/
def Lawful (r : RealmRef) (w : World φ σ) (p : Part φ) : Prop :=
  match p.piece with
  | .scalar => p.object? = none
  | .function f => p.value = f.restored r
  | .callback f => ∃ o, p.value = .object o ∧ Exported r o f w
  | .object => ∃ o, p.value = .object o ∧ o < (w.heap r).size ∧
      ((w.heap r).object o).kind = .plain

theorem Lawful.later {r : RealmRef} {w w' : World φ σ} {p : Part φ} (hp : p.Lawful r w)
    (hl : w.Later w') : p.Lawful r w' := by
  obtain ⟨place, piece, value⟩ := p
  cases piece with
  | scalar => exact hp
  | function f => exact hp
  | callback f =>
      obtain ⟨o, ho, hexported⟩ := hp
      exact ⟨o, ho, hexported.later hl⟩
  | object =>
      obtain ⟨o, ho, hsize, hkind⟩ := hp
      exact ⟨o, ho, Nat.lt_of_lt_of_le hsize (hl.heaps r).size_le,
        ((hl.heaps r).kind_eq o hsize).trans hkind⟩

/-- An object that was given was made or is a function of the realm. -/
theorem Lawful.object?_iff {r : RealmRef} {w : World φ σ} {p : Part φ} (hp : p.Lawful r w)
    (o : ObjectRef) : p.object? = some o ↔ p.made? = some o ∨ p.piece.own? r = some o := by
  obtain ⟨place, piece, value⟩ := p
  cases piece with
  | scalar =>
      have hnone : object? (⟨place, .scalar, value⟩ : Part φ) = none := hp
      rw [hnone]
      refine ⟨fun h => ?_, fun h => ?_⟩
      · cases h
      · rcases h with h | h
        · cases h
        · cases h
  | function f =>
      obtain rfl : value = f.restored r := hp
      have hgiven : object? (⟨place, .function f, f.restored r⟩ : Part φ) = f.objectIn? r := by
        unfold FunctionRef.restored object?
        cases f.objectIn? r <;> rfl
      rw [hgiven]
      exact ⟨.inr, fun h => h.elim (fun h => by cases h) id⟩
  | callback f => exact ⟨.inl, fun h => h.elim id fun h => by cases h⟩
  | object => exact ⟨.inl, fun h => h.elim id fun h => by cases h⟩

end Part

/-- The objects that were given. -/
def objectsOf (ps : List (Part φ)) : List ObjectRef := ps.filterMap Part.object?

/-- The objects that were made. -/
def madeOf (ps : List (Part φ)) : List ObjectRef := ps.filterMap Part.made?

/-- The functions of the realm that were asked for. -/
def ownOf (r : RealmRef) (ps : List (Part φ)) : List ObjectRef :=
  ps.filterMap fun p => p.piece.own? r

/-- Parts of the rest of a conversion that has succeeded so far. -/
def following (a : World φ σ × Except Failure α) (next : World φ σ → α → List (Part φ)) :
    List (Part φ) :=
  match a with
  | (_, .error _) => []
  | (w, .ok x) => next w x

mutual
/-- What a value is given, as far as it goes in. -/
def Value.parts (c : Crossing φ σ) (place : List String) : Value φ → World φ σ → List (Part φ)
  | .object _ exports, w =>
    following (c.allocatePlain w) fun w' o =>
      ⟨place, .object, .object o⟩ :: exports.parts c place o w'
  | .function _ f, w => following (c.restore f w) fun _ x => [⟨place, .function f, x⟩]
  | .null, _ => [⟨place, .scalar, .null⟩]
  | .undefined, _ => [⟨place, .scalar, .undefined⟩]
  | .number _ x, _ => [⟨place, .scalar, .ofNumber x⟩]
  | .string id s, w => following ((Value.string id s).extract c w) fun _ x => [⟨place, .scalar, x⟩]

/-- What the exports of a namespace are given, as far as they go in. -/
def Namespace.parts (c : Crossing φ σ) (place : List String) :
    Namespace φ → ObjectRef → World φ σ → List (Part φ)
  | .empty, _, _ => []
  | .entry name item rest, target, w =>
    item.parts c (place ++ [name]) name w ++
      following (item.realise c name w) fun w' v =>
        following (c.assign target name v w') fun w'' _ => rest.parts c place target w''

/-- What an export is given, as far as it goes in. -/
def Export.parts (c : Crossing φ σ) (place : List String) (name : String) :
    Export φ → World φ σ → List (Part φ)
  | .value v, w => v.parts c place w
  | .callback f, w =>
    following (c.makeNative name f w) fun _ o => [⟨place, .callback f, .object o⟩]
  | .nested exports, w =>
    following (c.allocatePlain w) fun w' o =>
      ⟨place, .object, .object o⟩ :: exports.parts c place o w'
end

theorem parts_nested (c : Crossing φ σ) (place : List String) (name : String) (id : ValueId)
    (exports : Namespace φ) (w : World φ σ) :
    (Export.nested exports).parts c place name w = (Value.object id exports).parts c place w := by
  simp only [Export.parts, Value.parts]

omit [Machine] in
theorem pieces_nested (place : List String) (id : ValueId) (exports : Namespace φ) :
    (Export.nested exports).pieces place = (Value.object id exports).pieces place := by
  simp only [Export.pieces, Value.pieces]

/-! ## Parts go in one after the other -/

/-- A realm gives a part: what has to be made for it is new. -/
structure Gives (r : RealmRef) (w w' : World φ σ) (p : Part φ) : Prop where
  later : w.Later w'
  lawful : p.Lawful r w'
  new (o : ObjectRef) : p.made? = some o → o = (w.heap r).size ∧ o < (w'.heap r).size

/-- Between two worlds, a realm gives parts one after the other. -/
inductive Puts (r : RealmRef) : World φ σ → List (Part φ) → World φ σ → Prop
  | done {w w' : World φ σ} : w.Later w' → Puts r w [] w'
  | next {w m m' w' : World φ σ} {p : Part φ} {ps : List (Part φ)} :
      w.Later m → Gives r m m' p → Puts r m' ps w' → Puts r w (p :: ps) w'

namespace Puts

variable {r : RealmRef} {w w' w'' : World φ σ} {ps qs : List (Part φ)}

theorem after (hl : w.Later w') (h : Puts r w' ps w'') : Puts r w ps w'' := by
  cases h with
  | done hl' => exact .done (hl.trans hl')
  | next hm hp hrest => exact .next (hl.trans hm) hp hrest

theorem trans (h : Puts r w ps w') (h' : Puts r w' qs w'') : Puts r w (ps ++ qs) w'' := by
  induction h with
  | done hl => exact h'.after hl
  | next hm hp _ ih => exact .next hm hp (ih h')

end Puts

/-! ## Conversions -/

/-- A conversion gives parts of what is asked for in their order, and all of them if it
succeeds. -/
structure Realises (r : RealmRef) (asked : List (List String × Piece φ)) (w : World φ σ)
    (ps : List (Part φ)) (a : World φ σ × Except Failure α) : Prop where
  puts : Puts r w ps a.1
  begins : ps.map Part.asked <+: asked
  all (x : α) : a.2 = .ok x → ps.map Part.asked = asked

namespace Realises

variable {r : RealmRef} {asked asked' : List (List String × Piece φ)} {w w' : World φ σ}
variable {ps : List (Part φ)}

theorem single {p : Part φ} {a : World φ σ × Except Failure α} (hp : Gives r w a.1 p) :
    Realises r [p.asked] w [p] a :=
  ⟨.next (.refl w) hp (.done (.refl _)), List.prefix_rfl, fun _ _ => rfl⟩

/-- A part is given if it can be made. -/
theorem made {asked : List String × Piece φ} {p : α → Part φ}
    {a : World φ σ × Except Failure α} (hl : w.Later a.1)
    (hp : ∀ x, a.2 = .ok x → (p x).asked = asked ∧ Gives r w a.1 (p x)) :
    Realises r [asked] w (following a fun _ x => [p x]) a := by
  obtain ⟨w', e | x⟩ := a
  · exact ⟨.done hl, List.nil_prefix, fun _ hx => nomatch hx⟩
  · obtain ⟨rfl, hgives⟩ := hp x rfl
    exact .single hgives

theorem nothing {a : World φ σ × Except Failure α} (hl : w.Later a.1) :
    Realises r ([] : List (List String × Piece φ)) w [] a :=
  ⟨.done hl, List.prefix_rfl, fun _ _ => rfl⟩

/-- One conversion goes on after another that has succeeded. -/
theorem sequel {a : World φ σ × Except Failure α} {qs : World φ σ → α → List (Part φ)}
    {next : World φ σ → α → World φ σ × Except Failure β} (ha : Realises r asked w ps a)
    (hnext : ∀ w' x, a = (w', .ok x) → Realises r asked' w' (qs w' x) (next w' x)) :
    Realises r (asked ++ asked') w (ps ++ following a qs) (ScriptHost.sequel a next) := by
  obtain ⟨w', e | x⟩ := a
  · refine ⟨?_, ?_, fun _ hx => ?_⟩
    · simp only [following, List.append_nil]
      exact ha.puts
    · simp only [following, List.append_nil]
      exact ha.begins.trans (List.prefix_append asked asked')
    · cases hx
  · have hfirst := ha.all x rfl
    have hrest := hnext w' x rfl
    refine ⟨ha.puts.trans hrest.puts, ?_, fun y hy => ?_⟩
    · rw [List.map_append, hfirst]
      exact (List.prefix_append_right_inj asked).mpr hrest.begins
    · rw [List.map_append, hfirst]
      exact congrArg (asked ++ ·) (hrest.all y hy)

/-- What a conversion returns makes no difference. -/
theorem returning {a : World φ σ × Except Failure α} (ha : Realises r asked w ps a)
    (f : α → β) : Realises r asked w ps (ScriptHost.sequel a fun w' x => (w', .ok (f x))) := by
  obtain ⟨w', e | x⟩ := a
  · exact ⟨ha.puts, ha.begins, fun _ hx => by cases hx⟩
  · exact ⟨ha.puts, ha.begins, fun _ _ => ha.all x rfl⟩

end Realises

omit [Machine] in
/-- A number is no object, in either representation. -/
private theorem object?_ofNumber (place : List String) (x : Double) :
    Part.object? (⟨place, .scalar, .ofNumber x⟩ : Part φ) = none := by
  unfold Val.ofNumber
  cases x.toInt32? with
  | none => rfl
  | some n => rfl

omit [Machine] in
theorem Grows.sequel {w : World φ σ} {a : World φ σ × Except Failure α}
    {next : World φ σ → α → World φ σ × Except Failure β} (ha : Grows w a.1)
    (hnext : ∀ w' x, Grows w' (next w' x).1) : Grows w (ScriptHost.sequel a next).1 := by
  obtain ⟨w', e | x⟩ := a
  · exact ha
  · exact ha.trans (hnext w' x)

omit [Machine] in
/-- What goes on does not shrink the world. -/
theorem few_of_sequel {a : World φ σ × Except Failure α}
    {next : World φ σ → α → World φ σ × Except Failure β}
    (hg : ∀ w x, a = (w, .ok x) → Grows w (next w x).1)
    (hfew : (sequel a next).1.realms.size < 2 ^ 32) : a.1.realms.size < 2 ^ 32 := by
  obtain ⟨w, e | x⟩ := a
  · exact hfew
  · exact Nat.lt_of_le_of_lt (hg w x rfl).size_le hfew

omit [Machine] in
theorem following_append (a : World φ σ × Except Failure α)
    (ps qs : World φ σ → α → List (Part φ)) :
    following a ps ++ following a qs = following a fun w x => ps w x ++ qs w x := by
  obtain ⟨w, e | x⟩ := a <;> rfl

section Conversions

variable {d d' : Dispatcher φ σ} {r : RealmRef} {stack : Script.Stack} {w : World φ σ}

/-- A function is given as what it is in the realm. -/
private theorem restore_realises (place : List String) (f : FunctionRef) (hn : w.Numbered)
    (hfew : w.realms.size < 2 ^ 32) (hr : r < w.realms.size) :
    Realises r [(place, .function f)] w
      (following (Crossing.restore ⟨d, r, r, stack⟩ f w) fun _ x =>
        [(⟨place, .function f, x⟩ : Part φ)])
      (Crossing.restore ⟨d, r, r, stack⟩ f w) := by
  have hconfine : Crossing.restore ⟨d, r, r, stack⟩ f w = Crossing.confine ⟨d, r, r, stack⟩ f w :=
    restore_eq_confine hn hfew hr f
  have hnone (x : Val) : (⟨place, .function f, x⟩ : Part φ).made? = none := rfl
  rw [hconfine]
  unfold Crossing.confine
  dsimp only
  cases hf : f.objectIn? r with
  | some o =>
      refine .single (p := ⟨place, .function f, .object o⟩) ⟨.refl w, ?_, fun o' ho' => ?_⟩
      · show Val.object o = f.restored r
        rw [FunctionRef.restored, hf]
        rfl
      · cases ho'
  | none =>
      refine .single (p := ⟨place, .function f, .undefined⟩)
        ⟨later_record w _, ?_, fun o' ho' => ?_⟩
      · show Val.undefined = f.restored r
        rw [FunctionRef.restored, hf]
        rfl
      · cases ho'

/-- The function of a callback is given, if it can be made. -/
private theorem makeNative_realises (place : List String) (name : String) (f : φ)
    (hr : r < w.realms.size) :
    Realises r [(place, .callback f)] w
      (following (Crossing.makeNative ⟨d, r, r, stack⟩ name f w) fun _ o =>
        [(⟨place, .callback f, .object o⟩ : Part φ)])
      (Crossing.makeNative ⟨d, r, r, stack⟩ name f w) := by
  refine .made (makeNative_later name f hr) fun o ho => ⟨rfl, makeNative_later name f hr,
    ⟨o, rfl, d, stack, name, w, hr, ho, .refl _⟩, fun o' ho' => ?_⟩
  cases ho'
  obtain ⟨hheap, rfl⟩ := heap_makeNative hr ho
  rw [hheap]
  exact ⟨rfl, (w.heap r).lt_size_allocate _⟩

/-- A new plain object is given, if it can be made. -/
private theorem allocatePlain_realises (place : List String) (hr : r < w.realms.size) :
    Realises r [(place, .object)] w
      (following (Crossing.allocatePlain ⟨d, r, r, stack⟩ w) fun _ o =>
        [(⟨place, .object, .object o⟩ : Part φ)])
      (Crossing.allocatePlain ⟨d, r, r, stack⟩ w) := by
  have hl : w.Later (Crossing.allocatePlain ⟨d, r, r, stack⟩ w).1 := allocate_later _ _ hr
  refine .made hl fun o ho => ⟨rfl, hl, ?_, fun o' ho' => ?_⟩
  all_goals obtain ⟨hheap, rfl⟩ := heap_allocatePlain hr ho
  · refine ⟨_, rfl, ?_, ?_⟩
    · rw [hheap]
      exact (w.heap r).lt_size_allocate _
    · rw [hheap, Heap.object_allocate_self]
      rfl
  · cases ho'
    rw [hheap]
    exact ⟨rfl, (w.heap r).lt_size_allocate _⟩

variable (A : Regime.roaming.Answers .any (.all : Knowledge φ γ σ) d d')

include A

/-- A new object is given, and then the exports of a namespace for it. -/
private theorem object_realises (place : List String) (id : ValueId) {exports : Namespace φ}
    (hinstall : ∀ {target : ObjectRef} {w : World φ σ},
      w.Sound .any (.all : Knowledge φ γ σ) → r < w.realms.size →
        (exports.install ⟨d, r, r, stack⟩ target w).1.realms.size < 2 ^ 32 →
          Realises r (exports.pieces place) w (exports.parts ⟨d, r, r, stack⟩ place target w)
            (exports.install ⟨d, r, r, stack⟩ target w))
    (hw : w.Sound .any (.all : Knowledge φ γ σ)) (hr : r < w.realms.size)
    (hfew : ((Value.object id exports).extract ⟨d, r, r, stack⟩ w).1.realms.size < 2 ^ 32) :
    Realises r ((Value.object id exports).pieces place) w
      ((Value.object id exports).parts ⟨d, r, r, stack⟩ place w)
      ((Value.object id exports).extract ⟨d, r, r, stack⟩ w) := by
  rw [extract_object] at hfew ⊢
  have hready : Regime.roaming.Ready .any (.all : Knowledge φ γ σ) r w := ⟨trivial, hr, hw⟩
  have hgrows (w' : World φ σ) (o : ObjectRef) :
      Grows w' (exports.install ⟨d, r, r, stack⟩ o w').1 :=
    (A.grown.install (c := ⟨d, r, r, stack⟩) exports o ⟨⟩).bound
  have hfewPlain := few_of_sequel (fun w' o _ => (hgrows w' o).sequel fun w'' _ => .refl w'') hfew
  have hplain := hready.allocatePlain stack d d' hfewPlain
  have hparts : (Value.object id exports).parts ⟨d, r, r, stack⟩ place w =
      following (Crossing.allocatePlain ⟨d, r, r, stack⟩ w)
          (fun _ o => [(⟨place, .object, .object o⟩ : Part φ)]) ++
        following (Crossing.allocatePlain ⟨d, r, r, stack⟩ w) fun w' o =>
          exports.parts ⟨d, r, r, stack⟩ place o w' := by
    simp only [Value.parts, following_append, List.singleton_append]
  rw [hparts]
  simp only [Value.pieces]
  refine (allocatePlain_realises place hr).sequel fun w' o ho => ?_
  rw [ho] at hplain hfew
  have hfewInstall : (sequel (exports.install ⟨d, r, r, stack⟩ o w') fun w'' _ =>
      (w'', (.ok (.object o) : Except Failure Val))).1.realms.size < 2 ^ 32 := hfew
  have hfew₂ := few_of_sequel (fun w _ _ => Grows.refl w) hfewInstall
  exact (hinstall hplain.sound (Nat.lt_of_lt_of_le hr hplain.later.size_le) hfew₂).returning
    fun _ => Val.object o

mutual
/-- A value is given what it asks for, at every depth. -/
theorem extract_realises [LawfulMachine] (v : Value φ) (place : List String) {w : World φ σ}
    (hw : w.Sound .any (.all : Knowledge φ γ σ)) (hr : r < w.realms.size)
    (hfew : (v.extract ⟨d, r, r, stack⟩ w).1.realms.size < 2 ^ 32) :
    Realises r (v.pieces place) w (v.parts ⟨d, r, r, stack⟩ place w)
      (v.extract ⟨d, r, r, stack⟩ w) := by
  have hscalar (x : Val) (hx : Part.object? (⟨place, .scalar, x⟩ : Part φ) = none) :
      Realises r [(place, .scalar)] w [(⟨place, .scalar, x⟩ : Part φ)]
        (w, (.ok x : Except Failure Val)) :=
    .single (p := ⟨place, .scalar, x⟩) ⟨.refl w, hx, fun o ho => by cases ho⟩
  cases v with
  | null => exact hscalar .null rfl
  | undefined => exact hscalar .undefined rfl
  | number id x => exact hscalar (.ofNumber x) (object?_ofNumber place x)
  | string id s =>
      simp only [Value.pieces, Value.parts]
      have hworld := world_extract_string ⟨d, r, r, stack⟩ id s w
      refine .made (by rw [hworld]; exact .refl w) fun x hx => ⟨rfl, ?_⟩
      rw [hworld]
      refine ⟨.refl w, ?_, fun o ho => by cases ho⟩
      unfold Value.extract at hx
      split at hx
      · cases hx
        rfl
      · cases hx
  | function id f =>
      have hgrows := (A.grown.restore (c := ⟨d, r, r, stack⟩) f w).bound
      exact restore_realises place f hw.numbered (Nat.lt_of_le_of_lt hgrows.size_le hfew) hr
  | object id exports =>
      exact object_realises A place id (fun hw hr hfew => install_realises exports place hw hr hfew)
        hw hr hfew

/-- The exports of a namespace are given what they ask for, one after the other.  In between
they are assigned, and an assignment may run code: it leaves a sound world, which is all that
the next export needs. -/
theorem install_realises [LawfulMachine] (exports : Namespace φ) (place : List String)
    {target : ObjectRef} {w : World φ σ} (hw : w.Sound .any (.all : Knowledge φ γ σ))
    (hr : r < w.realms.size)
    (hfew : (exports.install ⟨d, r, r, stack⟩ target w).1.realms.size < 2 ^ 32) :
    Realises r (exports.pieces place) w (exports.parts ⟨d, r, r, stack⟩ place target w)
      (exports.install ⟨d, r, r, stack⟩ target w) := by
  cases exports with
  | empty => exact .nothing (.refl w)
  | entry name item rest =>
      rw [install_entry] at hfew ⊢
      simp only [Namespace.pieces, Namespace.parts]
      -- What an assignment leaves grows, and so does the rest.
      have hrest (w' : World φ σ) : Grows w' (rest.install ⟨d, r, r, stack⟩ target w').1 :=
        (A.grown.install (c := ⟨d, r, r, stack⟩) rest target ⟨⟩).bound
      have hassign (w' : World φ σ) (v : Val) :
          Grows w' (Crossing.assign ⟨d, r, r, stack⟩ target name v w').1 :=
        (A.grown.assign (c := ⟨d, r, r, stack⟩) target name v ⟨⟩).bound
      have hboth (w' : World φ σ) (v : Val) :
          Grows w' (sequel (Crossing.assign ⟨d, r, r, stack⟩ target name v w') fun w'' _ =>
            rest.install ⟨d, r, r, stack⟩ target w'').1 :=
        (hassign w' v).sequel fun w'' _ => hrest w''
      have hfew₁ := few_of_sequel (fun w' v _ => hboth w' v) hfew
      have hitem := realise_realises item (place ++ [name]) name hw hr hfew₁
      have hsane := A.realise stack item name World.le_held_any ⟨trivial, hr, hw⟩ hfew₁
      refine hitem.sequel fun w₁ v hv => ?_
      rw [hv] at hsane hfew
      have hr₁ : r < w₁.realms.size := Nat.lt_of_lt_of_le hr hsane.later.size_le
      have hready : Regime.roaming.Ready .any (.all : Knowledge φ γ σ) r w₁ :=
        ⟨trivial, hr₁, hsane.sound⟩
      have hfewRest : (sequel (Crossing.assign ⟨d, r, r, stack⟩ target name v w₁) fun w'' _ =>
          rest.install ⟨d, r, r, stack⟩ target w'').1.realms.size < 2 ^ 32 := hfew
      have hfew₂ := few_of_sequel (fun w'' _ _ => hrest w'') hfewRest
      have htarget : Script.RefRule.any.Allows (w₁.heap r).size target := trivial
      have hassigned := A.assign stack name htarget (sound_any _ v) hready hfew₂
      have hnothing : Realises r ([] : List (List String × Piece φ)) w₁ []
          (Crossing.assign ⟨d, r, r, stack⟩ target name v w₁) := .nothing hassigned.later
      refine hnothing.sequel fun w₂ u hu => ?_
      rw [hu] at hassigned hfewRest
      exact install_realises rest place hassigned.sound
        (Nat.lt_of_lt_of_le hr₁ hassigned.later.size_le) hfewRest

/-- An export is given what it asks for. -/
theorem realise_realises [LawfulMachine] (item : Export φ) (place : List String)
    (name : String) {w : World φ σ} (hw : w.Sound .any (.all : Knowledge φ γ σ))
    (hr : r < w.realms.size)
    (hfew : (item.realise ⟨d, r, r, stack⟩ name w).1.realms.size < 2 ^ 32) :
    Realises r (item.pieces place) w (item.parts ⟨d, r, r, stack⟩ place name w)
      (item.realise ⟨d, r, r, stack⟩ name w) := by
  cases item with
  | value v => exact extract_realises v place hw hr hfew
  | callback f =>
      rw [realise_callback]
      exact (makeNative_realises place name f hr).returning fun o => Val.object o
  | nested exports =>
      rw [realise_nested _ _ 0] at hfew ⊢
      rw [parts_nested _ _ _ 0, pieces_nested place 0]
      exact object_realises A place 0 (fun hw hr hfew => install_realises exports place hw hr hfew)
        hw hr hfew
end

end Conversions

end ScriptHost
