import ScriptHost.Proofs.Value.Makings

/-!
# What handles stand for

The operations of a host have a second reading, the account, that knows nothing of cells and
counts.  There a name stands for a value with an identity: making a value takes an identity that
nothing had before, and cloning copies the value together with its identity.

The store agrees with the account.  A cell reads as a value with the number of the cell as its
identity, and what is read stays the same whatever is made afterwards, because a cell refers to
older cells only (`Formed.read_extends`).  So a new cell reads as what the account says was made
(`ValueMaking.run_agrees`), with one case for every kind of making.
-/

namespace ScriptHost

variable {φ : Type} {s t : Store φ} {c d : CellRef} {handles : Handles} {name : String}

open Store

/-! ## The account -/

/-- What a name stands for. -/
inductive Held (φ : Type) where
  | value (v : Value φ)
  | nested (n : Namespace φ)

/-- The names with what they stand for, and the next identity. -/
structure Account (φ : Type) where
  held : List (String × Held φ) := []
  next : ValueId := 2

/-- The exports of a namespace, or of an object. -/
def Held.exports : Held φ → Namespace φ
  | .value (.object _ n) => n
  | .nested n => n
  | _ => .empty

def Export.held? : Export φ → Option (Held φ)
  | .value v => some (.value v)
  | .callback _ => none
  | .nested n => some (.nested n)

/-- What the names of exports lead to. -/
def Held.follow : Held φ → List String → Option (Held φ)
  | h, [] => some h
  | h, name :: path =>
    match (h.exports.toList.lookup name).bind Export.held? with
    | some g => g.follow path
    | none => none

def findHeld (held : List (String × Held φ)) (of : Place) : Option (Held φ) :=
  (held.lookup of.name).bind fun h => h.follow of.path

mutual
/-- The value that is made, and the next identity after it. -/
def ValueMaking.value (held : List (String × Held φ)) : ValueMaking φ → ValueId → Value φ × ValueId
  | .null, k => (.null, k)
  | .undefined, k => (.undefined, k)
  | .number x, k => (.number k x, k + 1)
  | .string x, k => (.string k x, k + 1)
  | .function f, k => (.function k f, k + 1)
  | .object n, k =>
    let (n, k) := n.namespace held k
    (.object k n, k + 1)
  | .clone of, k =>
    match findHeld held of with
    | some (.value v) => (v, k)
    | _ => (.undefined, k)

/-- The namespace that is made.  It takes a number of its own. -/
def NamespaceMaking.namespace (held : List (String × Held φ)) :
    NamespaceMaking φ → ValueId → Namespace φ × ValueId
  | .build exports, k =>
    let (b, k) := exports.builder held {} k
    (b.build, k + 1)
  | .clone of, k =>
    match findHeld held of with
    | some (.nested n) => (n, k)
    | _ => (.empty, k + 1)

/-- The builder after exporting one thing after the other. -/
def ExportsMaking.builder (held : List (String × Held φ)) :
    ExportsMaking φ → ExportBuilder φ → ValueId → ExportBuilder φ × ValueId
  | .nil, b, k => (b, k)
  | .value name v rest, b, k =>
    let (v, k) := v.value held k
    rest.builder held (b.export name (.value v)) k
  | .callback name f rest, b, k => rest.builder held (b.export name (.callback f)) k
  | .nested name n rest, b, k =>
    let (n, k) := n.namespace held k
    rest.builder held (b.export name (.nested n)) k
end

namespace Account

def drop (a : Account φ) (name : String) : Account φ :=
  { a with held := a.held.filter fun e => e.1 != name }

def keep (a : Account φ) (name : String) (h : Held φ) (next : ValueId) : Account φ :=
  ⟨(name, h) :: (a.drop name).held, next⟩

def step (a : Account φ) : HandleOperation φ → Account φ
  | .value name v =>
    let (v, k) := v.value a.held a.next
    a.keep name (.value v) k
  | .nested name n =>
    let (n, k) := n.namespace a.held a.next
    a.keep name (.nested n) k
  | .drop name => a.drop name

/-- The account of some operations. -/
def after (operations : List (HandleOperation φ)) : Account φ := operations.foldl step {}

end Account

/-! ## What cells read as -/

/-- An export with what it refers to read. -/
def Store.exportOf (s : Store φ) : StoredExport φ → Export φ
  | .value c => .value (s.read c)
  | .callback f => .callback f
  | .nested c => .nested (s.readNamespace c)

/-- What a handle to a cell stands for. -/
def Store.describe (s : Store φ) (c : CellRef) : Held φ :=
  if s.isValue c then .value (s.read c) else .nested (s.readNamespace c)

namespace Store

theorem Formed.read_object (h : s.Formed) {n : CellRef} (hc : s.content? c = some (.object n)) :
    s.read c = .object c (s.readNamespace n) := by
  have hlt : n < c := h.older c n (by rw [refs_of_content hc]; exact List.mem_singleton_self n)
  rw [read, hc]
  simp only [hlt, dif_pos]

theorem Formed.readNamespace_exports (h : s.Formed) {entries : List (String × StoredExport φ)}
    (hc : s.content? c = some (.exports entries)) :
    s.readNamespace c = .ofList (entries.map fun e => (e.1, s.exportOf e.2)) := by
  have holder : ∀ d ∈ cellsOf entries, d < c := fun d hd =>
    h.older c d (by rw [refs_of_content hc]; exact hd)
  rw [readNamespace, hc]
  refine congrArg Namespace.ofList (List.map_congr_left fun e he => ?_)
  obtain ⟨key, item⟩ := e
  have hcell : ∀ d, item.cell? = some d → d < c := fun d hd =>
    holder d (List.mem_filterMap.mpr ⟨_, he, hd⟩)
  cases item with
  | value d => simp only [hcell d rfl, dif_pos, exportOf]
  | callback f => rfl
  | nested d => simp only [hcell d rfl, dif_pos, exportOf]

theorem content_of_isValue (h : s.isValue c = true) : (s.content? c).isSome := by
  unfold isValue at h
  cases hc : s.content? c with
  | none => rw [hc] at h; cases h
  | some content => rfl

theorem content_of_namespace (h : (s.namespace? c).isSome) : (s.content? c).isSome := by
  obtain ⟨entries, hentries⟩ := Option.isSome_iff_exists.mp h
  rw [namespace?_eq_some.mp hentries]
  rfl

/-- What is read stays the same when something is made. -/
theorem Formed.read_extends (h : s.Formed) (ht : t.Formed) (hextends : Extends s t)
    (hc : (s.content? c).isSome) :
    t.read c = s.read c ∧ t.readNamespace c = s.readNamespace c := by
  induction c using Nat.strong_induction_on with
  | _ c ih =>
      obtain ⟨content, hcontent⟩ := Option.isSome_iff_exists.mp hc
      have hcontent' := hextends.kept c content hcontent
      have hhas := h.has c content hcontent
      cases content with
      | object n =>
          have hlt : n < c := h.older c n
            (by rw [refs_of_content hcontent]; exact List.mem_singleton_self n)
          refine ⟨?_, by rw [readNamespace, readNamespace, hcontent, hcontent']⟩
          rw [h.read_object hcontent, ht.read_object hcontent',
            (ih n hlt (content_of_namespace hhas)).2]
      | exports entries =>
          refine ⟨by rw [read, read, hcontent, hcontent'], ?_⟩
          rw [h.readNamespace_exports hcontent, ht.readNamespace_exports hcontent']
          refine congrArg Namespace.ofList (List.map_congr_left fun e he => ?_)
          obtain ⟨key, item⟩ := e
          have hitem : s.HasExport item := hhas _ he
          have hlt : ∀ d, item.cell? = some d → d < c := fun d hd => h.older c d
            (by rw [refs_of_content hcontent]; exact List.mem_filterMap.mpr ⟨_, he, hd⟩)
          cases item with
          | value d => simp only [exportOf, (ih d (hlt d rfl) (content_of_isValue hitem)).1]
          | callback f => rfl
          | nested d => simp only [exportOf, (ih d (hlt d rfl) (content_of_namespace hitem)).2]
      | _ =>
          constructor
          · rw [read, read, hcontent, hcontent']
          · rw [readNamespace, readNamespace, hcontent, hcontent']

theorem isValue_extends (hextends : Extends s t) (hc : (s.content? c).isSome) :
    t.isValue c = s.isValue c := by
  obtain ⟨content, hcontent⟩ := Option.isSome_iff_exists.mp hc
  rw [isValue_of_content hcontent, isValue_of_content (hextends.kept c content hcontent)]

theorem Formed.describe_extends (h : s.Formed) (ht : t.Formed) (hextends : Extends s t)
    (hc : (s.content? c).isSome) : t.describe c = s.describe c := by
  obtain ⟨hread, hnamespace⟩ := h.read_extends ht hextends hc
  rw [describe, describe, isValue_extends hextends hc, hread, hnamespace]

theorem Formed.exportOf_extends (h : s.Formed) (ht : t.Formed) (hextends : Extends s t)
    {item : StoredExport φ} (hitem : s.HasExport item) : t.exportOf item = s.exportOf item := by
  cases item with
  | value d =>
      exact congrArg Export.value (h.read_extends ht hextends (content_of_isValue hitem)).1
  | callback f => rfl
  | nested d =>
      exact congrArg Export.nested (h.read_extends ht hextends (content_of_namespace hitem)).2

theorem describe_of_isValue (h : s.isValue c = true) : s.describe c = .value (s.read c) := if_pos h

theorem isValue_of_namespace (h : (s.namespace? c).isSome) : s.isValue c = false := by
  obtain ⟨entries, hentries⟩ := Option.isSome_iff_exists.mp h
  rw [isValue_of_content (namespace?_eq_some.mp hentries)]
  rfl

theorem describe_of_namespace (h : (s.namespace? c).isSome) :
    s.describe c = .nested (s.readNamespace c) := by
  rw [describe, isValue_of_namespace h]
  rfl

/-! ## Following exports, in the store and in the account -/

theorem Formed.exports_describe (h : s.Formed) (hc : (s.content? c).isSome) :
    (s.describe c).exports.toList = (s.exports c).map fun e => (e.1, s.exportOf e.2) := by
  obtain ⟨content, hcontent⟩ := Option.isSome_iff_exists.mp hc
  have hhas := h.has c content hcontent
  have hvalue := isValue_of_content hcontent
  cases content with
  | object n =>
      obtain ⟨entries, hentries⟩ := Option.isSome_iff_exists.mp hhas
      rw [namespace?_eq_some] at hentries
      rw [describe_of_isValue hvalue, h.read_object hcontent, exports, hcontent]
      simp only [Held.exports, hentries, h.readNamespace_exports hentries, Namespace.toList_ofList]
  | exports entries =>
      rw [describe_of_namespace (by rw [namespace?_eq_some.mpr hcontent]; rfl), exports, hcontent]
      simp only [Held.exports, h.readNamespace_exports hcontent, Namespace.toList_ofList]
  | _ =>
      rw [describe_of_isValue hvalue, read, exports, hcontent]
      rfl

theorem Formed.hasExport_of_mem (h : s.Formed) {e : String × StoredExport φ}
    (he : e ∈ s.exports c) : s.HasExport e.2 := by
  unfold exports at he
  split at he
  · next entries hc => exact h.has c _ hc e he
  · next n hc =>
      split at he
      · next entries hn => exact h.has n _ hn e he
      · cases he
  · cases he

theorem held?_exportOf {item : StoredExport φ} (hitem : s.HasExport item) :
    (s.exportOf item).held? = item.cell?.map s.describe := by
  cases item with
  | value d => exact congrArg some (describe_of_isValue hitem).symm
  | callback f => rfl
  | nested d => exact congrArg some (describe_of_namespace hitem).symm

theorem content_of_cell {item : StoredExport φ} (hitem : s.HasExport item)
    (hd : item.cell? = some d) : (s.content? d).isSome := by
  cases item with
  | value e => cases hd; exact content_of_isValue hitem
  | callback f => cases hd
  | nested e => cases hd; exact content_of_namespace hitem

theorem lookup_map {α β : Type} (f : α → β) (l : List (String × α)) (name : String) :
    (l.map fun e => (e.1, f e.2)).lookup name = (l.lookup name).map f := by
  induction l with
  | nil => rfl
  | cons e rest ih =>
      rw [List.map_cons, List.lookup_cons, List.lookup_cons, ih]
      cases name == e.1 <;> rfl

/-- Names of exports lead from a handle to the same thing in the account as in the store. -/
theorem Formed.follow_describe (h : s.Formed) (path : List String) (hc : (s.content? c).isSome) :
    (s.describe c).follow path = (s.follow c path).map s.describe := by
  induction path generalizing c with
  | nil => rfl
  | cons name path ih =>
      rw [Held.follow, follow, h.exports_describe hc, lookup_map]
      cases hitem : (s.exports c).lookup name with
      | none => rfl
      | some item =>
          have hhas := h.hasExport_of_mem (mem_of_lookup hitem)
          rw [Option.map_some, Option.bind_some, Option.bind_some, held?_exportOf hhas]
          cases hd : item.cell? with
          | none => rfl
          | some d => exact ih (content_of_cell hhas hd)

end Store

/-! ## Making, in the store and in the account -/

/-- What names stand for in the account is what their handles read as. -/
structure Tells (s : Store φ) (handles : Handles) (held : List (String × Held φ)) : Prop where
  eq : held = handles.map fun e => (e.1, s.describe e.2)
  content : ∀ e ∈ handles, (s.content? e.2).isSome

variable {held : List (String × Held φ)} {refs : List CellRef}

theorem Tells.mono (h : Tells s handles held) (hs : s.Formed) (ht : t.Formed)
    (hextends : Extends s t) : Tells t handles held := by
  refine ⟨?_, fun e he => ?_⟩
  · rw [h.eq]
    refine List.map_congr_left fun e he => ?_
    rw [hs.describe_extends ht hextends (h.content e he)]
  · obtain ⟨content, hcontent⟩ := Option.isSome_iff_exists.mp (h.content e he)
    rw [hextends.kept _ _ hcontent]
    rfl

theorem Tells.find (h : Tells s handles held) (hs : s.Formed) (of : Place) :
    findHeld held of = (s.find handles of).map s.describe := by
  rw [findHeld, Store.find, h.eq, lookup_map]
  cases hc : handles.lookup of.name with
  | none => rfl
  | some c => exact hs.follow_describe of.path (h.content (of.name, c) (mem_of_lookup hc))

theorem Store.size_alloc (s : Store φ) (content : Content φ) :
    (s.alloc content).2.size = s.size + 1 := by
  rw [size_eq, contents_alloc, List.length_append, ← size_eq]
  rfl

theorem Store.content?_new (s : Store φ) (content : Content φ) :
    (s.alloc content).2.content? s.size = some content :=
  (content?_alloc s content).trans (if_pos rfl)

theorem Store.readNamespace_alloc_nil (s : Store φ) :
    (s.alloc (.exports [])).2.readNamespace s.size = .empty := by
  rw [readNamespace, content?_new]
  rfl

/-- What was made and what the account says that was made. -/
structure Agrees {α : Type} (read : Store φ → CellRef → α) (made : CellRef × Store φ)
    (told : α × ValueId) : Prop where
  value : told.1 = read made.2 made.1
  next : told.2 = made.2.size

theorem Agrees.leaf (s : Store φ) {content : Content φ} {v : Value φ}
    (hread : ∀ t : Store φ, t.content? s.size = some content → t.read s.size = v) :
    Agrees Store.read (s.alloc content) (v, s.size + 1) :=
  ⟨(hread _ (s.content?_new content)).symm, (s.size_alloc content).symm⟩

theorem Agrees.retain {v : Value φ} (hread : s.read c = v) (hs : s.Formed)
    (hc : (s.content? c).isSome) : Agrees Store.read (c, s.retain c) (v, s.size) := by
  have hcontents := contents_retain s c
  refine ⟨hread.symm.trans ?_, (size_congr hcontents).symm⟩
  exact (hs.read_extends (hs.congr hcontents) (.of_contents hcontents) hc).1.symm

theorem Agrees.retainNamespace {n : Namespace φ} (hread : s.readNamespace c = n) (hs : s.Formed)
    (hc : (s.content? c).isSome) : Agrees Store.readNamespace (c, s.retain c) (n, s.size) := by
  have hcontents := contents_retain s c
  refine ⟨hread.symm.trans ?_, (size_congr hcontents).symm⟩
  exact (hs.read_extends (hs.congr hcontents) (.of_contents hcontents) hc).2.symm

theorem Agrees.clone (h : Tells s handles held) (hs : s.Formed) (hsentinels : Sentinels s refs)
    (of : Place) :
    Agrees Store.read ((ValueMaking.clone of).run handles s)
      ((ValueMaking.clone of).value held s.size) := by
  have hundefined : s.read Store.undefined = .undefined := by
    rw [Store.read, hsentinels.undefined.1]
  have hcontent : (s.content? Store.undefined).isSome := by rw [hsentinels.undefined.1]; rfl
  rw [ValueMaking.run, ValueMaking.value, h.find hs]
  cases s.find handles of with
  | none => exact .retain hundefined hs hcontent
  | some c =>
      cases hvalue : s.isValue c with
      | false =>
          simp only [Option.map_some, Store.describe, hvalue, Option.filter_some]
          exact .retain hundefined hs hcontent
      | true =>
          simp only [Option.map_some, Store.describe, hvalue, Option.filter_some, if_pos]
          exact .retain rfl hs (content_of_isValue hvalue)

theorem exportOf_put (name : String) (item : StoredExport φ)
    (entries : List (String × StoredExport φ)) (f : StoredExport φ → Export φ) :
    (ExportBuilder.put name item entries).map (fun e => (e.1, f e.2)) =
      ExportBuilder.put name (f item) (entries.map fun e => (e.1, f e.2)) := by
  induction entries with
  | nil => rfl
  | cons entry rest ih =>
      obtain ⟨key, old⟩ := entry
      rw [ExportBuilder.put, List.map_cons, ExportBuilder.put]
      split
      · rfl
      · rw [List.map_cons, ih]

/-- A builder in the account has the entries of the one in the store. -/
structure Mirrors (s : Store φ) (entries : List (String × StoredExport φ))
    (b : ExportBuilder φ) : Prop where
  eq : b.entries = entries.map fun e => (e.1, s.exportOf e.2)

variable {entries : List (String × StoredExport φ)} {b : ExportBuilder φ}

theorem Mirrors.mono (h : Mirrors s entries b) (hs : s.Formed) (ht : t.Formed)
    (hextends : Extends s t) (hhas : ∀ e ∈ entries, s.HasExport e.2) : Mirrors t entries b := by
  refine ⟨h.eq.trans (List.map_congr_left fun e he => ?_)⟩
  rw [hs.exportOf_extends ht hextends (hhas e he)]

/-- What is exported under a name in the store and in the account. -/
theorem Mirrors.put (h : Mirrors s entries b) (hs : s.Formed)
    (hhas : ∀ e ∈ entries, s.HasExport e.2) (name : String) (item : StoredExport φ)
    (hitem : s.HasExport item) :
    Mirrors (s.put entries name item).2 (s.put entries name item).1
      (b.export name (s.exportOf item)) := by
  have hcontents := contents_put s entries name item
  have hmirrors : Mirrors s (s.put entries name item).1 (b.export name (s.exportOf item)) :=
    ⟨by rw [Store.put, exportOf_put, ExportBuilder.export, h.eq]⟩
  refine hmirrors.mono hs (hs.congr hcontents) (.of_contents hcontents) fun e he => ?_
  rcases mem_put he with he | rfl
  · exact hhas e he
  · exact hitem

/-- All that the rest of the exports needs, after one of them. -/
structure Exporting (s : Store φ) (refs rest : List CellRef) (handles : Handles)
    (held : List (String × Held φ)) (entries : List (String × StoredExport φ))
    (b : ExportBuilder φ) : Prop where
  building : Building s (rest ++ refs) entries
  sentinels : Sentinels s refs
  tells : Tells s handles held
  mirrors : Mirrors s entries b

theorem Exporting.add {rest : List CellRef} (h : Exporting s refs rest handles held entries b)
    (hmade : Store.Made s (cellsOf entries ++ rest ++ refs) c t) (name : String)
    (item : StoredExport φ) (hcell : item.cell? = some c) (hitem : t.HasExport item) :
    Exporting (t.put entries name item).2 refs rest handles held (t.put entries name item).1
      (b.export name (t.exportOf item)) := by
  have hs := h.building.exact.formed
  have ht := hmade.exact.formed
  rw [List.append_assoc] at hmade
  obtain ⟨hadd, hextends⟩ := h.building.add hmade name item hcell hitem
  refine ⟨hadd, h.sentinels.mono hextends (List.Subset.refl _),
    h.tells.mono hs hadd.exact.formed hextends, ?_⟩
  exact (h.mirrors.mono hs ht hmade.extends h.building.has).put ht
    (fun e he => hmade.extends.hasExport (h.building.has e he)) name item hitem

theorem Exporting.addCallback {rest : List CellRef}
    (h : Exporting s refs rest handles held entries b) (name : String) (f : φ) :
    Exporting (s.put entries name (.callback f)).2 refs rest handles held
      (s.put entries name (.callback f)).1 (b.export name (.callback f)) := by
  have hs := h.building.exact.formed
  have hadd := Building.put name (.callback f) h.building.exact h.building.has trivial
  have hextends : Extends s (s.put entries name (.callback f)).2 :=
    .of_contents (contents_put s entries name (.callback f))
  exact ⟨hadd, h.sentinels.mono hextends (List.Subset.refl _),
    h.tells.mono hs hadd.exact.formed hextends,
    h.mirrors.put hs h.building.has name (.callback f) trivial⟩

mutual
theorem ValueMaking.run_agrees (hhandles : ∀ e ∈ handles, e.2 ∈ refs) : ∀ (v : ValueMaking φ)
    {s : Store φ} (rest : List CellRef), Exact s (rest ++ refs) → Sentinels s refs →
    Tells s handles held → Agrees Store.read (v.run handles s) (v.value held s.size)
  | .null, s, rest, h, hsentinels, _ =>
      .retain (by rw [Store.read, hsentinels.null.1]) h.formed (by rw [hsentinels.null.1]; rfl)
  | .undefined, s, rest, h, hsentinels, _ =>
      .retain (by rw [Store.read, hsentinels.undefined.1]) h.formed
        (by rw [hsentinels.undefined.1]; rfl)
  | .number x, s, rest, _, _, _ => .leaf s fun t ht => by rw [Store.read, ht]
  | .string x, s, rest, _, _, _ => .leaf s fun t ht => by rw [Store.read, ht]
  | .function f, s, rest, _, _, _ => .leaf s fun t ht => by rw [Store.read, ht]
  | .object n, s, rest, h, hsentinels, htells => by
      obtain ⟨hvalue, hnext⟩ := n.run_agrees hhandles rest h hsentinels htells
      obtain ⟨hmade, hnamespace⟩ := n.run_made hhandles rest h hsentinels
      have hobject := (ValueMaking.object n).run_made hhandles rest h hsentinels
      have hread := hmade.exact.formed.read_extends hobject.1.exact.formed
        (.alloc _ (.object (n.run handles s).1)) (content_of_namespace hnamespace)
      refine ⟨?_, ?_⟩
      · have hnew := hobject.1.exact.formed.read_object (Store.content?_new _ _)
        simp only [ValueMaking.value, hvalue, hnext]
        exact (hnew.trans (congrArg _ hread.2)).symm
      · simp only [ValueMaking.value, hnext]
        exact (Store.size_alloc _ _).symm
  | .clone of, s, rest, h, hsentinels, htells => .clone htells h.formed hsentinels of

theorem NamespaceMaking.run_agrees (hhandles : ∀ e ∈ handles, e.2 ∈ refs) :
    ∀ (n : NamespaceMaking φ) {s : Store φ} (rest : List CellRef), Exact s (rest ++ refs) →
    Sentinels s refs → Tells s handles held →
    Agrees Store.readNamespace (n.run handles s) (n.namespace held s.size)
  | .build exports, s, rest, h, hsentinels, htells => by
      have hempty : Building s (rest ++ refs) [] := ⟨h, fun e he => absurd he List.not_mem_nil⟩
      obtain ⟨hmirrors, hnext⟩ :=
        exports.run_agrees hhandles rest [] {} ⟨hempty, hsentinels, htells, ⟨rfl⟩⟩
      obtain ⟨hbuilding, -⟩ := exports.run_building hhandles rest [] hempty hsentinels
      have hmade := ((NamespaceMaking.build exports).run_made hhandles rest h hsentinels).1
      refine ⟨?_, ?_⟩
      · have hnew := hmade.exact.formed.readNamespace_exports (Store.content?_new _ _)
        refine Eq.symm (hnew.trans (congrArg Namespace.ofList ?_))
        exact (hmirrors.mono hbuilding.exact.formed hmade.exact.formed (.alloc _ _)
          hbuilding.has).eq.symm
      · simp only [NamespaceMaking.namespace, hnext]
        exact (Store.size_alloc _ _).symm
  | .clone of, s, rest, h, hsentinels, htells => by
      have hfresh : Agrees Store.readNamespace (s.alloc (.exports [])) (.empty, s.size + 1) :=
        ⟨(s.readNamespace_alloc_nil).symm, (s.size_alloc _).symm⟩
      rw [NamespaceMaking.run, NamespaceMaking.namespace, htells.find h.formed]
      cases hfound : s.find handles of with
      | none => exact hfresh
      | some c =>
          have halive :=
            h.alive_of_find (fun e he => List.mem_append_right _ (hhandles e he)) hfound
          cases hvalue : s.isValue c with
          | true =>
              simp only [Option.map_some, Store.describe, hvalue, Option.filter_some]
              exact hfresh
          | false =>
              simp only [Option.map_some, Store.describe, hvalue, Option.filter_some]
              exact .retainNamespace rfl h.formed
                (content_of_namespace (namespace?_of_not_isValue halive hvalue))

theorem ExportsMaking.run_agrees (hhandles : ∀ e ∈ handles, e.2 ∈ refs) :
    ∀ (x : ExportsMaking φ) {s : Store φ} (rest : List CellRef)
      (entries : List (String × StoredExport φ)) (b : ExportBuilder φ),
    Exporting s refs rest handles held entries b →
    Mirrors (x.run handles entries s).2 (x.run handles entries s).1 (x.builder held b s.size).1 ∧
      (x.builder held b s.size).2 = (x.run handles entries s).2.size
  | .nil, s, rest, entries, b, h => ⟨h.mirrors, rfl⟩
  | .value name v more, s, rest, entries, b, h => by
      have hexact : Exact s (cellsOf entries ++ rest ++ refs) := by
        rw [List.append_assoc]; exact h.building.exact
      obtain ⟨hvalue, hnext⟩ := v.run_agrees hhandles _ hexact h.sentinels h.tells
      obtain ⟨hmade, hkind⟩ := v.run_made hhandles _ hexact h.sentinels
      have hlater := more.run_agrees hhandles rest _ _ (h.add hmade name (.value _) rfl hkind)
      rw [size_congr (contents_put _ _ _ _), ← hnext] at hlater
      simp only [Store.exportOf, ← hvalue] at hlater
      exact hlater
  | .callback name f more, s, rest, entries, b, h => by
      have hlater := more.run_agrees hhandles rest _ _ (h.addCallback name f)
      rw [size_congr (contents_put s entries name _)] at hlater
      exact hlater
  | .nested name n more, s, rest, entries, b, h => by
      have hexact : Exact s (cellsOf entries ++ rest ++ refs) := by
        rw [List.append_assoc]; exact h.building.exact
      obtain ⟨hvalue, hnext⟩ := n.run_agrees hhandles _ hexact h.sentinels h.tells
      obtain ⟨hmade, hkind⟩ := n.run_made hhandles _ hexact h.sentinels
      have hlater := more.run_agrees hhandles rest _ _ (h.add hmade name (.nested _) rfl hkind)
      rw [size_congr (contents_put _ _ _ _), ← hnext] at hlater
      simp only [Store.exportOf, ← hvalue] at hlater
      exact hlater
end

end ScriptHost
