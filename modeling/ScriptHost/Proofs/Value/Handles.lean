import ScriptHost.Proofs.Value.Account

/-!
# Share counts are exact

A host makes values and namespaces, clones what it has, wraps it, and gives it back, in any
order.  After any operations the count of every value is the number of references to it: the
handles, its occurrences as a value export in the namespaces that can be reached from a handle,
every such namespace counted once however many share it, and the thread's own copy of a
sentinel.

The invariant of the run, `Ledger.Sound`, has the references that the host is about to keep as
an argument: a name that gets a new handle gives its old one back only afterwards.  Which
handles are the same is read off the account, where a name stands for a value with an identity.
-/

namespace ScriptHost

variable {φ : Type} {s t : Store φ} {c d : CellRef} {name : String}

open Store

/-! ## Named handles -/

theorem lookup_filter_ne {α : Type} (l : List (String × α)) (name key : String) :
    (l.filter fun e => e.1 != name).lookup key = if key = name then none else l.lookup key := by
  induction l with
  | nil => simp
  | cons e rest ih =>
      obtain ⟨first, x⟩ := e
      rw [List.filter_cons, List.lookup_cons]
      rcases eq_or_ne first name with rfl | hne
      · simp only [bne_self_eq_false, Bool.false_eq_true, if_false, ih]
        split
        · rfl
        · next hkey => rw [beq_eq_false_iff_ne.mpr hkey]
      · simp only [bne_iff_ne, ne_eq, hne, not_false_eq_true, if_true, List.lookup_cons, ih]
        split
        · next hkey =>
            rw [beq_iff_eq] at hkey
            rw [if_neg (hkey ▸ hne)]
        · rfl

/-- The handle of a name is the only one with this name. -/
theorem perm_of_lookup {l : List (String × CellRef)} (hnodup : (l.map (·.1)).Nodup)
    (hlookup : l.lookup name = some c) :
    l.Perm ((name, c) :: l.filter fun e => e.1 != name) := by
  induction l with
  | nil => cases hlookup
  | cons e rest ih =>
      obtain ⟨first, x⟩ := e
      obtain ⟨hfirst, hrest⟩ := List.nodup_cons.mp hnodup
      rw [List.lookup_cons] at hlookup
      rcases eq_or_ne first name with rfl | hne
      · rw [beq_self_eq_true] at hlookup
        cases hlookup
        have hall : (rest.filter fun e => e.1 != first) = rest :=
          List.filter_eq_self.mpr fun e he => by
            rw [bne_iff_ne]
            rintro rfl
            exact hfirst (List.mem_map.mpr ⟨e, he, rfl⟩)
        rw [List.filter_cons, hall]
        simp
      · rw [beq_eq_false_iff_ne.mpr hne.symm] at hlookup
        rw [List.filter_cons_of_pos (by simpa using hne)]
        exact ((ih hrest hlookup).cons _).trans (.swap _ _ _)

namespace Ledger

variable {l : Ledger φ}

/-- The references that a host and its thread hold. -/
def roots (l : Ledger φ) : List CellRef :=
  l.handles.map (·.2) ++ [Store.null, Store.undefined]

/-- What holds of handles and store after any operations, while the host is about to keep some
more references. -/
structure Sound (l : Ledger φ) (a : Account φ) (more : List CellRef) : Prop where
  names : (l.handles.map (·.1)).Nodup
  exact : Exact l.store (more ++ l.roots)
  sentinels : Sentinels l.store l.roots
  tells : Tells l.store l.handles a.held
  next : a.next = l.store.size

theorem mem_roots {e : String × CellRef} (he : e ∈ l.handles) : e.2 ∈ l.roots :=
  List.mem_append_left _ (List.mem_map_of_mem he)

theorem null_mem_roots (l : Ledger φ) : Store.null ∈ l.roots := by simp [roots]

theorem undefined_mem_roots (l : Ledger φ) : Store.undefined ∈ l.roots := by simp [roots]

theorem Sound.start : Sound ({} : Ledger φ) {} [] :=
  ⟨List.nodup_nil, Exact.start, ⟨⟨rfl, null_mem_roots _⟩, ⟨rfl, undefined_mem_roots _⟩⟩,
    ⟨rfl, fun _ he => absurd he List.not_mem_nil⟩, rfl⟩

/-- The references of all handles but one, which is given back. -/
theorem count_roots_drop (hnodup : (l.handles.map (·.1)).Nodup)
    (hc : l.handles.lookup name = some c) (d : CellRef) :
    l.roots.count d = (c :: (l.drop name).roots).count d := by
  have hperm := ((perm_of_lookup hnodup hc).map (·.2)).append_right
    [Store.null, Store.undefined]
  rw [roots, hperm.count_eq, drop, hc]
  rfl

theorem contents_drop (l : Ledger φ) (name : String) :
    (l.drop name).store.contents = l.store.contents := by
  unfold drop
  split
  · exact contents_release _ _
  · rfl

theorem handles_drop (l : Ledger φ) (name : String) :
    (l.drop name).handles = l.handles.filter fun e => e.1 != name := by
  unfold drop
  split
  · rfl
  · next hnone =>
      refine (List.filter_eq_self.mpr fun e he => ?_).symm
      rw [bne_comm]
      exact List.lookup_eq_none_iff.mp hnone e he

variable {a : Account φ} {more : List CellRef}

/-- Giving the handle of a name back keeps everything in order, and forgets the name. -/
theorem Sound.drop (h : l.Sound a more) (name : String) :
    (l.drop name).Sound (a.drop name) more := by
  have hcontents := l.contents_drop name
  have hextends : Extends l.store (l.drop name).store := .of_contents hcontents
  have hsub : (l.drop name).handles.Sublist l.handles := by
    rw [handles_drop]
    exact List.filter_sublist
  have hexact : Exact (l.drop name).store (more ++ (l.drop name).roots) := by
    cases hc : l.handles.lookup name with
    | none =>
        have hsame : l.drop name = l := by rw [Ledger.drop, hc]
        rw [hsame]
        exact h.exact
    | some c =>
        have hstore : (l.drop name).store = l.store.release c := by rw [Ledger.drop, hc]
        rw [hstore]
        refine Exact.release (h.exact.of_count fun d => ?_)
        have hcount := count_roots_drop h.names hc d
        simp only [List.count_append, List.count_cons] at hcount ⊢
        omega
  refine ⟨h.names.sublist (hsub.map _), hexact, ?_, ⟨?_, fun e he => ?_⟩, ?_⟩
  · exact ⟨⟨hextends.kept _ _ h.sentinels.null.1, null_mem_roots _⟩,
      ⟨hextends.kept _ _ h.sentinels.undefined.1, undefined_mem_roots _⟩⟩
  · have htells := (h.tells.mono h.exact.formed hexact.formed hextends).eq
    rw [Account.drop, htells, handles_drop, List.filter_map]
    rfl
  · have hcontent := h.tells.content e (hsub.subset he)
    rwa [content?_congr hcontents]
  · rw [size_congr hcontents]
    exact h.next

/-- Keeping a new reference under a name. -/
theorem Sound.keep (h : l.Sound a []) (name : String) {made : CellRef × Store φ}
    (hmade : Store.Made l.store l.roots made.1 made.2) {held : Held φ}
    (hheld : held = made.2.describe made.1) {next : ValueId} (hnext : next = made.2.size) :
    (l.keep name made).Sound (a.keep name held next) [] := by
  -- while the old handle is given back, the new reference is held already
  have hbetween : Sound ⟨l.handles, made.2⟩ ⟨a.held, next⟩ [made.1] :=
    ⟨h.names, hmade.exact, h.sentinels.mono hmade.extends (List.Subset.refl _),
      h.tells.mono h.exact.formed hmade.exact.formed hmade.extends, hnext⟩
  have hfree := hbetween.drop name
  have hcontents : (l.keep name made).store.contents = made.2.contents :=
    contents_drop ⟨l.handles, made.2⟩ name
  have hextends : Extends made.2 (l.keep name made).store := .of_contents hcontents
  have halive := hmade.exact.alive_of_held List.mem_cons_self
  have hcontent : (made.2.content? made.1).isSome := by
    rw [content?_eq, List.getElem?_eq_getElem (by rw [← size_eq]; exact lt_size_of_strong halive)]
    rfl
  have hexact : Exact (l.keep name made).store ([] ++ (l.keep name made).roots) := hfree.exact
  refine ⟨List.nodup_cons.mpr ⟨?_, hfree.names⟩, hexact, ?_, ⟨?_, fun e he => ?_⟩, hfree.next⟩
  · intro hmem
    obtain ⟨e, he, hname⟩ := List.mem_map.mp hmem
    rw [handles_drop] at he
    exact absurd hname (by simpa using (List.mem_filter.mp he).2)
  · exact ⟨⟨hfree.sentinels.null.1, null_mem_roots _⟩,
      ⟨hfree.sentinels.undefined.1, undefined_mem_roots _⟩⟩
  · have hnew := hmade.exact.formed.describe_extends hexact.formed hextends hcontent
    refine List.cons_eq_cons.mpr ⟨?_, hfree.tells.eq⟩
    rw [hheld, ← hnew]
  · rcases List.mem_cons.mp he with rfl | he
    · rwa [content?_congr hcontents]
    · exact hfree.tells.content e he

/-- The step lemma, with one case for each operation. -/
theorem Sound.step (h : l.Sound a []) (x : HandleOperation φ) : (l.step x).Sound (a.step x) [] := by
  have hhandles : ∀ e ∈ l.handles, e.2 ∈ l.roots := fun e he => mem_roots he
  cases x with
  | value name v =>
      obtain ⟨hmade, hvalue⟩ := v.run_made hhandles [] h.exact h.sentinels
      obtain ⟨hread, hnext⟩ := v.run_agrees hhandles [] h.exact h.sentinels h.tells
      rw [← h.next] at hread hnext
      refine h.keep name hmade ?_ hnext
      rw [describe_of_isValue hvalue, hread]
  | nested name n =>
      obtain ⟨hmade, hnamespace⟩ := n.run_made hhandles [] h.exact h.sentinels
      obtain ⟨hread, hnext⟩ := n.run_agrees hhandles [] h.exact h.sentinels h.tells
      rw [← h.next] at hread hnext
      refine h.keep name hmade ?_ hnext
      rw [describe_of_namespace hnamespace, hread]
  | drop name => exact h.drop name

/-- What a cell holds, it holds after every operation. -/
theorem Sound.extends (h : l.Sound a []) (x : HandleOperation φ) :
    Extends l.store (l.step x).store := by
  have hhandles : ∀ e ∈ l.handles, e.2 ∈ l.roots := fun e he => mem_roots he
  cases x with
  | value name v =>
      exact (v.run_made hhandles [] h.exact h.sentinels).1.extends.trans
        (.of_contents (contents_drop ⟨l.handles, _⟩ name))
  | nested name n =>
      exact (n.run_made hhandles [] h.exact h.sentinels).1.extends.trans
        (.of_contents (contents_drop ⟨l.handles, _⟩ name))
  | drop name => exact .of_contents (l.contents_drop name)

theorem after_concat (operations : List (HandleOperation φ)) (x : HandleOperation φ) :
    after (operations ++ [x]) = (after operations).step x := by
  simp [after]

theorem sound_after (operations : List (HandleOperation φ)) :
    (Ledger.after operations).Sound (Account.after operations) [] := by
  induction operations using List.reverseRecOn with
  | nil => exact .start
  | append_singleton operations x ih =>
      rw [after_concat, Account.after, List.foldl_append]
      exact ih.step x

theorem extends_after (before later : List (HandleOperation φ)) :
    Extends (Ledger.after before).store (Ledger.after (before ++ later)).store := by
  induction later using List.reverseRecOn with
  | nil => rw [List.append_nil]; exact .refl _
  | append_singleton later x ih =>
      have hstep := (sound_after (before ++ later)).extends x
      rw [← List.append_assoc, after_concat]
      exact ih.trans hstep

/-! ## What is counted -/

/-- A cell that is reached from a handle. -/
def Reaches (l : Ledger φ) (c : CellRef) : Prop := l.store.Reached (l.handles.map (·.2)) c

open Classical in
/-- The namespaces that are still there: those reached from a handle. -/
noncomputable def namespaces (l : Ledger φ) : Finset CellRef :=
  (Finset.range l.store.size).filter fun c => l.Reaches c ∧ (l.store.namespace? c).isSome

end Ledger

/-- How often a namespace exports a value. -/
def valueExports (entries : List (String × StoredExport φ)) (c : CellRef) : Nat :=
  entries.countP fun e =>
    match e.2 with
    | .value d => d == c
    | _ => false

namespace Ledger

variable {l : Ledger φ} {a : Account φ}

theorem Sound.refs_sentinel (h : l.Sound a []) (hc : c = Store.null ∨ c = Store.undefined) :
    l.store.refs c = [] := by
  rcases hc with rfl | rfl
  · rw [refs_of_content h.sentinels.null.1]
    rfl
  · rw [refs_of_content h.sentinels.undefined.1]
    rfl

/-- A cell has references if and only if it is a sentinel or reached from a handle. -/
theorem Sound.alive_iff (h : l.Sound a []) :
    0 < l.store.strong c ↔ l.Reaches c ∨ c = Store.null ∨ c = Store.undefined := by
  have hexact : Exact l.store l.roots := h.exact
  rw [hexact.alive_iff]
  refine ⟨fun hc => ?_, ?_⟩
  · induction hc with
    | held hc =>
        rcases List.mem_append.mp hc with hc | hc
        · exact .inl (.held hc)
        · exact .inr (by simpa using hc)
    | inside _ hd ih =>
        rcases ih with hc | hc
        · exact .inl (.inside hc hd)
        · rw [h.refs_sentinel hc] at hd
          cases hd
  · rintro (hc | rfl | rfl)
    · induction hc with
      | held hc => exact .held (List.mem_append_left _ hc)
      | inside _ hd ih => exact .inside ih hd
    · exact .held (null_mem_roots l)
    · exact .held (undefined_mem_roots l)

theorem count_cellsOf {entries : List (String × StoredExport φ)}
    (hhas : ∀ e ∈ entries, s.HasExport e.2) (hc : s.isValue c = true) :
    (cellsOf entries).count c = valueExports entries c := by
  rw [cellsOf, valueExports, List.count_filterMap]
  refine List.countP_congr fun e he => ?_
  obtain ⟨key, item⟩ := e
  cases item with
  | value d => simp [StoredExport.cell?]
  | callback f => simp [StoredExport.cell?]
  | nested d =>
      have hne : d ≠ c := by
        rintro rfl
        rw [isValue_of_namespace (hhas _ he)] at hc
        cases hc
      simp [StoredExport.cell?, hne]

/-- Only namespaces refer to values, and every one that is still there does as often as it
exports them. -/
theorem Sound.inner_eq (h : l.Sound a []) (hc : l.store.isValue c = true) :
    l.store.inner c = ∑ n ∈ l.namespaces, valueExports (l.store.exports n) c := by
  classical
  rw [Store.inner, namespaces, Finset.sum_filter]
  refine Finset.sum_congr rfl fun d _ => ?_
  rw [Store.given]
  cases hd : l.store.content? d with
  | none => simp [Store.refs, Store.namespace?, hd]
  | some content =>
      have hhas := h.exact.formed.has d content hd
      rw [refs_of_content hd]
      cases content with
      | exports entries =>
          have hnot : ¬(d = Store.null ∨ d = Store.undefined) := by
            rintro (rfl | rfl)
            · rw [h.sentinels.null.1] at hd
              cases hd
            · rw [h.sentinels.undefined.1] at hd
              cases hd
          have hcount : (Content.exports entries).refs.count c =
              valueExports (l.store.exports d) c := by
            rw [Store.exports, hd]
            exact count_cellsOf hhas hc
          refine if_congr ?_ hcount rfl
          rw [h.alive_iff, namespace?_eq_some.mpr hd]
          simp only [hnot, or_false, Option.isSome_some, and_true]
      | object n =>
          have hne : n ≠ c := by
            rintro rfl
            rw [isValue_of_namespace hhas] at hc
            cases hc
          simp [Store.namespace?, hd, Content.refs, hne]
      | _ => simp [Store.namespace?, hd, Content.refs]

/-- The references to a value are its handles, its exports and the thread's own copy. -/
theorem Sound.count (h : l.Sound a []) (hc : l.store.isValue c = true) :
    l.store.strong c = (l.handles.map (·.2)).count c +
      ∑ n ∈ l.namespaces, valueExports (l.store.exports n) c +
        if c = Store.null ∨ c = Store.undefined then 1 else 0 := by
  have hown : [Store.null, Store.undefined].count c =
      if c = Store.null ∨ c = Store.undefined then 1 else 0 := by
    unfold Store.null Store.undefined
    rcases c with _ | _ | c <;> simp
  rw [h.exact.count, h.inner_eq hc, List.nil_append, roots, List.count_append, hown]
  omega

/-- Nothing is reached by fewer handles that was not reached before. -/
theorem Reaches.of_drop (h : (l.drop name).Reaches c) : l.Reaches c := by
  induction h with
  | held hc =>
      rw [handles_drop] at hc
      exact .held ((List.filter_sublist.map _).subset hc)
  | inside _ hd ih => exact .inside ih (by rwa [← refs_congr (l.contents_drop name)])

theorem namespaces_drop_subset (l : Ledger φ) (name : String) :
    (l.drop name).namespaces ⊆ l.namespaces := by
  intro c hc
  simp only [namespaces, Finset.mem_filter, Finset.mem_range] at hc ⊢
  rw [size_congr (l.contents_drop name), namespace?_congr (l.contents_drop name)] at hc
  exact ⟨hc.1, hc.2.1.of_drop, hc.2.2⟩

theorem exports_congr (h : t.contents = s.contents) (c : CellRef) : t.exports c = s.exports c := by
  simp only [Store.exports, content?_congr h]

/-- A handle that is given back is one reference less to its value, and the namespaces that go
with it give back the references that they held. -/
theorem Sound.count_drop (h : l.Sound a []) (hlookup : l.handles.lookup name = some c)
    (hd : l.store.isValue d = true) :
    l.store.strong d = (l.drop name).store.strong d + (if d = c then 1 else 0) +
      ∑ n ∈ l.namespaces \ (l.drop name).namespaces, valueExports (l.store.exports n) d := by
  have hcontents := l.contents_drop name
  have hbefore := h.count hd
  have hafter := (h.drop name).count (by rwa [isValue_congr hcontents])
  have hsum := Finset.sum_sdiff (f := fun n => valueExports (l.store.exports n) d)
    (l.namespaces_drop_subset name)
  have hroots := count_roots_drop h.names hlookup d
  simp only [exports_congr hcontents] at hafter
  simp only [roots, List.count_append, List.count_cons, beq_iff_eq] at hroots
  have hself : (if d = c then 1 else 0) = if c = d then 1 else 0 := if_congr eq_comm rfl rfl
  omega

/-! ## Which handles are the same -/

/-- The identity that a cell gives its value. -/
def identityOf (c : CellRef) : Identity :=
  if c = Store.null then .null else if c = Store.undefined then .undefined else .made c

theorem identityOf_injective : Function.Injective identityOf := by
  intro c d heq
  unfold identityOf at heq
  grind

theorem Sound.identity_read (h : l.Sound a []) (hc : l.store.isValue c = true) :
    (l.store.read c).identity = identityOf c := by
  obtain ⟨content, hcontent⟩ := Option.isSome_iff_exists.mp (content_of_isValue hc)
  have hhas := h.exact.formed.has c content hcontent
  have hvalue := isValue_of_content hcontent
  rw [hc] at hvalue
  unfold identityOf
  by_cases hnull : c = Store.null
  · rw [if_pos hnull, hnull, Store.read, h.sentinels.null.1]
    rfl
  by_cases hundefined : c = Store.undefined
  · rw [if_neg hnull, if_pos hundefined, hundefined, Store.read, h.sentinels.undefined.1]
    rfl
  rw [if_neg hnull, if_neg hundefined]
  cases content with
  | null => exact absurd hhas hnull
  | undefined => exact absurd hhas hundefined
  | object n => rw [h.exact.formed.read_object hcontent]; rfl
  | exports entries => cases hvalue
  | _ => rw [Store.read, hcontent]; rfl

/-- Two handles are the same if and only if what they read as has one identity. -/
theorem Sound.same_iff (h : l.Sound a []) (hc : l.store.isValue c = true)
    (hd : l.store.isValue d = true) :
    c = d ↔ (l.store.read c).same (l.store.read d) = true := by
  rw [Value.same, beq_iff_eq, h.identity_read hc, h.identity_read hd]
  exact identityOf_injective.eq_iff.symm

/-- What a name stands for in the account is what its handle reads as. -/
theorem Sound.lookup (h : l.Sound a []) (name : String) :
    a.held.lookup name = (l.handles.lookup name).map l.store.describe := by
  rw [h.tells.eq, lookup_map]

theorem Sound.exists_of_value (h : l.Sound a []) {v : Value φ}
    (hv : a.held.lookup name = some (.value v)) :
    ∃ c, l.handles.lookup name = some c ∧ l.store.isValue c = true ∧ l.store.read c = v := by
  rw [h.lookup] at hv
  obtain ⟨c, hc, hdescribe⟩ := Option.map_eq_some_iff.mp hv
  unfold Store.describe at hdescribe
  split at hdescribe
  · next hvalue => exact ⟨c, hc, hvalue, Held.value.inj hdescribe⟩
  · cases hdescribe

end Ledger

open Ledger in
/-- After any operations every value has as many references as there are: its handles, its
exports in the namespaces that are reached from a handle, each of them counted once, and the
thread's own copy of a sentinel.  What has references is what is reached, so nothing is kept
that nobody holds.  Giving a handle back takes one reference from its value, and from every
value as many as it had exports in the namespaces that go with the handle; the last handle to
a value takes it along.  Two handles are the same if and only if they stand for one creation,
copied from name to name. -/
theorem share_counts_exact (operations : List (HandleOperation φ)) :
    let l := Ledger.after operations
    let a := Account.after operations
    (l.handles.map (·.1)).Nodup ∧
    (∀ c, l.store.isValue c = true → l.store.strong c = (l.handles.map (·.2)).count c +
      ∑ n ∈ l.namespaces, valueExports (l.store.exports n) c +
        if c = Store.null ∨ c = Store.undefined then 1 else 0) ∧
    (∀ name, l.shareCount? name = (l.handles.lookup name).map l.store.strong) ∧
    (∀ c, 0 < l.store.strong c ↔ l.Reaches c ∨ c = Store.null ∨ c = Store.undefined) ∧
    (∀ name c, l.handles.lookup name = some c →
      (∀ key, (l.drop name).handles.lookup key =
        if key = name then none else l.handles.lookup key) ∧
      (∀ d, l.store.isValue d = true → l.store.strong d =
        (l.drop name).store.strong d + (if d = c then 1 else 0) +
          ∑ n ∈ l.namespaces \ (l.drop name).namespaces, valueExports (l.store.exports n) d) ∧
      (∀ d, 0 < (l.drop name).store.strong d ↔
        (l.drop name).Reaches d ∨ d = Store.null ∨ d = Store.undefined) ∧
      (l.store.isValue c = true → l.shareCount? name = some 1 →
        (l.drop name).store.strong c = 0)) ∧
    (∀ name, a.held.lookup name = (l.handles.lookup name).map l.store.describe) ∧
    ∀ x y v w, a.held.lookup x = some (.value v) → a.held.lookup y = some (.value w) →
      (l.same? x y = some true ↔ v.same w = true) := by
  have h := sound_after operations
  refine ⟨h.names, fun c hc => h.count hc, fun name => rfl, fun c => h.alive_iff,
    fun name c hc => ⟨fun key => ?_, fun d hd => h.count_drop hc hd,
      fun d => (h.drop name).alive_iff, fun hvalue hlast => ?_⟩, h.lookup,
    fun x y v w hv hw => ?_⟩
  · rw [handles_drop, lookup_filter_ne]
  · rw [shareCount?, hc, Option.map_some, Option.some.injEq] at hlast
    have hdrop := h.count_drop hc hvalue
    rw [if_pos rfl] at hdrop
    omega
  · obtain ⟨c, hc, hcvalue, rfl⟩ := h.exists_of_value hv
    obtain ⟨d, hd, hdvalue, rfl⟩ := h.exists_of_value hw
    rw [same?, hc, hd, ← h.same_iff hcvalue hdvalue]
    simp

/-- A number that an object exports twice, a namespace that two objects share, and an object
around both, which alone is kept beside the number. -/
def diamond : List (HandleOperation Unit) :=
  [.value "x" (.number Double.nan),
    .value "twice" (.object (.build (.value "a" (.clone { name := "x" })
      (.value "b" (.clone { name := "x" }) .nil)))),
    .nested "shared" (.build (.value "x" (.clone { name := "x" }) .nil)),
    .value "left" (.object (.clone { name := "shared" })),
    .value "right" (.object (.clone { name := "shared" })),
    .value "all" (.object (.build (.value "twice" (.clone { name := "twice" })
      (.value "left" (.clone { name := "left" }) (.value "right" (.clone { name := "right" })
        (.nested "shared" (.clone { name := "shared" }) .nil)))))),
    .value "inner" (.clone { name := "all", path := ["twice", "b"] }),
    .drop "twice", .drop "shared", .drop "left", .drop "right"]

/-- The number has two handles, two exports in one object, and one in the namespace that is
reached along three paths.  The last handle to the outermost object takes all exports along. -/
theorem share_counts_exact_diamond :
    let l := Ledger.after diamond
    l.store.isValue 2 = true ∧ l.shareCount? "x" = some 5 ∧ (l.handles.map (·.2)).count 2 = 2 ∧
      ∑ n ∈ l.namespaces, valueExports (l.store.exports n) 2 = 3 ∧
      l.handles.lookup "all" = some 9 ∧ l.store.isValue 9 = true ∧
      l.shareCount? "all" = some 1 ∧ (l.drop "all").store.strong 9 = 0 ∧
      (l.drop "all").shareCount? "x" = some 2 ∧ l.same? "x" "inner" = some true := by
  obtain ⟨-, hcount, -, -, hdrop, -, hsame⟩ := share_counts_exact diamond
  have hx : (Ledger.after diamond).store.isValue 2 = true := by decide +kernel
  have hall : (Ledger.after diamond).handles.lookup "all" = some 9 := by decide +kernel
  have hvalue : (Ledger.after diamond).store.isValue 9 = true := by decide +kernel
  have hlast : (Ledger.after diamond).shareCount? "all" = some 1 := by decide +kernel
  have hstrong : (Ledger.after diamond).store.strong 2 = 5 := by decide +kernel
  have hhandles : ((Ledger.after diamond).handles.map (·.2)).count 2 = 2 := by decide +kernel
  have hexports := hcount 2 hx
  rw [hstrong, hhandles] at hexports
  refine ⟨hx, by decide +kernel, hhandles, ?_, hall, hvalue, hlast,
    (hdrop "all" 9 hall).2.2.2 hvalue hlast, by decide +kernel, ?_⟩
  · have hown : ¬((2 : CellRef) = Store.null ∨ (2 : CellRef) = Store.undefined) := by decide
    rw [if_neg hown] at hexports
    omega
  · exact (hsame "x" "inner" (.number 2 Double.nan) (.number 2 Double.nan) rfl rfl).mpr rfl

end ScriptHost
