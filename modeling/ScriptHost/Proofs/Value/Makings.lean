import ScriptHost.Proofs.Value.Counts

/-!
# Making things keeps the counts exact

Whatever is made, in one piece or out of parts, out of new things or of clones, the one who
asked has afterwards one reference more than before, to what was made, and every other count is
what it has to be (`ValueMaking.run_made`, with one case for every kind of making).  What is
exported in between belongs to the builder, so the references of the entries so far are held
beside those of the host.

A clone needs a cell that is there.  What is found at a place is, because it is reached from a
handle (`Store.Exact.alive_of_find`).
-/

namespace ScriptHost

variable {φ : Type} {s : Store φ} {c d : CellRef} {held : List CellRef} {handles : Handles}
  {entries : List (String × StoredExport φ)} {item : StoredExport φ} {name : String}

/-! ## Following exports -/

theorem mem_of_lookup {α : Type} {l : List (String × α)} {x : α} (h : l.lookup name = some x) :
    (name, x) ∈ l := by
  obtain ⟨before, rest, rfl, -⟩ := List.lookup_eq_some_iff.mp h
  exact List.mem_append_right before List.mem_cons_self

theorem mem_cellsOf_of_lookup (h : (entries.lookup name).bind StoredExport.cell? = some c) :
    c ∈ cellsOf entries := by
  obtain ⟨item, hitem, hcell⟩ := Option.bind_eq_some_iff.mp h
  exact List.mem_filterMap.mpr ⟨(name, item), mem_of_lookup hitem, hcell⟩

namespace Store

theorem refs_of_content {content : Content φ} (h : s.content? c = some content) :
    s.refs c = content.refs := by
  rw [refs, h]
  rfl

/-- What a cell that is there exports, is there. -/
theorem Exact.alive_of_exports (h : Exact s held) (hc : 0 < s.strong c)
    (hd : d ∈ cellsOf (s.exports c)) : 0 < s.strong d := by
  unfold Store.exports at hd
  split at hd
  · next entries hcontent =>
      exact h.alive_of_refs hc (by rw [refs_of_content hcontent]; exact hd)
  · next n hcontent =>
      have hn : 0 < s.strong n :=
        h.alive_of_refs hc (by rw [refs_of_content hcontent]; exact List.mem_singleton_self n)
      split at hd
      · next entries hn' => exact h.alive_of_refs hn (by rw [refs_of_content hn']; exact hd)
      · cases hd
  · cases hd

theorem Exact.alive_of_follow (h : Exact s held) {path : List String} (hc : 0 < s.strong c)
    (hd : s.follow c path = some d) : 0 < s.strong d := by
  induction path generalizing c with
  | nil => exact Option.some.inj hd ▸ hc
  | cons name path ih =>
      rw [follow] at hd
      split at hd
      · next e he => exact ih (h.alive_of_exports hc (mem_cellsOf_of_lookup he)) hd
      · cases hd

theorem Exact.alive_of_find (h : Exact s held) (hhandles : ∀ e ∈ handles, e.2 ∈ held) {of : Place}
    (hd : s.find handles of = some d) : 0 < s.strong d := by
  obtain ⟨c, hc, hd⟩ := Option.bind_eq_some_iff.mp hd
  exact h.alive_of_follow
    (h.alive_of_held (hhandles (of.name, c) (mem_of_lookup hc))) hd

/-! ## Builders -/

/-- One more export takes the place of what was exported under its name. -/
theorem count_cellsOf_put (entries : List (String × StoredExport φ)) (name : String)
    (item : StoredExport φ) (d : CellRef) :
    (cellsOf (ExportBuilder.put name item entries)).count d +
        (((entries.lookup name).bind StoredExport.cell?).toList).count d =
      (cellsOf entries).count d + item.cell?.toList.count d := by
  have hcons (key : String) (old : StoredExport φ) (rest : List (String × StoredExport φ)) :
      (cellsOf ((key, old) :: rest)).count d =
        old.cell?.toList.count d + (cellsOf rest).count d := by
    rw [cellsOf, List.filterMap_cons]
    cases old.cell? with
    | none => simp [cellsOf]
    | some e => simp [cellsOf, List.count_cons, Nat.add_comm]
  induction entries with
  | nil =>
      rw [ExportBuilder.put, hcons]
      simp [cellsOf]
  | cons entry rest ih =>
      obtain ⟨key, old⟩ := entry
      rw [ExportBuilder.put, List.lookup_cons]
      rcases eq_or_ne key name with rfl | hne
      · rw [if_pos rfl, hcons, hcons, beq_self_eq_true]
        simp only [Option.bind_some]
        omega
      · have hbeq : (name == key) = false := beq_eq_false_iff_ne.mpr hne.symm
        rw [if_neg hne, hcons, hcons, hbeq]
        simp only
        omega

theorem mem_put {e : String × StoredExport φ} (he : e ∈ ExportBuilder.put name item entries) :
    e ∈ entries ∨ e.2 = item := by
  induction entries with
  | nil =>
      rw [ExportBuilder.put, List.mem_singleton] at he
      exact .inr (congrArg Prod.snd he)
  | cons entry rest ih =>
      obtain ⟨key, old⟩ := entry
      rw [ExportBuilder.put] at he
      split at he
      · rcases List.mem_cons.mp he with he | he
        · exact .inr (congrArg Prod.snd he)
        · exact .inl (List.mem_cons_of_mem _ he)
      · rcases List.mem_cons.mp he with he | he
        · exact .inl (he ▸ List.mem_cons_self)
        · exact (ih he).imp_left (List.mem_cons_of_mem _)

/-- A builder with some entries, whose references are held beside those of the host. -/
structure Building (s : Store φ) (held : List CellRef)
    (entries : List (String × StoredExport φ)) : Prop where
  exact : Exact s (cellsOf entries ++ held)
  has : ∀ e ∈ entries, s.HasExport e.2

theorem contents_put (s : Store φ) (entries : List (String × StoredExport φ)) (name : String)
    (item : StoredExport φ) : (s.put entries name item).2.contents = s.contents := by
  unfold Store.put
  dsimp only
  split
  · exact contents_release s _
  · rfl

/-- One more export, whose reference is held already, keeps the counts exact. -/
theorem Building.put (name : String) (item : StoredExport φ)
    (h : Exact s (item.cell?.toList ++ (cellsOf entries ++ held)))
    (hhas : ∀ e ∈ entries, s.HasExport e.2) (hitem : s.HasExport item) :
    Building (s.put entries name item).2 held (s.put entries name item).1 := by
  have hextends := Extends.of_contents (contents_put s entries name item)
  refine ⟨?_, fun e he => hextends.hasExport ?_⟩
  · have hcount := count_cellsOf_put entries name item
    unfold Store.put
    dsimp only
    cases hold : (entries.lookup name).bind StoredExport.cell? with
    | none =>
        refine h.of_count fun d => ?_
        have := hcount d
        rw [hold] at this
        simp only [Option.toList_none, List.count_nil, List.count_append] at this ⊢
        omega
    | some old =>
        refine Exact.release (h.of_count fun d => ?_)
        have := hcount d
        rw [hold] at this
        simp only [Option.toList_some, List.count_append, List.count_cons, List.count_nil]
          at this ⊢
        omega
  · rcases mem_put he with he | rfl
    · exact hhas e he
    · exact hitem

/-! ## Making -/

/-- A store in which one more reference is held than before. -/
structure Made (s : Store φ) (held : List CellRef) (c : CellRef) (t : Store φ) : Prop where
  exact : Exact t (c :: held)
  «extends» : Extends s t

theorem Made.alloc {content : Content φ} {u : Store φ} (hextends : Extends u s)
    (h : Exact s (content.refs ++ held)) (hhas : s.Has s.size content) :
    Made u held s.size (s.alloc content).2 :=
  ⟨h.alloc hhas, hextends.trans (.alloc s content)⟩

theorem isValue_alloc (s : Store φ) (content : Content φ) :
    (s.alloc content).2.isValue s.size = content.isValue := by
  rw [isValue, content?_alloc, if_pos rfl]
  rfl

theorem Made.leaf (h : Exact s held) {content : Content φ} (hrefs : content.refs = [])
    (hhas : s.Has s.size content) : Made s held s.size (s.alloc content).2 :=
  .alloc (.refl s) (by rwa [hrefs]) hhas

theorem namespace?_alloc (s : Store φ) (entries : List (String × StoredExport φ)) :
    ((s.alloc (.exports entries)).2.namespace? s.size).isSome := by
  rw [namespace?_eq_some.mpr ((content?_alloc s _).trans (if_pos rfl))]
  rfl

theorem isValue_congr {t : Store φ} (h : t.contents = s.contents) (c : CellRef) :
    t.isValue c = s.isValue c := by
  rw [isValue, isValue, content?_congr h]

theorem namespace?_congr {t : Store φ} (h : t.contents = s.contents) (c : CellRef) :
    t.namespace? c = s.namespace? c := by
  rw [namespace?, namespace?, content?_congr h]

theorem Made.retain (h : Exact s held) (hc : 0 < s.strong c) : Made s held c (s.retain c) :=
  ⟨h.retain hc, .of_contents (contents_retain s c)⟩

/-- What was just made is exported, and its reference goes over to the builder. -/
theorem Building.add (h : Building s held entries) {t : Store φ}
    (hmade : Made s (cellsOf entries ++ held) c t) (name : String) (item : StoredExport φ)
    (hcell : item.cell? = some c) (hitem : t.HasExport item) :
    Building (t.put entries name item).2 held (t.put entries name item).1 ∧
      Extends s (t.put entries name item).2 := by
  refine ⟨.put name item ?_ (fun e he => hmade.extends.hasExport (h.has e he)) hitem,
    hmade.extends.trans (.of_contents (contents_put t entries name item))⟩
  rw [hcell]
  exact hmade.exact

/-- A cell that is there and is no value is a namespace. -/
theorem namespace?_of_not_isValue (hc : 0 < s.strong c) (hvalue : s.isValue c = false) :
    (s.namespace? c).isSome := by
  have hlt := lt_size_of_strong hc
  rw [size_eq] at hlt
  have hcontent : s.content? c = some s.contents[c] := by
    rw [content?_eq, List.getElem?_eq_getElem hlt]
  rw [isValue, hcontent] at hvalue
  rw [namespace?, hcontent]
  cases hkind : s.contents[c] with
  | exports entries => rfl
  | _ => rw [hkind] at hvalue; cases hvalue

end Store

open Store

/-- What holds of the sentinels' cells at every time. -/
structure Sentinels (s : Store φ) (held : List CellRef) : Prop where
  null : s.content? Store.null = some .null ∧ Store.null ∈ held
  undefined : s.content? Store.undefined = some .undefined ∧ Store.undefined ∈ held

theorem Sentinels.mono (h : Sentinels s held) {t : Store φ} (hextends : Extends s t)
    {held' : List CellRef} (hsub : held ⊆ held') : Sentinels t held' :=
  ⟨⟨hextends.kept _ _ h.null.1, hsub h.null.2⟩,
    ⟨hextends.kept _ _ h.undefined.1, hsub h.undefined.2⟩⟩

theorem isValue_of_content {content : Content φ} (h : s.content? c = some content) :
    s.isValue c = content.isValue := by
  rw [Store.isValue, h]
  rfl

/-- What a clone of a value refers to. -/
def Store.cloned (s : Store φ) (handles : Handles) (of : Place) : CellRef :=
  ((s.find handles of).filter fun c => s.isValue c).getD Store.undefined

theorem Store.cloned_spec (h : Exact s held) (hsentinels : Sentinels s held)
    (hhandles : ∀ e ∈ handles, e.2 ∈ held) (of : Place) :
    0 < s.strong (s.cloned handles of) ∧ s.isValue (s.cloned handles of) = true := by
  unfold Store.cloned
  cases hfound : (s.find handles of).filter fun c => s.isValue c with
  | none =>
      exact ⟨h.alive_of_held hsentinels.undefined.2, isValue_of_content hsentinels.undefined.1⟩
  | some c =>
      obtain ⟨hc, hvalue⟩ := Option.filter_eq_some_iff.mp hfound
      exact ⟨h.alive_of_find hhandles hc, hvalue⟩

mutual
theorem ValueMaking.run_made (hhandles : ∀ e ∈ handles, e.2 ∈ held) : ∀ (v : ValueMaking φ)
    {s : Store φ} (rest : List CellRef), Exact s (rest ++ held) → Sentinels s held →
    Made s (rest ++ held) (v.run handles s).1 (v.run handles s).2 ∧
      (v.run handles s).2.isValue (v.run handles s).1 = true
  | .null, s, rest, h, hsentinels => by
      refine ⟨.retain h (h.alive_of_held (List.mem_append_right _ hsentinels.null.2)), ?_⟩
      exact (isValue_congr (contents_retain s _) _).trans (isValue_of_content hsentinels.null.1)
  | .undefined, s, rest, h, hsentinels => by
      refine ⟨.retain h (h.alive_of_held (List.mem_append_right _ hsentinels.undefined.2)), ?_⟩
      exact (isValue_congr (contents_retain s _) _).trans
        (isValue_of_content hsentinels.undefined.1)
  | .number x, s, rest, h, _ => ⟨.leaf h rfl trivial, isValue_alloc s _⟩
  | .string x, s, rest, h, _ => ⟨.leaf h rfl trivial, isValue_alloc s _⟩
  | .function f, s, rest, h, _ => ⟨.leaf h rfl trivial, isValue_alloc s _⟩
  | .object n, s, rest, h, hsentinels => by
      obtain ⟨hn, hnamespace⟩ := n.run_made hhandles rest h hsentinels
      exact ⟨.alloc hn.extends hn.exact hnamespace, isValue_alloc _ _⟩
  | .clone of, s, rest, h, hsentinels => by
      obtain ⟨halive, hvalue⟩ := cloned_spec h
        (hsentinels.mono (.refl s) (List.subset_append_right rest held))
        (fun e he => List.mem_append_right _ (hhandles e he)) of
      exact ⟨.retain h halive, (isValue_congr (contents_retain s _) _).trans hvalue⟩

theorem NamespaceMaking.run_made (hhandles : ∀ e ∈ handles, e.2 ∈ held) :
    ∀ (n : NamespaceMaking φ) {s : Store φ} (rest : List CellRef), Exact s (rest ++ held) →
    Sentinels s held →
    Made s (rest ++ held) (n.run handles s).1 (n.run handles s).2 ∧
      ((n.run handles s).2.namespace? (n.run handles s).1).isSome
  | .build exports, s, rest, h, hsentinels => by
      obtain ⟨hbuilding, hextends⟩ := exports.run_building hhandles rest []
        ⟨h, fun e he => absurd he List.not_mem_nil⟩ hsentinels
      exact ⟨.alloc hextends hbuilding.exact hbuilding.has, namespace?_alloc _ _⟩
  | .clone of, s, rest, h, hsentinels => by
      rw [NamespaceMaking.run]
      split
      · next c hfound =>
          obtain ⟨hc, hvalue⟩ := Option.filter_eq_some_iff.mp hfound
          have halive := h.alive_of_find (fun e he => List.mem_append_right _ (hhandles e he)) hc
          refine ⟨.retain h halive, ?_⟩
          rw [namespace?_congr (contents_retain s c)]
          exact namespace?_of_not_isValue halive (by simpa using hvalue)
      · exact ⟨.leaf h rfl fun e he => absurd he List.not_mem_nil, namespace?_alloc s []⟩

theorem ExportsMaking.run_building (hhandles : ∀ e ∈ handles, e.2 ∈ held) :
    ∀ (x : ExportsMaking φ) {s : Store φ} (rest : List CellRef)
      (entries : List (String × StoredExport φ)), Building s (rest ++ held) entries →
    Sentinels s held →
    Building (x.run handles entries s).2 (rest ++ held) (x.run handles entries s).1 ∧
      Extends s (x.run handles entries s).2
  | .nil, s, rest, entries, h, _ => ⟨h, .refl s⟩
  | .value name v more, s, rest, entries, h, hsentinels => by
      obtain ⟨hv, hvalue⟩ := v.run_made hhandles (cellsOf entries ++ rest)
        (by rw [List.append_assoc]; exact h.exact) hsentinels
      rw [List.append_assoc] at hv
      obtain ⟨hadd, hextends⟩ := h.add hv name (.value _) rfl hvalue
      obtain ⟨hmore, hlater⟩ := more.run_building hhandles rest _ hadd
        (hsentinels.mono hextends (List.Subset.refl _))
      exact ⟨hmore, hextends.trans hlater⟩
  | .callback name f more, s, rest, entries, h, hsentinels => by
      have hadd := Building.put name (.callback f) h.exact h.has trivial
      have hextends : Extends s (s.put entries name (.callback f)).2 :=
        .of_contents (contents_put s entries name (.callback f))
      obtain ⟨hmore, hlater⟩ := more.run_building hhandles rest _ hadd
        (hsentinels.mono hextends (List.Subset.refl _))
      exact ⟨hmore, hextends.trans hlater⟩
  | .nested name n more, s, rest, entries, h, hsentinels => by
      obtain ⟨hn, hnamespace⟩ := n.run_made hhandles (cellsOf entries ++ rest)
        (by rw [List.append_assoc]; exact h.exact) hsentinels
      rw [List.append_assoc] at hn
      obtain ⟨hadd, hextends⟩ := h.add hn name (.nested _) rfl hnamespace
      obtain ⟨hmore, hlater⟩ := more.run_building hhandles rest _ hadd
        (hsentinels.mono hextends (List.Subset.refl _))
      exact ⟨hmore, hextends.trans hlater⟩
end

end ScriptHost
