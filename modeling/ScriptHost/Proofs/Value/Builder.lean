import ScriptHost.Proofs.Value.Handles

/-!
# What a builder finishes

A builder keeps its entries in one list, and looks a name up in it before it adds an entry.
Said without the builder: a finished namespace has the names that were exported, each at the
place of its first export, and what it holds under a name is the last thing exported under it.
Both sides are folds over the exports, so everything here is an induction that takes the last
export off: `names_put` and `lookup_put` say what one export does to the names and to what is
found, and the same two facts about `eraseDups` and `lastExport` say it for the description.

A namespace is never opened for writing, so one that stands inside a later one, or that several
objects share, is the one that was finished, whole.  For shared namespaces this is the cells of
the store, which only ever become more.
-/

namespace ScriptHost

variable {φ : Type} {items : List (String × Export φ)} {name : String}

/-- What was exported last under a name. -/
def lastExport (items : List (String × Export φ)) (name : String) : Option (Export φ) :=
  items.reverse.lookup name

/-! ## The description, one export later -/

theorem eraseDups_concat (names : List String) (name : String) :
    (names ++ [name]).eraseDups =
      if name ∈ names then names.eraseDups else names.eraseDups ++ [name] := by
  rw [List.eraseDups_append]
  split
  · next hmem => simp [List.removeAll, hmem]
  · next hmem => simp [List.removeAll, hmem, List.eraseDups_cons]

theorem nodup_eraseDups (names : List String) : names.eraseDups.Nodup := by
  induction names using List.reverseRecOn with
  | nil => exact List.nodup_nil
  | append_singleton names name ih =>
      rw [eraseDups_concat]
      split
      · exact ih
      · next hmem =>
          rw [← List.concat_eq_append]
          exact List.Nodup.concat (fun h => hmem (List.mem_eraseDups.mp h)) ih

theorem lastExport_concat (items : List (String × Export φ)) (entry : String × Export φ) :
    lastExport (items ++ [entry]) name =
      if name = entry.1 then some entry.2 else lastExport items name := by
  obtain ⟨key, item⟩ := entry
  simp only [lastExport, List.reverse_append, List.reverse_singleton, List.singleton_append,
    List.lookup_cons]
  split <;> simp_all

theorem lastExport_eq_none_iff : lastExport items name = none ↔ name ∉ items.map (·.1) := by
  simp only [lastExport, List.lookup_eq_none_iff, List.mem_reverse, bne_iff_ne, List.mem_map,
    not_exists, not_and]
  exact ⟨fun h e he => Ne.symm (h e he), fun h e he => Ne.symm (h e he)⟩

namespace ExportBuilder

/-! ## The builder, one export later -/

theorem names_put (name : String) (item : Export φ) (entries : List (String × Export φ)) :
    (put name item entries).map (·.1) =
      if name ∈ entries.map (·.1) then entries.map (·.1) else entries.map (·.1) ++ [name] := by
  induction entries with
  | nil => rfl
  | cons entry rest ih =>
      obtain ⟨key, old⟩ := entry
      rcases eq_or_ne key name with rfl | hne
      · simp [put]
      · simp only [put, if_neg hne, List.map_cons, ih, List.mem_cons, hne.symm, false_or]
        split <;> rfl

/-- The other names keep what they had. -/
theorem lookup_put (key : String) (item : Export φ) (entries : List (String × Export φ)) :
    (put key item entries).lookup name = if name = key then some item else entries.lookup name := by
  induction entries with
  | nil => simp only [put, List.lookup_cons, List.lookup_nil]; split <;> simp_all
  | cons entry rest ih =>
      obtain ⟨first, old⟩ := entry
      rcases eq_or_ne first key with rfl | hne
      · simp only [put, if_pos, List.lookup_cons]
        split <;> simp_all
      · simp only [put, if_neg hne, List.lookup_cons, ih]
        split
        · next hfirst => rw [if_neg fun h => hne (by rw [← h, eq_of_beq hfirst])]
        · rfl

theorem ofExports_concat (items : List (String × Export φ)) (entry : String × Export φ) :
    ofExports (items ++ [entry]) = (ofExports items).export entry.1 entry.2 := by
  simp [ofExports, List.foldl_append]

/-! ## All exports -/

theorem names_ofExports (items : List (String × Export φ)) :
    (ofExports items).entries.map (·.1) = (items.map (·.1)).eraseDups := by
  induction items using List.reverseRecOn with
  | nil => rfl
  | append_singleton items entry ih =>
      have hput := names_put entry.1 entry.2 (ofExports items).entries
      rw [ofExports_concat, List.map_append, List.map_singleton, eraseDups_concat]
      rw [ih] at hput
      simpa only [«export», List.mem_eraseDups] using hput

theorem lookup_ofExports (items : List (String × Export φ)) (name : String) :
    (ofExports items).entries.lookup name = lastExport items name := by
  induction items using List.reverseRecOn with
  | nil => rfl
  | append_singleton items entry ih =>
      rw [ofExports_concat, lastExport_concat, ← ih]
      exact lookup_put _ _ _

/-- In a list that has every key once, every entry is found under its key. -/
theorem map_some_eq_lookup {entries : List (String × Export φ)}
    (hnodup : (entries.map (·.1)).Nodup) :
    (entries.map fun e => (e.1, some e.2)) =
      (entries.map (·.1)).map fun name => (name, entries.lookup name) := by
  induction entries with
  | nil => rfl
  | cons entry rest ih =>
      obtain ⟨hhead, htail⟩ := List.nodup_cons.mp hnodup
      rw [List.map_cons, List.map_cons, List.map_cons, List.lookup_cons_self, ih htail]
      refine congrArg _ (List.map_congr_left fun name hname => ?_)
      have hne : (name == entry.1) = false := by
        rw [beq_eq_false_iff_ne]
        rintro rfl
        exact hhead hname
      rw [List.lookup_cons, hne]

end ExportBuilder

/-! ## Finished namespaces -/

theorem Namespace.get?_eq_lookup (n : Namespace φ) (name : String) :
    n.get? name = n.toList.lookup name := by
  unfold get?
  induction n.toList with
  | nil => rfl
  | cons entry rest ih =>
      rw [List.find?_cons, List.lookup_cons, Bool.beq_comm, ← ih]
      split <;> rfl

namespace ExportBuilder

theorem toList_build (b : ExportBuilder φ) : b.build.toList = b.entries :=
  Namespace.toList_ofList b.entries

theorem names_build (items : List (String × Export φ)) :
    (ofExports items).build.names = (items.map (·.1)).eraseDups := by
  rw [Namespace.names, toList_build, names_ofExports]

theorem get?_build (items : List (String × Export φ)) (name : String) :
    (ofExports items).build.get? name = lastExport items name := by
  rw [Namespace.get?_eq_lookup, toList_build, lookup_ofExports]

/-- A builder knows the names that were exported. -/
theorem contains_iff : (ofExports items).contains name = true ↔ name ∈ items.map (·.1) := by
  rw [← List.mem_eraseDups, ← names_ofExports]
  simp [contains]

theorem size_ofExports (items : List (String × Export φ)) :
    (ofExports items).size = (items.map (·.1)).eraseDups.length := by
  rw [size, ← names_ofExports, List.length_map]

end ExportBuilder

/-- A finished namespace that is exported again, and not replaced, is found as it was. -/
theorem ExportBuilder.get?_nested {before rest : List (String × Export φ)} {n : Namespace φ}
    (hlast : name ∉ rest.map (·.1)) :
    (ofExports (before ++ (name, .nested n) :: rest)).build.get? name = some (.nested n) := by
  have hnone := lastExport_eq_none_iff.mpr hlast
  rw [get?_build]
  unfold lastExport at hnone ⊢
  rw [List.reverse_append, List.reverse_cons, List.append_assoc, List.lookup_append, hnone,
    Option.none_or, List.singleton_append, List.lookup_cons_self]

/-! ## The exports of a namespace -/

/-- A finished namespace lists every exported name once, at the place of its first export and
with the payload of its last one, and finds that payload under the name, and nothing under any
other name.  After every part of the exports the builder has the names that it would finish
with.  A namespace that is exported in a later one is found in it, unchanged, under the names
that it was exported under last.  A namespace that is shared stays as it was finished, with the
same exports in the same order, whatever a host makes, finishes, wraps and gives back
afterwards. -/
theorem names_keep_last_export (items : List (String × Export φ)) :
    (let n := (ExportBuilder.ofExports items).build
     (n.toList.map fun e => (e.1, some e.2)) =
        (items.map (·.1)).eraseDups.map (fun name => (name, lastExport items name)) ∧
      n.names.Nodup ∧
      ∀ name, n.get? name = lastExport items name ∧
        (n.get? name = none ↔ name ∉ items.map (·.1))) ∧
    (∀ before, before <+: items →
      let b := ExportBuilder.ofExports before
      b.size = (before.map (·.1)).eraseDups.length ∧ b.size = b.build.size ∧
      ∀ name, (b.contains name = true ↔ name ∈ before.map (·.1)) ∧
        b.contains name = (b.build.get? name).isSome) ∧
    (∀ before name n rest, items = before ++ (name, .nested n) :: rest →
      name ∉ rest.map (·.1) →
      (ExportBuilder.ofExports items).build.get? name = some (.nested n)) ∧
    ∀ (before later : List (HandleOperation φ)) (c : CellRef)
      (entries : List (String × StoredExport φ)),
      (Ledger.after before).store.namespace? c = some entries →
      (Ledger.after (before ++ later)).store.namespace? c = some entries ∧
        (Ledger.after (before ++ later)).store.readNamespace c =
          (Ledger.after before).store.readNamespace c := by
  refine ⟨⟨?_, ?_, fun name => ⟨ExportBuilder.get?_build items name, ?_⟩⟩,
    fun before _ => ⟨ExportBuilder.size_ofExports before, ?_, fun name =>
      ⟨ExportBuilder.contains_iff, ?_⟩⟩,
    ?_, fun before later c entries hc => ?_⟩
  · have hnodup : ((ExportBuilder.ofExports items).entries.map (·.1)).Nodup := by
      rw [ExportBuilder.names_ofExports]
      exact nodup_eraseDups _
    rw [ExportBuilder.toList_build, ExportBuilder.map_some_eq_lookup hnodup,
      ExportBuilder.names_ofExports]
    simp only [ExportBuilder.lookup_ofExports]
  · rw [ExportBuilder.names_build]
    exact nodup_eraseDups _
  · rw [ExportBuilder.get?_build]
    exact lastExport_eq_none_iff
  · rw [Namespace.size, ExportBuilder.toList_build, ExportBuilder.size]
  · rw [ExportBuilder.get?_build, Bool.eq_iff_iff, ExportBuilder.contains_iff,
      Option.isSome_iff_ne_none, ne_eq, lastExport_eq_none_iff, not_not]
  · rintro before name n rest rfl hlast
    exact ExportBuilder.get?_nested hlast
  · have hextends := Ledger.extends_after before later
    have hread := (Ledger.sound_after before).exact.formed.read_extends
      (Ledger.sound_after (before ++ later)).exact.formed hextends
      (Store.content_of_namespace (by rw [hc]; rfl))
    rw [Store.namespace?_eq_some] at hc ⊢
    exact ⟨hextends.kept c _ hc, hread.2⟩

/-- Three exports, the last of them under the first name again, and a namespace that was
finished before among them. -/
def exportedTwice : List (String × Export Unit) :=
  [("a", .value .null), ("b", .nested (.entry "f" (.callback ()) .empty)), ("a", .value .undefined)]

/-- A namespace of one callback. -/
def finishedOnce : List (HandleOperation Unit) := [.nested "n" (.build (.callback "f" () .nil))]

/-- Two objects share the namespace, and one of them is given back with its own handle. -/
def usedTwice : List (HandleOperation Unit) :=
  [.value "x" (.object (.clone { name := "n" })),
    .value "y" (.object (.build (.nested "f" (.clone { name := "n" }) .nil))),
    .drop "n", .drop "x"]

theorem names_keep_last_export_twice :
    exportedTwice.take 2 <+: exportedTwice ∧
      (ExportBuilder.ofExports (exportedTwice.take 2)).size = 2 ∧
      (ExportBuilder.ofExports exportedTwice).build.get? "a" = some (.value .undefined) ∧
      (ExportBuilder.ofExports exportedTwice).build.get? "b" =
        some (.nested (.entry "f" (.callback ()) .empty)) ∧
      (Ledger.after finishedOnce).store.namespace? 2 = some [("f", .callback ())] ∧
      (Ledger.after (finishedOnce ++ usedTwice)).store.namespace? 2 =
        some [("f", .callback ())] := by
  obtain ⟨⟨-, -, hget⟩, hinitial, hnested, hstays⟩ := names_keep_last_export exportedTwice
  have hbefore : exportedTwice.take 2 <+: exportedTwice := List.take_prefix 2 _
  have hnamespace : (Ledger.after finishedOnce).store.namespace? 2 = some [("f", .callback ())] :=
    rfl
  refine ⟨hbefore, (hinitial _ hbefore).1, (hget "a").1, ?_, hnamespace,
    (hstays finishedOnce usedTwice 2 _ hnamespace).1⟩
  exact hnested [("a", .value .null)] "b" _ [("a", .value .undefined)] rfl (by simp)

end ScriptHost
