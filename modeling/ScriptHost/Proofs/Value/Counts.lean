import Mathlib
import ScriptHost.Value.Store

/-!
# Counts are exact

A cell's number of references is a field of the cell, changed by one at a time.  That it is the
number of references there are is an invariant, `Exact`: the references that are held from
outside, given as a list, and those of all cells that are still there.

* One more reference, to a cell that is there, is one more that is held (`Exact.retain`).
* A new cell takes over what it refers to, and is itself held once (`Exact.alloc`).
* A reference that is given back is held no longer (`Exact.release`).  If it was the last one,
  the references of the cell that is gone are held for a moment by nobody else, and are given
  back one after the other.

A cell that is there is one that is reached from what is held (`Exact.alive_iff`), because every
cell is older than whatever refers to it.
-/

namespace ScriptHost

variable {φ : Type} {s t : Store φ} {c d : CellRef} {content : Content φ}
  {held : List CellRef}

namespace Store

/-! ## Contents stay -/

/-- What the cells hold. -/
def contents (s : Store φ) : List (Content φ) := s.cells.map (·.content)

theorem content?_eq (s : Store φ) (c : CellRef) : s.content? c = s.contents[c]? := by
  simp [content?, contents]

theorem size_eq (s : Store φ) : s.size = s.contents.length := by
  simp [size, contents]

@[simp] theorem contents_setStrong (s : Store φ) (c : CellRef) (n : Nat) :
    (s.setStrong c n).contents = s.contents := by
  refine List.ext_getElem? fun d => ?_
  simp only [contents, setStrong, List.getElem?_map, List.getElem?_modify]
  cases s.cells[d]? with
  | none => rfl
  | some cell => by_cases h : c = d <;> simp [h]

@[simp] theorem contents_retain (s : Store φ) (c : CellRef) :
    (s.retain c).contents = s.contents := contents_setStrong s c _

theorem contents_alloc (s : Store φ) (content : Content φ) :
    (s.alloc content).2.contents = s.contents ++ [content] := by
  simp [alloc, contents]

@[simp] theorem contents_release (s : Store φ) (c : CellRef) :
    (s.release c).contents = s.contents := by
  induction c using Nat.strong_induction_on generalizing s with
  | _ c ih =>
      rw [release]
      split
      · refine List.foldlRecOn (s.refs c) _ (motive := fun t : Store φ => t.contents = s.contents)
          (contents_setStrong s c 0) fun t ht d _ => ?_
        split
        · next hlt => rw [ih d hlt t, ht]
        · exact ht
      · exact contents_setStrong s c _

theorem content?_congr (h : t.contents = s.contents) (c : CellRef) :
    t.content? c = s.content? c := by
  rw [content?_eq, content?_eq, h]

theorem refs_congr (h : t.contents = s.contents) (c : CellRef) : t.refs c = s.refs c := by
  rw [refs, refs, content?_congr h]

theorem size_congr (h : t.contents = s.contents) : t.size = s.size := by
  rw [size_eq, size_eq, h]

/-! ## What the operations do to the counts -/

theorem strong_of_size_le (h : s.size ≤ c) : s.strong c = 0 := by
  have hnone : s.cells[c]? = none := List.getElem?_eq_none h
  rw [strong, hnone]
  rfl

theorem lt_size_of_strong (h : 0 < s.strong c) : c < s.size := by
  by_contra hle
  rw [strong_of_size_le (not_lt.mp hle)] at h
  exact absurd h (Nat.lt_irrefl 0)

theorem strong_setStrong (hc : c < s.size) (n : Nat) :
    (s.setStrong c n).strong d = if d = c then n else s.strong d := by
  rw [strong, strong, setStrong, List.getElem?_modify]
  rcases eq_or_ne d c with rfl | hne
  · rw [List.getElem?_eq_getElem (show d < s.cells.length from hc)]
    simp
  · cases s.cells[d]? with
    | none => simp [hne]
    | some cell => simp [hne, hne.symm]

theorem strong_alloc (s : Store φ) (content : Content φ) :
    (s.alloc content).2.strong d = if d = s.size then 1 else s.strong d := by
  rcases lt_trichotomy d s.size with hlt | rfl | hgt
  · rw [if_neg hlt.ne, strong, strong, alloc, List.getElem?_append_left hlt]
  · simp [strong, alloc, size]
  · rw [if_neg hgt.ne', strong_of_size_le hgt.le, strong_of_size_le]
    rw [size_eq, contents_alloc, List.length_append, ← size_eq]
    exact hgt

theorem content?_alloc (s : Store φ) (content : Content φ) :
    (s.alloc content).2.content? d = if d = s.size then some content else s.content? d := by
  rw [content?_eq, contents_alloc, content?_eq]
  rcases lt_trichotomy d s.size with hlt | rfl | hgt
  · rw [if_neg hlt.ne, List.getElem?_append_left (by rwa [← size_eq])]
  · simp [size_eq]
  · rw [if_neg hgt.ne', List.getElem?_eq_none (by simp [← size_eq]; omega),
      List.getElem?_eq_none (by rw [← size_eq]; exact hgt.le)]

/-! ## Formed stores -/

/-- The exports of a namespace. -/
def namespace? (s : Store φ) (c : CellRef) : Option (List (String × StoredExport φ)) :=
  match s.content? c with
  | some (.exports entries) => some entries
  | _ => none

/-- An export refers to what it says. -/
def HasExport (s : Store φ) : StoredExport φ → Prop
  | .value c => s.isValue c = true
  | .callback _ => True
  | .nested c => (s.namespace? c).isSome

/-- A cell refers to what its content says, and only the sentinels' own cells hold them. -/
def Has (s : Store φ) (c : CellRef) : Content φ → Prop
  | .null => c = null
  | .undefined => c = undefined
  | .object n => (s.namespace? n).isSome
  | .exports entries => ∀ e ∈ entries, s.HasExport e.2
  | _ => True

/-- Every cell refers to older cells, and to those of the right kind. -/
structure Formed (s : Store φ) : Prop where
  older : ∀ c, ∀ d ∈ s.refs c, d < c
  has : ∀ c content, s.content? c = some content → s.Has c content

/-- All that is there stays as it is when something is made. -/
structure Extends (s t : Store φ) : Prop where
  kept : ∀ c content, s.content? c = some content → t.content? c = some content

theorem Extends.of_contents (h : t.contents = s.contents) : Extends s t :=
  ⟨fun c content hc => by rw [content?_congr h, hc]⟩

theorem Extends.trans {u : Store φ} (h : Extends s t) (h' : Extends t u) : Extends s u :=
  ⟨fun c content hc => h'.kept c content (h.kept c content hc)⟩

theorem Extends.refl (s : Store φ) : Extends s s := ⟨fun _ _ h => h⟩

theorem lt_size_of_content (h : s.content? c = some content) : c < s.size := by
  rw [content?_eq] at h
  rw [size_eq]
  exact (List.getElem?_eq_some_iff.mp h).1

theorem Extends.alloc (s : Store φ) (content : Content φ) : Extends s (s.alloc content).2 :=
  ⟨fun c old hc => by rw [content?_alloc, if_neg (lt_size_of_content hc).ne, hc]⟩

theorem Extends.isValue (h : Extends s t) (hc : s.isValue c = true) : t.isValue c = true := by
  unfold Store.isValue at hc ⊢
  cases hcontent : s.content? c with
  | none => rw [hcontent] at hc; cases hc
  | some content => rwa [h.kept c content hcontent, ← hcontent]

theorem namespace?_eq_some {entries : List (String × StoredExport φ)} :
    s.namespace? c = some entries ↔ s.content? c = some (.exports entries) := by
  unfold namespace?
  split <;> simp_all

theorem Extends.namespace? (h : Extends s t) (hc : (s.namespace? c).isSome) :
    (t.namespace? c).isSome := by
  obtain ⟨entries, hentries⟩ := Option.isSome_iff_exists.mp hc
  rw [namespace?_eq_some.mpr (h.kept c _ (namespace?_eq_some.mp hentries))]
  rfl

theorem Extends.hasExport (h : Extends s t) {item : StoredExport φ} (hitem : s.HasExport item) :
    t.HasExport item := by
  cases item with
  | value c => exact h.isValue hitem
  | callback f => trivial
  | nested c => exact h.namespace? hitem

theorem Extends.has (h : Extends s t) (hcontent : s.Has c content) : t.Has c content := by
  cases content with
  | null => exact hcontent
  | undefined => exact hcontent
  | object c => exact h.namespace? hcontent
  | exports entries => exact fun e he => h.hasExport (hcontent e he)
  | _ => trivial

theorem Formed.congr (h : s.Formed) (hcontents : t.contents = s.contents) : t.Formed := by
  refine ⟨fun c d hd => h.older c d (by rwa [← refs_congr hcontents]), fun c content hc => ?_⟩
  rw [content?_congr hcontents] at hc
  exact (Extends.of_contents hcontents).has (h.has c content hc)

theorem refs_alloc (s : Store φ) (content : Content φ) :
    (s.alloc content).2.refs d = if d = s.size then content.refs else s.refs d := by
  rw [refs, content?_alloc, refs]
  split <;> rfl

theorem Formed.alloc (h : s.Formed) (hhas : s.Has s.size content)
    (hrefs : ∀ d ∈ content.refs, d < s.size) : (s.alloc content).2.Formed := by
  refine ⟨fun c d hd => ?_, fun c old hc => ?_⟩
  · rw [refs_alloc] at hd
    split at hd
    · next heq => exact heq ▸ hrefs d hd
    · exact h.older c d hd
  · rw [content?_alloc] at hc
    split at hc
    · next heq => exact (Extends.alloc s content).has (Option.some.inj hc ▸ heq ▸ hhas)
    · exact (Extends.alloc s content).has (h.has c old hc)

/-! ## The references of the cells that are there -/

/-- The references of a cell to another one, if it is there. -/
def given (s : Store φ) (d c : CellRef) : Nat := if 0 < s.strong d then (s.refs d).count c else 0

/-- The references to a cell of all cells that are there. -/
def inner (s : Store φ) (c : CellRef) : Nat := ∑ d ∈ Finset.range s.size, s.given d c

theorem given_le_inner (s : Store φ) (d c : CellRef) : s.given d c ≤ s.inner c := by
  by_cases hd : d < s.size
  · exact Finset.single_le_sum (f := fun d => s.given d c) (fun _ _ => Nat.zero_le _)
      (Finset.mem_range.mpr hd)
  · simp [given, strong_of_size_le (not_lt.mp hd)]

/-- A cell that has references before and after gives the same as before. -/
theorem inner_setStrong (hc : 0 < s.strong c) {n : Nat} (hn : 0 < n) :
    (s.setStrong c n).inner d = s.inner d := by
  unfold inner
  rw [size_congr (contents_setStrong s c n)]
  refine Finset.sum_congr rfl fun e _ => ?_
  rw [given, given, refs_congr (contents_setStrong s c n), strong_setStrong (lt_size_of_strong hc)]
  rcases eq_or_ne e c with rfl | hne
  · rw [if_pos rfl, if_pos hn, if_pos hc]
  · rw [if_neg hne]

/-- A cell without references gives back what it gave. -/
theorem inner_setStrong_zero (hc : 0 < s.strong c) :
    (s.setStrong c 0).inner d + (s.refs c).count d = s.inner d := by
  have hmem : c ∈ Finset.range s.size := Finset.mem_range.mpr (lt_size_of_strong hc)
  have hself : s.given c d = (s.refs c).count d := if_pos hc
  have hgone : (s.setStrong c 0).given c d = 0 := by
    rw [given, strong_setStrong (lt_size_of_strong hc), if_pos rfl]
    rfl
  have hrest : ∀ e ∈ (Finset.range s.size).erase c, (s.setStrong c 0).given e d = s.given e d := by
    intro e he
    rw [given, given, refs_congr (contents_setStrong s c 0),
      strong_setStrong (lt_size_of_strong hc), if_neg (Finset.ne_of_mem_erase he)]
  have hbefore : s.given c d + ∑ e ∈ (Finset.range s.size).erase c, s.given e d = s.inner d :=
    Finset.add_sum_erase _ (fun e => s.given e d) hmem
  rw [inner, size_congr (contents_setStrong s c 0), ← Finset.add_sum_erase _ _ hmem, hgone,
    Finset.sum_congr rfl hrest, ← hbefore, hself]
  omega

theorem inner_alloc (s : Store φ) (content : Content φ) :
    (s.alloc content).2.inner d = s.inner d + content.refs.count d := by
  have hsize : (s.alloc content).2.size = s.size + 1 := by
    rw [size_eq, contents_alloc, List.length_append, ← size_eq]
    rfl
  have hnew : (s.alloc content).2.given s.size d = content.refs.count d := by
    simp [given, strong_alloc, refs_alloc]
  have hold : ∀ e ∈ Finset.range s.size, (s.alloc content).2.given e d = s.given e d := by
    intro e he
    have hne : e ≠ s.size := (Finset.mem_range.mp he).ne
    rw [given, given, strong_alloc, refs_alloc, if_neg hne, if_neg hne]
  rw [inner, hsize, Finset.sum_range_succ, hnew, Finset.sum_congr rfl hold]
  rfl

/-! ## The invariant -/

/-- Every cell has as many references as there are: those that are held, and those of the cells
that are there. -/
structure Exact (s : Store φ) (held : List CellRef) : Prop where
  formed : s.Formed
  count : ∀ c, s.strong c = held.count c + s.inner c

namespace Exact

theorem start : Exact (.start : Store φ) [null, undefined] := by
  refine ⟨⟨fun c d hd => ?_, fun c content hc => ?_⟩, fun c => ?_⟩
  · match c with
    | 0 | 1 => cases hd
    | c + 2 => cases hd
  · match c with
    | 0 => cases hc; rfl
    | 1 => cases hc; rfl
    | c + 2 => cases hc
  · have hinner : (Store.start : Store φ).inner c = 0 := by
      simp [inner, given, Store.start, refs, content?, Content.refs, size, Finset.sum_range_succ]
    rw [hinner]
    match c with
    | 0 => rfl
    | 1 => rfl
    | c + 2 => simp [Store.strong, Store.start, null, undefined]

/-- The order of what is held says nothing. -/
theorem of_count {held' : List CellRef} (h : Exact s held)
    (hcount : ∀ c, held'.count c = held.count c) : Exact s held' :=
  ⟨h.formed, fun c => by rw [hcount]; exact h.count c⟩

theorem alive_of_held (h : Exact s held) (hc : c ∈ held) : 0 < s.strong c := by
  have := List.count_pos_iff.mpr hc
  rw [h.count]
  omega

/-- What a cell refers to that is there, is there. -/
theorem alive_of_refs (h : Exact s held) (hc : 0 < s.strong c) (hd : d ∈ s.refs c) :
    0 < s.strong d := by
  have hgiven : s.given c d = (s.refs c).count d := if_pos hc
  have := List.count_pos_iff.mpr hd
  have := s.given_le_inner c d
  rw [h.count]
  omega

theorem retain (h : Exact s held) (hc : 0 < s.strong c) : Exact (s.retain c) (c :: held) := by
  refine ⟨h.formed.congr (contents_retain s c), fun d => ?_⟩
  rw [Store.retain, inner_setStrong hc (Nat.succ_pos _), strong_setStrong (lt_size_of_strong hc),
    List.count_cons, h.count c]
  have := h.count d
  split
  · next heq => subst heq; simp only [beq_self_eq_true, if_pos]; omega
  · next hne => simp only [beq_iff_eq, Ne.symm hne, if_false]; omega

/-- A new cell takes over the references that it consists of. -/
theorem alloc (h : Exact s (content.refs ++ held)) (hhas : s.Has s.size content) :
    Exact (s.alloc content).2 (s.size :: held) := by
  have hrefs : ∀ d ∈ content.refs, d < s.size := fun d hd =>
    lt_size_of_strong (h.alive_of_held (List.mem_append_left held hd))
  refine ⟨h.formed.alloc hhas hrefs, fun d => ?_⟩
  have hcount := h.count d
  rw [List.count_append] at hcount
  rw [strong_alloc, inner_alloc, List.count_cons]
  split
  · next heq =>
      subst heq
      have hnone : s.strong s.size = 0 := strong_of_size_le le_rfl
      simp only [beq_self_eq_true, if_pos]
      omega
  · next hne => simp only [beq_iff_eq, Ne.symm hne, if_false]; omega

/-- A cell that loses its last reference leaves its own to be given back. -/
theorem clear (h : Exact s (c :: held)) (hlast : s.strong c = 1) :
    Exact (s.setStrong c 0) (s.refs c ++ held) := by
  have hpos : 0 < s.strong c := hlast ▸ Nat.one_pos
  refine ⟨h.formed.congr (contents_setStrong s c 0), fun d => ?_⟩
  have hcount := h.count d
  have hinner := s.inner_setStrong_zero (d := d) hpos
  rw [List.count_cons] at hcount
  rw [strong_setStrong (lt_size_of_strong hpos), List.count_append]
  split
  · next heq => subst heq; simp only [beq_self_eq_true, if_pos] at hcount; omega
  · next hne => simp only [beq_iff_eq, Ne.symm hne, if_false] at hcount; omega

/-- A cell that keeps a reference. -/
theorem lower (h : Exact s (c :: held)) (hmore : s.strong c ≠ 1) :
    Exact (s.setStrong c (s.strong c - 1)) held := by
  have hpos : 0 < s.strong c := h.alive_of_held List.mem_cons_self
  refine ⟨h.formed.congr (contents_setStrong s c _), fun d => ?_⟩
  have hcount := h.count d
  rw [List.count_cons] at hcount
  rw [strong_setStrong (lt_size_of_strong hpos), inner_setStrong hpos (by omega)]
  split
  · next heq => subst heq; simp only [beq_self_eq_true, if_pos] at hcount; omega
  · next hne => simp only [beq_iff_eq, Ne.symm hne, if_false] at hcount; omega

/-- One reference that is held no longer, however many cells it takes along. -/
theorem release (h : Exact s (c :: held)) : Exact (s.release c) held := by
  induction c using Nat.strong_induction_on generalizing s held with
  | _ c ih =>
      rw [Store.release]
      split
      · next hlast =>
          -- the references of the cell are given back in order, each to an older cell
          have hall : ∀ (refs : List CellRef) (t : Store φ), (∀ d ∈ refs, d < c) →
              Exact t (refs ++ held) →
              Exact (refs.foldl (fun t d => if _ : d < c then t.release d else t) t) held := by
            intro refs
            induction refs with
            | nil => exact fun t _ ht => ht
            | cons d refs ihrefs =>
                intro t hlt ht
                have hd : d < c := hlt d List.mem_cons_self
                rw [List.foldl_cons, dif_pos hd]
                exact ihrefs _ (fun e he => hlt e (List.mem_cons_of_mem d he)) (ih d hd ht)
          exact hall _ _ (h.formed.older c) (h.clear hlast)
      · next hmore => exact h.lower hmore

end Exact

/-! ## What is there is what is reached -/

/-- A cell that is held, or that a reached cell refers to. -/
inductive Reached (s : Store φ) (held : List CellRef) : CellRef → Prop where
  | held {c : CellRef} (h : c ∈ held) : Reached s held c
  | inside {c d : CellRef} (h : Reached s held c) (hd : d ∈ s.refs c) : Reached s held d

/-- A reference of a cell that is there. -/
theorem exists_of_inner (h : 0 < s.inner c) : ∃ d, 0 < s.strong d ∧ c ∈ s.refs d := by
  obtain ⟨d, -, hd⟩ := Finset.sum_pos_iff.mp h
  rw [given] at hd
  split at hd
  · next halive => exact ⟨d, halive, List.count_pos_iff.mp hd⟩
  · exact absurd hd (Nat.lt_irrefl 0)

/-- A cell has references if and only if it is reached from what is held. -/
theorem Exact.alive_iff (h : Exact s held) : 0 < s.strong c ↔ Reached s held c := by
  refine ⟨fun hc => ?_, fun hc => ?_⟩
  · -- the younger a cell is, the fewer cells can refer to it
    induction hroom : s.size - c using Nat.strong_induction_on generalizing c with
    | _ room ih =>
        by_cases hheld : c ∈ held
        · exact .held hheld
        · have hinner : 0 < s.inner c := by
            rw [h.count, List.count_eq_zero_of_not_mem hheld, Nat.zero_add] at hc
            exact hc
          obtain ⟨d, hd, hrefs⟩ := exists_of_inner hinner
          have hlt := h.formed.older d c hrefs
          have hroom' : s.size - d < room :=
            hroom ▸ Nat.sub_lt_sub_left (hlt.trans (lt_size_of_strong hd)) hlt
          exact .inside (ih (s.size - d) hroom' hd rfl) hrefs
  · induction hc with
    | held hc => exact h.alive_of_held hc
    | inside _ hd ih => exact h.alive_of_refs ih hd

end Store

end ScriptHost
