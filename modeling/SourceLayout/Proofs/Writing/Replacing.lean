import SourceLayout.Proofs.Fragment.Refusals
import SourceLayout.Proofs.Writing.Lines

/-! Resolving replaces the pending breaks of a tree and nothing else.  The tree keeps its shape, and
each pending break becomes a line break with the change that the arena holds at its index; that is
all, or the tree is refused for an index that the arena does not have. -/

namespace SourceLayout

/-! ### Replacing breaks -/

namespace Fragment

variable {α : Type} (change : Int → Int)

mutual

/-- The tree with every pending break as a line break with the change that is given for its
index. -/
def withChanges : Fragment α → Fragment α
  | .pending index => .newline (change index)
  | .seq fs => .seq (withChangesOf fs)
  | .table rows => .table (withChangesOfRows rows)
  | .marked mark f => .marked mark (withChanges f)
  | .text s => .text s
  | .newline change => .newline change
  | .name n => .name n
  | .foreign v => .foreign v

/-- The trees with the changes of their breaks. -/
def withChangesOf : List (Fragment α) → List (Fragment α)
  | [] => []
  | f :: fs => withChanges f :: withChangesOf fs

/-- The rows with the changes of their breaks. -/
def withChangesOfRows : List (List (Fragment α)) → List (List (Fragment α))
  | [] => []
  | row :: rows => withChangesOf row :: withChangesOfRows rows

end

theorem withChangesOf_eq_map (fs : List (Fragment α)) :
    withChangesOf change fs = fs.map (withChanges change) := by
  induction fs with
  | nil => rfl
  | cons f fs ih => rw [withChangesOf, ih, List.map_cons]

theorem withChangesOfRows_eq_map (rows : List (List (Fragment α))) :
    withChangesOfRows change rows = rows.map (List.map (withChanges change)) := by
  induction rows with
  | nil => rfl
  | cons row rows ih => rw [withChangesOfRows, ih, withChangesOf_eq_map, List.map_cons]

@[simp] theorem withChanges_seq (fs : List (Fragment α)) :
    (seq fs).withChanges change = seq (fs.map (withChanges change)) := by
  rw [withChanges, withChangesOf_eq_map]

@[simp] theorem withChanges_table (rows : List (List (Fragment α))) :
    (table rows).withChanges change = table (rows.map (List.map (withChanges change))) := by
  rw [withChanges, withChangesOfRows_eq_map]

/-- The leaves keep their places. -/
theorem leaves_withChanges (f : Fragment α) :
    (f.withChanges change).leaves = f.leaves.map (withChanges change) := by
  induction f with
  | text _ | newline _ | pending _ | name _ | foreign _ => rfl
  | seq fs ih =>
    rw [withChanges_seq, leaves_seq, leaves_seq, List.flatMap_map, List.map_flatMap]
    exact List.flatMap_congr ih
  | table rows ih =>
    simp only [withChanges_table, leaves_table, List.flatMap_map, List.map_flatMap]
    exact List.flatMap_congr fun row hrow => List.flatMap_congr (ih row hrow)
  | marked mark f ih => exact ih

theorem pending_notMem_leaves_withChanges (f : Fragment α) (index : Int) :
    .pending index ∉ (f.withChanges change).leaves := by
  intro h
  rw [leaves_withChanges, List.mem_map] at h
  obtain ⟨leaf, -, h⟩ := h
  cases leaf <;> cases h

theorem pendings_withChanges (f : Fragment α) : (f.withChanges change).pendings = [] := by
  rw [pendings, List.filterMap_eq_nil_iff]
  intro leaf hleaf
  cases leaf with
  | pending index => exact absurd hleaf (pending_notMem_leaves_withChanges change f index)
  | text _ | newline _ | name _ | seq _ | table _ | marked _ _ | foreign _ => rfl

end Fragment

/-! ### The changes of an arena -/

namespace LineArena

/-- The change of the break at an index: an index from zero on counts from the first break on, and a
negative one from the latest break back. -/
def changeAt (a : LineArena) (index : Int) : Int :=
  if 0 ≤ index then a.changes.reverse.getD index.toNat 0
  else a.changes.getD (-1 - index).toNat 0

variable {a : LineArena}

theorem change_of_has {index : Int} (h : a.Has index) : a.change index = .ok (a.changeAt index) := by
  unfold Has at h
  by_cases hnonneg : 0 ≤ index
  · obtain ⟨n, rfl⟩ := Int.eq_ofNat_of_zero_le hnonneg
    rw [changeAt, if_pos hnonneg]
    exact change_of_lt (Int.ofNat_lt.mp h.2)
  · have hplace : placeOf? a.size index = some (index + a.size).toNat := by
      simp only [placeOf?, if_pos (Int.not_le.mp hnonneg)]
      rw [if_pos ⟨by omega, by omega⟩]
    have hlt : (index + a.size).toNat < a.changes.length := by
      show _ < a.size
      omega
    have hback : a.changes.length - 1 - (index + a.size).toNat = (-1 - index).toNat := by
      show a.size - 1 - _ = _
      omega
    have hlatest : (-1 - index).toNat < a.changes.length := by
      show _ < a.size
      omega
    rw [change, hplace, Option.bind_some, List.getElem?_reverse hlt, hback, changeAt,
      if_neg hnonneg, List.getD_eq_getElem?_getD, List.getElem?_eq_getElem hlatest]
    rfl

/-- An arena with the pending breaks of a tree puts its changes in their places. -/
theorem resolve_eq_withChanges {α : Type} {f : Fragment α} (h : ∀ index ∈ f.pendings, a.Has index) :
    a.resolve f = .ok (f.withChanges a.changeAt) := by
  induction f with
  | text _ | newline _ | name _ | foreign _ => rfl
  | pending index =>
    rw [resolve, change_of_has (h index (List.mem_singleton_self index))]
    rfl
  | seq fs ih =>
    rw [Fragment.pendings_seq, List.forall_mem_flatMap] at h
    rw [resolve, resolveAll_eq_map fun f hf => ih f hf (h f hf), Fragment.withChanges_seq]
    rfl
  | table rows ih =>
    rw [Fragment.pendings_table, List.forall_mem_flatMap] at h
    rw [resolve, resolveRows_eq_map fun row hrow f hf =>
      ih row hrow f hf (List.forall_mem_flatMap.mp (h row hrow) f hf), Fragment.withChanges_table]
    rfl
  | marked mark f ih =>
    rw [resolve, ih h]
    rfl

/-- An arena with all pending breaks of a tree resolves it to the tree of the same shape with its
changes in their places, and to nothing else; any other arena refuses it for an index at which it
has no break.  A tree without pending breaks stays as it is, and so does what was resolved, in
whatever arena; it is not refused for being unfinished when it is written.  Only the changes at the
indices in the tree have a part in it. -/
theorem resolve_replaces_breaks (a : LineArena) (f : Tree) :
    let g := f.withChanges a.changeAt
    (a.resolve f = .ok g ↔ ∀ index ∈ f.pendings, -a.size ≤ index ∧ index < a.size) ∧
    ((∃ fault, a.resolve f = .error fault ∧ IsMissing fault) ↔
      ∃ index ∈ f.pendings, ¬(-a.size ≤ index ∧ index < a.size)) ∧
    (f.pendings = [] → a.resolve f = .ok f) ∧
    (∀ b : LineArena, b.resolve g = .ok g) ∧
    (∀ names indentation, g.toSheet names indentation ≠ .error .treeUnfinished) ∧
    ∀ b : LineArena, (∀ index ∈ f.pendings, b.change index = a.change index) →
      b.resolve f = a.resolve f := by
  intro g
  have hfits : a.resolve f = .ok g ↔ ∀ index ∈ f.pendings, a.Has index :=
    ⟨fun h => exists_resolve.mp ⟨g, h⟩, resolve_eq_withChanges⟩
  refine ⟨hfits, ⟨?_, fun h => ?_⟩, resolve_of_pendings_eq_nil,
    fun b => resolve_of_pendings_eq_nil (f.pendings_withChanges a.changeAt), ?_,
    fun b => resolve_congr⟩
  · rintro ⟨fault, hfault, -⟩
    by_contra hall
    have hhas : ∀ index ∈ f.pendings, a.Has index := by simpa [Has] using hall
    rw [hfits.mpr hhas] at hfault
    cases hfault
  · cases hresolve : a.resolve f with
    | error fault => exact ⟨fault, rfl, isMissing_of_resolve hresolve⟩
    | ok other =>
      obtain ⟨index, hindex, hmissing⟩ := h
      exact absurd (exists_resolve.mp ⟨other, hresolve⟩ index hindex) hmissing
  · intro names indentation h
    rcases Fragment.fault_of_toSheet h with h | h | h
    · cases h
    · cases h
    · rcases Fragment.leaf_of_halt_mem h with ⟨index, hleaf, -⟩ | ⟨_, -, -, h⟩ | ⟨_, -, h⟩
      · exact f.pending_notMem_leaves_withChanges a.changeAt index hleaf
      · cases h
      · cases h

/-- Breaks in a row of a table and in a marked cell, one of them counted from the back, beside a
foreign child.  An arena with another change at an index that does not occur gives the same tree,
and one without breaks refuses the tree. -/
theorem resolve_replaces_breaks_table :
    let f : Tree := .seq [.pending 0,
      .table [[.pending (-1)], [.text "a", .marked .plain (.seq [.pending 0, .foreign (.int 1)])]]]
    let a : LineArena := ⟨[2, 0, 1]⟩
    let b : LineArena := ⟨[2, 5, 1]⟩
    let c : LineArena := ⟨[]⟩
    let g : Tree := .seq [.newline 1,
      .table [[.newline 2], [.text "a", .marked .plain (.seq [.newline 1, .foreign (.int 1)])]]]
    a.resolve f = .ok g ∧ b.resolve f = .ok g ∧ c.resolve g = .ok g ∧
      ∃ fault, c.resolve f = .error fault ∧ IsMissing fault := by
  intro f a b c g
  have hpendings : f.pendings = [0, -1, 0] := rfl
  have hg : f.withChanges a.changeAt = g := rfl
  obtain ⟨hfits, -, -, hsame, -, hcongr⟩ := resolve_replaces_breaks a f
  obtain ⟨-, hrefused, -⟩ := resolve_replaces_breaks c f
  rw [hg, hpendings] at hfits
  rw [hpendings] at hcongr hrefused
  have hresolve : a.resolve f = .ok g := hfits.mpr (by decide)
  have hagree : ∀ index ∈ [0, -1, 0], b.change index = a.change index := by
    simp only [List.forall_mem_cons]
    exact ⟨rfl, rfl, rfl, List.forall_mem_nil _⟩
  exact ⟨hresolve, (hcongr b hagree).trans hresolve, hg ▸ hsame c, hrefused.mpr (by decide)⟩

end LineArena

end SourceLayout
