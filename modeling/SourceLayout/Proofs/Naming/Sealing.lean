import SourceLayout.Proofs.Naming.Progress

/-! Seals.  A registry with more of its namespaces sealed differs in nothing else; assigning names
only seals, and does not look at seals. -/

namespace SourceLayout

namespace Registry

@[simp] theorem length_update (r : Registry) (id : NamespaceId) (change : Namespace → Namespace) :
    (r.update id change).namespaces.length = r.namespaces.length := by
  simp [update]

@[simp] theorem length_sealing (r : Registry) (ids : List NamespaceId) :
    (r.sealing ids).namespaces.length = r.namespaces.length := by
  simp [sealing]

theorem sealing_nil (r : Registry) : r.sealing [] = r := (foldl_close r []).symm

theorem sealing_sealing (r : Registry) (ids others : List NamespaceId) :
    (r.sealing ids).sealing others = r.sealing (ids ++ others) := by
  rw [← foldl_close, ← foldl_close, ← foldl_close, List.foldl_append]

theorem close_sealing (r : Registry) (ids : List NamespaceId) (id : NamespaceId) :
    (r.sealing ids).close id = (r.close id).sealing ids :=
  calc
    (r.sealing ids).close id = r.sealing (ids ++ [id]) := by
      rw [← foldl_close, ← foldl_close, List.foldl_append]
      rfl
    _ = r.sealing (id :: ids) := by simp [sealing, Bool.or_comm]
    _ = (r.close id).sealing ids := (sealing_close r id ids).symm

/-! ### Single namespaces -/

theorem lookup_sealing (r : Registry) (ids : List NamespaceId) {id : NamespaceId}
    (hid : id < r.namespaces.length) :
    (r.sealing ids).lookup id =
      { r.lookup id with sealed := (r.lookup id).sealed || ids.contains id } := by
  simp [lookup, sealing, List.getD_eq_getElem?_getD, hid]

theorem lookup_of_length_le {r : Registry} {id : NamespaceId} (h : r.namespaces.length ≤ id) :
    r.lookup id = default := by
  rw [lookup, List.getD_eq_getElem?_getD, List.getElem?_eq_none h]
  rfl

theorem lt_length_of_sealed {r : Registry} {id : NamespaceId}
    (h : (r.lookup id).sealed = true) : id < r.namespaces.length := by
  by_contra hid
  rw [lookup_of_length_le (Nat.le_of_not_lt hid)] at h
  cases h

theorem exists_lookup_sealing (r : Registry) (ids : List NamespaceId) (id : NamespaceId) :
    ∃ closed, (r.sealing ids).lookup id = { r.lookup id with sealed := closed } := by
  by_cases hid : id < r.namespaces.length
  · exact ⟨_, lookup_sealing r ids hid⟩
  · have hlength := Nat.le_of_not_lt hid
    rw [lookup_of_length_le hlength, lookup_of_length_le (by rwa [length_sealing])]
    exact ⟨false, rfl⟩

theorem members_lookup_sealing (r : Registry) (ids : List NamespaceId) (id : NamespaceId) :
    ((r.sealing ids).lookup id).members = (r.lookup id).members := by
  obtain ⟨closed, hlookup⟩ := r.exists_lookup_sealing ids id
  rw [hlookup]

/-! ### Assigning -/

theorem exists_assign_eq_sealing (r : Registry) (order : List NamespaceId) :
    ∃ before, (r.assign order).1 = r.sealing before := by
  obtain ⟨before, _, -, -, ⟨-, hrun⟩ | ⟨_, _, _, -, -, hrun⟩⟩ := r.assign_cases order
  · exact ⟨before, congrArg Prod.fst hrun⟩
  · exact ⟨before, congrArg Prod.fst hrun⟩

theorem forbiddenTexts_sealing (r : Registry) (ids : List NamespaceId) (done : Assigned)
    (label : String) (forbidden : List NamespaceId) :
    (r.sealing ids).forbiddenTexts done label forbidden =
      r.forbiddenTexts done label forbidden := by
  induction forbidden with
  | nil => rfl
  | cons id forbidden ih =>
    obtain ⟨closed, hlookup⟩ := r.exists_lookup_sealing ids id
    rw [forbiddenTexts, forbiddenTexts, ih, hlookup]

theorem assignOne_sealing (r : Registry) (ids : List NamespaceId) (done : Assigned)
    (id : NamespaceId) : (r.sealing ids).assignOne done id = r.assignOne done id := by
  obtain ⟨closed, hlookup⟩ := r.exists_lookup_sealing ids id
  rw [assignOne, assignOne, hlookup, forbiddenTexts_sealing]
  rfl

theorem assignFrom_sealing (r : Registry) (ids : List NamespaceId) (done : Assigned)
    (order : List NamespaceId) :
    (r.sealing ids).assignFrom done order =
      ((r.assignFrom done order).1.sealing ids, (r.assignFrom done order).2) := by
  induction order generalizing r done with
  | nil => rfl
  | cons id order ih =>
    rw [assignFrom, assignFrom, assignOne_sealing]
    cases r.assignOne done id with
    | error fault => rfl
    | ok es =>
      simp only
      rw [close_sealing, ih]

/-- Seals change nothing about what is assigned, and stay. -/
theorem assign_sealing (r : Registry) (ids order : List NamespaceId) :
    (r.sealing ids).assign order = ((r.assign order).1.sealing ids, (r.assign order).2) :=
  r.assignFrom_sealing ids [] (unique order)

end Registry

end SourceLayout
