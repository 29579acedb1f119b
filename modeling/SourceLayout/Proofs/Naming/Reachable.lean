import SourceLayout.Naming.Assigning

/-! The registries that can come about: a new namespace, a name added, other forbidden namespaces,
and a namespace sealed, in any order and any number.  In all of them a name is a member of one
namespace at most, and once. -/

namespace SourceLayout

namespace Registry

/-- The registries that operations lead to from the empty one. -/
inductive Reachable : Registry → Prop
  | empty : Reachable empty
  | create {r : Registry} (label : String) (forbidden : List NamespaceId) (h : Reachable r) :
      Reachable (r.create label forbidden)
  | add {r s : Registry} {id : NamespaceId} {n : Name} (h : Reachable r)
      (hadd : r.add id n = .ok s) : Reachable s
  | forbid {r : Registry} (id : NamespaceId) (forbidden : List NamespaceId) (h : Reachable r) :
      Reachable (r.forbid id forbidden)
  | close {r : Registry} (id : NamespaceId) (h : Reachable r) : Reachable (r.close id)

/-- A name is a member of one namespace at most, and once. -/
structure Sound (r : Registry) : Prop where
  nodup : ∀ id, (r.lookup id).members.Nodup
  apart : ∀ {i j n}, n ∈ (r.lookup i).members → n ∈ (r.lookup j).members → i = j

/-! ### Looking up -/

theorem lookup_create (r : Registry) (label : String) (forbidden : List NamespaceId)
    (id : NamespaceId) :
    (r.create label forbidden).lookup id =
      if id = r.namespaces.length then { label := label, forbidden := forbidden }
      else r.lookup id := by
  simp only [create, lookup, List.getD_eq_getElem?_getD]
  split
  · next h => simp [h]
  · next h =>
    rcases Nat.lt_or_gt_of_ne h with hlt | hgt
    · rw [List.getElem?_append_left hlt]
    · rw [List.getElem?_append_right (Nat.le_of_lt hgt), List.getElem?_eq_none (by simp; omega),
        List.getElem?_eq_none (Nat.le_of_lt hgt)]

/-- A change is seen at its namespace and nowhere else, where a number that no namespace has stands
for none. -/
theorem lookup_update (r : Registry) (id other : NamespaceId) (change : Namespace → Namespace) :
    (r.update id change).lookup other =
      if id = other ∧ other < r.namespaces.length then change (r.lookup other)
      else r.lookup other := by
  simp only [update, lookup, List.getD_eq_getElem?_getD, List.getElem?_modify]
  by_cases hlt : other < r.namespaces.length
  · by_cases hid : id = other <;> simp [hid, hlt]
  · simp [hlt]

@[simp] theorem members_lookup_close (r : Registry) (id other : NamespaceId) :
    ((r.close id).lookup other).members = (r.lookup other).members := by
  rw [close, lookup_update]
  split <;> rfl

@[simp] theorem label_lookup_close (r : Registry) (id other : NamespaceId) :
    ((r.close id).lookup other).label = (r.lookup other).label := by
  rw [close, lookup_update]
  split <;> rfl

@[simp] theorem forbidden_lookup_close (r : Registry) (id other : NamespaceId) :
    ((r.close id).lookup other).forbidden = (r.lookup other).forbidden := by
  rw [close, lookup_update]
  split <;> rfl

@[simp] theorem members_lookup_forbid (r : Registry) (id other : NamespaceId)
    (forbidden : List NamespaceId) :
    ((r.forbid id forbidden).lookup other).members = (r.lookup other).members := by
  rw [forbid, lookup_update]
  split <;> rfl

theorem members_lookup_create (r : Registry) (label : String) (forbidden : List NamespaceId)
    (id : NamespaceId) :
    ((r.create label forbidden).lookup id).members = (r.lookup id).members := by
  rw [lookup_create]
  split
  · next h =>
    rw [h, lookup, List.getD_eq_getElem?_getD, List.getElem?_eq_none (Nat.le_refl _)]
    rfl
  · rfl

/-- A name without owner is a member of no namespace. -/
theorem notMem_of_owner?_eq_none {r : Registry} {n : Name} (h : r.owner? n = none)
    (id : NamespaceId) : n ∉ (r.lookup id).members := by
  intro hn
  rw [lookup, List.getD_eq_getElem?_getD] at hn
  cases hs : r.namespaces[id]? with
  | none =>
    rw [hs] at hn
    cases hn
  | some s =>
    rw [hs] at hn
    have hmem : s ∈ r.namespaces := List.mem_of_getElem? hs
    have hnone := List.find?_eq_none.mp h s hmem
    rw [List.contains_iff_mem] at hnone
    exact hnone hn

/-- A name is added to the members of its namespace, where it was in none before. -/
theorem members_of_add {r s : Registry} {id : NamespaceId} {n : Name} (h : r.add id n = .ok s) :
    (∀ other, n ∉ (r.lookup other).members) ∧
    ∀ other, (s.lookup other).members = (r.lookup other).members ∨
      other = id ∧ (s.lookup other).members = (r.lookup other).members ++ [n] := by
  unfold add at h
  split at h
  · cases h
  cases howner : r.owner? n with
  | some owner =>
    rw [howner] at h
    cases h
  | none =>
    rw [howner] at h
    cases h
    refine ⟨notMem_of_owner?_eq_none howner, fun other => ?_⟩
    rw [lookup_update]
    split
    · next hid => exact .inr ⟨hid.1.symm, rfl⟩
    · exact .inl rfl

/-! ### Soundness -/

namespace Sound

variable {r s : Registry}

theorem of_members (h : r.Sound) (hmembers : ∀ id, (s.lookup id).members = (r.lookup id).members) :
    s.Sound where
  nodup id := by
    rw [hmembers]
    exact h.nodup id
  apart hi hj := by
    rw [hmembers] at hi hj
    exact h.apart hi hj

theorem add {id : NamespaceId} {n : Name} (h : r.Sound) (hadd : r.add id n = .ok s) : s.Sound := by
  obtain ⟨hnew, hmembers⟩ := members_of_add hadd
  have hmem {other : NamespaceId} {m : Name} (hm : m ∈ (s.lookup other).members) :
      m ∈ (r.lookup other).members ∨ m = n ∧ other = id := by
    rcases hmembers other with heq | ⟨hid, heq⟩
    · exact .inl (heq ▸ hm)
    · rw [heq, List.mem_append, List.mem_singleton] at hm
      exact hm.imp_right fun hm => ⟨hm, hid⟩
  refine ⟨fun other => ?_, fun {i j m} hi hj => ?_⟩
  · rcases hmembers other with heq | ⟨-, heq⟩
    · rw [heq]
      exact h.nodup other
    · rw [heq, List.nodup_append]
      refine ⟨h.nodup other, List.pairwise_singleton _ n, fun a ha b hb => ?_⟩
      rw [List.mem_singleton.mp hb]
      rintro rfl
      exact hnew other ha
  · rcases hmem hi with hi | ⟨rfl, hi⟩
    · rcases hmem hj with hj | ⟨rfl, -⟩
      · exact h.apart hi hj
      · exact absurd hi (hnew i)
    · rcases hmem hj with hj | ⟨-, hj⟩
      · exact absurd hj (hnew j)
      · rw [hi, hj]

end Sound

/-- In a registry that can come about, a name is a member of one namespace at most, and once. -/
theorem Reachable.sound {r : Registry} (h : r.Reachable) : r.Sound := by
  induction h with
  | empty => exact ⟨fun _ => List.nodup_nil, fun h => nomatch h⟩
  | create label forbidden _ ih => exact ih.of_members (members_lookup_create _ label forbidden)
  | add _ hadd ih => exact ih.add hadd
  | forbid id forbidden _ ih =>
    exact ih.of_members fun other => members_lookup_forbid _ id other forbidden
  | close id _ ih => exact ih.of_members (members_lookup_close _ id)

/-- Names that are added one after the other lead from one registry that can come about to another.
-/
theorem Reachable.addAll {r s : Registry} {names : List (NamespaceId × Name)} (h : r.Reachable)
    (hs : names.foldlM (fun r n => r.add n.1 n.2) r = .ok s) : s.Reachable := by
  induction names generalizing r with
  | nil =>
    cases hs
    exact h
  | cons n ns ih =>
    rw [List.foldlM_cons] at hs
    cases hadd : r.add n.1 n.2 with
    | error fault =>
      rw [hadd] at hs
      cases hs
    | ok next =>
      rw [hadd] at hs
      exact ih (h.add hadd) hs

/-- Assigning names leads from one registry that can come about to another, also when it fails. -/
theorem Reachable.assignFrom {r : Registry} (h : r.Reachable) (done : Assigned)
    (ids : List NamespaceId) : (r.assignFrom done ids).1.Reachable := by
  induction ids generalizing r done with
  | nil => exact h
  | cons id ids ih =>
    rw [Registry.assignFrom]
    cases r.assignOne done id with
    | ok entries => exact ih (h.close id) _
    | error fault => exact h

end Registry

end SourceLayout
