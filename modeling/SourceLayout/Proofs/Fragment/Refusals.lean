import SourceLayout.Proofs.Fragment.Resolving

/-! What stops resolving: a tree cannot be resolved for a break that the arena does not have, and
for nothing else. -/

namespace SourceLayout

namespace LineArena

variable {α : Type} {a : LineArena} {fault : Fault}

/-- The fault is that of an index at which an arena has no break. -/
def IsMissing (fault : Fault) : Prop := fault = .noSuchBreak ∨ fault = .indexTooLarge

theorem isMissing_of_change {index : Int} (h : a.change index = .error fault) :
    IsMissing fault := by
  unfold change at h
  split at h
  · cases h
  · split at h
    · exact .inl (by cases h; rfl)
    · exact .inr (by cases h; rfl)

theorem isMissing_of_resolveAll {fs : List (Fragment α)}
    (h : ∀ f ∈ fs, ∀ {fault}, a.resolve f = .error fault → IsMissing fault)
    (hfs : a.resolveAll fs = .error fault) : IsMissing fault := by
  induction fs with
  | nil => cases hfs
  | cons f fs ih =>
    rw [List.forall_mem_cons] at h
    rw [resolveAll, bind_eq_error] at hfs
    rcases hfs with hf | ⟨g, -, hfs⟩
    · exact h.1 hf
    · rw [bind_eq_error] at hfs
      rcases hfs with hfs | ⟨gs, -, hdone⟩
      · exact ih h.2 hfs
      · cases hdone

theorem isMissing_of_resolveRows {rows : List (List (Fragment α))}
    (h : ∀ row ∈ rows, ∀ f ∈ row, ∀ {fault}, a.resolve f = .error fault → IsMissing fault)
    (hrows : a.resolveRows rows = .error fault) : IsMissing fault := by
  induction rows with
  | nil => cases hrows
  | cons row rows ih =>
    rw [List.forall_mem_cons] at h
    rw [resolveRows, bind_eq_error] at hrows
    rcases hrows with hrow | ⟨cells, -, hrows⟩
    · exact isMissing_of_resolveAll h.1 hrow
    · rw [bind_eq_error] at hrows
      rcases hrows with hrows | ⟨others, -, hdone⟩
      · exact ih h.2 hrows
      · cases hdone

/-- A tree that cannot be resolved refers to a break that the arena does not have. -/
theorem isMissing_of_resolve {f : Fragment α} (h : a.resolve f = .error fault) :
    IsMissing fault := by
  induction f generalizing fault with
  | text _ | newline _ | name _ | foreign _ => cases h
  | pending index =>
    rw [resolve, map_eq_error] at h
    exact isMissing_of_change h
  | seq fs ih =>
    rw [resolve, map_eq_error] at h
    exact isMissing_of_resolveAll (fun f hf _ => ih f hf) h
  | table rows ih =>
    rw [resolve, map_eq_error] at h
    exact isMissing_of_resolveRows (fun row hrow f hf _ => ih row hrow f hf) h
  | marked mark f ih =>
    rw [resolve, map_eq_error] at h
    exact ih h

end LineArena

end SourceLayout
