/-! Places in a sequence by signed index: from the front for an index from zero on, and from the
back for a negative one. -/

namespace SourceLayout

/-- The place of an index in a sequence of `size` items, if it has one. -/
def placeOf? (size : Nat) (index : Int) : Option Nat :=
  let place := if index < 0 then index + size else index
  if 0 ≤ place ∧ place < size then some place.toNat else none

/-- The number is small enough to be an index: it is a signed number of 64 bits. -/
def isIndex (index : Int) : Bool :=
  -0x8000000000000000 ≤ index && index < 0x8000000000000000

theorem placeOf?_of_lt {size i : Nat} (h : i < size) : placeOf? size i = some i := by
  unfold placeOf?
  simp only [show ¬(i : Int) < 0 by omega, if_false]
  rw [if_pos ⟨by omega, by omega⟩]
  rfl

theorem lt_of_placeOf? {size i : Nat} {index : Int} (h : placeOf? size index = some i) :
    i < size := by
  simp only [placeOf?] at h
  by_cases hn : index < 0
  · simp only [if_pos hn, Option.ite_none_right_eq_some, Option.some.injEq] at h
    omega
  · simp only [if_neg hn, Option.ite_none_right_eq_some, Option.some.injEq] at h
    omega

/-- An index has a place exactly when it lies from minus the size up to the size. -/
theorem placeOf?_isSome {size : Nat} {index : Int} :
    (placeOf? size index).isSome ↔ -size ≤ index ∧ index < size := by
  simp only [placeOf?, Option.isSome_ite]
  split <;> omega

end SourceLayout
