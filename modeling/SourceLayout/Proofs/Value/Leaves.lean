import SourceLayout.Value.Conversion

/-! The leaves of a loose value: what is left of it when its lists, tuples and vectors are opened.
Conversion goes through the leaves in order.  It is stopped by the first leaf that stands for no
output, however deep it lies, and by nothing else. -/

namespace SourceLayout.Value

mutual

/-- The leaves of a value, from left to right. -/
def leaves : Value → List Value
  | .list vs | .tuple vs | .vector vs => leavesOf vs
  | v => [v]

/-- The leaves of values, in order. -/
def leavesOf : List Value → List Value
  | [] => []
  | v :: vs => leaves v ++ leavesOf vs

end

/-- The value stands for output by itself: it is a text, a name or a fragment. -/
def isOutput : Value → Bool
  | .str _ | .name _ | .fragment _ => true
  | _ => false

/-- The first leaf that stands for no output, if there is one. -/
def refused? (v : Value) : Option Value := v.leaves.find? (!·.isOutput)

/-- The first leaf of values that stands for no output, if there is one. -/
def refusedOf? (vs : List Value) : Option Value := (leavesOf vs).find? (!·.isOutput)

/-- The first refused leaf is that of the first value, or else one of the values after it. -/
theorem refusedOf?_cons (v : Value) (vs : List Value) :
    refusedOf? (v :: vs) = v.refused?.or (refusedOf? vs) := by
  rw [refusedOf?, leavesOf, List.find?_append]
  rfl

/-- A computation ends as the leaves say: with the leaf that is refused, or with a result. -/
def EndsAt {α : Type} (refused? : Option Value) (e : Except Fault α) : Prop :=
  match refused? with
  | some w => e = .error (.notConvertible w)
  | Option.none => ∃ a, e = .ok a

theorem EndsAt.map {α β : Type} {refused? : Option Value} {e : Except Fault α}
    (h : EndsAt refused? e) (f : α → β) : EndsAt refused? (e.map f) := by
  cases refused? with
  | some w =>
    rw [show e = _ from h]
    rfl
  | none =>
    obtain ⟨a, rfl⟩ := h
    exact ⟨f a, rfl⟩

theorem EndsAt.cons {v : Value} {vs : List Value} (hv : EndsAt v.refused? v.toFragment)
    (hvs : EndsAt (refusedOf? vs) (toFragments vs)) :
    EndsAt (refusedOf? (v :: vs)) (toFragments (v :: vs)) := by
  rw [refusedOf?_cons, toFragments]
  cases hw : v.refused? with
  | some w =>
    rw [hw] at hv
    rw [show v.toFragment = _ from hv]
    rfl
  | none =>
    rw [hw] at hv
    obtain ⟨f, hf⟩ := hv
    rw [hf, Option.none_or]
    exact hvs.map (f :: ·)

mutual

/-- Conversion ends at the first leaf that is refused. -/
theorem endsAt_toFragment : (v : Value) → EndsAt v.refused? v.toFragment
  | .list vs | .tuple vs | .vector vs => by
    rw [toFragment]
    exact (endsAt_toFragments vs).map Fragment.ofList
  | .str s => ⟨_, toFragment_str s⟩
  | .name n => ⟨_, toFragment_name n⟩
  | .fragment f => ⟨_, toFragment_fragment f⟩
  | .int _ | .bool _ | .none | .set _ | .dict _ | .assignment _ => rfl

theorem endsAt_toFragments : (vs : List Value) → EndsAt (refusedOf? vs) (toFragments vs)
  | [] => ⟨[], rfl⟩
  | v :: vs => (endsAt_toFragment v).cons (endsAt_toFragments vs)

end

theorem toFragment_of_refused {v w : Value} (h : v.refused? = some w) :
    v.toFragment = .error (.notConvertible w) := by
  have hends := endsAt_toFragment v
  rwa [h] at hends

theorem exists_toFragment {v : Value} (h : v.refused? = Option.none) :
    ∃ f, v.toFragment = .ok f := by
  have hends := endsAt_toFragment v
  rwa [h] at hends

/-- A value that is refused holds something that is not convertible. -/
theorem exists_notConvertible {v : Value} {fault : Fault} (h : v.toFragment = .error fault) :
    ∃ w, fault = .notConvertible w := by
  cases hw : v.refused? with
  | some w =>
    rw [toFragment_of_refused hw] at h
    exact ⟨w, (Except.error.inj h).symm⟩
  | none =>
    obtain ⟨f, hf⟩ := exists_toFragment hw
    rw [hf] at h
    cases h

/-- The cells of a row are converted like the values of a sequence. -/
theorem toCells_of_elements {row : Value} {vs : List Value} (h : row.elements? = some vs) :
    row.toCells = toFragments vs := by
  rw [toCells, elements, h]
  rfl

end SourceLayout.Value
