import SourceLayout.Proofs.Value.Leaves
import SourceLayout.Proofs.Writing.Imprints

/-! How a value is bracketed leaves no trace in the output.  Its collections come out as different
trees, since one of a single item is no sequence; but the tree of a value has the imprint of the
trees of its leaves in a row, so what it is written to depends on the leaves only. -/

namespace SourceLayout

namespace Value

/-! ### Collections of one item -/

theorem toFragments_append {vs ws : List Value} {fs gs : List Tree}
    (hvs : toFragments vs = .ok fs) (hws : toFragments ws = .ok gs) :
    toFragments (vs ++ ws) = .ok (fs ++ gs) := by
  induction vs generalizing fs with
  | nil =>
    cases hvs
    exact hws
  | cons v vs ih =>
    rw [toFragments, bind_eq_ok] at hvs
    obtain ⟨f, hf, hvs⟩ := hvs
    obtain ⟨others, hothers, hdone⟩ := bind_eq_ok.mp hvs
    cases hdone
    rw [List.cons_append, toFragments, hf, ih hothers]
    rfl

theorem toFragments_singleton {v : Value} {f : Tree} (h : v.toFragment = .ok f) :
    toFragments [v] = .ok [f] := by
  rw [toFragments, h]
  rfl

/-- The trees of values that are converted in order. -/
theorem toFragments_cons_eq_ok {v : Value} {vs : List Value} {fs : List Tree} :
    toFragments (v :: vs) = .ok fs ↔
      ∃ f others, v.toFragment = .ok f ∧ toFragments vs = .ok others ∧ f :: others = fs := by
  rw [toFragments, bind_eq_ok]
  refine exists_congr fun f => ?_
  rw [bind_eq_ok, ← exists_and_left]
  simp [pure, Except.pure]

mutual

/-- The tree of a value has the imprint of the trees of its leaves, one after the other. -/
theorem exists_leaves : (v : Value) → {f : Tree} → v.toFragment = .ok f →
    ∃ fs, toFragments v.leaves = .ok fs ∧
      ∀ names, f.imprint names = (fs.map (Fragment.imprint names)).sum
  | .list vs, f, h | .tuple vs, f, h | .vector vs, f, h => by
    rw [toFragment, map_eq_ok] at h
    obtain ⟨gs, hgs, rfl⟩ := h
    obtain ⟨fs, hfs, hsum⟩ := exists_leavesOf vs hgs
    exact ⟨fs, hfs, fun names => (Fragment.imprint_ofList names gs).trans (hsum names)⟩
  | .str s, f, h | .name n, f, h | .fragment g, f, h =>
    ⟨[f], toFragments_singleton h, fun names => List.sum_singleton.symm⟩

theorem exists_leavesOf : (vs : List Value) → {gs : List Tree} → toFragments vs = .ok gs →
    ∃ fs, toFragments (leavesOf vs) = .ok fs ∧
      ∀ names, (gs.map (Fragment.imprint names)).sum = (fs.map (Fragment.imprint names)).sum
  | [], gs, h => ⟨gs, h, fun _ => rfl⟩
  | v :: vs, gs, h => by
    obtain ⟨f, others, hf, hothers, rfl⟩ := toFragments_cons_eq_ok.mp h
    obtain ⟨fs, hfs, hfirst⟩ := exists_leaves v hf
    obtain ⟨more, hmore, hrest⟩ := exists_leavesOf vs hothers
    refine ⟨fs ++ more, toFragments_append hfs hmore, fun names => ?_⟩
    rw [List.map_cons, List.sum_cons, hfirst, hrest, List.map_append, List.sum_append]

end

theorem eq_singleton_of_foreign {fs : List Tree} {u : Value}
    (h : Fragment.ofList fs = .foreign u) : fs = [.foreign u] := by
  match fs with
  | [] => cases h
  | [f] => rw [show f = _ from h]
  | f :: g :: fs => cases h

mutual

/-- Only a foreign child that was passed alone comes out as one. -/
theorem leaves_of_foreign {u : Value} : (v : Value) → v.toFragment = .ok (.foreign u) →
    v.leaves = [.fragment (.foreign u)]
  | .list vs, h | .tuple vs, h | .vector vs, h => by
    rw [toFragment, map_eq_ok] at h
    obtain ⟨fs, hfs, hone⟩ := h
    rw [eq_singleton_of_foreign hone] at hfs
    exact leavesOf_of_foreign vs hfs
  | .str s, h | .name n, h => by cases h
  | .fragment f, h => by
    cases h
    rfl

theorem leavesOf_of_foreign {u : Value} : (vs : List Value) →
    toFragments vs = .ok [.foreign u] → leavesOf vs = [.fragment (.foreign u)]
  | [], h => by cases h
  | v :: vs, h => by
    obtain ⟨f, others, hf, hothers, hdone⟩ := toFragments_cons_eq_ok.mp h
    obtain ⟨rfl, rfl⟩ := List.cons.inj hdone
    cases vs with
    | nil => rw [leavesOf, leaves_of_foreign v hf, leavesOf, List.append_nil]
    | cons w ws =>
      obtain ⟨_, _, -, -, hnone⟩ := toFragments_cons_eq_ok.mp hothers
      cases hnone

end

end Value

end SourceLayout
