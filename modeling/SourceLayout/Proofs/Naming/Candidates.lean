import Mathlib.Data.Finset.Card
import Mathlib.Order.Bounds.Defs
import SourceLayout.Naming.Suffix

/-! The free text of a name.  A proposal has infinitely many candidates, itself and its numbered
texts from two on, and no two of them are equal.  Taken texts cannot take them all, so that the
search ends at the first one that is free, after as many tries as there are taken texts at most. -/

namespace SourceLayout

/-- The candidates of a proposal: `p`, `p2`, `p3`, …. -/
def candidate (proposed : String) : Nat → String
  | 0 => proposed
  | k + 1 => suffixed proposed (k + 2)

theorem eq_of_toString_eq {j k : Nat} (h : toString j = toString k) : j = k := by
  have hdigits : Nat.ofDigitChars 10 (toString j).toList 0 =
      Nat.ofDigitChars 10 (toString k).toList 0 := by rw [h]
  simpa [Nat.toString_eq_ofList_toDigits] using hdigits

theorem suffixed_injective {proposed : String} {j k : Nat}
    (h : suffixed proposed j = suffixed proposed k) : j = k :=
  eq_of_toString_eq ((String.append_right_inj proposed).mp h)

theorem suffixed_ne (proposed : String) (k : Nat) : suffixed proposed k ≠ proposed := by
  intro h
  have hdigits : (toString k).toList = [] := by
    have hlist := congrArg String.toList h
    rw [suffixed, String.toList_append] at hlist
    exact List.append_right_eq_self.mp hlist
  have hne : (toString k).toList ≠ [] := by simp
  exact hne hdigits

theorem candidate_injective (proposed : String) : Function.Injective (candidate proposed) := by
  intro j k h
  cases j with
  | zero =>
    cases k with
    | zero => rfl
    | succ k => exact absurd h.symm (suffixed_ne proposed (k + 2))
  | succ j =>
    cases k with
    | zero => exact absurd h (suffixed_ne proposed (j + 2))
    | succ k =>
      have hnumbers : j + 2 = k + 2 := suffixed_injective h
      omega

/-- The first candidates are taken when the proposal is taken and so are the numbers from two on. -/
theorem candidate_mem_iff {proposed : String} {taken : List String} {k : Nat} :
    (∀ j < k + 1, candidate proposed j ∈ taken) ↔
      proposed ∈ taken ∧ ∀ j, 2 ≤ j → j < k + 2 → suffixed proposed j ∈ taken := by
  constructor
  · intro h
    refine ⟨h 0 (Nat.succ_pos k), fun j hj hlt => ?_⟩
    obtain ⟨l, rfl⟩ : ∃ l, j = l + 2 := ⟨j - 2, by omega⟩
    exact h (l + 1) (by omega)
  · rintro ⟨hproposed, hbelow⟩ j hj
    cases j with
    | zero => exact hproposed
    | succ j => exact hbelow (j + 2) (by omega) (by omega)

/-- Taken texts take no more candidates in a row than there are different taken texts. -/
theorem le_card_of_candidates {proposed : String} {taken : List String} {n : Nat}
    (h : ∀ j < n, candidate proposed j ∈ taken) : n ≤ taken.toFinset.card := by
  have hsubset : (Finset.range n).image (candidate proposed) ⊆ taken.toFinset := by
    intro s hs
    obtain ⟨j, hj, rfl⟩ := Finset.mem_image.mp hs
    exact List.mem_toFinset.mpr (h j (Finset.mem_range.mp hj))
  have hcard := Finset.card_le_card hsubset
  rwa [Finset.card_image_of_injective _ (candidate_injective proposed), Finset.card_range] at hcard

/-- The search passes taken numbers only, and ends at a free number or after all of them. -/
theorem freeSuffix_spec (proposed : String) (taken : List String) (count k : Nat) :
    (∀ j, k ≤ j → j < freeSuffix proposed taken count k → suffixed proposed j ∈ taken) ∧
    (suffixed proposed (freeSuffix proposed taken count k) ∈ taken →
      freeSuffix proposed taken count k = k + count) := by
  induction count generalizing k with
  | zero => exact ⟨fun j hj hlt => absurd hlt (by rw [freeSuffix]; omega), fun _ => rfl⟩
  | succ count ih =>
    rw [freeSuffix]
    split
    · next htaken =>
      obtain ⟨hbelow, hend⟩ := ih (k + 1)
      refine ⟨fun j hj hlt => ?_, fun h => by rw [hend h]; omega⟩
      rcases Nat.eq_or_lt_of_le hj with rfl | hj
      · exact htaken
      · exact hbelow j hj hlt
    · next hfree =>
      exact ⟨fun j hj hlt => absurd hlt (by omega), fun h => absurd h hfree⟩

/-- A search that tries enough numbers ends at the first free one, however many more it may try. -/
theorem freeSuffix_eq {proposed : String} {taken : List String} {count k m : Nat} (hk : k ≤ m)
    (hcount : m ≤ k + count) (hfree : suffixed proposed m ∉ taken)
    (hbelow : ∀ j, k ≤ j → j < m → suffixed proposed j ∈ taken) :
    freeSuffix proposed taken count k = m := by
  obtain ⟨hpassed, hend⟩ := freeSuffix_spec proposed taken count k
  rcases Nat.lt_trichotomy (freeSuffix proposed taken count k) m with hlt | heq | hlt
  · have hlast := hend (hbelow _ (le_freeSuffix proposed taken count k) hlt)
    omega
  · exact heq
  · exact absurd (hpassed m hk hlt) hfree

/-- The text that is chosen is the first candidate that is not taken. -/
theorem uniqueText_first (proposed : String) (taken : List String) :
    ∃ k, uniqueText proposed taken = candidate proposed k ∧ candidate proposed k ∉ taken ∧
      ∀ j < k, candidate proposed j ∈ taken := by
  by_cases hproposed : proposed ∈ taken
  · obtain ⟨hbelow, hend⟩ := freeSuffix_spec proposed taken taken.length 2
    have htwo := le_freeSuffix proposed taken taken.length 2
    set m := freeSuffix proposed taken taken.length 2 with hm
    obtain ⟨k, hk⟩ : ∃ k, m = k + 2 := ⟨m - 2, by omega⟩
    have hearlier : ∀ j < k + 1, candidate proposed j ∈ taken :=
      candidate_mem_iff.mpr ⟨hproposed, fun j hj hlt => hbelow j hj (by omega)⟩
    refine ⟨k + 1, ?_, fun htaken => ?_, hearlier⟩
    · rw [uniqueText, if_pos hproposed, ← hm, hk, candidate]
    · -- All numbers that were tried are taken, one more than there are taken texts.
      rw [hk] at hend
      have hlast : k + 2 = 2 + taken.length := hend htaken
      have hle := (le_card_of_candidates hearlier).trans (List.toFinset_card_le taken)
      omega
  · exact ⟨0, if_neg hproposed, hproposed, fun j hj => absurd hj (Nat.not_lt_zero j)⟩

theorem uniqueText_notMem (proposed : String) (taken : List String) :
    uniqueText proposed taken ∉ taken := by
  obtain ⟨k, hk, hfree, -⟩ := uniqueText_first proposed taken
  rwa [hk]

/-- The search for a text ends.  A proposal that is not taken is kept.  One that is taken gets the
least number from two on, in decimal digits, with which it is free: there is one, at most one more
than there are different taken texts, so that as many tries as these find it and further tries
change nothing.  In either case the text is not taken. -/
theorem uniqueText_least (proposed : String) (taken : List String) :
    (proposed ∉ taken → uniqueText proposed taken = proposed) ∧
    (proposed ∈ taken →
      ∃ k, IsLeast {j | 2 ≤ j ∧ proposed ++ toString j ∉ taken} k ∧
        k ≤ taken.toFinset.card + 1 ∧ uniqueText proposed taken = proposed ++ toString k ∧
        ∀ tries, taken.toFinset.card ≤ tries → freeSuffix proposed taken tries 2 = k) ∧
    uniqueText proposed taken ∉ taken := by
  refine ⟨uniqueText_of_not_mem, fun htaken => ?_, uniqueText_notMem proposed taken⟩
  obtain ⟨i, htext, hfree, hbefore⟩ := uniqueText_first proposed taken
  obtain ⟨k, rfl⟩ : ∃ k, i = k + 1 := by
    refine Nat.exists_eq_succ_of_ne_zero fun hzero => ?_
    rw [hzero] at hfree
    exact hfree htaken
  obtain ⟨-, hbelow⟩ := candidate_mem_iff.mp hbefore
  -- The proposal and the numbers below `k + 2` are `k + 1` candidates that are taken.
  have hbound : k + 1 ≤ taken.toFinset.card := le_card_of_candidates hbefore
  refine ⟨k + 2, ⟨⟨by omega, hfree⟩, fun j hj => ?_⟩, by omega, htext, fun tries htries => ?_⟩
  · by_contra hlt
    exact hj.2 (hbelow j hj.1 (by omega))
  · exact freeSuffix_eq (by omega) (by omega) hfree hbelow

example : uniqueText "Point" ["Point2", "Line", "Point", "Point2"] = "Point3" := by decide +kernel

end SourceLayout
