/-! A text that is not taken. It is the proposal itself where that is free, and otherwise the
proposal followed by the least number from two on that frees it. -/

namespace SourceLayout

/-- The proposal followed by the number `k`. -/
def suffixed (proposed : String) (k : Nat) : String := proposed ++ toString k

/-- The least number from `k` on, of the first `count` of them, whose suffix frees the proposal. -/
def freeSuffix (proposed : String) (taken : List String) : (count k : Nat) → Nat
  | 0, k => k
  | count + 1, k =>
    if suffixed proposed k ∈ taken then freeSuffix proposed taken count (k + 1) else k

/-- The first of `p`, `p2`, `p3`, … that is not taken.  The search ends, because as many numbers as
there are taken texts cannot all be taken when the proposal is taken too. -/
def uniqueText (proposed : String) (taken : List String) : String :=
  if proposed ∈ taken then suffixed proposed (freeSuffix proposed taken taken.length 2)
  else proposed

/-! ### A free proposal is kept -/

theorem uniqueText_of_not_mem {proposed : String} {taken : List String} (h : proposed ∉ taken) :
    uniqueText proposed taken = proposed := if_neg h

theorem le_freeSuffix (proposed : String) (taken : List String) (count k : Nat) :
    k ≤ freeSuffix proposed taken count k := by
  induction count generalizing k with
  | zero => exact Nat.le_refl k
  | succ count ih =>
    unfold freeSuffix
    split
    · exact Nat.le_of_succ_le (ih (k + 1))
    · exact Nat.le_refl k

end SourceLayout
