import SourceLayout.Proofs.Writing.Lines

/-! Cutting strokes apart.  Strokes with a line break among them are cut before the break and after
it, and strokes that change no level are cut to stretches at one level.  Where no stroke halts and
no level is below zero, the writing can fail at a margin only, so that the stretches decide whether
it does. -/

namespace SourceLayout

namespace Stretch

/-- Why the line of a stretch cannot be written, if it cannot: it has a text, and its margin is too
large. -/
def refusal? (indentation : String) (c : Stretch) : Option Fault :=
  if c.text = "" then none else c.marginFault? indentation

theorem refusal?_of_level_zero (indentation text : String) :
    refusal? indentation ⟨0, text⟩ = none := by
  rw [refusal?, marginFault?_of_level_zero, ite_self]

variable {indentation : String}

/-! ### Cutting -/

/-- Strokes are cut as they would be alone, and the stretch that they leave open goes on with the
strokes after them. -/
theorem cuts_append (c : Stretch) (ss ts : List Stroke) :
    cuts c (ss ++ ts) = (cuts c ss).dropLast ++ cuts (ss.foldl add c) ts := by
  induction ss generalizing c with
  | nil => rfl
  | cons s ss ih =>
    rw [List.cons_append, List.foldl_cons]
    cases s with
    | text content => exact ih _
    | lineBreak change =>
      rw [cuts, cuts, ih, List.dropLast_cons_of_ne_nil (cuts_ne_nil _ ss), List.cons_append]
    | halt fault => exact ih _

theorem cuts_append_lineBreak (c : Stretch) (ss : List Stroke) (change : Int) (ts : List Stroke) :
    cuts c (ss ++ .lineBreak change :: ts) =
      cuts c ss ++ cuts ⟨(ss.foldl add c).level + change, ""⟩ ts := by
  induction ss generalizing c with
  | nil => rfl
  | cons s ss ih =>
    rw [List.cons_append, List.foldl_cons]
    cases s with
    | text content => exact ih _
    | lineBreak other => exact congrArg (c :: ·) (ih _)
    | halt fault => exact ih _

theorem level_foldl_add {ss : List Stroke} (h : ∀ s ∈ ss, s.IsFlat) (c : Stretch) :
    (ss.foldl add c).level = c.level := by
  induction ss generalizing c with
  | nil => rfl
  | cons s ss ih =>
    rw [List.forall_mem_cons] at h
    rw [List.foldl_cons, ih h.2]
    cases s with
    | text content => rfl
    | lineBreak change =>
      have hzero : change = 0 := h.1
      simp [add, hzero]
    | halt fault => cases h.1

/-- Strokes that change no level are cut the same way at any level. -/
theorem cuts_of_flat {ss : List Stroke} (h : ∀ s ∈ ss, s.IsFlat) (level : Int) (text : String) :
    cuts ⟨level, text⟩ ss = ((cuts ⟨0, text⟩ ss).map Stretch.text).map (Stretch.mk level) := by
  induction ss generalizing text with
  | nil => rfl
  | cons s ss ih =>
    rw [List.forall_mem_cons] at h
    cases s with
    | text content => exact ih h.2 _
    | lineBreak change =>
      have hzero : change = 0 := h.1
      simp only [cuts, add, hzero, Int.add_zero, ih h.2, List.map_cons]
    | halt fault => cases h.1

/-- The first stretch goes on with the open one, at its level. -/
theorem exists_cuts_eq_cons (c : Stretch) (ss : List Stroke) :
    ∃ d ds, cuts c ss = d :: ds ∧ d.level = c.level ∧ (c.text ≠ "" → d.text ≠ "") := by
  induction ss generalizing c with
  | nil => exact ⟨c, [], rfl, rfl, id⟩
  | cons s ss ih =>
    cases s with
    | text content =>
      obtain ⟨d, ds, hcuts, hlevel, htext⟩ := ih (c.add (.text content))
      refine ⟨d, ds, hcuts, hlevel, fun h => htext ?_⟩
      simp [add, h]
    | lineBreak change => exact ⟨c, _, rfl, rfl, id⟩
    | halt fault => exact ih c

/-! ### Margins -/

theorem marginFault?_congr {c d : Stretch} (h : c.level = d.level) :
    c.marginFault? indentation = d.marginFault? indentation := by
  rw [marginFault?, marginFault?, h]

/-- Where no stroke halts and no level is below zero, the first stroke that cannot be made is in the
first stretch that is refused.  The open stretch has its margin already, if it has a text. -/
theorem firstFault?_eq_findSome? {c : Stretch} {ss : List Stroke}
    (hhalt : ∀ fault, .halt fault ∉ ss) (hlevel : ∀ d ∈ cuts c ss, 0 ≤ d.level)
    (hopen : c.refusal? indentation = none) :
    firstFault? indentation c ss = (cuts c ss).findSome? (refusal? indentation) := by
  induction ss generalizing c with
  | nil => rw [firstFault?, cuts, List.findSome?_cons, hopen, List.findSome?_nil]
  | cons s ss ih =>
    have hrest : ∀ fault, .halt fault ∉ ss := fun fault h => hhalt fault (List.mem_cons_of_mem s h)
    rw [firstFault?]
    cases s with
    | text content =>
      rw [cuts] at hlevel ⊢
      have hmargin : (c.add (.text content)).marginFault? indentation =
          c.marginFault? indentation := marginFault?_congr rfl
      cases hf : c.fault? indentation (.text content) with
      | none =>
        refine ih hrest hlevel ?_
        by_cases htext : c.text = ""
        · by_cases hcontent : content = ""
          · simp [refusal?, add, htext, hcontent]
          · rw [fault?, if_neg (by simp [htext, hcontent])] at hf
            rw [refusal?, hmargin, hf, ite_self]
        · rw [refusal?, if_neg htext] at hopen
          rw [refusal?, hmargin, hopen, ite_self]
      | some fault =>
        -- The text is the first of its stretch, which is refused for the same reason.
        obtain ⟨d, ds, hcuts, hd, htext⟩ := exists_cuts_eq_cons (c.add (.text content)) ss
        rw [fault?] at hf
        split at hf
        · cases hf
        next hfirst =>
          rw [not_or] at hfirst
          have hne : d.text ≠ "" := htext (by simp [add, hfirst.1])
          have hrefused : d.refusal? indentation = some fault := by
            rw [refusal?, if_neg hne, marginFault?_congr hd, hmargin, hf]
          rw [hcuts, List.findSome?_cons, hrefused]
          rfl
    | lineBreak change =>
      rw [cuts, List.forall_mem_cons] at hlevel
      obtain ⟨d, ds, hcuts, hd, -⟩ := exists_cuts_eq_cons (c.add (.lineBreak change)) ss
      have hnext : 0 ≤ c.level + change := by
        have h := hlevel.2 d (by rw [hcuts]; exact List.mem_cons_self)
        rw [hd] at h
        exact h
      rw [fault?, if_neg (by omega), Option.none_or, cuts, List.findSome?_cons, hopen]
      exact ih hrest hlevel.2 rfl
    | halt fault => exact absurd List.mem_cons_self (hhalt fault)

/-- Strokes that can all be made hold no halt, and lead to no level below zero. -/
theorem halt_notMem_and_levels_of_firstFault? {c : Stretch} {ss : List Stroke}
    (h : firstFault? indentation c ss = none) (hlevel : 0 ≤ c.level) :
    (∀ fault, .halt fault ∉ ss) ∧ ∀ d ∈ cuts c ss, 0 ≤ d.level := by
  induction ss generalizing c with
  | nil => exact ⟨fun _ => List.not_mem_nil, by simpa [cuts] using hlevel⟩
  | cons s ss ih =>
    rw [firstFault?, Option.or_eq_none_iff] at h
    cases s with
    | text content =>
      obtain ⟨hhalt, hlevels⟩ := ih h.2 hlevel
      exact ⟨fun fault => by simpa using hhalt fault, hlevels⟩
    | lineBreak change =>
      have hnext : 0 ≤ c.level + change := by
        by_contra hbelow
        simp [fault?, Int.not_le.mp hbelow] at h
      obtain ⟨hhalt, hlevels⟩ := ih h.2 hnext
      refine ⟨fun fault => by simpa using hhalt fault, ?_⟩
      rw [cuts, List.forall_mem_cons]
      exact ⟨hlevel, hlevels⟩
    | halt fault => cases h.1

theorem linesOf_append_empty (cs : List Stretch) (level : Int) :
    linesOf indentation (cs ++ [⟨level, ""⟩]) = cs.map (line indentation) := by
  induction cs with
  | nil => rfl
  | cons c cs ih =>
    rw [List.cons_append, linesOf_cons (by simp), ih, List.map_cons]

end Stretch

namespace Fragment

open Stretch

/-- A tree that ends with a line break, and can be written apart from its margins, is written to the
lines of its stretches, or fails at the first of them that is refused. -/
theorem lines_toSheet_of_cuts {tree : Fragment Value} {names : Assignment} {cs : List Stretch}
    {level : Int} (indentation : String)
    (hcuts : cuts {} (tree.strokes names) = cs ++ [⟨level, ""⟩])
    (hhalt : ∀ fault, .halt fault ∉ tree.strokes names) (hlevels : ∀ c ∈ cs, 0 ≤ c.level)
    (hlevel : 0 ≤ level) :
    (tree.toSheet names indentation).map Sheet.lines =
      match cs.findSome? (refusal? indentation) with
      | some fault => .error fault
      | none => .ok (cs.map (line indentation)) := by
  have hall : ∀ d ∈ cuts {} (tree.strokes names), 0 ≤ d.level := by
    intro d hd
    rw [hcuts, List.mem_append, List.mem_singleton] at hd
    rcases hd with hd | rfl
    · exact hlevels d hd
    · exact hlevel
  have hlast : [(⟨level, ""⟩ : Stretch)].findSome? (refusal? indentation) = none := rfl
  have hfirst : firstFault? indentation {} (tree.strokes names) =
      cs.findSome? (refusal? indentation) := by
    rw [firstFault?_eq_findSome? hhalt hall rfl, hcuts, List.findSome?_append, hlast,
      Option.or_none]
  have hlines := lines_toSheet tree names indentation
  rw [hcuts, linesOf_append_empty] at hlines
  cases hfound : cs.findSome? (refusal? indentation) with
  | none => simpa only [hfirst, hfound] using hlines
  | some fault => simpa only [hfirst, hfound] using hlines

end Fragment

end SourceLayout
