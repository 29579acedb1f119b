import SourceLayout.Proofs.Writing.Strokes

/-! The lines that strokes make.  Cut at their breaks, the strokes of a tree fall into stretches of
text, each at the level that the breaks before it sum up to.  Writing a tree fails at the first
stroke that cannot be made, with the fault of that stroke; when every stroke can be made, the lines
of the sheet are the lines of the stretches. -/

namespace SourceLayout

/-- A part of the output between two line breaks: the level it stands at, and its text without the
margin. -/
structure Stretch where
  level : Int := 0
  text : String := ""
deriving DecidableEq, Repr, Inhabited

namespace Stretch

/-- The open stretch after a stroke. -/
def add (c : Stretch) : Stroke → Stretch
  | .text content => { c with text := c.text ++ content }
  | .lineBreak change => { level := c.level + change }
  | .halt _ => c

/-- The line of a stretch: the indentation once a level and then the text, or the empty line if
there is no text. -/
def line (indentation : String) (c : Stretch) : String :=
  if c.text = "" then "" else Text.repeated c.level.toNat indentation ++ c.text

/-- Why the margin of a stretch cannot be written, if it cannot. -/
def marginFault? (indentation : String) (c : Stretch) : Option Fault :=
  match Page.margin indentation { level := c.level.toNat } with
  | .ok _ => none
  | .error fault => some fault

/-- Why a stroke cannot be made in the open stretch, if it cannot: the writing halts, the level
would drop below zero, or the first text of the stretch brings a margin that cannot be written. -/
def fault? (indentation : String) (c : Stretch) : Stroke → Option Fault
  | .text content =>
    if content = "" ∨ c.text ≠ "" then none else c.marginFault? indentation
  | .lineBreak change => if c.level + change < 0 then some .levelBelowZero else none
  | .halt fault => some fault

/-- Strokes cut at their line breaks, from the open stretch on. The last part is what follows the
last break. -/
def cuts (c : Stretch) : List Stroke → List Stretch
  | [] => [c]
  | .text content :: ss => cuts (c.add (.text content)) ss
  | .lineBreak change :: ss => c :: cuts (c.add (.lineBreak change)) ss
  | .halt fault :: ss => cuts (c.add (.halt fault)) ss

/-- The lines of stretches.  The last one is a line only if it has a text. -/
def linesOf (indentation : String) : List Stretch → List String
  | [] => []
  | [last] => if last.text = "" then [] else [last.line indentation]
  | c :: d :: cs => c.line indentation :: linesOf indentation (d :: cs)

/-- All strokes can be made, from the open stretch on. -/
def Clear (indentation : String) (c : Stretch) (ss : List Stroke) : Prop :=
  ∀ before s after, ss = before ++ s :: after →
    (before.foldl add c).fault? indentation s = none

/-- The fault of the first stroke that cannot be made, from the open stretch on. -/
def firstFault? (indentation : String) (c : Stretch) : List Stroke → Option Fault
  | [] => none
  | s :: ss => (c.fault? indentation s).or (firstFault? indentation (c.add s) ss)

variable {indentation : String}

/-! ### The first fault -/

theorem clear_nil (c : Stretch) : Clear indentation c [] := by
  intro before s after h
  cases before <;> cases h

theorem clear_cons {c : Stretch} {s : Stroke} {ss : List Stroke} :
    Clear indentation c (s :: ss) ↔
      c.fault? indentation s = none ∧ Clear indentation (c.add s) ss := by
  constructor
  · intro h
    refine ⟨h [] s ss rfl, fun before t after he => ?_⟩
    exact h (s :: before) t after (by rw [he, List.cons_append])
  · rintro ⟨hs, hss⟩ before t after he
    cases before with
    | nil =>
      obtain ⟨rfl, -⟩ := List.cons.inj he
      exact hs
    | cons u before =>
      obtain ⟨rfl, rfl⟩ := List.cons.inj he
      exact hss before t after rfl

theorem firstFault?_eq_some_iff {c : Stretch} {ss : List Stroke} {fault : Fault} :
    firstFault? indentation c ss = some fault ↔
      ∃ before s after, ss = before ++ s :: after ∧ Clear indentation c before ∧
        (before.foldl add c).fault? indentation s = some fault := by
  induction ss generalizing c with
  | nil => simp [firstFault?]
  | cons s ss ih =>
    rw [firstFault?, Option.or_eq_some_iff]
    constructor
    · rintro (h | ⟨hs, h⟩)
      · exact ⟨[], s, ss, rfl, clear_nil c, h⟩
      · obtain ⟨before, t, after, rfl, hb, ht⟩ := ih.mp h
        exact ⟨s :: before, t, after, rfl, clear_cons.mpr ⟨hs, hb⟩, ht⟩
    · rintro ⟨before, t, after, he, hb, ht⟩
      cases before with
      | nil =>
        obtain ⟨rfl, -⟩ := List.cons.inj he
        exact .inl ht
      | cons u before =>
        obtain ⟨rfl, rfl⟩ := List.cons.inj he
        obtain ⟨hu, hb⟩ := clear_cons.mp hb
        exact .inr ⟨hu, ih.mpr ⟨before, t, after, rfl, hb, ht⟩⟩

/-! ### The page of a stretch -/

/-- The page on which a stretch is open after ended lines, the latest first. -/
def page (indentation : String) (ended : List String) (c : Stretch) : Page :=
  { ended, openLine := c.line indentation, level := c.level.toNat }

theorem line_eq_empty_iff {c : Stretch} : c.line indentation = "" ↔ c.text = "" := by
  unfold line
  split
  · next h => simp [h]
  · next h => simp [h]

theorem cuts_ne_nil (c : Stretch) (ss : List Stroke) : cuts c ss ≠ [] := by
  induction ss generalizing c with
  | nil => exact List.cons_ne_nil _ _
  | cons s ss ih =>
    cases s with
    | text content => exact ih _
    | lineBreak change => exact List.cons_ne_nil _ _
    | halt fault => exact ih _

theorem linesOf_cons {c : Stretch} {cs : List Stretch} (h : cs ≠ []) :
    linesOf indentation (c :: cs) = c.line indentation :: linesOf indentation cs := by
  cases cs with
  | nil => exact absurd rfl h
  | cons d cs => rfl

/-- The lines of a page are its ended lines and the line of its open stretch. -/
theorem lines_page (ended : List String) (c : Stretch) :
    (c.page indentation ended).lines = ended.reverse ++ linesOf indentation [c] := by
  simp only [Page.lines, page, linesOf, String.isEmpty_iff, line_eq_empty_iff]
  split <;> simp

theorem line_of_ne {c : Stretch} (h : c.text ≠ "") :
    c.line indentation = Text.repeated c.level.toNat indentation ++ c.text := if_neg h

/-! ### Margins -/

theorem marginFault?_of_level_zero (indentation text : String) :
    marginFault? indentation ⟨0, text⟩ = none := by
  rw [marginFault?, Page.margin_of_level_eq_zero indentation rfl]

theorem marginFault?_of_level {c : Stretch} (h : Page.countLimit < c.level.toNat) :
    c.marginFault? indentation = some .levelTooLarge := by
  rw [marginFault?, Page.margin, if_pos h]

theorem marginFault?_of_length {c : Stretch} (hlevel : c.level.toNat ≤ Page.countLimit)
    (h : Page.countLimit < indentation.length * c.level.toNat) :
    c.marginFault? indentation = some .marginTooLong := by
  rw [marginFault?, Page.margin, if_neg (Nat.not_lt.mpr hlevel), if_pos h]

theorem marginFault?_of_bytes {c : Stretch} (hlevel : c.level.toNat ≤ Page.countLimit)
    (hlength : indentation.length * c.level.toNat ≤ Page.countLimit)
    (h : Page.countLimit < Text.bytesFor indentation (indentation.length * c.level.toNat)) :
    c.marginFault? indentation = some .marginTooLarge := by
  rw [marginFault?, Page.margin, if_neg (Nat.not_lt.mpr hlevel), if_neg (Nat.not_lt.mpr hlength),
    if_pos h]

/-- A margin is refused for a limit of the machine. -/
theorem mem_of_marginFault? {c : Stretch} {fault : Fault}
    (h : c.marginFault? indentation = some fault) :
    fault ∈ [.levelTooLarge, .marginTooLong, .marginTooLarge] := by
  unfold marginFault? Page.margin at h
  split_ifs at h <;> cases h <;> simp

/-- A margin that can be written is the indentation once a level. -/
theorem margin_eq (c : Stretch) :
    Page.margin indentation { level := c.level.toNat } =
      match c.marginFault? indentation with
      | some fault => .error fault
      | none => .ok (Text.repeated c.level.toNat indentation) := by
  unfold marginFault? Page.margin
  split_ifs <;> rfl

/-- A text joins the open stretch, unless it brings a margin that cannot be written. -/
theorem write_page (ended : List String) (c : Stretch) (content : String) :
    (c.page indentation ended).write indentation content =
      match c.fault? indentation (.text content) with
      | some fault => .error fault
      | none => .ok ((c.add (.text content)).page indentation ended) := by
  by_cases hcontent : content = ""
  · simp [Page.write, fault?, add, hcontent]
  by_cases htext : c.text = ""
  · have hline : c.line indentation = "" := line_eq_empty_iff.mpr htext
    have hadd : (c.add (.text content)).line indentation =
        Text.repeated c.level.toNat indentation ++ content := by
      rw [line_of_ne (by simp [add, hcontent])]
      simp [add, htext]
    have hmargin : (c.page indentation ended).margin indentation =
        Page.margin indentation { level := c.level.toNat } := rfl
    rw [Page.write, hmargin, margin_eq]
    simp only [page, String.isEmpty_iff, hcontent, hline, hadd, fault?, htext, ne_eq, not_true,
      or_self, if_false, if_true]
    cases c.marginFault? indentation <;> rfl
  · have hline : ¬c.line indentation = "" := fun h => htext (line_eq_empty_iff.mp h)
    have hadd : (c.add (.text content)).line indentation =
        Text.repeated c.level.toNat indentation ++ (c.text ++ content) :=
      line_of_ne (by simp [add, hcontent])
    have hfault : c.fault? indentation (.text content) = none := if_pos (.inr htext)
    rw [hfault, Page.write]
    simp only [page, String.isEmpty_iff, hcontent, hline, hadd, if_false]
    rw [line_of_ne htext, String.append_assoc]
    rfl

/-- A line break ends the line of the open stretch, unless the level drops below zero. -/
theorem breakLine_page (ended : List String) {c : Stretch} (hlevel : 0 ≤ c.level) (change : Int) :
    (c.page indentation ended).breakLine change =
      match c.fault? indentation (.lineBreak change) with
      | some fault => .error fault
      | none =>
        .ok ((c.add (.lineBreak change)).page indentation (c.line indentation :: ended)) := by
  have hnat : (c.level.toNat : Int) = c.level := Int.toNat_of_nonneg hlevel
  simp only [Page.breakLine, page, hnat, fault?, Page.endLine, add]
  split <;> rfl

/-- Drawing strokes ends at the first of them that cannot be made, and otherwise leaves the lines of
the stretches they are cut to. -/
theorem lines_drawAll (ended : List String) {c : Stretch} (hlevel : 0 ≤ c.level)
    (ss : List Stroke) :
    (Stroke.drawAll indentation (c.page indentation ended) ss).map Page.lines =
      match firstFault? indentation c ss with
      | some fault => .error fault
      | none => .ok (ended.reverse ++ linesOf indentation (cuts c ss)) := by
  induction ss generalizing c ended with
  | nil => exact congrArg Except.ok (lines_page ended c)
  | cons s ss ih =>
    rw [Stroke.drawAll, firstFault?]
    cases s with
    | text content =>
      rw [Stroke.draw, write_page]
      cases c.fault? indentation (.text content) with
      | some fault => rfl
      | none => exact ih ended hlevel
    | lineBreak change =>
      rw [Stroke.draw, breakLine_page ended hlevel]
      cases hf : c.fault? indentation (.lineBreak change) with
      | some fault => rfl
      | none =>
        have hnext : 0 ≤ (c.add (.lineBreak change)).level := by
          simp only [fault?] at hf
          split at hf
          · cases hf
          · next h => simpa [add] using h
        simp only [Option.none_or, cuts, linesOf_cons (cuts_ne_nil _ ss)]
        show Except.map _ (Stroke.drawAll _ _ ss) = _
        rw [ih _ hnext, List.reverse_cons]
        simp only [List.append_assoc, List.singleton_append]
    | halt fault => rfl

end Stretch

namespace Fragment

open Stretch

variable {indentation : String}

/-- What is made unless there is a fault was made without one. -/
theorem eq_none_and_eq_of_ok {α : Type} {found : Option Fault} {made result : α}
    (h : (match found with
      | some fault => .error fault
      | none => .ok made) = Except.ok result) : found = none ∧ made = result := by
  cases found with
  | none => exact ⟨rfl, Except.ok.inj h⟩
  | some fault => cases h

/-- What is refused only for a fault was refused for that one. -/
theorem eq_some_of_error {α : Type} {found : Option Fault} {made : α} {fault : Fault}
    (h : (match found with
      | some fault => .error fault
      | none => .ok made) = (.error fault : Except Fault α)) : found = some fault := by
  cases found with
  | none => cases h
  | some other =>
    cases h
    rfl

/-- What a tree is written to is decided by its strokes. -/
theorem lines_toSheet (tree : Fragment Value) (names : Assignment) (indentation : String) :
    (tree.toSheet names indentation).map Sheet.lines =
      match firstFault? indentation {} (tree.strokes names) with
      | some fault => .error fault
      | none => .ok (linesOf indentation (cuts {} (tree.strokes names))) := by
  have hpage : (tree.toSheet names indentation).map Sheet.lines =
      (tree.writeOn indentation names Page.blank).page.map Page.lines := by
    rw [toSheet]
    cases tree.writeOn indentation names Page.blank <;> rfl
  rw [hpage, page_writeOn tree Page.blank]
  exact lines_drawAll [] (c := {}) (Int.le_refl 0) (tree.strokes names)

/-- The lines of a sheet are those that the strokes of its tree are cut to. -/
theorem lines_of_toSheet {tree : Fragment Value} {names : Assignment} {sheet : Sheet}
    (h : tree.toSheet names indentation = .ok sheet) :
    sheet.lines = linesOf indentation (cuts {} (tree.strokes names)) := by
  have hlines := lines_toSheet tree names indentation
  rw [h] at hlines
  exact (eq_none_and_eq_of_ok hlines.symm).2.symm

/-- Writing fails at the first stroke that cannot be made. -/
theorem toSheet_eq_error_iff {tree : Fragment Value} {names : Assignment} {fault : Fault} :
    tree.toSheet names indentation = .error fault ↔
      firstFault? indentation {} (tree.strokes names) = some fault := by
  have hlines := lines_toSheet tree names indentation
  cases hsheet : tree.toSheet names indentation <;>
    cases hfault : firstFault? indentation {} (tree.strokes names) <;>
    simp_all [Except.map]

/-- Writing halts in a tree only for a breach of contract. -/
theorem isBreach_of_halt_mem {tree : Fragment Value} {names : Assignment} {fault : Fault}
    (h : .halt fault ∈ tree.strokes names) : fault.isBreach = true := by
  rcases leaf_of_halt_mem h with ⟨_, -, rfl⟩ | ⟨_, -, -, rfl⟩ | ⟨_, -, rfl⟩ <;> rfl

/-- A margin is refused for a limit of the machine, and not for a breach of contract. -/
theorem isBreach_of_marginFault? {c : Stretch} {fault : Fault}
    (h : c.marginFault? indentation = some fault) : fault.isBreach = false := by
  have hlimits : ∀ fault ∈ [Fault.levelTooLarge, .marginTooLong, .marginTooLarge],
      fault.isBreach = false := by decide
  exact hlimits fault (mem_of_marginFault? h)

/-- Of the strokes of a tree, a text cannot be made for a limit of the machine only, and a line
break or a halt for a breach of contract only. -/
theorem isBreach_iff_of_fault? {tree : Fragment Value} {names : Assignment} {c : Stretch}
    {s : Stroke} {fault : Fault} (hs : s ∈ tree.strokes names)
    (h : c.fault? indentation s = some fault) :
    fault.isBreach = true ↔ ∀ content, s ≠ .text content := by
  cases s with
  | text content =>
    have hmargin : c.marginFault? indentation = some fault := by
      simp only [fault?] at h
      split at h
      · cases h
      · exact h
    simp [isBreach_of_marginFault? hmargin]
  | lineBreak change =>
    simp only [fault?, Option.ite_none_right_eq_some, Option.some.injEq] at h
    obtain ⟨-, rfl⟩ := h
    simp [Fault.isBreach]
  | halt other =>
    cases h
    simp [isBreach_of_halt_mem hs]

/-- Writing a tree fails for a level below zero, for a limit of the machine, or where a stroke
halts. -/
theorem fault_of_toSheet {tree : Fragment Value} {names : Assignment} {fault : Fault}
    (h : tree.toSheet names indentation = .error fault) :
    fault = .levelBelowZero ∨ fault.isBreach = false ∨ .halt fault ∈ tree.strokes names := by
  rw [toSheet_eq_error_iff, firstFault?_eq_some_iff] at h
  obtain ⟨before, s, after, heq, -, hs⟩ := h
  have hmem : s ∈ tree.strokes names := by simp [heq]
  cases s with
  | text content =>
    refine .inr (.inl (Bool.not_eq_true _ ▸ fun hbreach => ?_))
    exact (isBreach_iff_of_fault? hmem hs).mp hbreach content rfl
  | lineBreak change =>
    simp only [fault?, Option.ite_none_right_eq_some, Option.some.injEq] at hs
    exact .inl hs.2.symm
  | halt other =>
    cases hs
    exact .inr (.inr hmem)

/-- The margin of the first text of a line ends the writing of it. -/
theorem toSheet_line_eq_error {names : Assignment} {indentation content : String} {level : Int}
    {fault : Fault} (hlevel : 0 ≤ level) (hcontent : content ≠ "")
    (h : marginFault? indentation ⟨level, ""⟩ = some fault) :
    (seq [newline level, text content] : Tree).toSheet names indentation = .error fault := by
  have hstrokes : (seq [newline level, text content] : Tree).strokes names =
      [.lineBreak level, .text content] := rfl
  rw [toSheet_eq_error_iff, hstrokes]
  simp [firstFault?, fault?, add, hcontent, h, Int.not_lt.mpr hlevel]

end Fragment

end SourceLayout
