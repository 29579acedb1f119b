import SourceLayout.Proofs.Writing.Spans

/-! One tree written with several indentations.  The indentation decides on nothing but the margins:
a sheet is the sheet that is written with the empty indentation, with the margin of its level put in
front of every line that has a text, and with every column moved by the width of that margin.  Two
indentations fail alike as well, except where a margin is too large with one of them and not with
the other. -/

namespace SourceLayout

namespace Stroke

/-- The change of indentation that a stroke makes, if it is a line break. -/
def change? : Stroke → Option Int
  | .lineBreak change => some change
  | .text _ | .halt _ => none

/-- The levels of the lines that strokes make: each is the sum of the changes of the line breaks
before it. -/
def levels (ss : List Stroke) : List Int := (ss.filterMap change?).scanl (· + ·) 0

end Stroke

/-- A place after the margin of its line is put in front of it, when the lines have these levels. -/
def Location.indented (indentation : String) (levels : List Int) (l : Location) : Location :=
  { l with column := l.column + (indentation.length * (levels.getD l.line.toNat 0).toNat : Nat) }

/-- A sheet without margins after the margins are put in front of its lines, when the lines have
these levels. -/
def Sheet.indented (indentation : String) (levels : List Int) (s : Sheet) : Sheet where
  lines := levels.zipWith (fun level text => Stretch.line indentation ⟨level, text⟩) s.lines
  regions := s.regions.map fun r =>
    ⟨r.mark, r.start.indented indentation levels, r.stop.indented indentation levels⟩

namespace Stretch

open Stroke

variable {indentation : String}

/-- The strokes come to a margin that cannot be written: those up to the first text of a line can be
made, and the margin that this text brings is too large. -/
def RefusesMargin (indentation : String) (c : Stretch) (ss : List Stroke) (fault : Fault) : Prop :=
  ∃ before content after, ss = before ++ .text content :: after ∧ Clear indentation c before ∧
    content ≠ "" ∧ (before.foldl add c).text = "" ∧
    (before.foldl add c).marginFault? indentation = some fault

/-! ### Faults -/

theorem fault?_text_eq_some_iff {c : Stretch} {content : String} {fault : Fault} :
    c.fault? indentation (.text content) = some fault ↔
      content ≠ "" ∧ c.text = "" ∧ c.marginFault? indentation = some fault := by
  rw [fault?, Option.ite_none_left_eq_some, not_or, not_not, and_assoc]

/-- A margin that is refused is the first fault of the strokes. -/
theorem RefusesMargin.firstFault? {c : Stretch} {ss : List Stroke} {fault : Fault}
    (h : RefusesMargin indentation c ss fault) :
    firstFault? indentation c ss = some fault := by
  obtain ⟨before, content, after, rfl, hbefore, hfault⟩ := h
  exact firstFault?_eq_some_iff.mpr
    ⟨before, .text content, after, rfl, hbefore, fault?_text_eq_some_iff.mpr hfault⟩

theorem RefusesMargin.isBreach {c : Stretch} {ss : List Stroke} {fault : Fault}
    (h : RefusesMargin indentation c ss fault) : fault.isBreach = false := by
  obtain ⟨_, _, _, -, -, -, -, hmargin⟩ := h
  exact Fragment.isBreach_of_marginFault? hmargin

/-- After a stroke that can be made, a margin is refused where the rest refuses one. -/
theorem RefusesMargin.cons {c : Stretch} {s : Stroke} {ss : List Stroke} {fault : Fault}
    (hs : c.fault? indentation s = none) (h : RefusesMargin indentation (c.add s) ss fault) :
    RefusesMargin indentation c (s :: ss) fault := by
  obtain ⟨before, content, after, rfl, hbefore, hfault⟩ := h
  exact ⟨s :: before, content, after, rfl, clear_cons.mpr ⟨hs, hbefore⟩, hfault⟩

/-- A margin that can be written with some indentation can be written with the empty one. -/
theorem marginFault?_empty {c : Stretch} (h : c.marginFault? indentation = none) :
    c.marginFault? "" = none := by
  have hlevel : ¬Page.countLimit < c.level.toNat := by
    intro hover
    rw [marginFault?, Page.margin, if_pos hover] at h
    cases h
  have hbytes : ¬Page.countLimit < Text.bytesFor "" 0 := by decide +kernel
  rw [marginFault?, Page.margin, if_neg hlevel]
  simp [hbytes]

/-- Unless a margin is refused, the strokes fail as with the empty indentation, or not at all. -/
theorem firstFault?_eq_empty {c : Stretch} {ss : List Stroke}
    (h : ∀ fault, ¬RefusesMargin indentation c ss fault) :
    firstFault? indentation c ss = firstFault? "" c ss := by
  induction ss generalizing c with
  | nil => rfl
  | cons s ss ih =>
    have hrest (hs : c.fault? indentation s = none) :
        firstFault? indentation (c.add s) ss = firstFault? "" (c.add s) ss :=
      ih fun fault hfault => h fault (.cons hs hfault)
    rw [firstFault?, firstFault?]
    cases s with
    | text content =>
      have hnone : c.fault? indentation (.text content) = none := by
        rw [Option.eq_none_iff_forall_ne_some]
        intro fault hfault
        exact h fault ⟨[], content, ss, rfl, clear_nil c, fault?_text_eq_some_iff.mp hfault⟩
      have hempty : c.fault? "" (.text content) = none := by
        rw [fault?] at hnone ⊢
        split at hnone
        · next hskip => rw [if_pos hskip]
        · next hfirst => rw [if_neg hfirst, marginFault?_empty hnone]
      rw [hnone, hempty, Option.none_or, Option.none_or, hrest hnone]
    | lineBreak change =>
      rw [show c.fault? "" (.lineBreak change) = c.fault? indentation (.lineBreak change) from rfl]
      cases hs : c.fault? indentation (.lineBreak change) with
      | none => rw [Option.none_or, Option.none_or, hrest hs]
      | some fault => rfl
    | halt fault => rfl

/-! ### Levels and lines -/

/-- Strokes are cut to stretches at the running sums of their changes. -/
theorem map_level_cuts (c : Stretch) (ss : List Stroke) :
    (cuts c ss).map level = (ss.filterMap change?).scanl (· + ·) c.level := by
  induction ss generalizing c with
  | nil => rfl
  | cons s ss ih =>
    cases s with
    | text content => exact ih _
    | lineBreak change =>
      rw [cuts, List.map_cons, ih, List.filterMap_cons_some (rfl : change? _ = some change),
        List.scanl_cons]
      rfl
    | halt fault => exact ih c

theorem levels_eq (ss : List Stroke) : levels ss = (cuts {} ss).map level :=
  (map_level_cuts {} ss).symm

theorem length_levels (ss : List Stroke) : (levels ss).length = breaks ss + 1 := by
  rw [levels_eq, List.length_map, length_cuts]

/-- The line on which strokes end is at the level that they leave, whatever follows. -/
theorem getD_levels_breaks (ss ts : List Stroke) :
    (levels (ss ++ ts)).getD (breaks ss) 0 = (ss.foldl add {}).level := by
  obtain ⟨rest, hcut⟩ := exists_getD_cuts_breaks {} ss ts
  have hlevel := congrArg level hcut
  rw [List.getD_eq_getElem?_getD] at hlevel
  rw [levels_eq, List.getD_eq_getElem?_getD, List.getElem?_map, ← hlevel]
  cases (cuts {} (ss ++ ts))[breaks ss]? <;> rfl

theorem line_empty (c : Stretch) : c.line "" = c.text := by
  have hmargin : Text.repeated c.level.toNat "" = "" := rfl
  rw [line, hmargin, String.empty_append]
  split
  · next h => exact h.symm
  · rfl

theorem length_linesOf_le (cs : List Stretch) : (linesOf indentation cs).length ≤ cs.length := by
  induction cs with
  | nil => exact Nat.le_refl 0
  | cons c cs ih =>
    cases cs with
    | nil =>
      rw [linesOf]
      split <;> simp
    | cons d cs => exact Nat.succ_le_succ ih

/-- The lines of stretches are their texts with the margins in front. -/
theorem linesOf_eq_zipWith (cs : List Stretch) :
    linesOf indentation cs =
      (cs.map level).zipWith (fun level text => line indentation ⟨level, text⟩)
        (linesOf "" cs) := by
  induction cs with
  | nil => rfl
  | cons c cs ih =>
    cases cs with
    | nil =>
      rw [linesOf, linesOf, line_empty]
      split <;> rfl
    | cons d cs =>
      rw [linesOf, linesOf, line_empty, List.map_cons, List.zipWith_cons_cons, ih]

/-- A place after strokes is the one without margins, moved by the margin of its line. -/
theorem place_eq_indented (ss ts : List Stroke) :
    place indentation ss = (place "" ss).indented indentation (levels (ss ++ ts)) := by
  simp only [place, Location.indented, Int.toNat_natCast, getD_levels_breaks, Location.mk.injEq,
    true_and]
  simp [Int.add_comm]

end Stretch

namespace Fragment

open Stretch Stroke Node

variable {tree : Fragment Value} {names : Assignment} {indentation : String}

/-- A region is the one without margins, with its ends moved by the margins of their lines. -/
theorem region_eq_indented {n : Node} (hn : n ∈ tree.nodes names) :
    n.region indentation names [] =
      ⟨n.mark,
        (n.region "" names []).start.indented indentation (levels (tree.strokes names)),
        (n.region "" names []).stop.indented indentation (levels (tree.strokes names))⟩ := by
  obtain ⟨after, hafter⟩ := (inOrder_nodes tree).bounded n hn
  rw [← hafter]
  simp only [region, List.nil_append]
  rw [place_eq_indented (n.through names) after, Node.through, List.append_assoc,
    place_eq_indented n.before (n.body.strokes names ++ after)]

/-- Unless a margin is refused, a tree is written to the sheet without margins and then the
margins, or fails as it does without them. -/
theorem toSheet_eq_indented
    (h : ∀ fault, ¬RefusesMargin indentation {} (tree.strokes names) fault) :
    tree.toSheet names indentation =
      (tree.toSheet names "").map (Sheet.indented indentation (levels (tree.strokes names))) := by
  have hfirst := firstFault?_eq_empty h
  cases hbare : tree.toSheet names "" with
  | error fault =>
    rw [toSheet_eq_error_iff, ← hfirst, ← toSheet_eq_error_iff] at hbare
    exact hbare
  | ok bare =>
    cases hsheet : tree.toSheet names indentation with
    | error fault =>
      rw [toSheet_eq_error_iff, hfirst, ← toSheet_eq_error_iff, hbare] at hsheet
      cases hsheet
    | ok sheet =>
      have hlines : sheet.lines =
          (bare.indented indentation (levels (tree.strokes names))).lines := by
        rw [Sheet.indented, lines_of_toSheet hsheet, lines_of_toSheet hbare, levels_eq]
        exact linesOf_eq_zipWith _
      have hregions : sheet.regions =
          (bare.indented indentation (levels (tree.strokes names))).regions := by
        rw [Sheet.indented, regions_toSheet hsheet, regions_toSheet hbare, List.map_map]
        exact List.map_congr_left fun n hn => region_eq_indented hn
      cases sheet
      exact congrArg Except.ok (Sheet.mk.injEq .. ▸ ⟨hlines, hregions⟩)

/-- Strokes of a tree that come to no margin that is refused fail for a breach of contract only. -/
theorem isBreach_of_firstFault? {fault : Fault}
    (h : ∀ fault, ¬RefusesMargin indentation {} (tree.strokes names) fault)
    (hfault : firstFault? indentation {} (tree.strokes names) = some fault) :
    fault.isBreach = true := by
  obtain ⟨before, s, after, heq, hbefore, hs⟩ := firstFault?_eq_some_iff.mp hfault
  have hmem : s ∈ tree.strokes names := by simp [heq]
  refine (isBreach_iff_of_fault? hmem hs).mpr fun content htext => h fault ?_
  subst htext
  exact ⟨before, content, after, heq, hbefore, fault?_text_eq_some_iff.mp hs⟩

/-- A region of a sheet begins and ends on one of the lines that the strokes make. -/
theorem ends_on_lines {sheet : Sheet} (h : tree.toSheet names indentation = .ok sheet) :
    ∀ r ∈ sheet.regions, ∀ e ∈ [r.start, r.stop],
      0 ≤ e.line ∧ e.line < (levels (tree.strokes names)).length ∧ 0 ≤ e.column := by
  rw [regions_toSheet h, List.forall_mem_map]
  intro n hn e he
  obtain ⟨ss, hss, rfl⟩ : ∃ ss, ss <+: tree.strokes names ∧ e = place indentation ss := by
    have hbound : n.through names <+: tree.strokes names := (inOrder_nodes tree).bounded n hn
    rcases List.mem_pair.mp he with rfl | rfl
    · exact ⟨n.before, n.before_through.trans hbound, rfl⟩
    · exact ⟨n.through names, hbound, rfl⟩
  obtain ⟨ts, hts⟩ := hss
  rw [length_levels, ← hts, breaks_append]
  exact ⟨Int.natCast_nonneg _, by simp only [place]; omega, Int.natCast_nonneg _⟩

/-- Written with two indentations, a tree comes with one of them to a margin that is too large, and
fails for that limit; or it fails with the same breach of contract with both; or it is written with
both to the sheet that the empty indentation gives, with nothing but the margins put in front of its
lines. -/
theorem toSheet_indentations (tree : Fragment Value) (names : Assignment) (a b : String) :
    let levels := Stroke.levels (tree.strokes names)
    (∃ indentation ∈ [a, b], ∃ fault, RefusesMargin indentation {} (tree.strokes names) fault ∧
      fault.isBreach = false ∧ tree.toSheet names indentation = .error fault) ∨
    (∃ fault : Fault, fault.isBreach = true ∧
      tree.toSheet names a = .error fault ∧ tree.toSheet names b = .error fault) ∨
    ∃ bare : Sheet, tree.toSheet names "" = .ok bare ∧
      tree.toSheet names a = .ok (bare.indented a levels) ∧
      tree.toSheet names b = .ok (bare.indented b levels) ∧
      (∀ level ∈ levels, 0 ≤ level) ∧ bare.lines.length ≤ levels.length ∧
      ∀ r ∈ bare.regions, ∀ e ∈ [r.start, r.stop],
        0 ≤ e.line ∧ e.line < levels.length ∧ 0 ≤ e.column := by
  intro levels
  by_cases hrefused : ∃ indentation ∈ [a, b], ∃ fault,
      RefusesMargin indentation {} (tree.strokes names) fault
  · obtain ⟨indentation, hmem, fault, hfault⟩ := hrefused
    exact .inl ⟨indentation, hmem, fault, hfault, hfault.isBreach,
      toSheet_eq_error_iff.mpr hfault.firstFault?⟩
  push Not at hrefused
  have hsheet : ∀ indentation ∈ [a, b], tree.toSheet names indentation =
      (tree.toSheet names "").map (Sheet.indented indentation levels) :=
    fun indentation hmem => toSheet_eq_indented (hrefused indentation hmem)
  have ha := hsheet a (by simp)
  have hb := hsheet b (by simp)
  right
  cases hbare : tree.toSheet names "" with
  | error fault =>
    rw [hbare] at ha hb
    refine .inl ⟨fault, ?_, ha, hb⟩
    exact isBreach_of_firstFault? (hrefused a (by simp)) (toSheet_eq_error_iff.mp ha)
  | ok bare =>
    rw [hbare] at ha hb
    have hclear : firstFault? "" {} (tree.strokes names) = none := by
      rw [Option.eq_none_iff_forall_ne_some]
      intro fault hfault
      rw [← toSheet_eq_error_iff, hbare] at hfault
      cases hfault
    refine .inr ⟨bare, rfl, ha, hb, ?_, ?_, ends_on_lines hbare⟩
    · have hnonneg := (halt_notMem_and_levels_of_firstFault? hclear (Int.le_refl 0)).2
      show ∀ level ∈ Stroke.levels _, 0 ≤ level
      rwa [levels_eq, List.forall_mem_map]
    · show _ ≤ (Stroke.levels _).length
      rw [lines_of_toSheet hbare, levels_eq, List.length_map]
      exact length_linesOf_le _

/-- A line so deep that an indentation of one character takes too many bytes for its margin, and one
of four has too many characters, while the empty one will do. -/
theorem toSheet_margin_limit :
    let tree : Tree := seq [newline 0x4000000000000000, text "x"]
    tree.toSheet .empty "" = .ok ⟨["", "x"], []⟩ ∧
    tree.toSheet .empty defaultIndentation = .error .marginTooLong ∧
    tree.toSheet .empty "→" = .error .marginTooLarge := by
  have hnone : Text.repeated 0x4000000000000000 "" = "" := rfl
  have hbytes : Text.bytesFor "" 0 = 49 := by decide +kernel
  refine ⟨?_,
    toSheet_line_eq_error (by decide) (by decide)
      (marginFault?_of_length (by decide) (by decide +kernel)),
    toSheet_line_eq_error (by decide) (by decide)
      (marginFault?_of_bytes (by decide) (by decide +kernel) (by decide +kernel))⟩
  simp [toSheet, writeOn, writeAllOn, Written.andThen, Written.nothing, Page.breakLine,
    Page.endLine, Page.write, Page.margin, Page.blank, Page.lines, Page.countLimit, hbytes, hnone,
    bind, Except.bind, pure, Except.pure, Except.map]

end Fragment

end SourceLayout
