import SourceLayout.Builder.Program
import SourceLayout.Proofs.Writing.Spans

/-! Which ends of regions are places in the lines of the sheet.  A region may begin or end on a line
that has no text yet.  Its place there is after the margin of the line, but a line that stays
without text gets no margin. -/

namespace SourceLayout

/-- The place stands in a line, its end included, or at the beginning of the line after the last
one. -/
def Location.InLines (lines : List String) (a : Location) : Prop :=
  (∃ l c : Nat, a = ⟨l, c⟩ ∧ ∃ line, lines[l]? = some line ∧ c ≤ line.length) ∨
    a = ⟨lines.length, 0⟩

/-- A column of a line, or of the line after the last one, is in the lines if it is not past the end
of its line, where the line after the last one is empty. -/
theorem Location.inLines_iff_le {lines : List String} {l c : Nat} (hle : l ≤ lines.length) :
    InLines lines ⟨l, c⟩ ↔ c ≤ (lines.getD l "").length := by
  simp only [InLines, mk.injEq, Int.natCast_inj, Int.natCast_eq_zero]
  rw [List.getD_eq_getElem?_getD]
  constructor
  · rintro (⟨l, c, ⟨rfl, rfl⟩, line, hline, hcolumn⟩ | ⟨-, rfl⟩)
    · rw [hline]
      exact hcolumn
    · exact Nat.zero_le _
  · intro hcolumn
    cases hline : lines[l]? with
    | some line =>
      rw [hline] at hcolumn
      exact .inl ⟨l, c, ⟨rfl, rfl⟩, line, hline, hcolumn⟩
    | none =>
      rw [hline] at hcolumn
      exact .inr ⟨Nat.le_antisymm hle (List.getElem?_eq_none_iff.mp hline),
        Nat.le_zero.mp hcolumn⟩

namespace Stretch

open Stroke

variable {indentation : String}

/-- All stretches but the last one have a line. -/
theorem length_le_length_linesOf (cs : List Stretch) :
    cs.length ≤ (linesOf indentation cs).length + 1 := by
  induction cs with
  | nil => exact Nat.zero_le _
  | cons c cs ih =>
    cases cs with
    | nil => exact Nat.le_add_left _ _
    | cons d cs => exact Nat.succ_le_succ ih

/-- A line that is not empty holds its margin and the beginning of its text. -/
theorem le_length_line {level : Int} {text rest : String}
    (h : line indentation ⟨level, text ++ rest⟩ ≠ "") :
    indentation.length * level.toNat + text.length ≤
      (line indentation ⟨level, text ++ rest⟩).length := by
  rw [ne_eq, line_eq_empty_iff] at h
  rw [line_of_ne h, String.length_append, Text.length_repeated, String.length_append,
    ← Nat.add_assoc]
  exact Nat.le_add_right _ _

/-- A place after some of the strokes stands on a line, or right after the last one.  It is in the
lines if its line has a text or if it is at the beginning of the line; else its column is that of
the margin which the line does not have. -/
theorem place_inLines_iff (before after : List Stroke) :
    ∃ l c : Nat, place indentation before = ⟨l, c⟩ ∧
      l ≤ (linesOf indentation (cuts {} (before ++ after))).length ∧
      ((place indentation before).InLines (linesOf indentation (cuts {} (before ++ after))) ↔
        (linesOf indentation (cuts {} (before ++ after))).getD l "" ≠ "" ∨ c = 0) ∧
      ((linesOf indentation (cuts {} (before ++ after))).getD l "" = "" →
        c = indentation.length * ((cuts {} (before ++ after)).getD l {}).level.toNat) := by
  obtain ⟨rest, hopen⟩ := exists_getD_cuts_breaks {} before after
  have hle : breaks before ≤ (linesOf indentation (cuts {} (before ++ after))).length := by
    have hlines : (cuts {} (before ++ after)).length ≤
      (linesOf indentation (cuts {} (before ++ after))).length + 1 := length_le_length_linesOf _
    rw [length_cuts, breaks_append] at hlines
    omega
  refine ⟨breaks before, _, rfl, hle, ?_⟩
  rw [place, Location.inLines_iff_le hle, getD_linesOf, hopen]
  refine ⟨⟨fun hcolumn => ?_, fun h => ?_⟩, fun hempty => ?_⟩
  · rw [or_iff_not_imp_left, not_not]
    intro hempty
    rw [hempty] at hcolumn
    exact Nat.le_zero.mp hcolumn
  · rcases h with hne | hzero
    · exact le_length_line hne
    · rw [hzero]
      exact Nat.zero_le _
  · rw [line_eq_empty_iff, String.append_eq_empty_iff] at hempty
    rw [hempty.1]
    rfl

end Stretch

namespace Fragment

open Stretch

/-- A region begins and ends on a line of the sheet, or right after the last line.  Either end is a
place in the lines if its line has a text or if it is at the beginning of the line, and only then;
else its column is that of the margin which the line would have with a text. -/
theorem ends_inLines_iff {tree : Fragment Value} {names : Assignment} {indentation : String}
    {sheet : Sheet} (h : tree.toSheet names indentation = .ok sheet) :
    ∀ r ∈ sheet.regions, ∀ e ∈ [r.start, r.stop], ∃ l c : Nat, e = ⟨l, c⟩ ∧
      l ≤ sheet.lines.length ∧
      (e.InLines sheet.lines ↔ sheet.lines.getD l "" ≠ "" ∨ c = 0) ∧
      (sheet.lines.getD l "" = "" →
        c = indentation.length * ((cuts {} (tree.strokes names)).getD l {}).level.toNat) := by
  rw [regions_toSheet h, lines_of_toSheet h, List.forall_mem_map]
  intro n hn e he
  obtain ⟨ss, hbefore, rfl⟩ : ∃ ss, ss <+: tree.strokes names ∧ e = place indentation ss := by
    have hbound : n.through names <+: tree.strokes names := (inOrder_nodes tree).bounded n hn
    rcases List.mem_pair.mp he with rfl | rfl
    · exact ⟨n.before, n.before_through.trans hbound, rfl⟩
    · exact ⟨n.through names, hbound, rfl⟩
  obtain ⟨after, hafter⟩ := hbefore
  rw [← hafter]
  exact place_inLines_iff ss after

/-- A region on a line of its own, the end of which is on the empty line after it. -/
theorem ends_inLines_iff_empty_line :
    let tree : Tree := seq [newline 1, marked .plain (seq [text "b", newline 0]), newline (-1)]
    let sheet : Sheet := ⟨["", "\tb", ""], [⟨.plain, ⟨1, 1⟩, ⟨2, 1⟩⟩]⟩
    tree.toSheet .empty "\t" = .ok sheet ∧
    ∀ r ∈ sheet.regions, ∀ e ∈ [r.start, r.stop], ∃ l c : Nat, e = ⟨l, c⟩ ∧
      l ≤ sheet.lines.length ∧
      (e.InLines sheet.lines ↔ sheet.lines.getD l "" ≠ "" ∨ c = 0) ∧
      (sheet.lines.getD l "" = "" →
        c = "\t".length * ((cuts {} (tree.strokes .empty)).getD l {}).level.toNat) := by
  intro tree sheet
  have hsheet : tree.toSheet .empty "\t" = .ok sheet := rfl
  exact ⟨hsheet, ends_inLines_iff hsheet⟩

end Fragment

namespace Step

/-- A region whose last line break is followed by a line without text, one level deeper, ends at a
place that is not in the lines. -/
theorem region_ends_past_empty_line :
    let steps := [line [.str "a"],
      indent [region .plain [line [.str "b"]], line []], finish]
    (runAll .empty steps .fresh).fault = none ∧
    ∃ tree sheet, (runAll .empty steps .fresh).state.tree = tree ∧
      tree.toSheet .empty defaultIndentation = .ok sheet ∧ sheet.lines = ["a", "    b", ""] ∧
      ∃ r ∈ sheet.regions, r.stop = ⟨2, 4⟩ ∧ ¬r.stop.InLines sheet.lines := by
  refine ⟨rfl, .seq [.text "a", .newline 1, .marked .plain (.seq [.text "b", .newline 0]),
    .newline (-1)], ⟨["a", "    b", ""], [⟨.plain, ⟨1, 4⟩, ⟨2, 4⟩⟩]⟩, rfl, rfl, rfl,
    ⟨.plain, ⟨1, 4⟩, ⟨2, 4⟩⟩, List.mem_singleton.mpr rfl, rfl, ?_⟩
  show ¬Location.InLines ["a", "    b", ""] ⟨(2 : Nat), (4 : Nat)⟩
  rw [Location.inLines_iff_le (by decide)]
  decide

end Step

end SourceLayout
