import SourceLayout.Proofs.Text.Columns

/-! Tab stops.  A tab of an indent stands for the spaces up to the next tab stop, and the column of
a line is the number of spaces that its indent stands for.  Levels in front of a line, each of them
the spaces of a level or a tab, move its column by as many levels and leave its content alone. -/

namespace SourceLayout.Text

/-- How many spaces lead from a column to the next tab stop. -/
def spacesToStop (column : Nat) : Nat := tabWidth - column % tabWidth

/-- The rest of a line from `column` on, with the tabs of its indent written as spaces. -/
def expandFrom (column : Nat) : List Char → List Char
  | ' ' :: rest => ' ' :: expandFrom (column + 1) rest
  | '\t' :: rest =>
    List.replicate (spacesToStop column) ' ' ++ expandFrom (column + spacesToStop column) rest
  | rest => rest

/-- A line with the tabs of its indent written as spaces. -/
def expanded (line : String) : String := String.ofList (expandFrom 0 line.toList)

/-! ### Columns of an indent -/

theorem isIndent_iff {c : Char} : isIndent c = true ↔ c = ' ' ∨ c = '\t' := by simp [isIndent]

theorem nextStop_eq (column : Nat) : nextStop column = column + spacesToStop column := by
  simp only [nextStop, spacesToStop, tabWidth]
  omega

theorem advance_add (levels column : Nat) (c : Char) :
    advance (tabWidth * levels + column) c = tabWidth * levels + advance column c := by
  unfold advance
  split
  · rw [nextStop, nextStop, Nat.mul_add_div (by decide), Nat.add_assoc, Nat.add_mul,
      Nat.mul_comm levels]
  · exact Nat.add_assoc _ _ _

/-- An indent that starts at a tab stop leads as far from there as it does from column zero. -/
theorem foldl_advance_add (levels column : Nat) (cs : List Char) :
    cs.foldl advance (tabWidth * levels + column) =
      tabWidth * levels + cs.foldl advance column := by
  induction cs generalizing column with
  | nil => rfl
  | cons c cs ih => rw [List.foldl_cons, List.foldl_cons, advance_add, ih]

theorem foldl_advance_spaces (n : Nat) : (spaces n).toList.foldl advance 0 = n := by
  rw [spaces, String.toList_ofList, foldl_advance_of_spaces fun c => List.eq_of_mem_replicate,
    List.length_replicate, Nat.zero_add]

theorem isIndent_of_mem_spaces (n : Nat) : ∀ c ∈ (spaces n).toList, isIndent c = true := by
  intro c hc
  rw [spaces, String.toList_ofList] at hc
  exact isIndent_iff.mpr (.inl (List.eq_of_mem_replicate hc))

section Levels

variable {levels : List String} (hlevels : ∀ level ∈ levels, level = spaces tabWidth ∨ level = "\t")
include hlevels

/-- The spaces of a level lead from one tab stop to the next, and so does a tab. -/
theorem foldl_advance_join (cs : List Char) :
    ((String.join levels).toList ++ cs).foldl advance 0 =
      cs.foldl advance 0 + tabWidth * levels.length := by
  induction levels with
  | nil => rfl
  | cons level levels ih =>
    rw [List.forall_mem_cons] at hlevels
    have hlevel : level.toList.foldl advance 0 = tabWidth * 1 := by
      rcases hlevels.1 with rfl | rfl <;> rfl
    rw [String.join_cons, String.toList_append, List.append_assoc, List.foldl_append, hlevel,
      ← Nat.add_zero (tabWidth * 1), foldl_advance_add, ih hlevels.2, List.length_cons,
      Nat.mul_succ tabWidth levels.length]
    omega

theorem isIndent_of_mem_join : ∀ c ∈ (String.join levels).toList, isIndent c = true := by
  intro c hc
  rw [String.toList_join, List.mem_flatMap] at hc
  obtain ⟨level, hlevel, hc⟩ := hc
  have hall : level.toList.all isIndent = true := by
    rcases hlevels level hlevel with rfl | rfl <;> rfl
  exact List.all_eq_true.mp hall c hc

end Levels

/-! ### Lines of an indent and a content -/

/-- A line that is not blank is an indent and a content, which starts with another character than a
space or a tab. -/
theorem exists_indent {line : String} (h : isBlankLine line = false) :
    ∃ indent content first, line = indent ++ content ∧
      (∀ c ∈ indent.toList, isIndent c = true) ∧
      content.toList.head? = some first ∧ isIndent first = false := by
  have hne : line.toList.dropWhile isIndent ≠ [] := by
    intro hnil
    rw [isBlankLine, List.all_eq_true.mpr (List.dropWhile_eq_nil_iff.mp hnil)] at h
    cases h
  refine ⟨String.ofList (line.toList.takeWhile isIndent), contentOf line, _, ?_, ?_, ?_,
    List.head_dropWhile_not isIndent hne⟩
  · rw [contentOf, ← String.ofList_append, List.takeWhile_append_dropWhile, String.ofList_toList]
  · rw [String.toList_ofList]
    exact fun c => List.mem_takeWhile_imp
  · rw [contentOf, String.toList_ofList, List.head?_eq_some_head]

/-- Expanded after `column` spaces, an indent becomes the spaces up to the column where it ends. -/
theorem replicate_append_expandFrom {indent : List Char} {first : Char} (column : Nat)
    (rest : List Char) (hindent : ∀ c ∈ indent, isIndent c = true)
    (hfirst : isIndent first = false) :
    List.replicate column ' ' ++ expandFrom column (indent ++ first :: rest) =
      List.replicate (indent.foldl advance column) ' ' ++ first :: rest := by
  induction indent generalizing column with
  | nil =>
    have hkept : expandFrom column (first :: rest) = first :: rest := by
      rw [expandFrom] <;> rintro _ ⟨⟩ <;> cases hfirst
    rw [List.nil_append, hkept, List.foldl_nil]
  | cons c indent ih =>
    rw [List.forall_mem_cons] at hindent
    rw [List.cons_append, List.foldl_cons, ← ih _ hindent.2]
    rcases isIndent_iff.mp hindent.1 with rfl | rfl
    · rw [expandFrom, List.append_cons, ← List.replicate_succ']
      rfl
    · rw [expandFrom, advance, if_pos rfl, nextStop_eq, ← List.append_assoc,
        List.replicate_append_replicate]

section Indents

variable {indent content : String} {first : Char}
  (hindent : ∀ c ∈ indent.toList, isIndent c = true)
  (hhead : content.toList.head? = some first) (hfirst : isIndent first = false)
include hindent hhead hfirst

theorem expanded_append :
    expanded (indent ++ content) = spaces (indent.toList.foldl advance 0) ++ content := by
  obtain ⟨rest, hrest⟩ := List.head?_eq_some_iff.mp hhead
  have hexpanded := replicate_append_expandFrom 0 rest hindent hfirst
  rw [List.replicate_zero, List.nil_append, ← hrest] at hexpanded
  rw [expanded, String.toList_append, hexpanded, String.ofList_append, String.ofList_toList, spaces]

theorem lineIndentation_append :
    lineIndentation (indent ++ content) = (indent.toList.foldl advance 0, some content) := by
  obtain ⟨rest, hrest⟩ := List.head?_eq_some_iff.mp hhead
  have hblank : isBlankLine (indent ++ content) = false := by
    simp [isBlankLine, hrest, hfirst]
  have hcolumn : columnOf (indent ++ content) = indent.toList.foldl advance 0 := by
    rw [columnOf, String.toList_append, List.takeWhile_append_of_pos hindent, hrest,
      List.takeWhile_cons_of_neg (by simp [hfirst]), List.append_nil]
  have hcontent : contentOf (indent ++ content) = content := by
    rw [contentOf, String.toList_append, List.dropWhile_append_of_pos hindent, hrest,
      List.dropWhile_cons_of_neg (by simp [hfirst]), ← hrest, String.ofList_toList]
  rw [lineIndentation_eq, hblank, hcolumn, hcontent]
  rfl

end Indents

theorem lineIndentation_of_blank {line : String} (h : ∀ c ∈ line.toList, isIndent c = true) :
    lineIndentation line = (0, none) := by
  rw [lineIndentation_eq, isBlankLine, List.all_eq_true.mpr h]
  rfl

/-- The indentation of a line with a character other than a space or a tab: its text starts at the
first such character, and its column is the number of spaces before it once the tabs are expanded.
Both stay when these spaces are written instead of the indent, and levels in front of the line add
their columns to its own.  A line of spaces and tabs only has column zero and no text, however many
spaces are written instead of it and whatever levels stand in front of it. -/
theorem lineIndentation_by_stops (line : String) (levels : List String)
    (hlevels : ∀ level ∈ levels, level = spaces tabWidth ∨ level = "\t") :
    ((∃ c ∈ line.toList, c ≠ ' ' ∧ c ≠ '\t') →
      ∃ column indent content first,
        lineIndentation line = (column, some content) ∧
        line = indent ++ content ∧ (∀ c ∈ indent.toList, c = ' ' ∨ c = '\t') ∧
        content.toList.head? = some first ∧ first ≠ ' ' ∧ first ≠ '\t' ∧
        expanded line = spaces column ++ content ∧
        lineIndentation (spaces column ++ content) = (column, some content) ∧
        lineIndentation (String.join levels ++ line) =
          (column + tabWidth * levels.length, some content)) ∧
    ((∀ c ∈ line.toList, c = ' ' ∨ c = '\t') →
      lineIndentation line = (0, none) ∧
      (∀ column, lineIndentation (spaces column) = (0, none)) ∧
      lineIndentation (String.join levels ++ line) = (0, none)) := by
  have hjoin := isIndent_of_mem_join hlevels
  constructor
  · rintro ⟨c, hc, hspace, htab⟩
    have hblank : isBlankLine line = false := by
      rw [isBlankLine, List.all_eq_false]
      exact ⟨c, hc, fun h => (isIndent_iff.mp h).elim hspace htab⟩
    obtain ⟨indent, content, first, rfl, hindent, hhead, hfirst⟩ := exists_indent hblank
    have hother : first ≠ ' ' ∧ first ≠ '\t' := by
      rw [← not_or, ← isIndent_iff, hfirst]
      exact Bool.false_ne_true
    have hlevelled : ∀ c ∈ (String.join levels ++ indent).toList, isIndent c = true := by
      rw [String.toList_append]
      exact List.forall_mem_append.mpr ⟨hjoin, hindent⟩
    refine ⟨indent.toList.foldl advance 0, indent, content, first,
      lineIndentation_append hindent hhead hfirst, rfl, fun c hc => isIndent_iff.mp (hindent c hc),
      hhead, hother.1, hother.2, expanded_append hindent hhead hfirst, ?_, ?_⟩
    · rw [lineIndentation_append (isIndent_of_mem_spaces _) hhead hfirst, foldl_advance_spaces]
    · rw [← String.append_assoc, lineIndentation_append hlevelled hhead hfirst,
        String.toList_append, foldl_advance_join hlevels]
  · intro hblank
    have hline : ∀ c ∈ line.toList, isIndent c = true :=
      fun c hc => isIndent_iff.mpr (hblank c hc)
    refine ⟨lineIndentation_of_blank hline,
      fun column => lineIndentation_of_blank (isIndent_of_mem_spaces column),
      lineIndentation_of_blank ?_⟩
    rw [String.toList_append]
    exact List.forall_mem_append.mpr ⟨hjoin, hline⟩

/-- A tab after two spaces leads on by two columns.  Two levels in front add eight columns. -/
theorem lineIndentation_by_stops_mixed :
    (∀ level ∈ ["\t", "    "], level = spaces tabWidth ∨ level = "\t") ∧
    (∃ c ∈ "  \t x = 1".toList, c ≠ ' ' ∧ c ≠ '\t') ∧
    expanded "  \t x = 1" = "     x = 1" ∧
    lineIndentation "  \t x = 1" = (5, some "x = 1") ∧
    lineIndentation "     x = 1" = (5, some "x = 1") ∧
    lineIndentation "\t      \t x = 1" = (13, some "x = 1") ∧
    (∀ c ∈ " \t".toList, c = ' ' ∨ c = '\t') ∧
    lineIndentation "\t     \t" = (0, none) := by
  have hlevels : ∀ level ∈ ["\t", "    "], level = spaces tabWidth ∨ level = "\t" := by decide
  have htext : ∃ c ∈ "  \t x = 1".toList, c ≠ ' ' ∧ c ≠ '\t' := ⟨'x', by simp, by decide⟩
  have hblank : ∀ c ∈ " \t".toList, c = ' ' ∨ c = '\t' := by simp
  have hline : lineIndentation "  \t x = 1" = (5, some "x = 1") := by decide +kernel
  obtain ⟨column, indent, content, first, hmeasured, -, -, -, -, -, hexpanded, hspaces, hjoined⟩ :=
    (lineIndentation_by_stops "  \t x = 1" ["\t", "    "] hlevels).1 htext
  obtain ⟨rfl, rfl⟩ : 5 = column ∧ "x = 1" = content := by
    simpa using hline.symm.trans hmeasured
  exact ⟨hlevels, htext, hexpanded, hline, hspaces, hjoined, hblank,
    ((lineIndentation_by_stops " \t" ["\t", "    "] hlevels).2 hblank).2.2⟩

end SourceLayout.Text
