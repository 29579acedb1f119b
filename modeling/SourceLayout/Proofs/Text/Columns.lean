import Mathlib.Data.List.TakeWhile
import SourceLayout.Sheet

/-! Columns and the lines of a block.  The column of a line is where its first character other than
a space or a tab would stand, tabs leading to tab stops.  Laid out under a margin, a block keeps the
columns of its lines; without a margin, and indented with spaces, it comes out as it went in. -/

namespace SourceLayout.Text

/-- The character indents a line. -/
def isIndent (c : Char) : Bool := c == ' ' || c == '\t'

/-- The column after a character that indents: the next one, or the next tab stop. -/
def advance (column : Nat) (c : Char) : Nat := if c = '\t' then nextStop column else column + 1

/-- A line of spaces and tabs only. -/
def isBlankLine (line : String) : Bool := line.toList.all isIndent

/-- The column that the spaces and tabs lead to with which a line begins. -/
def columnOf (line : String) : Nat := (line.toList.takeWhile isIndent).foldl advance 0

/-- A line from its first character other than a space or a tab on. -/
def contentOf (line : String) : String := String.ofList (line.toList.dropWhile isIndent)

/-- This many spaces. -/
def spaces (n : Nat) : String := String.ofList (List.replicate n ' ')

/-- A line of a block after its first, under a margin of spaces. -/
def blockRow (margin : Nat) (line : String) : String :=
  if isBlankLine line then "" else spaces margin ++ spaces (columnOf line) ++ contentOf line

/-- The lines of a block under a margin of spaces. The first one stays as it is. -/
def blockRows (margin : Nat) (text : String) : List String :=
  (if (lines text).1 = "" then "" else spaces margin ++ (lines text).1) ::
    (lines text).2.map (blockRow margin)

/-! ### Columns -/

theorem measureFrom_eq (column : Nat) (cs : List Char) :
    measureFrom column cs =
      if cs.all isIndent then none
      else some ((cs.takeWhile isIndent).foldl advance column, cs.dropWhile isIndent) := by
  induction cs generalizing column with
  | nil => rfl
  | cons c cs ih =>
    by_cases hspace : c = ' '
    · subst hspace
      rw [measureFrom, ih]
      simp [isIndent, advance]
    by_cases htab : c = '\t'
    · subst htab
      rw [measureFrom, ih]
      simp [isIndent, advance]
    · have hindent : isIndent c = false := by simp [isIndent, hspace, htab]
      rw [measureFrom] <;> simp_all

/-- The indentation of a line is its column, and the text after it its content. -/
theorem lineIndentation_eq (line : String) :
    lineIndentation line =
      if isBlankLine line then (0, none) else (columnOf line, some (contentOf line)) := by
  rw [lineIndentation, measureFrom_eq, isBlankLine]
  cases line.toList.all isIndent <;> rfl

theorem contentOf_ne_empty {line : String} (h : isBlankLine line = false) : contentOf line ≠ "" := by
  intro hcontent
  have hrest : line.toList.dropWhile isIndent = [] := by
    have hlist := congrArg String.toList hcontent
    rwa [contentOf, String.toList_ofList] at hlist
  have hall : line.toList.all isIndent = true := by
    rw [List.all_eq_true]
    exact List.dropWhile_eq_nil_iff.mp hrest
  rw [isBlankLine, hall] at h
  cases h

/-! ### Spaces -/

theorem spaces_add (m n : Nat) : spaces (m + n) = spaces m ++ spaces n := by
  rw [spaces, ← List.replicate_append_replicate, String.ofList_append]
  rfl

/-- The default indentation once a level is made of spaces. -/
theorem repeated_defaultIndentation (level : Nat) :
    repeated level defaultIndentation = spaces (tabWidth * level) := by
  have hindentation : defaultIndentation = spaces tabWidth := by decide +kernel
  have hne : defaultIndentation.isEmpty = false := by decide +kernel
  rw [repeated, hne, hindentation]
  simp only [Bool.false_eq_true, if_false]
  induction level with
  | zero => rfl
  | succ level ih =>
    rw [List.replicate_succ, String.join_cons, ih, ← spaces_add, Nat.mul_succ, Nat.add_comm]

/-! ### A block as it went in -/

/-- Spaces lead to as many columns. -/
theorem foldl_advance_of_spaces {cs : List Char} (h : ∀ c ∈ cs, c = ' ') (column : Nat) :
    cs.foldl advance column = column + cs.length := by
  induction cs generalizing column with
  | nil => rfl
  | cons c cs ih =>
    rw [List.forall_mem_cons] at h
    rw [List.foldl_cons, ih h.2, advance, if_neg (by rw [h.1]; decide), List.length_cons]
    omega

/-- Without a margin, a line that is indented with spaces stays as it is. -/
theorem blockRow_zero {line : String} (hblank : isBlankLine line = true → line = "")
    (hspaces : ∀ c ∈ line.toList.takeWhile isIndent, c = ' ') : blockRow 0 line = line := by
  unfold blockRow
  cases h : isBlankLine line with
  | true => exact (hblank h).symm
  | false =>
    have hcolumn : columnOf line = (line.toList.takeWhile isIndent).length := by
      rw [columnOf, foldl_advance_of_spaces hspaces, Nat.zero_add]
    have hleading : List.replicate (line.toList.takeWhile isIndent).length ' ' =
        line.toList.takeWhile isIndent := (List.eq_replicate_of_mem hspaces).symm
    have hzero : spaces 0 = "" := rfl
    simp only [Bool.false_eq_true, if_false]
    rw [hzero, String.empty_append, hcolumn, spaces, hleading, contentOf, ← String.ofList_append,
      List.takeWhile_append_dropWhile, String.ofList_toList]

/-- A CR that no LF follows is a line break of its own. -/
theorem cutLines_cr {rest : List Char} (h : ∀ tail, rest ≠ '\n' :: tail) :
    cutLines ('\r' :: rest) = breakBefore (cutLines rest) := by
  rw [cutLines]
  exact h

theorem cutLines_cons {c : Char} (hcr : c ≠ '\r') (hlf : c ≠ '\n') (rest : List Char) :
    cutLines (c :: rest) = (c :: (cutLines rest).1, (cutLines rest).2) := by
  rw [cutLines] <;> simp [hcr, hlf]

/-- The lines of a text without CR are the text again when they are joined with LF. -/
theorem intercalate_cutLines {cs : List Char} (h : '\r' ∉ cs) :
    ['\n'].intercalate ((cutLines cs).1 :: (cutLines cs).2) = cs := by
  induction cs with
  | nil => rfl
  | cons c cs ih =>
    rw [List.mem_cons, not_or] at h
    by_cases hbreak : c = '\n'
    · subst hbreak
      have hcut : cutLines ('\n' :: cs) = breakBefore (cutLines cs) := by rw [cutLines]
      rw [hcut, breakBefore, List.intercalate_cons_cons, ih h.2]
      rfl
    · have hcr : c ≠ '\r' := Ne.symm h.1
      have hrest := ih h.2
      rw [cutLines_cons hcr hbreak]
      cases hlater : (cutLines cs).2 with
      | nil => simpa [hlater] using hrest
      | cons line later =>
        rw [hlater, List.intercalate_cons_cons] at hrest
        rw [List.intercalate_cons_cons, List.cons_append, List.cons_append, hrest]

/-- A block without CR is what its lines are without a margin, joined with LF, when its later lines
are indented with spaces only and hold nothing but spaces only if they are empty. -/
theorem intercalate_blockRows_zero {text : String} (hcr : '\r' ∉ text.toList)
    (hspaces : ∀ line ∈ (lines text).2, ∀ c ∈ line.toList.takeWhile isIndent, c = ' ')
    (hblank : ∀ line ∈ (lines text).2, isBlankLine line = true → line = "") :
    "\n".intercalate (blockRows 0 text) = text := by
  have hfirst : (if (lines text).1 = "" then "" else spaces 0 ++ (lines text).1) =
      (lines text).1 := by
    split
    · next h => exact h.symm
    · exact String.empty_append
  have hlater : (lines text).2.map (blockRow 0) = (lines text).2 := by
    refine (List.map_congr_left fun line hline => ?_).trans (List.map_id _)
    exact blockRow_zero (hblank line hline) (hspaces line hline)
  have htoList : ((lines text).1 :: (lines text).2).map String.toList =
      (cutLines text.toList).1 :: (cutLines text.toList).2 := by
    simp [lines, Function.comp_def]
  rw [blockRows, hfirst, hlater, ← String.toList_inj, String.toList_intercalate, htoList]
  exact intercalate_cutLines hcr

end SourceLayout.Text
