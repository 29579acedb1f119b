import SourceLayout.Fault

/-! A page takes texts and line breaks in order and keeps the lines they make.  A line gets its
margin with its first text, so a line without text stays empty; the cursor stands where the next
text would go. -/

namespace SourceLayout

/-- A place in the output: a line and a column, both from zero in a text. -/
structure Location where
  line : Int
  column : Int
deriving DecidableEq, Repr, Inhabited

namespace Location

/-- One place lies before another: on an earlier line, or on the same line at an earlier column. -/
def Before (a b : Location) : Prop := a.line < b.line ∨ a.line = b.line ∧ a.column < b.column

instance (a b : Location) : Decidable (a.Before b) :=
  inferInstanceAs (Decidable (_ ∨ _))

instance : LT Location := ⟨Before⟩

instance : LE Location := ⟨fun a b => a.Before b ∨ a = b⟩

instance (a b : Location) : Decidable (a < b) := inferInstanceAs (Decidable (a.Before b))

instance (a b : Location) : Decidable (a ≤ b) := inferInstanceAs (Decidable (a.Before b ∨ a = b))

end Location

/-- The page so far: the ended lines, latest first, the text of the open line with its margin, and
the indentation level of the open line. -/
structure Page where
  ended : List String := []
  openLine : String := ""
  level : Nat := 0
deriving DecidableEq, Repr, Inhabited

namespace Page

/-- The page without lines. -/
def blank : Page := {}

/-- The largest number of levels, characters or bytes that can be counted. -/
def countLimit : Nat := 0x7fffffffffffffff

/-- The margin of the open line: the indentation once a level, unless its levels, characters or
bytes cannot be counted. -/
def margin (indentation : String) (p : Page) : Except Fault String :=
  if countLimit < p.level then .error .levelTooLarge
  else if countLimit < indentation.length * p.level then .error .marginTooLong
  else if countLimit < Text.bytesFor indentation (indentation.length * p.level) then
    .error .marginTooLarge
  else .ok (Text.repeated p.level indentation)

/-- Where the next text would go. -/
def cursor (indentation : String) (p : Page) : Location :=
  { line := p.ended.length
    column :=
      if p.openLine.isEmpty then indentation.length * p.level else p.openLine.length }

/-- The page with a text on the open line. The first text that is not empty brings the margin. -/
def write (indentation text : String) (p : Page) : Except Fault Page :=
  if text.isEmpty then .ok p
  else if p.openLine.isEmpty then
    (p.margin indentation).map fun margin => { p with openLine := margin ++ text }
  else .ok { p with openLine := p.openLine ++ text }

/-- The page with the open line ended. -/
def endLine (p : Page) : Page := { p with ended := p.openLine :: p.ended, openLine := "" }

/-- The page with the open line ended and its level changed by `change`, unless that level is below
zero. -/
def breakLine (change : Int) (p : Page) : Except Fault Page :=
  let level := p.level + change
  if level < 0 then .error .levelBelowZero else .ok { p.endLine with level := level.toNat }

/-- The lines of the page, where an open line without text is none. -/
def lines (p : Page) : List String :=
  (if p.openLine.isEmpty then p.ended else p.openLine :: p.ended).reverse

@[simp] theorem write_empty (indentation : String) (p : Page) :
    p.write indentation "" = .ok p := rfl

/-- There is always room for the margin of a line without levels, which is empty. -/
theorem margin_of_level_eq_zero (indentation : String) {p : Page} (h : p.level = 0) :
    p.margin indentation = .ok "" := by
  have hbytes : ¬countLimit < Text.bytesFor indentation 0 :=
    Nat.not_lt.mpr (Nat.le_trans (Text.bytesFor_zero_le indentation) (by decide))
  have hempty : Text.repeated 0 indentation = "" := by simp [Text.repeated]
  rw [margin, h, Nat.mul_zero, if_neg (Nat.not_lt_zero _), if_neg (Nat.not_lt_zero _),
    if_neg hbytes, hempty]

end Page

end SourceLayout
