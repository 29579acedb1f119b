/-! Lines and their indentation. A text is cut at CR LF, CR and LF; the indentation of a line is the
column that its leading spaces and tabs reach, a tab leading to the next multiple of `tabWidth`. -/

namespace SourceLayout.Text

/-- The columns of one indentation level, and of a tab stop. -/
def tabWidth : Nat := 4

/-- A line break before the lines of a text, which then come after an empty first line. -/
def breakBefore (cut : List Char × List (List Char)) : List Char × List (List Char) :=
  ([], cut.1 :: cut.2)

/-- The first line of a text and the lines after it. -/
def cutLines : List Char → List Char × List (List Char)
  | [] => ([], [])
  | '\r' :: '\n' :: rest => breakBefore (cutLines rest)
  | '\r' :: rest => breakBefore (cutLines rest)
  | '\n' :: rest => breakBefore (cutLines rest)
  | c :: rest =>
    let cut := cutLines rest
    (c :: cut.1, cut.2)

/-- The text with every line break written as LF. -/
def normalizeBreaks : List Char → List Char
  | [] => []
  | '\r' :: '\n' :: rest => '\n' :: normalizeBreaks rest
  | '\r' :: rest => '\n' :: normalizeBreaks rest
  | c :: rest => c :: normalizeBreaks rest

/-- The first line of a text and the lines after it. -/
def lines (s : String) : String × List String :=
  let cut := cutLines s.toList
  (String.ofList cut.1, cut.2.map String.ofList)

/-- The column of the next tab stop. -/
def nextStop (column : Nat) : Nat := (column / tabWidth + 1) * tabWidth

/-- From `column` on, the column where the first character other than a space or a tab stands, and
the text from there; nothing when there is no such character. -/
def measureFrom (column : Nat) : List Char → Option (Nat × List Char)
  | [] => none
  | ' ' :: rest => measureFrom (column + 1) rest
  | '\t' :: rest => measureFrom (nextStop column) rest
  | c :: rest => some (column, c :: rest)

/-- The indentation column of a line and its text from there, or column zero and no text for a line
of spaces and tabs only. -/
def lineIndentation (line : String) : Nat × Option String :=
  match measureFrom 0 line.toList with
  | some (column, text) => (column, some (String.ofList text))
  | none => (0, none)

/-- The text written `count` times. The empty text stays empty, however large the count. -/
def repeated (count : Nat) (s : String) : String :=
  if s.isEmpty then "" else String.join (List.replicate count s)

/-! ### The room for a text -/

/-- The bytes for each character of a text whose widest character is one of `s`. -/
def charBytes (s : String) : Nat :=
  if s.toList.all (·.toNat < 0x100) then 1 else if s.toList.all (·.toNat < 0x10000) then 2 else 4

/-- The bytes for a text of so many characters, the widest of them one of `s`: a head, which is
shorter for ASCII, the characters, and one more that ends them. -/
def bytesFor (s : String) (count : Nat) : Nat :=
  (if s.toList.all (·.toNat < 0x80) then 48 else 72) + (count + 1) * charBytes s

/-- There is always room for the empty text. -/
theorem bytesFor_zero_le (s : String) : bytesFor s 0 ≤ 76 := by
  have hchar : charBytes s ≤ 4 := by
    unfold charBytes
    split
    · decide
    · split <;> decide
  unfold bytesFor
  split <;> omega

end SourceLayout.Text
